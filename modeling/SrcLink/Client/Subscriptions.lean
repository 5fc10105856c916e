import SrcLink.Client.FrameRule

/-! # Downlink subscriptions on the current connection

A subscription is lost with its connection, and what is sent while there is none
is dropped. `onWebSocketReady` subscribes again every downlink of the cache, the
replies subscribe and unsubscribe the others.
-/

namespace SrcLink.ApiClient

open Json Schema Schema.WebSocketMessage StepSystem

set_option autoImplicit false

/-- A downlink is subscribed and not unsubscribed since; the frames are newest first. -/
def SubscribedTo (uuid : String) (frames : List Frame) : Prop :=
  ∃ newer older, frames = newer ++ .subscribe "downlink" (uuidPayload uuid) :: older ∧
    .unsubscribe "downlink" (uuidPayload uuid) ∉ newer

theorem SubscribedTo.cons (uuid : String) (frames : List Frame) :
    SubscribedTo uuid (.subscribe "downlink" (uuidPayload uuid) :: frames) :=
  ⟨[], frames, rfl, List.not_mem_nil⟩

theorem SubscribedTo.append {uuid : String} {frames : List Frame} (h : SubscribedTo uuid frames)
    {new : List Frame} (hNew : .unsubscribe "downlink" (uuidPayload uuid) ∉ new) :
    SubscribedTo uuid (new ++ frames) := by
  obtain ⟨newer, older, rfl, hNewer⟩ := h
  refine ⟨new ++ newer, older, (List.append_assoc _ _ _).symm, fun hMem => ?_⟩
  exact (List.mem_append.mp hMem).elim hNew hNewer

/-- Only frames of the event are sent; the connection stays as it is. -/
structure Sent (frames : Frame → Prop) (s t : State) : Prop where
  sent : ∃ new, t.sent = new ++ s.sent ∧ ∀ f ∈ new, frames f
  valid : t.websocket.valid = s.websocket.valid
  started : s.websocket.started = true → t.websocket.started = true

namespace Sent

variable {frames : Frame → Prop} {s t u : State}

theorem same (hSent : t.sent = s.sent) (hWebSocket : t.websocket = s.websocket) :
    Sent frames s t :=
  ⟨⟨[], hSent, List.forall_mem_nil _⟩, by rw [hWebSocket], by rw [hWebSocket]; exact id⟩

theorem trans (h : Sent frames s t) (h' : Sent frames t u) : Sent frames s u where
  sent := by
    obtain ⟨new, hSent, hNew⟩ := h.sent
    obtain ⟨new', hSent', hNew'⟩ := h'.sent
    refine ⟨new' ++ new, by rw [hSent', hSent, List.append_assoc], fun f hf => ?_⟩
    exact (List.mem_append.mp hf).elim (hNew' f) (hNew f)
  valid := h'.valid.trans h.valid
  started := h'.started ∘ h.started

theorem request (s : State) (r : Request) : Sent frames s (request s r) := by
  unfold ApiClient.request
  split
  · exact same rfl rfl
  · exact same rfl rfl

theorem send {frame : Frame} (hFrame : frames frame) (s : State) :
    Sent frames s (send s frame) := by
  unfold ApiClient.send
  split
  · exact ⟨⟨[frame], rfl, List.forall_mem_singleton.mpr hFrame⟩, rfl, id⟩
  · exact same rfl rfl

theorem syncUplinkStatus (s : State) (force : Bool) :
    Sent frames s (syncUplinkStatus s force) := by
  unfold ApiClient.syncUplinkStatus
  split
  · exact same rfl rfl
  · split
    · have hStored : Sent frames s { s with uplinkStatus := nextUplinkStatus s } := same rfl rfl
      exact hStored.trans (request _ _)
    · exact same rfl rfl

theorem emit (s : State) (signal : Signal) : Sent frames s (emit s signal) := by
  unfold ApiClient.emit
  split
  · exact same rfl rfl
  · exact same rfl rfl

theorem frameRule (frames : Frame → Prop) : FrameRule frames True True (Sent frames) where
  refl _ := same rfl rfl
  trans := trans
  emit s signal _ := emit s signal
  send s _ hFrame := send hFrame s
  request s r _ := request s r
  refresh _ := same rfl rfl
  putUplink _ s _ := request s _
  syncUplinkStatus _ s force := syncUplinkStatus s force
  resources _ _ := same rfl rfl
  settings _ _ := same rfl rfl
  signalsBlocked _ _ := same rfl rfl
  start s := by
    refine ⟨⟨[], rfl, List.forall_mem_nil _⟩, ?_, ?_⟩
    · simp only [WebSocket.start]
      split <;> rfl
    · simp only [WebSocket.start]
      split
      · exact id
      · exact fun _ => rfl

theorem subscribedTo (h : Sent frames s t) {uuid : String}
    (hFrames : ¬frames (.unsubscribe "downlink" (uuidPayload uuid)))
    (hSubscribed : SubscribedTo uuid s.sent) : SubscribedTo uuid t.sent := by
  obtain ⟨new, hSent, hNew⟩ := h.sent
  rw [hSent]
  exact hSubscribed.append fun hMem => hFrames (hNew _ hMem)

end Sent

/-- Whether an event opens or closes the connection. -/
def Reconnects (s : State) : Event → Prop
  | .socketConnected | .socketDisconnected | .linkingFailed => True
  | .linkingSucceeded => s.linked = false
  | e => Relinks s e

theorem step_sent {s s' : State} {e : Event} (hStep : step s e = some s')
    (hKept : ¬Reconnects s e) : Sent (Sends s e) s s' := by
  have h := Sent.frameRule (Sends s e)
  cases e with
  | call c =>
    obtain rfl := Option.some.inj hStep
    cases c with
    | syncOnlineResources => exact h.foldl s fun t r _ => .request t r
    | syncUplinkStatus force => exact .syncUplinkStatus s force
    | terminate =>
      exact .trans (t := { s with terminating := true, resources.uplink := [] })
        (.same rfl rfl) (.request _ _)
    | refresh | countActiveOutputs | countStandByOutputs | setParticipantId | setPartyId =>
      exact .same rfl rfl
    | _ => exact .request s _
  | reply i error body =>
    obtain ⟨r, hRequest, rfl⟩ := Option.map_eq_some_iff.mp hStep
    have hFinished := h.onFinished hRequest (fun _ => id) (fun _ => trivial) hKept
      (t := { s with requests := s.requests.eraseIdx i }) rfl rfl
    exact .trans (t := { s with requests := s.requests.eraseIdx i }) (.same rfl rfl) hFinished
  | textMessage m =>
    obtain rfl := Option.some.inj hStep
    exact h.onTextMessageReceived (fun _ => id) (fun _ => trivial) fun _ => trivial
  | tokensStored linked refreshToken =>
    obtain rfl := Option.some.inj hStep
    exact .same rfl rfl
  | linkingSucceeded =>
    obtain rfl := Option.some.inj hStep
    -- without a link the signal would close the connection
    have hLinked : s.linked = true := by simpa [Reconnects] using hKept
    simp only [onO2LinkingSucceeded, if_pos hLinked]
    split
    · split
      · exact (Sent.request s _).trans (.emit _ _)
      · exact .emit s _
    · exact .same rfl rfl
  | _ => exact (hKept trivial).elim

section Downlink

variable {s s' : State} {e : Event} {uuid : String}

def Frame.Subscribes : Frame → Prop
  | .subscribe _ _ => True
  | .unsubscribe _ _ => False

@[simp] theorem request_sent (s : State) (r : Request) : (request s r).sent = s.sent := by
  unfold request
  split <;> rfl

@[simp] theorem emit_sent (s : State) (signal : Signal) : (emit s signal).sent = s.sent := by
  unfold emit
  split <;> rfl

theorem send_sent (hStarted : s.websocket.started = true) (hValid : s.websocket.valid = true)
    (frame : Frame) : (send s frame).sent = frame :: s.sent := by
  simp [send, hStarted, hValid]

theorem resumeDownlink_subscribed (hStarted : s.websocket.started = true)
    (hValid : s.websocket.valid = true) (reconnect : Bool) (uuid : String) :
    SubscribedTo uuid (resumeDownlink reconnect s uuid).sent := by
  have hSent := SubscribedTo.cons uuid s.sent
  rw [← send_sent hStarted hValid] at hSent
  unfold resumeDownlink
  split
  · rw [request_sent]
    exact hSent
  · exact hSent

theorem resumed_subscribed (hStarted : s.websocket.started = true)
    (hValid : s.websocket.valid = true) (reconnect : Bool) {uuids : List String}
    (hMem : uuid ∈ uuids) : SubscribedTo uuid (uuids.foldl (resumeDownlink reconnect) s).sent := by
  have h := Sent.frameRule Frame.Subscribes
  induction uuids generalizing s with
  | nil => cases hMem
  | cons first uuids ih =>
    have hFirst : Sent Frame.Subscribes s (resumeDownlink reconnect s first) :=
      h.resumeDownlink s reconnect trivial
    rcases List.mem_cons.mp hMem with rfl | hRest
    · have hSubscribed := resumeDownlink_subscribed hStarted hValid reconnect uuid
      have hLater : Sent Frame.Subscribes (resumeDownlink reconnect s uuid)
          (uuids.foldl (resumeDownlink reconnect) (resumeDownlink reconnect s uuid)) :=
        h.foldl _ fun t _ _ => h.resumeDownlink t reconnect trivial
      exact hLater.subscribedTo id hSubscribed
    · exact ih (hFirst.started hStarted) (hFirst.valid.trans hValid) hRest

theorem ready_subscribed (hStarted : s.websocket.started = true)
    (hValid : s.websocket.valid = true) (reconnect : Bool)
    (hCached : s.resources.downlinks.contains uuid = true) :
    SubscribedTo uuid (onWebSocketReady s reconnect).sent := by
  have h := Sent.frameRule Frame.Subscribes
  have hTopics : Sent Frame.Subscribes s
      ((readyTopics s reconnect).foldl (fun s topic => subscribe s topic.1 topic.2) s) :=
    h.subscribeTopics s fun _ _ => trivial
  have hKey : uuid ∈ s.resources.downlinks.keys := by
    rw [QMap.mem_keys_iff]
    exact Option.isSome_iff_ne_none.mp hCached
  have hResumed := resumed_subscribed (hTopics.started hStarted) (hTopics.valid.trans hValid)
    reconnect hKey
  simp only [onWebSocketReady, subscribeTopics_resources, emit_sent]
  split
  · refine Sent.subscribedTo (?_ : Sent Frame.Subscribes _ _) id hResumed
    exact Sent.syncUplinkStatus _ true
  · exact hResumed

theorem uuidPayload_injective {uuid uuid' : String} (h : uuidPayload uuid = uuidPayload uuid') :
    uuid = uuid' := by
  injection h with hHead
  injection (Prod.mk.inj hHead).2

theorem onDeleteDownlinkReply_removed (s : State) (uuid : String) :
    (onDeleteDownlinkReply s uuid .noError).resources.downlinks.contains uuid = false := by
  simp only [onDeleteDownlinkReply, ne_eq, not_true_eq_false, if_false]
  split
  · simp [QMap.contains, QMap.lookup_remove]
  · next hAbsent => simpa using hAbsent

theorem unsubscribed_removed (hStep : step s e = some s')
    (hSends : Sends s e (.unsubscribe "downlink" (uuidPayload uuid))) :
    s'.resources.downlinks.contains uuid = false := by
  generalize hFrame : Frame.unsubscribe "downlink" (uuidPayload uuid) = frame at hSends
  cases hSends with
  | deleteDownlink hRequest =>
    injection hFrame with _ hPayload
    obtain rfl := uuidPayload_injective hPayload
    rw [step, hRequest] at hStep
    obtain rfl := Option.some.inj hStep
    exact onDeleteDownlinkReply_removed _ uuid
  | deleteUplink =>
    injection hFrame with hName
    exact absurd hName (by decide)
  | _ => cases hFrame

/-- The downlink whose document a successful `putDownlink` stores. -/
def stored (s : State) : Event → List String
  | .reply position .noError body =>
    match s.requests[position]? with
    | some (.putDownlink sourceUuid _) =>
      if DownlinkInfo.isValid body.toObject then [sourceUuid] else []
    | _ => []
  | _ => []

theorem stored_subscribed (hStep : step s e = some s') (hStarted : s.websocket.started = true)
    (hValid : s.websocket.valid = true) (hStored : uuid ∈ stored s e) :
    SubscribedTo uuid s'.sent := by
  unfold stored at hStored
  split at hStored
  · next position body =>
    split at hStored
    · next sourceUuid params hRequest =>
      split at hStored
      · next hDocument =>
        obtain rfl := List.mem_singleton.mp hStored
        rw [step, hRequest] at hStep
        obtain rfl := Option.some.inj hStep
        have hSent (t : State) (signals : List Signal) : (emitAll t signals).sent = t.sent :=
          foldl_keeps State.sent emit_sent signals t
        simp only [onFinished, onPutDownlinkReply, onDownlinkReply, hDocument, ne_eq,
          not_true_eq_false, if_false, Bool.not_true, Bool.false_eq_true, List.foldl_cons,
          List.foldl_nil, hSent, subscribe]
        rw [send_sent]
        · exact .cons uuid _
        · exact hStarted
        · exact hValid
      · cases hStored
    · cases hStored
  · cases hStored

end Downlink

/-- A client with its current connection; `sent` starts anew with every connection. -/
structure Connection where
  client : State
  /-- the connection has delivered `ready` -/
  ready : Bool := false
  /-- stored by a successful `putDownlink` and not removed since -/
  put : List String := []

namespace Connection

/-- `QWebSocket` connects after `open` only, and only then delivers messages. -/
def possible (w : WebSocket) : Event → Bool
  | .socketConnected => w.started && !w.valid
  | .textMessage _ => w.valid
  | _ => true

def deliversReady : Event → Bool
  | .textMessage m => getEvent m = "ready"
  | _ => false

def forgetSent (e : Event) (s : State) : State :=
  match e with
  | .socketConnected => { s with sent := [] }
  | _ => s

def step (w : Connection) (e : Event) : Option Connection :=
  if possible w.client.websocket e then
    (ApiClient.step w.client e).map fun client =>
      { client := forgetSent e client
        ready := client.websocket.valid && (w.ready || deliversReady e)
        put := (stored w.client e ++ w.put).filter fun uuid =>
          client.resources.downlinks.contains uuid }
  else none

def Initial (w : Connection) : Prop := ∃ s, Constructed s ∧ w = { client := s }

structure Inv (w : Connection) : Prop where
  started : w.client.websocket.valid = true → w.client.websocket.started = true
  valid : w.ready = true → w.client.websocket.valid = true
  cached : ∀ uuid ∈ w.put, w.client.resources.downlinks.contains uuid = true
  subscribed : w.ready = true → ∀ uuid ∈ w.put, SubscribedTo uuid w.client.sent

variable {w w' : Connection} {e : Event}

theorem initial_inv (hInitial : Initial w) : Inv w := by
  obtain ⟨s, ⟨uuid, settings, linked, refreshToken, expired, rfl⟩, rfl⟩ := hInitial
  refine ⟨?_, (fun hReady => nomatch hReady), List.forall_mem_nil _, (fun hReady => nomatch hReady)⟩
  cases expired <;> cases refreshToken <;> exact fun hValid => nomatch hValid

@[simp] theorem forgetSent_websocket (e : Event) (s : State) :
    (forgetSent e s).websocket = s.websocket := by
  cases e <;> rfl

@[simp] theorem forgetSent_resources (e : Event) (s : State) :
    (forgetSent e s).resources = s.resources := by
  cases e <;> rfl

theorem forgetSent_kept {s : State} (hKept : ¬Reconnects s e) (client : State) :
    forgetSent e client = client := by
  cases e with
  | socketConnected => exact (hKept trivial).elim
  | _ => rfl

theorem step_kept (h : Inv w) (hStep : w.step e = some w') (hKept : ¬Reconnects w.client e) :
    Inv w' := by
  unfold step at hStep
  split at hStep
  · next hPossible =>
    obtain ⟨client, hClient, rfl⟩ := Option.map_eq_some_iff.mp hStep
    have hSent := step_sent hClient hKept
    rw [forgetSent_kept hKept]
    constructor
    · exact fun hValid => hSent.started (h.started (hSent.valid.symm.trans hValid))
    · exact fun hReady => (Bool.and_eq_true_iff.mp hReady).1
    · exact fun uuid hPut => (List.mem_filter.mp hPut).2
    · intro hReady uuid hPut
      obtain ⟨hValid, hDelivered⟩ := Bool.and_eq_true_iff.mp hReady
      obtain ⟨hMem, hCached⟩ := List.mem_filter.mp hPut
      have hOpen := hSent.valid.symm.trans hValid
      have hStarted := h.started hOpen
      -- stored just now, or stored before and still in the cache
      rcases List.mem_append.mp hMem with hStored | hEarlier
      · exact stored_subscribed hClient hStarted hOpen hStored
      · -- the connection was ready, or this message makes it so
        rcases Bool.or_eq_true_iff.mp hDelivered with hBefore | hNow
        · refine hSent.subscribedTo (fun hUnsubscribes => ?_) (h.subscribed hBefore uuid hEarlier)
          exact absurd hCached (by simp [unsubscribed_removed hClient hUnsubscribes])
        · cases e with
          | textMessage m =>
            obtain rfl := Option.some.inj hClient
            have hEvent : getEvent m = "ready" := by simpa [deliversReady] using hNow
            simp only [onTextMessageReceived, hEvent]
            exact ready_subscribed hStarted hOpen _ (h.cached uuid hEarlier)
          | _ => cases hNow
  · cases hStep

theorem stop_invalid {w : WebSocket} (hStarted : w.valid = true → w.started = true) :
    w.stop.valid = false := by
  unfold WebSocket.stop
  split
  · rfl
  · next hStopped => exact Bool.eq_false_of_not_eq_true fun hValid => hStopped (hStarted hValid)

theorem unlink_invalid {s : State}
    (hStarted : s.websocket.valid = true → s.websocket.started = true) :
    (unlink s).websocket.valid = false := by
  have hEmitted : Sent (fun _ => True) (clearOnlineResources
      { s with linked := false, refreshToken := false, websocket := s.websocket.stop })
      (unlink s) := Sent.emit _ .logoutSucceeded
  exact hEmitted.valid.trans (stop_invalid hStarted)

theorem step_closed {s s' : State} (hStep : ApiClient.step s e = some s')
    (hStarted : s.websocket.valid = true → s.websocket.started = true)
    (hReconnects : Reconnects s e) (hOpens : e ≠ .socketConnected) :
    s'.websocket.valid = false := by
  cases e with
  | socketConnected => exact (hOpens rfl).elim
  | socketDisconnected =>
    obtain rfl := Option.some.inj hStep
    simp only [onDisconnected]
    split
    · rfl
    · exact (Sent.emit _ _ : Sent (fun _ => True) _ _).valid
  | linkingFailed =>
    obtain rfl := Option.some.inj hStep
    exact (Sent.emit _ _ : Sent (fun _ => True) _ _).valid.trans (stop_invalid hStarted)
  | linkingSucceeded =>
    obtain rfl := Option.some.inj hStep
    have hUnlinked : s.linked = false := hReconnects
    rw [onO2LinkingSucceeded, if_neg (by simp [hUnlinked])]
    exact (Sent.emit _ _ : Sent (fun _ => True) _ _).valid.trans (stop_invalid hStarted)
  | reply i error body =>
    obtain ⟨parallel, hRequest⟩ := hReconnects
    rw [ApiClient.step, hRequest] at hStep
    obtain rfl := Option.some.inj hStep
    have hReply := (Sent.frameRule fun _ => True).onDeleteUplinkReply
      { s with requests := s.requests.eraseIdx i } error fun _ => trivial
    exact unlink_invalid fun hValid => hReply.started (hStarted (hReply.valid.symm.trans hValid))
  | _ => exact hReconnects.elim

/-- Right after a step that opens or closes the connection nothing has been delivered on it. -/
theorem inv_of_not_ready
    (hCached : ∀ uuid ∈ w.put, w.client.resources.downlinks.contains uuid = true)
    (hStarted : w.client.websocket.valid = true → w.client.websocket.started = true)
    (hReady : w.ready = false) : Inv w where
  started := hStarted
  valid hTrue := absurd hTrue (by simp [hReady])
  cached := hCached
  subscribed hTrue := absurd hTrue (by simp [hReady])

theorem step_inv (h : Inv w) (hStep : w.step e = some w') : Inv w' := by
  by_cases hReconnects : Reconnects w.client e
  · unfold step at hStep
    split at hStep
    · next hPossible =>
      obtain ⟨client, hClient, rfl⟩ := Option.map_eq_some_iff.mp hStep
      by_cases hOpens : e = .socketConnected
      · subst hOpens
        obtain rfl := Option.some.inj hClient
        obtain ⟨hStarted, hInvalid⟩ := Bool.and_eq_true_iff.mp hPossible
        have hReady : w.ready = false :=
          Bool.eq_false_of_not_eq_true fun hReady => by simp [h.valid hReady] at hInvalid
        refine inv_of_not_ready (fun uuid hPut => (List.mem_filter.mp hPut).2)
          (fun _ => hStarted) ?_
        simp [hReady, deliversReady]
      · have hInvalid := step_closed hClient h.started hReconnects hOpens
        refine inv_of_not_ready (fun uuid hPut => ?_) (fun hValid => ?_) ?_
        · simpa using (List.mem_filter.mp hPut).2
        · simp [hInvalid] at hValid
        · simp [hInvalid]
    · cases hStep
  · exact step_kept h hStep hReconnects

end Connection

open Connection

theorem subscribed_of_ready {w : Connection} (h : Reachable Connection.step anyStep Initial w)
    (_ : w.client.websocket.started = true) (hReady : w.ready = true) :
    ∀ uuid ∈ w.put, SubscribedTo uuid w.client.sent := by
  have hInv : Inv w := h.invariant (fun _ => initial_inv) fun _ _ _ h _ => step_inv h
  exact hInv.subscribed hReady

/-- A downlink is put before the client has started the WebSocket. -/
theorem subscribed_of_ready_resumed :
    ∃ w : Connection, w.put = ["source"] ∧ ∀ uuid ∈ w.put, SubscribedTo uuid w.client.sent := by
  let downlink : QJsonValue := .object [("connection", .object (connectionDocument "source"))]
  let events : List Event :=
    [.call (.putDownlink "source" []), .reply 1 .noError downlink,
      .reply 0 .noError .undefined, .reply 0 (.other 1) .undefined, .socketConnected,
      .textMessage [("event", .string "ready")]]
  have hInitial : Initial { client := freshClient } := ⟨_, freshClient_constructed, rfl⟩
  have hEnd : (run Connection.step { client := freshClient } events).map
      (fun w => (w.put, w.client.websocket.started, w.ready)) = some (["source"], true, true) := by
    decide +kernel
  obtain ⟨w, hRun, hFinal⟩ := Option.map_eq_some_iff.mp hEnd
  simp only [Prod.mk.injEq] at hFinal
  obtain ⟨hPut, hStarted, hReady⟩ := hFinal
  have hReached := reachable_of_run events (.start hInitial) hRun
  exact ⟨w, hPut, subscribed_of_ready hReached hStarted hReady⟩

end SrcLink.ApiClient
