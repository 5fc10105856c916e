import SrcLink.Client.ResourceUpdates

/-! # What the handlers do besides writing the caches

A handler emits signals, sends frames and issues requests. `Sends` lists the
frames of each event and `PutsUplink` and `SyncsUplink` the events that make the
client report its uplink status; a relation between states that these keep, and
that does not depend on the caches, holds across every handler.
-/

namespace SrcLink.ApiClient

open Json Json.TypedJsonArray Schema Schema.WebSocketMessage

set_option autoImplicit false

/-- Whether a signal reports a login or a logout. -/
def sessionSignal : Signal → Option Bool
  | .loginSucceeded => some true
  | .logoutSucceeded => some false
  | _ => none

def Quiet (signals : List Signal) : Prop := ∀ signal ∈ signals, sessionSignal signal = none

theorem Quiet.nil : Quiet [] := List.forall_mem_nil _

theorem Quiet.single {signal : Signal} (hOther : sessionSignal signal = none) : Quiet [signal] :=
  List.forall_mem_singleton.mpr hOther

theorem Quiet.append {signals : List Signal} (h : Quiet signals) {signal : Signal}
    (hOther : sessionSignal signal = none) : Quiet (signals ++ [signal]) :=
  List.forall_mem_append.mpr ⟨h, Quiet.single hOther⟩

@[simp] theorem emit_requests (s : State) (signal : Signal) :
    (emit s signal).requests = s.requests := by
  unfold emit
  split <;> rfl

theorem request_requests {s : State} (hToken : s.refreshToken = true) (r : Request) :
    (request s r).requests = s.requests ++ [r] := by
  rw [request, if_pos hToken]

@[simp] theorem emit_refreshToken (s : State) (signal : Signal) :
    (emit s signal).refreshToken = s.refreshToken := by
  unfold emit
  split <;> rfl

@[simp] theorem emit_uplinkStatus (s : State) (signal : Signal) :
    (emit s signal).uplinkStatus = s.uplinkStatus := by
  unfold emit
  split <;> rfl

@[simp] theorem request_refreshToken (s : State) (r : Request) :
    (request s r).refreshToken = s.refreshToken := by
  unfold request
  split <;> rfl

@[simp] theorem send_refreshToken (s : State) (frame : Frame) :
    (send s frame).refreshToken = s.refreshToken := by
  unfold send
  split <;> rfl

@[simp] theorem syncUplinkStatus_refreshToken (s : State) (force : Bool) :
    (syncUplinkStatus s force).refreshToken = s.refreshToken := by
  unfold syncUplinkStatus
  split
  · rfl
  · split
    · exact request_refreshToken _ _
    · rfl

/-- The frames that an event can send. -/
inductive Sends (s : State) : Event → Frame → Prop where
  | ready {m : QJsonObject} (hEvent : getEvent m = "ready") {topic : String × QJsonObject}
      (hTopic : topic ∈ readyTopics s (s.websocket.reconnectCount > 0)) :
      Sends s (.textMessage m) (.subscribe topic.1 topic.2)
  | resumed {m : QJsonObject} (hEvent : getEvent m = "ready") {sourceUuid : String}
      (hKnown : sourceUuid ∈ s.resources.downlinks.keys) :
      Sends s (.textMessage m) (.subscribe "downlink" (uuidPayload sourceUuid))
  | putUplink {i : Nat} {sentBody : QJsonObject} {startsWebSocket : Bool} {body : QJsonValue}
      (hRequest : s.requests[i]? = some (.putUplink sentBody startsWebSocket))
      (hValid : UplinkInfo.isValid body.toObject) :
      Sends s (.reply i .noError body) (.subscribe "uplink" (uuidPayload s.uuid))
  | putDownlink {i : Nat} {sourceUuid : String} {params : QJsonObject} {body : QJsonValue}
      (hRequest : s.requests[i]? = some (.putDownlink sourceUuid params))
      (hValid : DownlinkInfo.isValid body.toObject) :
      Sends s (.reply i .noError body) (.subscribe "downlink" (uuidPayload sourceUuid))
  | deleteUplink {i : Nat} {parallel unlinks : Bool} {body : QJsonValue}
      (hRequest : s.requests[i]? = some (.deleteUplink parallel unlinks)) :
      Sends s (.reply i .noError body) (.unsubscribe "uplink" (uuidPayload s.uuid))
  | deleteDownlink {i : Nat} {sourceUuid : String} {parallel : Bool} {body : QJsonValue}
      (hRequest : s.requests[i]? = some (.deleteDownlink sourceUuid parallel)) :
      Sends s (.reply i .noError body) (.unsubscribe "downlink" (uuidPayload sourceUuid))

/-- Whether an event runs `onO2LinkingSucceeded`. -/
def Relinks (s : State) : Event → Prop
  | .linkingSucceeded => True
  | .reply i _ _ => ∃ parallel, s.requests[i]? = some (.deleteUplink parallel true)
  | _ => False

/-- The body of a request that reports the uplink status. -/
def Request.uplinkBody : Request → Option QJsonObject
  | .putUplink body _ | .putUplinkStatus body => some body
  | _ => none

/-- The events that call `putUplink`, or `putUplinkStatus` outside of `syncUplinkStatus`. -/
inductive PutsUplink (s : State) : Event → Prop where
  | called {c : Call} (hCall : c = .putUplink ∨ c = .putUplinkStatus) : PutsUplink s (.call c)
  | session {i : Nat} {body : QJsonValue}
      (hRequest : s.requests[i]? = some (.accountInfo true)) :
      PutsUplink s (.reply i .noError body)
  | license {i : Nat} {startsSession : Bool} {body : QJsonValue}
      (hRequest : s.requests[i]? = some (.accountInfo startsSession))
      (hValid : AccountInfo.isValid body.toObject)
      (hChanges : licenseChanges s.resources.accountInfo
        (AccountInfo.getSubscriptionLicense body.toObject))
      (hLicense : SubscriptionLicense.getLicenseValid
        (AccountInfo.getSubscriptionLicense body.toObject)) :
      PutsUplink s (.reply i .noError body)
  | licenseMessage {m : QJsonObject} (hChange : IsChange m)
      (hName : getName m = "accounts.licenses") (hContinuous : getContinuous m = false)
      (hValid : SubscriptionLicense.isValid (getPayload m))
      (hChanges : licenseChanges s.resources.accountInfo (getPayload m))
      (hLicense : SubscriptionLicense.getLicenseValid (getPayload m)) :
      PutsUplink s (.textMessage m)
  | redeemed {i : Nat} {inviteCode : String} {body : QJsonValue}
      (hRequest : s.requests[i]? = some (.redeemInviteCode inviteCode))
      (hParticipants : MemberActivationResult.getParticipants body.toObject ≠ []) :
      PutsUplink s (.reply i .noError body)

/-- Whether an event runs `syncUplinkStatus` while there is an uplink. -/
def syncsUplink (s : State) : Event → Bool
  | .call (.syncUplinkStatus _) => !s.resources.uplink.isEmpty
  | .textMessage m =>
    getEvent m = "ready" && s.websocket.reconnectCount > 0 && !s.resources.uplink.isEmpty
  | _ => false

structure FrameRule (frames : Frame → Prop) (puts syncs : Prop) (R : State → State → Prop) :
    Prop where
  refl : ∀ s, R s s
  trans : ∀ {s t u}, R s t → R t u → R s u
  emit : ∀ s signal, sessionSignal signal = none → R s (emit s signal)
  send : ∀ s frame, frames frame → R s (send s frame)
  request : ∀ s r, r.uplinkBody = none → R s (request s r)
  refresh : ∀ s, R s (refresh s)
  putUplink : puts → ∀ s startsWebSocket, R s (putUplink s startsWebSocket)
  syncUplinkStatus : syncs → ∀ s force, R s (syncUplinkStatus s force)
  resources : ∀ s resources, R s { s with resources := resources }
  settings : ∀ s settings, R s { s with settings := settings }
  signalsBlocked : ∀ s block, R s { s with signalsBlocked := block }
  start : ∀ s, R s { s with websocket := s.websocket.start }

namespace FrameRule

variable {frames : Frame → Prop} {puts syncs : Prop} {R : State → State → Prop}

section Primitives

variable (h : FrameRule frames puts syncs R) (s : State)

include h

theorem emitAll {signals : List Signal} (hQuiet : Quiet signals) : R s (emitAll s signals) := by
  induction signals generalizing s with
  | nil => exact h.refl s
  | cons signal signals ih =>
    obtain ⟨hFirst, hRest⟩ := List.forall_mem_cons.mp hQuiet
    exact h.trans (h.emit s signal hFirst) (ih _ hRest)

theorem foldl {α : Type} {f : State → α → State} {xs : List α}
    (hKeeps : ∀ s, ∀ x ∈ xs, R s (f s x)) : R s (xs.foldl f s) := by
  induction xs generalizing s with
  | nil => exact h.refl s
  | cons x xs ih =>
    have hRest : ∀ s, ∀ y ∈ xs, R s (f s y) := fun s y hy => hKeeps s y (List.mem_cons_of_mem x hy)
    exact h.trans (hKeeps s x List.mem_cons_self) (ih _ hRest)

theorem subscribeTopics {topics : List (String × QJsonObject)}
    (hFrames : ∀ topic ∈ topics, frames (.subscribe topic.1 topic.2)) :
    R s (topics.foldl (fun s topic => subscribe s topic.1 topic.2) s) :=
  h.foldl s fun s topic hTopic => h.send s _ (hFrames topic hTopic)

theorem emitLicenseChanged {license : QJsonObject}
    (hPuts : s.signalsBlocked = false → SubscriptionLicense.getLicenseValid license → puts) :
    R s (emitLicenseChanged s license) := by
  simp only [ApiClient.emitLicenseChanged]
  split
  · exact h.refl s
  · next hSignals =>
    split
    · next hLicense =>
      have hPuts := hPuts (by simpa using hSignals) hLicense
      exact h.trans (h.emit s _ rfl) (h.putUplink hPuts _ false)
    · exact h.emit s _ rfl

theorem sync (force : Bool) (hSyncs : s.resources.uplink.isEmpty = false → syncs) :
    R s (ApiClient.syncUplinkStatus s force) := by
  cases hEmpty : s.resources.uplink.isEmpty with
  | true =>
    rw [ApiClient.syncUplinkStatus, if_pos hEmpty]
    exact h.refl s
  | false => exact h.syncUplinkStatus (hSyncs hEmpty) s force

end Primitives

section Replies

variable (h : FrameRule frames puts syncs R) (s : State) (error : NetworkError) (body : QJsonValue)

include h

theorem onAccountInfoReply
    (hPuts : error = .noError → AccountInfo.isValid body.toObject →
      licenseChanges s.resources.accountInfo (AccountInfo.getSubscriptionLicense body.toObject) →
      SubscriptionLicense.getLicenseValid (AccountInfo.getSubscriptionLicense body.toObject) →
      puts) :
    R s (onAccountInfoReply s error body) := by
  simp only [ApiClient.onAccountInfoReply]
  split
  · exact h.emit s _ rfl
  · next hError =>
    split
    · exact h.emit s _ rfl
    · next hValid =>
      have hStored := h.trans (h.resources s { s.resources with accountInfo := body.toObject })
        (h.emit _ (.accountInfoReady body.toObject) rfl)
      split
      · next hChanges =>
        have hPuts := hPuts (not_not.mp hError) (by simpa using hValid) hChanges
        exact h.trans hStored (h.emitLicenseChanged _ fun _ => hPuts)
      · exact hStored

theorem onPartiesReply : R s (onPartiesReply s error body) := by
  simp only [ApiClient.onPartiesReply]
  split
  · exact h.emit s _ rfl
  · split
    · exact h.emit s _ rfl
    · have hStored := h.resources s { s.resources with parties := body.toArray }
      refine h.trans ?_ (h.emit _ _ rfl)
      split
      · exact h.trans hStored (h.settings _ _)
      · exact hStored

theorem onListReply (isValid : QJsonObject → Bool) (store : Resources → QJsonArray → Resources)
    {ready : QJsonArray → Signal} {failed : Signal}
    (hReady : ∀ items, sessionSignal (ready items) = none) (hFailed : sessionSignal failed = none) :
    R s (onListReply isValid store ready failed s error body) := by
  simp only [ApiClient.onListReply]
  split
  · exact h.emit s _ hFailed
  · split
    · exact h.emit s _ hFailed
    · exact h.trans (h.resources s _) (h.emit _ _ (hReady _))

theorem onUplinkReply {failed : NetworkError → List Signal}
    {succeeded : QJsonObject → List Signal} {topics : List (String × QJsonObject)}
    (hFailed : ∀ error, Quiet (failed error)) (hSucceeded : ∀ uplink, Quiet (succeeded uplink))
    (hFrames : error = .noError → UplinkInfo.isValid body.toObject →
      ∀ topic ∈ topics, frames (.subscribe topic.1 topic.2)) :
    R s (onUplinkReply failed succeeded topics s error body) := by
  simp only [ApiClient.onUplinkReply]
  split
  · exact h.refl s
  · split
    · exact h.emitAll s ((hFailed _).append rfl)
    · next hError =>
      split
      · exact h.emitAll s ((hFailed _).append rfl)
      · next hValid =>
        have hTopics := hFrames (not_not.mp hError) (by simpa using hValid)
        have hStored := h.trans (h.resources s { s.resources with uplink := body.toObject })
          (h.subscribeTopics _ hTopics)
        exact h.trans hStored (h.emitAll _ ((hSucceeded _).append rfl))

theorem onDownlinkReply {failed : List Signal} {succeeded : QJsonObject → List Signal}
    {topics : List (String × QJsonObject)} (sourceUuid : String) (hFailed : Quiet failed)
    (hSucceeded : ∀ downlink, Quiet (succeeded downlink))
    (hFrames : error = .noError → DownlinkInfo.isValid body.toObject →
      ∀ topic ∈ topics, frames (.subscribe topic.1 topic.2)) :
    R s (onDownlinkReply failed succeeded topics s sourceUuid error body) := by
  simp only [ApiClient.onDownlinkReply]
  split
  · exact h.emitAll s (hFailed.append rfl)
  · next hError =>
    split
    · exact h.emitAll s (hFailed.append rfl)
    · next hValid =>
      have hTopics := hFrames (not_not.mp hError) (by simpa using hValid)
      have hStored := h.trans (h.resources s { s.resources with
        downlinks := s.resources.downlinks.insert sourceUuid body.toObject })
        (h.subscribeTopics _ hTopics)
      exact h.trans hStored (h.emitAll _ ((hSucceeded _).append rfl))

theorem onDeleteDownlinkReply (sourceUuid : String)
    (hFrames : error = .noError → frames (.unsubscribe "downlink" (uuidPayload sourceUuid))) :
    R s (onDeleteDownlinkReply s sourceUuid error) := by
  simp only [ApiClient.onDeleteDownlinkReply]
  split
  · exact h.emit s _ rfl
  · next hError =>
    have hSent := h.send s _ (hFrames (not_not.mp hError))
    split
    · exact h.trans hSent (h.trans (h.resources _ _) (h.emit _ _ rfl))
    · exact hSent

theorem onDeleteUplinkReply
    (hFrames : error = .noError → frames (.unsubscribe "uplink" (uuidPayload s.uuid))) :
    R s (onDeleteUplinkReply s error) := by
  simp only [ApiClient.onDeleteUplinkReply]
  split
  · exact h.emit s _ rfl
  · next hError =>
    have hSent := h.send s _ (hFrames (not_not.mp hError))
    exact h.trans hSent (h.trans (h.resources _ _) (h.emit _ _ rfl))

theorem onRedeemInviteCodeReply (inviteCode : String)
    (hPuts : error = .noError → MemberActivationResult.getParticipants body.toObject ≠ [] → puts) :
    R s (onRedeemInviteCodeReply s inviteCode error body) := by
  have hQuiet (result : QJsonObject) (participants : QJsonArray) :
      Quiet [.redeemInviteCodeSucceeded result, .participantsReady participants] :=
    List.forall_mem_cons.mpr ⟨rfl, Quiet.single rfl⟩
  simp only [ApiClient.onRedeemInviteCodeReply]
  split
  · exact h.emit s _ rfl
  · next hError =>
    have hStored := h.resources s { s.resources with
      participants := mergeParticipants s.resources.participants
        (values (MemberActivationResult.getParticipants body.toObject)) }
    refine h.trans ?_ (h.emitAll _ (hQuiet _ _))
    split
    · exact hStored
    · next participant rest hRedeemed =>
      have hSome : MemberActivationResult.getParticipants body.toObject ≠ [] := by
        intro hNone
        rw [hNone] at hRedeemed
        cases hRedeemed
      have hPuts := hPuts (not_not.mp hError) hSome
      exact h.trans hStored (h.trans (h.settings _ _) (h.putUplink hPuts _ false))

end Replies

section Messages

variable (h : FrameRule frames puts syncs R) (s : State)

include h

theorem collectionChanged (k : Kind) (id : String) (payload : QJsonObject) :
    R s (collectionChanged k.collection s id payload) := by
  simp only [ApiClient.collectionChanged]
  split
  · exact h.refl s
  · cases k <;> exact h.trans (h.resources s _) (h.emit _ _ rfl)

theorem collectionRemoved (k : Kind) (id : String) :
    R s (collectionRemoved k.collection s id) := by
  simp only [ApiClient.collectionRemoved]
  split
  · cases k <;> exact h.trans (h.resources s _) (h.emit _ _ rfl)
  · exact h.refl s

theorem fieldChanged {f : Field} (hReady : ∀ r, sessionSignal (f.ready r) = none)
    (payload : QJsonObject) : R s (fieldChanged f s payload) := by
  simp only [ApiClient.fieldChanged]
  split
  · exact h.refl s
  · exact h.trans (h.resources s _) (h.emit _ _ (hReady _))

theorem uplinkFieldRemoved (field : String) (fieldId : QJsonObject → String) (id : String) :
    R s (uplinkFieldRemoved field fieldId s id) := by
  simp only [ApiClient.uplinkFieldRemoved]
  split
  · exact h.trans (h.resources s _) (h.emit _ _ rfl)
  · exact h.refl s

theorem dataChanged (name id : String) (payload : QJsonObject)
    (hPuts : name = "accounts.licenses" → s.signalsBlocked = false →
      SubscriptionLicense.isValid payload → licenseChanges s.resources.accountInfo payload →
      SubscriptionLicense.getLicenseValid payload → puts) :
    R s (dataChanged s name id payload) := by
  unfold ApiClient.dataChanged
  split
  · exact h.fieldChanged s (fun _ => rfl) payload
  · exact h.fieldChanged s (fun _ => rfl) payload
  · exact h.collectionChanged s .uplinkConnections id payload
  · simp only [downlinkConnectionChanged]
    split
    · exact h.refl s
    · exact h.trans (h.resources s _) (h.emit _ _ rfl)
  · exact h.collectionChanged s .stages id payload
  · exact h.collectionChanged s .participants id payload
  · exact h.fieldChanged s (fun _ => rfl) payload
  · have hField := h.fieldChanged s (f := .subscriptionLicense) (fun _ => rfl) payload
    have hSignals : (ApiClient.fieldChanged .subscriptionLicense s payload).signalsBlocked =
        s.signalsBlocked := by
      simp only [ApiClient.fieldChanged, ApiClient.emit]
      split
      · rfl
      · split <;> rfl
    simp only [subscriptionLicenseChanged]
    split
    · next hBoth =>
      obtain ⟨hValid, hChanges⟩ := Bool.and_eq_true_iff.mp hBoth
      refine h.trans hField (h.emitLicenseChanged _ fun hOpen => ?_)
      exact hPuts rfl (hSignals.symm.trans hOpen) hValid hChanges
    · exact hField
  · exact h.fieldChanged s (fun _ => rfl) payload
  · exact h.collectionChanged s .wsPortals id payload
  · exact h.refl s

theorem dataRemoved (name id : String) : R s (dataRemoved s name id) := by
  unfold ApiClient.dataRemoved
  split
  · exact h.uplinkFieldRemoved s _ _ id
  · exact h.uplinkFieldRemoved s _ _ id
  · exact h.collectionRemoved s .uplinkConnections id
  · simp only [downlinkConnectionRemoved]
    split
    · exact h.trans (h.resources s _) (h.emit _ _ rfl)
    · exact h.refl s
  · exact h.collectionRemoved s .stages id
  · exact h.collectionRemoved s .participants id
  · exact h.request s _ rfl
  · exact h.collectionRemoved s .wsPortals id
  · exact h.refl s

theorem blockingSignals (block : Bool) {body : State → State}
    (hBody : R { s with signalsBlocked := block } (body { s with signalsBlocked := block })) :
    R s (blockingSignals s block body) :=
  h.trans (h.signalsBlocked s block) (h.trans hBody (h.signalsBlocked _ false))

theorem resumeDownlink (reconnect : Bool) {sourceUuid : String}
    (hFrame : frames (.subscribe "downlink" (uuidPayload sourceUuid))) :
    R s (resumeDownlink reconnect s sourceUuid) := by
  have hSent := h.send s _ hFrame
  simp only [ApiClient.resumeDownlink]
  split
  · exact h.trans hSent (h.request _ _ rfl)
  · exact hSent

theorem onWebSocketReady (reconnect : Bool)
    (hTopics : ∀ topic ∈ readyTopics s reconnect, frames (.subscribe topic.1 topic.2))
    (hDownlinks : ∀ uuid ∈ s.resources.downlinks.keys,
      frames (.subscribe "downlink" (uuidPayload uuid)))
    (hSyncs : reconnect → s.resources.uplink.isEmpty = false → syncs) :
    R s (onWebSocketReady s reconnect) := by
  have hResumed := h.trans (h.subscribeTopics s hTopics)
    (h.foldl (f := ApiClient.resumeDownlink reconnect) _ fun t uuid hKnown =>
      h.resumeDownlink t reconnect (hDownlinks uuid hKnown))
  have hResources (t : State) (uuids : List String) :
      (uuids.foldl (ApiClient.resumeDownlink reconnect) t).resources = t.resources :=
    foldl_keeps State.resources (resumeDownlink_resources reconnect) uuids t
  simp only [ApiClient.onWebSocketReady, subscribeTopics_resources]
  refine h.trans ?_ (h.emit _ _ rfl)
  split
  · next hReconnect =>
    refine h.trans hResumed (h.sync _ true fun hUplink => hSyncs hReconnect ?_)
    rwa [hResources, subscribeTopics_resources] at hUplink
  · exact hResumed

end Messages

section Events

variable {s : State}

theorem onFinished {i : Nat} {r : Request} {error : NetworkError} {body : QJsonValue}
    (h : FrameRule frames puts syncs R) (hRequest : s.requests[i]? = some r)
    (hSends : ∀ f, Sends s (.reply i error body) f → frames f)
    (hPuts : PutsUplink s (.reply i error body) → puts)
    (hRelinks : ¬Relinks s (.reply i error body)) {t : State} (hUuid : t.uuid = s.uuid)
    (hResources : t.resources = s.resources) : R t (onFinished t r error body) := by
  cases r with
  | refresh => exact h.refl t
  | accountInfo startsSession =>
    have hReply : R t (ApiClient.onAccountInfoReply t error body) := by
      refine h.onAccountInfoReply t error body fun hError hValid hChanges hLicense => ?_
      subst hError
      exact hPuts (.license hRequest hValid (hResources ▸ hChanges) hLicense)
    simp only [ApiClient.onFinished]
    split
    · next hStarts =>
      obtain ⟨rfl, hError⟩ := Bool.and_eq_true_iff.mp hStarts
      obtain rfl := of_decide_eq_true hError
      -- behind the reply slot, the session puts the uplink
      exact h.trans hReply (h.putUplink (hPuts (.session hRequest)) _ true)
    · exact hReply
  | parties => exact h.onPartiesReply t error body
  | partyEvents =>
    rw [ApiClient.onFinished, onPartyEventsReply]
    exact h.onListReply t error body _ _ (fun _ => rfl) rfl
  | participants =>
    rw [ApiClient.onFinished, onParticipantsReply]
    exact h.onListReply t error body _ _ (fun _ => rfl) rfl
  | stages =>
    rw [ApiClient.onFinished, onStagesReply]
    exact h.onListReply t error body _ _ (fun _ => rfl) rfl
  | uplink =>
    exact h.onUplinkReply t error body (fun _ => .nil) (fun _ => .nil)
      fun _ _ => List.forall_mem_nil _
  | putUplink sentBody startsWebSocket =>
    have hReply : R t (onPutUplinkReply t error body) := by
      refine h.onUplinkReply t error body (fun _ => .single rfl) (fun _ => .single rfl)
        fun hError hValid => List.forall_mem_singleton.mpr ?_
      subst hError
      exact hUuid ▸ hSends _ (.putUplink hRequest hValid)
    simp only [ApiClient.onFinished]
    split
    · -- whatever the reply, the session starts the WebSocket
      exact h.trans hReply (h.start _)
    · exact hReply
  | putUplinkStatus sentBody =>
    exact h.onUplinkReply t error body (fun _ => .single rfl) (fun _ => .single rfl)
      fun _ _ => List.forall_mem_nil _
  | downlink sourceUuid =>
    exact h.onDownlinkReply t error body sourceUuid .nil (fun _ => .nil)
      fun _ _ => List.forall_mem_nil _
  | putDownlink sourceUuid params =>
    refine h.onDownlinkReply t error body sourceUuid (.single rfl) (fun _ => .single rfl)
      fun hError hValid => List.forall_mem_singleton.mpr ?_
    subst hError
    exact hSends _ (.putDownlink hRequest hValid)
  | putDownlinkStatus sourceUuid =>
    exact h.onDownlinkReply t error body sourceUuid (.single rfl) (fun _ => .single rfl)
      fun _ _ => List.forall_mem_nil _
  | deleteDownlink sourceUuid parallel =>
    refine h.onDeleteDownlinkReply t error sourceUuid fun hError => ?_
    subst hError
    exact hSends _ (.deleteDownlink hRequest)
  | deleteUplink parallel unlinks =>
    have hReply : R t (ApiClient.onDeleteUplinkReply t error) := by
      refine h.onDeleteUplinkReply t error fun hError => ?_
      subst hError
      exact hUuid ▸ hSends _ (.deleteUplink hRequest)
    cases unlinks with
    | true => exact (hRelinks ⟨parallel, hRequest⟩).elim
    | false => exact hReply
  | redeemInviteCode inviteCode =>
    refine h.onRedeemInviteCodeReply t error body inviteCode fun hError hParticipants => ?_
    subst hError
    exact hPuts (.redeemed hRequest hParticipants)

theorem onTextMessageReceived (h : FrameRule frames puts syncs R) {m : QJsonObject}
    (hSends : ∀ f, Sends s (.textMessage m) f → frames f)
    (hPuts : PutsUplink s (.textMessage m) → puts)
    (hSyncs : syncsUplink s (.textMessage m) → syncs) :
    R s (onTextMessageReceived s m) := by
  have hChanged (hChange : IsChange m) : R s (onWebSocketDataChanged s m) := by
    refine h.blockingSignals s _ (h.dataChanged _ _ _ _ ?_)
    exact fun hName hSignals hValid hChanges hLicense =>
      hPuts (.licenseMessage hChange hName hSignals hValid hChanges hLicense)
  simp only [ApiClient.onTextMessageReceived]
  split
  · next hEvent =>
    refine h.onWebSocketReady s _ (fun topic hTopic => hSends _ (.ready hEvent hTopic))
      (fun uuid hKnown => hSends _ (.resumed hEvent hKnown)) fun hReconnect hUplink => hSyncs ?_
    simpa [syncsUplink, hEvent, hUplink] using hReconnect
  · simp only [onWebSocketAborted]
    split
    · exact h.refresh s
    · exact h.refl s
  · next hEvent => exact hChanged (.inl hEvent)
  · next hEvent => exact hChanged (.inr hEvent)
  · exact h.blockingSignals s _ (h.dataRemoved _ _ _)
  all_goals first | exact h.emit s _ rfl | exact h.refl s

end Events

end FrameRule

end SrcLink.ApiClient
