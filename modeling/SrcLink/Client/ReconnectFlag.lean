import SrcLink.Client.ListReplies
import SrcLink.Client.Subscriptions

/-! # What the client reports when its connection is ready

The WebSocket client tells a first connection from a later one by a counter of the
connections it has lost since it was started; an attempt that fails counts like a
loss. The flag is right as long as losses and ready messages alternate.
-/

namespace SrcLink.ApiClient

open Json Schema.WebSocketMessage StepSystem

set_option autoImplicit false

/-- What a handler that neither emits nor touches the socket leaves alone. -/
def socketView (s : State) : WebSocket × List Signal := (s.websocket, s.signals)

section SocketView

variable (s : State)

@[simp] theorem request_socketView (r : Request) : socketView (request s r) = socketView s := by
  unfold request
  split <;> rfl

@[simp] theorem send_socketView (frame : Frame) : socketView (send s frame) = socketView s := by
  unfold send
  split <;> rfl

@[simp] theorem syncUplinkStatus_socketView (force : Bool) :
    socketView (syncUplinkStatus s force) = socketView s := by
  unfold syncUplinkStatus
  split
  · rfl
  · split
    · exact request_socketView _ _
    · rfl

theorem resumeDownlink_socketView (reconnect : Bool) (s : State) (sourceUuid : String) :
    socketView (resumeDownlink reconnect s sourceUuid) = socketView s := by
  simp only [resumeDownlink, subscribe]
  split <;> simp

/-- The state just before the handler emits `ready`. -/
def resumed (reconnect : Bool) : State :=
  let s := (readyTopics s reconnect).foldl (fun s topic => subscribe s topic.1 topic.2) s
  let s := s.resources.downlinks.keys.foldl (resumeDownlink reconnect) s
  if reconnect then syncUplinkStatus s true else s

theorem resumed_socketView (reconnect : Bool) :
    socketView (resumed s reconnect) = socketView s := by
  have hTopics : socketView ((readyTopics s reconnect).foldl
      (fun s topic => subscribe s topic.1 topic.2) s) = socketView s :=
    foldl_keeps socketView (fun s _ => send_socketView s _) _ s
  have hDownlinks (t : State) (uuids : List String) :
      socketView (uuids.foldl (resumeDownlink reconnect) t) = socketView t :=
    foldl_keeps socketView (resumeDownlink_socketView reconnect) uuids t
  simp only [resumed]
  split
  · rw [syncUplinkStatus_socketView, hDownlinks, hTopics]
  · rw [hDownlinks, hTopics]

theorem onWebSocketReady_eq (reconnect : Bool) :
    onWebSocketReady s reconnect = emit (resumed s reconnect) (.ready reconnect) := rfl

end SocketView

def uplinkFrame (uuid : String) (initialData : Bool) : Frame :=
  .subscribe "uplink" [("uuid", .string uuid), ("initial_data", .bool initialData)]

theorem subscribeTopics_sent {s : State} (hStarted : s.websocket.started = true)
    (hValid : s.websocket.valid = true) (topics : List (String × QJsonObject)) :
    (topics.foldl (fun s topic => subscribe s topic.1 topic.2) s).sent =
      (topics.map fun topic => Frame.subscribe topic.1 topic.2).reverse ++ s.sent := by
  induction topics generalizing s with
  | nil => rfl
  | cons topic topics ih =>
    have hView := send_socketView s (.subscribe topic.1 topic.2)
    have hSocket : (subscribe s topic.1 topic.2).websocket = s.websocket := congrArg Prod.fst hView
    have hSent : (subscribe s topic.1 topic.2).sent = .subscribe topic.1 topic.2 :: s.sent :=
      send_sent hStarted hValid _
    rw [List.foldl_cons, ih (by rw [hSocket, hStarted]) (by rw [hSocket, hValid]), hSent,
      List.map_cons, List.reverse_cons, List.append_assoc]
    rfl

/-- The `ready` signal and the subscription of the uplink that an open connection gets. -/
structure ReportsReady (earlier : Bool) (s s' : State) : Prop where
  signal : s'.signals = .ready earlier :: s.signals
  uplink : s.websocket.started = true → s.websocket.valid = true →
    ∃ new, s'.sent = new ++ s.sent ∧ uplinkFrame s.uuid (!earlier) ∈ new

theorem onWebSocketReady_reports {s : State} (hOpen : s.signalsBlocked = false)
    (reconnect : Bool) : ReportsReady reconnect s (onWebSocketReady s reconnect) := by
  constructor
  · have hView := resumed_socketView s reconnect
    have hSignals : (resumed s reconnect).signals = s.signals := congrArg Prod.snd hView
    have hBlocked := onWebSocketReady_signalsBlocked s reconnect
    rw [onWebSocketReady_eq, emit_signalsBlocked, hOpen] at hBlocked
    rw [onWebSocketReady_eq, emit_open hBlocked, hSignals]
  · intro hStarted hValid
    have hTopics := subscribeTopics_sent hStarted hValid (readyTopics s reconnect)
    have hRest : Sent (fun _ => True)
        ((readyTopics s reconnect).foldl (fun s topic => subscribe s topic.1 topic.2) s)
        (resumed s reconnect) := by
      have h := Sent.frameRule fun _ => True
      have hDownlinks (t : State) : Sent (fun _ => True) t
          (t.resources.downlinks.keys.foldl (resumeDownlink reconnect) t) :=
        h.foldl t fun s uuid _ => h.resumeDownlink s reconnect trivial
      simp only [resumed]
      split
      · exact (hDownlinks _).trans (.syncUplinkStatus _ true)
      · exact hDownlinks _
    obtain ⟨new, hSent, -⟩ := hRest.sent
    refine ⟨new ++ ((readyTopics s reconnect).map fun topic =>
      Frame.subscribe topic.1 topic.2).reverse, ?_, ?_⟩
    · rw [onWebSocketReady_eq, emit_sent, hSent, hTopics, List.append_assoc]
    · exact List.mem_append_right _ (List.mem_reverse.mpr (List.mem_map.mpr
        ⟨("uplink", _), List.mem_cons_of_mem _ List.mem_cons_self, rfl⟩))

inductive SocketEvent where
  | start
  | stop
  | connected
  /-- a connection was lost, or an attempt has failed -/
  | disconnected
  | ready (message : QJsonObject)
  /-- whatever else the client does -/
  | other (client : State)

/-- The client beside what has happened since the socket was last started. -/
structure Session where
  client : State
  /-- a `ready` message has arrived -/
  readySeen : Bool := false
  /-- a connection was lost, or an attempt has failed -/
  lostSeen : Bool := false

def sessionStep (f : Session) : SocketEvent → Option Session
  | .start =>
    let client := { f.client with websocket := f.client.websocket.start }
    some (if f.client.websocket.started then { f with client := client } else { client := client })
  | .stop => some { f with client.websocket := f.client.websocket.stop }
  | .connected => some { f with client.websocket.valid := true }
  | .disconnected =>
    some {
      f with
      client := onDisconnected f.client
      lostSeen := f.lostSeen || f.client.websocket.started }
  | .ready m =>
    if getEvent m = "ready" then
      some { f with client := onTextMessageReceived f.client m, readySeen := true }
    else none
  | .other client =>
    some { f with
      client := { client with websocket := f.client.websocket, signalsBlocked := false } }

/-- The counter counts what `lostSeen` remembers, and the signals are not blocked. -/
structure Counted (f : Session) : Prop where
  unblocked : f.client.signalsBlocked = false
  count : 0 < f.client.websocket.reconnectCount ↔ f.lostSeen = true

theorem readyMessage_eq {m : QJsonObject} (hReady : getEvent m = "ready") (s : State) :
    onTextMessageReceived s m = onWebSocketReady s (s.websocket.reconnectCount > 0) := by
  simp only [onTextMessageReceived, hReady]

theorem counted_step {f f' : Session} {e : SocketEvent} (h : Counted f)
    (hStep : sessionStep f e = some f') : Counted f' := by
  cases e with
  | start =>
    obtain rfl := Option.some.inj hStep
    cases hStarted : f.client.websocket.started with
    | true =>
      -- a socket that is started goes on counting
      have hSame : f.client.websocket.start = f.client.websocket := by
        rw [WebSocket.start, if_pos hStarted]
      rw [hSame]
      exact h
    | false => exact ⟨h.unblocked, by simp [WebSocket.start, hStarted]⟩
  | stop =>
    obtain rfl := Option.some.inj hStep
    refine ⟨h.unblocked, ?_⟩
    simp only [WebSocket.stop]
    split <;> exact h.count
  | connected =>
    obtain rfl := Option.some.inj hStep
    exact ⟨h.unblocked, h.count⟩
  | disconnected =>
    obtain rfl := Option.some.inj hStep
    refine ⟨(onDisconnected_signalsBlocked f.client).trans h.unblocked, ?_⟩
    cases hStarted : f.client.websocket.started with
    | true => simp [onDisconnected, hStarted]
    | false => simpa [onDisconnected, hStarted, emit_open, h.unblocked] using h.count
  | ready m =>
    simp only [sessionStep] at hStep
    split at hStep
    · next hReady =>
      obtain rfl := Option.some.inj hStep
      refine ⟨onTextMessageReceived_signalsBlocked h.unblocked m, ?_⟩
      -- the handler of `ready` leaves the counter alone
      have hSocket (reconnect : Bool) :
          (resumed f.client reconnect).websocket.reconnectCount =
            f.client.websocket.reconnectCount :=
        congrArg (fun view => view.1.reconnectCount) (resumed_socketView f.client reconnect)
      have hEmit (s : State) (signal : Signal) :
          (emit s signal).websocket.reconnectCount = s.websocket.reconnectCount := by
        unfold emit
        split <;> rfl
      rw [readyMessage_eq hReady, onWebSocketReady_eq, hEmit, hSocket]
      exact h.count
    · cases hStep
  | other client =>
    obtain rfl := Option.some.inj hStep
    exact ⟨rfl, h.count⟩

theorem construct_socket {s : State} (h : Constructed s) : Counted { client := s } := by
  refine ⟨signalsBlocked_of_reachable (.start h), ?_⟩
  obtain ⟨uuid, settings, linked, refreshToken, expired, rfl⟩ := h
  have hSocket : (construct uuid settings linked refreshToken expired).websocket = {} := by
    simp only [construct]
    split
    · rfl
    · exact congrArg Prod.fst (request_socketView _ _)
  simp [hSocket]

theorem reports_iff {f f' : Session} {m : QJsonObject} (h : Counted f)
    (hStep : sessionStep f (.ready m) = some f') :
    ReportsReady f.readySeen f.client f'.client ↔ f.lostSeen = f.readySeen := by
  simp only [sessionStep] at hStep
  split at hStep
  · next hReady =>
    obtain rfl := Option.some.inj hStep
    have hFlag : decide (f.client.websocket.reconnectCount > 0) = f.lostSeen := by
      rw [Bool.eq_iff_iff, decide_eq_true_iff]
      exact h.count
    have hReports := onWebSocketReady_reports h.unblocked f.lostSeen
    rw [readyMessage_eq hReady, hFlag]
    constructor
    · intro hTruthful
      have hHead := List.head_eq_of_cons_eq (hReports.signal.symm.trans hTruthful.signal)
      exact Signal.ready.inj hHead
    · intro hSame
      exact hSame ▸ hReports
  · cases hStep

/-- Every ready message is reported as a first or a later one, rightly, exactly when it follows
a lost connection or a failed attempt if and only if it follows another ready message. -/
theorem readyReports_iff {s : State} (hConstructed : Constructed s) (x : Execution sessionStep)
    (hStart : x.state 0 = { client := s }) :
    (∀ n m, x.event n = some (.ready m) →
        ReportsReady (x.state n).readySeen (x.state n).client (x.state (n + 1)).client) ↔
      ∀ n m, x.event n = some (.ready m) → (x.state n).lostSeen = (x.state n).readySeen := by
  have hCounted (n : Nat) : Counted (x.state n) :=
    x.always Counted (by rw [hStart]; exact construct_socket hConstructed)
      (fun _ _ _ h hStep => counted_step h hStep) n
  refine forall₃_congr fun n m hEvent => ?_
  exact reports_iff (hCounted n) (x.next_of_event hEvent)

/-- The connection gets ready, is lost, and gets ready again. -/
def lostConnection : List SocketEvent :=
  [.start, .connected, .ready [("event", .string "ready")], .disconnected, .connected,
    .ready [("event", .string "ready")]]

def lostConnectionRun : Execution sessionStep :=
  .ofRun sessionStep { client := freshClient } lostConnection rfl

theorem readyReports_iff_lostConnection :
    (lostConnectionRun.state 6).client.signals.take 1 = [.ready true] ∧
      ∀ n m, lostConnectionRun.event n = some (.ready m) →
        ReportsReady (lostConnectionRun.state n).readySeen (lostConnectionRun.state n).client
          (lostConnectionRun.state (n + 1)).client := by
  refine ⟨rfl, (readyReports_iff freshClient_constructed lostConnectionRun rfl).mpr ?_⟩
  rintro (_ | _ | _ | _ | _ | _ | n) m hEvent <;> cases hEvent <;> rfl

/-- The first attempt fails, the second one gets ready. -/
def failedFirstAttempt : List SocketEvent :=
  [.start, .disconnected, .connected, .ready [("event", .string "ready")]]

def failedFirstAttemptRun : Execution sessionStep :=
  .ofRun sessionStep { client := freshClient } failedFirstAttempt rfl

theorem failedFirstAttempt_reports_reconnect :
    ¬∀ (s : State) (x : Execution sessionStep), Constructed s → x.state 0 = { client := s } →
      ∀ n m, x.event n = some (.ready m) →
        ReportsReady (x.state n).readySeen (x.state n).client (x.state (n + 1)).client := by
  intro hAll
  have hReports := hAll freshClient failedFirstAttemptRun freshClient_constructed rfl 3 _ rfl
  exact absurd (Signal.ready.inj (List.head_eq_of_cons_eq hReports.signal)) (by decide)

end SrcLink.ApiClient
