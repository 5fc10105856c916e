import SrcLink.Client.AnsweredRequests
import SrcLink.Client.Logout
import SrcLink.Client.PartialViews

/-! # Sessions begin and end

A session begins with a successful answer to its request for the account information: the
uplink is put, and the answer to that starts the WebSocket, whatever it is. A logout deletes
the uplink and unlinks when that is answered, whatever the answer. Without a refresh token
neither request is made.
-/

namespace SrcLink.ApiClient

open Json Schema Schema.WebSocketMessage StepSystem

set_option autoImplicit false

/-- The WebSocket, and the pending requests that will start it. -/
def startView (s : State) : Bool × List Request :=
  (s.websocket.started, s.requests.filter Request.startsWebSocket)

theorem emit_startView (s : State) (signal : Signal) :
    startView (emit s signal) = startView s := by
  unfold emit
  split <;> rfl

theorem start_view :
    PartialView (fun aspect => aspect = .webSocketStart) startView where
  emit s signal _ := emit_startView s signal
  send s frame := by
    unfold send
    split <;> rfl
  append s r hOther := by
    have hQuiet : r.startsWebSocket = false := hOther.resolve_right Bool.noConfusion
    simp [startView, hQuiet]
  requests := nofun
  websocket := nofun
  resources _ _ _ := rfl
  downlinks _ _ _ := rfl
  participantId _ _ _ := rfl
  partyId _ _ := rfl
  signalsBlocked _ _ := rfl
  terminating _ _ := rfl
  uplinkStatus _ _ := rfl
  outputs _ _ _ := rfl
  tokens _ _ _ := rfl

/-- The WebSocket is not started, and no request that would start it is made. -/
structure StartsNothing (s s' : State) : Prop where
  started : s'.websocket.started = true → s.websocket.started = true
  requests : s'.requests.filter Request.startsWebSocket =
    s.requests.filter Request.startsWebSocket

theorem StartsNothing.of_view {s s' : State} (h : startView s' = startView s) :
    StartsNothing s s' where
  started hStarted := (congrArg Prod.fst h).symm.trans hStarted
  requests := congrArg Prod.snd h

theorem stop_started (w : WebSocket) : w.stop.started = false := by
  unfold WebSocket.stop
  split
  · rfl
  · next hStopped => exact Bool.not_eq_true _ ▸ hStopped

theorem StartsNothing.of_stop {s s' : State}
    (h : startView s' = startView { s with websocket := s.websocket.stop }) :
    StartsNothing s s' where
  started hStarted := by
    have hStopped := (congrArg Prod.fst h).symm.trans hStarted
    exact absurd hStopped (by simp [startView, stop_started])
  requests := congrArg Prod.snd h

section Links

variable (s : State)

theorem linkingSucceeded_startsNothing : StartsNothing s (onO2LinkingSucceeded s) := by
  simp only [onO2LinkingSucceeded]
  split
  · split
    · refine .of_view ((emit_startView _ _).trans ?_)
      split
      · exact start_view.request s (.inl rfl)
      · rfl
    · exact .of_view rfl
  · exact .of_stop (emit_startView (clearOnlineResources _) .logoutSucceeded)

theorem unlink_startsNothing : StartsNothing s (unlink s) :=
  let h := linkingSucceeded_startsNothing { s with linked := false, refreshToken := false }
  ⟨h.started, h.requests⟩

end Links

/-- A session's request for the account information is answered without an error, while there
is a token to put the uplink with. -/
inductive BeginsSession (s : State) : Event → Prop where
  | answered {position : Nat} {body : QJsonValue}
      (hRequest : s.requests[position]? = some (.accountInfo true))
      (hToken : s.refreshToken = true) : BeginsSession s (.reply position .noError body)

section Steps

variable {s s' : State} {e : Event}

/-- Only the account information makes a request that starts the WebSocket, and only the
answer to such a request starts it. -/
theorem onFinished_start (t : State) (r : Request) (error : NetworkError) (body : QJsonValue) :
    StartsNothing t (onFinished t r error body) ∨
    (r = .accountInfo true ∧ error = .noError ∧ t.refreshToken = true ∧
      ∃ q, startView (onFinished t r error body) =
        (t.websocket.started, t.requests.filter Request.startsWebSocket ++ [q])) ∨
    (∃ sentBody, r = .putUplink sentBody true) ∧
      (onFinished t r error body).requests.filter Request.startsWebSocket =
        t.requests.filter Request.startsWebSocket := by
  have hQuiet (hOther : .webSocketStart ∉ r.aspects) (hStays : r.unlinks = false) :
      StartsNothing t (onFinished t r error body) := by
    have hSeen (aspect : Aspect) (hMem : aspect ∈ r.aspects) :
        decide (aspect = .webSocketStart) = false :=
      decide_eq_false fun hSame => hOther (hSame ▸ hMem)
    exact .of_view (start_view.onFinished hSeen hStays error body)
  cases r with
  | accountInfo startsSession =>
    have hReply := start_view.onAccountInfoReply t error body rfl
    simp only [onFinished]
    split
    · next hStarts =>
      obtain ⟨rfl, hError⟩ := Bool.and_eq_true_iff.mp hStarts
      have hKept := onAccountInfoReply_refreshToken t error body
      cases hToken : t.refreshToken with
      | true =>
        refine .inr (.inl ⟨rfl, of_decide_eq_true hError, rfl,
          .putUplink (putUplinkBody (onAccountInfoReply t error body)) true, ?_⟩)
        rw [putUplink, request, if_pos (hKept.trans hToken)]
        obtain ⟨hStarted, hRequests⟩ := Prod.mk.inj hReply
        simp only [startView, List.filter_append, hStarted, hRequests]
        rfl
      | false =>
        -- without a token the uplink is not put
        rw [putUplink, request, hKept.trans hToken]
        exact .inl (.of_view hReply)
    · exact .inl (.of_view hReply)
  | putUplink sentBody startsWebSocket =>
    cases startsWebSocket with
    | true =>
      have hReply : startView (onPutUplinkReply t error body) = startView t :=
        start_view.onUplinkReply t error body rfl _
          (fun _ => List.forall_mem_singleton.mpr rfl) fun _ => List.forall_mem_singleton.mpr rfl
      exact .inr (.inr ⟨⟨sentBody, rfl⟩, congrArg Prod.snd hReply⟩)
    | false => exact .inl (hQuiet (by simp [Request.aspects]) rfl)
  | deleteUplink parallel unlinks =>
    cases unlinks with
    | true =>
      have hReply : StartsNothing t (onDeleteUplinkReply t error) :=
        .of_view (start_view.onDeleteUplinkReply t error rfl)
      have hUnlinked := unlink_startsNothing (onDeleteUplinkReply t error)
      exact .inl ⟨fun h => hReply.started (hUnlinked.started h),
        hUnlinked.requests.trans hReply.requests⟩
    | false => exact .inl (hQuiet (by simp [Request.aspects]) rfl)
  | _ => exact .inl (hQuiet (by simp [Request.aspects]) rfl)

/-- What an event can do to the start of the WebSocket. -/
theorem step_start (hStep : step s e = some s') :
    StartsNothing (handling s e) s' ∨
    (BeginsSession s e ∧ ∃ q, startView s' = (s.websocket.started,
      (handling s e).requests.filter Request.startsWebSocket ++ [q])) ∨
    (∃ position error body sentBody, e = .reply position error body ∧
      s.requests[position]? = some (.putUplink sentBody true)) ∧
      s'.requests.filter Request.startsWebSocket =
        (handling s e).requests.filter Request.startsWebSocket := by
  cases e with
  | call c =>
    obtain rfl := Option.some.inj hStep
    exact .inl (.of_view ((start_view.perform s (.inl rfl)).trans (by cases c <;> rfl)))
  | reply position error body =>
    obtain ⟨r, hRequest, rfl⟩ := Option.map_eq_some_iff.mp hStep
    rcases onFinished_start (handling s (.reply position error body)) r error body with
      hQuiet | ⟨rfl, rfl, hToken, q, hView⟩ | ⟨⟨sentBody, rfl⟩, hView⟩
    · exact .inl hQuiet
    · exact .inr (.inl ⟨.answered hRequest hToken, q, hView⟩)
    · exact .inr (.inr ⟨⟨position, error, body, sentBody, rfl, hRequest⟩, hView⟩)
  | textMessage message =>
    obtain rfl := Option.some.inj hStep
    exact .inl (.of_view (start_view.onTextMessageReceived s rfl fun _ =>
      decide_eq_false (messageAspect_ne_webSocketStart _)))
  | linkingSucceeded =>
    obtain rfl := Option.some.inj hStep
    exact .inl (linkingSucceeded_startsNothing s)
  | linkingFailed =>
    obtain rfl := Option.some.inj hStep
    exact .inl (.of_stop (emit_startView _ .loginFailed))
  | socketDisconnected =>
    obtain rfl := Option.some.inj hStep
    simp only [onDisconnected]
    split
    · exact .inl (.of_view rfl)
    · exact .inl (.of_view (emit_startView _ _))
  | socketConnected | tokensStored =>
    obtain rfl := Option.some.inj hStep
    exact .inl (.of_view rfl)

/-- The session puts the uplink, and asks for the WebSocket. -/
theorem putUplink_of_begins (hStep : step s e = some s') (h : BeginsSession s e) :
    ∃ sentBody, .putUplink sentBody true ∈ s'.requests := by
  cases h with
  | @answered position body hRequest hToken =>
    rw [step, hRequest] at hStep
    obtain rfl := Option.some.inj hStep
    have hSession := startsSession_of_empty (s := { s with resources := {} }) rfl
    exact hSession.putsUplink { s with requests := s.requests.eraseIdx position } body hToken

end Steps

/-- A session begins at the instant `n` and makes this request. -/
def BegunAt (x : Execution step) (r : Request) (n : Nat) : Prop :=
  ∃ e, x.event n = some e ∧ BeginsSession (x.state n) e ∧
    r ∈ issued (x.state n) e (x.state (n + 1))

/-- The WebSocket, stopped before, is started at the instant `n`. -/
def StartedAt (x : Execution step) (n : Nat) : Prop :=
  (x.state n).websocket.started = false ∧ (x.state (n + 1)).websocket.started = true

/-- A login asks for the account information unless it is cached, and whatever begins a session
starts the WebSocket; every start is the answer to the uplink that a session of its own
has put. -/
structure SessionsBegin (x : Execution step) : Prop where
  asked : ∀ n, x.event n = some .linkingSucceeded → (x.state n).linked = true →
    (x.state n).refreshToken = true →
    if (x.state n).resources.accountInfo.isEmpty then
      ∃ m, n < m ∧ ∃ error body, AnsweredAt x (.accountInfo true) m error body
    else (x.state (n + 1)).requests = (x.state n).requests
  started : ∀ n e, x.event n = some e → BeginsSession (x.state n) e →
    ∃ m, n < m ∧ (x.state m).websocket.started = true
  begun : ∃ session : Nat → Nat, Set.InjOn session {n | StartedAt x n} ∧
    ∀ n, StartedAt x n → session n < n ∧ ∃ sentBody,
      BegunAt x (.putUplink sentBody true) (session n) ∧
      ∃ error body, AnsweredAt x (.putUplink sentBody true) n error body

section Sessions

variable {x : Execution step}

theorem construct_requests {s : State} (h : Constructed s) :
    ∀ r ∈ s.requests, r.startsWebSocket = false := by
  obtain ⟨uuid, settings, linked, refreshToken, expired, rfl⟩ := h
  have hView : (startView (construct uuid settings linked refreshToken expired)).2 = [] := by
    simp only [construct]
    split
    · rfl
    · exact congrArg Prod.snd (start_view.request _ (.inl rfl))
  exact fun r hr => Bool.eq_false_iff.mpr (List.filter_eq_nil_iff.mp hView r hr)

theorem StartedAt.answered {n : Nat} (h : StartedAt x n) :
    ∃ sentBody error body, AnsweredAt x (.putUplink sentBody true) n error body := by
  obtain ⟨hStopped, hStarted⟩ := h
  have hSame (hStill : (x.state (n + 1)).websocket.started = (x.state n).websocket.started) :
      False := by simp [hStill, hStopped] at hStarted
  cases hEvent : x.event n with
  | none => exact (hSame (by rw [x.next_of_none hEvent])).elim
  | some e =>
    have hHandling : (handling (x.state n) e).websocket = (x.state n).websocket := by
      cases e with
      | call c => cases c <;> rfl
      | _ => rfl
    rcases step_start (x.next_of_event hEvent) with
      hNothing | ⟨-, q, hView⟩ | ⟨⟨position, error, body, sentBody, rfl, hRequest⟩, -⟩
    · have hStill := hNothing.started hStarted
      rw [hHandling, hStopped] at hStill
      cases hStill
    · exact (hSame (congrArg Prod.fst hView)).elim
    · exact ⟨sentBody, error, body, position, hEvent, hRequest⟩

/-- The requests that start the WebSocket are made one by one, each by a session that begins. -/
theorem step_issues {s s' : State} {e : Event} {new : List Request} (hStep : step s e = some s')
    (hNew : s'.requests = Backlog.left e.answers s.requests ++ new) :
    new.filter Request.startsWebSocket = [] ∨
      BeginsSession s e ∧ ∃ q, new.filter Request.startsWebSocket = [q] := by
  have hSplit : s'.requests.filter Request.startsWebSocket =
      (handling s e).requests.filter Request.startsWebSocket ++
        new.filter Request.startsWebSocket := by
    rw [hNew, ← handling_requests, List.filter_append]
  rcases step_start hStep with hNothing | ⟨hBegins, q, hView⟩ | ⟨-, hRequests⟩
  · exact .inl (List.append_right_eq_self.mp (hSplit.symm.trans hNothing.requests))
  · have hRequests := congrArg Prod.snd hView
    exact .inr ⟨hBegins, q, List.append_cancel_left (hSplit.symm.trans hRequests)⟩
  · exact .inl (List.append_right_eq_self.mp (hSplit.symm.trans hRequests))

theorem addsOne_startsWebSocket (x : Execution step) :
    Backlog.AddsOne x State.requests Event.answers Request.startsWebSocket := by
  intro n e new hEvent hNew
  rcases step_issues (x.next_of_event hEvent) hNew with hNone | ⟨-, q, hOne⟩
  · simp [hNone]
  · simp [hOne]

theorem begunAt_of_addedAt {r : Request} {n : Nat} (hStarts : r.startsWebSocket = true)
    (h : Backlog.AddedAt x State.requests Event.answers r n) : BegunAt x r n := by
  obtain ⟨e, new, hEvent, hNew, hr⟩ := h
  have hMem := List.mem_filter.mpr ⟨hr, hStarts⟩
  refine ⟨e, hEvent, ?_, ?_⟩
  · rcases step_issues (x.next_of_event hEvent) hNew with hNone | ⟨hBegins, -⟩
    · simp [hNone] at hMem
    · exact hBegins
  · rw [issued, hNew, ← handling_requests, List.drop_left]
    exact hr

theorem exists_session (hStart : Constructed (x.state 0)) :
    ∃ session : Nat → Nat, Set.InjOn session {n | StartedAt x n} ∧
      ∀ n, StartedAt x n → session n < n ∧ ∃ sentBody,
        BegunAt x (.putUplink sentBody true) (session n) ∧
        ∃ error body, AnsweredAt x (.putUplink sentBody true) n error body := by
  obtain ⟨session, hOwn, hEarlier⟩ := Backlog.exists_origin requests_backlogged
    (construct_requests hStart) (addsOne_startsWebSocket x)
  have hStarts {n : Nat} (hStarted : StartedAt x n) : ∃ sentBody,
      Backlog.TakenAt x State.requests Event.answers (.putUplink sentBody true) n ∧
        ∃ error body, AnsweredAt x (.putUplink sentBody true) n error body := by
    obtain ⟨sentBody, error, body, position, hEvent, hRequest⟩ := hStarted.answered
    exact ⟨sentBody, ⟨_, position, hEvent, rfl, hRequest⟩, error, body, position, hEvent,
      hRequest⟩
  refine ⟨session, hOwn.mono fun n hStarted => ?_, fun n hStarted => ?_⟩
  · obtain ⟨sentBody, hAnswered, -⟩ := hStarts hStarted
    exact ⟨_, rfl, hAnswered⟩
  · obtain ⟨sentBody, hAnswered, hAnswer⟩ := hStarts hStarted
    obtain ⟨hLt, hAdded⟩ := hEarlier n _ rfl hAnswered
    exact ⟨hLt, sentBody, begunAt_of_addedAt rfl hAdded, hAnswer⟩

theorem AnsweredAt.started {sentBody : QJsonObject} {n : Nat} {error : NetworkError}
    {body : QJsonValue} (h : AnsweredAt x (.putUplink sentBody true) n error body) :
    (x.state (n + 1)).websocket.started = true := by
  obtain ⟨position, hNext⟩ := h.next
  rw [hNext]
  have hSession := startsSession_of_empty (s := { x.state n with resources := {} }) rfl
  exact hSession.startsWebSocket _ sentBody error body

theorem login_requests {s : State} (hLinked : s.linked = true) (hToken : s.refreshToken = true) :
    (onO2LinkingSucceeded s).requests =
      if s.resources.accountInfo.isEmpty then s.requests ++ [.accountInfo true]
      else s.requests := by
  simp only [onO2LinkingSucceeded, hLinked, hToken, if_true, emit_requests]
  split
  · exact request_requests hToken _
  · rfl

/-- In every execution in which the oldest request is always answered in the end. -/
theorem sessions_begin (hStart : Constructed (x.state 0)) (hAnswered : Answered x) :
    SessionsBegin x where
  asked n hEvent hLinked hToken := by
    have hNext := login_requests hLinked hToken
    rw [Option.some.inj (x.next_of_event hEvent)] at hNext
    split
    · next hEmpty =>
      rw [if_pos hEmpty] at hNext
      have hPending : .accountInfo true ∈ (x.state (n + 1)).requests :=
        hNext ▸ List.mem_append_right _ List.mem_cons_self
      exact hAnswered.answeredAt hPending
    · next hCached => rw [hNext, if_neg hCached]
  started n e hEvent hBegins := by
    obtain ⟨sentBody, hPending⟩ := putUplink_of_begins (x.next_of_event hEvent) hBegins
    obtain ⟨m, hnm, error, body, hAnswer⟩ := hAnswered.answeredAt hPending
    exact ⟨m + 1, Nat.lt_succ_of_lt hnm, hAnswer.started⟩
  begun := exists_session hStart

/-- The client logs in again while its first request for the account information is pending. -/
def loginTwice : List Event :=
  [.linkingSucceeded, .reply 0 .noError .undefined, .reply 0 .noError .undefined,
    .reply 0 .noError .undefined] ++ [.reply 0 (.other 1) .undefined]

def loginTwiceRun : Execution step := .ofRun step freshClient loginTwice rfl

theorem sessions_begin_loginTwice :
    SessionsBegin loginTwiceRun ∧ (loginTwiceRun.state 5).websocket.started = true :=
  ⟨sessions_begin freshClient_constructed (answered_of_last rfl rfl), rfl⟩

/-- The user logs out, or the account is removed. -/
inductive LogsOut : Event → Prop where
  | called : LogsOut (.call .logout)
  | accountRemoved {m : QJsonObject} (hRemoval : IsRemoval m) (hName : getName m = "accounts") :
      LogsOut (.textMessage m)

structure SessionEnded (s : State) : Prop where
  unlinked : s.linked = false
  tokenDropped : s.refreshToken = false
  stopped : s.websocket.started = false
  empty : s.resources = {}
  loggedOut : LoggedOut s

theorem step_logout {s s' : State} {e : Event} (hOpen : s.signalsBlocked = false)
    (hStep : step s e = some s') (hLogsOut : LogsOut e) : s' = logout s := by
  cases hLogsOut with
  | called => exact (Option.some.inj hStep).symm
  | accountRemoved hRemoval hName =>
    obtain rfl := Option.some.inj hStep
    have hRemoval : getEvent _ = "removed" := hRemoval
    simp only [onTextMessageReceived, hRemoval, onWebSocketDataRemoved, blockingSignals,
      dataRemoved, hName, logout, request]
    split <;> simp [← hOpen]

theorem unlink_ended {s : State} (hOpen : s.signalsBlocked = false) : SessionEnded (unlink s) := by
  have hEq : unlink s = emit (clearOnlineResources { s with
      linked := false, refreshToken := false, websocket := s.websocket.stop })
      .logoutSucceeded := rfl
  rw [hEq, emit_open (by exact hOpen)]
  exact ⟨rfl, rfl, stop_started _, rfl, rfl⟩

theorem AnsweredAt.ended {n : Nat} {error : NetworkError} {body : QJsonValue} {parallel : Bool}
    (h : AnsweredAt x (.deleteUplink parallel true) n error body)
    (hOpen : (x.state n).signalsBlocked = false) : SessionEnded (x.state (n + 1)) := by
  obtain ⟨position, hNext⟩ := h.next
  rw [hNext]
  exact unlink_ended ((onDeleteUplinkReply_signalsBlocked _ error).trans hOpen)

/-- In every execution in which the oldest request is always answered in the end, a logout ends
the session, whatever is answered and whatever happens besides; but without a refresh token
it does nothing. -/
theorem logout_completes (hStart : Constructed (x.state 0)) (hAnswered : Answered x) {n : Nat}
    {e : Event} (hEvent : x.event n = some e) (hLogsOut : LogsOut e) :
    if (x.state n).refreshToken then ∃ m, n < m ∧ SessionEnded (x.state m)
    else x.state (n + 1) = x.state n := by
  have hOpen := signalsBlocked_of_execution hStart
  have hNext := step_logout (hOpen n) (x.next_of_event hEvent) hLogsOut
  split
  · next hToken =>
    have hPending : .deleteUplink true true ∈ (x.state (n + 1)).requests := by
      rw [hNext, logout, request_requests hToken]
      exact List.mem_append_right _ List.mem_cons_self
    obtain ⟨m, hnm, error, body, hAnswer⟩ := hAnswered.answeredAt hPending
    exact ⟨m + 1, Nat.lt_succ_of_lt hnm, hAnswer.ended (hOpen m)⟩
  · next hNone => rw [hNext, logout, request, if_neg hNone]

end Sessions

/-- The client logs out before anything is answered, and the answers are errors. -/
def refusedLogout : List Event :=
  [.call .logout, .reply 0 (.other 1) .undefined] ++ [.reply 0 (.other 1) .undefined]

def refusedLogoutRun : Execution step := .ofRun step freshClient refusedLogout rfl

theorem logout_completes_refused : ∃ m, 0 < m ∧ SessionEnded (refusedLogoutRun.state m) := by
  have hCompletes := logout_completes (x := refusedLogoutRun) (n := 0) freshClient_constructed
    (answered_of_last rfl rfl) rfl .called
  have hToken : (refusedLogoutRun.state 0).refreshToken = true := rfl
  rwa [if_pos hToken] at hCompletes

end SrcLink.ApiClient
