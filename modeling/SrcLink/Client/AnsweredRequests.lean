import SrcLink.Client.ListReplies
import SrcLink.Client.UplinkReports
import SrcLink.Library.Backlog

/-! # Every request is answered and reported

Requests finish in any order. As long as the oldest one is always answered in the end,
none of them waits for ever, and the answer is reported by the signal of the request. After
`terminate` nothing more is reported about the uplink, and the deletion of a downlink that is
not cached any more is not reported either.
-/

namespace SrcLink.ApiClient

open Json Json.TypedJsonArray Schema StepSystem

set_option autoImplicit false

/-- The position of the request that an event answers. -/
def Event.answers : Event → Option Nat
  | .reply position _ _ => some position
  | _ => none

theorem handling_requests (s : State) (e : Event) :
    (handling s e).requests = Backlog.left e.answers s.requests := by
  cases e with
  | call c => cases c <;> rfl
  | _ => rfl

theorem requests_backlogged : Backlog.Backlogged step State.requests Event.answers := by
  intro s e s' hStep
  obtain ⟨new, hRequests, -⟩ := (step_reported hStep).requests
  exact ⟨new, handling_requests s e ▸ hRequests⟩

/-- The oldest pending request is answered in the end. -/
def Answered (x : Execution step) : Prop :=
  ∀ n, (x.state n).requests ≠ [] →
    ∃ m, n ≤ m ∧ ∃ error body, x.event m = some (.reply 0 error body)

/-- The request is answered at the instant `n`. -/
def AnsweredAt (x : Execution step) (r : Request) (n : Nat) (error : NetworkError)
    (body : QJsonValue) : Prop :=
  ∃ position, x.event n = some (.reply position error body) ∧
    (x.state n).requests[position]? = some r

section Answers

variable {x : Execution step} {r : Request} {n : Nat} {error : NetworkError} {body : QJsonValue}

theorem AnsweredAt.next (h : AnsweredAt x r n error body) :
    ∃ position, x.state (n + 1) = onFinished { x.state n with
      requests := (x.state n).requests.eraseIdx position } r error body := by
  obtain ⟨position, hEvent, hRequest⟩ := h
  refine ⟨position, (Option.some.inj ?_).symm⟩
  rw [← x.next_of_event hEvent, step, hRequest]
  rfl

/-- In an answered execution no request waits for ever. -/
theorem Answered.answeredAt (h : Answered x) (hPending : r ∈ (x.state n).requests) :
    ∃ m, n ≤ m ∧ ∃ error body, AnsweredAt x r m error body := by
  obtain ⟨position, hRequest⟩ := List.mem_iff_getElem?.mp hPending
  have hOldest : ∀ n, (x.state n).requests ≠ [] →
      ∃ m, n ≤ m ∧ ∃ e, x.event m = some e ∧ e.answers = some 0 := by
    intro n hSome
    obtain ⟨m, hnm, error, body, hEvent⟩ := h n hSome
    exact ⟨m, hnm, _, hEvent, rfl⟩
  obtain ⟨m, hnm, e, q, hEvent, hAnswers, hTaken⟩ :=
    Backlog.eventually_taken requests_backlogged hOldest hRequest
  cases e with
  | reply position error body =>
    obtain rfl := Option.some.inj hAnswers
    exact ⟨m, hnm, error, body, position, hEvent, hTaken⟩
  | _ => cases hAnswers

end Answers

/-- A finite run is answered if it ends with an answer that leaves no request pending. -/
theorem answered_of_last {s : State} {es : List Event} {error : NetworkError} {body : QJsonValue}
    (hRun : (run step s (es ++ [.reply 0 error body])).isSome)
    (hDone : ((run step s (es ++ [.reply 0 error body])).getD s).requests = []) :
    Answered (.ofRun step s (es ++ [.reply 0 error body]) hRun) := by
  intro n hSome
  rcases Nat.lt_or_ge es.length n with hAfter | hBefore
  · have hFinal : (es ++ [Event.reply 0 error body]).take n = es ++ [.reply 0 error body] :=
      List.take_of_length_le (by rwa [List.length_append, List.length_singleton])
    simp only [Execution.ofRun, stateAfter, hFinal, hDone, ne_eq, not_true_eq_false] at hSome
  · exact ⟨es.length, hBefore, error, body, by simp [Execution.ofRun]⟩

/-- An uplink is not reported any more when the client terminates. -/
def uplinkReport (s : State) (failed : NetworkError → Signal) (succeeded : QJsonObject → Signal)
    (error : NetworkError) (body : QJsonValue) : Option Signal :=
  if s.terminating then none
  else some <|
    if error ≠ .noError then failed error
    else if UplinkInfo.isValid body.toObject then succeeded body.toObject
    else failed .unknownContentError

/-- The signal that reports an answer to the rest of the plugin. -/
def Request.report (s : State) (error : NetworkError) (body : QJsonValue) : Request → Option Signal
  | .refresh => none
  | .accountInfo _ => some <|
    if error = .noError && AccountInfo.isValid body.toObject then .accountInfoReady body.toObject
    else .accountInfoFailed
  | .parties => some <|
    if error = .noError && every body.toArray Party.isValid then .partiesReady body.toArray
    else .partiesFailed
  | .partyEvents => some <|
    if error = .noError && every body.toArray PartyEvent.isValid then .partyEventsReady body.toArray
    else .partyEventsFailed
  | .participants => some <|
    if error = .noError && every body.toArray PartyEventParticipant.isValid then
      .participantsReady body.toArray
    else .participantsFailed
  | .stages => some <|
    if error = .noError && every body.toArray Stage.isValid then .stagesReady body.toArray
    else .stagesFailed
  | .uplink => uplinkReport s (fun _ => .uplinkFailed s.uuid) .uplinkReady error body
  | .putUplink _ _ => uplinkReport s (.putUplinkFailed s.uuid) .putUplinkSucceeded error body
  | .putUplinkStatus _ =>
    uplinkReport s (fun _ => .putUplinkStatusFailed s.uuid) .putUplinkStatusSucceeded error body
  | .downlink sourceUuid => some <|
    if error = .noError && DownlinkInfo.isValid body.toObject then .downlinkReady body.toObject
    else .downlinkFailed sourceUuid
  | .putDownlink sourceUuid _ => some <|
    if error = .noError && DownlinkInfo.isValid body.toObject then
      .putDownlinkSucceeded body.toObject
    else .putDownlinkFailed sourceUuid
  | .putDownlinkStatus sourceUuid => some <|
    if error = .noError && DownlinkInfo.isValid body.toObject then
      .putDownlinkStatusSucceeded body.toObject
    else .putDownlinkStatusFailed sourceUuid
  | .deleteDownlink sourceUuid _ =>
    if error ≠ .noError then some (.deleteDownlinkFailed sourceUuid)
    else if s.resources.downlinks.contains sourceUuid then
      some (.deleteDownlinkSucceeded sourceUuid)
    else none
  | .deleteUplink _ _ => some <|
    if error = .noError then .deleteUplinkSucceeded s.uuid else .deleteUplinkFailed s.uuid
  | .redeemInviteCode inviteCode => some <|
    if error = .noError then .redeemInviteCodeSucceeded body.toObject
    else .redeemInviteCodeFailed inviteCode

/-- New signals are emitted, with this one among them, or none at all. -/
def Tells (report : Option Signal) (s t : State) : Prop :=
  ∃ new, t.signals = new ++ s.signals ∧
    match report with
    | some signal => signal ∈ new
    | none => new = []

namespace Tells

variable {s t u : State} {signal : Signal}

theorem silent (hSignals : t.signals = s.signals) : Tells none s t := ⟨[], hSignals, rfl⟩

theorem told {new : List Signal} (hSignals : t.signals = new ++ s.signals) (hMem : signal ∈ new) :
    Tells (some signal) s t := ⟨new, hSignals, hMem⟩

/-- What is emitted besides does no harm. -/
theorem more (h : Tells (some signal) s t) (hMore : t.signals <:+ u.signals) :
    Tells (some signal) s u := by
  obtain ⟨new, hSignals, hMem⟩ := h
  obtain ⟨newer, hNewer⟩ := hMore
  exact told (by rw [← hNewer, hSignals, List.append_assoc]) (List.mem_append_right newer hMem)

end Tells

section Handlers

variable {s : State} (hOpen : s.signalsBlocked = false) (error : NetworkError) (body : QJsonValue)

theorem emit_signals (hOpen : s.signalsBlocked = false) (signal : Signal) :
    (emit s signal).signals = signal :: s.signals := by
  rw [emit_open hOpen]

theorem emitAll_signals (hOpen : s.signalsBlocked = false) (signals : List Signal) :
    (emitAll s signals).signals = signals.reverse ++ s.signals := by
  induction signals generalizing s with
  | nil => rfl
  | cons signal signals ih =>
    have hStill : (emit s signal).signalsBlocked = false := by rw [emit_signalsBlocked, hOpen]
    rw [List.reverse_cons, List.append_assoc, List.singleton_append, ← emit_signals hOpen]
    exact ih hStill

theorem Tells.emit {t : State} {signal : Signal} (hOpen : t.signalsBlocked = false)
    (hSignals : t.signals = s.signals) : Tells (some signal) s (emit t signal) :=
  ⟨[signal], by rw [emit_signals hOpen, hSignals]; rfl, List.mem_cons_self⟩

theorem Tells.emitAll {t : State} {signal : Signal} {signals : List Signal}
    (hOpen : t.signalsBlocked = false) (hSignals : t.signals = s.signals)
    (hMem : signal ∈ signals) : Tells (some signal) s (emitAll t signals) :=
  ⟨signals.reverse, by rw [emitAll_signals hOpen, hSignals], List.mem_reverse.mpr hMem⟩

@[simp] theorem request_signals (s : State) (r : Request) :
    (request s r).signals = s.signals := by
  unfold request
  split <;> rfl

@[simp] theorem unsubscribe_signals (s : State) (name : String) (payload : QJsonObject) :
    (unsubscribe s name payload).signals = s.signals := by
  unfold unsubscribe send
  split <;> rfl

@[simp] theorem unsubscribe_uuid (s : State) (name : String) (payload : QJsonObject) :
    (unsubscribe s name payload).uuid = s.uuid := by
  unfold unsubscribe send
  split <;> rfl

@[simp] theorem subscribeTopics_signals (s : State) (topics : List (String × QJsonObject)) :
    (topics.foldl (fun s topic => subscribe s topic.1 topic.2) s).signals = s.signals := by
  refine foldl_keeps State.signals (fun s topic => ?_) topics s
  unfold subscribe send
  split <;> rfl

theorem emitLicenseChanged_signals (s : State) (license : QJsonObject) :
    s.signals <:+ (emitLicenseChanged s license).signals := by
  simp only [emitLicenseChanged]
  split
  · exact List.suffix_refl _
  · next hSignals =>
    have hOpen : s.signalsBlocked = false := by simpa using hSignals
    have hAnnounced : s.signals <:+ (ApiClient.emit s (.licenseChanged license)).signals :=
      emit_signals hOpen _ ▸ List.suffix_cons _ _
    split
    · rwa [putUplink, request_signals]
    · exact hAnnounced

theorem unlink_signals (s : State) : s.signals <:+ (unlink s).signals := by
  simp only [unlink, onO2LinkingSucceeded, Bool.false_eq_true, if_false, ApiClient.emit]
  split
  · exact List.suffix_refl _
  · exact List.suffix_cons _ _

include hOpen

theorem onAccountInfoReply_tells (startsSession : Bool) :
    Tells (Request.report s error body (.accountInfo startsSession)) s
      (onAccountInfoReply s error body) := by
  by_cases hError : error = .noError
  · subst hError
    simp only [onAccountInfoReply, Request.report, decide_true, Bool.true_and]
    cases AccountInfo.isValid body.toObject with
    | false => exact .emit hOpen rfl
    | true =>
      -- a license that becomes valid is announced besides
      have hReady : Tells (some (.accountInfoReady body.toObject)) s (emit
          { s with resources.accountInfo := body.toObject } (.accountInfoReady body.toObject)) :=
        .emit hOpen rfl
      simp only [ne_eq, not_true_eq_false, if_false, Bool.not_true, Bool.false_eq_true, if_true]
      split
      · exact hReady.more (emitLicenseChanged_signals _ _)
      · exact hReady
  · simp only [onAccountInfoReply, Request.report, if_pos hError, hError, decide_false,
      Bool.false_and]
    exact .emit hOpen rfl

theorem listReply_tells (k : ListRequest) :
    Tells (Request.report s error body k.request) s (onFinished s k.request error body) := by
  have hReport : Request.report s error body k.request =
      some (if error = .noError && every body.toArray k.isValid then k.ready body.toArray
        else k.failed) := by
    cases k <;> rfl
  rw [hReport]
  rcases listReply_cases s error body k with ⟨hRefused, hEq⟩ | ⟨hPasses, t, hSignals, hBlocked, hEq⟩
  · rw [hEq, if_neg (by simpa [Passes] using hRefused)]
    exact .emit hOpen rfl
  · rw [hEq, if_pos (by simpa [Passes] using hPasses)]
    exact .emit (hBlocked.trans hOpen) hSignals

/-- The slots of the uplink differ in what they emit before `uplinkReady` or `uplinkFailed`. -/
theorem onUplinkReply_tells {failed : NetworkError → List Signal}
    {succeeded : QJsonObject → List Signal} (topics : List (String × QJsonObject))
    {whenFailed : NetworkError → Signal} {whenSucceeded : QJsonObject → Signal}
    (hFailed : ∀ error, whenFailed error ∈ failed error ++ [.uplinkFailed s.uuid])
    (hSucceeded : ∀ uplink, whenSucceeded uplink ∈ succeeded uplink ++ [.uplinkReady uplink]) :
    Tells (uplinkReport s whenFailed whenSucceeded error body) s
      (onUplinkReply failed succeeded topics s error body) := by
  simp only [onUplinkReply, uplinkReport]
  split
  · exact .silent rfl
  · split
    · exact .emitAll hOpen rfl (hFailed _)
    · cases UplinkInfo.isValid body.toObject with
      | false => exact .emitAll hOpen rfl (hFailed _)
      | true => exact .emitAll (by simpa using hOpen) (by simp) (hSucceeded _)

theorem onDownlinkReply_tells {failed : List Signal} {succeeded : QJsonObject → List Signal}
    (topics : List (String × QJsonObject)) (sourceUuid : String) {whenFailed : Signal}
    {whenSucceeded : QJsonObject → Signal}
    (hFailed : whenFailed ∈ failed ++ [.downlinkFailed sourceUuid])
    (hSucceeded : ∀ downlink,
      whenSucceeded downlink ∈ succeeded downlink ++ [.downlinkReady downlink]) :
    Tells (some (if error = .noError && DownlinkInfo.isValid body.toObject then
        whenSucceeded body.toObject else whenFailed)) s
      (onDownlinkReply failed succeeded topics s sourceUuid error body) := by
  by_cases hError : error = .noError
  · subst hError
    simp only [onDownlinkReply, decide_true, Bool.true_and]
    cases DownlinkInfo.isValid body.toObject with
    | false => exact .emitAll hOpen rfl hFailed
    | true => exact .emitAll (by simpa using hOpen) (by simp) (hSucceeded _)
  · simp only [onDownlinkReply, if_pos hError, hError, decide_false, Bool.false_and]
    exact .emitAll hOpen rfl hFailed

theorem onDeleteDownlinkReply_tells (sourceUuid : String) (parallel : Bool) :
    Tells (Request.report s error body (.deleteDownlink sourceUuid parallel)) s
      (onDeleteDownlinkReply s sourceUuid error) := by
  simp only [onDeleteDownlinkReply, Request.report, unsubscribe_resources]
  split
  · exact .emit hOpen rfl
  · split
    · exact .emit (by simpa using hOpen) (by simp)
    · exact .silent (unsubscribe_signals s _ _)

theorem onDeleteUplinkReply_tells (parallel unlinks : Bool) :
    Tells (Request.report s error body (.deleteUplink parallel unlinks)) s
      (onDeleteUplinkReply s error) := by
  by_cases hError : error = .noError
  · simp only [onDeleteUplinkReply, Request.report, if_neg (not_not.mpr hError), if_pos hError,
      unsubscribe_uuid]
    exact .emit (by simpa using hOpen) (by simp)
  · simp only [onDeleteUplinkReply, Request.report, if_pos hError, if_neg hError]
    exact .emit hOpen rfl

theorem onRedeemInviteCodeReply_tells (inviteCode : String) :
    Tells (Request.report s error body (.redeemInviteCode inviteCode)) s
      (onRedeemInviteCodeReply s inviteCode error body) := by
  by_cases hError : error = .noError
  · simp only [onRedeemInviteCodeReply, Request.report, if_neg (not_not.mpr hError),
      if_pos hError]
    refine .emitAll ?_ ?_ List.mem_cons_self
    · split <;> simpa using hOpen
    · split
      · rfl
      · exact request_signals _ _
  · simp only [onRedeemInviteCodeReply, Request.report, if_pos hError, if_neg hError]
    exact .emit hOpen rfl

/-- An answer is reported by the signal of its request, or nothing is emitted at all. -/
theorem onFinished_tells (r : Request) :
    Tells (r.report s error body) s (onFinished s r error body) := by
  cases r with
  | refresh => exact .silent rfl
  | accountInfo startsSession =>
    have hReply := onAccountInfoReply_tells hOpen error body startsSession
    simp only [onFinished]
    split
    · exact hReply.more (request_signals _ _ ▸ List.suffix_refl _)
    · exact hReply
  | parties => exact listReply_tells hOpen error body .parties
  | partyEvents => exact listReply_tells hOpen error body .partyEvents
  | participants => exact listReply_tells hOpen error body .participants
  | stages => exact listReply_tells hOpen error body .stages
  | uplink =>
    rw [Request.report, onFinished, onRequestUplinkReply]
    exact onUplinkReply_tells hOpen error body [] (fun _ => List.mem_cons_self)
      fun _ => List.mem_cons_self
  | putUplink sentBody startsWebSocket =>
    have hReply : Tells (uplinkReport s (.putUplinkFailed s.uuid) .putUplinkSucceeded error body) s
        (onPutUplinkReply s error body) :=
      onUplinkReply_tells hOpen error body _ (fun _ => List.mem_cons_self)
        fun _ => List.mem_cons_self
    simp only [onFinished]
    split <;> exact hReply
  | putUplinkStatus sentBody =>
    rw [Request.report, onFinished, onPutUplinkStatusReply]
    exact onUplinkReply_tells hOpen error body [] (fun _ => List.mem_cons_self)
      fun _ => List.mem_cons_self
  | downlink sourceUuid =>
    exact onDownlinkReply_tells hOpen error body [] sourceUuid List.mem_cons_self
      fun _ => List.mem_cons_self
  | putDownlink sourceUuid params =>
    exact onDownlinkReply_tells hOpen error body _ sourceUuid List.mem_cons_self
      fun _ => List.mem_cons_self
  | putDownlinkStatus sourceUuid =>
    exact onDownlinkReply_tells hOpen error body [] sourceUuid List.mem_cons_self
      fun _ => List.mem_cons_self
  | deleteDownlink sourceUuid parallel =>
    exact onDeleteDownlinkReply_tells hOpen error body sourceUuid parallel
  | deleteUplink parallel unlinks =>
    have hReply := onDeleteUplinkReply_tells hOpen error body parallel unlinks
    simp only [onFinished]
    split
    · exact hReply.more (unlink_signals _)
    · exact hReply
  | redeemInviteCode inviteCode => exact onRedeemInviteCodeReply_tells hOpen error body inviteCode

end Handlers

/-- The request is answered at the instant `n`, and its answer is reported. -/
def ReportedAt (x : Execution step) (r : Request) (n : Nat) : Prop :=
  ∃ error body, AnsweredAt x r n error body ∧
    Tells (r.report (x.state n) error body) (x.state n) (x.state (n + 1))

theorem AnsweredAt.reportedAt {x : Execution step} {r : Request} {n : Nat} {error : NetworkError}
    {body : QJsonValue} (h : AnsweredAt x r n error body)
    (hOpen : (x.state n).signalsBlocked = false) : ReportedAt x r n := by
  obtain ⟨position, hNext⟩ := h.next
  refine ⟨error, body, h, ?_⟩
  rw [hNext]
  exact onFinished_tells (s := { x.state n with
    requests := (x.state n).requests.eraseIdx position }) hOpen error body r

theorem signalsBlocked_of_execution {x : Execution step} (hStart : Constructed (x.state 0))
    (n : Nat) : (x.state n).signalsBlocked = false := by
  have hReachable := x.always (Reachable step anyStep Constructed) (.start hStart)
    (fun _ _ _ h hStep => .next h trivial hStep) n
  exact signalsBlocked_of_reachable hReachable

/-- If the oldest request is always answered in the end, every request is answered and its
answer is reported. -/
theorem requests_reported {x : Execution step} (hStart : Constructed (x.state 0))
    (hAnswered : Answered x) {n : Nat} {r : Request} (hPending : r ∈ (x.state n).requests) :
    ∃ m, n ≤ m ∧ ReportedAt x r m := by
  obtain ⟨m, hnm, error, body, hAnswer⟩ := hAnswered.answeredAt hPending
  exact ⟨m, hnm, hAnswer.reportedAt (signalsBlocked_of_execution hStart m)⟩

/-- The stages are requested behind the account information and answered before it. -/
def overtakingAnswers : List Event :=
  [.call .requestStages, .reply 1 .noError (.array [])] ++ [.reply 0 (.other 1) .undefined]

def overtakingAnswersRun : Execution step := .ofRun step freshClient overtakingAnswers rfl

theorem requests_reported_overtaking : ∃ m, 1 ≤ m ∧ ReportedAt overtakingAnswersRun .stages m :=
  requests_reported (x := overtakingAnswersRun) freshClient_constructed (answered_of_last rfl rfl)
    (List.mem_cons_of_mem _ List.mem_cons_self)

end SrcLink.ApiClient
