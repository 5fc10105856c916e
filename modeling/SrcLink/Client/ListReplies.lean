import SrcLink.Client.ResourceUpdates

/-! # Replies that carry a list

The parties, the party events, the participants and the stages are fetched whole.
A reply is checked element by element after its body was taken as an array, and a
body of another shape counts as the empty array. The signals of the client are
blocked only while a message is handled, never when a reply arrives.
-/

namespace SrcLink.ApiClient

open Json Json.TypedJsonArray Schema StepSystem

set_option autoImplicit false

section SignalsBlocked

variable (s : State)

@[simp] theorem emit_signalsBlocked (signal : Signal) :
    (emit s signal).signalsBlocked = s.signalsBlocked := by
  unfold emit
  split <;> rfl

@[simp] theorem emitAll_signalsBlocked (signals : List Signal) :
    (emitAll s signals).signalsBlocked = s.signalsBlocked :=
  foldl_keeps State.signalsBlocked emit_signalsBlocked signals s

@[simp] theorem request_signalsBlocked (r : Request) :
    (request s r).signalsBlocked = s.signalsBlocked := by
  unfold request
  split <;> rfl

@[simp] theorem send_signalsBlocked (frame : Frame) :
    (send s frame).signalsBlocked = s.signalsBlocked := by
  unfold send
  split <;> rfl

@[simp] theorem unsubscribe_signalsBlocked (name : String) (payload : QJsonObject) :
    (unsubscribe s name payload).signalsBlocked = s.signalsBlocked :=
  send_signalsBlocked s _

@[simp] theorem subscribeTopics_signalsBlocked (topics : List (String × QJsonObject)) :
    (topics.foldl (fun s topic => subscribe s topic.1 topic.2) s).signalsBlocked =
      s.signalsBlocked :=
  foldl_keeps State.signalsBlocked (fun s _ => send_signalsBlocked s _) topics s

@[simp] theorem putUplink_signalsBlocked (startsWebSocket : Bool) :
    (putUplink s startsWebSocket).signalsBlocked = s.signalsBlocked :=
  request_signalsBlocked s _

@[simp] theorem syncUplinkStatus_signalsBlocked (force : Bool) :
    (syncUplinkStatus s force).signalsBlocked = s.signalsBlocked := by
  unfold syncUplinkStatus
  split
  · rfl
  · split
    · exact request_signalsBlocked _ _
    · rfl

@[simp] theorem emitLicenseChanged_signalsBlocked (license : QJsonObject) :
    (emitLicenseChanged s license).signalsBlocked = s.signalsBlocked := by
  simp only [emitLicenseChanged]
  split
  · rfl
  · split <;> simp

@[simp] theorem onO2LinkingSucceeded_signalsBlocked :
    (onO2LinkingSucceeded s).signalsBlocked = s.signalsBlocked := by
  simp only [onO2LinkingSucceeded]
  split
  · split
    · split <;> simp
    · rfl
  · simp [clearOnlineResources]

theorem resumeDownlink_signalsBlocked (reconnect : Bool) (s : State) (sourceUuid : String) :
    (resumeDownlink reconnect s sourceUuid).signalsBlocked = s.signalsBlocked := by
  simp only [resumeDownlink, subscribe]
  split <;> simp

@[simp] theorem onWebSocketReady_signalsBlocked (reconnect : Bool) :
    (onWebSocketReady s reconnect).signalsBlocked = s.signalsBlocked := by
  simp only [onWebSocketReady]
  split <;> simp [foldl_keeps State.signalsBlocked (resumeDownlink_signalsBlocked reconnect)]

@[simp] theorem onDisconnected_signalsBlocked :
    (onDisconnected s).signalsBlocked = s.signalsBlocked := by
  simp only [onDisconnected]
  split
  · rfl
  · exact emit_signalsBlocked _ _

end SignalsBlocked

section Replies

variable (s : State) (error : NetworkError) (body : QJsonValue)

@[simp] theorem onAccountInfoReply_signalsBlocked :
    (onAccountInfoReply s error body).signalsBlocked = s.signalsBlocked := by
  simp only [onAccountInfoReply]
  split
  · simp
  · split
    · simp
    · split <;> simp

@[simp] theorem onPartiesReply_signalsBlocked :
    (onPartiesReply s error body).signalsBlocked = s.signalsBlocked := by
  simp only [onPartiesReply]
  split
  · simp
  · split
    · simp
    · split <;> simp

@[simp] theorem onListReply_signalsBlocked (isValid : QJsonObject → Bool)
    (store : Resources → QJsonArray → Resources) (ready : QJsonArray → Signal) (failed : Signal) :
    (onListReply isValid store ready failed s error body).signalsBlocked = s.signalsBlocked := by
  simp only [onListReply]
  split
  · simp
  · split <;> simp

@[simp] theorem onUplinkReply_signalsBlocked (failed : NetworkError → List Signal)
    (succeeded : QJsonObject → List Signal) (topics : List (String × QJsonObject)) :
    (onUplinkReply failed succeeded topics s error body).signalsBlocked = s.signalsBlocked := by
  simp only [onUplinkReply]
  split
  · rfl
  · split
    · simp
    · split <;> simp

@[simp] theorem onDownlinkReply_signalsBlocked (failed : List Signal)
    (succeeded : QJsonObject → List Signal) (topics : List (String × QJsonObject))
    (sourceUuid : String) :
    (onDownlinkReply failed succeeded topics s sourceUuid error body).signalsBlocked =
      s.signalsBlocked := by
  simp only [onDownlinkReply]
  split
  · simp
  · split <;> simp

@[simp] theorem onDeleteDownlinkReply_signalsBlocked (sourceUuid : String) :
    (onDeleteDownlinkReply s sourceUuid error).signalsBlocked = s.signalsBlocked := by
  simp only [onDeleteDownlinkReply]
  split
  · simp
  · split <;> simp

@[simp] theorem onDeleteUplinkReply_signalsBlocked :
    (onDeleteUplinkReply s error).signalsBlocked = s.signalsBlocked := by
  simp only [onDeleteUplinkReply]
  split <;> simp

@[simp] theorem onRedeemInviteCodeReply_signalsBlocked (inviteCode : String) :
    (onRedeemInviteCodeReply s inviteCode error body).signalsBlocked = s.signalsBlocked := by
  simp only [onRedeemInviteCodeReply]
  split
  · simp
  · split <;> simp

theorem onFinished_signalsBlocked (r : Request) :
    (onFinished s r error body).signalsBlocked = s.signalsBlocked := by
  cases r with
  | accountInfo startsSession =>
    simp only [onFinished]
    split <;> simp
  | putUplink sentBody startsWebSocket =>
    simp only [onFinished, onPutUplinkReply]
    split <;> simp
  | deleteUplink parallel unlinks =>
    simp only [onFinished, unlink]
    split <;> simp
  | _ => simp [onFinished, onPartyEventsReply, onParticipantsReply, onStagesReply,
      onRequestUplinkReply, onRequestDownlinkReply, onPutDownlinkReply, onPutDownlinkStatusReply,
      onPutUplinkStatusReply]

end Replies

theorem onTextMessageReceived_signalsBlocked {s : State} (hOpen : s.signalsBlocked = false)
    (m : QJsonObject) : (onTextMessageReceived s m).signalsBlocked = false := by
  simp only [onTextMessageReceived]
  split
  case h_2 =>
    simp only [onWebSocketAborted]
    split <;> exact hOpen
  all_goals first | rfl | simp [hOpen]

theorem perform_signalsBlocked (s : State) (c : Call) :
    (perform s c).signalsBlocked = s.signalsBlocked := by
  cases c with
  | syncOnlineResources =>
    exact foldl_keeps State.signalsBlocked request_signalsBlocked _ s
  | _ => simp [perform, logout, refresh, putUplinkStatus, terminate]

theorem signalsBlocked_of_reachable {s : State} (h : Reachable step anyStep Constructed s) :
    s.signalsBlocked = false := by
  apply h.invariant
  · rintro s ⟨uuid, settings, linked, refreshToken, expired, rfl⟩
    simp only [construct]
    split <;> simp [refresh]
  · intro s e s' hOpen _ hStep
    cases e with
    | call c =>
      obtain rfl := Option.some.inj hStep
      rw [perform_signalsBlocked, hOpen]
    | reply i error body =>
      obtain ⟨r, -, rfl⟩ := Option.map_eq_some_iff.mp hStep
      rw [onFinished_signalsBlocked, hOpen]
    | textMessage m =>
      obtain rfl := Option.some.inj hStep
      exact onTextMessageReceived_signalsBlocked hOpen m
    | _ =>
      obtain rfl := Option.some.inj hStep
      simp [hOpen, onO2LinkingFailed]

inductive ListRequest where
  | parties
  | partyEvents
  | participants
  | stages
  deriving DecidableEq, Repr

namespace ListRequest

def request : ListRequest → Request
  | parties => .parties
  | partyEvents => .partyEvents
  | participants => .participants
  | stages => .stages

def isValid : ListRequest → QJsonObject → Bool
  | parties => Party.isValid
  | partyEvents => PartyEvent.isValid
  | participants => PartyEventParticipant.isValid
  | stages => Stage.isValid

def items : ListRequest → Resources → QJsonArray
  | parties, r => r.parties
  | partyEvents, r => r.partyEvents
  | participants, r => r.participants
  | stages, r => r.stages

def failed : ListRequest → Signal
  | parties => .partiesFailed
  | partyEvents => .partyEventsFailed
  | participants => .participantsFailed
  | stages => .stagesFailed

def ready : ListRequest → QJsonArray → Signal
  | parties => .partiesReady
  | partyEvents => .partyEventsReady
  | participants => .participantsReady
  | stages => .stagesReady

end ListRequest

def IsListOf (isValid : QJsonObject → Bool) (body : QJsonValue) : Prop :=
  ∃ elements, body = .array elements ∧
    ∀ element ∈ elements, ∃ o, element = .object o ∧ isValid o = true

/-- Every kind of document has a field that must be a string, so no empty object is valid. -/
theorem ListRequest.isValid_nil (k : ListRequest) : k.isValid [] = false := by cases k <;> rfl

theorem every_toArray_iff {isValid : QJsonObject → Bool} (hNil : isValid [] = false)
    (body : QJsonValue) :
    every body.toArray isValid = true ↔ body.isArray = false ∨ IsListOf isValid body := by
  have hElement (element : QJsonValue) :
      isValid element.toObject = true ↔ ∃ o, element = .object o ∧ isValid o = true := by
    cases element <;> simp [QJsonValue.toObject, hNil]
  cases body <;> simp [IsListOf, every, QJsonValue.toArray, QJsonValue.isArray, hElement]

/-- The list and the party are as before, and the failure is all that was reported. -/
structure Rejected (k : ListRequest) (s s' : State) : Prop where
  items : k.items s'.resources = k.items s.resources
  partyId : s'.settings.partyId = s.settings.partyId
  signals : s'.signals = k.failed :: s.signals

/-- The reply has arrived and every element is valid. -/
def Passes (isValid : QJsonObject → Bool) (error : NetworkError) (body : QJsonValue) : Prop :=
  error = .noError ∧ every body.toArray isValid = true

section ListReply

variable (s : State) {error : NetworkError} {body : QJsonValue}

theorem onListReply_cases (isValid : QJsonObject → Bool)
    (store : Resources → QJsonArray → Resources) (ready : QJsonArray → Signal) (failed : Signal) :
    (¬Passes isValid error body ∧
        onListReply isValid store ready failed s error body = emit s failed) ∨
      Passes isValid error body ∧
        ∃ t, t.signals = s.signals ∧ t.signalsBlocked = s.signalsBlocked ∧
          onListReply isValid store ready failed s error body = emit t (ready body.toArray) := by
  simp only [onListReply]
  split
  · next hFailed => exact .inl ⟨fun hPasses => hFailed hPasses.1, rfl⟩
  · next hArrived =>
    split
    · next hInvalid => exact .inl ⟨fun hPasses => by simp [hPasses.2] at hInvalid, rfl⟩
    · next hValid =>
      exact .inr ⟨⟨not_not.mp hArrived, by simpa using hValid⟩,
        { s with resources := store s.resources body.toArray }, rfl, rfl, rfl⟩

theorem onPartiesReply_cases :
    (¬Passes Party.isValid error body ∧ onPartiesReply s error body = emit s .partiesFailed) ∨
      Passes Party.isValid error body ∧
        ∃ t, t.signals = s.signals ∧ t.signalsBlocked = s.signalsBlocked ∧
          onPartiesReply s error body = emit t (.partiesReady body.toArray) := by
  simp only [onPartiesReply]
  split
  · next hFailed => exact .inl ⟨fun hPasses => hFailed hPasses.1, rfl⟩
  · next hArrived =>
    split
    · next hInvalid => exact .inl ⟨fun hPasses => by simp [hPasses.2] at hInvalid, rfl⟩
    · next hValid =>
      refine .inr ⟨⟨not_not.mp hArrived, by simpa using hValid⟩, _, ?_, ?_, rfl⟩ <;> split <;> rfl

/-- A reply is refused with nothing but the failure, or its list is announced. -/
theorem listReply_cases (error : NetworkError) (body : QJsonValue) (k : ListRequest) :
    (¬Passes k.isValid error body ∧ onFinished s k.request error body = emit s k.failed) ∨
      Passes k.isValid error body ∧
        ∃ t, t.signals = s.signals ∧ t.signalsBlocked = s.signalsBlocked ∧
          onFinished s k.request error body = emit t (k.ready body.toArray) := by
  cases k with
  | parties => exact onPartiesReply_cases s
  | partyEvents =>
    exact onListReply_cases s PartyEvent.isValid (fun r items => { r with partyEvents := items })
      .partyEventsReady .partyEventsFailed
  | participants =>
    exact onListReply_cases s PartyEventParticipant.isValid
      (fun r items => { r with participants := items }) .participantsReady .participantsFailed
  | stages =>
    exact onListReply_cases s Stage.isValid (fun r items => { r with stages := items })
      .stagesReady .stagesFailed

end ListReply

theorem emit_open {s : State} (hOpen : s.signalsBlocked = false) (signal : Signal) :
    emit s signal = { s with signals := signal :: s.signals } := by
  rw [emit, hOpen]
  rfl

/-- A malformed reply is refused exactly when the request has failed or the body is an array. -/
theorem malformedReply_rejected_iff {s s' : State}
    (hReachable : Reachable step anyStep Constructed s) (k : ListRequest) {position : Nat}
    (hRequest : s.requests[position]? = some k.request) (error : NetworkError) {body : QJsonValue}
    (hMalformed : ¬IsListOf k.isValid body)
    (hStep : step s (.reply position error body) = some s') :
    Rejected k s s' ↔ error ≠ .noError ∨ body.isArray = true := by
  have hOpen := signalsBlocked_of_reachable hReachable
  have hEvery := every_toArray_iff k.isValid_nil body
  rw [or_iff_left hMalformed] at hEvery
  simp only [step, hRequest, Option.map_some, Option.some.injEq] at hStep
  subst hStep
  have hCases := listReply_cases { s with requests := s.requests.eraseIdx position } error body k
  -- a body that is no array becomes the empty list, whose elements are all valid
  rcases hCases with ⟨hRefused, hEq⟩ | ⟨hPasses, t, hSignals, hBlocked, hEq⟩
  · rw [hEq, emit_open (s := { s with requests := s.requests.eraseIdx position }) hOpen]
    refine ⟨fun _ => ?_, fun _ => ⟨rfl, rfl, rfl⟩⟩
    by_cases hError : error = .noError
    · exact .inr (by simpa [Passes, hError, hEvery] using hRefused)
    · exact .inl hError
  · have hAnnounced : (emit t (k.ready body.toArray)).signals =
        k.ready body.toArray :: s.signals := by
      rw [emit_open (hBlocked.trans hOpen), hSignals]
    rw [hEq]
    constructor
    · intro hRejected
      have hHead := List.head_eq_of_cons_eq (hAnnounced.symm.trans hRejected.signals)
      cases k <;> cases hHead
    · rintro (hFailed | hArray)
      · exact (hFailed hPasses.1).elim
      · simp [hEvery.mp hPasses.2] at hArray

/-- One stage is cached when the stages are requested. -/
def stagesRequested : List Event :=
  [.textMessage (dataMessage "added" "stages" "a" (stageDocument "a")), .call .requestStages]

def afterStagesRequested : State :=
  (perform (onTextMessageReceived freshClient
    (dataMessage "added" "stages" "a" (stageDocument "a"))) .requestStages)

theorem afterStagesRequested_reachable :
    Reachable step anyStep Constructed afterStagesRequested :=
  reachable_of_run stagesRequested (.start freshClient_constructed) rfl

def afterReply (body : QJsonValue) : State :=
  onFinished { afterStagesRequested with requests := afterStagesRequested.requests.eraseIdx 1 }
    .stages .noError body

/-- The element of the array is no stage. -/
theorem malformedReply_rejected_iff_array :
    ListRequest.items .stages afterStagesRequested.resources ≠ [] ∧
      Rejected .stages afterStagesRequested (afterReply (.array [.null])) := by
  have hRequest : afterStagesRequested.requests[1]? = some ListRequest.stages.request := rfl
  refine ⟨List.cons_ne_nil _ _, ?_⟩
  apply (malformedReply_rejected_iff afterStagesRequested_reachable .stages hRequest .noError
    ?_ rfl).mpr (.inr rfl)
  rintro ⟨elements, hArray, hStages⟩
  obtain rfl := QJsonValue.array.inj hArray
  obtain ⟨o, hObject, -⟩ := hStages _ List.mem_cons_self
  cases hObject

theorem objectReply_empties_stages :
    ¬∀ (s s' : State) (k : ListRequest) (position : Nat) (error : NetworkError) (body : QJsonValue),
      Reachable step anyStep Constructed s → s.requests[position]? = some k.request →
      ¬IsListOf k.isValid body → step s (.reply position error body) = some s' →
        Rejected k s s' := by
  intro hAll
  have hRejected := hAll afterStagesRequested (afterReply (.object [])) .stages 1 .noError
    (.object []) afterStagesRequested_reachable rfl
    (by rintro ⟨elements, hArray, -⟩; cases hArray) rfl
  exact absurd (congrArg List.length hRejected.items) (by decide)

end SrcLink.ApiClient
