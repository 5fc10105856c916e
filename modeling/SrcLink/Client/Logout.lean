import SrcLink.Client.StableViews

/-! # Completeness of a logout

`onO2LinkingSucceeded` clears every cache before it emits `logoutSucceeded`. The
requests issued before are not cancelled: the caches stay empty until the next
login as long as no late reply and no late message brings a document.
-/

namespace SrcLink.ApiClient

open Json Json.TypedJsonArray Schema Schema.WebSocketMessage StepSystem

set_option autoImplicit false

def lastSession (s : State) : Option Bool := s.signals.findSome? sessionSignal

/-- `logoutSucceeded` has been emitted, and no `loginSucceeded` since. -/
def LoggedOut (s : State) : Prop := lastSession s = some false

instance (s : State) : Decidable (LoggedOut s) := inferInstanceAs (Decidable (_ = _))

theorem lastSession_stable : Stable (fun _ => True) lastSession where
  emit s signal hOther := by
    unfold emit
    split
    · rfl
    · rw [lastSession, List.findSome?_cons, hOther]
      rfl
  send s frame _ := by
    unfold send
    split <;> rfl
  requests _ _ := rfl
  resources _ _ := rfl
  settings _ _ := rfl
  websocket _ _ := rfl
  signalsBlocked _ _ := rfl
  terminating _ _ := rfl
  uplinkStatus _ _ := rfl
  outputs _ _ _ := rfl
  tokens _ _ _ := rfl

theorem linked_lastSession {s : State} (hLinked : s.linked = true) :
    lastSession (onO2LinkingSucceeded s) = lastSession s ∨
      lastSession (onO2LinkingSucceeded s) = some true := by
  have hLogin (t : State) : lastSession (emit t .loginSucceeded) = lastSession t ∨
      lastSession (emit t .loginSucceeded) = some true := by
    simp only [emit]
    split
    · exact .inl rfl
    · exact .inr rfl
  simp only [onO2LinkingSucceeded, if_pos hLinked]
  split
  · split
    · exact (hLogin _).imp_left fun h => h.trans (lastSession_stable.request s _)
    · exact hLogin s
  · exact .inl rfl

/-- A step that ends in the logged-out state started there or cleared the caches. -/
theorem step_session {s s' : State} {e : Event} (hStep : step s e = some s')
    (hLoggedOut : LoggedOut s') : LoggedOut s ∨ s'.resources = {} := by
  by_cases hRelinks : Relinks s e
  · cases e with
    | linkingSucceeded =>
      obtain rfl := Option.some.inj hStep
      by_cases hLinked : s.linked = true
      · obtain hKept | hLogin := linked_lastSession hLinked
        · exact .inl (hKept.symm.trans hLoggedOut)
        · cases hLogin.symm.trans hLoggedOut
      · exact .inr ((onO2LinkingSucceeded_resources s).trans (if_neg hLinked))
    | reply i error body =>
      obtain ⟨parallel, hRequest⟩ := hRelinks
      rw [step, hRequest] at hStep
      obtain rfl := Option.some.inj hStep
      exact .inr (unlink_resources _)
    | _ => exact hRelinks.elim
  · have hKept := lastSession_stable.step hStep (fun _ _ => trivial) hRelinks
    exact .inl (hKept.symm.trans hLoggedOut)

/-- Whether a successful reply with this body stores a document. -/
def Request.Stores (terminating : Bool) (body : QJsonValue) : Request → Prop
  | .accountInfo _ => AccountInfo.isValid body.toObject
  | .parties => body.toArray ≠ [] ∧ every body.toArray Party.isValid
  | .partyEvents => body.toArray ≠ [] ∧ every body.toArray PartyEvent.isValid
  | .participants => body.toArray ≠ [] ∧ every body.toArray PartyEventParticipant.isValid
  | .stages => body.toArray ≠ [] ∧ every body.toArray Stage.isValid
  | .uplink | .putUplink _ _ | .putUplinkStatus _ =>
    terminating = false ∧ UplinkInfo.isValid body.toObject
  | .downlink _ | .putDownlink _ _ | .putDownlinkStatus _ => DownlinkInfo.isValid body.toObject
  | .redeemInviteCode _ => MemberActivationResult.getParticipants body.toObject ≠ []
  | .refresh | .deleteDownlink _ _ | .deleteUplink _ _ => False

/-- Whether an event brings a document that its handler stores. -/
def BringsDocument (s : State) : Event → Prop
  | .reply i error body =>
    error = .noError ∧ ∃ r, s.requests[i]? = some r ∧ r.Stores s.terminating body
  | .textMessage m =>
    IsChange m ∧
      ((∃ k : Kind, getName m = k.name ∧ k.collection.isValid (getPayload m)) ∨
        (∃ f, Field.named (getName m) = some f ∧ f.isValid (getPayload m)) ∨
        getName m = "downlink.connections" ∧ StageConnection.isValid (getPayload m))
  | _ => False

/-- No document arrives while the client is logged out. -/
def NoLateDocument (s : State) (e : Event) : Prop := LoggedOut s → ¬BringsDocument s e

theorem update_of_empty {s : State} (hEmpty : s.resources = {}) {e : Event} {r : Resources}
    (hUpdate : Update s e r) (hNone : ¬BringsDocument s e) : r = {} := by
  have hReply {i : Nat} {body : QJsonValue} {request : Request}
      (hRequest : s.requests[i]? = some request)
      (hNone : ¬BringsDocument s (.reply i .noError body)) :
      ¬request.Stores s.terminating body :=
    fun hStores => hNone ⟨rfl, request, hRequest, hStores⟩
  cases hUpdate with
  | unchanged => exact hEmpty
  | accountInfo hRequest hValid => exact (hReply hRequest hNone hValid).elim
  | parties hRequest hValid | partyEvents hRequest hValid | participants hRequest hValid
  | stages hRequest hValid =>
    have hBody := not_not.mp fun hSome => hReply hRequest hNone ⟨hSome, hValid⟩
    rw [hBody, hEmpty]
  | @uplink i request body hRequest hStores hRunning hValid =>
    -- the requests that store an uplink are those whose replies are excluded
    have hNot := hReply hRequest hNone
    cases request <;> first | exact hStores.elim | exact (hNot ⟨hRunning, hValid⟩).elim
  | @downlink i request sourceUuid body hRequest hStores hValid =>
    have hNot := hReply hRequest hNone
    cases request <;> first | cases hStores; done | exact (hNot hValid).elim
  | redeemed hRequest =>
    have hParticipants := not_not.mp (hReply hRequest hNone)
    rw [hParticipants, hEmpty]
    rfl
  | deletedDownlink | downlinkRemoved =>
    rw [hEmpty]
    rfl
  | deletedUplink | terminated => rw [hEmpty]
  | unlinked | cleared => rfl
  | collectionChanged hChange hName hValid =>
    exact (hNone ⟨hChange, .inl ⟨_, hName, hValid⟩⟩).elim
  | fieldChanged hChange hName hValid =>
    exact (hNone ⟨hChange, .inr (.inl ⟨_, hName, hValid⟩)⟩).elim
  | downlinkConnection hChange hName hValid =>
    exact (hNone ⟨hChange, .inr (.inr ⟨hName, hValid⟩)⟩).elim
  | @collectionRemoved k m hRemoval hName hContains =>
    -- nothing can be removed from an empty cache
    rw [hEmpty] at hContains
    cases k <;> cases hContains
  | uplinkFieldRemoved =>
    rw [hEmpty]
    rfl

theorem empty_of_loggedOut {s : State} (h : Reachable step NoLateDocument Constructed s)
    (hLoggedOut : LoggedOut s) : s.resources = {} := by
  induction h with
  | start hStart =>
    obtain ⟨uuid, settings, linked, refreshToken, expired, rfl⟩ := hStart
    unfold construct
    split <;> simp
  | next _ hLate hStep ih =>
    obtain hBefore | hCleared := step_session hStep hLoggedOut
    · exact update_of_empty (ih hBefore) (step_update hStep) (hLate hBefore)
    · exact hCleared

/-- The next login starts a session: its request for the account information is followed by
`putUplink`, and whatever the answer to that, the WebSocket is started. -/
structure StartsSession (s : State) : Prop where
  requestsAccountInfo : s.linked = true → s.refreshToken = true →
    (onO2LinkingSucceeded s).requests = s.requests ++ [.accountInfo true]
  putsUplink : ∀ t body, t.refreshToken = true →
    ∃ sentBody, .putUplink sentBody true ∈ (onFinished t (.accountInfo true) .noError body).requests
  startsWebSocket : ∀ t sentBody error body,
    (onFinished t (.putUplink sentBody true) error body).websocket.started = true

theorem emitLicenseChanged_refreshToken (s : State) (license : QJsonObject) :
    (emitLicenseChanged s license).refreshToken = s.refreshToken := by
  simp only [emitLicenseChanged]
  split
  · rfl
  · split <;> simp [putUplink]

theorem onAccountInfoReply_refreshToken (s : State) (error : NetworkError) (body : QJsonValue) :
    (onAccountInfoReply s error body).refreshToken = s.refreshToken := by
  simp only [onAccountInfoReply]
  split
  · exact emit_refreshToken s _
  · split
    · exact emit_refreshToken s _
    · split
      · exact (emitLicenseChanged_refreshToken _ _).trans (emit_refreshToken _ _)
      · exact emit_refreshToken _ _

theorem startsSession_of_empty {s : State} (hEmpty : s.resources = {}) : StartsSession s := by
  constructor
  · intro hLinked hToken
    simp only [onO2LinkingSucceeded, hLinked, hToken, hEmpty, List.isEmpty_nil, if_true,
      emit_requests]
    exact request_requests hToken _
  · intro t body hToken
    have hKept := (onAccountInfoReply_refreshToken t .noError body).trans hToken
    simp only [onFinished, decide_true, Bool.and_self, if_true]
    exact ⟨_, by rw [putUplink, request_requests hKept]; exact List.mem_append_right _ List.mem_cons_self⟩
  · intro t sentBody error body
    simp only [onFinished, if_true, WebSocket.start]
    split
    · next hStarted => exact hStarted
    · rfl

structure LogoutComplete (s : State) : Prop where
  empty : s.resources = {}
  nextLogin : StartsSession s

theorem logoutComplete_of_noLateDocument {s : State}
    (h : Reachable step NoLateDocument Constructed s) (hLoggedOut : LoggedOut s) :
    LogoutComplete s := by
  have hEmpty := empty_of_loggedOut h hLoggedOut
  exact ⟨hEmpty, startsSession_of_empty hEmpty⟩

/-- A stage is cached, then the client logs out. -/
theorem logoutComplete_of_noLateDocument_loggedOut :
    ∃ s, LoggedOut s ∧ LogoutComplete s := by
  have hCached : Reachable step NoLateDocument Constructed _ :=
    .next (e := Event.textMessage (dataMessage "added" "stages" "a" (stageDocument "a")))
      (.start freshClient_constructed) (fun hLoggedOut => nomatch hLoggedOut) rfl
  have hLeaving := Reachable.next (e := Event.call .logout) hCached
    (fun hLoggedOut => absurd hLoggedOut (by decide +kernel)) rfl
  have hLeft := Reachable.next (e := Event.reply 1 .noError .undefined) hLeaving
    (fun hLoggedOut => absurd hLoggedOut (by decide +kernel)) rfl
  exact ⟨_, by decide +kernel, logoutComplete_of_noLateDocument hLeft (by decide +kernel)⟩

/-- The stages requested before the logout arrive after it. -/
theorem not_logoutComplete :
    ¬∀ s, Reachable step anyStep Constructed s → LoggedOut s → LogoutComplete s := by
  intro hAll
  have hIdle : Reachable step anyStep Constructed _ :=
    .next (e := Event.reply 0 (.other 1) .undefined) (.start freshClient_constructed) trivial rfl
  have hRequested := Reachable.next (e := Event.call .requestStages) hIdle trivial rfl
  have hLeaving := Reachable.next (e := Event.call .logout) hRequested trivial rfl
  have hLeft := Reachable.next (e := Event.reply 1 .noError .undefined) hLeaving trivial rfl
  have hLate := Reachable.next
    (e := Event.reply 0 .noError (.array [.object (stageDocument "a")])) hLeft trivial rfl
  have hEmpty := (hAll _ hLate (by decide +kernel)).empty
  exact absurd (congrArg (fun r => r.stages.length) hEmpty) (by decide +kernel)

end SrcLink.ApiClient
