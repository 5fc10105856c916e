import SrcLink.Client.Announcements
import SrcLink.Client.ListReplies
import SrcLink.Client.PartialViews

/-! # Who writes the participant id

The saved participant id is written by a redeemed invite code and by a logout, the
participants are announced by their reply, by the messages about them and by a redeemed
invite code. Every other handler leaves the id and these announcements alone.
-/

namespace SrcLink.ApiClient

open Json Json.TypedJsonArray Schema StepSystem

set_option autoImplicit false

inductive Notice where
  | participantsReady (participants : QJsonArray)
  | logoutSucceeded

def notice : Signal → Option Notice
  | .participantsReady participants => some (.participantsReady participants)
  | .logoutSucceeded => some .logoutSucceeded
  | _ => none

/-- Newest first. -/
def notices (s : State) : List Notice := s.signals.filterMap notice

def participantView (s : State) : String × List Notice := (s.settings.participantId, notices s)

theorem view_emit (s : State) {signal : Signal} (hOther : notice signal = none) :
    participantView (emit s signal) = participantView s := by
  unfold emit
  split
  · rfl
  · exact congrArg (Prod.mk _) (List.filterMap_cons_none hOther)

def Aspect.concernsParticipants : Aspect → Bool
  | .session | .participants => true
  | _ => false

theorem notice_of_aspect {signal : Signal} (hOther : signal.aspect.concernsParticipants = false) :
    notice signal = none := by
  cases signal <;> first | rfl | cases hOther

theorem participants_view : PartialView Aspect.concernsParticipants participantView where
  emit s _ hOther := view_emit s (notice_of_aspect hOther)
  send s frame := by
    unfold send
    split <;> rfl
  append _ _ _ := rfl
  requests _ _ _ := rfl
  websocket _ _ _ := rfl
  resources _ _ _ := rfl
  downlinks _ _ _ := rfl
  participantId := nofun
  partyId _ _ := rfl
  signalsBlocked _ _ := rfl
  terminating _ _ := rfl
  uplinkStatus _ _ := rfl
  outputs _ _ _ := rfl
  tokens _ _ _ := rfl

/-- The requests whose replies write the id or announce the participants. -/
def Request.concernsParticipants : Request → Bool
  | .participants | .redeemInviteCode _ | .deleteUplink _ true => true
  | _ => false

theorem messageAspect_concerns {name : String} (hOther : name ≠ "participants") :
    (messageAspect name).concernsParticipants = false := by
  unfold messageAspect
  split <;> first | rfl | exact absurd rfl hOther

theorem aspects_of_other {r : Request} (hOther : r.concernsParticipants = false) :
    ∀ aspect ∈ r.aspects, aspect.concernsParticipants = false := by
  cases r with
  | refresh => exact List.forall_mem_nil _
  | participants | redeemInviteCode => cases hOther
  | accountInfo starts | putUplink _ starts =>
    cases starts <;> simp [Request.aspects, Aspect.concernsParticipants]
  | deleteUplink parallel unlinks =>
    cases unlinks with
    | true => cases hOther
    | false => exact List.forall_mem_singleton.mpr rfl
  | _ => exact List.forall_mem_singleton.mpr rfl

theorem view_onFinished (s : State) {r : Request} (hOther : r.concernsParticipants = false)
    (error : NetworkError) (body : QJsonValue) :
    participantView (onFinished s r error body) = participantView s := by
  have hStays : r.unlinks = false := by
    cases r with
    | deleteUplink parallel unlinks =>
      cases unlinks with
      | true => cases hOther
      | false => rfl
    | _ => rfl
  exact participants_view.onFinished (aspects_of_other hOther) hStays error body

/-- A redeemed invite code makes the first of its participants the chosen one, and announces
these participants. -/
def Redeems (s : State) (e : Event) (id : String) (participants : QJsonArray) : Prop :=
  ∃ i inviteCode body participant rest,
    s.requests[i]? = some (.redeemInviteCode inviteCode) ∧ e = .reply i .noError body ∧
      values (MemberActivationResult.getParticipants body.toObject) = participant :: rest ∧
      PartyEventParticipant.getId participant = id ∧
      mergeParticipants s.resources.participants (participant :: rest) = participants

/-- The newest request puts the uplink for the present choice. -/
def PutLast (s : State) : Prop :=
  ∃ older, s.requests = older ++ [.putUplink (putUplinkBody s) false]

/-- What any other step does to the saved id, with the announcement that goes with it. -/
inductive Noticed (s t : State) : Prop where
  | silent (hView : participantView t = participantView s)
  | listed (participants : QJsonArray)
      (hId : t.settings.participantId = s.settings.participantId)
      (hNotices : notices t = .participantsReady participants :: notices s)
  | left (hId : t.settings.participantId = "") (hUnlinked : t.linked = false)
      (hNotices : notices t = .logoutSucceeded :: notices s)

theorem mem_mergeParticipants {id : String} (redeemed : List QJsonObject)
    (participants : QJsonArray)
    (h : id ∈ redeemed.map PartyEventParticipant.getId ∨
      id ∈ (values participants).map PartyEventParticipant.getId) :
    id ∈ (values (mergeParticipants participants redeemed)).map PartyEventParticipant.getId := by
  induction redeemed generalizing participants with
  | nil => exact h.resolve_left List.not_mem_nil
  | cons participant redeemed ih =>
    refine ih _ ?_
    let key (item : QJsonValue) : String := PartyEventParticipant.getId item.toObject
    have hNew : key (.object participant) = PartyEventParticipant.getId participant := rfl
    have hKeys (k : String) :
        k ∈ (KeyedArray.replaceOrAppend key (PartyEventParticipant.getId participant)
          (.object participant) participants).map key ↔
            k = PartyEventParticipant.getId participant ∨ k ∈ participants.map key :=
      KeyedArray.mem_keys_replaceOrAppend key hNew participants
    rw [values, List.map_map] at h ⊢
    rcases h with hRedeemed | hKnown
    · rcases List.mem_cons.mp hRedeemed with hFirst | hLater
      · exact .inr ((hKeys id).mpr (.inl hFirst))
      · exact .inl hLater
    · exact .inr ((hKeys id).mpr (.inr hKnown))

section Steps

variable {s : State}

theorem onParticipantsReply_noticed (hOpen : s.signalsBlocked = false) (error : NetworkError)
    (body : QJsonValue) :
    participantView (onParticipantsReply s error body) = participantView s ∨
      (onParticipantsReply s error body).settings.participantId = s.settings.participantId ∧
        ∃ participants, notices (onParticipantsReply s error body) =
          .participantsReady participants :: notices s := by
  simp only [onParticipantsReply, onListReply]
  split
  · exact .inl (view_emit s rfl)
  · split
    · exact .inl (view_emit s rfl)
    · rw [emit_open (by exact hOpen)]
      exact .inr ⟨rfl, body.toArray, rfl⟩

theorem onTextMessageReceived_noticed (m : QJsonObject) :
    participantView (onTextMessageReceived s m) = participantView s ∨
      (onTextMessageReceived s m).settings.participantId = s.settings.participantId ∧
        ∃ participants, notices (onTextMessageReceived s m) =
          .participantsReady participants :: notices s := by
  by_cases hFor : IsMessageFor .participants m
  · rcases message_cases hFor s with ⟨-, items, hEq⟩ | ⟨-, hEq⟩
    · rw [hEq]
      unfold announce
      cases WebSocketMessage.getContinuous m with
      | true => exact .inl rfl
      | false => exact .inr ⟨rfl, _, rfl⟩
    · rw [hEq]
      exact .inl rfl
  · exact .inl (participants_view.onTextMessageReceived s rfl fun hData =>
      messageAspect_concerns fun hName => hFor ⟨hName, hData⟩)

theorem onO2LinkingSucceeded_noticed (hOpen : s.signalsBlocked = false) :
    participantView (onO2LinkingSucceeded s) = participantView s ∨
      (onO2LinkingSucceeded s).settings.participantId = "" ∧
        (onO2LinkingSucceeded s).linked = false ∧
        notices (onO2LinkingSucceeded s) = .logoutSucceeded :: notices s := by
  simp only [onO2LinkingSucceeded]
  split
  · split
    · refine .inl ((view_emit _ rfl).trans ?_)
      split
      · exact participants_view.request s (.inl rfl)
      · rfl
    · exact .inl rfl
  · next hUnlinked =>
    rw [emit_open (by exact hOpen)]
    exact .inr ⟨rfl, Bool.not_eq_true _ ▸ hUnlinked, rfl⟩

theorem emitAll_pair (hOpen : s.signalsBlocked = false) (first second : Signal) :
    emitAll s [first, second] = { s with signals := second :: first :: s.signals } := by
  rw [emitAll, List.foldl_cons, List.foldl_cons, List.foldl_nil, emit_open hOpen,
    emit_open (by exact hOpen)]

theorem putUplink_cases (s : State) (startsWebSocket : Bool) :
    ∃ requests, putUplink s startsWebSocket = { s with requests := requests } ∧
      (s.refreshToken →
        requests = s.requests ++ [.putUplink (putUplinkBody s) startsWebSocket]) := by
  unfold putUplink request
  split
  · exact ⟨_, rfl, fun _ => rfl⟩
  · next hToken => exact ⟨s.requests, rfl, fun hSome => absurd hSome hToken⟩

/-- The uplink is put for the redeemed participant before anything is announced. -/
theorem redeemed_of_step (hOpen : s.signalsBlocked = false) {e : Event} {id : String}
    {participants : QJsonArray} (hRedeems : Redeems s e id participants) {t : State}
    (hStep : step s e = some t) :
    t.settings.participantId = id ∧ notices t = .participantsReady participants :: notices s ∧
      (t.refreshToken → PutLast t) := by
  obtain ⟨i, inviteCode, body, participant, rest, hRequest, rfl, hRedeemed, rfl, rfl⟩ := hRedeems
  obtain ⟨r, hRequest', rfl⟩ := Option.map_eq_some_iff.mp hStep
  obtain rfl := Option.some.inj (hRequest.symm.trans hRequest')
  obtain ⟨requests, hPut, hLast⟩ := putUplink_cases
    { s with
      requests := s.requests.eraseIdx i
      resources.participants := mergeParticipants s.resources.participants (participant :: rest)
      settings.participantId := PartyEventParticipant.getId participant } false
  simp only [onFinished, onRedeemInviteCodeReply, hRedeemed, ne_eq, not_true_eq_false, if_false]
  rw [hPut, emitAll_pair (by exact hOpen)]
  exact ⟨rfl, rfl, fun hToken => ⟨s.requests.eraseIdx i, hLast hToken⟩⟩

theorem onRedeemInviteCodeReply_noticed (hOpen : s.signalsBlocked = false) (inviteCode : String)
    {error : NetworkError} {body : QJsonValue}
    (hNone : error = .noError →
      values (MemberActivationResult.getParticipants body.toObject) = []) :
    let t := onRedeemInviteCodeReply s inviteCode error body
    participantView t = participantView s ∨
      t.settings.participantId = s.settings.participantId ∧
        ∃ participants, notices t = .participantsReady participants :: notices s := by
  by_cases hError : error = .noError
  · simp only [onRedeemInviteCodeReply, hNone hError, hError, ne_eq, not_true_eq_false, if_false]
    rw [emitAll_pair (by exact hOpen)]
    exact .inr ⟨rfl, _, rfl⟩
  · rw [onRedeemInviteCodeReply, if_pos hError]
    exact .inl (view_emit s rfl)

theorem Noticed.of_cases {t : State}
    (h : participantView t = participantView s ∨
      t.settings.participantId = s.settings.participantId ∧
        ∃ participants, notices t = .participantsReady participants :: notices s) :
    Noticed s t := by
  rcases h with hView | ⟨hId, participants, hNotices⟩
  · exact .silent hView
  · exact .listed participants hId hNotices

/-- The request is taken from the queue before its slots run. -/
theorem noticed_reply (hOpen : s.signalsBlocked = false) {i : Nat} {error : NetworkError}
    {body : QJsonValue} (hOther : ∀ id l, ¬Redeems s (.reply i error body) id l) {t : State}
    (hStep : step s (.reply i error body) = some t) : Noticed s t := by
  obtain ⟨r, hRequest, rfl⟩ := Option.map_eq_some_iff.mp hStep
  cases hConcerns : r.concernsParticipants with
  | false => exact .silent (view_onFinished _ hConcerns error body)
  | true =>
    cases r with
    | participants => exact .of_cases (onParticipantsReply_noticed (by exact hOpen) error body)
    | deleteUplink parallel unlinks =>
      cases unlinks with
      | false => cases hConcerns
      | true =>
        have hReply := participants_view.onDeleteUplinkReply
          { s with requests := s.requests.eraseIdx i } error rfl
        have hUnlinked := onO2LinkingSucceeded_noticed
          (s := { onDeleteUplinkReply { s with requests := s.requests.eraseIdx i } error with
            linked := false
            refreshToken := false })
          ((onDeleteUplinkReply_signalsBlocked _ error).trans hOpen)
        rcases hUnlinked with hView | ⟨hId, hUnlinked, hNotices⟩
        · exact .silent (hView.trans hReply)
        · refine .left hId hUnlinked (hNotices.trans (congrArg (List.cons _) ?_))
          exact congrArg Prod.snd hReply
    | redeemInviteCode inviteCode =>
      refine .of_cases (onRedeemInviteCodeReply_noticed (by exact hOpen) inviteCode
        fun hError => ?_)
      subst hError
      cases hRedeemed : values (MemberActivationResult.getParticipants body.toObject) with
      | nil => rfl
      | cons participant rest =>
        exact absurd ⟨i, inviteCode, body, participant, rest, hRequest, rfl, hRedeemed, rfl, rfl⟩
          (hOther _ _)
    | _ => cases hConcerns

theorem noticed_of_step (hOpen : s.signalsBlocked = false) {e : Event}
    (hOther : ∀ id l, ¬Redeems s e id l) (hForeign : ∀ id, e ≠ .call (.setParticipantId id))
    {t : State} (hStep : step s e = some t) : Noticed s t := by
  cases e with
  | call c =>
    obtain rfl := Option.some.inj hStep
    have hOther (id : String) : c ≠ .setParticipantId id := fun hCall => hForeign id (hCall ▸ rfl)
    exact .silent (participants_view.perform s (.inr hOther))
  | reply i error body => exact noticed_reply hOpen hOther hStep
  | textMessage m =>
    obtain rfl := Option.some.inj hStep
    exact .of_cases (onTextMessageReceived_noticed m)
  | linkingSucceeded =>
    obtain rfl := Option.some.inj hStep
    rcases onO2LinkingSucceeded_noticed hOpen with hView | ⟨hId, hUnlinked, hNotices⟩
    · exact .silent hView
    · exact .left hId hUnlinked hNotices
  | linkingFailed =>
    obtain rfl := Option.some.inj hStep
    exact .silent (view_emit _ rfl)
  | socketConnected | tokensStored =>
    obtain rfl := Option.some.inj hStep
    exact .silent rfl
  | socketDisconnected =>
    obtain rfl := Option.some.inj hStep
    refine .silent ?_
    simp only [onDisconnected]
    split
    · rfl
    · exact view_emit _ rfl

end Steps

end SrcLink.ApiClient
