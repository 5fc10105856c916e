import SrcLink.Client.ParticipantNotices
import SrcLink.Library.ComboBox

/-! # The dock of the uplink

`EgressLinkDock` shows the participants in a combo box. What is chosen is saved in the
settings, and the uplink is put for it. Invite codes are redeemed by the API client, which
saves the new participant itself. The texts, the pictures and the list of connections
follow and decide nothing.
-/

namespace SrcLink.EgressLinkDock

open Json Json.TypedJsonArray Schema StepSystem ApiClient

set_option autoImplicit false

/-- The row of no selection. -/
def participantSelectionNone : String := "none"

structure State where
  client : ApiClient.State
  participantComboBox : ComboBox String

namespace State

/-- `currentData().toString()` -/
def currentId (s : State) : String := s.participantComboBox.currentData.getD ""

def call (s : State) (c : Call) : State := { s with client := perform s.client c }

def onActiveParticipantChanged (s : State) : State :=
  if s.client.settings.participantId ≠ s.currentId then
    (s.call (.setParticipantId s.currentId)).call .putUplink
  else s

def rows (participants : QJsonArray) : List String :=
  if participants.length > 0 then
    participantSelectionNone :: (values participants).map PartyEventParticipant.getId
  else []

/-- Restore selection (or apply default). -/
def restored (participants : QJsonArray) (prev saved : String) : ComboBox String :=
  let comboBox := ComboBox.ofItems (rows participants)
  let selected := if prev = "" ∨ prev = participantSelectionNone then saved else prev
  if selected ≠ "" ∧ selected ≠ participantSelectionNone then comboBox.setDataOrFirst selected
  else comboBox.setFirst

def refilled (participants : QJsonArray) (s : State) : State :=
  { s with
    participantComboBox := restored participants s.currentId s.client.settings.participantId }

def onParticipantsReady (participants : QJsonArray) (s : State) : State :=
  let prev := s.currentId
  let s := s.refilled participants
  if prev ≠ s.currentId then s.onActiveParticipantChanged else s

/-- `currentIndexChanged` is emitted for another index only. -/
def setCurrentIndex (index : Nat) (s : State) : State :=
  let comboBox := s.participantComboBox.setCurrentIndex (some index)
  if comboBox.currentIndex ≠ s.participantComboBox.currentIndex then
    { s with participantComboBox := comboBox }.onActiveParticipantChanged
  else s

/-- `setClientActive(false)` clears the combo box. -/
def onLogoutSucceeded (s : State) : State :=
  let cleared : State := { s with participantComboBox := {} }
  if s.participantComboBox.currentIndex.isSome then cleared.onActiveParticipantChanged
  else cleared

def onNotice (s : State) : Notice → State
  | .participantsReady participants => s.onParticipantsReady participants
  | .logoutSucceeded => s.onLogoutSucceeded

/-- An event of the API client, with the slots of the dock for what it announces. -/
def onClientEvent (s : State) (e : ApiClient.Event) : Option State :=
  (ApiClient.step s.client e).map fun client =>
    let new := (notices client).take ((notices client).length - (notices s.client).length)
    new.foldr (fun n s => s.onNotice n) { s with client := client }

end State

inductive Event where
  /-- anything that does not go through the dock; the dock alone calls `setParticipantId` -/
  | client (e : ApiClient.Event)
  /-- the user chooses a row -/
  | setCurrentIndex (index : Nat)

def step (s : State) : Event → Option State
  | .client (.call (.setParticipantId _)) => none
  | .client e => s.onClientEvent e
  | .setCurrentIndex index =>
    if index < s.participantComboBox.items.length then some (s.setCurrentIndex index) else none

/-- A new dock of a new API client. -/
def Started (s : State) : Prop := Constructed s.client ∧ s.participantComboBox = {}

/-- What an id chooses; the row of no selection stands for none. -/
def chosen (id : String) : String := if id = participantSelectionNone then "" else id

theorem chosen_eq_empty_iff (id : String) :
    chosen id = "" ↔ id = "" ∨ id = participantSelectionNone := by
  unfold chosen
  split
  · next hNone => exact iff_of_true rfl (.inr hNone)
  · next hNone => exact (or_iff_left hNone).symm

section ComboBox

variable {participants : QJsonArray} {id : String}

theorem head_rows (h : State.rows participants ≠ []) :
    (State.rows participants).head? = some participantSelectionNone := by
  unfold State.rows at h ⊢
  split
  · rfl
  · next hNone => exact absurd (if_neg hNone) h

theorem mem_rows_iff (hId : chosen id ≠ "") :
    id ∈ State.rows participants ↔ id ∈ (values participants).map PartyEventParticipant.getId := by
  unfold State.rows
  split
  · refine List.mem_cons.trans (or_iff_right fun hNone => ?_)
    exact hId ((chosen_eq_empty_iff id).mpr (.inr hNone))
  · next hEmpty =>
    have hNil : participants = [] := List.eq_nil_of_length_eq_zero (by omega)
    rw [hNil]
    rfl

theorem restored_items (participants : QJsonArray) (prev saved : String) :
    (State.restored participants prev saved).items = State.rows participants := by
  unfold State.restored
  simp only
  generalize (if prev = "" ∨ prev = participantSelectionNone then saved else prev) = selected
  split <;> rfl

/-- The row that was shown is shown again, or else the saved one, or else no selection. -/
theorem currentData_restored (hRows : State.rows participants ≠ []) (prev saved : String) :
    (State.restored participants prev saved).currentData =
      let selected := if chosen prev = "" then saved else prev
      some (if chosen selected ≠ "" ∧ selected ∈ State.rows participants then selected
        else participantSelectionNone) := by
  unfold State.restored
  simp only [← chosen_eq_empty_iff, ← not_or, ← ne_eq]
  generalize (if chosen prev = "" then saved else prev) = selected
  exact ComboBox.currentData_ite_setDataOrFirst (head_rows hRows)

end ComboBox

/-- The saved participant is the one that is shown. -/
def Agreed (s : State) : Prop :=
  s.participantComboBox.items ≠ [] →
    chosen s.client.settings.participantId = chosen s.currentId

section Choice

variable {s : State} {participants : QJsonArray}

theorem onActiveParticipantChanged_cases (s : State) :
    s.client.settings.participantId = s.currentId ∧ s.onActiveParticipantChanged = s ∨
      ∃ client, s.onActiveParticipantChanged = { s with client := client } ∧
        client.settings.participantId = s.currentId ∧ client.linked = s.client.linked ∧
        (client.refreshToken → PutLast client) := by
  unfold State.onActiveParticipantChanged
  split
  · obtain ⟨requests, hPut, hLast⟩ :=
      putUplink_cases (perform s.client (.setParticipantId s.currentId)) false
    refine .inr ⟨putUplink (perform s.client (.setParticipantId s.currentId)) false, rfl, ?_⟩
    rw [hPut]
    exact ⟨rfl, rfl, fun hToken => ⟨s.client.requests, hLast hToken⟩⟩
  · next hSame => exact .inl ⟨not_not.mp hSame, rfl⟩

theorem onActiveParticipantChanged_agreed (s : State) : Agreed s.onActiveParticipantChanged := by
  rcases onActiveParticipantChanged_cases s with ⟨hSame, hEq⟩ | ⟨client, hEq, hSaved, -⟩
  · rw [hEq]
    exact fun _ => congrArg chosen hSame
  · rw [hEq]
    exact fun _ => congrArg chosen hSaved

theorem onActiveParticipantChanged_comboBox (s : State) :
    s.onActiveParticipantChanged.participantComboBox = s.participantComboBox := by
  rcases onActiveParticipantChanged_cases s with ⟨-, hEq⟩ | ⟨client, hEq, -⟩ <;> rw [hEq]

theorem onParticipantsReady_items (s : State) (participants : QJsonArray) :
    (s.onParticipantsReady participants).participantComboBox.items = State.rows participants := by
  simp only [State.onParticipantsReady]
  split
  · rw [onActiveParticipantChanged_comboBox]
    exact restored_items ..
  · exact restored_items ..

theorem currentId_refilled (hRows : State.rows participants ≠ []) (s : State) :
    (s.refilled participants).currentId =
      let selected :=
        if chosen s.currentId = "" then s.client.settings.participantId else s.currentId
      if chosen selected ≠ "" ∧ selected ∈ State.rows participants then selected
      else participantSelectionNone := by
  have hData := currentData_restored hRows s.currentId s.client.settings.participantId
  exact congrArg (Option.getD · "") hData

/-- The dock follows the saved id unless it shows another participant that is still there. -/
theorem onParticipantsReady_agreed_iff
    (hSaved : s.participantComboBox.items ≠ [] → chosen s.currentId = "" →
      chosen s.client.settings.participantId ≠ "" →
      s.client.settings.participantId ∈ State.rows participants) :
    Agreed (s.onParticipantsReady participants) ↔
      (chosen s.currentId ≠ "" → s.currentId ∈ State.rows participants →
        chosen s.client.settings.participantId = chosen s.currentId) := by
  by_cases hRows : State.rows participants = []
  · -- without participants there is no row to agree with
    refine iff_of_true (fun hSome => absurd ?_ hSome) fun _ hMem => ?_
    · exact (onParticipantsReady_items s participants).trans hRows
    · rw [hRows] at hMem
      cases hMem
  · have hCurrent := currentId_refilled hRows s
    have hChanged (hOther : s.currentId ≠ (s.refilled participants).currentId) :
        Agreed (s.onParticipantsReady participants) := by
      simp only [State.onParticipantsReady, if_pos hOther]
      exact onActiveParticipantChanged_agreed _
    have hKept (hSame : s.currentId = (s.refilled participants).currentId) :
        Agreed (s.onParticipantsReady participants) ↔
          chosen s.client.settings.participantId = chosen s.currentId := by
      simp only [State.onParticipantsReady, if_neg (not_not.mpr hSame)]
      rw [Agreed, ← hSame]
      exact forall_prop_of_true ((restored_items ..).trans_ne hRows)
    by_cases hPrev : chosen s.currentId = ""
    · refine iff_of_true ?_ fun hSome => absurd hPrev hSome
      by_cases hSame : s.currentId = (s.refilled participants).currentId
      · rw [hKept hSame, hPrev]
        simp only [if_pos hPrev] at hCurrent
        split at hCurrent
        · next hFound =>
          -- the saved participant would be shown instead
          rw [← hCurrent, ← hSame] at hFound
          exact absurd hPrev hFound.1
        · next hMissing =>
          have hShown : s.currentId ≠ "" := by
            rw [hSame, hCurrent]
            decide
          by_contra hSome
          exact hMissing ⟨hSome, hSaved (ComboBox.items_ne_nil_of_currentData hShown) hPrev hSome⟩
      · exact hChanged hSame
    · simp only [if_neg hPrev] at hCurrent
      by_cases hMem : s.currentId ∈ State.rows participants
      · rw [if_pos ⟨hPrev, hMem⟩] at hCurrent
        rw [hKept hCurrent.symm]
        exact ⟨fun hSame _ _ => hSame, fun hAll => hAll hPrev hMem⟩
      · rw [if_neg fun h => hMem h.2] at hCurrent
        refine iff_of_true (hChanged fun hSame => hPrev ?_) fun _ hFound => absurd hFound hMem
        rw [hSame, hCurrent]
        exact if_pos rfl

theorem setCurrentIndex_agreed (hAgreed : Agreed s) (index : Nat) :
    Agreed (s.setCurrentIndex index) := by
  simp only [State.setCurrentIndex]
  split
  · exact onActiveParticipantChanged_agreed _
  · exact hAgreed

theorem onLogoutSucceeded_agreed (s : State) : Agreed s.onLogoutSucceeded := by
  simp only [State.onLogoutSucceeded]
  split
  · exact onActiveParticipantChanged_agreed _
  · exact fun hSome => absurd rfl hSome

end Choice

section ClientEvents

variable {s t : State} {e : ApiClient.Event}

theorem onClientEvent_quiet {client : ApiClient.State} (hStep : ApiClient.step s.client e = some client)
    (hNotices : notices client = notices s.client) :
    s.onClientEvent e = some { s with client := client } := by
  simp [State.onClientEvent, hStep, hNotices]

theorem onClientEvent_noticed {client : ApiClient.State} {n : Notice}
    (hStep : ApiClient.step s.client e = some client)
    (hNotices : notices client = n :: notices s.client) :
    s.onClientEvent e = some (State.onNotice { s with client := client } n) := by
  simp [State.onClientEvent, hStep, hNotices]

theorem step_client (hStep : step s (.client e) = some t) :
    (∀ id, e ≠ .call (.setParticipantId id)) ∧ s.onClientEvent e = some t := by
  unfold step at hStep
  split at hStep
  · cases hStep
  · next hOwn hEvent =>
    obtain rfl := Event.client.inj hEvent
    exact ⟨hOwn, hStep⟩
  · next hEvent => cases hEvent

/-- A redeemed participant does not have to give way to another one that is shown. -/
def KeepsChoice (s : State) : Event → Prop
  | .client e => ∀ id participants, Redeems s.client e id participants →
      chosen s.currentId ≠ "" → s.currentId ∈ State.rows participants →
        chosen id = chosen s.currentId
  | .setCurrentIndex _ => True

theorem redeemed_agreed_iff (hOpen : s.client.signalsBlocked = false) {id : String}
    {participants : QJsonArray} (hRedeems : Redeems s.client e id participants)
    (hStep : s.onClientEvent e = some t) : Agreed t ↔ KeepsChoice s (.client e) := by
  obtain ⟨client, hClient, -⟩ := Option.map_eq_some_iff.mp hStep
  obtain ⟨hId, hNotices, -⟩ := redeemed_of_step hOpen hRedeems hClient
  rw [onClientEvent_noticed hClient hNotices] at hStep
  obtain rfl := Option.some.inj hStep
  have hListed (hSome : chosen id ≠ "") : id ∈ State.rows participants := by
    obtain ⟨_, _, _, participant, rest, _, _, _, hFirst, rfl⟩ := hRedeems
    exact (mem_rows_iff hSome).mpr
      (mem_mergeParticipants _ _ (.inl (List.mem_map.mpr ⟨participant, List.mem_cons_self, hFirst⟩)))
  refine (onParticipantsReady_agreed_iff fun _ _ hSome => ?_).trans ?_
  · exact hId ▸ hListed (hId ▸ hSome)
  · refine ⟨fun hKeeps id' participants' hRedeems' => ?_, fun hKeeps => ?_⟩
    · obtain ⟨hId', hNotices', -⟩ := redeemed_of_step hOpen hRedeems' hClient
      obtain rfl := Notice.participantsReady.inj (List.cons.inj (hNotices.symm.trans hNotices')).1
      exact hId' ▸ hKeeps
    · exact hId ▸ hKeeps id participants hRedeems

theorem step_agreed_iff {e : Event} (hOpen : s.client.signalsBlocked = false) (hAgreed : Agreed s)
    (hStep : step s e = some t) : Agreed t ↔ KeepsChoice s e := by
  cases e with
  | setCurrentIndex index =>
    obtain ⟨_, ⟨⟩⟩ := Option.ite_none_right_eq_some.mp hStep
    exact iff_of_true (setCurrentIndex_agreed hAgreed index) trivial
  | client e =>
    obtain ⟨hForeign, hEvent⟩ := step_client hStep
    by_cases hRedeems : ∃ id participants, Redeems s.client e id participants
    · obtain ⟨id, participants, hRedeems⟩ := hRedeems
      exact redeemed_agreed_iff hOpen hRedeems hEvent
    · have hOther : ∀ id l, ¬Redeems s.client e id l := fun id l h => hRedeems ⟨id, l, h⟩
      refine iff_of_true ?_ fun id l h => absurd h (hOther id l)
      obtain ⟨client, hClient, -⟩ := Option.map_eq_some_iff.mp hEvent
      cases noticed_of_step hOpen hOther hForeign hClient with
      | silent hView =>
        rw [onClientEvent_quiet hClient (congrArg Prod.snd hView)] at hEvent
        obtain rfl := Option.some.inj hEvent
        have hId : client.settings.participantId = s.client.settings.participantId :=
          congrArg Prod.fst hView
        exact fun hItems => (congrArg chosen hId).trans (hAgreed hItems)
      | listed participants hId hNotices =>
        rw [onClientEvent_noticed hClient hNotices] at hEvent
        obtain rfl := Option.some.inj hEvent
        refine (onParticipantsReady_agreed_iff fun hItems hNone hSome => ?_).mpr fun hSome _ => ?_
        · exact absurd ((congrArg chosen hId).trans ((hAgreed hItems).trans hNone)) hSome
        · have hItems : s.participantComboBox.items ≠ [] :=
            ComboBox.items_ne_nil_of_currentData fun hEmpty => hSome (congrArg chosen hEmpty)
          exact (congrArg chosen hId).trans (hAgreed hItems)
      | left _ _ hNotices =>
        rw [onClientEvent_noticed hClient hNotices] at hEvent
        obtain rfl := Option.some.inj hEvent
        exact onLogoutSucceeded_agreed _

end ClientEvents

abbrev ReachableClient (client : ApiClient.State) : Prop :=
  Reachable ApiClient.step anyStep Constructed client

section Reachable

variable {s t : State}

/-- What the dock does to the client are two of its calls. -/
theorem reachable_onActiveParticipantChanged (h : ReachableClient s.client) :
    ReachableClient s.onActiveParticipantChanged.client := by
  unfold State.onActiveParticipantChanged
  split
  · have hSaved : ReachableClient (s.call (.setParticipantId s.currentId)).client :=
      .next (e := .call (.setParticipantId s.currentId)) h trivial rfl
    exact .next (e := .call .putUplink) hSaved trivial rfl
  · exact h

theorem reachable_onNotice (h : ReachableClient s.client) (n : Notice) :
    ReachableClient (s.onNotice n).client := by
  cases n with
  | participantsReady participants =>
    simp only [State.onNotice, State.onParticipantsReady]
    split
    · exact reachable_onActiveParticipantChanged h
    · exact h
  | logoutSucceeded =>
    simp only [State.onNotice, State.onLogoutSucceeded]
    split
    · exact reachable_onActiveParticipantChanged h
    · exact h

theorem reachable_foldr (h : ReachableClient s.client) (new : List Notice) :
    ReachableClient (new.foldr (fun n s => s.onNotice n) s).client := by
  induction new with
  | nil => exact h
  | cons n new ih => exact reachable_onNotice ih n

theorem reachable_step {e : Event} (h : ReachableClient s.client) (hStep : step s e = some t) :
    ReachableClient t.client := by
  cases e with
  | setCurrentIndex index =>
    obtain ⟨_, ⟨⟩⟩ := Option.ite_none_right_eq_some.mp hStep
    simp only [State.setCurrentIndex]
    split
    · exact reachable_onActiveParticipantChanged h
    · exact h
  | client e =>
    obtain ⟨client, hClient, rfl⟩ := Option.map_eq_some_iff.mp (step_client hStep).2
    have hReached : ReachableClient client := .next h trivial hClient
    exact reachable_foldr (s := { s with client := client }) hReached _

end Reachable

section Runs

variable (x : Execution step)

theorem signalsBlocked_of_started (hStart : Started (x.state 0)) (n : Nat) :
    (x.state n).client.signalsBlocked = false := by
  apply signalsBlocked_of_reachable
  exact x.always (fun s => ReachableClient s.client) (.start hStart.1)
    (fun _ _ _ => reachable_step) n

/-- The participant that is shown and the saved one are the same all the time exactly if no
redeemed participant has to give way to another one that is shown. -/
theorem agreed_iff_keepsChoices (hStart : Started (x.state 0)) :
    (∀ n, Agreed (x.state n)) ↔ ∀ n e, x.event n = some e → KeepsChoice (x.state n) e := by
  have hAgreed : Agreed (x.state 0) := fun hItems => absurd (by rw [hStart.2]) hItems
  refine x.always_iff hAgreed fun n e hEvent hn => ?_
  exact step_agreed_iff (signalsBlocked_of_started x hStart n) hn (x.next_of_event hEvent)

end Runs

def freshDock : State := { client := freshClient, participantComboBox := {} }

def activation : QJsonValue :=
  .object [("participants", .array [.object [("_id", .string "participant")]])]

/-- An invite code is redeemed, and then the user chooses no participant. -/
def redeemed : List Event :=
  [.client (.call (.redeemInviteCode "code")), .client (.reply 1 .noError activation),
    .setCurrentIndex 0]

def redeemedRun : Execution step := .ofRun step freshDock redeemed (by decide +kernel)

theorem agreed_iff_keepsChoices_redeemed :
    (redeemedRun.state 2).currentId = "participant" ∧ (redeemedRun.state 3).currentId = "none" ∧
      ∀ n, Agreed (redeemedRun.state n) := by
  refine ⟨by decide +kernel, by decide +kernel, ?_⟩
  refine (agreed_iff_keepsChoices redeemedRun ⟨freshClient_constructed, rfl⟩).mpr ?_
  intro n e hEvent
  match n with
  | 0 =>
    obtain rfl := Option.some.inj hEvent
    exact fun _ _ _ hShown => absurd (by decide +kernel) hShown
  | 1 =>
    obtain rfl := Option.some.inj hEvent
    exact fun _ _ _ hShown => absurd (by decide +kernel) hShown
  | 2 => exact Option.some.inj hEvent ▸ trivial
  | n + 3 => cases hEvent

/-- A changed id has been put, unless the session is over. -/
def Puts (s t : ApiClient.State) : Prop :=
  t.settings.participantId ≠ s.settings.participantId → t.linked → t.refreshToken → PutLast t

theorem value_putUplinkBody (s : ApiClient.State) :
    (putUplinkBody s).value "participant_id" = .string (chosen s.settings.participantId) := by
  unfold chosen participantSelectionNone
  by_cases hNone : s.settings.participantId = "none"
  · rw [if_pos hNone]
    simp [putUplinkBody, QJsonObject.value, hNone]
  · rw [if_neg hNone]
    simp [putUplinkBody, QJsonObject.value, hNone]

section Puts

variable {s t : State}

theorem onNotice_client (s : State) (n : Notice) :
    (s.onNotice n).client = s.client ∨
      (s.onNotice n).client.linked = s.client.linked ∧
        ((s.onNotice n).client.refreshToken → PutLast (s.onNotice n).client) := by
  have hActive (u : State) (hClient : u.client = s.client) :
      u.onActiveParticipantChanged.client = s.client ∨
        u.onActiveParticipantChanged.client.linked = s.client.linked ∧
          (u.onActiveParticipantChanged.client.refreshToken →
            PutLast u.onActiveParticipantChanged.client) := by
    rcases onActiveParticipantChanged_cases u with ⟨-, hEq⟩ | ⟨client, hEq, -, hLinked, hPut⟩
    · rw [hEq]
      exact .inl hClient
    · rw [hEq]
      exact .inr ⟨hClient ▸ hLinked, hPut⟩
  cases n with
  | participantsReady participants =>
    simp only [State.onNotice, State.onParticipantsReady]
    split
    · exact hActive _ rfl
    · exact .inl rfl
  | logoutSucceeded =>
    simp only [State.onNotice, State.onLogoutSucceeded]
    split
    · exact hActive _ rfl
    · exact .inl rfl

/-- What the dock does after an event of the client. -/
theorem Puts.onNotice {client : ApiClient.State} (h : Puts s.client client) (n : Notice) :
    Puts s.client (State.onNotice { s with client := client } n).client := by
  intro hChanged hLinked hToken
  rcases onNotice_client { s with client := client } n with hSame | ⟨-, hPut⟩
  · rw [hSame] at hChanged hLinked hToken ⊢
    exact h hChanged hLinked hToken
  · exact hPut hToken

theorem step_puts {e : Event} (hOpen : s.client.signalsBlocked = false)
    (hStep : step s e = some t) : Puts s.client t.client := by
  cases e with
  | setCurrentIndex index =>
    obtain ⟨_, ⟨⟩⟩ := Option.ite_none_right_eq_some.mp hStep
    simp only [State.setCurrentIndex]
    split
    · intro hChanged _ hToken
      rcases onActiveParticipantChanged_cases { s with
          participantComboBox := s.participantComboBox.setCurrentIndex (some index) }
        with ⟨-, hEq⟩ | ⟨client, hEq, -, -, hPut⟩
      · rw [hEq] at hChanged
        exact absurd rfl hChanged
      · rw [hEq] at hToken ⊢
        exact hPut hToken
    · exact fun hChanged => absurd rfl hChanged
  | client e =>
    obtain ⟨hForeign, hEvent⟩ := step_client hStep
    obtain ⟨client, hClient, -⟩ := Option.map_eq_some_iff.mp hEvent
    by_cases hRedeems : ∃ id participants, Redeems s.client e id participants
    · obtain ⟨id, participants, hRedeems⟩ := hRedeems
      obtain ⟨-, hNotices, hPut⟩ := redeemed_of_step hOpen hRedeems hClient
      rw [onClientEvent_noticed hClient hNotices] at hEvent
      obtain rfl := Option.some.inj hEvent
      exact Puts.onNotice (fun _ _ hToken => hPut hToken) _
    · have hOther : ∀ id l, ¬Redeems s.client e id l := fun id l h => hRedeems ⟨id, l, h⟩
      cases noticed_of_step hOpen hOther hForeign hClient with
      | silent hView =>
        rw [onClientEvent_quiet hClient (congrArg Prod.snd hView)] at hEvent
        obtain rfl := Option.some.inj hEvent
        exact fun hChanged => absurd (congrArg Prod.fst hView) hChanged
      | listed participants hId hNotices =>
        rw [onClientEvent_noticed hClient hNotices] at hEvent
        obtain rfl := Option.some.inj hEvent
        exact Puts.onNotice (fun hChanged => absurd hId hChanged) _
      | left _ hUnlinked hNotices =>
        rw [onClientEvent_noticed hClient hNotices] at hEvent
        obtain rfl := Option.some.inj hEvent
        refine Puts.onNotice (fun _ hLinked => ?_) _
        rw [hUnlinked] at hLinked
        cases hLinked

/-- Whoever changes the saved participant, while the session lasts the newest request puts the
uplink for it. -/
theorem uplink_put_of_changed (x : Execution step) (hStart : Started (x.state 0)) (n : Nat)
    (hChanged : (x.state (n + 1)).client.settings.participantId ≠
      (x.state n).client.settings.participantId)
    (hLinked : (x.state (n + 1)).client.linked = true)
    (hToken : (x.state (n + 1)).client.refreshToken = true) :
    ∃ older body, (x.state (n + 1)).client.requests = older ++ [.putUplink body false] ∧
      body.value "participant_id" =
        .string (chosen (x.state (n + 1)).client.settings.participantId) := by
  cases hEvent : x.event n with
  | none => exact absurd (by rw [x.next_of_none hEvent]) hChanged
  | some e =>
    have hPuts := step_puts (signalsBlocked_of_started x hStart n) (x.next_of_event hEvent)
    obtain ⟨older, hRequests⟩ := hPuts hChanged hLinked hToken
    exact ⟨older, _, hRequests, value_putUplinkBody _⟩

theorem uplink_put_of_changed_redeemed :
    ∃ older body, (redeemedRun.state 2).client.requests = older ++ [.putUplink body false] ∧
      body.value "participant_id" = .string "participant" := by
  obtain ⟨older, body, hRequests, hBody⟩ :=
    uplink_put_of_changed redeemedRun ⟨freshClient_constructed, rfl⟩ 1 (by decide +kernel)
      (by decide +kernel) (by decide +kernel)
  have hChosen : chosen (redeemedRun.state 2).client.settings.participantId = "participant" := by
    decide +kernel
  exact ⟨older, body, hRequests, hChosen ▸ hBody⟩

end Puts

end SrcLink.EgressLinkDock
