import SrcLink.Library.ComboBox
import SrcLink.Portal.PortalSockets

/-! # The dock of the portals

`WsPortalDock` shows the portals of the API client in a combo box and owns the portal
client, which is connected to `wsPortalsReady` before the dock is. What is chosen is
saved in the settings, and the portal client is restarted for it. The texts, the pictures
and the connection information follow the choice and decide nothing.
-/

namespace SrcLink.WsPortalDock

open Json Schema StepSystem WsPortalClient

set_option autoImplicit false

/-- The row of no selection. -/
def participantSelectionNone : String := "none"

structure State where
  /-- with the saved id and the portals of the API client -/
  client : WsPortalClient.State
  wsPortalComboBox : ComboBox String

namespace State

/-- `currentData().toString()` -/
def currentId (s : State) : String := s.wsPortalComboBox.currentData.getD ""

def getActiveWsPortal (s : State) : QJsonObject :=
  WsPortalClient.State.findPortal s.client.wsPortals s.currentId

/-- Stop when portalId is empty. -/
def onActiveWsPortalChanged (valid : Bool) (s : State) : Option State :=
  (s.client.onActiveWsPortalChanged (WsPortal.getId s.getActiveWsPortal) valid).map fun client =>
    { s with client := client }

def rows (portals : QJsonArray) : List String :=
  if portals.length > 0 then
    participantSelectionNone :: (TypedJsonArray.values portals).map WsPortal.getId
  else []

/-- Restore selection (or apply default). -/
def restored (portals : QJsonArray) (prev saved : String) : ComboBox String :=
  let comboBox := ComboBox.ofItems (rows portals)
  let selected := if prev = "" then saved else prev
  if selected ≠ "" then comboBox.setDataOrFirst selected else comboBox.setFirst

/-- The slot of the portal client, then the one of the dock. -/
def onWsPortalsReady (portals : QJsonArray) (valid : Bool) (s : State) : Option State :=
  (WsPortalClient.State.onWsPortalsReady portals valid
    { s.client with wsPortals := portals }).bind fun client =>
      let prev := s.currentId
      let s : State :=
        { client := client, wsPortalComboBox := restored portals prev client.wsPortalId }
      if prev ≠ s.currentId then s.onActiveWsPortalChanged valid else some s

/-- `currentIndexChanged` is emitted for another index only. -/
def setCurrentIndex (index : Nat) (valid : Bool) (s : State) : Option State :=
  let comboBox := s.wsPortalComboBox.setCurrentIndex (some index)
  if comboBox.currentIndex ≠ s.wsPortalComboBox.currentIndex then
    { s with wsPortalComboBox := comboBox }.onActiveWsPortalChanged valid
  else some s

/-- `clear()` of the combo box. -/
def clear (valid : Bool) (s : State) : Option State :=
  let cleared : State := { s with wsPortalComboBox := {} }
  if s.wsPortalComboBox.currentIndex.isSome then cleared.onActiveWsPortalChanged valid
  else some cleared

/-- The API client has forgotten the portals before it emits the signal. -/
def onLogoutSucceeded (valid : Bool) (s : State) : Option State :=
  { s with client := WsPortalClient.State.onLogoutSucceeded { s.client with wsPortals := [] } }.clear
    valid

end State

/-- `valid` says whether the socket is valid when the event is handled. -/
inductive Event where
  | wsPortalsReady (portals : QJsonArray) (valid : Bool)
  /-- the portals change while the signals of the API client are blocked -/
  | setWsPortals (portals : QJsonArray)
  /-- the user chooses a row -/
  | setCurrentIndex (index : Nat) (valid : Bool)
  | logoutSucceeded (valid : Bool)
  | loginFailed
  | apiClientReady (reconnect valid : Bool)
  | disconnected (valid : Bool)

open State in
def step (s : State) : Event → Option State
  | .wsPortalsReady portals valid => s.onWsPortalsReady portals valid
  | .setWsPortals portals => some { s with client.wsPortals := portals }
  | .setCurrentIndex index valid =>
    if index < s.wsPortalComboBox.items.length then s.setCurrentIndex index valid else none
  | .logoutSucceeded valid => s.onLogoutSucceeded valid
  | .loginFailed => some { s with client := s.client.onLogoutSucceeded }
  | .apiClientReady reconnect valid =>
    (s.client.onApiClientReady reconnect valid).map fun client => { s with client := client }
  | .disconnected valid =>
    (s.client.onDisconnected valid).map fun client => { s with client := client }

/-- An empty dock, with the portal id of the last session. -/
def Started (s : State) : Prop :=
  s.client.status = .inactive ∧ s.wsPortalComboBox = {}

/-- An active client was started for the portal whose id is saved. -/
def Bound (c : WsPortalClient.State) : Prop :=
  c.status = .active →
    WsPortal.getId c.startedWith = c.wsPortalId ∧ c.wsPortalId ≠ "" ∧ c.wsPortalId ≠ "none"

structure Binds (c d : WsPortalClient.State) : Prop where
  wsPortalId : d.wsPortalId = c.wsPortalId
  wsPortals : d.wsPortals = c.wsPortals
  bound : Bound c → Bound d

section Client

variable {c d : WsPortalClient.State} {valid : Bool}

theorem Binds.refl (c : WsPortalClient.State) : Binds c c := ⟨rfl, rfl, id⟩

theorem Binds.trans {e : WsPortalClient.State} (h : Binds c d) (h' : Binds d e) : Binds c e :=
  ⟨h'.wsPortalId.trans h.wsPortalId, h'.wsPortals.trans h.wsPortals, h'.bound ∘ h.bound⟩

theorem Binds.of_same (h : SameSubscription c d) (hId : d.wsPortalId = c.wsPortalId)
    (hPortals : d.wsPortals = c.wsPortals) : Binds c d := by
  refine ⟨hId, hPortals, fun hBound hActive => ?_⟩
  rw [h.startedWith, hId]
  exact hBound (h.status ▸ hActive)

theorem openSocket_binds (h : c.openSocket valid = some d) : Binds c d := by
  refine .of_same (same_openSocket h).1 ?_ ?_
  all_goals
    unfold WsPortalClient.State.openSocket at h
    split at h
    · exact Option.some.inj h ▸ rfl
    · obtain ⟨-, ⟨⟩⟩ := Option.ite_none_right_eq_some.mp h
      unfold WsPortalClient.State.createWsSocket
      split <;> rfl

theorem start_binds (h : c.start valid = some d) : Binds c d := by
  simp only [WsPortalClient.State.start] at h
  split at h
  · exact Option.some.inj h ▸ Binds.refl c
  · next hInactive =>
    split at h
    · exact Option.some.inj h ▸ Binds.refl c
    · next hId =>
      obtain ⟨hId, hNone⟩ := not_or.mp hId
      split at h
      · exact Option.some.inj h ▸ .of_same ⟨rfl, rfl, rfl⟩ rfl rfl
      · next hFound =>
        obtain ⟨opened, hOpened, rfl⟩ := Option.map_eq_some_iff.mp h
        have hBinds := openSocket_binds hOpened
        have hPortal := (same_openSocket hOpened).2
        refine ⟨hBinds.wsPortalId, hBinds.wsPortals, fun _ _ => ?_⟩
        have hStarted : WsPortal.getId opened.wsPortal = c.wsPortalId := by
          rw [hPortal]
          exact findPortal_id fun hEmpty => hFound (List.isEmpty_iff.mpr hEmpty)
        exact ⟨hStarted.trans hBinds.wsPortalId.symm, hBinds.wsPortalId.symm ▸ hId,
          hBinds.wsPortalId.symm ▸ hNone⟩

theorem bound_stop (c : WsPortalClient.State) : Bound c.stop := by
  intro hActive
  rw [stop_status] at hActive
  cases hActive

theorem stop_binds (c : WsPortalClient.State) : Binds c c.stop :=
  ⟨(stop_selected c).2, (stop_selected c).1, fun _ => bound_stop c⟩

theorem onWsPortalsReady_binds {portals : QJsonArray}
    (h : c.onWsPortalsReady portals valid = some d) : Binds c d := by
  simp only [WsPortalClient.State.onWsPortalsReady] at h
  have hStored : Binds c
      { c with wsPortal := WsPortalClient.State.findPortal portals c.wsPortalId } :=
    .of_same ⟨rfl, rfl, rfl⟩ rfl rfl
  split at h
  · exact hStored.trans (start_binds h)
  · exact Option.some.inj h ▸ hStored

theorem onDisconnected_binds (h : c.onDisconnected valid = some d) : Binds c d := by
  unfold WsPortalClient.State.onDisconnected at h
  split at h
  · have hCounted : Binds c { c with reconnectCount := c.reconnectCount + 1 } :=
      .of_same ⟨rfl, rfl, rfl⟩ rfl rfl
    exact hCounted.trans (openSocket_binds h)
  · exact Option.some.inj h ▸ Binds.refl c

theorem onApiClientReady_binds {reconnect : Bool}
    (h : c.onApiClientReady reconnect valid = some d) : Binds c d := by
  unfold WsPortalClient.State.onApiClientReady at h
  split at h
  · exact Option.some.inj h ▸ Binds.refl c
  · exact start_binds h

/-- Another id is saved, and the client restarted for it. -/
theorem onActiveWsPortalChanged_binds {portalId : String}
    (h : c.onActiveWsPortalChanged portalId valid = some d) :
    d.wsPortalId = portalId ∧ (Bound c → Bound d) := by
  unfold WsPortalClient.State.onActiveWsPortalChanged at h
  split at h
  · have hStarted := start_binds h
    have hStopped := stop_selected { c with wsPortalId := portalId }
    exact ⟨hStarted.wsPortalId.trans hStopped.2, fun _ => hStarted.bound (bound_stop _)⟩
  · next hSame =>
    obtain rfl := Option.some.inj h
    exact ⟨not_not.mp hSame, id⟩

end Client

/-- What an id chooses; the row of no selection stands for none. -/
def chosen (id : String) : String := if id = participantSelectionNone then "" else id

/-- The saved portal is the one that is shown. -/
def Agreed (s : State) : Prop :=
  s.wsPortalComboBox.items ≠ [] → chosen s.client.wsPortalId = chosen s.currentId

def Offers (portals : QJsonArray) (id : String) : Prop :=
  ∃ portal ∈ TypedJsonArray.values portals, WsPortal.getId portal = id

/-- The portal of a newly chosen row is still there. -/
def KnownChoice (s : State) : Event → Prop
  | .setCurrentIndex index _ => s.wsPortalComboBox.currentIndex ≠ some index →
      ∀ id, s.wsPortalComboBox.items[index]? = some id →
        chosen id = "" ∨ Offers s.client.wsPortals id
  | _ => True

section Choice

variable {s t : State} {portals : QJsonArray} {id : String} {valid : Bool}

theorem getId_findPortal (portals : QJsonArray) (id : String) :
    WsPortal.getId (WsPortalClient.State.findPortal portals id) = id ∧ Offers portals id ∨
      WsPortal.getId (WsPortalClient.State.findPortal portals id) = "" ∧ ¬ Offers portals id := by
  unfold WsPortalClient.State.findPortal Offers
  rw [TypedJsonArray.find_eq]
  cases hFound : (TypedJsonArray.values portals).find? fun portal => WsPortal.getId portal = id with
  | some portal =>
    have hId : WsPortal.getId portal = id := by simpa using List.find?_some hFound
    exact .inl ⟨hId, portal, List.mem_of_find?_eq_some hFound, hId⟩
  | none =>
    refine .inr ⟨rfl, fun hOffers => ?_⟩
    obtain ⟨portal, hPortal, hId⟩ := hOffers
    exact List.find?_eq_none.mp hFound portal hPortal (decide_eq_true hId)

theorem chosen_getId_iff (portals : QJsonArray) (id : String) :
    chosen (WsPortal.getId (WsPortalClient.State.findPortal portals id)) = chosen id ↔
      chosen id = "" ∨ Offers portals id := by
  rcases getId_findPortal portals id with ⟨hId, hOffers⟩ | ⟨hId, hOffers⟩
  · rw [hId]
    exact iff_of_true rfl (.inr hOffers)
  · rw [hId, or_iff_left hOffers]
    exact eq_comm

theorem mem_rows (h : id ∈ State.rows portals) : chosen id = "" ∨ Offers portals id := by
  unfold State.rows at h
  split at h
  · rcases List.mem_cons.mp h with rfl | hPortal
    · exact .inl (if_pos rfl)
    · exact .inr (List.mem_map.mp hPortal)
  · cases h

theorem head_rows (h : State.rows portals ≠ []) :
    (State.rows portals).head? = some participantSelectionNone := by
  unfold State.rows at h ⊢
  split
  · rfl
  · next hNone => exact absurd (if_neg hNone) h

/-- A row is shown: the one looked for, or the first. -/
theorem currentData_restored (hRows : State.rows portals ≠ []) (prev saved : String) :
    (State.restored portals prev saved).currentData =
      let selected := if prev = "" then saved else prev
      some (if selected ≠ "" ∧ selected ∈ State.rows portals then selected
        else participantSelectionNone) := by
  exact ComboBox.currentData_ite_setDataOrFirst (head_rows hRows)

theorem restored_items (portals : QJsonArray) (prev saved : String) :
    (State.restored portals prev saved).items = State.rows portals := by
  unfold State.restored
  simp only
  generalize (if prev = "" then saved else prev) = selected
  split <;> rfl

/-- A filled combo box shows a row whose data is not empty. -/
theorem restored_ne_empty (hRows : State.rows portals ≠ []) (prev saved : String) :
    ∃ id, (State.restored portals prev saved).currentData = some id ∧ id ≠ "" ∧
      (chosen id = "" ∨ Offers portals id) := by
  refine ⟨_, currentData_restored hRows prev saved, ?_⟩
  generalize (if prev = "" then saved else prev) = selected
  split
  · next hFound => exact ⟨hFound.1, mem_rows hFound.2⟩
  · exact ⟨by decide, .inl (if_pos rfl)⟩

/-- The combo box changes what it shows only together with what is saved. -/
theorem onActiveWsPortalChanged_agreed_iff (h : s.onActiveWsPortalChanged valid = some t)
    (hItems : s.wsPortalComboBox.items ≠ []) :
    Agreed t ↔ chosen s.currentId = "" ∨ Offers s.client.wsPortals s.currentId := by
  obtain ⟨client, hClient, rfl⟩ := Option.map_eq_some_iff.mp h
  have hSaved := (onActiveWsPortalChanged_binds hClient).1
  rw [Agreed, forall_prop_of_true hItems, hSaved]
  exact chosen_getId_iff s.client.wsPortals s.currentId

theorem onActiveWsPortalChanged_comboBox (h : s.onActiveWsPortalChanged valid = some t) :
    t.wsPortalComboBox = s.wsPortalComboBox := by
  obtain ⟨client, _, rfl⟩ := Option.map_eq_some_iff.mp h
  rfl

theorem onWsPortalsReady_agreed (hAgreed : Agreed s)
    (h : s.onWsPortalsReady portals valid = some t) : Agreed t := by
  obtain ⟨client, hClient, hDock⟩ := Option.bind_eq_some_iff.mp h
  have hBinds := onWsPortalsReady_binds hClient
  have hSaved : client.wsPortalId = s.client.wsPortalId := hBinds.wsPortalId
  have hPortals : client.wsPortals = portals := hBinds.wsPortals
  simp only at hDock
  have hItems := restored_items portals s.currentId client.wsPortalId
  by_cases hRows : State.rows portals = []
  · -- without portals there is no row to agree with
    have hComboBox : t.wsPortalComboBox = State.restored portals s.currentId client.wsPortalId := by
      split at hDock
      · exact onActiveWsPortalChanged_comboBox hDock
      · exact Option.some.inj hDock ▸ rfl
    intro hSome
    rw [hComboBox, hItems] at hSome
    exact absurd hRows hSome
  · obtain ⟨id, hId, hNonempty, hRow⟩ :=
      restored_ne_empty hRows s.currentId client.wsPortalId
    split at hDock
    · refine (onActiveWsPortalChanged_agreed_iff hDock (hItems.trans_ne hRows)).mpr ?_
      change chosen ((State.restored _ _ _).currentData.getD "") = "" ∨
        Offers client.wsPortals ((State.restored _ _ _).currentData.getD "")
      rw [hId, hPortals]
      exact hRow
    · next hSame =>
      obtain rfl := Option.some.inj hDock
      have hCurrent : State.currentId
          { client := client
            wsPortalComboBox := State.restored portals s.currentId client.wsPortalId } = id := by
        rw [State.currentId, hId]
        rfl
      have hPrev : s.currentId = id := (not_not.mp hSame).trans hCurrent
      have hShown := ComboBox.items_ne_nil_of_currentData (hPrev ▸ hNonempty)
      intro _
      rw [hCurrent, ← hPrev, ← hAgreed hShown]
      exact congrArg chosen hSaved

theorem setCurrentIndex_agreed_iff {index : Nat} (hAgreed : Agreed s)
    (hRange : index < s.wsPortalComboBox.items.length)
    (h : s.setCurrentIndex index valid = some t) :
    Agreed t ↔ KnownChoice s (.setCurrentIndex index valid) := by
  have hIndex : (s.wsPortalComboBox.setCurrentIndex (some index)).currentIndex = some index := by
    simp [ComboBox.setCurrentIndex, Option.filter, hRange]
  have hItem : s.wsPortalComboBox.items[index]? = some s.wsPortalComboBox.items[index] :=
    List.getElem?_eq_getElem hRange
  simp only [State.setCurrentIndex, hIndex] at h
  simp only [KnownChoice]
  split at h
  · next hOther =>
    have hItems : (s.wsPortalComboBox.setCurrentIndex (some index)).items ≠ [] :=
      List.ne_nil_of_length_pos (Nat.zero_lt_of_lt hRange)
    have hCurrent : State.currentId
        { s with wsPortalComboBox := s.wsPortalComboBox.setCurrentIndex (some index) } =
          s.wsPortalComboBox.items[index] := by
      rw [State.currentId, ComboBox.currentData_setCurrentIndex_of_lt _ hRange]
      rfl
    rw [onActiveWsPortalChanged_agreed_iff h hItems, hCurrent, forall_prop_of_true (Ne.symm hOther),
      hItem]
    exact ⟨fun hKnown id hId => Option.some.inj hId ▸ hKnown, fun hKnown => hKnown _ rfl⟩
  · next hSame =>
    obtain rfl := Option.some.inj h
    exact iff_of_true hAgreed fun hOther => absurd (not_not.mp hSame).symm hOther

theorem clear_agreed (h : s.clear valid = some t) : Agreed t := by
  have hItems : t.wsPortalComboBox.items = [] := by
    simp only [State.clear] at h
    split at h
    · rw [onActiveWsPortalChanged_comboBox h]
    · exact Option.some.inj h ▸ rfl
  exact fun hSome => absurd hItems hSome

theorem Agreed.of_binds (h : Agreed s) {client : WsPortalClient.State}
    (hBinds : Binds s.client client) : Agreed { s with client := client } := by
  intro hItems
  rw [hBinds.wsPortalId]
  exact h hItems

theorem step_agreed_iff {e : Event} (hAgreed : Agreed s) (hStep : step s e = some t) :
    Agreed t ↔ KnownChoice s e := by
  cases e with
  | wsPortalsReady portals valid =>
    exact iff_of_true (onWsPortalsReady_agreed hAgreed hStep) trivial
  | setWsPortals portals =>
    obtain rfl := Option.some.inj hStep
    exact iff_of_true hAgreed trivial
  | setCurrentIndex index valid =>
    obtain ⟨hRange, hChosen⟩ := Option.ite_none_right_eq_some.mp hStep
    exact setCurrentIndex_agreed_iff hAgreed hRange hChosen
  | logoutSucceeded valid => exact iff_of_true (clear_agreed hStep) trivial
  | loginFailed =>
    obtain rfl := Option.some.inj hStep
    exact iff_of_true (hAgreed.of_binds (stop_binds s.client)) trivial
  | apiClientReady reconnect valid =>
    obtain ⟨client, hClient, rfl⟩ := Option.map_eq_some_iff.mp hStep
    exact iff_of_true (hAgreed.of_binds (onApiClientReady_binds hClient)) trivial
  | disconnected valid =>
    obtain ⟨client, hClient, rfl⟩ := Option.map_eq_some_iff.mp hStep
    exact iff_of_true (hAgreed.of_binds (onDisconnected_binds hClient)) trivial

end Choice

theorem step_bound {s t : State} {e : Event} (hBound : Bound s.client) (hStep : step s e = some t) :
    Bound t.client := by
  have hDock {u : State} {valid : Bool} (hBound : Bound u.client)
      (h : u.onActiveWsPortalChanged valid = some t) : Bound t.client := by
    obtain ⟨client, hClient, rfl⟩ := Option.map_eq_some_iff.mp h
    exact (onActiveWsPortalChanged_binds hClient).2 hBound
  cases e with
  | wsPortalsReady portals valid =>
    obtain ⟨client, hClient, hReady⟩ := Option.bind_eq_some_iff.mp hStep
    have hReadyBound : Bound client := (onWsPortalsReady_binds hClient).bound hBound
    simp only at hReady
    split at hReady
    · exact hDock hReadyBound hReady
    · exact Option.some.inj hReady ▸ hReadyBound
  | setWsPortals portals => exact Option.some.inj hStep ▸ hBound
  | setCurrentIndex index valid =>
    obtain ⟨_, hChosen⟩ := Option.ite_none_right_eq_some.mp hStep
    simp only [State.setCurrentIndex] at hChosen
    split at hChosen
    · refine hDock ?_ hChosen
      exact hBound
    · exact Option.some.inj hChosen ▸ hBound
  | logoutSucceeded valid =>
    have hStopped : Bound (WsPortalClient.State.onLogoutSucceeded { s.client with wsPortals := [] }) :=
      bound_stop _
    simp only [step, State.onLogoutSucceeded, State.clear] at hStep
    split at hStep
    · refine hDock ?_ hStep
      exact hStopped
    · exact Option.some.inj hStep ▸ hStopped
  | loginFailed => exact Option.some.inj hStep ▸ bound_stop s.client
  | apiClientReady reconnect valid =>
    obtain ⟨client, hClient, rfl⟩ := Option.map_eq_some_iff.mp hStep
    exact (onApiClientReady_binds hClient).bound hBound
  | disconnected valid =>
    obtain ⟨client, hClient, rfl⟩ := Option.map_eq_some_iff.mp hStep
    exact (onDisconnected_binds hClient).bound hBound

structure Follows (s : State) : Prop where
  choice : Agreed s
  /-- an active client runs for the portal of the row that is shown -/
  portal : s.client.status = .active → s.wsPortalComboBox.items ≠ [] →
    s.wsPortalComboBox.currentData = some (WsPortal.getId s.client.startedWith)

theorem currentId_eq_of_chosen {id id' : String} (h : chosen id = chosen id') (hSome : id ≠ "")
    (hNone : id ≠ "none") : id' = id := by
  have hId : chosen id = id := if_neg hNone
  rw [hId] at h
  unfold chosen at h
  split at h
  · exact absurd h hSome
  · exact h.symm

theorem follows_of_agreed {s : State} (hAgreed : Agreed s) (hBound : Bound s.client) :
    Follows s where
  choice := hAgreed
  portal hActive hItems := by
    obtain ⟨hStarted, hSome, hNone⟩ := hBound hActive
    have hCurrent := currentId_eq_of_chosen (hAgreed hItems) hSome hNone
    unfold State.currentId at hCurrent
    cases hData : s.wsPortalComboBox.currentData with
    | none =>
      rw [hData] at hCurrent
      exact absurd hCurrent.symm hSome
    | some id =>
      rw [hData] at hCurrent
      exact congrArg some (hCurrent.trans hStarted.symm)

/-- The row that is shown, the saved id and the portal of an active client belong together all
the time exactly if every row that is chosen stands for a portal that is still known. -/
theorem follows_iff_knownChoices (x : Execution step) (hStart : Started (x.state 0)) :
    (∀ n, Follows (x.state n)) ↔ ∀ n e, x.event n = some e → KnownChoice (x.state n) e := by
  obtain ⟨hInactive, hEmpty⟩ := hStart
  have hBound : ∀ n, Bound (x.state n).client := by
    refine x.always (fun s => Bound s.client) (fun hActive => ?_) fun _ _ _ => step_bound
    rw [hInactive] at hActive
    cases hActive
  have hAgreed : Agreed (x.state 0) := fun hItems => absurd (by rw [hEmpty]) hItems
  rw [← x.always_iff hAgreed fun n e hEvent hn => step_agreed_iff hn (x.next_of_event hEvent)]
  exact ⟨fun hFollows n => (hFollows n).choice, fun hAll n => follows_of_agreed (hAll n) (hBound n)⟩

def emptyDock : State := { client := {}, wsPortalComboBox := {} }

/-- The portals arrive, and the user chooses the only one. -/
def firstChoice : List Event :=
  [.wsPortalsReady [.object (portalDocument 1)] false, .setCurrentIndex 1 false]

def firstChoiceRun : Execution step := .ofRun step emptyDock firstChoice (by decide +kernel)

theorem follows_iff_knownChoices_firstChoice :
    (firstChoiceRun.state 2).client.status = .active ∧ ∀ n, Follows (firstChoiceRun.state n) := by
  refine ⟨by decide +kernel, (follows_iff_knownChoices firstChoiceRun ⟨rfl, rfl⟩).mpr ?_⟩
  intro n e hEvent
  match n with
  | 0 => exact Option.some.inj hEvent ▸ trivial
  | 1 =>
    obtain rfl := Option.some.inj hEvent
    intro _ id hId
    have hPortal : (firstChoiceRun.state 1).wsPortalComboBox.items[1]? = some "portal" := by
      decide +kernel
    obtain rfl := Option.some.inj (hPortal.symm.trans hId)
    exact .inr ⟨portalDocument 1, List.mem_cons_self, by decide +kernel⟩
  | n + 2 => cases hEvent

end SrcLink.WsPortalDock
