import SrcLink.Portal.PortalMessages

/-! # Filtering the events of OBS

The filter reads the subscriptions of the stored portal with an index operator that
inserts a missing key as null, so every event may change the stored portal. What it
inserts is never told from what is missing.
-/

namespace SrcLink.WsPortalClient

open Json Json.QJsonObject Schema StepSystem Nlohmann

set_option autoImplicit false

/-- `QJsonObject::operator[]`, not of a constant: what it leaves behind. -/
def touch (o : QJsonObject) (key : String) : QJsonObject :=
  if (o.value key).isUndefined then o.insert key .null else o

/-- "All", but high volume events are excluded. -/
def defaultSubscriptions : BitVec 64 := 0x7FF

/-- The mask that an event is filtered with, and the portal behind it. The first key lacks the
letter that the second one has. -/
def readSubscriptions (wsPortal : QJsonObject) : BitVec 64 × QJsonObject :=
  let wsPortal := touch wsPortal "event_subscription"
  if (wsPortal.value "event_subscription").isUndefined then (defaultSubscriptions, wsPortal)
  else
    let wsPortal := touch wsPortal "event_subscriptions"
    if (wsPortal.value "event_subscriptions").isNull then (defaultSubscriptions, wsPortal)
    else (eventSubscriptions wsPortal, wsPortal)

section Sending

variable {world : Type} (services : Services world)

/-- The intent is narrowed to an `int`. -/
def eventMessage (requiredIntent : BitVec 64) (eventType : String) (eventData : Nlohmann.Json) :
    ByteArray :=
  let data := .ofFields
    [("eventData", eventData), ("eventIntent", .integer (requiredIntent.setWidth 32).toInt),
      ("eventType", .text eventType)]
  let body := services.toMsgpack (.ofFields [("d", data), ("op", .integer 5)])
  services.toMsgpack (.ofFields [("body", .ofBytes body)])

/-- The message that is queued, if any; the data of an event have been parsed. -/
def sendEvent (s : State) (requiredIntent : BitVec 64) (eventType : String)
    (eventData : Nlohmann.Json) : Option ByteArray × State :=
  if s.status ≠ .active then (none, s)
  else
    let (mask, wsPortal) := readSubscriptions s.wsPortal
    let s := { s with wsPortal := wsPortal }
    if requiredIntent &&& mask = 0 then (none, s)
    else (some (eventMessage services requiredIntent eventType eventData), s)

inductive ClientEvent where
  | portal (e : Event)
  | obs (requiredIntent : BitVec 64) (eventType : String) (eventData : Nlohmann.Json)

def ClientEvent.portal? : ClientEvent → Option Event
  | portal e => some e
  | obs .. => none

def clientStep (s : State) : ClientEvent → Option State
  | .portal e => step s e
  | .obs requiredIntent eventType eventData =>
    some (sendEvent services s requiredIntent eventType eventData).2

end Sending

def touchedKeys : List String := ["event_subscription", "event_subscriptions"]

/-- The second object is the first with some of the touched keys inserted. -/
def Touched (o o' : QJsonObject) : Prop :=
  ∀ key, o'.value key = o.value key ∨
    key ∈ touchedKeys ∧ o.value key = .undefined ∧ o'.value key = .null

theorem Touched.refl (o : QJsonObject) : Touched o o := fun _ => .inl rfl

theorem Touched.trans {a b c : QJsonObject} (h : Touched a b) (h' : Touched b c) :
    Touched a c := by
  intro key
  rcases h' key with hSame | ⟨hMem, hMissing, hNull⟩
  · rw [hSame]
    exact h key
  · rcases h key with hSame | ⟨-, -, hNull'⟩
    · exact .inr ⟨hMem, hSame.symm.trans hMissing, hNull⟩
    · rw [hNull'] at hMissing
      cases hMissing

theorem isUndefined_iff (v : QJsonValue) : v.isUndefined = true ↔ v = .undefined := by
  cases v <;> simp [QJsonValue.isUndefined]

theorem value_touch_of_undefined {o : QJsonObject} {key : String}
    (hMissing : o.value key = .undefined) : (touch o key).value key = .null := by
  rw [touch, if_pos ((isUndefined_iff _).mpr hMissing), value_insert_self]

theorem touch_of_defined {o : QJsonObject} {key : String} (hDefined : o.value key ≠ .undefined) :
    touch o key = o :=
  if_neg (mt (isUndefined_iff _).mp hDefined)

theorem value_touch_ne_undefined (o : QJsonObject) (key : String) :
    (touch o key).value key ≠ .undefined := by
  by_cases hMissing : o.value key = .undefined
  · rw [value_touch_of_undefined hMissing]
    exact QJsonValue.noConfusion
  · rw [touch_of_defined hMissing]
    exact hMissing

theorem touched_touch (o : QJsonObject) {key : String} (hMem : key ∈ touchedKeys) :
    Touched o (touch o key) := by
  rw [touch]
  split
  · next hUndefined =>
    intro key'
    by_cases hKey : key' = key
    · rw [hKey, value_insert_self]
      exact .inr ⟨hMem, (isUndefined_iff _).mp hUndefined, rfl⟩
    · exact .inl (value_insert_of_ne o .null hKey)
  · exact Touched.refl o

theorem touched_readSubscriptions (o : QJsonObject) : Touched o (readSubscriptions o).2 := by
  have hFirst : Touched o (touch o "event_subscription") := touched_touch o (by decide)
  have hSecond := hFirst.trans (touched_touch (touch o "event_subscription")
    (by decide : "event_subscriptions" ∈ touchedKeys))
  rw [readSubscriptions]
  split
  · exact hFirst
  · dsimp only
    split
    · exact hSecond
    · exact hSecond

theorem Touched.getFacilityView {o o' : QJsonObject} (h : Touched o o') :
    WsPortal.getFacilityView o' = WsPortal.getFacilityView o := by
  rcases h "facility_view" with hSame | ⟨hMem, -⟩
  · rw [WsPortal.getFacilityView, hSame]
    rfl
  · exact absurd hMem (by decide)

def subscriptionMask (portal : QJsonObject) : BitVec 64 :=
  match portal.value "event_subscriptions" with
  | .undefined => defaultSubscriptions
  | .null => defaultSubscriptions
  | v => BitVec.ofInt 64 v.toInt

theorem Touched.subscriptionMask {o o' : QJsonObject} (h : Touched o o') :
    subscriptionMask o' = subscriptionMask o := by
  rcases h "event_subscriptions" with hSame | ⟨-, hMissing, hNull⟩
  · rw [WsPortalClient.subscriptionMask, hSame]
    rfl
  · rw [WsPortalClient.subscriptionMask, WsPortalClient.subscriptionMask, hMissing, hNull]

/-- The first test never holds, and the second one does for a missing mask, too. -/
theorem readSubscriptions_mask (o : QJsonObject) :
    (readSubscriptions o).1 = subscriptionMask o := by
  have hFirst : Touched o (touch o "event_subscription") := touched_touch o (by decide)
  have hDefined := mt (isUndefined_iff _).mp (value_touch_ne_undefined o "event_subscription")
  rw [readSubscriptions, if_neg hDefined, ← hFirst.subscriptionMask, subscriptionMask]
  generalize touch o "event_subscription" = portal
  dsimp only
  cases hValue : portal.value "event_subscriptions" with
  | undefined => rw [value_touch_of_undefined hValue]; rfl
  | null =>
    rw [touch_of_defined (hValue ▸ QJsonValue.noConfusion), hValue]
    rfl
  | _ =>
    rw [touch_of_defined (hValue ▸ QJsonValue.noConfusion), hValue]
    exact congrArg (fun v => BitVec.ofInt 64 (QJsonValue.toInt v)) hValue

def Subscribes (portal : QJsonObject) (mask : BitVec 64) : Prop :=
  ((portal.value "event_subscriptions" = .undefined ∨
      portal.value "event_subscriptions" = .null) ∧ mask = 0x7FF) ∨
    ∃ value : ℕ, value < 2 ^ 31 ∧ portal.value "event_subscriptions" = .double value ∧
      mask = BitVec.ofNat 64 value

theorem subscriptionMask_of_subscribes {portal : QJsonObject} {mask : BitVec 64}
    (h : Subscribes portal mask) : subscriptionMask portal = mask := by
  rcases h with ⟨hMissing | hNull, rfl⟩ | ⟨value, hSmall, hValue, rfl⟩
  · rw [subscriptionMask, hMissing]
    rfl
  · rw [subscriptionMask, hNull]
    rfl
  · have hInt : (QJsonValue.double (value : ℚ)).toInt = (value : ℤ) := by
      rw [QJsonValue.toInt, Rat.den_natCast, Rat.num_natCast, if_pos ⟨rfl, by omega, by omega⟩]
    rw [subscriptionMask, hValue]
    exact (congrArg (BitVec.ofInt 64) hInt).trans (BitVec.ofInt_natCast ..)

/-- What the client does with the portal's events does not depend on the inserted keys. -/
structure Alike (s t : State) : Prop where
  status : t.status = s.status
  client : t.client = s.client
  reconnectCount : t.reconnectCount = s.reconnectCount
  wsPortalId : t.wsPortalId = s.wsPortalId
  wsPortals : t.wsPortals = s.wsPortals
  wsPortal : Touched s.wsPortal t.wsPortal

theorem Alike.refl (s : State) : Alike s s := ⟨rfl, rfl, rfl, rfl, rfl, Touched.refl _⟩

section Simulation

variable {s t : State} (valid : Bool)

theorem Alike.createWsSocket (h : Alike s t) : Alike s.createWsSocket t.createWsSocket := by
  rw [State.createWsSocket, State.createWsSocket, h.wsPortal.getFacilityView]
  split
  · exact h
  · exact ⟨h.status, rfl, h.reconnectCount, h.wsPortalId, h.wsPortals, h.wsPortal⟩

theorem Alike.openSocket (h : Alike s t) :
    Option.Rel Alike (s.openSocket valid) (t.openSocket valid) := by
  have hCreated := h.createWsSocket
  rw [State.openSocket, State.openSocket, h.client]
  split
  · exact .some h
  · dsimp only
    rw [hCreated.client]
    split
    · exact .some hCreated
    · exact .none

theorem rel_map {f g : State → State} {x y : Option State} (h : Option.Rel Alike x y)
    (hMap : ∀ s t, Alike s t → Alike (f s) (g t)) : Option.Rel Alike (x.map f) (y.map g) := by
  cases h with
  | some hAlike => exact .some (hMap _ _ hAlike)
  | none => exact .none

theorem Alike.start (h : Alike s t) : Option.Rel Alike (s.start valid) (t.start valid) := by
  rw [State.start, State.start, h.status, h.wsPortalId, h.wsPortals]
  split
  · exact .some h
  · dsimp only
    split
    · exact .some h
    · split
      · exact .some ⟨rfl, h.client, h.reconnectCount, rfl, rfl, Touched.refl _⟩
      · refine rel_map (Alike.openSocket valid ⟨rfl, h.client, rfl, rfl, rfl, Touched.refl _⟩) ?_
        intro s t hOpened
        exact ⟨hOpened.status, hOpened.client, hOpened.reconnectCount, hOpened.wsPortalId,
          hOpened.wsPortals, hOpened.wsPortal⟩

structure Stopped (s s' : State) : Prop where
  status : s'.status = .inactive
  client : s'.client = false
  reconnectCount : s'.reconnectCount = s.reconnectCount
  wsPortalId : s'.wsPortalId = s.wsPortalId
  wsPortals : s'.wsPortals = s.wsPortals
  wsPortal : s'.wsPortal = []

/-- A stop forgets the portal, and with it all inserted keys. -/
theorem stopped_stop (hActive : s.status ≠ .inactive) : Stopped s s.stop := by
  rw [State.stop, if_neg hActive]
  dsimp only
  split
  · next hEmpty => exact ⟨rfl, rfl, rfl, rfl, rfl, List.isEmpty_iff.mp hEmpty⟩
  · exact ⟨rfl, rfl, rfl, rfl, rfl, rfl⟩

theorem Alike.stop (h : Alike s t) : Alike s.stop t.stop := by
  by_cases hInactive : s.status = .inactive
  · rw [State.stop, State.stop, if_pos hInactive, if_pos (h.status.trans hInactive)]
    exact h
  · have hs := stopped_stop hInactive
    have ht := stopped_stop (h.status ▸ hInactive : t.status ≠ .inactive)
    exact
      { status := ht.status.trans hs.status.symm
        client := ht.client.trans hs.client.symm
        reconnectCount := by rw [ht.reconnectCount, hs.reconnectCount, h.reconnectCount]
        wsPortalId := by rw [ht.wsPortalId, hs.wsPortalId, h.wsPortalId]
        wsPortals := by rw [ht.wsPortals, hs.wsPortals, h.wsPortals]
        wsPortal := by rw [hs.wsPortal, ht.wsPortal]; exact Touched.refl [] }

theorem Alike.restart (h : Alike s t) : Option.Rel Alike (s.restart valid) (t.restart valid) :=
  h.stop.start valid

theorem Alike.onWsPortalsReady (h : Alike s t) (portals : QJsonArray) :
    Option.Rel Alike (s.onWsPortalsReady portals valid) (t.onWsPortalsReady portals valid) := by
  rw [State.onWsPortalsReady, State.onWsPortalsReady, h.wsPortalId]
  dsimp only
  rw [h.status]
  split
  · exact Alike.start valid ⟨rfl, h.client, h.reconnectCount, rfl, h.wsPortals, Touched.refl _⟩
  · exact .some ⟨rfl, h.client, h.reconnectCount, rfl, h.wsPortals, Touched.refl _⟩

theorem Alike.onDisconnected (h : Alike s t) :
    Option.Rel Alike (s.onDisconnected valid) (t.onDisconnected valid) := by
  rw [State.onDisconnected, State.onDisconnected, h.status, h.wsPortalId, h.reconnectCount]
  split
  · exact Alike.openSocket valid ⟨rfl, h.client, rfl, rfl, h.wsPortals, h.wsPortal⟩
  · exact .some h

theorem Alike.onActiveWsPortalChanged (h : Alike s t) (portalId : String) :
    Option.Rel Alike (s.onActiveWsPortalChanged portalId valid)
      (t.onActiveWsPortalChanged portalId valid) := by
  rw [State.onActiveWsPortalChanged, State.onActiveWsPortalChanged, h.wsPortalId]
  split
  · exact Alike.restart valid
      ⟨h.status, h.client, h.reconnectCount, rfl, h.wsPortals, h.wsPortal⟩
  · exact .some h

theorem Alike.step (h : Alike s t) (e : Event) :
    Option.Rel Alike (step s e) (step t e) := by
  cases e with
  | start valid => exact h.start valid
  | stop => exact .some h.stop
  | restart valid => exact h.restart valid
  | logoutSucceeded => exact .some h.stop
  | apiClientReady reconnect valid =>
    cases reconnect with
    | true => exact .some h
    | false => exact h.start valid
  | wsPortalsReady portals valid =>
    have hCached : Alike { s with wsPortals := portals } { t with wsPortals := portals } :=
      ⟨h.status, h.client, h.reconnectCount, h.wsPortalId, rfl, h.wsPortal⟩
    exact hCached.onWsPortalsReady valid portals
  | setWsPortals portals =>
    exact .some ⟨h.status, h.client, h.reconnectCount, h.wsPortalId, rfl, h.wsPortal⟩
  | disconnected valid => exact h.onDisconnected valid
  | activeWsPortalChanged portalId valid => exact h.onActiveWsPortalChanged valid portalId

end Simulation

section Runs

variable {world : Type} (services : Services world)

theorem sendEvent_eq (s : State) (requiredIntent : BitVec 64) (eventType : String)
    (eventData : Nlohmann.Json) :
    (sendEvent services s requiredIntent eventType eventData).1 =
      if s.status = .active ∧ requiredIntent &&& subscriptionMask s.wsPortal ≠ 0 then
        some (eventMessage services requiredIntent eventType eventData)
      else none := by
  rw [sendEvent, ← readSubscriptions_mask]
  by_cases hActive : s.status = .active
  · rw [if_neg (not_not.mpr hActive)]
    dsimp only
    split
    · next hFiltered => exact (if_neg fun h => h.2 hFiltered).symm
    · next hWanted => exact (if_pos ⟨hActive, hWanted⟩).symm
  · rw [if_pos hActive, if_neg fun h => hActive h.1]

theorem alike_sendEvent {s t : State} (h : Alike s t) (requiredIntent : BitVec 64)
    (eventType : String) (eventData : Nlohmann.Json) :
    Alike s (sendEvent services t requiredIntent eventType eventData).2 := by
  have hRead : Alike s { t with wsPortal := (readSubscriptions t.wsPortal).2 } :=
    ⟨h.status, h.client, h.reconnectCount, h.wsPortalId, h.wsPortals,
      h.wsPortal.trans (touched_readSubscriptions t.wsPortal)⟩
  rw [sendEvent]
  split
  · exact h
  · dsimp only
    split
    · exact hRead
    · exact hRead

/-- The client without the events of OBS. -/
def quietStep (s : State) (e : ClientEvent) : Option State :=
  match e.portal? with
  | some e => step s e
  | none => some s

theorem run_quietStep (es : List ClientEvent) (s : State) :
    run quietStep s es = run step s (es.filterMap ClientEvent.portal?) := by
  induction es generalizing s with
  | nil => rfl
  | cons e es ih =>
    cases e with
    | portal e =>
      rw [run_cons]
      exact congrArg (Option.bind (step s e)) (funext ih)
    | obs => exact ih s

theorem step_simulates {s t t' : State} {e : ClientEvent} (h : Alike s t)
    (hStep : clientStep services t e = some t') : ∃ s', quietStep s e = some s' ∧ Alike s' t' := by
  cases e with
  | portal e =>
    have hRel := h.step e
    rw [clientStep] at hStep
    rw [hStep] at hRel
    cases hQuiet : step s e with
    | none =>
      rw [hQuiet] at hRel
      cases hRel
    | some s' =>
      rw [hQuiet] at hRel
      obtain ⟨hAlike⟩ := hRel
      exact ⟨s', hQuiet, hAlike⟩
  | obs requiredIntent eventType eventData =>
    obtain rfl := Option.some.inj hStep
    exact ⟨s, rfl, alike_sendEvent services h requiredIntent eventType eventData⟩

/-- After any run an event is filtered as if none had been before. -/
theorem sendEvent_filters {start s : State} (es : List ClientEvent)
    (hRun : run (clientStep services) start es = some s) :
    ∃ quiet, run step start (es.filterMap ClientEvent.portal?) = some quiet ∧
      quiet.status = s.status ∧
      ∀ mask, Subscribes quiet.wsPortal mask → ∀ requiredIntent eventType eventData,
        (sendEvent services s requiredIntent eventType eventData).1 =
          if s.status = .active ∧ requiredIntent &&& mask ≠ 0 then
            some (eventMessage services requiredIntent eventType eventData)
          else none := by
  have hStep : ∀ s t e t', Alike s t → True → clientStep services t e = some t' →
      ∃ s', quietStep s e = some s' ∧ Alike s' t' :=
    fun _ _ _ _ hAlike _ => step_simulates services hAlike
  obtain ⟨quiet, hQuiet, hAlike⟩ :=
    run_simulates Alike hStep es (meetsGuard_of_forall (fun _ _ _ => trivial) _) (Alike.refl start)
      hRun
  refine ⟨quiet, run_quietStep es start ▸ hQuiet, hAlike.status.symm, ?_⟩
  intro mask hMask requiredIntent eventType eventData
  rw [sendEvent_eq, hAlike.wsPortal.subscriptionMask, subscriptionMask_of_subscribes hMask]

end Runs

def plainPortal : QJsonObject := (portalDocument 0).remove "event_subscriptions"

def filteredRun : List ClientEvent :=
  [.portal (.wsPortalsReady [.object plainPortal] false), .obs 0x10000 "InputVolumeMeters" .null]

theorem sendEvent_filters_default :
    ∃ s quiet : State, run (clientStep sampleServices) selected filteredRun = some s ∧
      s.status = .active ∧ quiet.wsPortal.value "event_subscriptions" = .undefined ∧
      ∀ mask, Subscribes quiet.wsPortal mask → ∀ requiredIntent eventType eventData,
        (sendEvent sampleServices s requiredIntent eventType eventData).1 =
          if s.status = .active ∧ requiredIntent &&& mask ≠ 0 then
            some (eventMessage sampleServices requiredIntent eventType eventData)
          else none := by
  have hRun : run (clientStep sampleServices) selected filteredRun = some _ := rfl
  obtain ⟨quiet, hQuiet, -, hFilters⟩ := sendEvent_filters sampleServices filteredRun hRun
  obtain rfl := Option.some.inj hQuiet
  exact ⟨_, _, hRun, rfl, rfl, hFilters⟩

end SrcLink.WsPortalClient
