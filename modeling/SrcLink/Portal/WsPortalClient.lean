import Mathlib.Data.BitVec
import SrcLink.Document.Schema
import SrcLink.Library.Pairing
import SrcLink.Library.StepSystem

/-! # Event subscriptions of the portal client

`start` subscribes to the events of the portal it has found, `stop` reads the mask
again from the stored portal, which every update of the portals replaces.
-/

namespace SrcLink.WsPortalClient

open Json Schema StepSystem Pairing

set_option autoImplicit false

inductive WsPortalStatus where
  | inactive
  | active
  deriving DecidableEq

structure State where
  status : WsPortalStatus := .inactive
  /-- there is a socket -/
  client : Bool := false
  reconnectCount : Nat := 0
  wsPortal : QJsonObject := []
  /-- of the settings -/
  wsPortalId : String := ""
  /-- of the API client -/
  wsPortals : QJsonArray := []
  /-- the calls of the event handler's `subscribe` and `unsubscribe`, newest first -/
  subscriptions : List (Call (BitVec 64)) := []
  /-- the portal that the last `start` has found -/
  startedWith : QJsonObject := []

def eventSubscriptions (portal : QJsonObject) : BitVec 64 :=
  BitVec.ofInt 64 (WsPortal.getEventSubscriptions portal)

namespace State

def findPortal (portals : QJsonArray) (portalId : String) : QJsonObject :=
  TypedJsonArray.find portals fun portal => WsPortal.getId portal = portalId

def destroyWsSocket (s : State) : State := { s with client := false }

def createWsSocket (s : State) : State :=
  if (WsPortal.getFacilityView s.wsPortal).isEmpty then s
  else { s.destroyWsSocket with client := true }

/-- `open`; without a socket it dereferences a null pointer. -/
def openSocket (valid : Bool) (s : State) : Option State :=
  if s.client && valid then some s
  else
    let s := s.createWsSocket
    if s.client then some s else none

def start (valid : Bool) (s : State) : Option State :=
  if s.status = .active then some s
  else
    let portalId := s.wsPortalId
    if portalId = "" ∨ portalId = "none" then some s
    else
      let s := { s with wsPortal := findPortal s.wsPortals portalId }
      if s.wsPortal.isEmpty then some s
      else
        (openSocket valid { s with status := .active, reconnectCount := 0 }).map fun s =>
          { s with
            subscriptions := .acquire (eventSubscriptions s.wsPortal) :: s.subscriptions
            startedWith := s.wsPortal }

def stop (s : State) : State :=
  if s.status = .inactive then s
  else
    let s := destroyWsSocket { s with status := .inactive }
    if s.wsPortal.isEmpty then s
    else
      { s with
        subscriptions := .release (eventSubscriptions s.wsPortal) :: s.subscriptions
        wsPortal := [] }

def restart (valid : Bool) (s : State) : Option State := s.stop.start valid

def onLogoutSucceeded (s : State) : State := s.stop

def onApiClientReady (reconnect valid : Bool) (s : State) : Option State :=
  if reconnect then some s else s.start valid

def onWsPortalsReady (portals : QJsonArray) (valid : Bool) (s : State) : Option State :=
  let s := { s with wsPortal := findPortal portals s.wsPortalId }
  if !s.wsPortal.isEmpty && s.status = .inactive then
    -- Start when not started
    s.start valid
  else some s

def onDisconnected (valid : Bool) (s : State) : Option State :=
  if s.status ≠ .inactive ∧ s.wsPortalId ≠ "" ∧ s.wsPortalId ≠ "none" then
    openSocket valid { s with reconnectCount := s.reconnectCount + 1 }
  else some s

/-- Of the dock, which has the portals in a combo box. -/
def onActiveWsPortalChanged (portalId : String) (valid : Bool) (s : State) : Option State :=
  if s.wsPortalId ≠ portalId then
    -- Stop when portalId is empty
    restart valid { s with wsPortalId := portalId }
  else some s

end State

/-- `valid` says whether the socket is valid when the event is handled. -/
inductive Event where
  | start (valid : Bool)
  /-- also by the destructor -/
  | stop
  | restart (valid : Bool)
  /-- also after a failed login -/
  | logoutSucceeded
  | apiClientReady (reconnect valid : Bool)
  /-- the API client has new portals -/
  | wsPortalsReady (portals : QJsonArray) (valid : Bool)
  /-- the API client forgets or replaces its portals -/
  | setWsPortals (portals : QJsonArray)
  | disconnected (valid : Bool)
  | activeWsPortalChanged (portalId : String) (valid : Bool)

open State in
def step (s : State) : Event → Option State
  | .start valid => s.start valid
  | .stop => some s.stop
  | .restart valid => s.restart valid
  | .logoutSucceeded => some s.onLogoutSucceeded
  | .apiClientReady reconnect valid => s.onApiClientReady reconnect valid
  | .wsPortalsReady portals valid => onWsPortalsReady portals valid { s with wsPortals := portals }
  | .setWsPortals portals => some { s with wsPortals := portals }
  | .disconnected valid => s.onDisconnected valid
  | .activeWsPortalChanged portalId valid => s.onActiveWsPortalChanged portalId valid

/-- The subscription there should be. -/
def subscribed (s : State) : Option (BitVec 64) :=
  match s.status with
  | .inactive => none
  | .active => some (eventSubscriptions s.startedWith)

/-- The calls are paired, and the reference counts of the event handler are those of the mask of
the last start. -/
structure Balanced (s : State) : Prop where
  paired : held s.subscriptions = some (subscribed s)
  refCounts : ∀ bit, refCount BitVec.getLsbD bit s.subscriptions =
    ((subscribed s).any fun mask => mask.getLsbD bit).toNat

def Stops (s : State) : Event → Prop
  | .stop | .restart _ | .logoutSucceeded => True
  | .activeWsPortalChanged portalId _ => s.wsPortalId ≠ portalId
  | _ => False

/-- The stored portal has the event subscriptions that the client was started with. -/
def KeepsMask (s : State) : Prop :=
  s.wsPortal ≠ [] ∧ eventSubscriptions s.wsPortal = eventSubscriptions s.startedWith

def StopsWithMask (s : State) (e : Event) : Prop := s.status = .active → Stops s e → KeepsMask s

section Steps

variable {s s' : State} {valid : Bool}

theorem balanced_iff : Balanced s ↔ held s.subscriptions = some (subscribed s) :=
  ⟨Balanced.paired, fun h => ⟨h, fun bit => refCount_of_held BitVec.getLsbD bit h⟩⟩

structure SameSubscription (s s' : State) : Prop where
  status : s'.status = s.status
  startedWith : s'.startedWith = s.startedWith
  subscriptions : s'.subscriptions = s.subscriptions

theorem SameSubscription.refl (s : State) : SameSubscription s s := ⟨rfl, rfl, rfl⟩

theorem SameSubscription.trans {s'' : State} (h : SameSubscription s s')
    (h' : SameSubscription s' s'') : SameSubscription s s'' :=
  ⟨h'.status.trans h.status, h'.startedWith.trans h.startedWith,
    h'.subscriptions.trans h.subscriptions⟩

theorem SameSubscription.balanced_iff (h : SameSubscription s s') : Balanced s' ↔ Balanced s := by
  rw [WsPortalClient.balanced_iff, WsPortalClient.balanced_iff, subscribed, h.status, h.startedWith,
    h.subscriptions, subscribed]

theorem same_createWsSocket (s : State) :
    SameSubscription s s.createWsSocket ∧ s.createWsSocket.wsPortal = s.wsPortal := by
  unfold State.createWsSocket
  split
  · exact ⟨SameSubscription.refl s, rfl⟩
  · exact ⟨⟨rfl, rfl, rfl⟩, rfl⟩

theorem same_openSocket (h : s.openSocket valid = some s') :
    SameSubscription s s' ∧ s'.wsPortal = s.wsPortal := by
  unfold State.openSocket at h
  split at h
  · exact Option.some.inj h ▸ ⟨SameSubscription.refl s, rfl⟩
  · obtain ⟨-, ⟨⟩⟩ := Option.ite_none_right_eq_some.mp h
    exact same_createWsSocket s

theorem start_cases (h : s.start valid = some s') :
    SameSubscription s s' ∨
      s.status = .inactive ∧ s'.status = .active ∧
        s'.subscriptions = .acquire (eventSubscriptions s'.startedWith) :: s.subscriptions := by
  simp only [State.start] at h
  split at h
  · exact .inl (Option.some.inj h ▸ SameSubscription.refl s)
  · next hInactive =>
    have hStatus : s.status = .inactive := by
      cases hStatus : s.status with
      | inactive => rfl
      | active => exact (hInactive hStatus).elim
    split at h
    · exact .inl (Option.some.inj h ▸ SameSubscription.refl s)
    · split at h
      · exact .inl (Option.some.inj h ▸ ⟨rfl, rfl, rfl⟩)
      · obtain ⟨opened, hOpened, rfl⟩ := Option.map_eq_some_iff.mp h
        obtain ⟨hSame, hPortal⟩ := same_openSocket hOpened
        exact .inr ⟨hStatus, hSame.status, by rw [hSame.subscriptions]⟩

theorem start_balanced_iff (h : s.start valid = some s') : Balanced s' ↔ Balanced s := by
  obtain hSame | ⟨hInactive, hActive, hSubscribed⟩ := start_cases h
  · exact hSame.balanced_iff
  · rw [balanced_iff, balanced_iff, hSubscribed, subscribed, subscribed, hActive, hInactive,
      held_acquire_iff]
    exact and_iff_left rfl

theorem stop_cases (s : State) :
    s.status = .inactive ∧ s.stop = s ∨
      s.status = .active ∧ s.stop.status = .inactive ∧
        (s.wsPortal = [] ∧ s.stop.subscriptions = s.subscriptions ∨
          s.wsPortal ≠ [] ∧
            s.stop.subscriptions = .release (eventSubscriptions s.wsPortal) :: s.subscriptions) := by
  simp only [State.stop]
  split
  · next hInactive => exact .inl ⟨hInactive, rfl⟩
  · next hActive =>
    have hActive : s.status = .active := by
      cases hStatus : s.status with
      | inactive => exact (hActive hStatus).elim
      | active => rfl
    refine .inr ⟨hActive, ?_⟩
    split
    · next hEmpty => exact ⟨rfl, .inl ⟨List.isEmpty_iff.mp hEmpty, rfl⟩⟩
    · next hPortal => exact ⟨rfl, .inr ⟨fun hEmpty => hPortal (List.isEmpty_iff.mpr hEmpty), rfl⟩⟩

theorem stop_balanced_iff (h : Balanced s) :
    Balanced s.stop ↔ (s.status = .active → KeepsMask s) := by
  obtain ⟨hInactive, hSame⟩ | ⟨hActive, hStopped, hCalls⟩ := stop_cases s
  · rw [hSame]
    exact ⟨fun _ hActive => absurd (hInactive.symm.trans hActive) (by decide), fun _ => h⟩
  · have hHeld : held s.subscriptions = some (some (eventSubscriptions s.startedWith)) := by
      rw [h.paired, subscribed, hActive]
    rw [forall_prop_of_true hActive, balanced_iff, subscribed, hStopped]
    obtain ⟨hEmpty, hKept⟩ | ⟨hPortal, hReleased⟩ := hCalls
    · rw [hKept, hHeld]
      exact ⟨nofun, fun hMask => (hMask.1 hEmpty).elim⟩
    · rw [hReleased, held_release_iff, hHeld, Option.some_inj, Option.some_inj]
      exact ⟨fun hSame => ⟨hPortal, hSame.1.symm⟩, fun hMask => ⟨hMask.2.symm, rfl⟩⟩

theorem onWsPortalsReady_balanced_iff {portals : QJsonArray}
    (h : s.onWsPortalsReady portals valid = some s') : Balanced s' ↔ Balanced s := by
  simp only [State.onWsPortalsReady] at h
  have hStored : SameSubscription s { s with wsPortal := State.findPortal portals s.wsPortalId } :=
    ⟨rfl, rfl, rfl⟩
  split at h
  · exact (start_balanced_iff h).trans hStored.balanced_iff
  · exact Option.some.inj h ▸ hStored.balanced_iff

theorem onDisconnected_same (h : s.onDisconnected valid = some s') : SameSubscription s s' := by
  unfold State.onDisconnected at h
  split at h
  · have hCounted : SameSubscription s { s with reconnectCount := s.reconnectCount + 1 } :=
      ⟨rfl, rfl, rfl⟩
    exact hCounted.trans (same_openSocket h).1
  · exact Option.some.inj h ▸ SameSubscription.refl s

theorem restart_balanced_iff (hBalanced : Balanced s) (h : s.restart valid = some s') :
    Balanced s' ↔ (s.status = .active → KeepsMask s) :=
  (start_balanced_iff h).trans (stop_balanced_iff hBalanced)

theorem step_balanced_iff {e : Event} (h : Balanced s) (hStep : step s e = some s') :
    Balanced s' ↔ StopsWithMask s e := by
  -- the mask matters only to the events that stop the client
  have hStops (hStop : Stops s e) (hIff : Balanced s' ↔ (s.status = .active → KeepsMask s)) :
      Balanced s' ↔ StopsWithMask s e :=
    hIff.trans (forall_congr' fun _ => ⟨fun hMask _ => hMask, fun hMask => hMask hStop⟩)
  have hOther (hGoes : ¬Stops s e) (hIff : Balanced s' ↔ Balanced s) :
      Balanced s' ↔ StopsWithMask s e :=
    ⟨fun _ _ hStop => (hGoes hStop).elim, fun _ => hIff.mpr h⟩
  cases e with
  | start valid => exact hOther id (start_balanced_iff hStep)
  | stop =>
    obtain rfl := Option.some.inj hStep
    exact hStops trivial (stop_balanced_iff h)
  | restart valid => exact hStops trivial (restart_balanced_iff h hStep)
  | logoutSucceeded =>
    obtain rfl := Option.some.inj hStep
    exact hStops trivial (stop_balanced_iff h)
  | apiClientReady reconnect valid =>
    refine hOther id ?_
    simp only [step, State.onApiClientReady] at hStep
    split at hStep
    · exact Option.some.inj hStep ▸ Iff.rfl
    · exact start_balanced_iff hStep
  | wsPortalsReady portals valid =>
    have hCached : SameSubscription s { s with wsPortals := portals } := ⟨rfl, rfl, rfl⟩
    exact hOther id ((onWsPortalsReady_balanced_iff hStep).trans hCached.balanced_iff)
  | setWsPortals portals =>
    obtain rfl := Option.some.inj hStep
    exact hOther id (SameSubscription.balanced_iff ⟨rfl, rfl, rfl⟩)
  | disconnected valid => exact hOther id (onDisconnected_same hStep).balanced_iff
  | activeWsPortalChanged portalId valid =>
    simp only [step, State.onActiveWsPortalChanged] at hStep
    split at hStep
    · next hChanged =>
      have hSelected : SameSubscription s { s with wsPortalId := portalId } := ⟨rfl, rfl, rfl⟩
      have hBefore := hSelected.balanced_iff.mpr h
      have hRestarted := restart_balanced_iff hBefore hStep
      exact hStops hChanged hRestarted
    · next hSame => exact hOther hSame (Option.some.inj hStep ▸ Iff.rfl)

end Steps

/-- The calls are balanced in every state of a run exactly if it only stops clients whose stored
portal still has the mask of the start. -/
theorem balanced_iff_stopsWithMask (x : Execution step)
    (hInitial : ∃ portalId, x.state 0 = { wsPortalId := portalId }) :
    (∀ n, Balanced (x.state n)) ↔ ∀ n e, x.event n = some e → StopsWithMask (x.state n) e := by
  have hStart : Balanced (x.state 0) := by
    obtain ⟨portalId, hFresh⟩ := hInitial
    rw [hFresh]
    exact balanced_iff.mpr rfl
  refine x.always_iff hStart fun n e hEvent hBalanced => ?_
  exact step_balanced_iff hBalanced (x.next_of_event hEvent)

def portalDocument (eventSubscriptions : Int) : QJsonObject :=
  [("_id", .string "portal"), ("name", .string "portal"),
    ("event_subscriptions", .double eventSubscriptions),
    ("owner_account_view", .object [("display_name", .string "owner")]),
    ("owner_user_id", .string "owner"), ("facility_id", .string "facility"),
    ("facility_view", .object [("address", .string "host"), ("port", .double 443)])]

example : WsPortal.isValid (portalDocument 1) = true := by decide +kernel

def selected : State := { wsPortalId := "portal" }

theorem balanced_iff_stopsWithMask_logout :
    ∃ x : Execution step, (x.state 2).subscriptions = [.release 1, .acquire 1] ∧
      ∀ n, Balanced (x.state n) := by
  let events : List Event :=
    [.wsPortalsReady [.object (portalDocument 1)] false, .logoutSucceeded]
  refine ⟨Execution.ofRun step selected events (by decide +kernel), by decide +kernel,
    (balanced_iff_stopsWithMask _ ⟨"portal", rfl⟩).mpr ?_⟩
  rintro (_ | _ | n) e hEvent
  · obtain rfl := Option.some.inj hEvent
    exact fun _ hStops => hStops.elim
  · exact fun _ _ => ⟨by decide +kernel, by decide +kernel⟩
  · exact absurd hEvent (Option.some_ne_none e).symm

/-- The portal is removed while the client is active, and the mask is never unsubscribed. -/
theorem not_balanced :
    ¬∀ s, Reachable step anyStep (fun s => ∃ portalId, s = { wsPortalId := portalId }) s →
      Balanced s := by
  intro hAll
  have hRun : (run step selected [.wsPortalsReady [.object (portalDocument 1)] false,
      .wsPortalsReady [] true, .stop]).map (fun s => (s.status, held s.subscriptions)) =
      some (.inactive, some (some 1)) := by decide +kernel
  obtain ⟨s, hReached, hLeaked⟩ := Option.map_eq_some_iff.mp hRun
  obtain ⟨hStatus, hHeld⟩ := Prod.mk.inj hLeaked
  have hPaired := (hAll s (reachable_of_run _ (.start ⟨_, rfl⟩) hReached)).paired
  rw [subscribed, hStatus, hHeld] at hPaired
  cases hPaired

end SrcLink.WsPortalClient
