import SrcLink.Document.QUrl
import SrcLink.Portal.WsPortalClient

/-! # Sockets of the portal client

`open` first lets `createWsSocket` replace the socket by one for the facility of the
stored portal, and then takes the URL from that portal too. A portal without a
facility leaves the socket as it was, so the one that is opened may be missing, or
may belong to a portal that is not stored any more.
-/

namespace SrcLink.WsPortalClient

open Json Schema StepSystem

set_option autoImplicit false

/-- A call of the socket's `open`. -/
structure Opening where
  portalId : String
  /-- the stored portal, which gives the URL -/
  portal : QJsonObject
  /-- the facility that the socket was created for, none without a socket -/
  socket : Option QJsonObject
  url : String

/-- The client with what its socket was created for. -/
structure Sockets where
  client : State
  facility : Option QJsonObject := none
  /-- newest first -/
  openings : List Opening := []
  /-- a null pointer was dereferenced -/
  crashed : Bool := false

/-- The end of `start`. -/
def State.started (s : State) : State :=
  { s with
    subscriptions := .acquire (eventSubscriptions s.wsPortal) :: s.subscriptions
    startedWith := s.wsPortal }

namespace Sockets

def createWsSocket (p : Sockets) : Sockets :=
  let facility := WsPortal.getFacilityView p.client.wsPortal
  if facility.isEmpty then p
  else { p with client := p.client.createWsSocket, facility := some facility }

/-- What `open` asks the socket to open. -/
def opening (portalId : String) (p : Sockets) : Opening where
  portalId := portalId
  portal := p.client.wsPortal
  socket := p.facility
  url := WsPortalFacilityView.getApiUrl (WsPortal.getFacilityView p.client.wsPortal)

def openSocket (portalId : String) (valid : Bool) (p : Sockets) : Sockets :=
  if p.client.client && valid then p
  else
    let p := p.createWsSocket
    { p with openings := p.opening portalId :: p.openings, crashed := p.facility.isNone }

def start (valid : Bool) (p : Sockets) : Sockets :=
  if p.client.status = .active then p
  else
    let portalId := p.client.wsPortalId
    if portalId = "" ∨ portalId = "none" then p
    else
      let p := { p with client.wsPortal := State.findPortal p.client.wsPortals portalId }
      if p.client.wsPortal.isEmpty then p
      else
        let p := openSocket portalId valid
          { p with client.status := .active, client.reconnectCount := 0 }
        if p.crashed then p else { p with client := p.client.started }

def stop (p : Sockets) : Sockets :=
  if p.client.status = .inactive then p else { p with client := p.client.stop, facility := none }

def onWsPortalsReady (portals : QJsonArray) (valid : Bool) (p : Sockets) : Sockets :=
  let p := { p with client.wsPortal := State.findPortal portals p.client.wsPortalId }
  if !p.client.wsPortal.isEmpty && p.client.status = .inactive then p.start valid else p

def onDisconnected (valid : Bool) (p : Sockets) : Sockets :=
  let portalId := p.client.wsPortalId
  if p.client.status ≠ .inactive ∧ portalId ≠ "" ∧ portalId ≠ "none" then
    openSocket portalId valid
      { p with client.reconnectCount := p.client.reconnectCount + 1 }
  else p

def onActiveWsPortalChanged (portalId : String) (valid : Bool) (p : Sockets) : Sockets :=
  if p.client.wsPortalId ≠ portalId then
    ({ p with client.wsPortalId := portalId } : Sockets).stop.start valid
  else p

def handle (p : Sockets) : Event → Sockets
  | .start valid => p.start valid
  | .stop | .logoutSucceeded => p.stop
  | .restart valid => p.stop.start valid
  | .apiClientReady reconnect valid => if reconnect then p else p.start valid
  | .wsPortalsReady portals valid =>
    onWsPortalsReady portals valid { p with client.wsPortals := portals }
  | .setWsPortals portals => { p with client.wsPortals := portals }
  | .disconnected valid => p.onDisconnected valid
  | .activeWsPortalChanged portalId valid => p.onActiveWsPortalChanged portalId valid

/-- Nothing happens any more after a crash. -/
def step (p : Sockets) (e : Event) : Option Sockets :=
  if p.crashed then none else some (p.handle e)

end Sockets

/-- The socket is there and belongs to the facility of the portal that is opened. -/
structure Opening.Proper (urls : UrlSyntax) (o : Opening) : Prop where
  portal : WsPortal.getId o.portal = o.portalId
  socket : o.socket = some (WsPortal.getFacilityView o.portal)
  host : urls.host o.url = WsPortalFacilityView.getApiHost (WsPortal.getFacilityView o.portal)

def AllProper (urls : UrlSyntax) (p : Sockets) : Prop := ∀ o ∈ p.openings, o.Proper urls

/-- The portal has a facility, with an address that a URL keeps as it is. -/
structure HasFacility (urls : UrlSyntax) (portal : QJsonObject) : Prop where
  facility : WsPortal.getFacilityView portal ≠ []
  address : urls.host (WsPortalFacilityView.getApiUrl (WsPortal.getFacilityView portal)) =
    WsPortalFacilityView.getApiHost (WsPortal.getFacilityView portal)

/-- There is a socket if its facility is known, and only an active client has one. -/
structure Attached (p : Sockets) : Prop where
  socket : p.client.client = p.facility.isSome
  facility : p.facility ≠ some []
  inactive : p.client.status = .inactive → p.facility = none

/-- The portal of an active client, if it is still there, is the selected one. -/
structure Stored (p : Sockets) : Prop extends Attached p where
  named : p.client.status = .active → p.client.wsPortal ≠ [] →
    WsPortal.getId p.client.wsPortal = p.client.wsPortalId

theorem findPortal_id {portals : QJsonArray} {portalId : String}
    (hFound : State.findPortal portals portalId ≠ []) :
    WsPortal.getId (State.findPortal portals portalId) = portalId := by
  unfold State.findPortal TypedJsonArray.find at hFound ⊢
  split at hFound
  · next index hIndex =>
    obtain ⟨hLength, hSame, -⟩ := List.findIdx?_eq_some_iff_getElem.mp hIndex
    simpa [hLength] using hSame
  · exact (hFound rfl).elim

section Opens

variable {urls : UrlSyntax} {p : Sockets} {portalId : String} {valid : Bool}

/-- The socket that replaces the old one belongs to the stored portal. -/
def replaced (p : Sockets) : Sockets :=
  { p with
    client.client := true
    facility := some (WsPortal.getFacilityView p.client.wsPortal) }

theorem createWsSocket_cases (p : Sockets) :
    WsPortal.getFacilityView p.client.wsPortal = [] ∧ p.createWsSocket = p ∨
      WsPortal.getFacilityView p.client.wsPortal ≠ [] ∧ p.createWsSocket = replaced p := by
  by_cases hEmpty : WsPortal.getFacilityView p.client.wsPortal = []
  · exact .inl ⟨hEmpty, by simp [Sockets.createWsSocket, hEmpty]⟩
  · have hSome := List.isEmpty_eq_false_iff.mpr hEmpty
    refine .inr ⟨hEmpty, ?_⟩
    simp only [Sockets.createWsSocket, State.createWsSocket, hSome]
    rfl

theorem openSocket_cases (portalId : String) (valid : Bool) (p : Sockets) :
    ((p.client.client && valid) = true ∧ p.openSocket portalId valid = p) ∨
      (p.client.client && valid) = false ∧
        (WsPortal.getFacilityView p.client.wsPortal = [] ∧ p.openSocket portalId valid =
            { p with
              openings := p.opening portalId :: p.openings
              crashed := p.facility.isNone } ∨
          WsPortal.getFacilityView p.client.wsPortal ≠ [] ∧ p.openSocket portalId valid =
            { replaced p with
              openings := (replaced p).opening portalId :: p.openings
              crashed := false }) := by
  unfold Sockets.openSocket
  split
  · next hValid => exact .inl ⟨hValid, rfl⟩
  · next hInvalid =>
    refine .inr ⟨by simpa using hInvalid, ?_⟩
    obtain ⟨hEmpty, hEq⟩ | ⟨hSome, hEq⟩ := createWsSocket_cases p
    · exact .inl ⟨hEmpty, by rw [hEq]⟩
    · refine .inr ⟨hSome, ?_⟩
      rw [hEq]
      rfl

theorem openSocket_proper_iff (hFacility : p.facility ≠ some [])
    (hNamed : p.client.wsPortal ≠ [] → WsPortal.getId p.client.wsPortal = portalId)
    (hProper : AllProper urls p) :
    AllProper urls (p.openSocket portalId valid) ↔
      ((p.client.client && valid) = false → HasFacility urls p.client.wsPortal) := by
  obtain ⟨hValid, hEq⟩ | ⟨hInvalid, hOpened⟩ := openSocket_cases portalId valid p
  · rw [hEq, hValid]
    exact iff_of_true hProper nofun
  · rw [hInvalid, forall_prop_of_true rfl]
    obtain ⟨hEmpty, hEq⟩ | ⟨hSome, hEq⟩ := hOpened
    · refine iff_of_false (fun hAll => ?_) fun hHas => hHas.facility hEmpty
      have hOpening : (p.opening portalId).Proper urls :=
        hAll _ (by rw [hEq]; exact List.mem_cons_self)
      have hSocket : p.facility = some (WsPortal.getFacilityView p.client.wsPortal) :=
        hOpening.socket
      exact hFacility (hSocket.trans (congrArg some hEmpty))
    · have hStored : p.client.wsPortal ≠ [] := by
        intro hNone
        rw [hNone] at hSome
        exact hSome rfl
      have hOpening : ((replaced p).opening portalId).Proper urls ↔
          HasFacility urls p.client.wsPortal :=
        ⟨fun hOpening => ⟨hSome, hOpening.host⟩, fun hHas => ⟨hNamed hStored, rfl, hHas.address⟩⟩
      rw [hEq]
      exact List.forall_mem_cons.trans ((and_iff_left hProper).trans hOpening)

theorem openSocket_stored (h : Stored p) (hActive : p.client.status = .active) :
    Stored (p.openSocket portalId valid) := by
  obtain ⟨-, hEq⟩ | ⟨-, ⟨-, hEq⟩ | ⟨hSome, hEq⟩⟩ := openSocket_cases portalId valid p
  · rw [hEq]
    exact h
  · rw [hEq]
    exact ⟨⟨h.socket, h.facility, h.inactive⟩, h.named⟩
  · rw [hEq]
    refine ⟨⟨rfl, fun hNone => hSome (Option.some.inj hNone), fun hInactive => ?_⟩, h.named⟩
    have hStatus : p.client.status = .inactive := hInactive
    rw [hActive] at hStatus
    cases hStatus

end Opens

/-- If a start finds the portal, the portal has a facility. -/
def FindsFacility (urls : UrlSyntax) (portals : QJsonArray) (portalId : String) : Prop :=
  portalId ≠ "" → portalId ≠ "none" → State.findPortal portals portalId ≠ [] →
    HasFacility urls (State.findPortal portals portalId)

section Handlers

variable {urls : UrlSyntax} {p : Sockets} {valid : Bool}

/-- Whether a start gets as far as opening the socket. -/
def Starts (s : State) : Prop :=
  s.status = .inactive ∧ s.wsPortalId ≠ "" ∧ s.wsPortalId ≠ "none" ∧
    State.findPortal s.wsPortals s.wsPortalId ≠ []

/-- The client as a start opens its socket. -/
def begun (p : Sockets) : Sockets :=
  { p with
    client.wsPortal := State.findPortal p.client.wsPortals p.client.wsPortalId
    client.status := .active
    client.reconnectCount := 0 }

theorem start_of_starts (hStarts : Starts p.client) (valid : Bool) :
    ∃ subscriptions startedWith,
      p.start valid =
        let opened := (begun p).openSocket p.client.wsPortalId valid
        { opened with
          client.subscriptions := subscriptions
          client.startedWith := startedWith } := by
  obtain ⟨hInactive, hId, hNone, hFound⟩ := hStarts
  have hSome : (State.findPortal p.client.wsPortals p.client.wsPortalId).isEmpty = false :=
    List.isEmpty_eq_false_iff.mpr hFound
  simp only [Sockets.start, hInactive, hId, hNone, hSome, begun, reduceCtorEq, or_self, if_false,
    Bool.false_eq_true]
  split
  · exact ⟨_, _, rfl⟩
  · exact ⟨_, _, rfl⟩

/-- Otherwise it stores at most that no portal was found. -/
theorem start_of_not_starts (hStays : ¬Starts p.client) (valid : Bool) :
    p.start valid = p ∨
      p.client.status = .inactive ∧ p.start valid = { p with client.wsPortal := [] } := by
  simp only [Sockets.start]
  split
  · exact .inl rfl
  · next hStatus =>
    have hInactive : p.client.status = .inactive := by
      cases hStatus' : p.client.status with
      | inactive => rfl
      | active => exact (hStatus hStatus').elim
    split
    · exact .inl rfl
    · next hId =>
      obtain ⟨hId, hNone⟩ := not_or.mp hId
      have hEmpty : State.findPortal p.client.wsPortals p.client.wsPortalId = [] := by
        by_contra hFound
        exact hStays ⟨hInactive, hId, hNone, hFound⟩
      rw [hEmpty]
      exact .inr ⟨hInactive, rfl⟩

theorem begun_stored (h : Stored p) : Stored (begun p) where
  socket := h.socket
  facility := h.facility
  inactive := nofun
  named _ hFound := findPortal_id hFound

theorem start_stored (h : Stored p) : Stored (p.start valid) := by
  by_cases hStarts : Starts p.client
  · obtain ⟨subscriptions, startedWith, hEq⟩ := start_of_starts hStarts valid
    have hOpened : Stored ((begun p).openSocket p.client.wsPortalId valid) :=
      openSocket_stored (begun_stored h) rfl
    rw [hEq]
    exact ⟨⟨hOpened.socket, hOpened.facility, hOpened.inactive⟩, hOpened.named⟩
  · obtain hEq | ⟨hInactive, hEq⟩ := start_of_not_starts hStarts valid
    · rw [hEq]
      exact h
    · rw [hEq]
      exact ⟨⟨h.socket, h.facility, h.inactive⟩, fun _ hNone => (hNone rfl).elim⟩

theorem start_proper_iff (h : Stored p) (hProper : AllProper urls p) :
    AllProper urls (p.start valid) ↔
      (p.client.status = .inactive →
        FindsFacility urls p.client.wsPortals p.client.wsPortalId) := by
  by_cases hStarts : Starts p.client
  · obtain ⟨subscriptions, startedWith, hEq⟩ := start_of_starts hStarts valid
    obtain ⟨hInactive, hId, hNone, hFound⟩ := hStarts
    have hClosed : (p.client.client && valid) = false := by
      rw [h.socket, h.inactive hInactive]
      rfl
    have hOpened : AllProper urls ((begun p).openSocket p.client.wsPortalId valid) ↔ _ :=
      openSocket_proper_iff h.facility findPortal_id hProper
    rw [hEq, hInactive, forall_prop_of_true rfl]
    refine (hOpened.trans (forall_prop_of_true hClosed)).trans ?_
    exact ⟨fun hFacility _ _ _ => hFacility, fun hFinds => hFinds hId hNone hFound⟩
  · refine iff_of_true ?_ fun hInactive hId hNone hFound =>
      (hStarts ⟨hInactive, hId, hNone, hFound⟩).elim
    obtain hEq | ⟨-, hEq⟩ := start_of_not_starts hStarts valid
    · rw [hEq]
      exact hProper
    · rw [hEq]
      exact hProper

theorem stop_status (s : State) : s.stop.status = .inactive := by
  obtain ⟨hInactive, hEq⟩ | ⟨-, hStopped, -⟩ := stop_cases s
  · rw [hEq, hInactive]
  · exact hStopped

theorem stop_selected (s : State) :
    s.stop.wsPortals = s.wsPortals ∧ s.stop.wsPortalId = s.wsPortalId := by
  simp only [State.stop]
  split
  · exact ⟨rfl, rfl⟩
  · split <;> exact ⟨rfl, rfl⟩

theorem stop_sockets (h : Attached p) :
    Stored p.stop ∧ p.stop.openings = p.openings ∧ p.stop.client = p.client.stop ∧
      p.stop.crashed = p.crashed := by
  unfold Sockets.stop
  split
  · next hInactive =>
    refine ⟨⟨h, fun hActive => ?_⟩, rfl, ?_, rfl⟩
    · rw [hInactive] at hActive
      cases hActive
    · simp only [State.stop, hInactive, if_true]
  · next hActive =>
    have hSocket : p.client.stop.client = false := by
      simp only [State.stop, hActive, if_false]
      split <;> rfl
    refine ⟨⟨⟨hSocket, fun hSome => ?_, fun _ => rfl⟩, fun hStatus => ?_⟩, rfl, rfl, rfl⟩
    · cases hSome
    have hInactive := stop_status p.client
    rw [hStatus] at hInactive
    cases hInactive

theorem restart_proper_iff (h : Attached p) (hProper : AllProper urls p) :
    AllProper urls (p.stop.start valid) ↔
      FindsFacility urls p.client.wsPortals p.client.wsPortalId := by
  obtain ⟨hStored, hOpenings, hClient, -⟩ := stop_sockets h
  have hStopped : AllProper urls p.stop := by
    rw [AllProper, hOpenings]
    exact hProper
  refine (start_proper_iff hStored hStopped).trans ?_
  rw [hClient, stop_status, forall_prop_of_true rfl, (stop_selected p.client).1,
    (stop_selected p.client).2]

/-- The portals that `onWsPortalsReady` stores contain the selected one, or nothing is stored. -/
theorem Stored.found {portals : QJsonArray} (h : Stored p) :
    Stored { p with client.wsPortal := State.findPortal portals p.client.wsPortalId } :=
  ⟨⟨h.socket, h.facility, h.inactive⟩, fun _ hFound => findPortal_id hFound⟩

theorem onWsPortalsReady_proper_iff {portals : QJsonArray} (h : Stored p)
    (hProper : AllProper urls p) (hPortals : p.client.wsPortals = portals) :
    AllProper urls (p.onWsPortalsReady portals valid) ↔
      (p.client.status = .inactive → FindsFacility urls portals p.client.wsPortalId) := by
  simp only [Sockets.onWsPortalsReady]
  split
  · refine (start_proper_iff h.found hProper).trans ?_
    rw [hPortals]
  · next hStays =>
    refine iff_of_true hProper fun hInactive _ _ hSome => ?_
    simp [hInactive, hSome] at hStays

theorem Stored.cached (h : Stored p) (portals : QJsonArray) :
    Stored { p with client.wsPortals := portals } :=
  ⟨⟨h.socket, h.facility, h.inactive⟩, h.named⟩

theorem Stored.counted (h : Stored p) (reconnectCount : Nat) :
    Stored { p with client.reconnectCount := reconnectCount } :=
  ⟨⟨h.socket, h.facility, h.inactive⟩, h.named⟩

theorem active_of_ne {status : WsPortalStatus} (h : status ≠ .inactive) : status = .active := by
  cases status with
  | inactive => exact (h rfl).elim
  | active => rfl

theorem onDisconnected_proper_iff (h : Stored p) (hProper : AllProper urls p) :
    AllProper urls (p.onDisconnected valid) ↔
      (p.client.status = .active → p.client.wsPortalId ≠ "" → p.client.wsPortalId ≠ "none" →
        (p.client.client && valid) = false → HasFacility urls p.client.wsPortal) := by
  simp only [Sockets.onDisconnected]
  split
  · next hReopens =>
    obtain ⟨hStatus, hId, hNone⟩ := hReopens
    have hActive := active_of_ne hStatus
    have hCounted := h.counted (p.client.reconnectCount + 1)
    refine (openSocket_proper_iff hCounted.facility (h.named hActive) hProper).trans ?_
    exact ⟨fun hFacility _ _ _ => hFacility, fun hFacility => hFacility hActive hId hNone⟩
  · next hStays =>
    refine iff_of_true hProper fun hActive hId hNone => (hStays ⟨?_, hId, hNone⟩).elim
    rw [hActive]
    decide

theorem handle_stored (h : Stored p) (e : Event) : Stored (p.handle e) := by
  cases e with
  | start valid => exact start_stored h
  | stop | logoutSucceeded => exact (stop_sockets h.toAttached).1
  | restart valid => exact start_stored (stop_sockets h.toAttached).1
  | apiClientReady reconnect valid =>
    cases reconnect with
    | true => exact h
    | false => exact start_stored h
  | wsPortalsReady portals valid =>
    have hCached := h.cached portals
    simp only [Sockets.handle, Sockets.onWsPortalsReady]
    split
    · exact start_stored hCached.found
    · exact hCached.found
  | setWsPortals portals => exact h.cached portals
  | disconnected valid =>
    simp only [Sockets.handle, Sockets.onDisconnected]
    split
    · next hReopens => exact openSocket_stored (h.counted _) (active_of_ne hReopens.1)
    · exact h
  | activeWsPortalChanged portalId valid =>
    have hSelected : Attached { p with client.wsPortalId := portalId } :=
      ⟨h.socket, h.facility, h.inactive⟩
    simp only [Sockets.handle, Sockets.onActiveWsPortalChanged]
    split
    · exact start_stored (stop_sockets hSelected).1
    · exact h

end Handlers

/-- The socket that is opened is new: the portal that a start finds has a facility, and so has the
stored portal when a connection is lost and the socket has become invalid. -/
def OpensNewSocket (urls : UrlSyntax) (s : State) : Event → Prop
  | .start _ | .apiClientReady false _ =>
    s.status = .inactive → FindsFacility urls s.wsPortals s.wsPortalId
  | .restart _ => FindsFacility urls s.wsPortals s.wsPortalId
  | .wsPortalsReady portals _ => s.status = .inactive → FindsFacility urls portals s.wsPortalId
  | .disconnected valid =>
    s.status = .active → s.wsPortalId ≠ "" → s.wsPortalId ≠ "none" →
      (s.client && valid) = false → HasFacility urls s.wsPortal
  | .activeWsPortalChanged portalId _ =>
    s.wsPortalId ≠ portalId → FindsFacility urls s.wsPortals portalId
  | _ => True

theorem handle_proper_iff {urls : UrlSyntax} {p : Sockets} (h : Stored p)
    (hProper : AllProper urls p) (e : Event) :
    AllProper urls (p.handle e) ↔ OpensNewSocket urls p.client e := by
  cases e with
  | start valid => exact start_proper_iff h hProper
  | stop | logoutSucceeded =>
    refine iff_of_true ?_ trivial
    rw [AllProper, Sockets.handle, (stop_sockets h.toAttached).2.1]
    exact hProper
  | restart valid => exact restart_proper_iff h.toAttached hProper
  | apiClientReady reconnect valid =>
    cases reconnect with
    | true => exact iff_of_true hProper trivial
    | false => exact start_proper_iff h hProper
  | wsPortalsReady portals valid =>
    have hCached := h.cached portals
    exact onWsPortalsReady_proper_iff hCached hProper rfl
  | setWsPortals portals => exact iff_of_true hProper trivial
  | disconnected valid => exact onDisconnected_proper_iff h hProper
  | activeWsPortalChanged portalId valid =>
    simp only [Sockets.handle, Sockets.onActiveWsPortalChanged, OpensNewSocket]
    split
    · next hChanged =>
      have hSelected : Attached { p with client.wsPortalId := portalId } :=
        ⟨h.socket, h.facility, h.inactive⟩
      rw [forall_prop_of_true hChanged]
      exact restart_proper_iff hSelected hProper
    · next hKept => exact iff_of_true hProper fun hChanged => (hKept hChanged).elim

theorem step_eq {p p' : Sockets} {e : Event} (hStep : p.step e = some p') :
    p.crashed = false ∧ p.handle e = p' := by
  obtain ⟨hRuns, hHandled⟩ := Option.ite_none_left_eq_some.mp hStep
  exact ⟨by simpa using hRuns, Option.some.inj hHandled⟩

/-- Every socket that a run opens is there and belongs to the portal exactly if each event opens
a new one. -/
theorem openings_proper_iff (urls : UrlSyntax) (x : Execution Sockets.step)
    (hInitial : ∃ portalId, x.state 0 = { client := { wsPortalId := portalId } }) :
    (∀ n, AllProper urls (x.state n)) ↔
      ∀ n e, x.event n = some e → OpensNewSocket urls (x.state n).client e := by
  obtain ⟨portalId, hFresh⟩ := hInitial
  have hStored (n : Nat) : Stored (x.state n) := by
    refine x.always Stored ?_ ?_ n
    · rw [hFresh]
      exact ⟨⟨rfl, nofun, fun _ => rfl⟩, nofun⟩
    · intro p e p' h hStep
      rw [← (step_eq hStep).2]
      exact handle_stored h e
  have hStart : AllProper urls (x.state 0) := by
    rw [hFresh]
    exact List.forall_mem_nil _
  refine @Execution.always_iff _ _ _ x (AllProper urls) (fun p => OpensNewSocket urls p.client)
    hStart ?_
  intro n e hEvent hProper
  rw [← (step_eq (x.next_of_event hEvent)).2]
  exact handle_proper_iff (hStored n) hProper e

/-- The client after a handler, unless it has crashed. -/
def survivor (p : Sockets) : Option State := if p.crashed then none else some p.client

section Survivor

variable {p : Sockets} {valid : Bool}

theorem openSocket_client (portalId : String) (h : Attached p) (hRuns : p.crashed = false) :
    p.client.openSocket valid = survivor (p.openSocket portalId valid) := by
  unfold State.openSocket State.createWsSocket
  obtain ⟨hValid, hEq⟩ | ⟨hInvalid, hOpened⟩ := openSocket_cases portalId valid p
  · rw [if_pos hValid, hEq, survivor, hRuns]
    rfl
  · rw [if_neg (by rw [hInvalid]; decide)]
    obtain ⟨hEmpty, hEq⟩ | ⟨hSome, hEq⟩ := hOpened
    · have hSocket := h.socket
      rw [hEq, hEmpty]
      cases hFacility : p.facility <;> simp [survivor, hSocket, hFacility]
    · have hSome' : (WsPortal.getFacilityView p.client.wsPortal).isEmpty = false :=
        List.isEmpty_eq_false_iff.mpr hSome
      rw [hEq, hSome']
      rfl

theorem survivor_started (p : Sockets) :
    (survivor p).map State.started =
      survivor (if p.crashed then p else { p with client := p.client.started }) := by
  cases hCrashed : p.crashed <;> simp [survivor, hCrashed]

theorem start_client (h : Stored p) (hRuns : p.crashed = false) :
    p.client.start valid = survivor (p.start valid) := by
  have hKept : survivor p = some p.client := by
    rw [survivor, hRuns]
    rfl
  simp only [State.start, Sockets.start]
  split
  · exact hKept.symm
  · split
    · exact hKept.symm
    · split
      · simp only [survivor, hRuns, Bool.false_eq_true, if_false]
      · have hOpened : (begun p).client.openSocket valid = _ :=
          openSocket_client p.client.wsPortalId (begun_stored h).toAttached hRuns
        exact (congrArg (Option.map State.started) hOpened).trans (survivor_started _)

theorem stop_start_client (h : Attached p) (hRuns : p.crashed = false) :
    p.client.stop.start valid = survivor (p.stop.start valid) := by
  obtain ⟨hStored, -, hClient, hCrashed⟩ := stop_sockets h
  rw [← hClient]
  exact start_client hStored (hCrashed.trans hRuns)

end Survivor

/-- The client takes the same steps with its socket told apart by the facility. -/
theorem step_client {p p' : Sockets} {e : Event} (h : Stored p) (hStep : p.step e = some p') :
    step p.client e = survivor p' := by
  obtain ⟨hRuns, rfl⟩ := step_eq hStep
  -- where nothing crashes the two clients are the same
  have hKept {q : Sockets} (hCrashed : q.crashed = false) : some q.client = survivor q := by
    rw [survivor, hCrashed]
    rfl
  cases e with
  | start valid => exact start_client h hRuns
  | stop | logoutSucceeded =>
    obtain ⟨-, -, hClient, hCrashed⟩ := stop_sockets h.toAttached
    exact (congrArg some hClient.symm).trans (hKept (hCrashed.trans hRuns))
  | restart valid => exact stop_start_client h.toAttached hRuns
  | apiClientReady reconnect valid =>
    cases reconnect with
    | true => exact hKept hRuns
    | false => exact start_client h hRuns
  | wsPortalsReady portals valid =>
    have hCached := h.cached portals
    simp only [step, State.onWsPortalsReady, Sockets.handle, Sockets.onWsPortalsReady]
    split
    · exact start_client hCached.found hRuns
    · simp only [survivor, hRuns, Bool.false_eq_true, if_false]
  | setWsPortals portals =>
    simp only [step, Sockets.handle, survivor, hRuns, Bool.false_eq_true, if_false]
  | disconnected valid =>
    simp only [step, State.onDisconnected, Sockets.handle, Sockets.onDisconnected]
    split
    · exact openSocket_client _ (h.counted _).toAttached hRuns
    · exact hKept hRuns
  | activeWsPortalChanged portalId valid =>
    simp only [step, State.onActiveWsPortalChanged, Sockets.handle,
      Sockets.onActiveWsPortalChanged]
    split
    · exact stop_start_client (p := { p with client.wsPortalId := portalId })
        ⟨h.socket, h.facility, h.inactive⟩ hRuns
    · exact hKept hRuns

def selectedSockets : Sockets := { client := selected }

/-- The connection is lost and found invalid, so a socket is opened again. -/
def lostSocket : List Event :=
  [.wsPortalsReady [.object (portalDocument 1)] false, .disconnected false]

def lostSocketRun : Execution Sockets.step :=
  .ofRun Sockets.step selectedSockets lostSocket (by decide +kernel)

theorem portalDocument_hasFacility : HasFacility plainUrls (portalDocument 1) where
  facility := List.cons_ne_nil _ _
  address := by decide +kernel

theorem openings_proper_iff_lostSocket :
    (lostSocketRun.state 2).openings.length = 2 ∧
      ∀ n, AllProper plainUrls (lostSocketRun.state n) := by
  refine ⟨by decide +kernel, (openings_proper_iff plainUrls lostSocketRun ⟨"portal", rfl⟩).mpr ?_⟩
  rintro (_ | _ | n) e hEvent
  · obtain rfl := Option.some.inj hEvent
    intro _ _ _ _
    have hFound : State.findPortal [.object (portalDocument 1)] "portal" = portalDocument 1 := rfl
    exact hFound.symm ▸ portalDocument_hasFacility
  · obtain rfl := Option.some.inj hEvent
    intro _ _ _ _
    have hStored : (lostSocketRun.state 1).client.wsPortal = portalDocument 1 := rfl
    exact hStored.symm ▸ portalDocument_hasFacility
  · cases hEvent

/-- The portal is removed while the client is active, then the connection is lost. -/
def removedPortal : List Event :=
  [.wsPortalsReady [.object (portalDocument 1)] false, .wsPortalsReady [] true,
    .disconnected false]

def removedPortalRun : Execution Sockets.step :=
  .ofRun Sockets.step selectedSockets removedPortal (by decide +kernel)

def BringsValid : Event → Prop
  | .wsPortalsReady portals _ | .setWsPortals portals =>
    TypedJsonArray.every portals WsPortal.isValid = true
  | _ => True

theorem removedPortal_opens_oldSocket :
    ¬∀ x : Execution Sockets.step,
      (∃ portalId, x.state 0 = { client := { wsPortalId := portalId } }) →
      (∀ n e, x.event n = some e → BringsValid e) → ∀ n, AllProper plainUrls (x.state n) := by
  intro hAll
  have hValid (n : Nat) (e : Event) (hEvent : removedPortalRun.event n = some e) :
      BringsValid e := by
    have hMem : e ∈ removedPortal := List.mem_of_getElem? hEvent
    simp only [removedPortal, List.mem_cons, List.not_mem_nil, or_false] at hMem
    rcases hMem with rfl | rfl | rfl
    · have hEvery : TypedJsonArray.every [.object (portalDocument 1)] WsPortal.isValid = true := by
        decide +kernel
      exact hEvery
    · rfl
    · trivial
  have hProper := hAll removedPortalRun ⟨"portal", rfl⟩ hValid 3
  have hOld : (removedPortalRun.state 3).openings.all fun o =>
      WsPortal.getId o.portal = o.portalId := by
    rw [List.all_eq_true]
    exact fun o hOpening => decide_eq_true (hProper o hOpening).portal
  exact absurd hOld (by decide +kernel)

end SrcLink.WsPortalClient
