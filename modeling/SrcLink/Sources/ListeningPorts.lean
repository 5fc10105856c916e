import SrcLink.Library.Ownership
import SrcLink.Library.StepSystem
import SrcLink.Sources.IngressLinkSource

/-! # Listening ports

A source that does not use a relay holds the port in its request. Every capture of
the settings gives the port back and takes a free one of the current range, the
destructor gives it back: `usedPorts` is an exact account of the held ports.
-/

namespace SrcLink.IngressLinkSource

open Json Schema StepSystem Ownership

set_option autoImplicit false

theorem getPort_setPort (req : QJsonObject) {port : Int} (h : IsInt32 port) :
    DownlinkRequestBody.getPort (DownlinkRequestBody.setPort req port) = port := by
  rw [DownlinkRequestBody.getPort, DownlinkRequestBody.setPort, QJsonObject.value_insert_self,
    toInt_double h]

/-- The captured request still has the port of the last one. -/
theorem getPort_captured (c : Capture) (req : QJsonObject) (revision : Int) :
    DownlinkRequestBody.getPort (DownlinkRequestBody.setRevision (newRequest c req) revision) =
      DownlinkRequestBody.getPort req := by
  simp [DownlinkRequestBody.getPort, newRequest, DownlinkRequestBody.setRevision,
    DownlinkRequestBody.setParameters, DownlinkRequestBody.setStreamId,
    DownlinkRequestBody.setRelay, DownlinkRequestBody.setHeight, DownlinkRequestBody.setWidth,
    DownlinkRequestBody.setMinBitrate, DownlinkRequestBody.setMaxBitrate,
    DownlinkRequestBody.setSourceName, DownlinkRequestBody.setSeatName,
    DownlinkRequestBody.setStageId, DownlinkRequestBody.setLanServer,
    DownlinkRequestBody.setProtocol, QJsonObject.value_insert_of_ne]

/-- The port that the owner of a request holds. -/
def heldPort (req : QJsonObject) : Option Int :=
  if DownlinkRequestBody.getPort req = 0 then none else some (DownlinkRequestBody.getPort req)

theorem heldPort_captured (c : Capture) (req : QJsonObject) (revision : Int) :
    heldPort (DownlinkRequestBody.setRevision (newRequest c req) revision) = heldPort req := by
  rw [heldPort, getPort_captured, heldPort]

theorem heldPort_setPort_zero (req : QJsonObject) :
    heldPort (DownlinkRequestBody.setPort req 0) = none :=
  if_pos (getPort_setPort req ⟨by decide, by decide⟩)

namespace Ports

variable {p : Ports}

theorem mem_range_iff {i : Int} : i ∈ p.range ↔ p.portMin ≤ i ∧ i ≤ p.portMax := by
  simp only [range, List.mem_map, List.mem_range]
  constructor
  · rintro ⟨n, hn, rfl⟩
    omega
  · rintro ⟨hMin, hMax⟩
    exact ⟨(i - p.portMin).toNat, by omega, by omega⟩

theorem getFreePort_cases (p : Ports) :
    (∃ i ∈ p.range, p.used i = false ∧
      p.getFreePort = (i, { p with used := Function.update p.used i true })) ∨
    (∀ i ∈ p.range, p.used i = true) ∧ p.getFreePort = (0, p) := by
  unfold getFreePort
  cases hFind : p.range.find? fun i => !p.used i with
  | some i =>
    refine .inl ⟨i, List.mem_of_find?_eq_some hFind, ?_, rfl⟩
    simpa using List.find?_some hFind
  | none =>
    refine .inr ⟨fun i hi => ?_, rfl⟩
    simpa using List.find?_eq_none.mp hFind i hi

end Ports

/-- A range of ports on which the loop of `getFreePort` ends; zero stands for no port. -/
structure PortRange where
  min : Int
  max : Int
  min_pos : 1 ≤ min
  /-- when all ports are taken the loop steps past the last one, where `int` must not overflow -/
  max_lt : max < 2 ^ 31 - 1

def PortRange.ports (range : PortRange) (used : Int → Bool) : Ports :=
  { portMin := range.min, portMax := range.max, used := used }

section Allocation

variable {used : Int → Bool} {rest : List Int} {req : QJsonObject}

theorem port_of_mem_range {range : PortRange} {i : Int} (hMem : i ∈ (range.ports used).range) :
    IsInt32 i ∧ i ≠ 0 := by
  obtain ⟨hMin, hMax⟩ := Ports.mem_range_iff.mp hMem
  have hPos := range.min_pos
  have hLt := range.max_lt
  simp only [PortRange.ports] at hMin hMax
  refine ⟨⟨?_, ?_⟩, ?_⟩ <;> omega

variable (range : PortRange)

theorem exact_giveBackPort (h : Exact ((heldPort req).toList ++ rest) used) :
    ∃ req' used', giveBackPort (range.ports used) req = (req', range.ports used') ∧
      DownlinkRequestBody.getPort req' = 0 ∧ Exact rest used' := by
  simp only [giveBackPort]
  unfold heldPort at h
  split at h
  · next hNone =>
    rw [if_neg (not_not.mpr hNone)]
    exact ⟨req, used, rfl, hNone, h⟩
  · next hHeld =>
    rw [if_pos hHeld]
    exact ⟨_, _, rfl, getPort_setPort req ⟨by decide, by decide⟩, h.release⟩

theorem exact_takePort (h : Exact rest used) (hNone : DownlinkRequestBody.getPort req = 0) :
    ∃ req' used', takePort (range.ports used) req = (req', range.ports used') ∧
      Exact ((heldPort req').toList ++ rest) used' := by
  simp only [takePort]
  split
  · obtain ⟨i, hMem, hFree, hTaken⟩ | ⟨-, hTaken⟩ := (range.ports used).getFreePort_cases
    · obtain ⟨hInt, hNonzero⟩ := port_of_mem_range hMem
      rw [hTaken]
      refine ⟨_, _, rfl, ?_⟩
      rw [heldPort, getPort_setPort req hInt, if_neg hNonzero]
      exact h.acquire hFree
    · rw [hTaken]
      refine ⟨_, _, rfl, ?_⟩
      rw [heldPort_setPort_zero]
      exact h
  · refine ⟨req, used, rfl, ?_⟩
    rw [heldPort, if_pos hNone]
    exact h

theorem exact_captureSettings {s : Source}
    (h : Exact ((heldPort s.connRequest).toList ++ rest) used) (c : Capture) :
    ∃ s' used', s.captureSettings (range.ports used) c = (s', range.ports used') ∧
      Exact ((heldPort s'.connRequest).toList ++ rest) used' := by
  rw [← heldPort_captured c s.connRequest (nextRevision c s.connRequest s.revision)] at h
  obtain ⟨req, freed, hGiven, hNone, hFreed⟩ := exact_giveBackPort range h
  obtain ⟨req', taken, hTaken, hExact⟩ := exact_takePort range hFreed hNone
  simp only [Source.captureSettings, reallocatePort, hGiven, hTaken]
  exact ⟨_, _, rfl, hExact⟩

theorem heldPort_unregistered (uuid : String) (c : Capture) :
    heldPort (Source.unregistered uuid c).connRequest = none := by
  refine if_pos ?_
  rw [Source.unregistered, DownlinkRequestBody.getPort, DownlinkRequestBody.setRelayApps,
    QJsonObject.value_insert_of_ne _ _ (by decide)]
  exact getPort_setPort [] ⟨by decide, by decide⟩

theorem exact_construct (h : Exact rest used) (uuid : String) (c : Capture) :
    ∃ s used', Source.construct uuid (range.ports used) c = (s, range.ports used') ∧
      Exact ((heldPort s.connRequest).toList ++ rest) used' := by
  have hNone : Exact ((heldPort (Source.unregistered uuid c).connRequest).toList ++ rest) used := by
    rw [heldPort_unregistered]
    exact h
  obtain ⟨s, used', hCaptured, hExact⟩ := exact_captureSettings range hNone c
  simp only [Source.construct, hCaptured]
  exact ⟨_, _, rfl, hExact⟩

end Allocation

structure Listeners where
  range : PortRange
  used : Int → Bool := fun _ => false
  sources : List Source := []

def SourceEvent.capturesSettings : SourceEvent → Bool
  | .settingsUpdate _ _ => true
  | _ => false

namespace Listeners

def ports (w : Listeners) : Ports := w.range.ports w.used

inductive Event where
  | create (uuid : String) (c : Capture)
  | update (index : Nat) (c : Capture)
  | signal (index : Nat) (e : SourceEvent) (hOther : e.capturesSettings = false)
  | setRange (range : PortRange)
  | destroy (index : Nat)

/-- The part of the destructor that gives the port back. -/
def destroyed (ports : Ports) (s : Source) : Ports :=
  let port := DownlinkRequestBody.getPort s.connRequest
  if port ≠ 0 then ports.releasePort port else ports

def step (w : Listeners) : Event → Option Listeners
  | .create uuid c =>
    let created := Source.construct uuid w.ports c
    some { w with used := created.2.used, sources := w.sources ++ [created.1] }
  | .update index c =>
    (w.sources[index]?).map fun s =>
      let updated := s.onSettingsUpdate w.ports c
      { w with used := updated.2.used, sources := w.sources.set index updated.1 }
  | .signal index e _ =>
    (w.sources[index]?).map fun s => { w with sources := w.sources.set index (s.apply e) }
  | .setRange range => some { w with range := range }
  | .destroy index =>
    (w.sources[index]?).map fun s =>
      { w with used := (destroyed w.ports s).used, sources := w.sources.eraseIdx index }

def Initial (w : Listeners) : Prop := ∃ range, w = { range := range }

def owns (s : Source) : Option Int := heldPort s.connRequest

/-- `usedPorts` is an exact account of the ports of the live sources. -/
def Inv (w : Listeners) : Prop := Exact (w.sources.filterMap owns) w.used

/-- A slot that captures no settings leaves the request alone. -/
theorem owns_of_applied {s t : Source} {e : SourceEvent} (h : Applied s e t)
    (hOther : e.capturesSettings = false) : owns t = owns s := by
  cases h with
  | captured => cases hOther
  | _ => rfl

theorem destroyed_eq (ports : Ports) (s : Source) :
    destroyed ports s = (giveBackPort ports s.connRequest).2 := by
  simp only [destroyed, giveBackPort]
  split <;> rfl

variable {w w' : Listeners}

theorem step_inv {e : Event} (h : Inv w) (hStep : w.step e = some w') : Inv w' := by
  cases e with
  | create uuid c =>
    obtain ⟨s, used, hConstructed, hExact⟩ := exact_construct w.range h uuid c
    simp only [step, ports, hConstructed] at hStep
    obtain rfl := Option.some.inj hStep
    refine hExact.perm (List.perm_append_comm.trans (.of_eq ?_))
    rw [List.filterMap_append]
    cases hOwns : heldPort s.connRequest <;> simp [owns, hOwns]
  | update index c =>
    obtain ⟨s, hSource, rfl⟩ := Option.map_eq_some_iff.mp hStep
    obtain ⟨s', used, hCaptured, hExact⟩ :=
      exact_captureSettings w.range (h.perm (perm_eraseIdx owns hSource)) c
    simp only [Source.onSettingsUpdate, ports, hCaptured]
    exact hExact.perm (perm_set owns hSource s'.putConnection).symm
  | signal index e hOther =>
    obtain ⟨s, hSource, rfl⟩ := Option.map_eq_some_iff.mp hStep
    refine Exact.perm ?_ (perm_set owns hSource _).symm
    -- the other slots leave the request, hence the port, alone
    rw [owns_of_applied (applied s e) hOther]
    exact h.perm (perm_eraseIdx owns hSource)
  | setRange range =>
    obtain rfl := Option.some.inj hStep
    exact h
  | destroy index =>
    obtain ⟨s, hSource, rfl⟩ := Option.map_eq_some_iff.mp hStep
    obtain ⟨req, used, hGiven, -, hExact⟩ :=
      exact_giveBackPort w.range (h.perm (perm_eraseIdx owns hSource))
    rw [Inv, destroyed_eq, ports, hGiven]
    exact hExact

theorem inv_of_reachable (h : Reachable step anyStep Initial w) : Inv w := by
  refine h.invariant (fun w hInitial => ?_) fun _ _ _ h _ => step_inv h
  obtain ⟨range, rfl⟩ := hInitial
  exact .nil

end Listeners

def Source.port (s : Source) : Int := DownlinkRequestBody.getPort s.connRequest

/-- An answer of `getFreePort` while these sources hold their ports. -/
structure FreePort (range : PortRange) (sources : List Source) (answer : Int) : Prop where
  exhausted : answer = 0 →
    ∀ p, range.min ≤ p → p ≤ range.max → ∃ s ∈ sources, s.port = p
  free : answer ≠ 0 →
    range.min ≤ answer ∧ answer ≤ range.max ∧ ∀ s ∈ sources, s.port ≠ answer

structure PortsExact (w : Listeners) : Prop where
  exclusive : w.sources.Pairwise fun s s' => s.port ≠ 0 → s.port ≠ s'.port
  used : ∀ p, w.used p = true ↔ p ≠ 0 ∧ ∃ s ∈ w.sources, s.port = p
  answer : FreePort w.range w.sources w.ports.getFreePort.1
  /-- asked by a source that has given its own port back -/
  reallocation : ∀ index s, w.sources[index]? = some s →
    FreePort w.range (w.sources.eraseIdx index)
      (giveBackPort w.ports s.connRequest).2.getFreePort.1

section Exactness

variable {range : PortRange} {used : Int → Bool} {sources : List Source}

theorem mem_filterMap_owns {p : Int} :
    p ∈ sources.filterMap Listeners.owns ↔ p ≠ 0 ∧ ∃ s ∈ sources, s.port = p := by
  simp only [List.mem_filterMap, Listeners.owns, heldPort, Source.port]
  constructor
  · rintro ⟨s, hs, hHeld⟩
    split at hHeld
    · cases hHeld
    · next hNonzero =>
      obtain rfl := Option.some.inj hHeld
      exact ⟨hNonzero, s, hs, rfl⟩
  · rintro ⟨hNonzero, s, hs, rfl⟩
    exact ⟨s, hs, if_neg hNonzero⟩

theorem exclusive_of_exact (h : Exact (sources.filterMap Listeners.owns) used) :
    sources.Pairwise fun s s' => s.port ≠ 0 → s.port ≠ s'.port := by
  refine (List.pairwise_filterMap.mp h.nodup).imp fun {s s'} hDistinct hNonzero hSame => ?_
  have hHeld : heldPort s.connRequest = some s.port := if_neg hNonzero
  have hHeld' : heldPort s'.connRequest = some s'.port :=
    if_neg fun hZero => hNonzero (hSame.trans hZero)
  exact hDistinct _ hHeld _ hHeld' hSame

theorem freePort_of_exact (h : Exact (sources.filterMap Listeners.owns) used) :
    FreePort range sources (range.ports used).getFreePort.1 := by
  obtain ⟨i, hMem, hFree, hTaken⟩ | ⟨hFull, hTaken⟩ := (range.ports used).getFreePort_cases
  · rw [hTaken]
    have hNonzero := (port_of_mem_range hMem).2
    obtain ⟨hMin, hMax⟩ := Ports.mem_range_iff.mp hMem
    refine ⟨fun hZero => (hNonzero hZero).elim, fun _ => ⟨hMin, hMax, fun s hs hSame => ?_⟩⟩
    have hUsed := (h.taken_iff i).mpr (mem_filterMap_owns.mpr ⟨hNonzero, s, hs, hSame⟩)
    exact absurd (hUsed.symm.trans hFree) (by decide)
  · rw [hTaken]
    refine ⟨fun _ p hMin hMax => ?_, fun hNonzero => (hNonzero rfl).elim⟩
    have hUsed := hFull p (Ports.mem_range_iff.mpr ⟨hMin, hMax⟩)
    exact (mem_filterMap_owns.mp ((h.taken_iff p).mp hUsed)).2

end Exactness

theorem portsExact_of_reachable {w : Listeners}
    (h : Reachable Listeners.step anyStep Listeners.Initial w) : PortsExact w := by
  have hInv := Listeners.inv_of_reachable h
  refine ⟨exclusive_of_exact hInv, fun p => (hInv.taken_iff p).trans mem_filterMap_owns,
    freePort_of_exact hInv, fun index s hSource => ?_⟩
  obtain ⟨req, freed, hGiven, -, hFreed⟩ :=
    exact_giveBackPort w.range (hInv.perm (perm_eraseIdx Listeners.owns hSource))
  rw [Listeners.ports, hGiven]
  exact freePort_of_exact hFreed

/-- Of two ports one is given back for a relay and taken by a third source. -/
theorem portsExact_of_reachable_shared :
    ∃ w : Listeners, w.sources.map Source.port = [0, 10001, 10000] ∧ PortsExact w := by
  let range : PortRange := ⟨10000, 10001, by decide, by decide⟩
  let events : List Listeners.Event :=
    [.create "first" (selectedCapture "a" false), .create "second" (selectedCapture "b" false),
      .update 0 (selectedCapture "c" true), .create "third" (selectedCapture "d" false)]
  have hEnd : (run Listeners.step { range := range } events).map
      (fun w => w.sources.map Source.port) = some [0, 10001, 10000] := by decide +kernel
  obtain ⟨w, hRun, hPorts⟩ := Option.map_eq_some_iff.mp hEnd
  have hInitial : Listeners.Initial { range := range } := ⟨range, rfl⟩
  exact ⟨w, hPorts, portsExact_of_reachable (reachable_of_run events (.start hInitial) hRun)⟩

end SrcLink.IngressLinkSource
