import Mathlib.Data.List.Perm.Basic
import SrcLink.Client.UplinkReports
import SrcLink.Outputs.OutputCounters
import SrcLink.Outputs.PipelineStructure

/-! # A guest with its outputs

One API client that any number of outputs call. An output that runs makes its calls
to the client in order; the client's own events never touch the counters.
-/

namespace SrcLink.Guest

open EgressLinkOutput StepSystem

set_option autoImplicit false

structure World where
  client : ApiClient.State
  outputs : List State := []

/-- Whether the event is one of the calls that only outputs make. -/
def counts : ApiClient.Event → Bool
  | .call (.countActiveOutputs _) => true
  | .call (.countStandByOutputs _) => true
  | _ => false

inductive Event where
  | create (output : State) (hInitial : Initial output)
  | output (index : Nat) (e : EgressLinkOutput.Event)
  | destroy (index : Nat)
  | client (e : ApiClient.Event) (hOther : counts e = false)

/-- What a call of an output does to the client. -/
def call (client : ApiClient.State) : Call → ApiClient.State
  | .incrementActiveOutputs => ApiClient.perform client (.countActiveOutputs 1)
  | .decrementActiveOutputs => ApiClient.perform client (.countActiveOutputs (-1))
  | .incrementStandByOutputs => ApiClient.perform client (.countStandByOutputs 1)
  | .decrementStandByOutputs => ApiClient.perform client (.countStandByOutputs (-1))
  | .syncUplinkStatus => ApiClient.perform client (.syncUplinkStatus false)
  | _ => client

/-- The calls, newest first. -/
def forward (client : ApiClient.State) (calls : List Call) : ApiClient.State :=
  calls.foldr (fun c client => call client c) client

/-- An output runs, with the calls it makes recorded afresh. -/
def drive (f : State → State) (output : State) : State := f { output with calls := [] }

def step (w : World) : Event → Option World
  | .create output _ => some { w with outputs := w.outputs ++ [output] }
  | .output index e =>
    (w.outputs[index]?).map fun output =>
      let driven := drive (apply · e) output
      { client := forward w.client driven.calls, outputs := w.outputs.set index driven }
  | .destroy index =>
    -- the destructor stops the output
    (w.outputs[index]?).map fun output =>
      { client := forward w.client (drive stop output).calls
        outputs := w.outputs.eraseIdx index }
  | .client e _ => (ApiClient.step w.client e).map fun client => { w with client := client }

def Started (w : World) : Prop := ApiClient.Constructed w.client ∧ w.outputs = []

structure CountersExact (w : World) : Prop where
  activeOutputs : w.client.activeOutputs = w.outputs.countP fun output =>
    output.status = .activating ∨ output.status = .active ∨ output.status = .reconnecting
  standByOutputs : w.client.standByOutputs = w.outputs.countP fun output =>
    output.status = .standBy
  activeOutputs_nonneg : 0 ≤ w.client.activeOutputs
  standByOutputs_nonneg : 0 ≤ w.client.standByOutputs

structure Inv (w : World) : Prop where
  active : w.client.activeOutputs = w.outputs.countP (·.status.activates)
  standBy : w.client.standByOutputs = w.outputs.countP (·.status.standsBy)

theorem call_counters (client : ApiClient.State) (c : Call) :
    (call client c).activeOutputs = c.activeChange + client.activeOutputs ∧
      (call client c).standByOutputs = c.standByChange + client.standByOutputs := by
  have hSync : ApiClient.Reported True True client (ApiClient.syncUplinkStatus client false) :=
    .syncUplinkStatus trivial client false
  cases c with
  | incrementActiveOutputs | decrementActiveOutputs | incrementStandByOutputs
  | decrementStandByOutputs =>
    simp [call, ApiClient.perform, Call.activeChange, Call.standByChange, add_comm]
  | syncUplinkStatus =>
    exact ⟨hSync.activeOutputs.trans (zero_add _).symm, hSync.standByOutputs.trans (zero_add _).symm⟩
  | _ => exact ⟨(zero_add _).symm, (zero_add _).symm⟩

theorem forward_counters (client : ApiClient.State) (calls : List Call) :
    (forward client calls).activeOutputs = activeTotal calls + client.activeOutputs ∧
      (forward client calls).standByOutputs = standByTotal calls + client.standByOutputs := by
  induction calls with
  | nil => exact ⟨(zero_add _).symm, (zero_add _).symm⟩
  | cons c calls ih =>
    obtain ⟨hActive, hStandBy⟩ := call_counters (forward client calls) c
    constructor
    · refine hActive.trans ?_
      rw [ih.1, ← add_assoc]
      rfl
    · refine hStandBy.trans ?_
      rw [ih.2, ← add_assoc]
      rfl

section Lists

variable {p : State → Bool} {outputs : List State} {index : Nat} {output : State}

theorem countP_eraseIdx (hOutput : outputs[index]? = some output) :
    ((outputs.eraseIdx index).countP p : Int) + (p output).toInt = outputs.countP p := by
  obtain ⟨hIndex, rfl⟩ := List.getElem?_eq_some_iff.mp hOutput
  have hPerm := (List.getElem_cons_eraseIdx_perm hIndex).countP_eq p
  rw [List.countP_cons] at hPerm
  rw [← hPerm]
  cases p outputs[index] <;> simp

theorem countP_set (hOutput : outputs[index]? = some output) (driven : State) :
    ((outputs.set index driven).countP p : Int) + (p output).toInt =
      outputs.countP p + (p driven).toInt := by
  have hDriven : (outputs.set index driven)[index]? = some driven :=
    List.getElem?_set_self (List.getElem?_eq_some_iff.mp hOutput).1
  have hRest : (outputs.set index driven).eraseIdx index = outputs.eraseIdx index :=
    List.eraseIdx_set_eq
  have hOld := countP_eraseIdx (p := p) hOutput
  have hNew := countP_eraseIdx (p := p) hDriven
  rw [hRest] at hNew
  omega

end Lists

theorem counted_drive {f : State → State}
    (hCounted : ∀ before s, Counted before s → Counted before (f s)) (output : State) :
    Counted output.status (drive f output) :=
  hCounted _ _ ⟨add_zero _, add_zero _⟩

theorem Inv.forward {w : World} (h : Inv w) {before : EgressLinkOutputStatus} {s : State}
    (hCounted : Counted before s) {outputs : List State}
    (hOutputs : ∀ p : EgressLinkOutputStatus → Bool, p .inactive = false →
      (outputs.countP (p ·.status) : Int) + (p before).toInt =
        w.outputs.countP (p ·.status) + (p s.status).toInt) :
    Inv { client := forward w.client s.calls, outputs := outputs } := by
  obtain ⟨hActive, hStandBy⟩ := forward_counters w.client s.calls
  constructor
  · have hChange := hOutputs EgressLinkOutputStatus.activates rfl
    have hShare := hCounted.active
    simp only [hActive, h.active]
    omega
  · have hChange := hOutputs EgressLinkOutputStatus.standsBy rfl
    have hShare := hCounted.standBy
    simp only [hStandBy, h.standBy]
    omega

theorem step_inv {w w' : World} {e : Event} (h : Inv w) (hStep : step w e = some w') : Inv w' := by
  cases e with
  | create output hInitial =>
    obtain rfl := Option.some.inj hStep
    constructor
    · simp [h.active, hInitial.status, EgressLinkOutputStatus.activates]
    · simp [h.standBy, hInitial.status, EgressLinkOutputStatus.standsBy]
  | output index e =>
    obtain ⟨output, hOutput, rfl⟩ := Option.map_eq_some_iff.mp hStep
    have hCounted := counted_drive (fun _ _ h => h.apply e) output
    exact h.forward hCounted fun p _ => countP_set (p := (p ·.status)) hOutput _
  | destroy index =>
    obtain ⟨output, hOutput, rfl⟩ := Option.map_eq_some_iff.mp hStep
    have hCounted := counted_drive (fun _ _ h => h.stop) output
    -- the stop takes back what the output has counted before it goes
    have hStopped : (drive stop output).status = .inactive := by
      rw [drive, stop, destroyPipeline_eq]
      rfl
    refine h.forward hCounted fun p hInactive => ?_
    rw [hStopped, hInactive, Bool.toInt_false, add_zero]
    exact countP_eraseIdx (p := (p ·.status)) hOutput
  | client e hOther =>
    obtain ⟨client, hClient, rfl⟩ := Option.map_eq_some_iff.mp hStep
    have hReported := ApiClient.step_reported hClient
    -- everything else at the client leaves the counters alone
    have hSame : (ApiClient.handling w.client e).activeOutputs = w.client.activeOutputs ∧
        (ApiClient.handling w.client e).standByOutputs = w.client.standByOutputs := by
      cases e with
      | call c => cases c <;> first | exact ⟨rfl, rfl⟩ | cases hOther
      | _ => exact ⟨rfl, rfl⟩
    exact ⟨hReported.activeOutputs.trans (hSame.1.trans h.active),
      hReported.standByOutputs.trans (hSame.2.trans h.standBy)⟩

theorem started_inv {w : World} (hStarted : Started w) : Inv w := by
  obtain ⟨client, outputs⟩ := w
  obtain ⟨⟨uuid, settings, linked, refreshToken, expired, rfl⟩, rfl⟩ := hStarted
  cases expired <;> cases refreshToken <;> exact ⟨rfl, rfl⟩

theorem Inv.countersExact {w : World} (h : Inv w) : CountersExact w where
  activeOutputs := by simp [h.active, EgressLinkOutputStatus.activates, Bool.or_assoc]
  standByOutputs := by simp [h.standBy, EgressLinkOutputStatus.standsBy]
  activeOutputs_nonneg := h.active ▸ Int.natCast_nonneg _
  standByOutputs_nonneg := h.standBy ▸ Int.natCast_nonneg _

theorem countersExact_of_reachable {w : World} (h : Reachable step anyStep Started w) :
    CountersExact w := by
  have hInv : Inv w := h.invariant (fun _ => started_inv) fun _ _ _ h _ => step_inv h
  exact hInv.countersExact

/-- Of two outputs one becomes active and the other is destroyed. -/
theorem countersExact_of_reachable_active :
    ∃ w : World, w.client.activeOutputs = 1 ∧ CountersExact w := by
  let events : List Event :=
    [.create mainOutput initial_mainOutput, .create mainOutput initial_mainOutput,
      .output 0 (.monitoringTimerTimeout (healthyObs 10000)), .destroy 1,
      .output 0 (.monitoringTimerTimeout (healthyObs 12000))]
  have hStarted : Started { client := ApiClient.freshClient } :=
    ⟨ApiClient.freshClient_constructed, rfl⟩
  have hEnd : (run step { client := ApiClient.freshClient } events).map
      (·.client.activeOutputs) = some 1 := by decide +kernel
  obtain ⟨w, hRun, hActive⟩ := Option.map_eq_some_iff.mp hEnd
  exact ⟨w, hActive, countersExact_of_reachable (reachable_of_run events (.start hStarted) hRun)⟩

end SrcLink.Guest
