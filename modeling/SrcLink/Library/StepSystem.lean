import Mathlib.Data.List.Basic
import Mathlib.Order.Monotone.Basic

/-! # Runs of a partial step function

A component is a step function `σ → ε → Option σ`: the label says which event
happens (and how the environment answers), `none` that it cannot happen here.
The rules below turn what one step preserves into what a run preserves, and
one helpful event that keeps recurring into eventual progress.
-/

namespace SrcLink.StepSystem

set_option autoImplicit false

universe u v w

variable {σ : Type u} {ε : Type v} {τ : Type w}

/-- The guard of a run without any restriction. -/
def anyStep : σ → ε → Prop := fun _ _ => True

/-- States reached from an initial one by steps that all meet `guard`. -/
inductive Reachable (step : σ → ε → Option σ) (guard : σ → ε → Prop) (initial : σ → Prop) :
    σ → Prop
  | start {s : σ} (hInitial : initial s) : Reachable step guard initial s
  | next {s s' : σ} {e : ε} (hReachable : Reachable step guard initial s) (hGuard : guard s e)
      (hStep : step s e = some s') : Reachable step guard initial s'

section Invariants

variable {step : σ → ε → Option σ} {guard guard' : σ → ε → Prop} {initial : σ → Prop}

theorem Reachable.invariant {inv : σ → Prop} (hInitial : ∀ s, initial s → inv s)
    (hNext : ∀ s e s', inv s → guard s e → step s e = some s' → inv s')
    {s : σ} (h : Reachable step guard initial s) : inv s := by
  induction h with
  | start hStart => exact hInitial _ hStart
  | next _ hGuard hStep ih => exact hNext _ _ _ ih hGuard hStep

theorem Reachable.trans {s s' : σ} (h : Reachable step guard initial s)
    (h' : Reachable step guard (· = s) s') : Reachable step guard initial s' := by
  induction h' with
  | start hStart => exact hStart ▸ h
  | next _ hGuarded hStep ih => exact .next ih hGuarded hStep

end Invariants

/-- The state after the events of a list, `none` when one of them cannot happen. -/
def run (step : σ → ε → Option σ) : σ → List ε → Option σ
  | s, [] => some s
  | s, e :: es => (step s e).bind fun s' => run step s' es

@[simp] theorem run_nil (step : σ → ε → Option σ) (s : σ) : run step s [] = some s := rfl

@[simp] theorem run_cons (step : σ → ε → Option σ) (s : σ) (e : ε) (es : List ε) :
    run step s (e :: es) = (step s e).bind fun s' => run step s' es := rfl

theorem reachable_of_run {step : σ → ε → Option σ} {initial : σ → Prop} {s s' : σ} (es : List ε)
    (h : Reachable step anyStep initial s) (hRun : run step s es = some s') :
    Reachable step anyStep initial s' := by
  induction es generalizing s with
  | nil => exact Option.some.inj hRun ▸ h
  | cons e es ih =>
    obtain ⟨t, hStep, hRest⟩ := Option.bind_eq_some_iff.mp hRun
    exact ih (.next h trivial hStep) hRest

/-- Every event of the run meets the guard in the state it comes in. -/
def MeetsGuard (step : τ → ε → Option τ) (guard : τ → ε → Prop) : τ → List ε → Prop
  | _, [] => True
  | t, e :: es => guard t e ∧ ∀ t', step t e = some t' → MeetsGuard step guard t' es

theorem meetsGuard_of_forall {step : τ → ε → Option τ} {guard : τ → ε → Prop} {es : List ε}
    (h : ∀ e ∈ es, ∀ t, guard t e) (t : τ) : MeetsGuard step guard t es := by
  induction es generalizing t with
  | nil => trivial
  | cons e es ih =>
    obtain ⟨hFirst, hRest⟩ := List.forall_mem_cons.mp h
    exact ⟨hFirst t, fun t' _ => ih hRest t'⟩

/-- Forward simulation: related states answer every event of the list alike. -/
theorem run_simulates {step : σ → ε → Option σ} {step' : τ → ε → Option τ}
    {guard : τ → ε → Prop} (rel : σ → τ → Prop)
    (hStep : ∀ s t e t', rel s t → guard t e → step' t e = some t' →
      ∃ s', step s e = some s' ∧ rel s' t')
    (es : List ε) {s : σ} {t t' : τ} (hMeets : MeetsGuard step' guard t es) (hRel : rel s t)
    (hRun : run step' t es = some t') : ∃ s', run step s es = some s' ∧ rel s' t' := by
  induction es generalizing s t with
  | nil => exact ⟨s, rfl, Option.some.inj hRun ▸ hRel⟩
  | cons e es ih =>
    obtain ⟨u, hFirst, hRest⟩ := Option.bind_eq_some_iff.mp hRun
    obtain ⟨v, hFirst', hRel'⟩ := hStep s t e u hRel hMeets.1 hFirst
    obtain ⟨s', hRest', hFinal⟩ := ih (hMeets.2 u hFirst) hRel' hRest
    exact ⟨s', by rw [run_cons, hFirst']; exact hRest', hFinal⟩

theorem run_total (f : τ → ε → τ) (t : τ) (es : List ε) :
    run (fun t e => some (f t e)) t es = some (es.foldl f t) := by
  induction es generalizing t with
  | nil => rfl
  | cons e es ih => exact ih (f t e)

/-- An infinite run; `none` is an instant at which nothing happens. -/
structure Execution (step : σ → ε → Option σ) where
  state : Nat → σ
  event : Nat → Option ε
  next : ∀ n, match event n with
    | none => state (n + 1) = state n
    | some e => step (state n) e = some (state (n + 1))

namespace Execution

variable {step : σ → ε → Option σ}

theorem next_of_event (x : Execution step) {n : Nat} {e : ε} (h : x.event n = some e) :
    step (x.state n) e = some (x.state (n + 1)) := by
  have hNext := x.next n
  rw [h] at hNext
  exact hNext

theorem next_of_none (x : Execution step) {n : Nat} (h : x.event n = none) :
    x.state (n + 1) = x.state n := by
  have hNext := x.next n
  rw [h] at hNext
  exact hNext

/-- Induction over the instants; only the events need a look. -/
theorem holds_of_events (x : Execution step) {P : σ → Prop} (hStart : P (x.state 0))
    (hEvents : ∀ n e, x.event n = some e → P (x.state n) → P (x.state (n + 1))) (n : Nat) :
    P (x.state n) := by
  induction n with
  | zero => exact hStart
  | succ n ih =>
    cases hEvent : x.event n with
    | none => exact x.next_of_none hEvent ▸ ih
    | some e => exact hEvents n e hEvent ih

theorem invariant (x : Execution step) {inv : σ → Prop} {guard : σ → ε → Prop}
    (hGuard : ∀ n e, x.event n = some e → guard (x.state n) e) (hStart : inv (x.state 0))
    (hNext : ∀ s e s', inv s → guard s e → step s e = some s' → inv s') (n : Nat) :
    inv (x.state n) := by
  apply x.holds_of_events hStart
  intro n e hEvent ih
  exact hNext _ _ _ ih (hGuard n e hEvent) (x.next_of_event hEvent)

/-- What every step keeps holds all the time. -/
theorem always (x : Execution step) (inv : σ → Prop) (hStart : inv (x.state 0))
    (hNext : ∀ s e s', inv s → step s e = some s' → inv s') (n : Nat) : inv (x.state n) := by
  apply x.holds_of_events hStart
  intro n e hEvent ih
  exact hNext _ _ _ ih (x.next_of_event hEvent)

/-- If a step keeps `P` exactly when it meets the guard, then `P` holds all the time exactly when
all steps meet the guard. -/
theorem always_iff (x : Execution step) {P : σ → Prop} {guard : σ → ε → Prop}
    (hStart : P (x.state 0))
    (hStep : ∀ n e, x.event n = some e → P (x.state n) →
      (P (x.state (n + 1)) ↔ guard (x.state n) e)) :
    (∀ n, P (x.state n)) ↔ ∀ n e, x.event n = some e → guard (x.state n) e := by
  constructor
  · intro hAlways n e hEvent
    exact (hStep n e hEvent (hAlways n)).mp (hAlways (n + 1))
  · intro hGuards
    apply x.holds_of_events hStart
    intro n e hEvent ih
    exact (hStep n e hEvent ih).mpr (hGuards n e hEvent)

/-- If every step keeps `P` until `Q`, and an event that turns `P` into `Q`
eventually happens, then `Q` holds eventually. -/
theorem eventually (x : Execution step) (P Q : σ → Prop) (helpful : ε → Prop)
    {guard : σ → ε → Prop} (hGuard : ∀ n e, x.event n = some e → guard (x.state n) e)
    (hKeep : ∀ s e s', P s → guard s e → step s e = some s' → P s' ∨ Q s')
    (hHelp : ∀ s e s', P s → guard s e → helpful e → step s e = some s' → Q s')
    {n : Nat} (hFair : ∃ m, n ≤ m ∧ ∃ e, x.event m = some e ∧ helpful e) (hP : P (x.state n)) :
    ∃ m, n ≤ m ∧ Q (x.state m) := by
  obtain ⟨m, hnm, e, hEvent, hHelpful⟩ := hFair
  have hUntil : ∀ k, n ≤ k → P (x.state k) ∨ ∃ j, n ≤ j ∧ Q (x.state j) := by
    intro k hk
    induction hk with
    | refl => exact .inl hP
    | @step k hk ih =>
      rcases ih with hPk | hDone
      · cases hEv : x.event k with
        | none => exact .inl (x.next_of_none hEv ▸ hPk)
        | some e' =>
          rcases hKeep _ _ _ hPk (hGuard k e' hEv) (x.next_of_event hEv) with hP' | hQ'
          · exact .inl hP'
          · exact .inr ⟨k + 1, Nat.le_succ_of_le hk, hQ'⟩
      · exact .inr hDone
  rcases hUntil m hnm with hPm | hDone
  · exact ⟨m + 1, by omega, hHelp _ _ _ hPm (hGuard m e hEvent) hHelpful (x.next_of_event hEvent)⟩
  · exact hDone

/-- Progress rule: while `P` holds and `measure` is below `bound`, it eventually grows. -/
theorem eventually_ge (x : Execution step) (P : σ → Prop) (measure : σ → Nat) {bound : Nat}
    (hGrows : ∀ n, P (x.state n) → measure (x.state n) < bound →
      ∃ m, n ≤ m ∧ P (x.state m) ∧ measure (x.state n) < measure (x.state m))
    {n : Nat} (hP : P (x.state n)) : ∃ m, n ≤ m ∧ bound ≤ measure (x.state m) := by
  by_cases hDone : bound ≤ measure (x.state n)
  · exact ⟨n, le_rfl, hDone⟩
  · obtain ⟨m, hnm, hP', hLess⟩ := hGrows n hP (by omega)
    obtain ⟨k, hmk, hBound⟩ := x.eventually_ge P measure hGrows hP'
    exact ⟨k, hnm.trans hmk, hBound⟩
termination_by bound - measure (x.state n)

theorem monotone (x : Execution step) {α : Type*} [Preorder α] {f : σ → α}
    (hStep : ∀ s e s', step s e = some s' → f s ≤ f s') : Monotone fun n => f (x.state n) := by
  refine monotone_nat_of_le_succ fun n => ?_
  cases hEvent : x.event n with
  | none => rw [x.next_of_none hEvent]
  | some e => exact hStep _ _ _ (x.next_of_event hEvent)

end Execution

/-- The state after the first `n` events of a list that can all happen. -/
def stateAfter (step : σ → ε → Option σ) (s : σ) (es : List ε) (n : Nat) : σ :=
  (run step s (es.take n)).getD s

theorem run_append (step : σ → ε → Option σ) (s : σ) (es es' : List ε) :
    run step s (es ++ es') = (run step s es).bind fun s' => run step s' es' := by
  induction es generalizing s with
  | nil => rfl
  | cons e es ih => simp only [List.cons_append, run_cons, ih, Option.bind_assoc]

/-- A finite run, after which nothing happens. -/
def Execution.ofRun (step : σ → ε → Option σ) (s : σ) (es : List ε)
    (h : (run step s es).isSome) : Execution step where
  state := stateAfter step s es
  event n := es[n]?
  next n := by
    obtain ⟨final, hFinal⟩ := Option.isSome_iff_exists.mp h
    cases hEvent : es[n]? with
    | none =>
      have hLength := List.getElem?_eq_none_iff.mp hEvent
      simp [stateAfter, List.take_of_length_le hLength, List.take_of_length_le hLength.step]
    | some e =>
      rw [← List.take_append_drop (n + 1) es, List.take_add_one, hEvent, List.append_assoc,
        run_append] at hFinal
      obtain ⟨t, hBefore, hAfter⟩ := Option.bind_eq_some_iff.mp hFinal
      obtain ⟨t', hStep, _⟩ := Option.bind_eq_some_iff.mp hAfter
      simp [stateAfter, List.take_add_one, hEvent, run_append, hBefore, hStep]

end SrcLink.StepSystem
