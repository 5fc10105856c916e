import Mathlib.Data.List.Count
import Mathlib.Order.Basic

/-! # The life of created objects

Objects are numbered as they are created. A log, newest entry first, of operations that
use or release them is in order if nothing uses an object after its release; it stays so
as long as operations are made on held objects only.
-/

namespace SrcLink.ObjectLog

set_option autoImplicit false

variable {Op : Type*} {uses releases : Op → Option Nat}

/-- No operation comes after the release of its object. -/
def Disciplined (uses releases : Op → Option Nat) (log : List Op) : Prop :=
  log.Pairwise fun newer older => ∀ x, releases older = some x → uses newer ≠ some x

structure Kept (uses releases : Op → Option Nat) (log : List Op) (held : Nat → Prop)
    (next : Nat) : Prop where
  used : ∀ c ∈ log, ∀ x, uses c = some x → x < next
  unreleased : ∀ x, held x → x < next ∧ ∀ c ∈ log, releases c ≠ some x
  disciplined : Disciplined uses releases log

namespace Kept

variable {log : List Op} {held held' : Nat → Prop} {next : Nat}

theorem nil (hHeld : ∀ x, ¬ held x) : Kept uses releases [] held next where
  used _ hc := by cases hc
  unreleased x hx := absurd hx (hHeld x)
  disciplined := .nil

theorem mono (h : Kept uses releases log held next) {next' : Nat} (hNext : next ≤ next')
    (hFewer : ∀ x, held' x → held x) : Kept uses releases log held' next' where
  used c hc x hx := Nat.lt_of_lt_of_le (h.used c hc x hx) hNext
  unreleased x hx :=
    have hOld := h.unreleased x (hFewer x hx)
    ⟨Nat.lt_of_lt_of_le hOld.1 hNext, hOld.2⟩
  disciplined := h.disciplined

/-- A new object has not been released, since its number is new. -/
theorem create (h : Kept uses releases log held next)
    (hReleases : ∀ c x, releases c = some x → uses c = some x)
    (hNew : ∀ x, held' x → held x ∨ x = next) : Kept uses releases log held' (next + 1) where
  used c hc x hx := Nat.lt_succ_of_lt (h.used c hc x hx)
  unreleased x hx := by
    rcases hNew x hx with hOld | rfl
    · exact ⟨Nat.lt_succ_of_lt (h.unreleased x hOld).1, (h.unreleased x hOld).2⟩
    · exact ⟨Nat.lt_succ_self x,
        fun c hc hReleased => Nat.lt_irrefl x (h.used c hc x (hReleases c x hReleased))⟩
  disciplined := h.disciplined

theorem cons (h : Kept uses releases log held next) {c : Op}
    (hUses : ∀ x, uses c = some x → held x)
    (hHeld : ∀ x, held' x → held x ∧ releases c ≠ some x) :
    Kept uses releases (c :: log) held' next where
  used c' hc' x hx := by
    rcases List.mem_cons.mp hc' with rfl | hc'
    · exact (h.unreleased x (hUses x hx)).1
    · exact h.used c' hc' x hx
  unreleased x hx := by
    obtain ⟨hOld, hNot⟩ := hHeld x hx
    exact ⟨(h.unreleased x hOld).1, List.forall_mem_cons.mpr ⟨hNot, (h.unreleased x hOld).2⟩⟩
  disciplined := List.pairwise_cons.mpr
    ⟨fun older hOlder x hReleased hUsed =>
      (h.unreleased x (hUses x hUsed)).2 older hOlder hReleased, h.disciplined⟩

theorem append (h : Kept uses releases log held next) {ops : List Op}
    (hOps : ∀ c ∈ ops, (∀ x, uses c = some x → held x) ∧ releases c = none) :
    Kept uses releases (ops ++ log) held next := by
  induction ops with
  | nil => exact h
  | cons c ops ih =>
    obtain ⟨⟨hUses, hNone⟩, hRest⟩ := List.forall_mem_cons.mp hOps
    exact (ih hRest).cons hUses fun x hx => ⟨hx, by simp [hNone]⟩

end Kept

/-- An object is released once at most. -/
theorem Disciplined.countP_le_one {log : List Op} (h : Disciplined uses releases log)
    (hReleases : ∀ c x, releases c = some x → uses c = some x) (x : Nat) :
    log.countP (fun c => releases c = some x) ≤ 1 := by
  induction log with
  | nil => exact Nat.zero_le 1
  | cons c log ih =>
    obtain ⟨hFirst, hRest⟩ := List.pairwise_cons.mp h
    by_cases hReleased : releases c = some x
    · have hNone : log.countP (fun c => releases c = some x) = 0 := by
        refine List.countP_eq_zero.mpr fun older hOlder hAgain => ?_
        exact hFirst older hOlder x (of_decide_eq_true hAgain) (hReleases c x hReleased)
      simp [hNone, hReleased]
    · simpa [List.countP_cons, hReleased] using ih hRest

end SrcLink.ObjectLog
