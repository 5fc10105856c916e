import Mathlib.Data.Int.Notation

/-! # Paired calls

Calls that acquire something and calls that release it, newest first. They are paired
when they alternate and every release is of what the acquisition before it has
acquired; reference counts then show what is held.
-/

namespace SrcLink.Pairing

set_option autoImplicit false

universe u v

inductive Call (α : Type u) where
  | acquire (a : α)
  | release (a : α)
  deriving DecidableEq

variable {α : Type u} {ι : Type v}

/-- What is held after the calls, none if they are not paired. -/
def held [DecidableEq α] : List (Call α) → Option (Option α)
  | [] => some none
  | .acquire a :: earlier =>
    match held earlier with
    | some none => some (some a)
    | _ => none
  | .release a :: earlier =>
    match held earlier with
    | some (some b) => if a = b then some none else none
    | _ => none

/-- The reference count of one of the parts of what is acquired. -/
def refCount (has : α → ι → Bool) (i : ι) : List (Call α) → Int
  | [] => 0
  | .acquire a :: earlier => refCount has i earlier + (has a i).toNat
  | .release a :: earlier => refCount has i earlier - (has a i).toNat

section Lemmas

variable [DecidableEq α] {calls : List (Call α)} {a : α} {o : Option α}

theorem held_acquire_iff :
    held (.acquire a :: calls) = some o ↔ held calls = some none ∧ o = some a := by
  rw [held]
  split
  · next hNone =>
    rw [Option.some_inj]
    exact ⟨fun h => ⟨hNone, h.symm⟩, fun h => h.2.symm⟩
  · next hOther => exact ⟨nofun, fun h => (hOther h.1).elim⟩

theorem held_release_iff :
    held (.release a :: calls) = some o ↔ held calls = some (some a) ∧ o = none := by
  rw [held]
  split
  · next b hHeld =>
    rw [Option.ite_none_right_eq_some, hHeld]
    constructor
    · rintro ⟨rfl, ⟨⟩⟩
      exact ⟨rfl, rfl⟩
    · rintro ⟨⟨⟩, rfl⟩
      exact ⟨rfl, rfl⟩
  · next hOther => exact ⟨nofun, fun h => (hOther _ h.1).elim⟩

theorem refCount_of_held (has : α → ι → Bool) (i : ι) (h : held calls = some o) :
    refCount has i calls = (o.any fun a => has a i).toNat := by
  induction calls generalizing o with
  | nil =>
    obtain rfl := Option.some.inj h
    rfl
  | cons call calls ih =>
    cases call with
    | acquire a =>
      obtain ⟨hBefore, rfl⟩ := held_acquire_iff.mp h
      rw [refCount, ih hBefore]
      simp
    | release a =>
      obtain ⟨hBefore, rfl⟩ := held_release_iff.mp h
      rw [refCount, ih hBefore]
      simp

end Lemmas

end SrcLink.Pairing
