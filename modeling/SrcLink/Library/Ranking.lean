import Mathlib.Data.List.Basic

/-! # Ranked runs

Only some of a component's events drive it towards its goal. A rank that no event
raises, and that every driving event lowers until it is zero, bounds how many of them
a run needs.
-/

namespace SrcLink.Ranking

set_option autoImplicit false

variable {σ ε : Type*}

/-- Every event of the list meets the guard in the state it comes in. -/
def Guarded (next : σ → ε → σ) (guard : σ → ε → Prop) : σ → List ε → Prop
  | _, [] => True
  | s, e :: es => guard s e ∧ Guarded next guard (next s e) es

/-- The number of driving events of a run. -/
def drives (next : σ → ε → σ) (driving : σ → ε → Bool) : σ → List ε → Nat
  | _, [] => 0
  | s, e :: es => (driving s e).toNat + drives next driving (next s e) es

structure Ranks (next : σ → ε → σ) (guard : σ → ε → Prop) (driving : σ → ε → Bool)
    (inv : σ → Prop) (rank : σ → Nat) : Prop where
  keeps : ∀ s e, inv s → guard s e → inv (next s e)
  le : ∀ s e, inv s → guard s e → rank (next s e) ≤ rank s
  lt : ∀ s e, inv s → guard s e → driving s e = true → rank s ≠ 0 → rank (next s e) < rank s

namespace Ranks

variable {next : σ → ε → σ} {guard : σ → ε → Prop} {driving : σ → ε → Bool} {inv : σ → Prop}
  {rank : σ → Nat}

theorem inv_foldl (h : Ranks next guard driving inv rank) {es : List ε} {s : σ} (hInv : inv s)
    (hGuarded : Guarded next guard s es) : inv (es.foldl next s) := by
  induction es generalizing s with
  | nil => exact hInv
  | cons e es ih => exact ih (h.keeps s e hInv hGuarded.1) hGuarded.2

/-- One event pays for itself out of the rank. -/
theorem rank_next_le (h : Ranks next guard driving inv rank) {s : σ} {e : ε} (hInv : inv s)
    (hGuard : guard s e) : rank (next s e) ≤ rank s - (driving s e).toNat := by
  have hLe := h.le s e hInv hGuard
  cases hDriving : driving s e with
  | false => exact hLe
  | true =>
    by_cases hZero : rank s = 0
    · rw [hZero] at hLe
      rw [Nat.le_zero.mp hLe]
      exact Nat.zero_le _
    · exact Nat.le_sub_one_of_lt (h.lt s e hInv hGuard hDriving hZero)

theorem rank_foldl_le (h : Ranks next guard driving inv rank) {es : List ε} {s : σ}
    (hInv : inv s) (hGuarded : Guarded next guard s es) :
    rank (es.foldl next s) ≤ rank s - drives next driving s es := by
  induction es generalizing s with
  | nil => exact Nat.le_refl _
  | cons e es ih =>
    calc rank (es.foldl next (next s e))
        ≤ rank (next s e) - drives next driving (next s e) es :=
          ih (h.keeps s e hInv hGuarded.1) hGuarded.2
      _ ≤ rank s - (driving s e).toNat - drives next driving (next s e) es :=
          Nat.sub_le_sub_right (h.rank_next_le hInv hGuarded.1) _
      _ = rank s - drives next driving s (e :: es) := Nat.sub_sub ..

theorem rank_eq_zero (h : Ranks next guard driving inv rank) {es : List ε} {s : σ}
    (hInv : inv s) (hGuarded : Guarded next guard s es)
    (hEnough : rank s ≤ drives next driving s es) : rank (es.foldl next s) = 0 := by
  have hLe := h.rank_foldl_le hInv hGuarded
  rw [Nat.sub_eq_zero_of_le hEnough] at hLe
  exact Nat.le_zero.mp hLe

end Ranks

end SrcLink.Ranking
