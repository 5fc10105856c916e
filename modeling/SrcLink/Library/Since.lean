import SrcLink.Library.StepSystem

/-! # What has happened since

A property has held since an event. What a step makes of it needs only the state and the
event of that step, so it can be carried through an execution like a part of the state.
-/

namespace SrcLink.StepSystem.Execution

set_option autoImplicit false

variable {σ ε : Type*} {step : σ → ε → Option σ}

/-- A step that `start` describes has been made, and `hold` has been true ever since. -/
def Since (x : Execution step) (hold : σ → Prop) (start : σ → ε → Prop) (n : Nat) : Prop :=
  ∃ m < n, (∃ e, x.event m = some e ∧ start (x.state m) e) ∧
    ∀ k, m ≤ k → k ≤ n → hold (x.state k)

variable {x : Execution step} {hold : σ → Prop} {start : σ → ε → Prop}

theorem not_since_zero : ¬x.Since hold start 0 := by
  rintro ⟨m, hm, -, -⟩
  exact absurd hm m.not_lt_zero

theorem Since.holds {n : Nat} (h : x.Since hold start n) : hold (x.state n) := by
  obtain ⟨m, hm, -, hHold⟩ := h
  exact hHold n hm.le le_rfl

theorem since_succ_iff {n : Nat} :
    x.Since hold start (n + 1) ↔ hold (x.state (n + 1)) ∧
      (x.Since hold start n ∨
        hold (x.state n) ∧ ∃ e, x.event n = some e ∧ start (x.state n) e) := by
  constructor
  · rintro ⟨m, hm, hEvent, hHold⟩
    refine ⟨hHold (n + 1) hm.le le_rfl, ?_⟩
    rcases Nat.lt_succ_iff_lt_or_eq.mp hm with hBefore | rfl
    · exact .inl ⟨m, hBefore, hEvent, fun k hk hkn => hHold k hk (Nat.le_succ_of_le hkn)⟩
    · exact .inr ⟨hHold m le_rfl m.le_succ, hEvent⟩
  · rintro ⟨hNow, ⟨m, hm, hEvent, hHold⟩ | ⟨hHold, hEvent⟩⟩
    · refine ⟨m, Nat.lt_succ_of_lt hm, hEvent, fun k hk hkn => ?_⟩
      rcases Nat.le_succ_iff.mp hkn with hBefore | rfl
      · exact hHold k hk hBefore
      · exact hNow
    · refine ⟨n, n.lt_succ_self, hEvent, fun k hk hkn => ?_⟩
      rcases Nat.le_succ_iff.mp hkn with hBefore | rfl
      · exact Nat.le_antisymm hk hBefore ▸ hHold
      · exact hNow

/-- An invariant of the states together with what has happened since. -/
theorem since_invariant {P : σ → Prop → Prop} (hZero : P (x.state 0) False)
    (hStep : ∀ s e s' p, P s p → step s e = some s' →
      P s' (hold s' ∧ (p ∨ hold s ∧ start s e)))
    (n : Nat) : P (x.state n) (x.Since hold start n) := by
  induction n with
  | zero => rwa [eq_false not_since_zero]
  | succ n ih =>
    rw [since_succ_iff]
    cases hEvent : x.event n with
    | none =>
      have hSame : (x.Since hold start n ∧ hold (x.state n)) = x.Since hold start n :=
        propext ⟨And.left, fun h => ⟨h, h.holds⟩⟩
      simpa [x.next_of_none hEvent, and_comm, hSame] using ih
    | some e =>
      have hNext := hStep _ _ _ _ ih (x.next_of_event hEvent)
      simpa using hNext

end SrcLink.StepSystem.Execution
