import SrcLink.Library.StepSystem

/-! # Leading from one property to another

The rules by which progress in an infinite run is put together: what every step keeps
until something better comes, and an event or a bound that ends the waiting.
-/

namespace SrcLink.StepSystem.Execution

set_option autoImplicit false

variable {σ ε : Type*} {step : σ → ε → Option σ}

/-- Whenever `P` holds, `Q` holds then or later. -/
def LeadsTo (x : Execution step) (P Q : σ → Prop) : Prop :=
  ∀ n, P (x.state n) → ∃ m, n ≤ m ∧ Q (x.state m)

/-- Every step keeps `P` or brings `Q`. -/
def Until (step : σ → ε → Option σ) (P Q : σ → Prop) : Prop :=
  ∀ s e s', P s → step s e = some s' → P s' ∨ Q s'

/-- What no step loses. -/
def Stable (step : σ → ε → Option σ) (P : σ → Prop) : Prop :=
  ∀ s e s', P s → step s e = some s' → P s'

variable {x : Execution step} {P Q R : σ → Prop}

theorem later_of_stable (x : Execution step) (h : Stable step P) {n m : Nat} (hnm : n ≤ m)
    (hP : P (x.state n)) : P (x.state m) := by
  induction hnm with
  | refl => exact hP
  | @step m _ ih =>
    cases hEvent : x.event m with
    | none => exact x.next_of_none hEvent ▸ ih
    | some e => exact h _ _ _ ih (x.next_of_event hEvent)

/-- As long as `Q` has not come, `P` holds. -/
theorem until_of_le (x : Execution step) (h : Until step P Q) {n m : Nat} (hnm : n ≤ m)
    (hP : P (x.state n)) : P (x.state m) ∨ ∃ k, n ≤ k ∧ Q (x.state k) := by
  induction hnm with
  | refl => exact .inl hP
  | @step m hnm ih =>
    rcases ih with hStill | hDone
    · cases hEvent : x.event m with
      | none => exact .inl (x.next_of_none hEvent ▸ hStill)
      | some e =>
        rcases h _ _ _ hStill (x.next_of_event hEvent) with hNext | hNow
        · exact .inl hNext
        · exact .inr ⟨m + 1, Nat.le_succ_of_le hnm, hNow⟩
    · exact .inr hDone

namespace LeadsTo

theorem trans (h : x.LeadsTo P Q) (h' : x.LeadsTo Q R) : x.LeadsTo P R := by
  intro n hP
  obtain ⟨m, hnm, hQ⟩ := h n hP
  obtain ⟨k, hmk, hR⟩ := h' m hQ
  exact ⟨k, hnm.trans hmk, hR⟩

theorem of_imp (h : ∀ s, P s → Q s) : x.LeadsTo P Q := fun n hP => ⟨n, le_rfl, h _ hP⟩

theorem or {P' : σ → Prop} (h : x.LeadsTo P Q) (h' : x.LeadsTo P' Q) :
    x.LeadsTo (fun s => P s ∨ P' s) Q :=
  fun n hEither => hEither.elim (h n) (h' n)

/-- `P` cannot hold for ever. -/
theorem of_leaves (hUntil : Until step P Q)
    (hLeaves : ∀ n, P (x.state n) → ∃ m, n ≤ m ∧ ¬ P (x.state m)) : x.LeadsTo P Q := by
  intro n hP
  obtain ⟨m, hnm, hNot⟩ := hLeaves n hP
  exact (x.until_of_le hUntil hnm hP).resolve_left hNot

/-- An event that has to come while `P` holds brings `Q`. -/
theorem of_event {p : ε → Prop} (hUntil : Until step P Q)
    (hHelps : ∀ s e s', P s → p e → step s e = some s' → Q s')
    (hComes : ∀ n, P (x.state n) → ∃ m, n ≤ m ∧ ∃ e, x.event m = some e ∧ p e) :
    x.LeadsTo P Q := by
  intro n hP
  obtain ⟨m, hnm, e, hEvent, hHelpful⟩ := hComes n hP
  rcases x.until_of_le hUntil hnm hP with hStill | hDone
  · exact ⟨m + 1, Nat.le_succ_of_le hnm, hHelps _ _ _ hStill hHelpful (x.next_of_event hEvent)⟩
  · exact hDone

end LeadsTo

end SrcLink.StepSystem.Execution
