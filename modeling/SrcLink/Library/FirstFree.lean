import Mathlib.Data.Finset.Card
import Mathlib.Order.Interval.Finset.Nat

/-! # The first free candidate

A search along numbered candidates for the first one that is not taken. Different
numbers give different candidates, so finitely many taken ones cannot stop it.
-/

namespace SrcLink.FirstFree

set_option autoImplicit false

universe u

variable {α : Type u} {taken : Finset α} {candidate : ℕ → α}

structure IsFirstFree (taken : Finset α) (candidate : ℕ → α) (start number : ℕ) : Prop where
  le : start ≤ number
  free : candidate number ∉ taken
  taken : ∀ k, start ≤ k → k < number → candidate k ∈ taken

theorem IsFirstFree.of_taken {start number : ℕ} (hStart : candidate start ∈ taken)
    (h : IsFirstFree taken candidate (start + 1) number) :
    IsFirstFree taken candidate start number where
  le := Nat.le_of_succ_le h.le
  free := h.free
  taken k hk hLt := by
    rcases hk.eq_or_lt with rfl | hLater
    · exact hStart
    · exact h.taken k hLater hLt

theorem IsFirstFree.unique {start m n : ℕ} (hm : IsFirstFree taken candidate start m)
    (hn : IsFirstFree taken candidate start n) : m = n := by
  rcases lt_trichotomy m n with hLt | rfl | hLt
  · exact absurd (hn.taken m hm.le hLt) hm.free
  · rfl
  · exact absurd (hm.taken n hn.le hLt) hn.free

section Search

variable [DecidableEq α]

/-- The first free number from `number` on, among the next `fuel` ones. -/
def search (taken : Finset α) (candidate : ℕ → α) : ℕ → ℕ → Option ℕ
  | 0, _ => none
  | fuel + 1, number =>
    if candidate number ∈ taken then search taken candidate fuel (number + 1) else some number

/-- Different candidates are all taken for at most as many numbers as candidates are taken. -/
theorem length_le_card (hInjective : Function.Injective candidate) {start length : ℕ}
    (hTaken : ∀ k, start ≤ k → k < start + length → candidate k ∈ taken) :
    length ≤ taken.card := by
  have hSubset : (Finset.Ico start (start + length)).image candidate ⊆ taken := by
    intro a ha
    obtain ⟨k, hk, rfl⟩ := Finset.mem_image.mp ha
    obtain ⟨hLe, hLt⟩ := Finset.mem_Ico.mp hk
    exact hTaken k hLe hLt
  calc
    length = (Finset.Ico start (start + length)).card := by rw [Nat.card_Ico]; omega
    _ = ((Finset.Ico start (start + length)).image candidate).card :=
      (Finset.card_image_of_injective _ hInjective).symm
    _ ≤ taken.card := Finset.card_le_card hSubset

theorem IsFirstFree.le_card (hInjective : Function.Injective candidate) {start number : ℕ}
    (h : IsFirstFree taken candidate start number) : number ≤ start + taken.card := by
  have hLength : number - start ≤ taken.card :=
    length_le_card hInjective fun k hk hLt => h.taken k hk (by omega)
  omega

theorem isFirstFree_of_search {fuel start number : ℕ}
    (h : search taken candidate fuel start = some number) :
    IsFirstFree taken candidate start number := by
  induction fuel generalizing start with
  | zero => cases h
  | succ fuel ih =>
    rw [search] at h
    split at h
    · next hTaken => exact (ih h).of_taken hTaken
    · next hFree =>
      obtain rfl := Option.some.inj h
      exact ⟨le_rfl, hFree, fun k hk hLt => absurd hk (Nat.not_le_of_lt hLt)⟩

theorem taken_of_search_eq_none {fuel start : ℕ}
    (h : search taken candidate fuel start = none) :
    ∀ k, start ≤ k → k < start + fuel → candidate k ∈ taken := by
  induction fuel generalizing start with
  | zero => exact fun k hk hLt => absurd hk (Nat.not_le_of_lt hLt)
  | succ fuel ih =>
    intro k hk hLt
    rw [search] at h
    split at h
    · next hTaken =>
      rcases hk.eq_or_lt with rfl | hLater
      · exact hTaken
      · exact ih h k hLater (by omega)
    · cases h

/-- One round more than there are taken candidates is enough. -/
theorem exists_search (hInjective : Function.Injective candidate) {fuel : ℕ}
    (hFuel : taken.card < fuel) (start : ℕ) :
    ∃ number, search taken candidate fuel start = some number := by
  cases hSearch : search taken candidate fuel start with
  | some number => exact ⟨number, rfl⟩
  | none =>
    have hLength := length_le_card hInjective (taken_of_search_eq_none hSearch)
    omega

end Search

end SrcLink.FirstFree
