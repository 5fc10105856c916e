import Mathlib.Data.List.Nodup
import Mathlib.Data.List.Perm.Basic
import Mathlib.Logic.Function.Basic

/-! # Exclusive ownership

Holders own at most one resource each, and a table says which resources are taken.
The account is exact when no resource is owned twice and the table marks the owned
ones only; it stays exact when a resource is released and when a free one is
acquired.
-/

namespace SrcLink.Ownership

set_option autoImplicit false

variable {α ρ : Type*}

structure Exact (owned : List ρ) (taken : ρ → Bool) : Prop where
  nodup : owned.Nodup
  taken_iff : ∀ r, taken r = true ↔ r ∈ owned

namespace Exact

variable {owned owned' : List ρ} {taken : ρ → Bool}

theorem nil : Exact ([] : List ρ) fun _ => false where
  nodup := List.nodup_nil
  taken_iff r := by simp

theorem perm (h : Exact owned taken) (hPerm : owned.Perm owned') : Exact owned' taken where
  nodup := hPerm.nodup_iff.mp h.nodup
  taken_iff r := (h.taken_iff r).trans hPerm.mem_iff

section Update

variable [DecidableEq ρ] {r : ρ}

theorem release (h : Exact (r :: owned) taken) :
    Exact owned (Function.update taken r false) where
  nodup := (List.nodup_cons.mp h.nodup).2
  taken_iff r' := by
    have hOwned := (List.nodup_cons.mp h.nodup).1
    by_cases hSame : r' = r
    · subst hSame
      simpa using hOwned
    · rw [Function.update_of_ne hSame, h.taken_iff]
      simp [hSame]

theorem acquire (h : Exact owned taken) (hFree : taken r = false) :
    Exact (r :: owned) (Function.update taken r true) where
  nodup := by
    refine List.nodup_cons.mpr ⟨fun hOwned => ?_, h.nodup⟩
    rw [(h.taken_iff r).mpr hOwned] at hFree
    cases hFree
  taken_iff r' := by
    by_cases hSame : r' = r
    · subst hSame
      simp
    · rw [Function.update_of_ne hSame, h.taken_iff]
      simp [hSame]

end Update

end Exact

section Holders

variable {holders : List α} {index : Nat} {holder : α}

theorem perm_eraseIdx (owns : α → Option ρ) (hHolder : holders[index]? = some holder) :
    (holders.filterMap owns).Perm
      ((owns holder).toList ++ (holders.eraseIdx index).filterMap owns) := by
  obtain ⟨hIndex, rfl⟩ := List.getElem?_eq_some_iff.mp hHolder
  have hPerm := ((List.getElem_cons_eraseIdx_perm hIndex).filterMap owns).symm
  rw [List.filterMap_cons] at hPerm
  cases hOwns : owns holders[index] with
  | none => simpa [hOwns] using hPerm
  | some r => simpa [hOwns] using hPerm

theorem perm_set (owns : α → Option ρ) (hHolder : holders[index]? = some holder) (next : α) :
    ((holders.set index next).filterMap owns).Perm
      ((owns next).toList ++ (holders.eraseIdx index).filterMap owns) := by
  have hNext : (holders.set index next)[index]? = some next :=
    List.getElem?_set_self (List.getElem?_eq_some_iff.mp hHolder).1
  have hPerm := perm_eraseIdx owns hNext
  rwa [List.eraseIdx_set_eq] at hPerm

end Holders

end SrcLink.Ownership
