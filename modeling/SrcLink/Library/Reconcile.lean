import Mathlib.Data.List.Nodup
import SrcLink.Library.KeyedArray

/-! # Reconciling a list with wanted items

A list of members is brought in line with a list of keyed items in two loops. The
first runs over a copy and erases what is no longer wanted, the second appends
the items whose key is not there yet, so that of several with one key only the
first one is taken.
-/

namespace SrcLink.Reconcile

open KeyedArray

set_option autoImplicit false

universe u v

variable {α : Type u} {κ : Type v} [DecidableEq κ]

section Erasing

variable [DecidableEq α]

/-- Erasing the unwanted members of a copy keeps the wanted ones and those not in the copy. -/
theorem foldl_erase (keep : α → Bool) (copy : List α) {xs : List α} (hNodup : xs.Nodup) :
    copy.foldl (fun xs x => if keep x then xs else xs.erase x) xs =
      xs.filter fun x => keep x || !copy.contains x := by
  induction copy generalizing xs with
  | nil => simp
  | cons y copy ih =>
    rw [List.foldl_cons]
    cases hKeep : keep y with
    | true =>
      rw [if_pos rfl, ih hNodup]
      apply List.filter_congr
      intro x _
      by_cases hSame : x = y <;> simp [hSame, hKeep]
    | false =>
      rw [if_neg Bool.false_ne_true, ih (hNodup.erase y), hNodup.erase_eq_filter,
        List.filter_filter]
      apply List.filter_congr
      intro x _
      by_cases hSame : x = y <;> simp [hSame, hKeep]

theorem foldl_erase_self (keep : α → Bool) {xs : List α} (hNodup : xs.Nodup) :
    xs.foldl (fun xs x => if keep x then xs else xs.erase x) xs = xs.filter keep := by
  rw [foldl_erase keep xs hNodup]
  apply List.filter_congr
  intro x hx
  simp [hx]

end Erasing

section Appending

variable (key : α → κ)

/-- The items that are appended behind members with the keys `present`. -/
def freshItems : List κ → List α → List α
  | _, [] => []
  | present, item :: items =>
    if key item ∈ present then freshItems present items
    else item :: freshItems (present ++ [key item]) items

theorem freshItems_sublist (present : List κ) (items : List α) :
    (freshItems key present items).Sublist items := by
  induction items generalizing present with
  | nil => exact .slnil
  | cons item items ih =>
    rw [freshItems]
    split
    · exact (ih present).cons item
    · exact (ih _).cons_cons item

theorem mem_map_freshItems (present : List κ) (items : List α) (k : κ) :
    k ∈ (freshItems key present items).map key ↔ k ∉ present ∧ k ∈ items.map key := by
  induction items generalizing present with
  | nil => simp [freshItems]
  | cons item items ih =>
    rw [freshItems]
    split
    · next hPresent =>
      -- skipped: its key is present already
      rw [ih, List.map_cons, List.mem_cons]
      constructor
      · rintro ⟨hNew, hMem⟩
        exact ⟨hNew, .inr hMem⟩
      · rintro ⟨hNew, rfl | hMem⟩
        · exact absurd hPresent hNew
        · exact ⟨hNew, hMem⟩
    · next hAbsent =>
      -- kept, and from now on its key is present
      rw [List.map_cons, List.mem_cons, ih, List.map_cons, List.mem_cons]
      constructor
      · rintro (rfl | ⟨hNew, hMem⟩)
        · exact ⟨hAbsent, .inl rfl⟩
        · exact ⟨fun h => hNew (List.mem_append_left _ h), .inr hMem⟩
      · rintro ⟨hNew, hMem⟩
        by_cases hSame : k = key item
        · exact .inl hSame
        · exact .inr ⟨by simp [hNew, hSame], hMem.resolve_left hSame⟩

theorem nodup_freshItems {present : List κ} (hNodup : present.Nodup) (items : List α) :
    (present ++ (freshItems key present items).map key).Nodup := by
  induction items generalizing present with
  | nil => simpa [freshItems] using hNodup
  | cons item items ih =>
    rw [freshItems]
    split
    · exact ih hNodup
    · next hAbsent =>
      have hMore : (present ++ [key item]).Nodup :=
        hNodup.append (List.nodup_singleton _) (List.disjoint_singleton.mpr hAbsent)
      simpa using ih hMore

theorem toMap_of_mem_freshItems {present : List κ} {items : List α} {x : α}
    (h : x ∈ freshItems key present items) : toMap key items (key x) = some x := by
  induction items generalizing present with
  | nil => cases h
  | cons item items ih =>
    have hNew := ((mem_map_freshItems key present (item :: items) (key x)).mp
      (List.mem_map_of_mem h)).1
    rw [freshItems] at h
    rw [toMap_cons]
    split at h
    · next hPresent => rw [if_neg fun hSame : key item = key x => hNew (hSame ▸ hPresent), ih h]
    · rcases List.mem_cons.mp h with rfl | hLater
      · exact if_pos rfl
      · have hOther := ((mem_map_freshItems key _ items (key x)).mp
          (List.mem_map_of_mem hLater)).1
        rw [if_neg fun hSame => hOther (by simp [hSame]), ih hLater]

end Appending

end SrcLink.Reconcile
