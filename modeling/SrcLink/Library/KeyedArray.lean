import Mathlib.Data.List.Basic
import Mathlib.Logic.Function.Basic

/-! # Arrays of keyed records

An array that is searched by a key stands for the map that the search computes.
Replacing the first record with a key, or appending one, updates the map;
removing it does so when no two records share a key.
-/

namespace SrcLink.KeyedArray

set_option autoImplicit false

variable {α κ : Type*} [DecidableEq κ] (key : α → κ)

def findIndex (k : κ) (xs : List α) : Option Nat := xs.findIdx? fun x => key x = k

def replaceOrAppend (k : κ) (x : α) (xs : List α) : List α :=
  match findIndex key k xs with
  | some index => xs.set index x
  | none => xs ++ [x]

def removeFirst (k : κ) (xs : List α) : List α :=
  match findIndex key k xs with
  | some index => xs.eraseIdx index
  | none => xs

/-- The map that an array stands for. -/
def toMap (xs : List α) (k : κ) : Option α := xs.find? fun x => key x = k

def Distinct (xs : List α) : Prop := (xs.map key).Nodup

theorem replaceOrAppend_cons (k : κ) (x y : α) (ys : List α) :
    replaceOrAppend key k x (y :: ys) =
      if key y = k then x :: ys else y :: replaceOrAppend key k x ys := by
  unfold replaceOrAppend findIndex
  rw [List.findIdx?_cons]
  by_cases hKey : key y = k
  · simp [hKey]
  · cases ys.findIdx? (fun x => decide (key x = k)) <;> simp [hKey]

theorem removeFirst_cons (k : κ) (y : α) (ys : List α) :
    removeFirst key k (y :: ys) = if key y = k then ys else y :: removeFirst key k ys := by
  unfold removeFirst findIndex
  rw [List.findIdx?_cons]
  by_cases hKey : key y = k
  · simp [hKey]
  · cases ys.findIdx? (fun x => decide (key x = k)) <;> simp [hKey]

theorem toMap_cons (y : α) (ys : List α) (k : κ) :
    toMap key (y :: ys) k = if key y = k then some y else toMap key ys k := by
  unfold toMap
  by_cases hKey : key y = k <;> simp [hKey]

theorem toMap_eq_none_iff (xs : List α) (k : κ) :
    toMap key xs k = none ↔ k ∉ xs.map key := by
  simp [toMap]

theorem toMap_replaceOrAppend {k : κ} {x : α} (hKey : key x = k) (xs : List α) :
    toMap key (replaceOrAppend key k x xs) = Function.update (toMap key xs) k (some x) := by
  funext k'
  induction xs with
  | nil =>
    have hNil : replaceOrAppend key k x [] = [x] := rfl
    rw [hNil, toMap_cons, hKey]
    by_cases hSame : k = k'
    · simp [hSame]
    · simp [hSame, Ne.symm hSame, toMap]
  | cons y ys ih =>
    rw [replaceOrAppend_cons]
    split
    · next hFirst =>
      rw [toMap_cons, hKey]
      by_cases hSame : k = k'
      · simp [hSame]
      · rw [Function.update_of_ne (Ne.symm hSame), toMap_cons, if_neg hSame, hFirst, if_neg hSame]
    · next hOther =>
      rw [toMap_cons, ih]
      by_cases hSame : k = k'
      · rw [← hSame, if_neg hOther, Function.update_self, Function.update_self]
      · rw [Function.update_of_ne (Ne.symm hSame), Function.update_of_ne (Ne.symm hSame), toMap_cons]

theorem mem_replaceOrAppend {k : κ} {x z : α} {xs : List α}
    (h : z ∈ replaceOrAppend key k x xs) : z = x ∨ z ∈ xs := by
  induction xs with
  | nil => exact .inl (List.mem_singleton.mp h)
  | cons y ys ih =>
    rw [replaceOrAppend_cons] at h
    split at h
    · exact (List.mem_cons.mp h).imp id (List.mem_cons_of_mem _)
    · rcases List.mem_cons.mp h with rfl | hRest
      · exact .inr List.mem_cons_self
      · exact (ih hRest).imp id (List.mem_cons_of_mem _)

theorem mem_keys_replaceOrAppend {k k' : κ} {x : α} (hKey : key x = k) (xs : List α) :
    k' ∈ (replaceOrAppend key k x xs).map key ↔ k' = k ∨ k' ∈ xs.map key := by
  rw [← not_iff_not, ← toMap_eq_none_iff, toMap_replaceOrAppend key hKey, not_or,
    ← toMap_eq_none_iff]
  by_cases hSame : k' = k
  · simp [hSame]
  · simp [hSame]

theorem Distinct.replaceOrAppend {k : κ} {x : α} (hKey : key x = k) {xs : List α}
    (h : Distinct key xs) : Distinct key (replaceOrAppend key k x xs) := by
  induction xs with
  | nil => exact List.pairwise_singleton _ _
  | cons y ys ih =>
    obtain ⟨hHead, hTail⟩ := List.nodup_cons.mp h
    rw [replaceOrAppend_cons]
    split
    · next hFirst =>
      apply List.nodup_cons.mpr
      exact ⟨by rw [hKey, ← hFirst]; exact hHead, hTail⟩
    · next hOther =>
      apply List.nodup_cons.mpr
      refine ⟨fun hMem => ?_, ih hTail⟩
      obtain ⟨z, hz, hSame⟩ := List.mem_map.mp hMem
      rcases mem_replaceOrAppend key hz with rfl | hz
      · exact hOther (hSame.symm.trans hKey)
      · exact hHead (hSame ▸ List.mem_map_of_mem hz)

theorem removeFirst_sublist (k : κ) (xs : List α) : (removeFirst key k xs).Sublist xs := by
  unfold removeFirst
  split
  · exact List.eraseIdx_sublist ..
  · exact List.Sublist.refl _

theorem Distinct.removeFirst {k : κ} {xs : List α} (h : Distinct key xs) :
    Distinct key (removeFirst key k xs) :=
  h.sublist ((removeFirst_sublist key k xs).map key)

theorem toMap_removeFirst (k : κ) {xs : List α} (h : Distinct key xs) :
    toMap key (removeFirst key k xs) = Function.update (toMap key xs) k none := by
  funext k'
  induction xs with
  | nil => by_cases hSame : k' = k <;> simp [hSame, toMap, removeFirst, findIndex]
  | cons y ys ih =>
    obtain ⟨hHead, hTail⟩ := List.nodup_cons.mp h
    rw [removeFirst_cons]
    split
    · next hFirst =>
      by_cases hSame : k' = k
      · rw [hSame, Function.update_self]
        exact (toMap_eq_none_iff key ys k).mpr (hFirst ▸ hHead)
      · rw [Function.update_of_ne hSame, toMap_cons, hFirst, if_neg (Ne.symm hSame)]
    · next hOther =>
      rw [toMap_cons, ih hTail]
      by_cases hSame : k' = k
      · rw [hSame, if_neg hOther, Function.update_self, Function.update_self]
      · rw [Function.update_of_ne hSame, Function.update_of_ne hSame, toMap_cons]

theorem findIndex_eq_none_iff (k : κ) (xs : List α) :
    findIndex key k xs = none ↔ toMap key xs k = none := by
  simp [findIndex, toMap]

/-- One write to a map; the value `none` erases the key. -/
structure MapUpdate (κ α : Type*) where
  key : κ
  value : Option α

namespace MapUpdate

variable (u v : MapUpdate κ α) (m : κ → Option α)

def apply : κ → Option α := Function.update m u.key u.value

/-- What the last of the writes (newest first) left at a key. -/
def latest (initial : Option α) (k : κ) : List (MapUpdate κ α) → Option α
  | [] => initial
  | u :: older => if k = u.key then u.value else latest initial k older

theorem foldr_apply (us : List (MapUpdate κ α)) (k : κ) :
    us.foldr apply m k = latest (m k) k us := by
  induction us with
  | nil => rfl
  | cons u us ih =>
    rw [List.foldr_cons, apply, Function.update_apply, ih]
    rfl

theorem apply_comm {u v : MapUpdate κ α} (hNe : u.key ≠ v.key) :
    u.apply (v.apply m) = v.apply (u.apply m) := by
  unfold apply
  exact Function.update_comm hNe.symm v.value u.value m

end MapUpdate

end SrcLink.KeyedArray
