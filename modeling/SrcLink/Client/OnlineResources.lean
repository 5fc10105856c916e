import SrcLink.Document.Schema
import Mathlib.Data.List.Sort

/-! # Online resources

The documents the API client caches. `QMap` keeps one entry for each key and lists
its keys in order; `operator[]` on a missing key inserts an empty document, which
here is reading `[]` and inserting the changed document.
-/

namespace SrcLink.ApiClient

open Json

set_option autoImplicit false

abbrev QMap (α : Type) := List (String × α)

namespace QMap

variable {α : Type}

def contains (m : QMap α) (key : String) : Bool := (m.lookup key).isSome

def remove (m : QMap α) (key : String) : QMap α := m.filter fun entry => entry.1 ≠ key

def insert (m : QMap α) (key : String) (value : α) : QMap α := (key, value) :: remove m key

def keys (m : QMap α) : List String := (m.map Prod.fst).insertionSort (· ≤ ·)

theorem lookup_cons (entry : String × α) (m : QMap α) (key : String) :
    (entry :: m : QMap α).lookup key = if key = entry.1 then some entry.2 else m.lookup key := by
  obtain ⟨key', value⟩ := entry
  by_cases hKey : key = key'
  · simp [hKey]
  · simp [List.lookup_cons, beq_eq_false_iff_ne.mpr hKey, hKey]

theorem lookup_remove (m : QMap α) (key key' : String) :
    (remove m key).lookup key' = if key' = key then none else m.lookup key' := by
  induction m with
  | nil => simp [remove]
  | cons entry m ih =>
    rw [remove, List.filter_cons]
    split
    · next hOther =>
      have hNe : entry.1 ≠ key := by simpa using hOther
      rw [lookup_cons, lookup_cons, show List.lookup key' (m.filter _) = _ from ih]
      split
      · next hFirst => rw [if_neg (hFirst ▸ hNe)]
      · rfl
    · next hSame =>
      have hFirst : entry.1 = key := by simpa using hSame
      rw [show List.lookup key' (m.filter _) = _ from ih, lookup_cons, hFirst]
      split
      · rfl
      · rfl

theorem lookup_insert (m : QMap α) (key key' : String) (value : α) :
    (insert m key value).lookup key' = if key' = key then some value else m.lookup key' := by
  rw [insert, lookup_cons, lookup_remove]
  split
  · rfl
  · rfl

theorem mem_keys_iff (m : QMap α) (key : String) : key ∈ keys m ↔ m.lookup key ≠ none := by
  rw [keys, List.mem_insertionSort]
  induction m with
  | nil => simp
  | cons entry m ih =>
    rw [lookup_cons, List.map_cons, List.mem_cons, ih]
    split
    · next hFirst => simp [hFirst]
    · next hOther => simp [hOther]

end QMap

structure Resources where
  accountInfo : QJsonObject := []
  parties : QJsonArray := []
  partyEvents : QJsonArray := []
  participants : QJsonArray := []
  stages : QJsonArray := []
  uplink : QJsonObject := []
  downlinks : QMap QJsonObject := []
  wsPortals : QJsonArray := []

end SrcLink.ApiClient
