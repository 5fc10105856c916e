import Mathlib.Data.List.Basic

/-! # Combo boxes

A combo box has an item for each key of a list and shows one of them, or none. A form
that is filled again looks the key up that it showed before, and falls back to the first
item.
-/

namespace SrcLink

set_option autoImplicit false

structure ComboBox (κ : Type*) where
  /-- the user data of the items -/
  items : List κ := []
  currentIndex : Option Nat := none

namespace ComboBox

variable {κ : Type*}

def currentData (c : ComboBox κ) : Option κ := c.currentIndex.bind fun i => c.items[i]?

/-- There is no item at an index that is out of range. -/
def setCurrentIndex (c : ComboBox κ) (index : Option Nat) : ComboBox κ :=
  { c with currentIndex := index.filter (· < c.items.length) }

def findData [DecidableEq κ] (c : ComboBox κ) (key : κ) : Option Nat := c.items.idxOf? key

/-- Cleared and filled again, before an item is chosen. -/
def ofItems (items : List κ) : ComboBox κ := { items := items }

def setFirst (c : ComboBox κ) : ComboBox κ := c.setCurrentIndex (some 0)

/-- `setCurrentIndex(std::max(findData(key), 0))` -/
def setDataOrFirst [DecidableEq κ] (c : ComboBox κ) (key : κ) : ComboBox κ :=
  c.setCurrentIndex (some ((c.findData key).getD 0))

@[simp] theorem setCurrentIndex_items (c : ComboBox κ) (index : Option Nat) :
    (c.setCurrentIndex index).items = c.items := rfl

@[simp] theorem setFirst_items (c : ComboBox κ) : c.setFirst.items = c.items := rfl

@[simp] theorem setDataOrFirst_items [DecidableEq κ] (c : ComboBox κ) (key : κ) :
    (c.setDataOrFirst key).items = c.items := rfl

@[simp] theorem ofItems_items (items : List κ) : (ofItems items).items = items := rfl

theorem currentData_setCurrentIndex (c : ComboBox κ) (index : Option Nat) :
    (c.setCurrentIndex index).currentData = index.bind fun i => c.items[i]? := by
  cases index with
  | none => rfl
  | some i =>
    by_cases hRange : i < c.items.length
    · simp [currentData, setCurrentIndex, hRange, Option.filter]
    · simp [currentData, setCurrentIndex, hRange, Option.filter]

theorem currentData_setCurrentIndex_of_lt (c : ComboBox κ) {i : Nat} (hRange : i < c.items.length) :
    (c.setCurrentIndex (some i)).currentData = some c.items[i] := by
  rw [currentData_setCurrentIndex, Option.bind_some, List.getElem?_eq_getElem hRange]

theorem currentData_setFirst (c : ComboBox κ) : c.setFirst.currentData = c.items.head? := by
  rw [setFirst, currentData_setCurrentIndex, Option.bind_some, List.head?_eq_getElem?]

theorem mem_of_currentData {c : ComboBox κ} {key : κ} (h : c.currentData = some key) :
    key ∈ c.items := by
  obtain ⟨i, _, hItem⟩ := Option.bind_eq_some_iff.mp h
  exact List.mem_of_getElem? hItem

/-- A combo box without items shows the value that stands for none. -/
theorem items_ne_nil_of_currentData {c : ComboBox κ} {empty : κ}
    (h : c.currentData.getD empty ≠ empty) : c.items ≠ [] := by
  cases hData : c.currentData with
  | none => exact absurd (by rw [hData]; rfl) h
  | some key => exact List.ne_nil_of_mem (mem_of_currentData hData)

section Find

variable [DecidableEq κ]

theorem getElem?_of_findData {c : ComboBox κ} {key : κ} {i : Nat} (h : c.findData key = some i) :
    c.items[i]? = some key := by
  obtain ⟨hRange, hItem, _⟩ := List.idxOf?_eq_some_iff.mp h
  rw [List.getElem?_eq_getElem hRange]
  exact congrArg some hItem

theorem findData_eq_none_iff {c : ComboBox κ} {key : κ} :
    c.findData key = none ↔ key ∉ c.items := List.idxOf?_eq_none_iff

/-- A key that has an item is found again. -/
theorem currentData_setDataOrFirst (c : ComboBox κ) (key : κ) :
    (c.setDataOrFirst key).currentData = if key ∈ c.items then some key else c.items.head? := by
  rw [setDataOrFirst, currentData_setCurrentIndex, Option.bind_some]
  cases hFound : c.findData key with
  | none =>
    rw [if_neg (findData_eq_none_iff.mp hFound), List.head?_eq_getElem?]
    rfl
  | some i =>
    have hItem := getElem?_of_findData hFound
    rw [if_pos (List.mem_of_getElem? hItem)]
    exact hItem

/-- The key is looked for under a condition; what is shown else is the first item. -/
theorem currentData_ite_setDataOrFirst {c : ComboBox κ} {key first : κ} {p : Prop} [Decidable p]
    (hFirst : c.items.head? = some first) :
    (if p then c.setDataOrFirst key else c.setFirst).currentData =
      some (if p ∧ key ∈ c.items then key else first) := by
  by_cases hSought : p
  · rw [if_pos hSought, currentData_setDataOrFirst, hFirst]
    by_cases hMem : key ∈ c.items
    · rw [if_pos hMem, if_pos ⟨hSought, hMem⟩]
    · rw [if_neg hMem, if_neg fun h => hMem h.2]
  · rw [if_neg hSought, if_neg fun h => hSought h.1, currentData_setFirst]
    exact hFirst

end Find

end ComboBox

end SrcLink
