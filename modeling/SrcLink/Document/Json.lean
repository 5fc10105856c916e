import Mathlib.Algebra.Ring.Int.Defs
import Mathlib.Data.List.Basic
import Mathlib.Data.Rat.Init

/-! # JSON documents

The Qt classes `QJsonValue`, `QJsonObject` and `QJsonArray`, and the project's
`TypedJsonArray`. A value of the wrong type reads as the default of the type
asked for, and a missing key as `undefined`. The functions on a typed array take
each element as the object it wraps.
-/

namespace SrcLink.Json

set_option autoImplicit false

inductive QJsonValue where
  | undefined
  | null
  | bool (value : Bool)
  | double (value : ℚ)
  | string (value : String)
  | array (elements : List QJsonValue)
  | object (members : List (String × QJsonValue))

abbrev QJsonArray := List QJsonValue

abbrev QJsonObject := List (String × QJsonValue)

namespace QJsonValue

def isUndefined : QJsonValue → Bool
  | undefined => true
  | _ => false

def isNull : QJsonValue → Bool
  | null => true
  | _ => false

def isBool : QJsonValue → Bool
  | bool _ => true
  | _ => false

def isDouble : QJsonValue → Bool
  | double _ => true
  | _ => false

def isString : QJsonValue → Bool
  | string _ => true
  | _ => false

def isArray : QJsonValue → Bool
  | array _ => true
  | _ => false

def isObject : QJsonValue → Bool
  | object _ => true
  | _ => false

def toBool : QJsonValue → Bool
  | bool value => value
  | _ => false

/-- A number that is no 32-bit integer reads as zero. -/
def toInt : QJsonValue → Int
  | double value =>
    if value.den = 1 ∧ -2 ^ 31 ≤ value.num ∧ value.num < 2 ^ 31 then value.num else 0
  | _ => 0

def toString : QJsonValue → String
  | string value => value
  | _ => ""

def toArray : QJsonValue → QJsonArray
  | array elements => elements
  | _ => []

def toObject : QJsonValue → QJsonObject
  | object members => members
  | _ => []

end QJsonValue

mutual

/-- The comparison of values, of which no two members of an object have the same key. -/
def QJsonValue.equals : QJsonValue → QJsonValue → Bool
  | .undefined, .undefined => true
  | .null, .null => true
  | .bool a, .bool b => a = b
  | .double a, .double b => a = b
  | .string a, .string b => a = b
  | .array as, .array bs => elementsEqual as bs
  | .object as, .object bs => as.length = bs.length && membersEqual as bs
  | _, _ => false

def elementsEqual : List QJsonValue → List QJsonValue → Bool
  | [], [] => true
  | a :: as, b :: bs => a.equals b && elementsEqual as bs
  | _, _ => false

def membersEqual : List (String × QJsonValue) → List (String × QJsonValue) → Bool
  | [], _ => true
  | (key, a) :: as, bs =>
    (match bs.lookup key with
    | some b => a.equals b
    | none => false) && membersEqual as bs

end

namespace QJsonObject

def value (o : QJsonObject) (key : String) : QJsonValue := (o.lookup key).getD .undefined

def remove (o : QJsonObject) (key : String) : QJsonObject := o.filter fun m => m.1 ≠ key

/-- Inserting `undefined` removes the key. -/
def insert (o : QJsonObject) (key : String) (v : QJsonValue) : QJsonObject :=
  match v with
  | .undefined => remove o key
  | v => (key, v) :: remove o key

/-- The order of the members does not matter. -/
def equals (o o' : QJsonObject) : Bool := (QJsonValue.object o).equals (.object o')

@[simp] theorem value_nil (key : String) : value [] key = .undefined := rfl

theorem value_cons (m : String × QJsonValue) (o : QJsonObject) (key : String) :
    value (m :: o) key = if key = m.1 then m.2 else value o key := by
  obtain ⟨k, v⟩ := m
  by_cases hKey : key = k
  · subst key
    simp [value]
  · simp [value, List.lookup_cons, beq_eq_false_iff_ne.mpr hKey, hKey]

theorem value_remove_of_ne (o : QJsonObject) {key key' : String} (hNe : key' ≠ key) :
    value (remove o key) key' = value o key' := by
  induction o with
  | nil => rfl
  | cons m o ih =>
    rw [value_cons, ← ih, remove, List.filter_cons]
    split
    · rw [value_cons]
      rfl
    · next hSame =>
      have hKey : m.1 = key := by simpa using hSame
      rw [if_neg (hKey ▸ hNe)]
      rfl

theorem value_remove_self (o : QJsonObject) (key : String) :
    value (remove o key) key = .undefined := by
  induction o with
  | nil => rfl
  | cons m o ih =>
    rw [remove, List.filter_cons]
    split
    · next hOther =>
      have hKey : m.1 ≠ key := by simpa using hOther
      rw [value_cons, if_neg hKey.symm]
      exact ih
    · exact ih

@[simp] theorem value_insert_self (o : QJsonObject) (key : String) (v : QJsonValue) :
    value (insert o key v) key = v := by
  cases v with
  | undefined => exact value_remove_self o key
  | _ => exact (value_cons ..).trans (if_pos rfl)

theorem value_insert_of_ne (o : QJsonObject) {key key' : String} (v : QJsonValue)
    (hNe : key' ≠ key) : value (insert o key v) key' = value o key' := by
  cases v with
  | undefined => exact value_remove_of_ne o hNe
  | _ => exact (value_cons ..).trans ((if_neg hNe).trans (value_remove_of_ne o hNe))

theorem lookup_of_membersEqual {as bs : QJsonObject} (h : membersEqual as bs = true)
    {key : String} {a : QJsonValue} (hLookup : as.lookup key = some a) :
    ∃ b, bs.lookup key = some b ∧ a.equals b = true := by
  induction as with
  | nil => cases hLookup
  | cons m as ih =>
    obtain ⟨k, v⟩ := m
    rw [membersEqual, Bool.and_eq_true] at h
    rw [List.lookup_cons] at hLookup
    split at hLookup
    · next hKey =>
      obtain rfl := Option.some.inj hLookup
      obtain rfl := eq_of_beq hKey
      obtain ⟨hFirst, -⟩ := h
      split at hFirst
      · next b hb => exact ⟨b, hb, hFirst⟩
      · cases hFirst
    · exact ih h.2 hLookup

theorem string_of_equals {o o' : QJsonObject} (h : equals o o' = true) {key text : String}
    (hValue : value o key = .string text) : value o' key = .string text := by
  rw [equals, QJsonValue.equals, Bool.and_eq_true] at h
  have hLookup : o.lookup key = some (.string text) := by
    cases hFound : o.lookup key with
    | none =>
      rw [value, hFound] at hValue
      cases hValue
    | some v =>
      rw [value, hFound] at hValue
      exact congrArg some hValue
  obtain ⟨b, hb, hEqual⟩ := lookup_of_membersEqual h.2 hLookup
  rw [value, hb]
  cases b with
  | string text' =>
    rw [QJsonValue.equals, decide_eq_true_eq] at hEqual
    rw [hEqual]
    rfl
  | _ => cases hEqual

end QJsonObject

namespace TypedJsonArray

def values (a : QJsonArray) : List QJsonObject := a.map QJsonValue.toObject

def findIndex (a : QJsonArray) (predicate : QJsonObject → Bool) : Option Nat :=
  a.findIdx? fun item => predicate item.toObject

def find (a : QJsonArray) (predicate : QJsonObject → Bool) : QJsonObject :=
  match findIndex a predicate with
  | some index => (a.getD index .undefined).toObject
  | none => []

theorem find_eq (a : QJsonArray) (predicate : QJsonObject → Bool) :
    find a predicate = ((values a).find? predicate).getD [] := by
  unfold find findIndex values
  induction a with
  | nil => rfl
  | cons item a ih =>
    rw [List.findIdx?_cons, List.map_cons, List.find?_cons]
    cases hItem : predicate item.toObject with
    | true => rfl
    | false =>
      rw [← ih]
      cases hRest : a.findIdx? fun item => predicate item.toObject <;> simp

def every (a : QJsonArray) (predicate : QJsonObject → Bool) : Bool :=
  a.all fun item => predicate item.toObject

end TypedJsonArray

/-- An absent optional field is as good as a valid one. -/
def maybe (value : QJsonValue) (result : Bool) : Bool :=
  value.isNull || value.isUndefined || result

end SrcLink.Json
