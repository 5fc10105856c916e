import Mathlib.Algebra.Ring.Nat
import Mathlib.Data.List.Basic

/-! # Dynamically typed JSON values

The accessors of `nlohmann::json`. They throw on a value of the wrong type. A missing
key is inserted as null by the index operator of a value that may change; for a
constant one it is undefined behaviour.
-/

namespace SrcLink.Nlohmann

set_option autoImplicit false

inductive Json where
  /-- the result of a parser without exceptions when it fails -/
  | discarded
  | null
  | boolean (value : Bool)
  /-- a signed or an unsigned number -/
  | integer (value : Int)
  /-- the bits of a double -/
  | float (bits : BitVec 64)
  | string (value : ByteArray)
  | binary (value : ByteArray)
  | array (items : List Json)
  /-- ordered by the keys -/
  | object (fields : List (ByteArray × Json))

inductive Failure where
  /-- an exception, which nobody catches -/
  | typeError
  /-- a key that a constant object does not have -/
  | missingKey
  deriving DecidableEq

namespace Json

def text (value : String) : Json := .string value.toByteArray

def ofFields (fields : List (String × Json)) : Json :=
  .object (fields.map fun field => (field.1.toByteArray, field.2))

/-- A vector of bytes that is not declared binary. -/
def ofBytes (bytes : ByteArray) : Json :=
  .array (bytes.toList.map fun byte => .integer byte.toNat)

def lookup (fields : List (ByteArray × Json)) (key : String) : Option Json :=
  (fields.find? fun field => field.1 == key.toByteArray).map Prod.snd

def isDiscarded : Json → Bool
  | .discarded => true
  | _ => false

def isFalse : Json → Bool
  | .boolean false => true
  | _ => false

def empty : Json → Bool
  | .null => true
  | .array items => items.isEmpty
  | .object fields => fields.isEmpty
  | _ => false

def size : Json → Nat
  | .null => 0
  | .array items => items.length
  | .object fields => fields.length
  | _ => 1

/-- What a range-based loop visits; a value without elements visits itself. -/
def items : Json → List Json
  | .null => []
  | .array items => items
  | .object fields => fields.map Prod.snd
  | value => [value]

/-- `operator[]` -/
def index (value : Json) (key : String) : Except Failure Json :=
  match value with
  | .null => .ok .null
  | .object fields => .ok ((lookup fields key).getD .null)
  | _ => .error .typeError

/-- `operator[]` of a constant -/
def constIndex (value : Json) (key : String) : Except Failure Json :=
  match value with
  | .object fields =>
    match lookup fields key with
    | some value => .ok value
    | none => .error .missingKey
  | _ => .error .typeError

def getString : Json → Except Failure ByteArray
  | .string value => .ok value
  | _ => .error .typeError

def getBinary : Json → Except Failure ByteArray
  | .binary value => .ok value
  | _ => .error .typeError

def getBool : Json → Except Failure Bool
  | .boolean value => .ok value
  | _ => .error .typeError

/-- The conversion to `int`; that of a double is `truncate`. -/
def getInt (truncate : BitVec 64 → Int) : Json → Except Failure Int
  | .integer value => .ok (value.bmod (2 ^ 32))
  | .float bits => .ok (truncate bits)
  | .boolean value => .ok value.toInt
  | _ => .error .typeError

mutual

def isUtf8 : Json → Bool
  | .string value => value.validateUTF8
  | .array items => areUtf8 items
  | .object fields => haveUtf8 fields
  | _ => true

def areUtf8 : List Json → Bool
  | [] => true
  | item :: items => item.isUtf8 && areUtf8 items

def haveUtf8 : List (ByteArray × Json) → Bool
  | [] => true
  | (key, value) :: fields => key.validateUTF8 && value.isUtf8 && haveUtf8 fields

end

/-- The text of a value, which is given by the value itself. -/
def dump (value : Json) : Except Failure Json :=
  if value.isUtf8 then .ok value else .error .typeError

theorem toByteArray_beq (s t : String) : (s.toByteArray == t.toByteArray) = decide (s = t) := by
  have hData : (s.toByteArray == t.toByteArray) = (s.toByteArray.data == t.toByteArray.data) := rfl
  rw [hData, Bool.eq_iff_iff, beq_iff_eq, decide_eq_true_eq, ← String.toByteArray_inj,
    ByteArray.ext_iff]

theorem lookup_ofFields (fields : List (String × Json)) (key : String) :
    lookup (fields.map fun field => (field.1.toByteArray, field.2)) key =
      (fields.find? fun field => field.1 = key).map Prod.snd := by
  simp only [lookup, List.find?_map, Option.map_map, Function.comp_def, toByteArray_beq]

section Access

variable {value result : Json} {key : String}

theorem exists_lookup_of_index (h : value.index key = .ok result) (hResult : result ≠ .null) :
    ∃ fields, value = .object fields ∧ lookup fields key = some result := by
  cases value with
  | null => exact (hResult (Except.ok.inj h).symm).elim
  | object fields =>
    refine ⟨fields, rfl, ?_⟩
    cases hFound : lookup fields key with
    | none =>
      rw [index, hFound] at h
      exact (hResult (Except.ok.inj h).symm).elim
    | some found =>
      rw [index, hFound] at h
      exact congrArg some (Except.ok.inj h)
  | _ => cases h

theorem index_of_lookup {fields : List (ByteArray × Json)} (h : lookup fields key = some result) :
    (object fields).index key = .ok result := by
  rw [index, h]
  rfl

theorem constIndex_ok_iff : value.constIndex key = .ok result ↔
    ∃ fields, value = .object fields ∧ lookup fields key = some result := by
  cases value with
  | object fields => cases hFound : lookup fields key <;> simp [constIndex, hFound]
  | _ => simp [constIndex]

theorem getString_ok_iff {bytes : ByteArray} :
    value.getString = .ok bytes ↔ value = .string bytes := by
  cases value <;> simp [getString]

theorem getBinary_ok_iff {bytes : ByteArray} :
    value.getBinary = .ok bytes ↔ value = .binary bytes := by
  cases value <;> simp [getBinary]

theorem getBool_ok_iff {flag : Bool} : value.getBool = .ok flag ↔ value = .boolean flag := by
  cases value <;> simp [getBool]

theorem dump_ok_iff : value.dump = .ok result ↔ value.isUtf8 = true ∧ result = value := by
  unfold dump
  split
  · next hUtf8 =>
    rw [Except.ok.injEq, and_iff_right hUtf8]
    exact eq_comm
  · next hInvalid => exact ⟨nofun, fun hDumped => (hInvalid hDumped.1).elim⟩

end Access

end Json

theorem bind_ok_iff {α β : Type} {first : Except Failure α} {rest : α → Except Failure β} {b : β} :
    (first >>= rest) = .ok b ↔ ∃ a, first = .ok a ∧ rest a = .ok b := by
  cases first <;> simp [bind, Except.bind]

end SrcLink.Nlohmann
