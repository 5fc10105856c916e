import Mathlib.Data.List.Basic
import Mathlib.Tactic.Ring

/-! # Little-endian words in byte lists

Fixed-width numbers, records made of them, and arrays of them, laid out in
memory byte by byte. A reader that names the widths gets the numbers back,
whatever follows them.
-/

namespace SrcLink.ByteLayout

set_option autoImplicit false

/-- The `width` low bytes of `n`, least significant first. -/
def encode : Nat → Nat → List UInt8
  | 0, _ => []
  | width + 1, n => UInt8.ofNat n :: encode width (n / 256)

def decode (bytes : List UInt8) : Nat := bytes.foldr (fun b n => b.toNat + 256 * n) 0

@[simp] theorem length_encode (width n : Nat) : (encode width n).length = width := by
  induction width generalizing n with
  | zero => rfl
  | succ width ih => rw [encode, List.length_cons, ih]

theorem decode_encode {width n : Nat} (h : n < 256 ^ width) : decode (encode width n) = n := by
  induction width generalizing n with
  | zero =>
    have hZero : n = 0 := by simpa using h
    rw [hZero]
    rfl
  | succ width ih =>
    have hRest : n / 256 < 256 ^ width := Nat.div_lt_of_lt_mul (by rwa [pow_succ'] at h)
    calc decode (encode (width + 1) n)
        = (UInt8.ofNat n).toNat + 256 * decode (encode width (n / 256)) := rfl
      _ = n % 256 + 256 * (n / 256) := by rw [ih hRest, UInt8.toNat_ofNat']
      _ = n := Nat.mod_add_div n 256

section Records

/-- A record given by its fields, each a width and a value. -/
def encodeFields (fields : List (Nat × Nat)) : List UInt8 :=
  fields.flatMap fun field => encode field.1 field.2

def decodeFields : List Nat → List UInt8 → List Nat
  | [], _ => []
  | width :: widths, bytes => decode (bytes.take width) :: decodeFields widths (bytes.drop width)

@[simp] theorem length_encodeFields (fields : List (Nat × Nat)) :
    (encodeFields fields).length = (fields.map Prod.fst).sum := by
  simp [encodeFields, List.length_flatMap]

theorem decodeFields_encodeFields {fields : List (Nat × Nat)}
    (hFits : ∀ field ∈ fields, field.2 < 256 ^ field.1) (rest : List UInt8) :
    decodeFields (fields.map Prod.fst) (encodeFields fields ++ rest) = fields.map Prod.snd := by
  induction fields with
  | nil => rfl
  | cons field fields ih =>
    obtain ⟨width, n⟩ := field
    have hHead : n < 256 ^ width := hFits _ List.mem_cons_self
    have hTail := ih fun field hField => hFits field (List.mem_cons_of_mem _ hField)
    have hSplit : encodeFields ((width, n) :: fields) ++ rest =
        encode width n ++ (encodeFields fields ++ rest) := by
      simp [encodeFields, List.append_assoc]
    rw [hSplit, List.map_cons, List.map_cons, decodeFields,
      List.take_left' (length_encode width n), List.drop_left' (length_encode width n), hTail,
      decode_encode hHead]

end Records

section Arrays

variable (width : Nat)

def encodeWords (words : List Nat) : List UInt8 := words.flatMap (encode width)

/-- The word at a byte position, if it lies within the bytes. -/
def wordAt (bytes : List UInt8) (position : Nat) : Option Nat :=
  if position + width ≤ bytes.length then some (decode ((bytes.drop position).take width)) else none

@[simp] theorem length_encodeWords (words : List Nat) :
    (encodeWords width words).length = words.length * width := by
  simp [encodeWords, List.length_flatMap]

/-- A word of an array is found at its index, scaled by the width. -/
theorem wordAt_encodeWords {before after : List UInt8} {words : List Nat} {k : Nat}
    (hk : k < words.length) (hFits : words[k] < 256 ^ width) :
    wordAt width (before ++ encodeWords width words ++ after) (before.length + width * k) =
      some words[k] := by
  have hSplit : before ++ encodeWords width words ++ after =
      (before ++ encodeWords width (words.take k)) ++
        (encode width words[k] ++ (encodeWords width (words.drop (k + 1)) ++ after)) := by
    conv_lhs => rw [← List.take_append_drop k words, List.drop_eq_getElem_cons hk]
    simp only [encodeWords, List.flatMap_append, List.flatMap_cons, List.append_assoc]
  have hPosition : before.length + width * k =
      (before ++ encodeWords width (words.take k)).length := by
    rw [List.length_append, length_encodeWords, List.length_take_of_le hk.le, Nat.mul_comm]
  rw [hSplit, hPosition, wordAt, if_pos (by simp; omega), List.drop_left,
    List.take_left' (length_encode _ _), decode_encode hFits]

end Arrays

theorem mapM_of_forall {α β : Type*} {f : α → Option β} {g : α → β} {l : List α}
    (h : ∀ a ∈ l, f a = some (g a)) : l.mapM f = some (l.map g) := by
  induction l with
  | nil => rfl
  | cons a l ih =>
    rw [List.mapM_cons, h a List.mem_cons_self, ih fun b hb => h b (List.mem_cons_of_mem _ hb)]
    rfl

end SrcLink.ByteLayout
