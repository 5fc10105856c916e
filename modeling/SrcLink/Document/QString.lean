import Mathlib.Algebra.Ring.Int.Defs
import Mathlib.Data.List.Basic
import Mathlib.Data.List.TakeWhile

/-! # Text

The functions of `QString` that the program computes with. A string is taken as its
list of characters.
-/

namespace SrcLink.QString

set_option autoImplicit false

/-- `QChar::isSpace` -/
def isSpace (c : Char) : Bool :=
  c ∈ ['\t', '\n', '\x0b', '\x0c', '\r', ' ', '\u0085', '\u00a0', '\u1680', '\u2028', '\u2029',
    '\u202f', '\u205f', '\u3000'] || ('\u2000' ≤ c && c ≤ '\u200a')

def trimmed (text : List Char) : List Char :=
  ((text.dropWhile isSpace).reverse.dropWhile isSpace).reverse

def digits (text : List Char) : Option Int :=
  if text ≠ [] ∧ text.all Char.isDigit then some (Nat.ofDigitChars 10 text 0 : Nat) else none

def signed : List Char → Option Int
  | '-' :: text => (digits text).map fun value => -value
  | '+' :: text => digits text
  | text => digits text

/-- Anything that is no number in the range of `int` reads as zero. -/
def toInt (text : String) : Int32 :=
  match signed (trimmed text.toList) with
  | some value => if -2 ^ 31 ≤ value ∧ value < 2 ^ 31 then Int32.ofInt value else 0
  | none => 0

def number (value : Int32) : String := toString value.toInt

theorem isDigit_of_mem_toDigits {value : Nat} {c : Char} (h : c ∈ Nat.toDigits 10 value) :
    c.isDigit = true := Nat.isDigit_of_mem_toDigits (by decide) (by decide) h

theorem digits_toDigits (value : Nat) : digits (Nat.toDigits 10 value) = some (value : Int) := by
  have hDigits : (Nat.toDigits 10 value).all Char.isDigit = true :=
    List.all_eq_true.mpr fun c hc => isDigit_of_mem_toDigits hc
  rw [digits, if_pos ⟨Nat.toDigits_ne_nil, hDigits⟩, Nat.ofDigitChars_ten_toDigits]

theorem not_space_of_isDigit {c : Char} (h : c.isDigit = true) : isSpace c = false := by
  have hHigh : c ≤ '9' := by
    simp only [Char.isDigit, Bool.and_eq_true, decide_eq_true_eq] at h
    exact h.2
  have hLow : '0' ≤ c := by
    simp only [Char.isDigit, Bool.and_eq_true, decide_eq_true_eq] at h
    exact h.1
  rw [isSpace, Bool.or_eq_false_iff, decide_eq_false_iff_not, Bool.and_eq_false_iff]
  constructor
  · intro hMem
    simp only [List.mem_cons, List.not_mem_nil, or_false] at hMem
    rcases hMem with rfl | rfl | rfl | rfl | rfl | rfl | rfl | rfl | rfl | rfl | rfl | rfl | rfl |
      rfl
    all_goals first | exact absurd hLow (by decide) | exact absurd hHigh (by decide)
  · refine .inl (decide_eq_false fun hWide => ?_)
    have hNine : '\u2000' ≤ '9' := Char.le_trans hWide hHigh
    exact absurd hNine (by decide)

/-- Text that starts and ends with a visible character is kept. -/
theorem trimmed_eq {text : List Char} (hVisible : ∀ c ∈ text, isSpace c = false) :
    trimmed text = text := by
  have hKeep : ∀ t : List Char, (∀ c ∈ t, isSpace c = false) → t.dropWhile isSpace = t := by
    intro t hAll
    cases t with
    | nil => rfl
    | cons c t => rw [List.dropWhile_cons_of_neg (by simp [hAll c])]
  rw [trimmed, hKeep text hVisible,
    hKeep text.reverse fun c hc => hVisible c (List.mem_reverse.mp hc), List.reverse_reverse]

theorem signed_toDigits (value : Nat) :
    signed (Nat.toDigits 10 value) = some (value : Int) := by
  rw [← digits_toDigits, signed.eq_def]
  split
  · next text hMinus =>
    have hMem : '-' ∈ Nat.toDigits 10 value := hMinus ▸ List.mem_cons_self
    exact absurd (isDigit_of_mem_toDigits hMem) (by decide)
  · next text hPlus =>
    have hMem : '+' ∈ Nat.toDigits 10 value := hPlus ▸ List.mem_cons_self
    exact absurd (isDigit_of_mem_toDigits hMem) (by decide)
  · rfl

theorem signed_number (value : Int32) :
    signed (trimmed (number value).toList) = some value.toInt := by
  rw [number, Int.toString_eq_repr, Int.repr_eq_if]
  split
  · next hPos =>
    rw [Nat.toList_repr, trimmed_eq fun c hc => not_space_of_isDigit (isDigit_of_mem_toDigits hc),
      signed_toDigits, Int.toNat_of_nonneg hPos]
  · next hNeg =>
    have hList : ("-" ++ (-value.toInt).toNat.repr).toList =
        '-' :: Nat.toDigits 10 (-value.toInt).toNat := by
      rw [String.toList_append, Nat.toList_repr]
      rfl
    have hVisible : ∀ c ∈ '-' :: Nat.toDigits 10 (-value.toInt).toNat, isSpace c = false := by
      intro c hc
      rcases List.mem_cons.mp hc with rfl | hDigit
      · decide
      · exact not_space_of_isDigit (isDigit_of_mem_toDigits hDigit)
    rw [hList, trimmed_eq hVisible, signed, digits_toDigits, Option.map_some,
      Int.toNat_of_nonneg (by omega), Int.neg_neg]

theorem toInt_number (value : Int32) : toInt (number value) = value := by
  rw [toInt, signed_number]
  simp only [value.le_toInt, value.toInt_lt, and_self, if_true]
  exact Int32.ofInt_toInt value

/-- The C string of a text, which ends at the first U+0000. -/
def qUtf8Printable (text : String) : String := .ofList (text.toList.takeWhile (· ≠ '\x00'))

theorem nul_notMem_qUtf8Printable (text : String) : '\x00' ∉ (qUtf8Printable text).toList := by
  rw [qUtf8Printable, String.toList_ofList]
  intro hMem
  simpa using List.mem_takeWhile_imp hMem

theorem qUtf8Printable_eq_iff {text : String} :
    qUtf8Printable text = text ↔ '\x00' ∉ text.toList := by
  constructor
  · intro hKept
    exact hKept ▸ nul_notMem_qUtf8Printable text
  · intro hNone
    have hAll : text.toList.takeWhile (· ≠ '\x00') = text.toList :=
      List.takeWhile_eq_self_iff.mpr fun c hc =>
        decide_eq_true fun hNul : c = '\x00' => hNone (hNul ▸ hc)
    rw [qUtf8Printable, hAll, String.ofList_toList]

theorem nul_notMem_number (value : Int32) : '\x00' ∉ (number value).toList := by
  have hDigits : ∀ n : Nat, '\x00' ∉ Nat.toDigits 10 n := fun n hMem =>
    absurd (isDigit_of_mem_toDigits hMem) (by decide)
  rw [number, Int.toString_eq_repr, Int.repr_eq_if]
  split
  · rw [Nat.toList_repr]
    exact hDigits _
  · rw [String.toList_append, Nat.toList_repr, List.mem_append]
    rintro (hSign | hMem)
    · exact absurd hSign (by decide)
    · exact hDigits _ hMem

def lastIndexOf (text : String) (c : Char) : Option Nat :=
  if c ∈ text.toList then some (text.toList.length - 1 - text.toList.reverse.idxOf c) else none

def insert (text : String) (position : Nat) (inserted : String) : String :=
  .ofList (text.toList.take position ++ inserted.toList ++ text.toList.drop position)

section Positions

variable {text : String} {c : Char} {before after : List Char}

theorem lastIndexOf_of_append (hText : text.toList = before ++ c :: after) (hLast : c ∉ after) :
    lastIndexOf text c = some before.length := by
  have hIndex : text.toList.reverse.idxOf c = after.length := by
    rw [hText, List.reverse_append, List.reverse_cons, List.append_assoc,
      List.idxOf_append_of_notMem (by simpa using hLast), List.length_reverse]
    simp
  rw [lastIndexOf, if_pos (by simp [hText]), hIndex, hText, List.length_append, List.length_cons]
  exact congrArg some (by omega)

theorem append_of_lastIndexOf {index : Nat} (h : lastIndexOf text c = some index) :
    ∃ before after, text.toList = before ++ c :: after ∧ c ∉ after ∧ before.length = index := by
  rw [lastIndexOf] at h
  split at h
  · next hMem =>
    obtain ⟨after, before, hReverse, hLast⟩ :=
      List.eq_append_cons_of_mem (List.mem_reverse.mpr hMem)
    have hText : text.toList = before.reverse ++ c :: after.reverse := by
      rw [← List.reverse_reverse text.toList, hReverse, List.reverse_append, List.reverse_cons,
        List.append_assoc]
      rfl
    have hAfter : c ∉ after.reverse := fun hc => hLast (List.mem_reverse.mp hc)
    refine ⟨before.reverse, after.reverse, hText, hAfter, ?_⟩
    have hIndex := lastIndexOf_of_append hText hAfter
    rw [lastIndexOf, if_pos hMem] at hIndex
    exact Option.some.inj (hIndex.symm.trans h)
  · cases h

theorem insert_append (hText : text.toList = before ++ after) (inserted : String) :
    (insert text before.length inserted).toList = before ++ inserted.toList ++ after := by
  rw [insert, String.toList_ofList, hText, List.take_left, List.drop_left]

end Positions

/-- One or two digits, with their number. -/
def markerNumber : List Char → Option (Nat × Nat)
  | c :: d :: _ =>
    if !c.isDigit then none
    else if d.isDigit then some (Nat.ofDigitChars 10 [c, d] 0, 2)
    else some (Nat.ofDigitChars 10 [c] 0, 1)
  | [c] => if c.isDigit then some (Nat.ofDigitChars 10 [c] 0, 1) else none
  | [] => none

/-- The number of the marker behind a percent sign, and its length. -/
def marker : List Char → Option (Nat × Nat)
  | 'L' :: text => (markerNumber text).map fun found => (found.1, found.2 + 1)
  | text => markerNumber text

inductive Token where
  | char (c : Char)
  | marker (number : Nat) (text : List Char)

def Token.text : Token → List Char
  | char c => [c]
  | marker _ text => text

def Token.number? : Token → Option Nat
  | char _ => none
  | marker number _ => some number

/-- The tokens of a text, of which the first characters belong to the token before. -/
def tokens : List Char → Nat → List Token
  | [], _ => []
  | _ :: text, skip + 1 => tokens text skip
  | c :: text, 0 =>
    match (if c = '%' then marker text else none) with
    | some (number, length) => .marker number (c :: text.take length) :: tokens text length
    | none => .char c :: tokens text 0

def replaceMarker (number : Nat) (a : List Char) (token : Token) : List Char :=
  if token.number? = some number then a else token.text

/-- `QString::arg`, which replaces all markers with the lowest number. -/
def arg (text a : String) : String :=
  match ((tokens text.toList 0).filterMap Token.number?).min? with
  | some number =>
    .ofList ((tokens text.toList 0).flatMap (replaceMarker number a.toList))
  | none => text

section Markers

theorem tokens_append {front : List Char} (hFront : '%' ∉ front) (text : List Char) :
    tokens (front ++ text) 0 = front.map .char ++ tokens text 0 := by
  induction front with
  | nil => rfl
  | cons c front ih =>
    have hChar : c ≠ '%' := fun hSame => hFront (hSame ▸ List.mem_cons_self)
    rw [List.cons_append, tokens, if_neg hChar,
      ih fun hMem => hFront (List.mem_cons_of_mem c hMem)]
    rfl

theorem flatMap_text_tokens (text : List Char) (skip : Nat) :
    (tokens text skip).flatMap Token.text = text.drop skip := by
  induction text generalizing skip with
  | nil => rw [List.drop_nil]; rfl
  | cons c text ih =>
    cases skip with
    | succ skip => exact ih skip
    | zero =>
      rw [tokens]
      split
      · rw [List.flatMap_cons, ih]
        exact congrArg (c :: ·) (List.take_append_drop _ text)
      · rw [List.flatMap_cons, ih]
        rfl

theorem arg_append {front : String} (hFront : '%' ∉ front.toList) (text a : String) :
    arg (front ++ text) a = front ++ arg text a := by
  have hTokens := tokens_append hFront text.toList
  have hNumbers : (front.toList.map Token.char).filterMap Token.number? = [] := by
    simp [Token.number?]
  rw [arg, arg, String.toList_append, hTokens, List.filterMap_append, hNumbers, List.nil_append]
  split
  · next number _ =>
    have hKept : (front.toList.map Token.char).flatMap (replaceMarker number a.toList) =
        front.toList := by
      simp [List.flatMap_map, replaceMarker, Token.number?, Token.text]
    rw [List.flatMap_append, hKept, String.ofList_append, String.ofList_toList]
  · rfl

/-- The characters of a place marker. -/
def isMarkerChar (c : Char) : Bool := c = '%' || c = 'L' || c.isDigit

theorem isDigit_of_markerNumber {text : List Char} {found : Nat × Nat}
    (h : markerNumber text = some found) : ∀ c ∈ text.take found.2, c.isDigit = true := by
  unfold markerNumber at h
  split at h
  · next first second rest =>
    split at h
    · cases h
    · next hFirst =>
      have hFirst' : first.isDigit = true := by simpa using hFirst
      split at h
      · next hSecond =>
        obtain rfl := Option.some.inj h
        simp [hFirst', hSecond]
      · obtain rfl := Option.some.inj h
        simp [hFirst']
  · split at h
    · next hDigit =>
      obtain rfl := Option.some.inj h
      simp [hDigit]
    · cases h
  · cases h

theorem isMarkerChar_of_marker {text : List Char} {found : Nat × Nat}
    (h : marker text = some found) : ∀ c ∈ text.take found.2, isMarkerChar c = true := by
  have hDigits : ∀ {t : List Char} {number : Nat × Nat}, markerNumber t = some number →
      ∀ c ∈ t.take number.2, isMarkerChar c = true := by
    intro t number hNumber c hc
    simp [isMarkerChar, isDigit_of_markerNumber hNumber c hc]
  unfold marker at h
  split at h
  · obtain ⟨number, hNumber, rfl⟩ := Option.map_eq_some_iff.mp h
    intro c hc
    rcases List.mem_cons.mp hc with rfl | hRest
    · decide
    · exact hDigits hNumber c hRest
  · exact hDigits h

theorem isMarkerChar_of_mem_tokens {text : List Char} {skip number : Nat} {raw : List Char}
    (h : .marker number raw ∈ tokens text skip) : ∀ c ∈ raw, isMarkerChar c = true := by
  induction text generalizing skip with
  | nil => cases h
  | cons first text ih =>
    cases skip with
    | succ skip => exact ih h
    | zero =>
      rw [tokens] at h
      split at h
      · next hFound =>
        -- a marker starts here, or later in the text
        rcases List.mem_cons.mp h with hThis | hLater
        · obtain ⟨-, rfl⟩ := Token.marker.inj hThis
          split at hFound
          · next hPercent =>
            intro c hc
            rcases List.mem_cons.mp hc with rfl | hRest
            · rw [hPercent]
              rfl
            · exact isMarkerChar_of_marker hFound c hRest
          · cases hFound
        · exact ih hLater
      · rcases List.mem_cons.mp h with hThis | hLater
        · cases hThis
        · exact ih hLater

/-- What markers and the inserted text have none of stays as it is. -/
theorem filter_arg {p : Char → Bool} (hMarker : ∀ c, isMarkerChar c = true → p c = false)
    {a : String} (hInserted : ∀ c ∈ a.toList, p c = false) (text : String) :
    (arg text a).toList.filter p = text.toList.filter p := by
  rw [arg]
  split
  · next number _ =>
    have hAll : ∀ token ∈ tokens text.toList 0,
        (replaceMarker number a.toList token).filter p = token.text.filter p := by
      intro token hMem
      rw [replaceMarker]
      split
      · next hReplaced =>
        cases token with
        | char c => cases hReplaced
        | marker other raw =>
          -- neither the marker nor what takes its place passes the filter
          have hRaw := isMarkerChar_of_mem_tokens hMem
          rw [List.filter_eq_nil_iff.mpr fun c hc => by simp [hInserted c hc]]
          exact (List.filter_eq_nil_iff.mpr fun c hc => by simp [hMarker c (hRaw c hc)]).symm
      · rfl
    calc (String.ofList ((tokens text.toList 0).flatMap
          (replaceMarker number a.toList))).toList.filter p
      _ = (tokens text.toList 0).flatMap
            fun token => (replaceMarker number a.toList token).filter p := by
          rw [String.toList_ofList, List.filter_flatMap]
      _ = (tokens text.toList 0).flatMap fun token => token.text.filter p :=
          List.flatMap_congr hAll
      _ = text.toList.filter p := by
          rw [← List.filter_flatMap, flatMap_text_tokens]
          rfl
  · rfl

end Markers

end SrcLink.QString
