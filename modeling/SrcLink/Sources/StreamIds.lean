import Mathlib.Data.List.Basic
import SrcLink.Sources.DownlinkRevisions

/-! # Stream IDs

The stream ID of a downlink is a generated password. `generatePassword` draws as many
characters as the password is to have and drops those that are excluded, so that every
such draw makes the password one character shorter.
-/

namespace SrcLink.IngressLinkSource

open Json Schema

set_option autoImplicit false

/-- A `QString` is indexed by its UTF-16 code units. -/
abbrev QChar := UInt16

/-- The code units of an ASCII text. -/
def ofAscii (text : String) : List QChar := text.toList.map fun c => .ofNat c.toNat

def toAscii (units : List QChar) : String := .ofList (units.map fun c => .ofNat c.toNat)

def passwordChars (symbol : List QChar) : List QChar :=
  ofAscii "abcdefghijklmnopqrstuvwxyzABCDEFGHIJKLMNOPQRSTUVWXYZ1234567890" ++ symbol

section Generator

variable (length : Int) (symbol exclude : List QChar)
  (bounded : ℕ → Fin (passwordChars symbol).length)

/-- The character of a round; `bounded` are the answers of the random generator. -/
def drawn (i : ℕ) : QChar := (passwordChars symbol).get (bounded i)

/-- The body of the loop. -/
def appendDrawn (password : List QChar) (i : ℕ) : List QChar :=
  let c := drawn symbol bounded i
  if exclude.contains c then password else password ++ [c]

def generatePassword : List QChar :=
  (List.range length.toNat).foldl (appendDrawn symbol exclude bounded) []

end Generator

structure IsPassword (length : ℕ) (symbol exclude password : List QChar) : Prop where
  length : password.length = length
  chars : ∀ c ∈ password, c ∈ passwordChars symbol
  notExcluded : ∀ c ∈ password, c ∉ exclude

section Password

variable {symbol exclude : List QChar} {bounded : ℕ → Fin (passwordChars symbol).length}

theorem foldl_appendDrawn (rounds : List ℕ) (password : List QChar) :
    rounds.foldl (appendDrawn symbol exclude bounded) password =
      password ++ (rounds.map (drawn symbol bounded)).filter fun c => !exclude.contains c := by
  induction rounds generalizing password with
  | nil => simp
  | cons i rounds ih =>
    rw [List.foldl_cons, List.map_cons, List.filter_cons, ih, appendDrawn]
    cases exclude.contains (drawn symbol bounded i) with
    | true => rfl
    | false => exact List.append_assoc ..

theorem generatePassword_eq (length : Int) :
    generatePassword length symbol exclude bounded =
      ((List.range length.toNat).map (drawn symbol bounded)).filter
        fun c => !exclude.contains c := foldl_appendDrawn _ []

theorem mem_generatePassword {length : Int} {c : QChar}
    (h : c ∈ generatePassword length symbol exclude bounded) :
    c ∈ passwordChars symbol ∧ c ∉ exclude := by
  rw [generatePassword_eq, List.mem_filter, List.mem_map] at h
  obtain ⟨⟨i, -, rfl⟩, hAllowed⟩ := h
  exact ⟨List.get_mem _ _, by simpa using hAllowed⟩

/-- What the password lacks in length are the excluded draws. -/
theorem length_generatePassword (length : ℕ) (symbol exclude : List QChar)
    (bounded : ℕ → Fin (passwordChars symbol).length) :
    (generatePassword length symbol exclude bounded).length +
        ((List.range length).filter fun i => exclude.contains (drawn symbol bounded i)).length =
      length := by
  have hDraws := List.length_eq_length_filter_add (l := List.range length)
    fun i => exclude.contains (drawn symbol bounded i)
  rw [List.length_range] at hDraws
  rw [generatePassword_eq, List.filter_map, List.length_map, Int.toNat_natCast, Nat.add_comm]
  exact hDraws.symm

theorem length_generatePassword_iff (length : ℕ) (symbol exclude : List QChar)
    (bounded : ℕ → Fin (passwordChars symbol).length) :
    (generatePassword length symbol exclude bounded).length = length ↔
      ∀ i < length, drawn symbol bounded i ∉ exclude := by
  have hDraws := length_generatePassword length symbol exclude bounded
  calc (generatePassword length symbol exclude bounded).length = length
    _ ↔ ((List.range length).filter fun i =>
          exclude.contains (drawn symbol bounded i)).length = 0 := by omega
    _ ↔ ∀ i < length, drawn symbol bounded i ∉ exclude := by
      simp [List.filter_eq_nil_iff]

theorem generatePassword_iff (length : ℕ) (symbol exclude : List QChar)
    (bounded : ℕ → Fin (passwordChars symbol).length) :
    IsPassword length symbol exclude (generatePassword length symbol exclude bounded) ↔
      ∀ i < length, (passwordChars symbol).get (bounded i) ∉ exclude := by
  constructor
  · intro h
    exact (length_generatePassword_iff ..).mp h.length
  · intro hAllowed
    exact ⟨(length_generatePassword_iff ..).mpr hAllowed, fun c hc => (mem_generatePassword hc).1,
      fun c hc => (mem_generatePassword hc).2⟩

/-- The first of the 32 draws is the excluded letter `l`. -/
theorem excludedDraw_not_isPassword :
    ¬∀ (length : ℕ) (symbol exclude : List QChar), (∃ c ∈ passwordChars symbol, c ∉ exclude) →
      ∀ bounded, IsPassword length symbol exclude
        (generatePassword length symbol exclude bounded) := by
  intro hAll
  have hAllowed : ∃ c ∈ passwordChars [], c ∉ ofAscii "lIO" := ⟨97, by decide, by decide⟩
  have hLength := (hAll 32 [] (ofAscii "lIO") hAllowed
    fun i => if i = 0 then ⟨11, by decide⟩ else ⟨0, by decide⟩).length
  exact absurd hLength (by decide)

end Password

/-- `generatePassword(32, "")` -/
def newStreamId (bounded : ℕ → Fin (passwordChars []).length) : String :=
  toAscii (generatePassword 32 [] (ofAscii "lIO") bounded)

def Capture.generated (c : Capture) (bounded : ℕ → Fin (passwordChars []).length) : Capture :=
  { c with streamId := newStreamId bounded }

/-- The indices of `l`, `I` and `O`. -/
def excludedIndices : List ℕ := [11, 34, 40]

theorem excluded_iff (index : Fin (passwordChars []).length) :
    (passwordChars []).get index ∈ ofAscii "lIO" ↔ (index : ℕ) ∈ excludedIndices := by
  revert index
  decide

section StreamId

variable (bounded : ℕ → Fin (passwordChars []).length)

theorem drawn_excluded_iff (i : ℕ) :
    drawn [] bounded i ∈ ofAscii "lIO" ↔ (bounded i : ℕ) ∈ excludedIndices :=
  excluded_iff (bounded i)

theorem length_newStreamId_iff :
    (newStreamId bounded).length = 32 ↔ ∀ i < 32, (bounded i : ℕ) ∉ excludedIndices := by
  rw [newStreamId, toAscii, String.length_ofList, List.length_map]
  refine (length_generatePassword_iff 32 [] (ofAscii "lIO") bounded).trans ?_
  simp only [drawn_excluded_iff]

theorem newStreamId_eq_empty_iff :
    newStreamId bounded = "" ↔ ∀ i < 32, (bounded i : ℕ) ∈ excludedIndices := by
  rw [newStreamId, toAscii, String.ofList_eq_empty_iff, List.map_eq_nil_iff, generatePassword_eq,
    List.filter_eq_nil_iff]
  simp [drawn_excluded_iff]

theorem getStreamId_captureSettings (ports : Ports) (c : Capture) (s : Source) :
    DownlinkRequestBody.getStreamId (s.captureSettings ports c).1.connRequest = c.streamId := by
  rw [DownlinkRequestBody.getStreamId, value_captureSettings (by decide),
    DownlinkRequestBody.setRevision, QJsonObject.value_insert_of_ne _ _ (by decide),
    streamId_newRequest]
  rfl

theorem length_captured_streamId_iff (ports : Ports) (c : Capture) (s : Source) :
    (DownlinkRequestBody.getStreamId
        (s.captureSettings ports (c.generated bounded)).1.connRequest).length = 32 ↔
      ∀ i < 32, (bounded i : ℕ) ∉ excludedIndices := by
  rw [getStreamId_captureSettings]
  exact length_newStreamId_iff bounded

/-- A single draw that is not excluded is enough for the first revision. -/
theorem constructed_generated {i : ℕ} (hRound : i < 32)
    (hAllowed : (bounded i : ℕ) ∉ excludedIndices) (uuid : String) (ports : Ports) (c : Capture) :
    Constructed (Source.construct uuid ports (c.generated bounded)).1 := by
  refine ⟨uuid, ports, c.generated bounded, fun hEmpty => ?_, rfl⟩
  exact hAllowed ((newStreamId_eq_empty_iff bounded).mp hEmpty i hRound)

end StreamId

end SrcLink.IngressLinkSource
