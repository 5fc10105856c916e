import SrcLink.Document.QString
import SrcLink.Library.FirstFree

/-! # Finding a name for a recording

A recording that would overwrite a file gets a number before its extension. The loop
that looks for the number has no bound of its own; the names it tries are all
different, so it ends behind the existing ones.
-/

namespace SrcLink.RecordingFilename

open QString FirstFree

set_option autoImplicit false

def numStr (noSpace : Bool) (num : ℕ) : String :=
  if noSpace then "_" ++ Nat.repr num else " (" ++ Nat.repr num ++ ")"

def testPath (strPath : String) (dotPos : ℕ) (noSpace : Bool) (num : ℕ) : String :=
  insert strPath dotPos (numStr noSpace num)

def findFreePath (existing : Finset String) (testPath : ℕ → String) : ℕ → ℕ → Option String
  | 0, _ => none
  | fuel + 1, num =>
    if testPath num ∈ existing then findFreePath existing testPath fuel (num + 1)
    else some (testPath num)

/-- None if the loop has not ended after `fuel` rounds. -/
def findBestFilename (existing : Finset String) (fuel : ℕ) (strPath : String) (noSpace : Bool) :
    Option String :=
  if strPath ∉ existing then some strPath
  else
    match lastIndexOf strPath '.' with
    | some dotPos => findFreePath existing (testPath strPath dotPos noSpace) fuel 2
    -- nothing is inserted at the position -1, so the loop tries the existing path for ever
    | none => none

/-- Up to the last slash. -/
def directory (path : String) : List Char := (path.toList.reverse.dropWhile (· ≠ '/')).reverse

/-- Behind the last dot. -/
def extension (path : String) : List Char := (path.toList.reverse.takeWhile (· ≠ '.')).reverse

structure IsBestFilename (existing : Finset String) (strPath : String) (dotPos : ℕ)
    (noSpace : Bool) (result : String) : Prop where
  kept : strPath ∉ existing → result = strPath
  /-- an `int` holds the number unless there are `2 ^ 31 - 2` files -/
  numbered : strPath ∈ existing → ∃ num, num ≤ 2 + existing.card ∧
    IsFirstFree existing (testPath strPath dotPos noSpace) 2 num ∧
    result = testPath strPath dotPos noSpace num
  free : result ∉ existing
  directory : directory result = directory strPath
  extension : extension result = extension strPath

theorem findFreePath_eq (existing : Finset String) (testPath : ℕ → String) (fuel num : ℕ) :
    findFreePath existing testPath fuel num =
      (search existing testPath fuel num).map testPath := by
  induction fuel generalizing num with
  | zero => rfl
  | succ fuel ih =>
    rw [findFreePath, search]
    split
    · exact ih (num + 1)
    · rfl

section Paths

variable {path : String} {before after : List Char}

theorem directory_append (hPath : path.toList = before ++ after) (hAfter : '/' ∉ after) :
    directory path = (before.reverse.dropWhile (· ≠ '/')).reverse := by
  rw [directory, hPath, List.reverse_append, List.dropWhile_append_of_pos]
  intro c hc
  rw [decide_eq_true_eq]
  rintro rfl
  exact hAfter (List.mem_reverse.mp hc)

theorem extension_append (hPath : path.toList = before ++ '.' :: after) (hAfter : '.' ∉ after) :
    extension path = after := by
  rw [extension, hPath, List.reverse_append, List.reverse_cons, List.append_assoc,
    List.takeWhile_append_of_pos]
  · simp
  · intro c hc
    rw [decide_eq_true_eq]
    rintro rfl
    exact hAfter (List.mem_reverse.mp hc)

/-- Behind a dot that lies behind the last slash there is no slash. -/
theorem slash_notMem_of_lastIndexOf (hPath : path.toList = before ++ '.' :: after)
    (hSlash : ∀ slash, lastIndexOf path '/' = some slash → slash < before.length) :
    '/' ∉ after := by
  intro hMem
  have hLast : lastIndexOf path '/' = some _ :=
    if_pos (hPath ▸ List.mem_append_right before (List.mem_cons_of_mem '.' hMem))
  obtain ⟨front, rest, hSplit, hRest, hLength⟩ := append_of_lastIndexOf hLast
  have hBefore := hSlash _ hLast
  have hAfter : after = (front ++ '/' :: rest).drop (before.length + 1) := by
    rw [← hSplit, hPath]
    simp
  have hDrop : after = rest.drop (before.length - front.length) := by
    rw [hAfter, List.drop_append, List.drop_of_length_le (by omega), List.nil_append]
    have hShift : before.length + 1 - front.length = (before.length - front.length) + 1 := by omega
    rw [hShift]
    rfl
  exact hRest (List.mem_of_mem_drop (hDrop ▸ hMem))

end Paths

section Numbers

variable {strPath : String} {dotPos : ℕ} {noSpace : Bool} {before after : List Char}

theorem toList_numStr (noSpace : Bool) (num : ℕ) :
    (numStr noSpace num).toList =
      if noSpace then '_' :: Nat.toDigits 10 num
      else ' ' :: '(' :: (Nat.toDigits 10 num ++ [')']) := by
  rw [numStr]
  split
  · rw [String.toList_append, Nat.toList_repr]
    rfl
  · rw [String.toList_append, String.toList_append, Nat.toList_repr]
    rfl

theorem numStr_injective : Function.Injective (numStr noSpace) := by
  intro m n hSame
  have hList := congrArg String.toList hSame
  rw [toList_numStr, toList_numStr] at hList
  have hDigits : Nat.toDigits 10 m = Nat.toDigits 10 n := by
    cases noSpace with
    | true => exact List.tail_eq_of_cons_eq hList
    | false =>
      have hTail := List.tail_eq_of_cons_eq (List.tail_eq_of_cons_eq hList)
      exact List.append_cancel_right hTail
  calc
    m = Nat.ofDigitChars 10 (Nat.toDigits 10 m) 0 := Nat.ofDigitChars_ten_toDigits.symm
    _ = Nat.ofDigitChars 10 (Nat.toDigits 10 n) 0 := by rw [hDigits]
    _ = n := Nat.ofDigitChars_ten_toDigits

theorem notMem_numStr {c : Char} (hDigit : c.isDigit = false) (hMarks : c ∉ ['_', ' ', '(', ')'])
    (num : ℕ) : c ∉ (numStr noSpace num).toList := by
  have hOther : c ∉ Nat.toDigits 10 num := by
    intro hMem
    rw [isDigit_of_mem_toDigits hMem] at hDigit
    cases hDigit
  rw [toList_numStr]
  simp only [List.mem_cons, List.not_mem_nil, or_false, not_or] at hMarks
  obtain ⟨hUnderscore, hSpace, hOpen, hClose⟩ := hMarks
  cases noSpace with
  | true => simp [hUnderscore, hOther]
  | false => simp [hSpace, hOpen, hClose, hOther]

theorem toList_testPath (hPath : strPath.toList = before ++ after) (noSpace : Bool) (num : ℕ) :
    (testPath strPath before.length noSpace num).toList =
      before ++ (numStr noSpace num).toList ++ after :=
  insert_append hPath (numStr noSpace num)

theorem testPath_injective (hPath : strPath.toList = before ++ after) :
    Function.Injective (testPath strPath before.length noSpace) := by
  intro m n hSame
  have hList := congrArg String.toList hSame
  rw [toList_testPath hPath, toList_testPath hPath, List.append_assoc, List.append_assoc] at hList
  have hNumbers := List.append_cancel_right (List.append_cancel_left hList)
  exact numStr_injective (String.toList_inj.mp hNumbers)

theorem directory_testPath (hPath : strPath.toList = before ++ '.' :: after)
    (hAfter : '/' ∉ after) (num : ℕ) :
    directory (testPath strPath before.length noSpace num) = directory strPath := by
  have hRest : '/' ∉ (numStr noSpace num).toList ++ '.' :: after := by
    intro hMem
    rcases List.mem_append.mp hMem with hNumber | hExtension
    · exact notMem_numStr (by decide) (by decide) num hNumber
    · rcases List.mem_cons.mp hExtension with hDot | hName
      · exact absurd hDot (by decide)
      · exact hAfter hName
  have hPathRest : '/' ∉ '.' :: after := fun hMem => hRest (List.mem_append_right _ hMem)
  rw [directory_append (toList_testPath hPath noSpace num |>.trans (List.append_assoc ..)) hRest,
    directory_append hPath hPathRest]

theorem extension_testPath (hPath : strPath.toList = before ++ '.' :: after)
    (hAfter : '.' ∉ after) (num : ℕ) :
    extension (testPath strPath before.length noSpace num) = extension strPath := by
  rw [extension_append (toList_testPath hPath noSpace num) hAfter, extension_append hPath hAfter]

end Numbers

/-- The path itself is taken if no file has it, else the first number from 2 on that gives the
path of no file; the loop ends however many rounds it is given beyond the number of files. -/
theorem findBestFilename_spec (existing : Finset String) (noSpace : Bool) {strPath : String}
    {dotPos : ℕ} (hDot : lastIndexOf strPath '.' = some dotPos)
    (hDirectory : ∀ slash, lastIndexOf strPath '/' = some slash → slash < dotPos) :
    ∃ result, IsBestFilename existing strPath dotPos noSpace result ∧
      ∀ fuel, existing.card < fuel →
        findBestFilename existing fuel strPath noSpace = some result := by
  obtain ⟨before, after, hPath, hExtension, rfl⟩ := append_of_lastIndexOf hDot
  have hSlash := slash_notMem_of_lastIndexOf hPath hDirectory
  by_cases hExists : strPath ∈ existing
  · have hInjective : Function.Injective (testPath strPath before.length noSpace) :=
      testPath_injective hPath
    obtain ⟨num, hSearch⟩ := exists_search hInjective existing.card.lt_succ_self 2
    have hFirst := isFirstFree_of_search hSearch
    refine ⟨testPath strPath before.length noSpace num, ⟨absurd hExists,
      fun _ => ⟨num, hFirst.le_card hInjective, hFirst, rfl⟩, hFirst.free,
      directory_testPath hPath hSlash num, extension_testPath hPath hExtension num⟩, ?_⟩
    intro fuel hFuel
    obtain ⟨num', hSearch'⟩ := exists_search hInjective hFuel 2
    obtain rfl := hFirst.unique (isFirstFree_of_search hSearch')
    rw [findBestFilename, if_neg (not_not.mpr hExists), hDot]
    exact (findFreePath_eq existing _ fuel 2).trans (congrArg (Option.map _) hSearch')
  · refine ⟨strPath, ⟨fun _ => rfl, fun hMem => absurd hMem hExists, hExists, rfl, rfl⟩, ?_⟩
    intro fuel _
    exact if_pos hExists

def recordings : Finset String := {"/v/a.mp4", "/v/a (2).mp4"}

theorem findBestFilename_spec_third :
    ∃ result, IsBestFilename recordings "/v/a.mp4" 4 false result ∧
      ∀ fuel, recordings.card < fuel →
        findBestFilename recordings fuel "/v/a.mp4" false = some result := by
  have hSlash : lastIndexOf "/v/a.mp4" '/' = some 2 := by decide +kernel
  apply findBestFilename_spec recordings false (by decide +kernel)
  intro slash hLast
  obtain rfl := Option.some.inj (hSlash.symm.trans hLast)
  decide

end SrcLink.RecordingFilename
