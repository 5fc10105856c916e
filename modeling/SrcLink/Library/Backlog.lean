import Mathlib.Data.List.Perm.Basic
import Mathlib.Data.Nat.Nth
import SrcLink.Library.StepSystem

/-! # Items that wait to be taken

Every event takes at most one of the waiting items, at any position, and new ones are put
at the end. If the oldest item is taken again and again, so is every other. Each item that is
taken was added before; where no event adds two items of a kind, items of this kind that are
taken at different instants were added at different ones.
-/

namespace SrcLink.Backlog

open StepSystem

set_option autoImplicit false

variable {σ ε α : Type*}

/-- The items that are left when the one at this position is taken. -/
def left (taken : Option Nat) (waiting : List α) : List α :=
  match taken with
  | none => waiting
  | some q => waiting.eraseIdx q

/-- An item that is not taken moves up past every older one that is. -/
theorem getElem?_left {taken : Option Nat} {waiting : List α} {p : Nat} {a : α}
    (hWaits : waiting[p]? = some a) (hOther : taken ≠ some p) :
    ∃ p' ≤ p, (left taken waiting)[p']? = some a ∧ ∀ q < p, taken = some q → p' < p := by
  cases taken with
  | none => exact ⟨p, le_rfl, hWaits, fun q _ hTaken => nomatch hTaken⟩
  | some q =>
    rcases Nat.lt_or_gt_of_ne fun hSame : q = p => hOther (congrArg some hSame) with hOlder | hNewer
    · refine ⟨p - 1, p.sub_le 1, ?_, fun _ _ _ => by omega⟩
      rw [left, List.getElem?_eraseIdx_of_ge (by omega), Nat.sub_add_cancel (by omega), hWaits]
    · refine ⟨p, le_rfl, ?_, fun r hr hTaken => ?_⟩
      · rw [left, List.getElem?_eraseIdx_of_lt hNewer, hWaits]
      · exact absurd (Option.some.inj hTaken) (by omega)

/-- Every step takes the item its event names and adds new ones. -/
def Backlogged (step : σ → ε → Option σ) (waiting : σ → List α) (takes : ε → Option Nat) : Prop :=
  ∀ s e s', step s e = some s' → ∃ new, waiting s' = left (takes e) (waiting s) ++ new

variable {step : σ → ε → Option σ} {waiting : σ → List α} {takes : ε → Option Nat}

/-- This item is taken at the instant `n`. -/
def TakenAt (x : Execution step) (waiting : σ → List α) (takes : ε → Option Nat) (a : α)
    (n : Nat) : Prop :=
  ∃ e q, x.event n = some e ∧ takes e = some q ∧ (waiting (x.state n))[q]? = some a

section Progress

variable {x : Execution step} {a : α} {n p : Nat}

theorem takenAt_or_waits (h : Backlogged step waiting takes)
    (hWaits : (waiting (x.state n))[p]? = some a) :
    TakenAt x waiting takes a n ∨ ∃ p' ≤ p, (waiting (x.state (n + 1)))[p']? = some a ∧
      ∀ e, x.event n = some e → ∀ q < p, takes e = some q → p' < p := by
  cases hEvent : x.event n with
  | none => exact .inr ⟨p, le_rfl, by rwa [x.next_of_none hEvent], fun e he => nomatch he⟩
  | some e =>
    by_cases hTaken : takes e = some p
    · exact .inl ⟨e, p, hEvent, hTaken, hWaits⟩
    · obtain ⟨new, hNext⟩ := h _ _ _ (x.next_of_event hEvent)
      obtain ⟨p', hLe, hLeft, hMoves⟩ := getElem?_left hWaits hTaken
      refine .inr ⟨p', hLe, ?_, ?_⟩
      · rw [hNext, List.getElem?_append_left (List.getElem?_eq_some_iff.mp hLeft).1, hLeft]
      · rintro _ ⟨⟩
        exact hMoves

/-- Until it is taken, an item never gets further back. -/
theorem waits_until (h : Backlogged step waiting takes) {m : Nat} (hnm : n ≤ m)
    (hWaits : (waiting (x.state n))[p]? = some a) :
    (∃ k, n ≤ k ∧ TakenAt x waiting takes a k) ∨
      ∃ p' ≤ p, (waiting (x.state m))[p']? = some a := by
  induction m, hnm using Nat.le_induction with
  | base => exact .inr ⟨p, le_rfl, hWaits⟩
  | succ m hnm ih =>
    rcases ih with hTaken | ⟨p', hLe, hStill⟩
    · exact .inl hTaken
    · rcases takenAt_or_waits h hStill with hNow | ⟨p'', hLe', hNext, -⟩
      · exact .inl ⟨m, hnm, hNow⟩
      · exact .inr ⟨p'', hLe'.trans hLe, hNext⟩

/-- If the oldest item is always taken in the end, every item is. -/
theorem eventually_taken (h : Backlogged step waiting takes)
    (hOldest : ∀ n, waiting (x.state n) ≠ [] →
      ∃ m, n ≤ m ∧ ∃ e, x.event m = some e ∧ takes e = some 0)
    (hWaits : (waiting (x.state n))[p]? = some a) : ∃ m, n ≤ m ∧ TakenAt x waiting takes a m := by
  -- an item that is not taken with the oldest one has moved up
  induction p using Nat.strong_induction_on generalizing n with
  | _ p ih =>
    have hSome := List.ne_nil_of_mem (List.mem_of_getElem? hWaits)
    obtain ⟨m, hnm, e, hEvent, hTakes⟩ := hOldest n hSome
    rcases waits_until h hnm hWaits with hDone | ⟨p', hLe, hStill⟩
    · exact hDone
    · rcases takenAt_or_waits h hStill with hNow | ⟨p'', hLe', hNext, hMoves⟩
      · exact ⟨m, hnm, hNow⟩
      · have hMoved : p'' < p' ∨ p' = 0 :=
          p'.eq_zero_or_pos.symm.imp_left fun hPos => hMoves e hEvent 0 hPos hTakes
        rcases hMoved with hMoved | rfl
        · obtain ⟨k, hmk, hTaken⟩ := ih p'' (hMoved.trans_le hLe) hNext
          exact ⟨k, by omega, hTaken⟩
        · exact ⟨m, hnm, e, 0, hEvent, hTakes, hStill⟩

end Progress

section Origins

variable {x : Execution step} {a b : α} {n : Nat}

/-- This item is added at the instant `n`. -/
def AddedAt (x : Execution step) (waiting : σ → List α) (takes : ε → Option Nat) (a : α)
    (n : Nat) : Prop :=
  ∃ e new, x.event n = some e ∧
    waiting (x.state (n + 1)) = left (takes e) (waiting (x.state n)) ++ new ∧ a ∈ new

/-- No event adds two items of this kind. -/
def AddsOne (x : Execution step) (waiting : σ → List α) (takes : ε → Option Nat)
    (kind : α → Bool) : Prop :=
  ∀ n e new, x.event n = some e →
    waiting (x.state (n + 1)) = left (takes e) (waiting (x.state n)) ++ new →
      (new.filter kind).length ≤ 1

theorem TakenAt.unique (ha : TakenAt x waiting takes a n) (hb : TakenAt x waiting takes b n) :
    a = b := by
  obtain ⟨e, q, hEvent, hTakes, ha⟩ := ha
  obtain ⟨e', q', hEvent', hTakes', hb⟩ := hb
  obtain rfl := Option.some.inj (hEvent.symm.trans hEvent')
  obtain rfl := Option.some.inj (hTakes.symm.trans hTakes')
  exact Option.some.inj (ha.symm.trans hb)

theorem AddedAt.unique {kind : α → Bool} (hOne : AddsOne x waiting takes kind)
    (hKind : kind a = true) (hKind' : kind b = true) (ha : AddedAt x waiting takes a n)
    (hb : AddedAt x waiting takes b n) : a = b := by
  obtain ⟨e, new, hEvent, hNext, ha⟩ := ha
  obtain ⟨e', new', hEvent', hNext', hb⟩ := hb
  obtain rfl := Option.some.inj (hEvent.symm.trans hEvent')
  obtain rfl := List.append_cancel_left (hNext.symm.trans hNext')
  obtain ⟨c, hc⟩ := List.length_eq_one_iff.mp
    ((hOne n e new hEvent hNext).antisymm
      (List.length_pos_of_mem (List.mem_filter.mpr ⟨ha, hKind⟩)))
  have hOnly {d : α} (hMem : d ∈ new) (hKind : kind d = true) : d = c :=
    List.mem_singleton.mp (hc ▸ List.mem_filter.mpr ⟨hMem, hKind⟩)
  exact (hOnly ha hKind).trans (hOnly hb hKind').symm

open scoped Classical in
theorem count_left (taken : Option Nat) (waiting : List α) (a : α) :
    (left taken waiting).count a +
      (if ∃ q, taken = some q ∧ waiting[q]? = some a then 1 else 0) = waiting.count a := by
  cases taken with
  | none => simp [left]
  | some q =>
    by_cases hq : q < waiting.length
    · rw [← (List.getElem_cons_eraseIdx_perm hq).count_eq a, List.count_cons]
      simp [left, hq]
    · simp [left, List.eraseIdx_of_length_le (Nat.le_of_not_lt hq), Nat.le_of_not_lt hq]

open scoped Classical in
/-- An item waits as often as it was added and has not been taken. -/
theorem count_takenAt (h : Backlogged step waiting takes) {kind : α → Bool}
    (hStart : ∀ a ∈ waiting (x.state 0), kind a = false)
    (hOne : AddsOne x waiting takes kind) (hKind : kind a = true) (n : Nat) :
    Nat.count (TakenAt x waiting takes a) n + (waiting (x.state n)).count a =
      Nat.count (AddedAt x waiting takes a) n := by
  induction n with
  | zero =>
    have hNone : a ∉ waiting (x.state 0) := fun hMem => by simp [hStart a hMem] at hKind
    simp [List.count_eq_zero.mpr hNone]
  | succ n ih =>
    rw [Nat.count_succ, Nat.count_succ, ← ih]
    cases hEvent : x.event n with
    | none => simp [TakenAt, AddedAt, hEvent, x.next_of_none hEvent]
    | some e =>
      obtain ⟨new, hNext⟩ := h _ _ _ (x.next_of_event hEvent)
      have hTaken : TakenAt x waiting takes a n ↔
          ∃ q, takes e = some q ∧ (waiting (x.state n))[q]? = some a := by
        simp [TakenAt, hEvent]
      have hAdded : AddedAt x waiting takes a n ↔ a ∈ new := by
        simp [AddedAt, hEvent, hNext]
      have hNew : new.count a = if a ∈ new then 1 else 0 := by
        have hLe : new.count a ≤ 1 := by
          rw [← List.count_filter hKind]
          exact List.count_le_length.trans (hOne n e new hEvent hNext)
        split
        · next hMem => exact hLe.antisymm (List.count_pos_iff.mpr hMem)
        · next hNone => exact List.count_eq_zero.mpr hNone
      have hLeft := count_left (takes e) (waiting (x.state n)) a
      simp only [hTaken, hAdded, hNext, List.count_append, hNew]
      omega

/-- Each item of the kind has been added at an instant of its own before it is taken. -/
theorem exists_origin (h : Backlogged step waiting takes) {kind : α → Bool}
    (hStart : ∀ a ∈ waiting (x.state 0), kind a = false)
    (hOne : AddsOne x waiting takes kind) :
    ∃ origin : Nat → Nat,
      Set.InjOn origin {n | ∃ a, kind a = true ∧ TakenAt x waiting takes a n} ∧
      ∀ n a, kind a = true → TakenAt x waiting takes a n →
        origin n < n ∧ AddedAt x waiting takes a (origin n) := by
  classical
  -- the items that are equal are taken in the order in which they were added
  have hEarlier (n : Nat) : ∃ m, ∀ a, kind a = true → TakenAt x waiting takes a n →
      m < n ∧ AddedAt x waiting takes a m ∧
        Nat.count (AddedAt x waiting takes a) m = Nat.count (TakenAt x waiting takes a) n := by
    by_cases hTaken : ∃ a, kind a = true ∧ TakenAt x waiting takes a n
    · obtain ⟨a, hKind, hTaken⟩ := hTaken
      obtain ⟨e, q, -, -, hWaits⟩ := id hTaken
      have hCount := count_takenAt h hStart hOne hKind n
      have hPos := List.count_pos_iff.mpr (List.mem_of_getElem? hWaits)
      have hLt : Nat.count (TakenAt x waiting takes a) n <
          Nat.count (AddedAt x waiting takes a) n := by omega
      refine ⟨Nat.nth (AddedAt x waiting takes a) (Nat.count (TakenAt x waiting takes a) n), ?_⟩
      intro b _ hTaken'
      obtain rfl := hTaken.unique hTaken'
      have hCard := fun hFinite => hLt.trans_le (Nat.count_le_card hFinite n)
      exact ⟨Nat.nth_lt_of_lt_count hLt, Nat.nth_mem _ hCard, Nat.count_nth hCard⟩
    · exact ⟨0, fun a hKind hTaken' => absurd ⟨a, hKind, hTaken'⟩ hTaken⟩
  choose origin hOrigin using hEarlier
  refine ⟨origin, ?_, fun n a hKind hTaken => ?_⟩
  · rintro n ⟨a, hKind, hTaken⟩ m ⟨b, hKind', hTaken'⟩ hSame
    obtain ⟨-, hAdded, hCount⟩ := hOrigin n a hKind hTaken
    obtain ⟨-, hAdded', hCount'⟩ := hOrigin m b hKind' hTaken'
    obtain rfl := AddedAt.unique hOne hKind hKind' hAdded (hSame ▸ hAdded')
    exact Nat.count_injective hTaken hTaken' (by rw [← hCount, ← hCount', hSame])
  · obtain ⟨hLt, hAdded, -⟩ := hOrigin n a hKind hTaken
    exact ⟨hLt, hAdded⟩

end Origins

end SrcLink.Backlog
