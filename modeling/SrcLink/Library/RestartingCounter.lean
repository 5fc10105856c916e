import Mathlib.Algebra.BigOperators.Group.List.Basic
import Mathlib.Algebra.Order.Sub.Basic

/-! # A counter that restarts

A meter reads a running total from time to time. A total below the last one shows that
the counter has been restarted; the meter then restarts, too, and leaves what the counter
has reached by now to the next reading. Any other reading adds the span between the last
total and the new one.
-/

namespace SrcLink.RestartingCounter

set_option autoImplicit false

universe u

variable {α : Type u}

structure Span (α : Type u) where
  lower : α
  upper : α

def Span.Contains [Preorder α] (s : Span α) (x : α) : Prop := s.lower ≤ x ∧ x < s.upper

instance [LinearOrder α] (s : Span α) (x : α) : Decidable (s.Contains x) :=
  inferInstanceAs (Decidable (_ ∧ _))

/-- The last total, and the spans added since the last restart, newest first. -/
structure Meter (α : Type u) where
  last : α
  spans : List (Span α)

namespace Meter

section Read

variable [LinearOrder α] [Zero α]

def restarted : Meter α := ⟨0, []⟩

def read (m : Meter α) (total : α) : Meter α :=
  if total < m.last then restarted else ⟨total, ⟨m.last, total⟩ :: m.spans⟩

end Read

variable [LinearOrder α] [AddCommMonoid α] [Sub α] [CanonicallyOrderedAdd α]

structure Exact (m : Meter α) : Prop where
  rising : ∀ s ∈ m.spans, s.lower ≤ s.upper
  sum : (m.spans.map fun s => s.upper - s.lower).sum = m.last
  once : ∀ x, (m.spans.countP fun s => s.Contains x) = if x < m.last then 1 else 0

theorem exact_restarted : Exact (restarted : Meter α) where
  rising := List.forall_mem_nil _
  sum := rfl
  once _ := (if_neg (not_lt_of_ge zero_le)).symm

variable [OrderedSub α]

theorem Exact.read {m : Meter α} (h : Exact m) (total : α) : Exact (m.read total) := by
  unfold Meter.read
  split
  · exact exact_restarted
  · next hRestart =>
    have hLe := not_lt.mp hRestart
    refine ⟨List.forall_mem_cons.mpr ⟨hLe, h.rising⟩, ?_, fun x => ?_⟩
    · rw [List.map_cons, List.sum_cons, h.sum]
      exact tsub_add_cancel_of_le hLe
    · rw [List.countP_cons, h.once]
      -- a point below the last total is in an older span, and not in the new one
      by_cases hOld : x < m.last
      · simp [Span.Contains, hOld, hOld.trans_le hLe]
      · simp [Span.Contains, hOld, not_lt.mp hOld]

theorem exact_run (totals : List α) : Exact (totals.foldl Meter.read restarted) :=
  List.foldlRecOn totals Meter.read exact_restarted fun _ h total _ => h.read total

end Meter

end SrcLink.RestartingCounter
