import Mathlib.Algebra.Ring.Nat
import Mathlib.Data.List.Perm.Basic
import Mathlib.Order.Nat

/-! # Re-blocking a stream

A producer pushes chunks of any length, a consumer takes blocks of a fixed
length. The queue holds whole chunks of which only the first may be partly
consumed; seen from outside it is one stream of elements, of which each one is
delivered, discarded by an overflow, or still pending.
-/

namespace SrcLink.Reblocking

set_option autoImplicit false

universe u v

variable {α : Type u} {γ : Type v}

/-- A chunk of which the first `offset` elements are gone. -/
structure Cut (γ : Type v) where
  chunk : γ
  offset : Nat

section Queue

variable (contents : γ → List α)

def Cut.rest (c : Cut γ) : List α := (contents c.chunk).drop c.offset

def flatten (queue : List (Cut γ)) : List α := queue.flatMap (Cut.rest contents)

/-- Take `n` elements off the front: the chunks touched, and the queue that is left. -/
def consume : Nat → List (Cut γ) → List γ × List (Cut γ)
  | _, [] => ([], [])
  | n, c :: queue =>
    if n = 0 then ([], c :: queue)
    else if (c.rest contents).length ≤ n then
      (c.chunk :: (consume (n - (c.rest contents).length) queue).1,
        (consume (n - (c.rest contents).length) queue).2)
    else ([c.chunk], { c with offset := c.offset + n } :: queue)

@[simp] theorem flatten_nil : flatten contents [] = [] := rfl

@[simp] theorem flatten_cons (c : Cut γ) (queue : List (Cut γ)) :
    flatten contents (c :: queue) = c.rest contents ++ flatten contents queue := rfl

@[simp] theorem flatten_append (queue queue' : List (Cut γ)) :
    flatten contents (queue ++ queue') = flatten contents queue ++ flatten contents queue' :=
  List.flatMap_append

theorem length_flatten (queue : List (Cut γ)) :
    (flatten contents queue).length = (queue.map fun c => (c.rest contents).length).sum :=
  List.length_flatMap

@[simp] theorem consume_zero (queue : List (Cut γ)) : consume contents 0 queue = ([], queue) := by
  cases queue <;> simp [consume]

theorem consume_whole {n : Nat} {c : Cut γ} (queue : List (Cut γ)) (hPos : 0 < n)
    (hWhole : (c.rest contents).length ≤ n) :
    consume contents n (c :: queue) =
      (c.chunk :: (consume contents (n - (c.rest contents).length) queue).1,
        (consume contents (n - (c.rest contents).length) queue).2) := by
  rw [consume, if_neg hPos.ne', if_pos hWhole]

theorem consume_part {n : Nat} {c : Cut γ} (queue : List (Cut γ)) (hPos : 0 < n)
    (hPart : n < (c.rest contents).length) :
    consume contents n (c :: queue) =
      ([c.chunk], { c with offset := c.offset + n } :: queue) := by
  rw [consume, if_neg hPos.ne', if_neg (Nat.not_le.mpr hPart)]

/-- Consuming moves along the stream, wherever the chunks end. -/
theorem flatten_consume (n : Nat) (queue : List (Cut γ)) :
    flatten contents (consume contents n queue).2 = (flatten contents queue).drop n := by
  induction queue generalizing n with
  | nil => simp [consume]
  | cons c queue ih =>
    rcases Nat.eq_zero_or_pos n with rfl | hPos
    · simp
    · by_cases hWhole : (c.rest contents).length ≤ n
      · rw [consume_whole contents queue hPos hWhole, flatten_cons, ih, List.drop_append,
          List.drop_eq_nil_of_le hWhole, List.nil_append]
      · have hPart := Nat.not_le.mp hWhole
        rw [consume_part contents queue hPos hPart, flatten_cons, flatten_cons,
          List.drop_append_of_le_length hPart.le]
        simp [Cut.rest]

end Queue

/-- What becomes of the elements pushed so far. -/
structure Ledger (α : Type u) where
  pushed : List α
  delivered : List α
  discarded : List α
  pending : List α

namespace Ledger

def empty : Ledger α := ⟨[], [], [], []⟩

/-- A push that would exceed the limit first discards all that is pending. -/
def push (limit : Nat) (l : Ledger α) (block : List α) : Ledger α :=
  if limit < l.pending.length + block.length then
    { l with
      pushed := l.pushed ++ block
      discarded := l.discarded ++ l.pending
      pending := block }
  else { l with pushed := l.pushed ++ block, pending := l.pending ++ block }

/-- A pop delivers a whole block or nothing. -/
def pop (size : Nat) (l : Ledger α) : Ledger α :=
  if l.pending.length < size then l
  else
    { l with
      delivered := l.delivered ++ l.pending.take size
      pending := l.pending.drop size }

structure Conserved (l : Ledger α) : Prop where
  once : l.pushed.Perm (l.delivered ++ l.discarded ++ l.pending)
  deliveredInOrder : (l.delivered ++ l.pending).Sublist l.pushed
  discardedInOrder : (l.discarded ++ l.pending).Sublist l.pushed

theorem conserved_empty : Conserved (empty : Ledger α) where
  once := .refl _
  deliveredInOrder := .refl _
  discardedInOrder := .refl _

theorem Conserved.push {l : Ledger α} (h : Conserved l) (limit : Nat) (block : List α) :
    Conserved (l.push limit block) := by
  unfold Ledger.push
  split
  · refine ⟨?_, ?_, ?_⟩
    · simpa only [List.append_assoc] using h.once.append_right block
    · exact ((List.sublist_append_left ..).trans h.deliveredInOrder).append (.refl block)
    · exact h.discardedInOrder.append (.refl block)
  · refine ⟨?_, ?_, ?_⟩
    · simpa only [List.append_assoc] using h.once.append_right block
    · simpa only [List.append_assoc] using h.deliveredInOrder.append (.refl block)
    · simpa only [List.append_assoc] using h.discardedInOrder.append (.refl block)

theorem Conserved.pop {l : Ledger α} (h : Conserved l) (size : Nat) : Conserved (l.pop size) := by
  unfold Ledger.pop
  split
  · exact h
  · refine ⟨h.once.trans ?_, ?_, ?_⟩
    · have hMove : (l.discarded ++ (l.pending.take size ++ l.pending.drop size)).Perm
          (l.pending.take size ++ (l.discarded ++ l.pending.drop size)) :=
        List.perm_append_comm_assoc ..
      rw [List.take_append_drop] at hMove
      simpa only [List.append_assoc] using hMove.append_left l.delivered
    · simpa only [List.append_assoc, List.take_append_drop] using h.deliveredInOrder
    · exact ((List.drop_sublist ..).append_left _).trans h.discardedInOrder

end Ledger

end SrcLink.Reblocking
