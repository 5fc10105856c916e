import Mathlib.Data.Set.Defs

/-! # Statements with early return

A block of statements over a state either falls through or has returned, and
carries the state it stopped in either way. Triples have one postcondition for
each of the two ends.
-/

namespace SrcLink.EarlyExit

set_option autoImplicit false

variable {σ : Type*}

/-- `ok` falls through, `error` has returned. -/
abbrev Block (σ : Type*) := σ → Except σ σ

namespace Block

def step (f : σ → σ) : Block σ := fun s => .ok (f s)

def exit (f : σ → σ) : Block σ := fun s => .error (f s)

def andThen (b c : Block σ) : Block σ := fun s =>
  match b s with
  | .ok t => c t
  | .error t => .error t

/-- `if (!condition) { f; return; }` -/
def require (condition : σ → Bool) (f : σ → σ) : Block σ := fun s =>
  if condition s then .ok s else .error (f s)

def whenever (condition : σ → Bool) (b : Block σ) : Block σ := fun s =>
  if condition s then b s else .ok s

/-- `if (!b()) { onFalse; }`, for a function `b` that answers true by `ok`. -/
def handle (b onFalse : Block σ) : Block σ := fun s =>
  match b s with
  | .ok t => .ok t
  | .error t => onFalse t

/-- `return condition;` -/
def answer (condition : Bool) (s : σ) : Except σ σ := if condition then .ok s else .error s

/-- The function whose body is the block. -/
def body (b : Block σ) : σ → σ := fun s =>
  match b s with
  | .ok t => t
  | .error t => t

section Body

variable {b c : Block σ} {condition : σ → Bool} {s t : σ}

theorem whenever_of_false (h : condition s = false) : whenever condition b s = .ok s := by
  simp [whenever, h]

theorem body_whenever (condition : σ → Bool) (b : Block σ) (s : σ) :
    (whenever condition b).body s = if condition s then b.body s else s := by
  cases hCondition : condition s <;> simp [body, whenever, hCondition]

theorem body_of_ok (h : b s = .ok t) : b.body s = t := by
  simp only [body, h]

theorem body_andThen_of_ok (h : b s = .ok t) : (b.andThen c).body s = c.body t := by
  simp only [body, andThen, h]

theorem body_require_andThen (condition : σ → Bool) (f : σ → σ) (c : Block σ) (s : σ) :
    ((require condition f).andThen c).body s = if condition s then c.body s else f s := by
  cases hCondition : condition s <;> simp [body, andThen, require, hCondition]

theorem body_andThen_of_body (h : ∀ t, c.body t = t) : (b.andThen c).body s = b.body s := by
  cases hEnd : b s with
  | ok t => rw [body_andThen_of_ok hEnd, body_of_ok hEnd, h]
  | error t => simp only [body, andThen, hEnd]

end Body

end Block

def Ends (Q R : σ → Prop) : Except σ σ → Prop
  | .ok t => Q t
  | .error t => R t

theorem Ends.answer {Q R : σ → Prop} {condition : Bool} {s : σ} (hTrue : condition = true → Q s)
    (hFalse : condition = false → R s) : Ends Q R (Block.answer condition s) := by
  cases condition with
  | true => exact hTrue rfl
  | false => exact hFalse rfl

def Triple (P : σ → Prop) (b : Block σ) (Q R : σ → Prop) : Prop := ∀ s, P s → Ends Q R (b s)

namespace Triple

variable {P P' Q Q' R S : σ → Prop} {b c : Block σ}

theorem weaken (h : Triple P b Q R) (hPre : ∀ s, P' s → P s) (hPost : ∀ s, Q s → Q' s)
    (hReturn : ∀ s, R s → S s) : Triple P' b Q' S := by
  intro s hs
  have hb := h s (hPre s hs)
  cases hEnd : b s with
  | ok t =>
    rw [hEnd] at hb
    exact hPost t hb
  | error t =>
    rw [hEnd] at hb
    exact hReturn t hb

theorem pre (h : Triple P b Q R) (hPre : ∀ s, P' s → P s) : Triple P' b Q R :=
  h.weaken hPre (fun _ => id) (fun _ => id)

/-- A second assertion, proved with the help of the first, may be carried along. -/
theorem also (h : Triple P b Q R) (h' : Triple (fun s => P s ∧ P' s) b Q' S) :
    Triple (fun s => P s ∧ P' s) b (fun s => Q s ∧ Q' s) fun s => R s ∧ S s := by
  intro s hs
  have hb := h s hs.1
  have hb' := h' s hs
  cases hEnd : b s with
  | ok t =>
    rw [hEnd] at hb hb'
    exact ⟨hb, hb'⟩
  | error t =>
    rw [hEnd] at hb hb'
    exact ⟨hb, hb'⟩

theorem step {f : σ → σ} (h : ∀ s, P s → Q (f s)) : Triple P (Block.step f) Q R :=
  fun s hs => h s hs

theorem exit {f : σ → σ} (h : ∀ s, P s → R (f s)) : Triple P (Block.exit f) Q R :=
  fun s hs => h s hs

theorem andThen (hb : Triple P b Q R) (hc : Triple Q c Q' R) :
    Triple P (b.andThen c) Q' R := by
  intro s hs
  have hFirst := hb s hs
  unfold Block.andThen
  cases hEnd : b s with
  | ok t =>
    rw [hEnd] at hFirst
    exact hc t hFirst
  | error t =>
    rw [hEnd] at hFirst
    exact hFirst

theorem require {condition : σ → Bool} {f : σ → σ}
    (hHolds : ∀ s, P s → condition s = true → Q s)
    (hFails : ∀ s, P s → condition s = false → R (f s)) :
    Triple P (Block.require condition f) Q R := by
  intro s hs
  unfold Block.require
  cases hCondition : condition s with
  | true => exact hHolds s hs hCondition
  | false => exact hFails s hs hCondition

theorem whenever {condition : σ → Bool}
    (hTaken : Triple (fun s => P s ∧ condition s = true) b Q R)
    (hSkipped : ∀ s, P s → condition s = false → Q s) :
    Triple P (Block.whenever condition b) Q R := by
  intro s hs
  unfold Block.whenever
  cases hCondition : condition s with
  | true => exact hTaken s ⟨hs, hCondition⟩
  | false => exact hSkipped s hs hCondition

theorem handle {onFalse : Block σ} (hb : Triple P b Q S) (hFalse : Triple S onFalse Q R) :
    Triple P (b.handle onFalse) Q R := by
  intro s hs
  have hFirst := hb s hs
  unfold Block.handle
  cases hEnd : b s with
  | ok t =>
    rw [hEnd] at hFirst
    exact hFirst
  | error t =>
    rw [hEnd] at hFirst
    exact hFalse t hFirst

theorem choose {α : Type*} {f : α → Block σ} (g : σ → α) (h : ∀ a, Triple P (f a) Q R) :
    Triple P (fun s => f (g s) s) Q R := fun s hs => h (g s) s hs

theorem body (h : Triple P b Q R) (hPost : ∀ s, Q s → R s) :
    ∀ s, P s → R (b.body s) := by
  intro s hs
  have hb := h s hs
  unfold Block.body
  cases hEnd : b s with
  | ok t =>
    rw [hEnd] at hb
    exact hPost t hb
  | error t =>
    rw [hEnd] at hb
    exact hb

end Triple

/-- The block preserves the assertion, whichever way it ends. -/
abbrev Keeps (P : σ → Prop) (b : Block σ) : Prop := Triple P b P P

namespace Keeps

variable {P : σ → Prop} {b c : Block σ}

theorem whenever {condition : σ → Bool} (h : Keeps P b) : Keeps P (Block.whenever condition b) :=
  Triple.whenever (h.pre fun _ => And.left) fun _ hs _ => hs

theorem require {condition : σ → Bool} {f : σ → σ} (hFails : ∀ s, P s → P (f s)) :
    Keeps P (Block.require condition f) :=
  Triple.require (fun _ hs _ => hs) fun s hs _ => hFails s hs

theorem body (h : Keeps P b) {s : σ} (hs : P s) : P (b.body s) :=
  Triple.body h (fun _ => id) s hs

end Keeps

end SrcLink.EarlyExit
