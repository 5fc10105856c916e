import Mathlib.Data.List.Basic

/-! # Connections between objects

A signal of an object runs the handlers connected to it. A handler works on the
object it has captured, its owner. A connection lasts until its sender is destroyed
or, if it has a context, until that is; a call posted to a context is dropped with it.
-/

namespace SrcLink.Connections

set_option autoImplicit false

universe u v w

structure Connection (Object : Type u) (Signal : Type v) (Handler : Type w) where
  sender : Object
  signal : Signal
  handler : Handler
  owner : Object
  /-- the receiver or the context object; none for a functor alone -/
  context : Option Object

structure Hub (Object : Type u) (Signal : Type v) (Handler : Type w) where
  live : List Object
  connections : List (Connection Object Signal Handler) := []
  posted : List (Connection Object Signal Handler) := []

namespace Hub

variable {Object : Type u} {Signal : Type v} {Handler : Type w}

def add (o : Object) (h : Hub Object Signal Handler) : Hub Object Signal Handler :=
  { h with live := o :: h.live }

def connect (cs : List (Connection Object Signal Handler)) (h : Hub Object Signal Handler) :
    Hub Object Signal Handler :=
  { h with connections := h.connections ++ cs }

def post (c : Connection Object Signal Handler) (h : Hub Object Signal Handler) :
    Hub Object Signal Handler :=
  { h with posted := h.posted ++ [c] }

def unpost (index : Nat) (h : Hub Object Signal Handler) : Hub Object Signal Handler :=
  { h with posted := h.posted.eraseIdx index }

/-- No connection and no posted call outlives its ends. -/
structure Attached (h : Hub Object Signal Handler) : Prop where
  sender : ∀ c ∈ h.connections, c.sender ∈ h.live
  context : ∀ c ∈ h.connections, ∀ o ∈ c.context, o ∈ h.live
  posted : ∀ c ∈ h.posted, ∀ o ∈ c.context, o ∈ h.live

variable {h : Hub Object Signal Handler} {o : Object} {c : Connection Object Signal Handler}

/-- A handler whose context is its owner runs only while the owner lives. -/
theorem Attached.owner_live (hAttached : h.Attached) (hConnected : c ∈ h.connections)
    (hContext : c.context = some c.owner) : c.owner ∈ h.live :=
  hAttached.context c hConnected c.owner hContext

theorem Attached.add (hAttached : h.Attached) (o : Object) : (h.add o).Attached where
  sender c hc := List.mem_cons_of_mem o (hAttached.sender c hc)
  context c hc o' ho' := List.mem_cons_of_mem o (hAttached.context c hc o' ho')
  posted c hc o' ho' := List.mem_cons_of_mem o (hAttached.posted c hc o' ho')

theorem Attached.connect (hAttached : h.Attached) {cs : List (Connection Object Signal Handler)}
    (hSender : ∀ c ∈ cs, c.sender ∈ h.live) (hContext : ∀ c ∈ cs, ∀ o ∈ c.context, o ∈ h.live) :
    (h.connect cs).Attached where
  sender c hc := (List.mem_append.mp hc).elim (hAttached.sender c) (hSender c)
  context c hc := (List.mem_append.mp hc).elim (hAttached.context c) (hContext c)
  posted := hAttached.posted

theorem Attached.post (hAttached : h.Attached) (hConnected : c ∈ h.connections) :
    (h.post c).Attached where
  sender := hAttached.sender
  context := hAttached.context
  posted c' hc' := by
    rcases List.mem_append.mp hc' with hOld | hNew
    · exact hAttached.posted c' hOld
    · exact List.mem_singleton.mp hNew ▸ hAttached.context c hConnected

theorem Attached.unpost (hAttached : h.Attached) (index : Nat) : (h.unpost index).Attached where
  sender := hAttached.sender
  context := hAttached.context
  posted c hc := hAttached.posted c (List.mem_of_mem_eraseIdx hc)

section Destruction

variable [DecidableEq Object]

/-- The connections between two objects. -/
def disconnect (sender receiver : Object) (h : Hub Object Signal Handler) :
    Hub Object Signal Handler :=
  { h with
    connections := h.connections.filter fun c =>
      ¬(c.sender = sender ∧ c.context = some receiver) }

def destroy (o : Object) (h : Hub Object Signal Handler) : Hub Object Signal Handler where
  live := h.live.filter (· ≠ o)
  connections := h.connections.filter fun c => c.sender ≠ o ∧ c.context ≠ some o
  posted := h.posted.filter (·.context ≠ some o)

def receivers [DecidableEq Signal] (sender : Object) (signal : Signal)
    (h : Hub Object Signal Handler) : List (Connection Object Signal Handler) :=
  h.connections.filter fun c => c.sender = sender ∧ c.signal = signal

theorem mem_receivers_iff [DecidableEq Signal] {sender : Object} {signal : Signal} :
    c ∈ h.receivers sender signal ↔
      c ∈ h.connections ∧ c.sender = sender ∧ c.signal = signal := by
  rw [receivers, List.mem_filter, decide_eq_true_iff]

theorem mem_live_destroy_iff {o' : Object} : o' ∈ (h.destroy o).live ↔ o' ∈ h.live ∧ o' ≠ o := by
  rw [destroy, List.mem_filter, decide_eq_true_iff]

theorem mem_connections_destroy_iff :
    c ∈ (h.destroy o).connections ↔ c ∈ h.connections ∧ c.sender ≠ o ∧ c.context ≠ some o := by
  rw [destroy, List.mem_filter, decide_eq_true_iff]

theorem mem_posted_destroy_iff :
    c ∈ (h.destroy o).posted ↔ c ∈ h.posted ∧ c.context ≠ some o := by
  rw [destroy, List.mem_filter, decide_eq_true_iff]

theorem mem_connections_disconnect_iff {sender receiver : Object} :
    c ∈ (h.disconnect sender receiver).connections ↔
      c ∈ h.connections ∧ ¬(c.sender = sender ∧ c.context = some receiver) := by
  rw [disconnect, List.mem_filter, decide_eq_true_iff]

theorem Attached.disconnect (hAttached : h.Attached) (sender receiver : Object) :
    (h.disconnect sender receiver).Attached where
  sender c hc := hAttached.sender c (mem_connections_disconnect_iff.mp hc).1
  context c hc := hAttached.context c (mem_connections_disconnect_iff.mp hc).1
  posted := hAttached.posted

theorem Attached.destroy (hAttached : h.Attached) (o : Object) : (h.destroy o).Attached where
  sender c hc := by
    obtain ⟨hOld, hSender, -⟩ := mem_connections_destroy_iff.mp hc
    exact mem_live_destroy_iff.mpr ⟨hAttached.sender c hOld, hSender⟩
  context c hc o' ho' := by
    obtain ⟨hOld, -, hContext⟩ := mem_connections_destroy_iff.mp hc
    refine mem_live_destroy_iff.mpr ⟨hAttached.context c hOld o' ho', ?_⟩
    rintro rfl
    exact hContext ho'
  posted c hc o' ho' := by
    obtain ⟨hOld, hContext⟩ := mem_posted_destroy_iff.mp hc
    refine mem_live_destroy_iff.mpr ⟨hAttached.posted c hOld o' ho', ?_⟩
    rintro rfl
    exact hContext ho'

end Destruction

end Hub

end SrcLink.Connections
