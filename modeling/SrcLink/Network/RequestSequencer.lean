import SrcLink.Library.StepSystem
import Mathlib.Data.List.Range
import Mathlib.Logic.Function.Basic

/-! # The request sequencer

`RequestInvoker` objects share one `RequestSequencer`. An invoker either starts
its action at once, or connects it to the `finished` signal of the invoker that
is last in the queue. Signals run their slots synchronously in connection order,
so the emissions in progress form a call stack. Completions come from a
requestor for HTTP requests, and from the shared `O2` object for refreshes.
-/

namespace SrcLink.RequestSequencer

set_option autoImplicit false

open StepSystem

abbrev InvokerId := Nat

/-- What an invoker was asked for: an HTTP request (`get`, `post`, `put`, ...) or `refresh`. -/
inductive Action where
  | request
  | refresh
  deriving DecidableEq, Repr

/-- A slot connected to `RequestInvoker::finished`. -/
inductive Slot where
  /-- of some other object; the requests its body queues are `enqueue` events -/
  | handler
  /-- the functor that `queue` connects -/
  | invoker (next : InvokerId) (action : Action)
  deriving DecidableEq, Repr

/-- A signal being emitted, with the slots still to run. -/
inductive Emission where
  | finished (sender : InvokerId) (slots : List Slot)
  | refreshFinished (receivers : List InvokerId)
  deriving DecidableEq, Repr

structure State where
  /-- invokers are numbered in the order they are queued -/
  created : Nat
  requestQueue : List InvokerId
  finishedSlots : InvokerId → List Slot
  /-- invokers of this sequencer connected to `O2::refreshFinished` -/
  refreshSlots : List InvokerId
  /-- requestors that have not reported `finished` -/
  requestors : List InvokerId
  /-- refreshes under way in `O2`, with the invoker that called `O2::refresh` (if one did) -/
  refreshes : List (Option InvokerId)
  emissions : List Emission
  started : List InvokerId
  emitted : List InvokerId
  destroyed : List InvokerId

def initial : State where
  created := 0
  requestQueue := []
  finishedSlots := fun _ => []
  refreshSlots := []
  requestors := []
  refreshes := []
  emissions := []
  started := []
  emitted := []
  destroyed := []

/-- The functor passed to `queue`. -/
def invoke (s : State) (i : InvokerId) : Action → State
  | .request => { s with requestors := s.requestors ++ [i], started := s.started ++ [i] }
  | .refresh => { s with refreshes := s.refreshes ++ [some i], started := s.started ++ [i] }

def queue (s : State) (i : InvokerId) (action : Action) : State :=
  match s.requestQueue.getLast? with
  | none => invoke { s with requestQueue := [i] } i action
  | some last =>
    { s with
      finishedSlots :=
        Function.update s.finishedSlots last (s.finishedSlots last ++ [.invoker i action])
      requestQueue := s.requestQueue ++ [i] }

/-- `RequestInvoker::refresh` connects to the shared signal before it queues. -/
def refresh (s : State) (i : InvokerId) : State :=
  queue { s with refreshSlots := s.refreshSlots ++ [i] } i .refresh

def enqueue (s : State) : Action → State
  | .request => queue { s with created := s.created + 1 } s.created .request
  | .refresh => refresh { s with created := s.created + 1 } s.created

/-- The common end of both completion slots: leave the queue, then emit. -/
def finish (s : State) (i : InvokerId) : State :=
  { s with
    requestQueue := s.requestQueue.erase i
    emissions := .finished i (s.finishedSlots i) :: s.emissions
    emitted := s.emitted ++ [i] }

def onRequestorFinished (s : State) (i : InvokerId) : State := finish s i

def onO2RefreshFinished (s : State) (i : InvokerId) : State := finish s i

/-- A destroyed receiver drops out of an emission in progress. -/
def Emission.forget (i : InvokerId) : Emission → Emission
  | .finished sender slots => .finished sender slots
  | .refreshFinished receivers => .refreshFinished (receivers.erase i)

def Emission.sends (i : InvokerId) : Emission → Bool
  | .finished sender _ => sender == i
  | .refreshFinished _ => false

inductive Event where
  | enqueue (action : Action)
  | connect (i : InvokerId)
  | requestorFinished (i : InvokerId)
  /-- a refresh that no invoker of this sequencer asked for (`O2Requestor` after a 401) -/
  | foreignRefresh
  /-- the refresh at this position of `refreshes` reports -/
  | refreshFinished (position : Nat)
  /-- the innermost emission runs its next slot, or returns -/
  | runSlot
  /-- the deferred deletion after `deleteLater` -/
  | destroy (i : InvokerId)
  deriving DecidableEq, Repr

def runSlot (s : State) : Option State :=
  match s.emissions with
  | [] => none
  | .finished _ [] :: rest => some { s with emissions := rest }
  | .finished i (.handler :: slots) :: rest =>
    some { s with emissions := .finished i slots :: rest }
  | .finished i (.invoker next action :: slots) :: rest =>
    some (invoke { s with emissions := .finished i slots :: rest } next action)
  | .refreshFinished [] :: rest => some { s with emissions := rest }
  | .refreshFinished (i :: receivers) :: rest =>
    some (onO2RefreshFinished { s with emissions := .refreshFinished receivers :: rest } i)

/-- The functor that is next belongs to a destroyed invoker. `queue` connects it without a context,
so it is still called, and then the behaviour is undefined. -/
def State.dangling (s : State) : Bool :=
  match s.emissions with
  | .finished _ (.invoker next _ :: _) :: _ => s.destroyed.contains next
  | _ => false

/-- A signal without receivers returns at once. -/
def emitRefreshFinished (s : State) : State :=
  if s.refreshSlots = [] then s
  else { s with emissions := .refreshFinished s.refreshSlots :: s.emissions }

/-- Some other object connects to `finished`. -/
def connect (s : State) (i : InvokerId) : State :=
  { s with finishedSlots := Function.update s.finishedSlots i (s.finishedSlots i ++ [.handler]) }

/-- `~RequestInvoker` drops every connection from the invoker, and to its slots. -/
def destroy (s : State) (i : InvokerId) : State :=
  { s with
    destroyed := i :: s.destroyed
    finishedSlots := Function.update s.finishedSlots i []
    refreshSlots := s.refreshSlots.erase i
    emissions := s.emissions.map (Emission.forget i) }

def step (s : State) : Event → Option State
  | .enqueue action => some (enqueue s action)
  | .connect i =>
    if i < s.created then some (connect s i) else none
  | .requestorFinished i =>
    if i ∈ s.requestors then
      some (onRequestorFinished { s with requestors := s.requestors.erase i } i)
    else none
  | .foreignRefresh => some { s with refreshes := s.refreshes ++ [none] }
  | .refreshFinished position =>
    if position < s.refreshes.length then
      some (emitRefreshFinished { s with refreshes := s.refreshes.eraseIdx position })
    else none
  | .runSlot => if s.dangling then none else runSlot s
  | .destroy i =>
    if i ∈ s.emitted ∧ s.emissions.all (fun e => !e.sends i) then some (destroy s i) else none

/-- The events that can occur in a state, each with what it does. -/
inductive Stepped (s : State) : Event → State → Prop
  | enqueue (action : Action) : Stepped s (.enqueue action) (enqueue s action)
  | connect {i : InvokerId} (hCreated : i < s.created) : Stepped s (.connect i) (connect s i)
  | requestorFinished {i : InvokerId} (hRequestor : i ∈ s.requestors) :
    Stepped s (.requestorFinished i)
      (onRequestorFinished { s with requestors := s.requestors.erase i } i)
  | foreignRefresh : Stepped s .foreignRefresh { s with refreshes := s.refreshes ++ [none] }
  | refreshFinished {position : Nat} (hPosition : position < s.refreshes.length) :
    Stepped s (.refreshFinished position)
      (emitRefreshFinished { s with refreshes := s.refreshes.eraseIdx position })
  | runSlot {s' : State} (hRun : runSlot s = some s') : Stepped s .runSlot s'
  | destroy {i : InvokerId} (hEmitted : i ∈ s.emitted) : Stepped s (.destroy i) (destroy s i)

theorem stepped {s s' : State} {e : Event} (hStep : step s e = some s') : Stepped s e s' := by
  cases e with
  | enqueue action =>
    obtain rfl := Option.some.inj hStep
    exact .enqueue action
  | connect i =>
    obtain ⟨hCreated, ⟨⟩⟩ := Option.ite_none_right_eq_some.mp hStep
    exact .connect hCreated
  | requestorFinished i =>
    obtain ⟨hRequestor, ⟨⟩⟩ := Option.ite_none_right_eq_some.mp hStep
    exact .requestorFinished hRequestor
  | foreignRefresh =>
    obtain rfl := Option.some.inj hStep
    exact .foreignRefresh
  | refreshFinished position =>
    obtain ⟨hPosition, ⟨⟩⟩ := Option.ite_none_right_eq_some.mp hStep
    exact .refreshFinished hPosition
  | runSlot =>
    obtain ⟨_, hRun⟩ := Option.ite_none_left_eq_some.mp hStep
    exact .runSlot hRun
  | destroy i =>
    obtain ⟨⟨hEmitted, _⟩, ⟨⟩⟩ := Option.ite_none_right_eq_some.mp hStep
    exact .destroy hEmitted

/-- Refreshes under way that an invoker of this sequencer asked for. -/
def State.refreshing (s : State) : List InvokerId := s.refreshes.filterMap id

/-- Invokers whose action has been started and has not completed. -/
def State.inFlight (s : State) : List InvokerId := s.requestors ++ s.refreshing

def Emission.isFinished : Emission → Bool
  | .finished _ _ => true
  | .refreshFinished _ => false

def invocations (slots : List Slot) : List (InvokerId × Action) :=
  slots.filterMap fun
    | .handler => none
    | .invoker next action => some (next, action)

@[simp] theorem invocations_nil : invocations [] = [] := rfl

@[simp] theorem invocations_handler (slots : List Slot) :
    invocations (.handler :: slots) = invocations slots := rfl

@[simp] theorem invocations_invoker (next : InvokerId) (action : Action) (slots : List Slot) :
    invocations (.invoker next action :: slots) = (next, action) :: invocations slots := rfl

@[simp] theorem invocations_append (left right : List Slot) :
    invocations (left ++ right) = invocations left ++ invocations right :=
  List.filterMap_append ..

section Invoke

variable (s : State) (i : InvokerId) (action : Action)

@[simp] theorem invoke_created : (invoke s i action).created = s.created := by cases action <;> rfl

@[simp] theorem invoke_refreshSlots : (invoke s i action).refreshSlots = s.refreshSlots := by
  cases action <;> rfl

@[simp] theorem invoke_destroyed : (invoke s i action).destroyed = s.destroyed := by
  cases action <;> rfl

@[simp] theorem invoke_emitted : (invoke s i action).emitted = s.emitted := by cases action <;> rfl

end Invoke

end SrcLink.RequestSequencer
