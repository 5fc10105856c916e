import SrcLink.Network.RequestSequencer
import Mathlib.Data.List.Perm.Basic

/-! # The sequencer invariant

As long as `refreshFinished` reaches no refresh invoker but the one it reports,
the queue is served strictly in order: the head is either in flight, or its
start is the one pending functor of the innermost emission.
-/

namespace SrcLink.RequestSequencer

set_option autoImplicit false

open StepSystem

/-- Each queued invoker starts its successor in the queue and nothing else. -/
def Chained (slots : InvokerId → List Slot) : List InvokerId → Prop
  | [] => True
  | [i] => invocations (slots i) = []
  | i :: next :: rest =>
    (∃ action, invocations (slots i) = [(next, action)]) ∧ Chained slots (next :: rest)

/-- Emissions that start no invoker and complete none. -/
def Emission.Quiet : Emission → Prop
  | .finished _ slots => invocations slots = []
  | .refreshFinished receivers => receivers = []

def Quiet (emissions : List Emission) : Prop := ∀ e ∈ emissions, e.Quiet

/-- Who is being served: nobody, the head of the queue, or the head is about to be started. -/
inductive Phase (s : State) : Prop
  | idle (hQueue : s.requestQueue = []) (hRequestors : s.requestors = [])
      (hRefreshing : s.refreshing = []) (hQuiet : Quiet s.emissions)
      (hStarted : s.started = s.emitted)
  | requesting {i : InvokerId} {rest : List InvokerId} (hQueue : s.requestQueue = i :: rest)
      (hRequestors : s.requestors = [i]) (hRefreshing : s.refreshing = [])
      (hQuiet : Quiet s.emissions) (hStarted : s.started = s.emitted ++ [i])
  | refreshing {i : InvokerId} {rest : List InvokerId} (hQueue : s.requestQueue = i :: rest)
      (hRequestors : s.requestors = []) (hRefreshing : s.refreshing = [i])
      (hConnected : i ∈ s.refreshSlots) (hQuiet : Quiet s.emissions)
      (hStarted : s.started = s.emitted ++ [i])
  | signalling {i : InvokerId} {rest : List InvokerId} {outer : List Emission}
      (hQueue : s.requestQueue = i :: rest) (hRequestors : s.requestors = [])
      (hRefreshing : s.refreshing = []) (hConnected : i ∈ s.refreshSlots)
      (hEmissions : s.emissions = .refreshFinished [i] :: outer) (hQuiet : Quiet outer)
      (hStarted : s.started = s.emitted ++ [i])
  | handing {i sender : InvokerId} {action : Action} {rest : List InvokerId} {slots : List Slot}
      {outer : List Emission} (hQueue : s.requestQueue = i :: rest) (hRequestors : s.requestors = [])
      (hRefreshing : s.refreshing = []) (hConnected : action = .refresh → i ∈ s.refreshSlots)
      (hEmissions : s.emissions = .finished sender slots :: outer)
      (hSlots : invocations slots = [(i, action)]) (hQuiet : Quiet outer)
      (hStarted : s.started = s.emitted)

/-- The queue, the functors that link its members, and the connected refresh invokers. -/
structure Links (s : State) : Prop where
  order : s.emitted ++ s.requestQueue = List.range s.created
  chained : Chained s.finishedSlots s.requestQueue
  fresh : ∀ i, s.created ≤ i → s.finishedSlots i = []
  targets : ∀ i next action, (next, action) ∈ invocations (s.finishedSlots i) → next < s.created
  subscribed : ∀ i next, (next, Action.refresh) ∈ invocations (s.finishedSlots i) →
    next ∈ s.requestQueue → next ∈ s.refreshSlots
  nodup : s.refreshSlots.Nodup
  bounded : ∀ i ∈ s.refreshSlots, i < s.created

structure Inv (s : State) : Prop extends Links s where
  phase : Phase s

/-- `refreshFinished` finds connected only the invoker whose own refresh it reports. -/
def OwnRefresh (s : State) : Event → Prop
  | .refreshFinished position =>
    ∀ owner, s.refreshes[position]? = some owner → ∀ i ∈ s.refreshSlots, owner = some i
  | _ => True

section Chained

variable {slots slots' : InvokerId → List Slot}

theorem Chained.congr {queue : List InvokerId}
    (hSame : ∀ i ∈ queue, invocations (slots' i) = invocations (slots i))
    (h : Chained slots queue) : Chained slots' queue := by
  induction queue with
  | nil => trivial
  | cons i rest ih =>
    have hHead := hSame i List.mem_cons_self
    cases rest with
    | nil => exact hHead.trans h
    | cons next rest =>
      obtain ⟨⟨action, hNext⟩, hRest⟩ := h
      exact ⟨⟨action, hHead.trans hNext⟩,
        ih (fun j hj => hSame j (List.mem_cons_of_mem _ hj)) hRest⟩

theorem Chained.tail {i : InvokerId} {rest : List InvokerId} (h : Chained slots (i :: rest)) :
    Chained slots rest := by
  cases rest with
  | nil => trivial
  | cons next rest => exact h.2

/-- Queueing behind `last` connects to the one invoker that starts nothing yet. -/
theorem Chained.snoc {queue : List InvokerId} {last i : InvokerId} {action : Action}
    (hLast : queue.getLast? = some last) (hNodup : queue.Nodup) (hNew : i ∉ queue)
    (hFresh : slots i = []) (h : Chained slots queue) :
    Chained (Function.update slots last (slots last ++ [.invoker i action])) (queue ++ [i]) := by
  induction queue with
  | nil => cases hLast
  | cons j rest ih =>
    cases rest with
    | nil =>
      obtain rfl : j = last := by simpa using hLast
      have hij : i ≠ j := by simpa using hNew
      refine ⟨⟨action, ?_⟩, ?_⟩
      · simp [show invocations (slots j) = [] from h]
      · simp [Chained, Function.update_of_ne hij, hFresh]
    | cons next rest =>
      obtain ⟨hHead, hRest⟩ := h
      have hLast' : (next :: rest).getLast? = some last := by simpa using hLast
      have hjLast : j ≠ last := by
        rintro rfl
        exact (List.nodup_cons.mp hNodup).1 (List.mem_of_getLast? hLast')
      refine ⟨?_, ih hLast' (List.nodup_cons.mp hNodup).2
        (fun hi => hNew (List.mem_cons_of_mem _ hi)) hRest⟩
      rwa [Function.update_of_ne hjLast]

end Chained

/-- The links do not depend on what is in flight or being emitted. -/
theorem Links.congr {s s' : State} (h : Links s) (hCreated : s'.created = s.created)
    (hQueue : s'.requestQueue = s.requestQueue) (hFinished : s'.finishedSlots = s.finishedSlots)
    (hRefresh : s'.refreshSlots = s.refreshSlots) (hEmitted : s'.emitted = s.emitted) :
    Links s' := by
  obtain ⟨order, chained, fresh, targets, subscribed, nodup, bounded⟩ := h
  constructor <;> simpa only [hCreated, hQueue, hFinished, hRefresh, hEmitted]

theorem Links.nodup_all {s : State} (h : Links s) : (s.emitted ++ s.requestQueue).Nodup := by
  rw [h.order]
  exact List.nodup_range

theorem Links.queue_lt {s : State} (h : Links s) {i : InvokerId} (hi : i ∈ s.requestQueue) :
    i < s.created := by
  rw [← List.mem_range, ← h.order]
  exact List.mem_append_right _ hi

theorem Links.emitted_lt {s : State} (h : Links s) {i : InvokerId} (hi : i ∈ s.emitted) :
    i < s.created := by
  rw [← List.mem_range, ← h.order]
  exact List.mem_append_left _ hi

theorem Links.not_emitted {s : State} (h : Links s) {i : InvokerId} (hi : i ∈ s.requestQueue) :
    i ∉ s.emitted := fun hEmitted => (List.nodup_append.mp h.nodup_all).2.2 i hEmitted i hi rfl

theorem Links.nodup_queue {s : State} (h : Links s) : s.requestQueue.Nodup :=
  (List.nodup_append.mp h.nodup_all).2.1

theorem Quiet.cons {e : Emission} {outer : List Emission} (he : e.Quiet) (h : Quiet outer) :
    Quiet (e :: outer) := by
  intro f hf
  rcases List.mem_cons.mp hf with rfl | hf
  · exact he
  · exact h f hf

theorem Quiet.tail {e : Emission} {outer : List Emission} (h : Quiet (e :: outer)) : Quiet outer :=
  fun f hf => h f (List.mem_cons_of_mem _ hf)

theorem Quiet.forget {emissions : List Emission} (i : InvokerId) (h : Quiet emissions) :
    Quiet (emissions.map (Emission.forget i)) := by
  intro e he
  obtain ⟨f, hf, rfl⟩ := List.mem_map.mp he
  have hQuiet := h f hf
  cases f with
  | finished => exact hQuiet
  | refreshFinished receivers =>
    obtain rfl : receivers = [] := hQuiet
    rfl

theorem inv_initial : Inv initial where
  order := rfl
  chained := trivial
  fresh _ _ := rfl
  targets _ _ _ h := by simp [initial] at h
  subscribed _ _ h _ := by simp [initial] at h
  nodup := List.nodup_nil
  bounded _ h := by simp [initial] at h
  phase := .idle rfl rfl rfl (fun _ h => by simp [initial] at h) rfl

/-- The head completes: its slots hold at most the functor of the next in the queue. -/
theorem inv_finish {s : State} {i : InvokerId} {rest : List InvokerId} (h : Links s)
    (hQueue : s.requestQueue = i :: rest) (hRequestors : s.requestors = [])
    (hRefreshing : s.refreshing = []) (hQuiet : Quiet s.emissions)
    (hStarted : s.started = s.emitted ++ [i]) : Inv (finish s i) := by
  have hErase : (finish s i).requestQueue = rest := by simp [finish, hQueue]
  have hChained : Chained s.finishedSlots (i :: rest) := hQueue ▸ h.chained
  refine
    { order := ?_, chained := ?_, fresh := h.fresh, targets := h.targets
      subscribed := ?_, nodup := h.nodup, bounded := h.bounded, phase := ?_ }
  · rw [hErase]
    have hOrder := h.order
    rw [hQueue] at hOrder
    simpa [finish] using hOrder
  · rw [hErase]
    exact hChained.tail
  · intro j next hNext hMem
    exact h.subscribed j next hNext (List.mem_of_mem_erase hMem)
  · cases rest with
    | nil =>
      exact .idle hErase hRequestors hRefreshing (hQuiet.cons hChained) hStarted
    | cons next rest =>
      obtain ⟨⟨action, hNext⟩, _⟩ := hChained
      refine .handing hErase hRequestors hRefreshing ?_ rfl hNext hQuiet hStarted
      rintro rfl
      exact h.subscribed i next (by simp [hNext]) (by simp [hQueue])

/-- The pending functor runs: its invoker is the head of the queue and now in flight. -/
theorem inv_invoke {s : State} {i : InvokerId} {action : Action} {rest : List InvokerId}
    (h : Links s) (hQueue : s.requestQueue = i :: rest) (hRequestors : s.requestors = [])
    (hRefreshing : s.refreshing = []) (hConnected : action = .refresh → i ∈ s.refreshSlots)
    (hQuiet : Quiet s.emissions) (hStarted : s.started = s.emitted) :
    Inv (invoke s i action) := by
  have hLinks : Links (invoke s i action) := by
    cases action <;> exact h.congr rfl rfl rfl rfl rfl
  refine ⟨hLinks, ?_⟩
  cases action with
  | request =>
    exact .requesting hQueue (by simp [invoke, hRequestors]) hRefreshing hQuiet
      (by simp [invoke, hStarted])
  | refresh =>
    refine .refreshing hQueue hRequestors ?_ (hConnected rfl) hQuiet (by simp [invoke, hStarted])
    have hNone : s.refreshes.filterMap id = [] := hRefreshing
    change (s.refreshes ++ [some i]).filterMap id = [i]
    rw [List.filterMap_append, hNone]
    rfl

/-- The receivers of `refreshFinished` once the next invoker has been queued. -/
def subscriptions (s : State) : Action → List InvokerId
  | .request => s.refreshSlots
  | .refresh => s.refreshSlots ++ [s.created]

/-- The next invoker has found the queue empty; its action is yet to run. -/
def headed (s : State) (action : Action) : State :=
  { s with
    created := s.created + 1
    refreshSlots := subscriptions s action
    requestQueue := [s.created] }

/-- The next invoker has found `last` at the end of the queue. -/
def linked (s : State) (action : Action) (last : InvokerId) : State :=
  { s with
    created := s.created + 1
    refreshSlots := subscriptions s action
    finishedSlots :=
      Function.update s.finishedSlots last (s.finishedSlots last ++ [.invoker s.created action])
    requestQueue := s.requestQueue ++ [s.created] }

theorem enqueue_eq_invoke {s : State} (action : Action) (hQueue : s.requestQueue = []) :
    enqueue s action = invoke (headed s action) s.created action := by
  cases action <;> simp [enqueue, refresh, queue, headed, subscriptions, hQueue]

theorem enqueue_eq_linked {s : State} (action : Action) {last : InvokerId}
    (hLast : s.requestQueue.getLast? = some last) : enqueue s action = linked s action last := by
  cases action <;> simp [enqueue, refresh, queue, linked, subscriptions, hLast]

theorem exists_enqueue_eq_linked {s : State} (action : Action) {i : InvokerId}
    {rest : List InvokerId} (hQueue : s.requestQueue = i :: rest) :
    ∃ last, enqueue s action = linked s action last := by
  obtain ⟨last, hLast⟩ : ∃ last, s.requestQueue.getLast? = some last := by
    rw [hQueue]
    exact ⟨_, List.getLast?_cons⟩
  exact ⟨last, enqueue_eq_linked action hLast⟩

theorem subset_subscriptions (s : State) (action : Action) {i : InvokerId}
    (hi : i ∈ s.refreshSlots) : i ∈ subscriptions s action := by
  cases action with
  | request => exact hi
  | refresh => exact List.mem_append_left _ hi

theorem Links.subscriptions_nodup {s : State} (h : Links s) (action : Action) :
    (subscriptions s action).Nodup := by
  cases action with
  | request => exact h.nodup
  | refresh =>
    refine List.nodup_append.mpr ⟨h.nodup, List.nodup_cons.mpr ⟨List.not_mem_nil, .nil⟩, ?_⟩
    intro i hi j hj
    rw [List.mem_singleton.mp hj]
    exact (h.bounded i hi).ne

theorem Links.subscriptions_bounded {s : State} (h : Links s) (action : Action) :
    ∀ i ∈ subscriptions s action, i < s.created + 1 := by
  intro i hi
  cases action with
  | request => exact Nat.lt_succ_of_lt (h.bounded i hi)
  | refresh =>
    rcases List.mem_append.mp hi with hi | hi
    · exact Nat.lt_succ_of_lt (h.bounded i hi)
    · rw [List.mem_singleton.mp hi]
      exact Nat.lt_succ_self _

/-- An invoker that finds the queue empty becomes its head. -/
theorem Links.headed {s : State} (h : Links s) (action : Action) (hQueue : s.requestQueue = []) :
    Links (headed s action) where
  order := by
    have hOrder := h.order
    rw [hQueue, List.append_nil] at hOrder
    simp [RequestSequencer.headed, hOrder, List.range_succ]
  chained := by simp [RequestSequencer.headed, Chained, h.fresh s.created le_rfl]
  fresh i hi := h.fresh i (Nat.le_of_succ_le hi)
  targets i next act hNext := Nat.lt_succ_of_lt (h.targets i next act hNext)
  subscribed i next hNext hMem := by
    have hLt := h.targets i _ _ hNext
    rw [List.mem_singleton.mp hMem] at hLt
    exact absurd hLt (Nat.lt_irrefl _)
  nodup := h.subscriptions_nodup action
  bounded := h.subscriptions_bounded action

theorem mem_linked {s : State} {action act : Action} {last i next : InvokerId}
    (h : (next, act) ∈ invocations ((linked s action last).finishedSlots i)) :
    (next, act) ∈ invocations (s.finishedSlots i) ∨ next = s.created ∧ act = action := by
  by_cases hi : i = last
  · subst i
    simpa [linked] using h
  · exact .inl (by simpa [linked, hi] using h)

/-- An invoker that finds the queue occupied is linked to its last member. -/
theorem Links.linked {s : State} (h : Links s) (action : Action) {last : InvokerId}
    (hLast : s.requestQueue.getLast? = some last) : Links (linked s action last) := by
  have hLastLt : last < s.created := h.queue_lt (List.mem_of_getLast? hLast)
  have hNew : s.created ∉ s.requestQueue := fun hMem => Nat.lt_irrefl _ (h.queue_lt hMem)
  refine
    { order := ?_, chained := h.chained.snoc hLast h.nodup_queue hNew (h.fresh _ le_rfl)
      fresh := ?_, targets := ?_, subscribed := ?_
      nodup := h.subscriptions_nodup action, bounded := h.subscriptions_bounded action }
  · simp [RequestSequencer.linked, ← List.append_assoc, h.order, List.range_succ]
  · intro i hi
    have hLt : s.created < i := hi
    have hiLast : i ≠ last := (hLastLt.trans hLt).ne'
    simpa [RequestSequencer.linked, hiLast] using h.fresh i hLt.le
  · intro i next act hNext
    rcases mem_linked hNext with hOld | ⟨rfl, _⟩
    · exact Nat.lt_succ_of_lt (h.targets _ _ _ hOld)
    · exact Nat.lt_succ_self _
  · intro i next hNext hMem
    -- an older functor, or the one that starts the new invoker
    rcases mem_linked hNext with hOld | ⟨rfl, rfl⟩
    · have hLt := h.targets _ _ _ hOld
      rcases List.mem_append.mp hMem with hMem | hMem
      · exact subset_subscriptions s action (h.subscribed i next hOld hMem)
      · rw [List.mem_singleton.mp hMem] at hLt
        exact absurd hLt (Nat.lt_irrefl _)
    · exact List.mem_append_right _ (List.mem_singleton_self _)

theorem Inv.enqueue {s : State} (h : Inv s) (action : Action) : Inv (enqueue s action) := by
  cases hLast : s.requestQueue.getLast? with
  | none =>
    have hQueue : s.requestQueue = [] := List.getLast?_eq_none_iff.mp hLast
    rw [enqueue_eq_invoke action hQueue]
    cases h.phase with
    | idle _ hRequestors hRefreshing hQuiet hStarted =>
      -- the queue was empty: the new invoker starts at once
      refine inv_invoke (h.headed action hQueue) rfl hRequestors hRefreshing ?_ hQuiet hStarted
      rintro rfl
      exact List.mem_append_right _ (List.mem_singleton_self _)
    | requesting hHead | refreshing hHead | signalling hHead | handing hHead =>
      rw [hQueue] at hHead
      cases hHead
  | some last =>
    rw [enqueue_eq_linked action hLast]
    refine ⟨h.linked action hLast, ?_⟩
    -- the head stays, and with it the phase
    have hBehind {i : InvokerId} {rest : List InvokerId} (hQueue : s.requestQueue = i :: rest) :
        (RequestSequencer.linked s action last).requestQueue = i :: (rest ++ [s.created]) := by
      rw [← List.cons_append, ← hQueue]
      rfl
    cases h.phase with
    | idle hEmpty =>
      rw [hEmpty] at hLast
      cases hLast
    | requesting hQueue hRequestors hRefreshing hQuiet hStarted =>
      exact .requesting (hBehind hQueue) hRequestors hRefreshing hQuiet hStarted
    | refreshing hQueue hRequestors hRefreshing hConnected hQuiet hStarted =>
      exact .refreshing (hBehind hQueue) hRequestors hRefreshing
        (subset_subscriptions s action hConnected) hQuiet hStarted
    | signalling hQueue hRequestors hRefreshing hConnected hEmissions hQuiet hStarted =>
      exact .signalling (hBehind hQueue) hRequestors hRefreshing
        (subset_subscriptions s action hConnected) hEmissions hQuiet hStarted
    | handing hQueue hRequestors hRefreshing hConnected hEmissions hSlots hQuiet hStarted =>
      exact .handing (hBehind hQueue) hRequestors hRefreshing
        (fun hRefresh => subset_subscriptions s action (hConnected hRefresh)) hEmissions hSlots
        hQuiet hStarted

theorem Phase.congr {s s' : State} (h : Phase s) (hQueue : s'.requestQueue = s.requestQueue)
    (hRequestors : s'.requestors = s.requestors) (hRefreshing : s'.refreshing = s.refreshing)
    (hSlots : s'.refreshSlots = s.refreshSlots) (hEmissions : s'.emissions = s.emissions)
    (hStarted : s'.started = s.started) (hEmitted : s'.emitted = s.emitted) : Phase s' := by
  cases h with
  | idle h₁ h₂ h₃ h₄ h₅ =>
    exact .idle (hQueue.trans h₁) (hRequestors.trans h₂) (hRefreshing.trans h₃) (hEmissions ▸ h₄)
      (by rw [hStarted, hEmitted, h₅])
  | requesting h₁ h₂ h₃ h₄ h₅ =>
    exact .requesting (hQueue.trans h₁) (hRequestors.trans h₂) (hRefreshing.trans h₃)
      (hEmissions ▸ h₄) (by rw [hStarted, hEmitted, h₅])
  | refreshing h₁ h₂ h₃ h₄ h₅ h₆ =>
    exact .refreshing (hQueue.trans h₁) (hRequestors.trans h₂) (hRefreshing.trans h₃)
      (hSlots ▸ h₄) (hEmissions ▸ h₅) (by rw [hStarted, hEmitted, h₆])
  | signalling h₁ h₂ h₃ h₄ h₅ h₆ h₇ =>
    exact .signalling (hQueue.trans h₁) (hRequestors.trans h₂) (hRefreshing.trans h₃)
      (hSlots ▸ h₄) (hEmissions.trans h₅) h₆ (by rw [hStarted, hEmitted, h₇])
  | handing h₁ h₂ h₃ h₄ h₅ h₆ h₇ h₈ =>
    exact .handing (hQueue.trans h₁) (hRequestors.trans h₂) (hRefreshing.trans h₃)
      (hSlots ▸ h₄) (hEmissions.trans h₅) h₆ h₇ (by rw [hStarted, hEmitted, h₈])

/-- Connecting a handler adds no invocation. -/
theorem Inv.connect {s : State} (h : Inv s) {i : InvokerId} (hi : i < s.created) :
    Inv (RequestSequencer.connect s i) := by
  have hSame : ∀ j, invocations ((RequestSequencer.connect s i).finishedSlots j) =
      invocations (s.finishedSlots j) := by
    intro j
    by_cases hj : j = i
    · subst j
      simp [RequestSequencer.connect]
    · simp [RequestSequencer.connect, hj]
  refine
    { order := h.order, chained := h.chained.congr fun j _ => hSame j, fresh := ?_
      targets := ?_, subscribed := ?_, nodup := h.nodup, bounded := h.bounded
      phase := h.phase.congr rfl rfl rfl rfl rfl rfl rfl }
  · intro j hj
    exact (Function.update_of_ne (hi.trans_le hj).ne' ..).trans (h.fresh j hj)
  · intro j next act hNext
    exact h.targets j next act (hSame j ▸ hNext)
  · intro j next hNext hMem
    exact h.subscribed j next (hSame j ▸ hNext) hMem

theorem Inv.requestorFinished {s : State} (h : Inv s) {i : InvokerId} (hi : i ∈ s.requestors) :
    Inv (onRequestorFinished { s with requestors := s.requestors.erase i } i) := by
  cases h.phase with
  | requesting hQueue hRequestors hRefreshing hQuiet hStarted =>
    rw [hRequestors] at hi
    obtain rfl := List.mem_singleton.mp hi
    exact inv_finish (h.congr rfl rfl rfl rfl rfl)
      hQueue (by simp [hRequestors]) hRefreshing hQuiet hStarted
  | idle _ hNone | refreshing _ hNone | signalling _ hNone | handing _ hNone =>
    rw [hNone] at hi
    cases hi

theorem Inv.foreignRefresh {s : State} (h : Inv s) :
    Inv { s with refreshes := s.refreshes ++ [none] } := by
  refine ⟨h.congr rfl rfl rfl rfl rfl,
    h.phase.congr rfl rfl ?_ rfl rfl rfl rfl⟩
  change (s.refreshes ++ [none]).filterMap id = s.refreshes.filterMap id
  simp

theorem refreshing_eraseIdx {s : State} {position : Nat} {owner : Option InvokerId}
    (h : s.refreshes[position]? = some owner) :
    (s.refreshes.filterMap id).Perm
      (owner.toList ++ (s.refreshes.eraseIdx position).filterMap id) := by
  obtain ⟨hLt, rfl⟩ := List.getElem?_eq_some_iff.mp h
  have hPerm := ((List.getElem_cons_eraseIdx_perm hLt).filterMap id).symm
  cases hOwner : s.refreshes[position] with
  | none => simpa [hOwner] using hPerm
  | some i => simpa [hOwner] using hPerm

/-- The refresh that reports is nobody's, or that of the one connected invoker. -/
theorem Inv.refreshFinished {s : State} (h : Inv s) {position : Nat}
    (hLt : position < s.refreshes.length) (hOwn : OwnRefresh s (.refreshFinished position)) :
    Inv (emitRefreshFinished { s with refreshes := s.refreshes.eraseIdx position }) := by
  have hOwner := hOwn _ (List.getElem?_eq_getElem hLt)
  have hPerm : s.refreshing.Perm _ := refreshing_eraseIdx (List.getElem?_eq_getElem hLt)
  have hLinks : Links { s with refreshes := s.refreshes.eraseIdx position } :=
    h.congr rfl rfl rfl rfl rfl
  have hStill (hNone : s.refreshing = []) :
      ({ s with refreshes := s.refreshes.eraseIdx position } : State).refreshing = [] := by
    rw [hNone] at hPerm
    exact (List.append_eq_nil_iff.mp hPerm.nil_eq.symm).2
  unfold emitRefreshFinished
  split
  case isTrue hNobody =>
    refine ⟨hLinks, ?_⟩
    -- nobody hears the signal, so the phase stays
    have hNot {i : InvokerId} : i ∉ s.refreshSlots := by
      rw [show s.refreshSlots = [] from hNobody]
      exact List.not_mem_nil
    cases h.phase with
    | idle hQueue hRequestors hRefreshing hQuiet hStarted =>
      exact .idle hQueue hRequestors (hStill hRefreshing) hQuiet hStarted
    | requesting hQueue hRequestors hRefreshing hQuiet hStarted =>
      exact .requesting hQueue hRequestors (hStill hRefreshing) hQuiet hStarted
    | handing hQueue hRequestors hRefreshing hConnected hEmissions hSlots hQuiet hStarted =>
      exact .handing hQueue hRequestors (hStill hRefreshing) hConnected hEmissions hSlots hQuiet
        hStarted
    | refreshing _ _ _ hConnected | signalling _ _ _ hConnected => exact absurd hConnected hNot
  case isFalse hSomebody =>
    obtain ⟨i, hi⟩ := List.exists_mem_of_ne_nil _ hSomebody
    have hReported : s.refreshes[position] = some i := hOwner i hi
    rw [hReported] at hPerm
    have hMember : i ∈ s.refreshing := hPerm.mem_iff.mpr (by simp)
    cases h.phase with
    | refreshing hQueue hRequestors hRefreshing hConnected hQuiet hStarted =>
      rw [hRefreshing] at hMember hPerm
      obtain rfl := List.mem_singleton.mp hMember
      -- the refresh reported is that of the head, and only the head is connected
      have hOnly : s.refreshSlots = [i] := by
        refine List.perm_singleton.mp ((List.perm_ext_iff_of_nodup h.nodup (by simp)).mpr ?_)
        intro j
        constructor
        · intro hj
          have hij : some i = some j := hReported.symm.trans (hOwner j hj)
          simp [Option.some.inj hij]
        · intro hj
          rwa [List.mem_singleton.mp hj]
      have hDone : (s.refreshes.eraseIdx position).filterMap id = [] := by
        simpa using (List.perm_cons i).mp hPerm
      refine ⟨h.congr rfl rfl rfl rfl rfl, ?_⟩
      exact .signalling hQueue hRequestors hDone hConnected
        (congrArg (Emission.refreshFinished · :: s.emissions) hOnly) hQuiet hStarted
    | idle _ _ hNone | requesting _ _ hNone | signalling _ _ hNone | handing _ _ hNone =>
      -- in no other phase is a refresh of this sequencer under way
      rw [hNone] at hMember
      cases hMember

/-- Quiet emissions unwind without touching anything else. -/
theorem runSlot_quiet {s s' : State} (hQuiet : Quiet s.emissions) (hStep : runSlot s = some s') :
    ∃ emissions, Quiet emissions ∧ s' = { s with emissions } := by
  unfold runSlot at hStep
  split at hStep
  case h_1 => cases hStep
  case h_2 hEmissions | h_5 hEmissions =>
    rw [hEmissions] at hQuiet
    exact ⟨_, hQuiet.tail, (Option.some.inj hStep).symm⟩
  case h_3 sender slots outer hEmissions =>
    rw [hEmissions] at hQuiet
    have hHead : invocations slots = [] := hQuiet _ List.mem_cons_self
    exact ⟨.finished sender slots :: outer, hQuiet.tail.cons hHead, (Option.some.inj hStep).symm⟩
  case h_4 hEmissions | h_6 hEmissions =>
    rw [hEmissions] at hQuiet
    cases hQuiet _ List.mem_cons_self

theorem Inv.runSlot {s s' : State} (h : Inv s) (hStep : runSlot s = some s') : Inv s' := by
  cases h.phase with
  | idle hQueue hRequestors hRefreshing hQuiet hStarted =>
    -- quiet emissions run handlers only
    obtain ⟨emissions, hQuiet', rfl⟩ := runSlot_quiet hQuiet hStep
    exact ⟨h.congr rfl rfl rfl rfl rfl,
      .idle hQueue hRequestors hRefreshing hQuiet' hStarted⟩
  | requesting hQueue hRequestors hRefreshing hQuiet hStarted =>
    obtain ⟨emissions, hQuiet', rfl⟩ := runSlot_quiet hQuiet hStep
    exact ⟨h.congr rfl rfl rfl rfl rfl,
      .requesting hQueue hRequestors hRefreshing hQuiet' hStarted⟩
  | refreshing hQueue hRequestors hRefreshing hConnected hQuiet hStarted =>
    obtain ⟨emissions, hQuiet', rfl⟩ := runSlot_quiet hQuiet hStep
    exact ⟨h.congr rfl rfl rfl rfl rfl,
      .refreshing hQueue hRequestors hRefreshing hConnected hQuiet' hStarted⟩
  | @signalling i rest outer hQueue hRequestors hRefreshing hConnected hEmissions hQuiet hStarted =>
    simp only [RequestSequencer.runSlot, hEmissions, Option.some.injEq] at hStep
    subst hStep
    -- the refresh of the head is over: it leaves the queue
    exact inv_finish (h.congr rfl rfl rfl rfl rfl)
      hQueue hRequestors hRefreshing (hQuiet.cons rfl) hStarted
  | @handing i sender action rest slots outer hQueue hRequestors hRefreshing hConnected hEmissions
      hSlots hQuiet hStarted =>
    cases slots with
    | nil => cases hSlots
    | cons slot slots =>
      cases slot with
      | handler =>
        simp only [RequestSequencer.runSlot, hEmissions, Option.some.injEq] at hStep
        subst hStep
        exact ⟨h.congr rfl rfl rfl rfl rfl,
          .handing hQueue hRequestors hRefreshing hConnected rfl hSlots hQuiet hStarted⟩
      | invoker next act =>
        simp only [RequestSequencer.runSlot, hEmissions, Option.some.injEq] at hStep
        subst hStep
        rw [invocations_invoker, List.cons.injEq, Prod.mk.injEq] at hSlots
        obtain ⟨⟨rfl, rfl⟩, hRest⟩ := hSlots
        -- the functor of the last head starts the next one
        exact inv_invoke
          (h.congr rfl rfl rfl rfl rfl)
          hQueue hRequestors hRefreshing hConnected (hQuiet.cons hRest) hStarted

/-- An emitted invoker is out of the queue: its deletion reaches nobody who waits. -/
theorem Inv.destroy {s : State} (h : Inv s) {i : InvokerId} (hEmitted : i ∈ s.emitted) :
    Inv (RequestSequencer.destroy s i) := by
  -- an invoker is deleted after it has emitted, and then it has left the queue
  have hOther {j : InvokerId} (hj : j ∈ s.requestQueue) : j ≠ i :=
    fun hEq => h.not_emitted hj (hEq ▸ hEmitted)
  have hSame {j : InvokerId} (hj : j ≠ i) :
      (RequestSequencer.destroy s i).finishedSlots j = s.finishedSlots j :=
    Function.update_of_ne hj ..
  have hBefore {j : InvokerId} {call : InvokerId × Action}
      (hCall : call ∈ invocations ((RequestSequencer.destroy s i).finishedSlots j)) :
      call ∈ invocations (s.finishedSlots j) := by
    by_cases hj : j = i
    · subst j
      simp [RequestSequencer.destroy] at hCall
    · rwa [hSame hj] at hCall
  have hConnected {j : InvokerId} {rest : List InvokerId} (hQueue : s.requestQueue = j :: rest)
      (hj : j ∈ s.refreshSlots) : j ∈ s.refreshSlots.erase i :=
    (List.mem_erase_of_ne (hOther (by simp [hQueue]))).mpr hj
  have hLinks : Links (RequestSequencer.destroy s i) :=
    { order := h.order
      chained := h.chained.congr fun j hj => by rw [hSame (hOther hj)]
      fresh := fun j hj =>
        (hSame ((h.emitted_lt hEmitted).trans_le hj).ne').trans (h.fresh j hj)
      targets := fun j next act hNext => h.targets j next act (hBefore hNext)
      subscribed := fun j next hNext hMem =>
        (List.mem_erase_of_ne (hOther hMem)).mpr (h.subscribed j next (hBefore hNext) hMem)
      nodup := h.nodup.erase i
      bounded := fun j hj => h.bounded j (List.mem_of_mem_erase hj) }
  refine ⟨hLinks, ?_⟩
  cases h.phase with
  | idle hQueue hRequestors hRefreshing hQuiet hStarted =>
    exact .idle hQueue hRequestors hRefreshing (hQuiet.forget i) hStarted
  | requesting hQueue hRequestors hRefreshing hQuiet hStarted =>
    exact .requesting hQueue hRequestors hRefreshing (hQuiet.forget i) hStarted
  | refreshing hQueue hRequestors hRefreshing hHead hQuiet hStarted =>
    exact .refreshing hQueue hRequestors hRefreshing (hConnected hQueue hHead) (hQuiet.forget i)
      hStarted
  | @signalling j rest outer hQueue hRequestors hRefreshing hHead hEmissions hQuiet hStarted =>
    have hij : j ≠ i := hOther (by simp [hQueue])
    have hForget : s.emissions.map (Emission.forget i) =
        .refreshFinished [j] :: outer.map (Emission.forget i) := by
      simp [hEmissions, Emission.forget, hij]
    exact .signalling hQueue hRequestors hRefreshing (hConnected hQueue hHead) hForget
      (hQuiet.forget i) hStarted
  | @handing j sender action rest slots outer hQueue hRequestors hRefreshing hHead hEmissions
      hSlots hQuiet hStarted =>
    have hForget : s.emissions.map (Emission.forget i) =
        .finished sender slots :: outer.map (Emission.forget i) := by
      simp [hEmissions, Emission.forget]
    exact .handing hQueue hRequestors hRefreshing
      (fun hRefresh => hConnected hQueue (hHead hRefresh)) hForget hSlots (hQuiet.forget i) hStarted

/-- Every event whose refresh signal is its receiver's own keeps the invariant. -/
theorem Inv.step {s s' : State} {e : Event} (h : Inv s) (hOwn : OwnRefresh s e)
    (hStep : step s e = some s') : Inv s' := by
  cases stepped hStep with
  | enqueue action => exact h.enqueue action
  | connect hCreated => exact h.connect hCreated
  | requestorFinished hRequestor => exact h.requestorFinished hRequestor
  | foreignRefresh => exact h.foreignRefresh
  | refreshFinished hPosition => exact h.refreshFinished hPosition hOwn
  | runSlot hRun => exact h.runSlot hRun
  | destroy hEmitted => exact h.destroy hEmitted

theorem inv_of_reachable {s : State} (h : Reachable step OwnRefresh (· = initial) s) : Inv s :=
  h.invariant (fun _ hInitial => hInitial ▸ inv_initial) fun _ _ _ hInv hOwn hStep =>
    hInv.step hOwn hStep

end SrcLink.RequestSequencer
