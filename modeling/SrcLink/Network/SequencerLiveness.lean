import SrcLink.Network.SequencerExclusion
import SrcLink.Network.SequencerSteps
import Mathlib.Tactic.IntervalCases

/-! # Nobody waits for ever

An invoker need not follow the one before it in the queue, and yet it is served: its
functor hangs on the invoker that was last when it came, and an emission that has
returned has run all its slots.
-/

namespace SrcLink.RequestSequencer

set_option autoImplicit false

open StepSystem Execution

/-- The network answers: requestors report, refreshes report as long as any are under way, and
the calls made by signals return. -/
structure Answered (x : Execution step) : Prop where
  reports : ∀ n, ∀ i ∈ (x.state n).requestors,
    ∃ m, n ≤ m ∧ x.event m = some (.requestorFinished i)
  refreshes : ∀ n, (x.state n).refreshes ≠ [] →
    ∃ m, n ≤ m ∧ ∃ position, x.event m = some (.refreshFinished position)
  returns : ∀ n depth, depth < (x.state n).emissions.length →
    ∃ m, n ≤ m ∧ (x.state m).emissions.length ≤ depth

/-- A refresh invoker hears the shared signal, or has emitted. -/
def Connected (i : InvokerId) (action : Action) (s : State) : Prop :=
  action = .refresh → i ∈ s.refreshSlots ∨ i ∈ s.emitted

theorem connected_stable (i : InvokerId) (action : Action) : Stable step (Connected i action) := by
  intro s e s' h hStep hRefresh
  rcases h hRefresh with hConnected | hEmitted
  · exact refreshSlots_until i s e s' hConnected hStep
  · exact .inr (emitted_stable i s e s' hEmitted hStep)

theorem refreshes_step {s s' : State} {e : Event} (h : s.refreshes ≠ [])
    (hStep : step s e = some s') :
    s'.refreshes ≠ [] ∨ ∃ position, e = .refreshFinished position := by
  have hInvoke : ∀ (t : State) i action, t.refreshes ≠ [] →
      (invoke t i action).refreshes ≠ [] := by
    intro t i action ht
    cases action with
    | request => exact ht
    | refresh => exact List.append_ne_nil_of_left_ne_nil ht _
  cases stepped hStep with
  | enqueue action =>
    refine .inl ?_
    cases hLast : s.requestQueue.getLast? with
    | none =>
      rw [enqueue_eq_invoke action (List.getLast?_eq_none_iff.mp hLast)]
      exact hInvoke (headed s action) _ _ h
    | some last =>
      rw [enqueue_eq_linked action hLast]
      exact h
  | connect | requestorFinished | destroy => exact .inl h
  | foreignRefresh => exact .inl (List.append_ne_nil_of_left_ne_nil h _)
  | refreshFinished => exact .inr ⟨_, rfl⟩
  | runSlot hRun =>
    refine .inl ?_
    simp only [runSlot] at hRun
    split at hRun
    case h_1 => cases hRun
    all_goals
      obtain rfl := Option.some.inj hRun
      first
        | exact h
        | exact hInvoke _ _ _ h

section Progress

variable {x : Execution step}

/-- A signal that is delivered completes every invoker that it still has to reach. -/
theorem delivered (hAnswered : Answered x) (depth : Nat) (i : InvokerId) :
    x.LeadsTo (fun s => ∃ receivers, Under depth (.refreshFinished receivers) s ∧ i ∈ receivers)
      fun s => i ∈ s.emitted := by
  apply LeadsTo.of_leaves
  · rintro s e s' ⟨receivers, hUnder, hi⟩ hStep
    cases advanced_of_step hUnder hStep with
    | kept hUnder' => exact .inl ⟨receivers, hUnder', hi⟩
    | @forgotten _ j hEmitted hUnder' =>
      by_cases hij : i = j
      · exact .inr (hij ▸ hEmitted)
      · exact .inl ⟨_, hUnder', (List.mem_erase_of_ne hij).mpr hi⟩
    | received hUnder' hEmitted =>
      rcases List.mem_cons.mp hi with rfl | hi
      · exact .inr hEmitted
      · exact .inl ⟨_, hUnder', hi⟩
    | refreshFinished => cases hi
  · rintro n ⟨receivers, hUnder, hi⟩
    obtain ⟨m, hnm, hReturned⟩ := hAnswered.returns n depth hUnder.depth_lt
    exact ⟨m, hnm, fun ⟨_, hStill, _⟩ => absurd hStill.depth_lt (Nat.not_lt.mpr hReturned)⟩

/-- An emission runs the functors that it still has to run. -/
theorem launched (hAnswered : Answered x) (depth : Nat) (i : InvokerId) (action : Action) :
    x.LeadsTo (fun s => ∃ sender slots, Under depth (.finished sender slots) s ∧
        (i, action) ∈ invocations slots)
      (Invoked i action) := by
  apply LeadsTo.of_leaves
  · rintro s e s' ⟨sender, slots, hUnder, hi⟩ hStep
    cases advanced_of_step hUnder hStep with
    | kept hUnder' => exact .inl ⟨sender, slots, hUnder', hi⟩
    | forgotten _ hUnder' => exact .inl ⟨sender, slots, hUnder', hi⟩
    | handled hUnder' => exact .inl ⟨sender, _, hUnder', hi⟩
    | invoked hUnder' hInvoked =>
      rcases List.mem_cons.mp hi with hSame | hi
      · cases hSame
        exact .inr hInvoked
      · exact .inl ⟨sender, _, hUnder', hi⟩
    | finished => cases hi
  · rintro n ⟨sender, slots, hUnder, hi⟩
    obtain ⟨m, hnm, hReturned⟩ := hAnswered.returns n depth hUnder.depth_lt
    exact ⟨m, hnm, fun ⟨_, _, hStill, _⟩ => absurd hStill.depth_lt (Nat.not_lt.mpr hReturned)⟩

theorem requested (hAnswered : Answered x) (i : InvokerId) :
    x.LeadsTo (fun s => i ∈ s.requestors) fun s => i ∈ s.emitted := by
  apply LeadsTo.of_event (p := (· = .requestorFinished i)) (requestors_until i)
  · rintro s e s' hi rfl hStep
    cases stepped hStep with
    | requestorFinished => exact List.mem_append_right _ (List.mem_singleton_self _)
  · intro n hi
    obtain ⟨m, hnm, hEvent⟩ := hAnswered.reports n i hi
    exact ⟨m, hnm, _, hEvent, rfl⟩

/-- Any refresh that reports will do, since the signal is shared. -/
theorem refreshed (hAnswered : Answered x) (i : InvokerId) :
    x.LeadsTo (fun s => i ∈ s.refreshSlots ∧ s.refreshes ≠ []) fun s => i ∈ s.emitted := by
  have hDelivers : ∀ s e s', i ∈ s.refreshSlots → (∃ position, e = .refreshFinished position) →
      step s e = some s' →
      ∃ depth receivers, Under depth (.refreshFinished receivers) s' ∧ i ∈ receivers := by
    rintro s e s' hi ⟨position, rfl⟩ hStep
    cases stepped hStep with
    | refreshFinished =>
      have hSomebody : s.refreshSlots ≠ [] := List.ne_nil_of_mem hi
      rw [emitRefreshFinished, if_neg hSomebody]
      exact ⟨_, s.refreshSlots, ⟨[], s.emissions, rfl, rfl⟩, hi⟩
  have hSignalled : x.LeadsTo (fun s => i ∈ s.refreshSlots ∧ s.refreshes ≠ [])
      (fun s => (∃ depth receivers, Under depth (.refreshFinished receivers) s ∧ i ∈ receivers) ∨
        i ∈ s.emitted) := by
    apply LeadsTo.of_event (p := fun e => ∃ position, e = .refreshFinished position)
    · rintro s e s' ⟨hi, hRefreshes⟩ hStep
      rcases refreshes_step hRefreshes hStep with hStill | hReported
      · rcases refreshSlots_until i s e s' hi hStep with hConnected | hEmitted
        · exact .inl ⟨hConnected, hStill⟩
        · exact .inr (.inr hEmitted)
      · exact .inr (.inl (hDelivers s e s' hi hReported hStep))
    · rintro s e s' ⟨hi, -⟩ hReported hStep
      exact .inl (hDelivers s e s' hi hReported hStep)
    · rintro n ⟨_, hRefreshes⟩
      obtain ⟨m, hnm, position, hEvent⟩ := hAnswered.refreshes n hRefreshes
      exact ⟨m, hnm, _, hEvent, position, rfl⟩
  refine hSignalled.trans (LeadsTo.or ?_ (LeadsTo.of_imp fun _ => id))
  rintro n ⟨depth, hDelivering⟩
  exact delivered hAnswered depth i n hDelivering

theorem invoked (hAnswered : Answered x) (i : InvokerId) (action : Action) :
    x.LeadsTo (fun s => Invoked i action s ∧ Connected i action s) fun s => i ∈ s.emitted := by
  rintro n ⟨hInvoked, hConnected⟩
  cases action with
  | request => exact requested hAnswered i n hInvoked
  | refresh =>
    rcases hConnected rfl with hHears | hEmitted
    · exact refreshed hAnswered i n ⟨hHears, List.ne_nil_of_mem hInvoked⟩
    · exact ⟨n, le_rfl, hEmitted⟩

/-- An invoker that emits runs the functors that hang on it. -/
theorem linked_launched (hAnswered : Answered x) {j : InvokerId} (i : InvokerId) (action : Action)
    (hServed : x.LeadsTo (fun s => j < s.created) fun s => j ∈ s.emitted) :
    x.LeadsTo (fun s => (Waiting s ∧ j < s.created) ∧ j ∉ s.emitted ∧
        (i, action) ∈ invocations (s.finishedSlots j))
      (Invoked i action) := by
  have hEmits : x.LeadsTo (fun s => (Waiting s ∧ j < s.created) ∧ j ∉ s.emitted ∧
        (i, action) ∈ invocations (s.finishedSlots j))
      (fun s => ∃ depth sender slots, Under depth (.finished sender slots) s ∧
        (i, action) ∈ invocations slots) := by
    apply LeadsTo.of_leaves
    · rintro s e s' ⟨⟨hWaiting, hj⟩, hBefore, hLinked⟩ hStep
      by_cases hNow : j ∈ s'.emitted
      · obtain ⟨depth, hUnder⟩ := under_of_emitted hStep hBefore hNow
        exact .inr ⟨depth, _, _, hUnder, hLinked⟩
      · exact .inl ⟨⟨hWaiting.step hStep, hj.trans_le (step_grows hStep).1⟩, hNow,
          slots_step hStep hBefore hLinked⟩
    · rintro n ⟨⟨_, hj⟩, _⟩
      obtain ⟨m, hnm, hEmitted⟩ := hServed n hj
      exact ⟨m, hnm, fun ⟨_, hNot, _⟩ => hNot hEmitted⟩
  refine hEmits.trans ?_
  rintro n ⟨depth, hLaunching⟩
  exact launched hAnswered depth i action n hLaunching

/-- Where an invoker stands when it has just been queued. -/
theorem queued {s : State} (hWaiting : Waiting s) (action : Action) :
    Connected s.created action (enqueue s action) ∧
      (Invoked s.created action (enqueue s action) ∨
        ∃ j < s.created, j ∉ (enqueue s action).emitted ∧
          (s.created, action) ∈ invocations ((enqueue s action).finishedSlots j)) := by
  have hHears : ∀ {t : State}, t.refreshSlots = subscriptions s action →
      Connected s.created action t := by
    rintro t hSlots rfl
    exact .inl (hSlots ▸ List.mem_append_right _ (List.mem_singleton_self _))
  cases hLast : s.requestQueue.getLast? with
  | none =>
    rw [enqueue_eq_invoke action (List.getLast?_eq_none_iff.mp hLast)]
    exact ⟨hHears (invoke_refreshSlots ..), .inl (invoked_invoke ..)⟩
  | some last =>
    have hQueued := List.mem_of_getLast? hLast
    rw [enqueue_eq_linked action hLast]
    refine ⟨hHears rfl, .inr ⟨last, hWaiting.queue last hQueued,
      hWaiting.unemitted last hQueued, ?_⟩⟩
    simp [linked]

theorem created_step {s s' : State} {e : Event} (hStep : step s e = some s') :
    s'.created = s.created ∨
      ∃ action, s' = enqueue s action ∧ s'.created = s.created + 1 := by
  cases stepped hStep with
  | enqueue action =>
    refine .inr ⟨action, rfl, ?_⟩
    cases hLast : s.requestQueue.getLast? with
    | none =>
      rw [enqueue_eq_invoke action (List.getLast?_eq_none_iff.mp hLast), invoke_created]
      rfl
    | some last =>
      rw [enqueue_eq_linked action hLast]
      rfl
  | connect | requestorFinished | foreignRefresh | destroy => exact .inl rfl
  | refreshFinished =>
    unfold emitRefreshFinished
    split <;> exact .inl rfl
  | runSlot hRun =>
    refine .inl ?_
    simp only [runSlot] at hRun
    split at hRun
    case h_1 => cases hRun
    all_goals
      obtain rfl := Option.some.inj hRun
      first
        | rfl
        | exact invoke_created ..

/-- Every invoker was queued at some instant. -/
theorem queued_at (hStart : x.state 0 = initial) {n : Nat} {i : InvokerId}
    (hi : i < (x.state n).created) :
    ∃ k < n, (x.state k).created = i ∧ ∃ action, x.state (k + 1) = enqueue (x.state k) action := by
  induction n with
  | zero =>
    rw [hStart] at hi
    exact absurd hi (Nat.not_lt_zero i)
  | succ n ih =>
    by_cases hBefore : i < (x.state n).created
    · obtain ⟨k, hk, hQueued⟩ := ih hBefore
      exact ⟨k, Nat.lt_succ_of_lt hk, hQueued⟩
    · cases hEvent : x.event n with
      | none => exact absurd (x.next_of_none hEvent ▸ hi) hBefore
      | some e =>
        rcases created_step (x.next_of_event hEvent) with hSame | ⟨action, hQueued, hCreated⟩
        · exact absurd (hSame ▸ hi) hBefore
        · rw [hCreated] at hi
          have hLast : (x.state n).created = i :=
            Nat.le_antisymm (Nat.le_of_not_lt hBefore) (Nat.le_of_lt_succ hi)
          exact ⟨n, Nat.lt_succ_self n, hLast, action, hQueued⟩

theorem waiting_state (hStart : x.state 0 = initial) (n : Nat) : Waiting (x.state n) :=
  x.always Waiting (hStart ▸ waiting_initial) (fun _ _ _ h hStep => h.step hStep) n

/-- By induction on the order of queueing: an invoker hangs on an earlier one. -/
theorem served_of_answered (hStart : x.state 0 = initial) (hAnswered : Answered x)
    (i : InvokerId) : x.LeadsTo (fun s => i < s.created) fun s => i ∈ s.emitted := by
  induction i using Nat.strong_induction_on with
  | _ i ih =>
    intro n hi
    obtain ⟨k, hkn, rfl, action, hQueued⟩ := queued_at hStart hi
    have hWaiting := waiting_state hStart k
    obtain ⟨hConnected, hStage⟩ := queued hWaiting action
    rw [← hQueued] at hConnected hStage
    have hInvoked : ∃ m, k + 1 ≤ m ∧ Invoked (x.state k).created action (x.state m) := by
      rcases hStage with hNow | ⟨j, hj, hBefore, hLinked⟩
      · exact ⟨k + 1, le_rfl, hNow⟩
      · have hCreated := created_monotone x (Nat.le_succ k)
        exact linked_launched hAnswered _ action (ih j hj) (k + 1)
          ⟨⟨waiting_state hStart (k + 1), hj.trans_le hCreated⟩, hBefore, hLinked⟩
    obtain ⟨m, hkm, hInvoked⟩ := hInvoked
    obtain ⟨m', hmm', hEmitted⟩ := invoked hAnswered _ action m
      ⟨hInvoked, x.later_of_stable (connected_stable _ action) hkm hConnected⟩
    -- it may have emitted long before the instant asked about
    exact ⟨max n m', le_max_left .., x.later_of_stable (emitted_stable _) (le_max_right ..) hEmitted⟩

theorem emitted_of_answered (hStart : x.state 0 = initial) (hAnswered : Answered x)
    {n : Nat} {i : InvokerId} (hi : i < (x.state n).created) :
    ∃ m, n ≤ m ∧ ∀ k, m ≤ k → i ∈ (x.state k).emitted := by
  obtain ⟨m, hnm, hEmitted⟩ := served_of_answered hStart hAnswered i n hi
  exact ⟨m, hnm, fun k hmk => x.later_of_stable (emitted_stable i) hmk hEmitted⟩

end Progress

/-- However refreshes and requests are mixed, everybody who was queued emits in the end, as long as
no functor of a destroyed invoker is next; none is while each refresh signal reaches its own
invoker only. -/
theorem eventually_emitted_of_answered :
    (∀ s, Reachable step OwnRefresh (· = initial) s → s.dangling = false) ∧
      ∀ x : Execution step, x.state 0 = initial → Answered x → ∀ n i, i < (x.state n).created →
        ∃ m, n ≤ m ∧ ∀ k, m ≤ k → i ∈ (x.state k).emitted :=
  ⟨fun _ => not_dangling_of_ownRefresh, fun _ hStart hAnswered _ _ =>
    emitted_of_answered hStart hAnswered⟩

/-- A run that leaves nothing under way has been answered if each report came in time. -/
theorem answered_ofRun {es : List Event} (hRun : (run step initial es).isSome)
    (hEnd : (stateAfter step initial es es.length).requestors = [] ∧
      (stateAfter step initial es es.length).refreshes = [] ∧
      (stateAfter step initial es es.length).emissions = [])
    (hReports : ∀ n < es.length, ∀ i ∈ (stateAfter step initial es n).requestors,
      ∃ m < es.length, n ≤ m ∧ es[m]? = some (.requestorFinished i))
    (hRefreshes : ∀ n < es.length, (stateAfter step initial es n).refreshes ≠ [] →
      ∃ m < es.length, n ≤ m ∧ ∃ position < es.length, es[m]? = some (.refreshFinished position)) :
    Answered (Execution.ofRun step initial es hRun) := by
  have hDone : ∀ n, es.length ≤ n →
      stateAfter step initial es n = stateAfter step initial es es.length := by
    intro n hn
    rw [stateAfter, stateAfter, List.take_of_length_le hn, List.take_length]
  constructor
  · intro n i hi
    change i ∈ (stateAfter step initial es n).requestors at hi
    by_cases hn : n < es.length
    · obtain ⟨m, _, hnm, hEvent⟩ := hReports n hn i hi
      exact ⟨m, hnm, hEvent⟩
    · rw [hDone n (Nat.le_of_not_lt hn), hEnd.1] at hi
      cases hi
  · intro n hSome
    change (stateAfter step initial es n).refreshes ≠ [] at hSome
    by_cases hn : n < es.length
    · obtain ⟨m, _, hnm, position, _, hEvent⟩ := hRefreshes n hn hSome
      exact ⟨m, hnm, position, hEvent⟩
    · rw [hDone n (Nat.le_of_not_lt hn), hEnd.2.1] at hSome
      exact absurd rfl hSome
  · intro n depth _
    refine ⟨max n es.length, le_max_left .., ?_⟩
    change (stateAfter step initial es _).emissions.length ≤ depth
    rw [hDone _ (le_max_right ..), hEnd.2.2]
    exact Nat.zero_le depth

/-- Two refreshes and a request: the first signal completes both refreshes, and the second
refresh reports when nobody hears it any more. -/
def sharedSignal : List Event :=
  [.enqueue .refresh, .enqueue .refresh, .enqueue .request, .refreshFinished 0, .runSlot, .runSlot,
    .runSlot, .runSlot, .runSlot, .runSlot, .runSlot, .destroy 0, .destroy 1, .refreshFinished 0,
    .requestorFinished 2, .runSlot]

def sharedSignalExecution : Execution step := Execution.ofRun step initial sharedSignal rfl

theorem sharedSignal_answered : Answered sharedSignalExecution :=
  answered_ofRun rfl (by decide +kernel) (by decide +kernel) (by decide +kernel)

theorem eventually_emitted_of_answered_sharedSignal :
    (sharedSignalExecution.state 9).inFlight = [2, 1] ∧
      ∃ m, 3 ≤ m ∧ ∀ k, m ≤ k → 1 ∈ (sharedSignalExecution.state k).emitted :=
  ⟨by decide +kernel,
    eventually_emitted_of_answered.2 sharedSignalExecution rfl sharedSignal_answered 3 1
      (by decide)⟩

structure Ordered (s : State) : Prop where
  startedPrefix : s.started <+: List.range s.created
  startedOnce : s.started.Nodup
  emittedPrefix : s.emitted <+: s.started
  emittedOnce : s.emitted.Nodup
  busy : s.emissions = [] → (s.requestQueue = [] ↔ s.inFlight = [])

theorem Inv.ordered {s : State} (h : Inv s) : Ordered s := by
  have hEmitted : s.emitted <+: List.range s.created := h.order ▸ List.prefix_append ..
  have hStarted : s.started <+: List.range s.created := by
    rcases h.phase.started_cases with hSame | ⟨i, rest, hQueue, hHead⟩
    · rwa [hSame]
    · refine ⟨rest, ?_⟩
      rw [hHead, ← h.order, hQueue, List.append_assoc, List.singleton_append]
  refine
    { startedPrefix := hStarted
      startedOnce := hStarted.sublist.nodup List.nodup_range
      emittedPrefix := h.phase.emitted_prefix
      emittedOnce := hEmitted.sublist.nodup List.nodup_range
      busy := fun hReturned => ?_ }
  cases h.phase with
  | idle hQueue hRequestors hRefreshing =>
    simp [State.inFlight, hQueue, hRequestors, hRefreshing]
  | requesting hQueue hRequestors => simp [State.inFlight, hQueue, hRequestors]
  | refreshing hQueue _ hRefreshing => simp [State.inFlight, hQueue, hRefreshing]
  | signalling _ _ _ _ hEmissions | handing _ _ _ _ hEmissions =>
    rw [hEmissions] at hReturned
    cases hReturned

theorem Ordered.counts {s : State} (h : Ordered s) {i : InvokerId} (hi : i ∈ s.emitted) :
    s.started.count i = 1 ∧ s.emitted.count i = 1 :=
  ⟨List.count_eq_one_of_mem h.startedOnce (h.emittedPrefix.subset hi),
    List.count_eq_one_of_mem h.emittedOnce hi⟩

/-- While each refresh signal reaches its own invoker only, refreshes and requests start in the
order they are queued, and each of them is started once and reported once in the end. -/
theorem served_in_order :
    (∀ s, Reachable step OwnRefresh (· = initial) s → Ordered s) ∧
      ∀ x : Execution step, x.state 0 = initial →
        (∀ n e, x.event n = some e → OwnRefresh (x.state n) e) → Answered x →
        ∀ n i, i < (x.state n).created → ∃ m, n ≤ m ∧ ∀ k, m ≤ k →
          (x.state k).started.count i = 1 ∧ (x.state k).emitted.count i = 1 := by
  constructor
  · exact fun s h => (inv_of_reachable h).ordered
  · intro x hStart hOwn hAnswered n i hi
    have hInv : ∀ k, Inv (x.state k) := x.invariant hOwn (hStart ▸ inv_initial)
      fun _ _ _ h hGuard hStep => h.step hGuard hStep
    obtain ⟨m, hnm, hEmitted⟩ := emitted_of_answered hStart hAnswered hi
    exact ⟨m, hnm, fun k hmk => (hInv k).ordered.counts (hEmitted k hmk)⟩

/-- A refresh and the request that waits for it. -/
def refreshThenRequest : List Event :=
  [.enqueue .refresh, .enqueue .request, .refreshFinished 0, .runSlot, .runSlot, .runSlot, .runSlot,
    .requestorFinished 1, .runSlot]

def refreshThenRequestExecution : Execution step :=
  Execution.ofRun step initial refreshThenRequest rfl

theorem refreshThenRequest_answered : Answered refreshThenRequestExecution :=
  answered_ofRun rfl (by decide +kernel) (by decide +kernel) (by decide +kernel)

theorem refreshThenRequest_ownRefresh (n : Nat) (e : Event)
    (hEvent : refreshThenRequestExecution.event n = some e) :
    OwnRefresh (refreshThenRequestExecution.state n) e := by
  have hBefore : n < 9 := (List.getElem?_eq_some_iff.mp hEvent).1
  have hOwner : ∀ i ∈ (refreshThenRequestExecution.state 2).refreshSlots, i = 0 := by decide
  interval_cases n
  case «2» =>
    obtain rfl := Option.some.inj hEvent
    intro owner hFirst i hi
    obtain rfl : some 0 = owner := Option.some.inj hFirst
    rw [hOwner i hi]
  all_goals
    obtain rfl := Option.some.inj hEvent
    trivial

theorem served_in_order_refreshThenRequest :
    Ordered (refreshThenRequestExecution.state 2) ∧
      ∃ m, 2 ≤ m ∧ ∀ k, m ≤ k → (refreshThenRequestExecution.state k).started.count 1 = 1 ∧
        (refreshThenRequestExecution.state k).emitted.count 1 = 1 :=
  ⟨served_in_order.1 _ (.next (e := .enqueue .request) (.next (e := .enqueue .refresh) (.start rfl)
      trivial rfl) trivial rfl),
    served_in_order.2 refreshThenRequestExecution rfl refreshThenRequest_ownRefresh
      refreshThenRequest_answered 2 1 (by decide)⟩

end SrcLink.RequestSequencer
