import SrcLink.Network.SequencerExclusion
import Mathlib.Data.List.Nodup

/-! # Order and progress of HTTP requests

Without refresh invokers the sequencer is a FIFO queue: requests start in the
order they are queued, one at a time, and none of them is lost as long as
started requests report and the calls made by slots return.
-/

namespace SrcLink.RequestSequencer

set_option autoImplicit false

open StepSystem

/-- Only HTTP requests are queued. -/
def HttpOnly (_ : State) : Event → Prop
  | .enqueue action => action = .request
  | _ => True

structure InOrder (s : State) : Prop where
  startedPrefix : s.started <+: List.range s.created
  startedOnce : s.started.Nodup
  emittedPrefix : s.emitted <+: s.started
  emittedOnce : s.emitted.Nodup
  busy : (∀ e ∈ s.emissions, e.isFinished = false) → (s.requestQueue = [] ↔ s.inFlight = [])

theorem Phase.busy {s : State} (h : Phase s) (hNoneFinished : ∀ e ∈ s.emissions, e.isFinished = false)
    (hNoRefresh : s.refreshSlots = []) : s.requestQueue = [] ↔ s.inFlight = [] := by
  cases h with
  | idle hQueue hRequestors hRefreshing =>
    simp [State.inFlight, hQueue, hRequestors, hRefreshing]
  | requesting hQueue hRequestors => simp [State.inFlight, hQueue, hRequestors]
  | refreshing hQueue _ hRefreshing => simp [State.inFlight, hQueue, hRefreshing]
  | signalling _ _ _ hConnected =>
    rw [hNoRefresh] at hConnected
    cases hConnected
  | handing _ _ _ _ hEmissions =>
    rw [hEmissions] at hNoneFinished
    cases hNoneFinished _ List.mem_cons_self

/-- The invariant of runs without refresh invokers. -/
structure HttpInv (s : State) : Prop extends Inv s where
  noRefresh : s.refreshSlots = []

theorem HttpInv.inOrder {s : State} (h : HttpInv s) : InOrder s := by
  have hEmitted : s.emitted <+: List.range s.created := h.order ▸ List.prefix_append ..
  have hStarted : s.started <+: List.range s.created := by
    rcases h.phase.started_cases with hSame | ⟨i, rest, hQueue, hHead⟩
    · rwa [hSame]
    · refine ⟨rest, ?_⟩
      rw [hHead, ← h.order, hQueue, List.append_assoc, List.singleton_append]
  exact
    { startedPrefix := hStarted
      startedOnce := hStarted.sublist.nodup List.nodup_range
      emittedPrefix := h.phase.emitted_prefix
      emittedOnce := hEmitted.sublist.nodup List.nodup_range
      busy := fun hNoneFinished => h.phase.busy hNoneFinished h.noRefresh }

theorem HttpInv.ownRefresh {s : State} (h : HttpInv s) (e : Event) : OwnRefresh s e := by
  cases e with
  | refreshFinished position =>
    intro _ _ i hi
    rw [h.noRefresh] at hi
    cases hi
  | _ => trivial

/-- An HTTP request connects to no shared signal. -/
theorem step_refreshSlots {s s' : State} {e : Event} (hNone : s.refreshSlots = [])
    (hHttp : HttpOnly s e) (hStep : step s e = some s') : s'.refreshSlots = [] := by
  cases stepped hStep with
  | enqueue action =>
    obtain rfl : action = .request := hHttp
    -- an HTTP request does not connect to `refreshFinished`
    simp only [enqueue, queue]
    split
    · simpa using hNone
    · exact hNone
  | connect | requestorFinished | foreignRefresh => exact hNone
  | refreshFinished => simp [emitRefreshFinished, hNone]
  | runSlot hRun =>
    simp only [runSlot] at hRun
    split at hRun
    case h_1 => cases hRun
    all_goals
      obtain rfl := Option.some.inj hRun
      first
        | exact hNone
        | simpa using hNone
  | destroy => simp [destroy, hNone]

theorem HttpInv.step {s s' : State} {e : Event} (h : HttpInv s) (hHttp : HttpOnly s e)
    (hStep : step s e = some s') : HttpInv s' :=
  ⟨h.toInv.step (h.ownRefresh e) hStep, step_refreshSlots h.noRefresh hHttp hStep⟩

theorem httpInv_initial : HttpInv initial := ⟨inv_initial, rfl⟩

theorem step_grows {s s' : State} {e : Event} (hStep : step s e = some s') :
    s.created ≤ s'.created ∧ s.emitted <+: s'.emitted := by
  cases stepped hStep with
  | enqueue action =>
    cases hLast : s.requestQueue.getLast? with
    | none =>
      rw [enqueue_eq_invoke action (List.getLast?_eq_none_iff.mp hLast)]
      simp [headed]
    | some last =>
      rw [enqueue_eq_linked action hLast]
      simp [linked]
  | connect | foreignRefresh | destroy => exact ⟨le_rfl, List.prefix_rfl⟩
  | requestorFinished => exact ⟨le_rfl, List.prefix_append ..⟩
  | refreshFinished =>
    unfold emitRefreshFinished
    split <;> exact ⟨le_rfl, List.prefix_rfl⟩
  | runSlot hRun =>
    simp only [runSlot] at hRun
    split at hRun
    case h_1 => cases hRun
    all_goals
      obtain rfl := Option.some.inj hRun
      simp [onO2RefreshFinished, finish]

theorem emitted_monotone (x : Execution step) :
    Monotone fun n => (x.state n).emitted.length :=
  x.monotone (f := fun s => s.emitted.length)
    (fun _ _ _ hStep => (step_grows hStep).2.length_le)

theorem created_monotone (x : Execution step) : Monotone fun n => (x.state n).created :=
  x.monotone (f := fun s => s.created) (fun _ _ _ hStep => (step_grows hStep).1)

/-- A request in flight stays alone in flight until it reports. -/
theorem HttpInv.requesting_step {s s' : State} {e : Event} {i : InvokerId} (h : HttpInv s)
    (hBusy : s.requestors = [i]) (hStep : RequestSequencer.step s e = some s') :
    s'.requestors = [i] ∧ e ≠ .requestorFinished i ∨ s'.emitted = s.emitted ++ [i] := by
  -- only in the phase `requesting` is a requestor in flight
  have hPhase : (∃ rest, s.requestQueue = i :: rest) ∧ Quiet s.emissions := by
    cases h.phase with
    | requesting hQueue hRequestors _ hQuiet =>
      obtain rfl := List.singleton_inj.mp (hRequestors.symm.trans hBusy)
      exact ⟨⟨_, hQueue⟩, hQuiet⟩
    | idle _ hNone | refreshing _ hNone | signalling _ hNone | handing _ hNone =>
      rw [hNone] at hBusy
      cases hBusy
  obtain ⟨⟨rest, hQueue⟩, hQuiet⟩ := hPhase
  cases stepped hStep with
  | enqueue action =>
    obtain ⟨last, hLinked⟩ := exists_enqueue_eq_linked action hQueue
    rw [hLinked]
    exact .inl ⟨hBusy, nofun⟩
  | connect | foreignRefresh | destroy => exact .inl ⟨hBusy, nofun⟩
  | requestorFinished hRequestor =>
    rw [hBusy] at hRequestor
    obtain rfl := List.mem_singleton.mp hRequestor
    exact .inr rfl
  | refreshFinished =>
    refine .inl ⟨?_, nofun⟩
    simpa [emitRefreshFinished, h.noRefresh] using hBusy
  | runSlot hRun =>
    obtain ⟨emissions, _, rfl⟩ := runSlot_quiet hQuiet hRun
    exact .inl ⟨hBusy, nofun⟩

/-- The innermost emission still has to start the head of the queue. -/
structure Handing (s : State) (slots : List Slot) : Prop where
  innermost : ∃ sender outer, s.emissions = .finished sender slots :: outer
  pending : invocations slots ≠ []

/-- Nothing is emitted on top of a pending start, and each slot run brings it nearer. -/
theorem HttpInv.handing_step {s s' : State} {e : Event} {slots : List Slot} (h : HttpInv s)
    (hHanding : Handing s slots) (hStep : RequestSequencer.step s e = some s') :
    Handing s' slots ∧ e ≠ .runSlot ∨ (∃ i, s'.requestors = [i]) ∨
      ∃ slot rest, slots = slot :: rest ∧ Handing s' rest := by
  obtain ⟨⟨sender, outer, hEmissions⟩, hPending⟩ := hHanding
  -- in the other phases all emissions are quiet
  have hPhase : s.requestors = [] ∧ ∃ i rest action, s.requestQueue = i :: rest ∧
      invocations slots = [(i, action)] ∧ (action = .refresh → i ∈ s.refreshSlots) := by
    cases h.phase with
    | idle _ _ _ hQuiet | requesting _ _ _ hQuiet | refreshing _ _ _ _ hQuiet =>
      rw [hEmissions] at hQuiet
      exact absurd (hQuiet _ List.mem_cons_self) hPending
    | signalling _ _ _ _ hOther => cases hEmissions.symm.trans hOther
    | handing hQueue hRequestors _ hConnected hSame hSlots =>
      cases hEmissions.symm.trans hSame
      exact ⟨hRequestors, _, _, _, hQueue, hSlots, hConnected⟩
  obtain ⟨hRequestors, i, rest, action, hQueue, hSlots, hConnected⟩ := hPhase
  cases stepped hStep with
  | enqueue action =>
    obtain ⟨last, hLinked⟩ := exists_enqueue_eq_linked action hQueue
    rw [hLinked]
    exact .inl ⟨⟨⟨sender, outer, hEmissions⟩, hPending⟩, nofun⟩
  | connect | foreignRefresh =>
    exact .inl ⟨⟨⟨sender, outer, hEmissions⟩, hPending⟩, nofun⟩
  | requestorFinished hRequestor =>
    rw [hRequestors] at hRequestor
    cases hRequestor
  | refreshFinished =>
    refine .inl ⟨⟨⟨sender, outer, ?_⟩, hPending⟩, nofun⟩
    -- no invoker is connected to the signal
    simpa [emitRefreshFinished, h.noRefresh] using hEmissions
  | @destroy j =>
    refine .inl ⟨⟨⟨sender, outer.map (Emission.forget j), ?_⟩, hPending⟩, nofun⟩
    simp [destroy, hEmissions, Emission.forget]
  | runSlot hRun =>
    -- a handler shortens the emission, a functor starts the head of the queue
    refine .inr ?_
    cases slots with
    | nil => exact absurd rfl hPending
    | cons slot slots =>
      cases slot with
      | handler =>
        simp only [runSlot, hEmissions, Option.some.injEq] at hRun
        subst hRun
        exact .inr ⟨_, _, rfl, ⟨sender, outer, rfl⟩, hPending⟩
      | invoker next act =>
        simp only [runSlot, hEmissions, Option.some.injEq] at hRun
        subst hRun
        rw [invocations_invoker, List.cons.injEq, Prod.mk.injEq] at hSlots
        obtain ⟨⟨rfl, rfl⟩, _⟩ := hSlots
        cases act with
        | request => exact .inl ⟨next, by simp [invoke, hRequestors]⟩
        | refresh =>
          have hMem := hConnected rfl
          rw [h.noRefresh] at hMem
          cases hMem

/-- Started requests report, and the calls in progress run on to their end. -/
structure Fair (x : Execution step) : Prop where
  reports : ∀ n, ∀ i ∈ (x.state n).requestors,
    ∃ m, n ≤ m ∧ x.event m = some (.requestorFinished i)
  returns : ∀ n, (x.state n).emissions ≠ [] → ∃ m, n ≤ m ∧ x.event m = some .runSlot

section Progress

variable (x : Execution step) (hStart : x.state 0 = initial)
  (hHttp : ∀ n e, x.event n = some e → HttpOnly (x.state n) e)

include hStart hHttp

theorem httpInv_state (n : Nat) : HttpInv (x.state n) :=
  x.invariant hHttp (hStart ▸ httpInv_initial) (fun _ _ _ h hGuard hStep => h.step hGuard hStep) n

theorem eventually_requesting (hFair : Fair x) {n : Nat} {slots : List Slot}
    (hHanding : Handing (x.state n) slots) : ∃ m, n ≤ m ∧ ∃ i, (x.state m).requestors = [i] := by
  -- on the slots that the emission still has to run: fairness runs one of them at a time
  induction slots generalizing n with
  | nil => exact absurd rfl hHanding.pending
  | cons slot slots ih =>
    have hCalled : (x.state n).emissions ≠ [] := by
      obtain ⟨sender, outer, hEmissions⟩ := hHanding.innermost
      simp [hEmissions]
    obtain ⟨k, hnk, hRun⟩ := hFair.returns n hCalled
    obtain ⟨m, hnm, hNext⟩ := x.eventually
      (fun s => HttpInv s ∧ Handing s (slot :: slots))
      (fun s => (∃ i, s.requestors = [i]) ∨ Handing s slots) (· = .runSlot) hHttp
      (by
        intro s e s' ⟨hInv, hHand⟩ hGuard hStep
        rcases hInv.handing_step hHand hStep with ⟨hSame, _⟩ | hBusy | ⟨_, _, hSplit, hRest⟩
        · exact .inl ⟨hInv.step hGuard hStep, hSame⟩
        · exact .inr (.inl hBusy)
        · cases hSplit
          exact .inr (.inr hRest))
      (by
        rintro s e s' ⟨hInv, hHand⟩ _ rfl hStep
        rcases hInv.handing_step hHand hStep with ⟨_, hNot⟩ | hBusy | ⟨_, _, hSplit, hRest⟩
        · exact absurd rfl hNot
        · exact .inl hBusy
        · cases hSplit
          exact .inr hRest)
      ⟨k, hnk, _, hRun, rfl⟩ ⟨httpInv_state x hStart hHttp n, hHanding⟩
    rcases hNext with hBusy | hRest
    · exact ⟨m, hnm, hBusy⟩
    · obtain ⟨m', hmm', hBusy⟩ := ih hRest
      exact ⟨m', hnm.trans hmm', hBusy⟩

theorem eventually_emitted (hFair : Fair x) {n : Nat} {i : InvokerId}
    (hBusy : (x.state n).requestors = [i]) :
    ∃ m, n ≤ m ∧ (x.state n).emitted.length < (x.state m).emitted.length := by
  obtain ⟨k, hnk, hReport⟩ := hFair.reports n i (by simp [hBusy])
  refine x.eventually
    (fun s => HttpInv s ∧ s.requestors = [i] ∧ (x.state n).emitted.length ≤ s.emitted.length)
    (fun s => (x.state n).emitted.length < s.emitted.length) (· = .requestorFinished i) hHttp ?_ ?_
    ⟨k, hnk, _, hReport, rfl⟩ ⟨httpInv_state x hStart hHttp n, hBusy, le_rfl⟩
  · rintro s e s' ⟨hInv, hRequestors, hLength⟩ hGuard hStep
    have hGrows := (step_grows hStep).2.length_le
    rcases hInv.requesting_step hRequestors hStep with ⟨hSame, _⟩ | hEmitted
    · exact .inl ⟨hInv.step hGuard hStep, hSame, hLength.trans hGrows⟩
    · refine .inr ?_
      rw [hEmitted, List.length_append]
      exact Nat.lt_succ_of_le hLength
  · rintro s e s' ⟨hInv, hRequestors, hLength⟩ _ rfl hStep
    rcases hInv.requesting_step hRequestors hStep with ⟨_, hNot⟩ | hEmitted
    · exact absurd rfl hNot
    · rw [hEmitted, List.length_append]
      exact Nat.lt_succ_of_le hLength

/-- As long as somebody waits, the next one completes. -/
theorem eventually_served (hFair : Fair x) {n : Nat} (hWaiting : (x.state n).requestQueue ≠ []) :
    ∃ m, n ≤ m ∧ (x.state n).emitted.length < (x.state m).emitted.length := by
  have hInv := httpInv_state x hStart hHttp n
  have hNot {i : InvokerId} : i ∉ (x.state n).refreshSlots := by
    rw [hInv.noRefresh]
    exact List.not_mem_nil
  cases hInv.phase with
  | idle hQueue => exact absurd hQueue hWaiting
  | requesting _ hRequestors => exact eventually_emitted x hStart hHttp hFair hRequestors
  | refreshing _ _ _ hConnected | signalling _ _ _ hConnected => exact absurd hConnected hNot
  | handing _ _ _ _ hEmissions hSlots =>
    obtain ⟨k, hnk, i, hRequestors⟩ := eventually_requesting x hStart hHttp hFair
      ⟨⟨_, _, hEmissions⟩, by simp [hSlots]⟩
    obtain ⟨m, hkm, hLess⟩ := eventually_emitted x hStart hHttp hFair hRequestors
    exact ⟨m, hnk.trans hkm, (emitted_monotone x hnk).trans_lt hLess⟩

theorem eventually_past (hFair : Fair x) {n : Nat} {i : InvokerId} (hi : i < (x.state n).created) :
    ∃ m, n ≤ m ∧ i < (x.state m).emitted.length := by
  refine x.eventually_ge (fun s => HttpInv s ∧ i < s.created) (fun s => s.emitted.length) ?_
    ⟨httpInv_state x hStart hHttp n, hi⟩
  intro k ⟨hInv, hCreated⟩ hBelow
  have hWaiting : (x.state k).requestQueue ≠ [] := by
    intro hEmpty
    have hLength := congrArg List.length hInv.order
    rw [hEmpty, List.append_nil, List.length_range] at hLength
    exact absurd (hLength ▸ hCreated) (Nat.not_lt.mpr (Nat.le_of_lt_succ hBelow))
  obtain ⟨m, hkm, hLess⟩ := eventually_served x hStart hHttp hFair hWaiting
  exact ⟨m, hkm, ⟨httpInv_state x hStart hHttp m, hCreated.trans_le (created_monotone x hkm)⟩, hLess⟩

end Progress

theorem HttpInv.counts {s : State} (h : HttpInv s) {i : InvokerId} (hi : i < s.emitted.length) :
    s.started.count i = 1 ∧ s.emitted.count i = 1 := by
  have hOrder := h.inOrder
  have hPrefix : s.emitted <+: List.range s.created := h.order ▸ List.prefix_append ..
  have hMem : i ∈ s.emitted := by
    have hSame : s.emitted[i] = i := by
      rw [hPrefix.getElem hi, List.getElem_range]
    exact hSame ▸ List.getElem_mem hi
  exact ⟨List.count_eq_one_of_mem hOrder.startedOnce (hOrder.emittedPrefix.subset hMem),
    List.count_eq_one_of_mem hOrder.emittedOnce hMem⟩

/-- HTTP requests are started in order and once, and in a fair execution each one queued is
eventually started and reported, exactly once. -/
theorem requests_served :
    (∀ s, Reachable step HttpOnly (· = initial) s → InOrder s) ∧
      ∀ x : Execution step, x.state 0 = initial →
        (∀ n e, x.event n = some e → HttpOnly (x.state n) e) → Fair x →
        ∀ n i, i < (x.state n).created → ∃ m, n ≤ m ∧ ∀ k, m ≤ k →
          (x.state k).started.count i = 1 ∧ (x.state k).emitted.count i = 1 := by
  constructor
  · intro s h
    have hInv : HttpInv s := h.invariant (fun _ hInitial => hInitial ▸ httpInv_initial)
      fun _ _ _ hInv hHttp hStep => hInv.step hHttp hStep
    exact hInv.inOrder
  · intro x hStart hHttp hFair n i hi
    obtain ⟨m, hnm, hPast⟩ := eventually_past x hStart hHttp hFair hi
    exact ⟨m, hnm, fun k hmk =>
      (httpInv_state x hStart hHttp k).counts (hPast.trans_le (emitted_monotone x hmk))⟩

/-- Two requests, the second queued behind the first. -/
def twoRequests : List Event :=
  [.enqueue .request, .enqueue .request, .requestorFinished 0, .runSlot, .runSlot,
    .requestorFinished 1, .runSlot]

def twoRequestsExecution : Execution step := Execution.ofRun step initial twoRequests rfl

theorem twoRequests_fair : Fair twoRequestsExecution := by
  have hDone : ∀ n, 7 ≤ n → twoRequestsExecution.state n = twoRequestsExecution.state 7 := by
    intro n hn
    have hTake : twoRequests.take n = twoRequests.take 7 := List.take_of_length_le hn
    change stateAfter step initial twoRequests n = stateAfter step initial twoRequests 7
    rw [stateAfter, hTake, stateAfter]
  constructor
  · intro n i hi
    have hReports : ∀ k < 7, ∀ j ∈ (twoRequestsExecution.state k).requestors,
        k ≤ 2 ∧ j = 0 ∨ k ≤ 5 ∧ j = 1 := by decide
    by_cases hn : n < 7
    · rcases hReports n hn i hi with ⟨hBefore, rfl⟩ | ⟨hBefore, rfl⟩
      · exact ⟨2, hBefore, rfl⟩
      · exact ⟨5, hBefore, rfl⟩
    · rw [hDone n (by omega)] at hi
      cases hi
  · intro n hCalled
    have hReturns : ∀ k < 7, (twoRequestsExecution.state k).emissions = [] ∨
        twoRequestsExecution.event k = some .runSlot := by decide
    by_cases hn : n < 7
    · exact ⟨n, le_rfl, (hReturns n hn).resolve_left hCalled⟩
    · rw [hDone n (by omega)] at hCalled
      exact absurd rfl hCalled

theorem requests_served_twoRequests :
    InOrder (enqueue (enqueue initial .request) .request) ∧
      ∃ m, ∀ k, m ≤ k → (twoRequestsExecution.state k).started.count 1 = 1 ∧
        (twoRequestsExecution.state k).emitted.count 1 = 1 := by
  constructor
  · exact requests_served.1 _ (.next (e := .enqueue .request)
      (.next (e := .enqueue .request) (.start rfl) rfl rfl) rfl rfl)
  · have hHttp : ∀ n e, twoRequestsExecution.event n = some e →
        HttpOnly (twoRequestsExecution.state n) e := by
      intro n e hEvent
      have hMem : e ∈ twoRequests := List.mem_of_getElem? hEvent
      simp only [twoRequests, List.mem_cons, List.not_mem_nil, or_false] at hMem
      rcases hMem with rfl | rfl | rfl | rfl | rfl | rfl | rfl <;> first | rfl | trivial
    obtain ⟨m, _, hServed⟩ :=
      requests_served.2 twoRequestsExecution rfl hHttp twoRequests_fair 2 1 (by decide)
    exact ⟨m, hServed⟩

end SrcLink.RequestSequencer
