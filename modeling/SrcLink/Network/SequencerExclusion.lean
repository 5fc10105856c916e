import SrcLink.Network.SequencerInvariant

/-! # Mutual exclusion in the request sequencer

Only one invoker at a time has its action started and incomplete, and `finished`
follows the start, in every run whose refresh signals reach their own invoker.
A refresh invoker is connected to the shared signal from the moment it is
queued, so the signal of an earlier refresh completes it before its turn.
-/

namespace SrcLink.RequestSequencer

set_option autoImplicit false

open StepSystem

structure Exclusive (s : State) : Prop where
  single : ∀ i ∈ s.inFlight, ∀ j ∈ s.inFlight, i = j
  startedFirst : ∀ i ∈ s.emitted, i ∈ s.started

theorem Phase.inFlight_cases {s : State} (h : Phase s) :
    s.inFlight = [] ∨ ∃ i rest, s.requestQueue = i :: rest ∧ s.inFlight = [i] := by
  cases h with
  | idle _ hRequestors hRefreshing => exact .inl (by simp [State.inFlight, hRequestors, hRefreshing])
  | requesting hQueue hRequestors hRefreshing =>
    exact .inr ⟨_, _, hQueue, by simp [State.inFlight, hRequestors, hRefreshing]⟩
  | refreshing hQueue hRequestors hRefreshing =>
    exact .inr ⟨_, _, hQueue, by simp [State.inFlight, hRequestors, hRefreshing]⟩
  | signalling _ hRequestors hRefreshing =>
    exact .inl (by simp [State.inFlight, hRequestors, hRefreshing])
  | handing _ hRequestors hRefreshing =>
    exact .inl (by simp [State.inFlight, hRequestors, hRefreshing])

theorem Phase.started_cases {s : State} (h : Phase s) :
    s.started = s.emitted ∨
      ∃ i rest, s.requestQueue = i :: rest ∧ s.started = s.emitted ++ [i] := by
  cases h with
  | idle _ _ _ _ hStarted => exact .inl hStarted
  | requesting hQueue _ _ _ hStarted => exact .inr ⟨_, _, hQueue, hStarted⟩
  | refreshing hQueue _ _ _ _ hStarted => exact .inr ⟨_, _, hQueue, hStarted⟩
  | signalling hQueue _ _ _ _ _ hStarted => exact .inr ⟨_, _, hQueue, hStarted⟩
  | handing _ _ _ _ _ _ _ hStarted => exact .inl hStarted

theorem Phase.emitted_prefix {s : State} (h : Phase s) : s.emitted <+: s.started := by
  rcases h.started_cases with hStarted | ⟨i, rest, _, hStarted⟩
  · exact hStarted ▸ List.prefix_rfl
  · rw [hStarted]
    exact List.prefix_append ..

theorem Inv.exclusive {s : State} (h : Inv s) : Exclusive s where
  single := by
    intro i hi j hj
    rcases h.phase.inFlight_cases with hNone | ⟨head, rest, _, hOne⟩
    · rw [hNone] at hi
      cases hi
    · rw [hOne] at hi hj
      rw [List.mem_singleton.mp hi, List.mem_singleton.mp hj]
  startedFirst := fun _ hi => h.phase.emitted_prefix.subset hi

theorem destroyed_enqueue (s : State) (action : Action) :
    (enqueue s action).destroyed = s.destroyed ∧ (enqueue s action).emitted = s.emitted := by
  cases hLast : s.requestQueue.getLast? with
  | none =>
    rw [enqueue_eq_invoke action (List.getLast?_eq_none_iff.mp hLast), invoke_destroyed,
      invoke_emitted]
    exact ⟨rfl, rfl⟩
  | some last =>
    rw [enqueue_eq_linked action hLast]
    exact ⟨rfl, rfl⟩

theorem destroyed_runSlot {s s' : State} (hRun : runSlot s = some s') :
    s'.destroyed = s.destroyed ∧ s.emitted ⊆ s'.emitted := by
  unfold runSlot at hRun
  split at hRun
  case h_1 => cases hRun
  case h_2 | h_3 | h_5 =>
    obtain rfl := Option.some.inj hRun
    exact ⟨rfl, List.Subset.refl _⟩
  case h_4 =>
    obtain rfl := Option.some.inj hRun
    rw [invoke_destroyed, invoke_emitted]
    exact ⟨rfl, List.Subset.refl _⟩
  case h_6 =>
    obtain rfl := Option.some.inj hRun
    exact ⟨rfl, List.subset_append_left ..⟩

/-- Only an invoker that has emitted is destroyed. -/
theorem destroyed_subset_emitted {guard : State → Event → Prop} {s : State}
    (h : Reachable step guard (· = initial) s) : s.destroyed ⊆ s.emitted := by
  induction h with
  | start hInitial => exact hInitial ▸ List.nil_subset _
  | @next s s' e _ _ hStep ih =>
    cases stepped hStep with
    | enqueue action =>
      obtain ⟨hDestroyed, hEmitted⟩ := destroyed_enqueue s action
      rwa [hDestroyed, hEmitted]
    | connect | foreignRefresh => exact ih
    | requestorFinished => exact List.Subset.trans ih (List.subset_append_left ..)
    | refreshFinished =>
      unfold emitRefreshFinished
      split <;> exact ih
    | runSlot hRun =>
      obtain ⟨hDestroyed, hEmitted⟩ := destroyed_runSlot hRun
      rw [hDestroyed]
      exact List.Subset.trans ih hEmitted
    | destroy hEmitted => exact List.cons_subset.mpr ⟨hEmitted, ih⟩

/-- The functor that is next starts the head of the queue, which has not emitted. -/
theorem Inv.not_dangling {s : State} (h : Inv s) (hDestroyed : s.destroyed ⊆ s.emitted) :
    s.dangling = false := by
  have hQuietHead (hQuiet : Quiet s.emissions) : s.dangling = false := by
    unfold State.dangling
    split
    · next hEmissions =>
      rw [hEmissions] at hQuiet
      cases hQuiet _ List.mem_cons_self
    · rfl
  cases h.phase with
  | idle _ _ _ hQuiet | requesting _ _ _ hQuiet | refreshing _ _ _ _ hQuiet =>
    exact hQuietHead hQuiet
  | signalling _ _ _ _ hEmissions =>
    rw [State.dangling, hEmissions]
  | @handing i _ _ _ slots _ hQueue _ _ _ hEmissions hSlots =>
    rw [State.dangling, hEmissions]
    cases slots with
    | nil => rfl
    | cons slot slots =>
      cases slot with
      | handler => rfl
      | invoker next action =>
        rw [invocations_invoker, List.cons.injEq, Prod.mk.injEq] at hSlots
        obtain ⟨⟨rfl, -⟩, -⟩ := hSlots
        have hWaits := h.not_emitted (i := next) (by simp [hQueue])
        simpa using fun hGone => hWaits (hDestroyed hGone)

theorem not_dangling_of_ownRefresh {s : State} (h : Reachable step OwnRefresh (· = initial) s) :
    s.dangling = false :=
  (inv_of_reachable h).not_dangling (destroyed_subset_emitted h)

/-- Mutual exclusion, as long as each refresh signal finds only its own invoker connected. -/
theorem exclusive_of_ownRefresh {s : State}
    (h : Reachable step OwnRefresh (· = initial) s) : Exclusive s :=
  (inv_of_reachable h).exclusive

/-- A refresh, then a request that waits for it: the refresh reports and the request starts. -/
theorem exclusive_of_ownRefresh_handover :
    ∃ s, s.started = [0, 1] ∧ s.inFlight = [1] ∧ Exclusive s := by
  have hQueued : Reachable step OwnRefresh (· = initial)
      (enqueue (enqueue initial .refresh) .request) :=
    .next (e := .enqueue .request) (.next (e := .enqueue .refresh) (.start rfl) trivial rfl)
      trivial rfl
  have hOwn : OwnRefresh (enqueue (enqueue initial .refresh) .request) (.refreshFinished 0) := by
    intro owner hOwner i hi
    obtain rfl : some 0 = owner := Option.some.inj hOwner
    rw [List.mem_singleton.mp (show i ∈ [0] from hi)]
  have hSignalled := Reachable.next (e := .refreshFinished 0) hQueued hOwn rfl
  have hFinished := Reachable.next (e := Event.runSlot) hSignalled trivial rfl
  have hStarted := Reachable.next (e := Event.runSlot) hFinished trivial rfl
  exact ⟨_, rfl, rfl, exclusive_of_ownRefresh hStarted⟩

/-- Two refreshes and a request: the first signal also completes the second refresh, so the
request starts while that refresh is under way. -/
theorem not_exclusive :
    ¬ ∀ s, Reachable step anyStep (· = initial) s → Exclusive s := by
  intro hAll
  have hRun : ∃ s, run step initial
      [.enqueue .refresh, .enqueue .refresh, .enqueue .request, .refreshFinished 0,
        .runSlot, .runSlot, .runSlot, .runSlot, .runSlot] = some s ∧ s.inFlight = [2, 1] :=
    ⟨_, rfl, rfl⟩
  obtain ⟨s, hRun, hInFlight⟩ := hRun
  have hSingle := (hAll s (reachable_of_run _ (.start rfl) hRun)).single
  exact absurd (hSingle 2 (by simp [hInFlight]) 1 (by simp [hInFlight])) (by decide)

end SrcLink.RequestSequencer
