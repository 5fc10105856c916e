import SrcLink.Library.LeadsTo
import SrcLink.Network.SequencerOrder

/-! # Steps of the sequencer in any run

Refresh signals may complete invokers out of turn, so the queue says little about who is
served. What holds in every run is what one step does to each wait: for a requestor, for
the shared signal, for a functor of an earlier invoker, for a call to run its next slot.
-/

namespace SrcLink.RequestSequencer

set_option autoImplicit false

open StepSystem Execution

/-- The invokers that an emission will start or complete. -/
def Emission.targets : Emission → List InvokerId
  | .finished _ slots => (invocations slots).map Prod.fst
  | .refreshFinished receivers => receivers

/-- Only invokers that exist take part. -/
structure Bounded (s : State) : Prop where
  queue : ∀ i ∈ s.requestQueue, i < s.created
  receivers : ∀ i ∈ s.refreshSlots, i < s.created
  requestors : ∀ i ∈ s.requestors, i < s.created
  slots : ∀ j, ∀ call ∈ invocations (s.finishedSlots j), call.1 < s.created
  emissions : ∀ e ∈ s.emissions, ∀ i ∈ e.targets, i < s.created
  emitted : ∀ i ∈ s.emitted, i < s.created

/-- Who waits in the queue waits once and has not emitted. -/
structure Waiting (s : State) : Prop extends Bounded s where
  nodup : s.requestQueue.Nodup
  unemitted : ∀ i ∈ s.requestQueue, i ∉ s.emitted

theorem waiting_initial : Waiting initial where
  queue _ h := by cases h
  receivers _ h := by cases h
  requestors _ h := by cases h
  slots _ _ h := by cases h
  emissions _ h := by cases h
  emitted _ h := by cases h
  nodup := List.nodup_nil
  unemitted _ h := by cases h

namespace Waiting

variable {s s' : State}

theorem invoke (h : Waiting s) {i : InvokerId} (hi : i < s.created) (action : Action) :
    Waiting (invoke s i action) := by
  cases action with
  | request =>
    refine { h with requestors := fun j hj => ?_ }
    rcases List.mem_append.mp hj with hj | hj
    · exact h.requestors j hj
    · exact List.mem_singleton.mp hj ▸ hi
  | refresh => exact { h with }

theorem finish (h : Waiting s) {i : InvokerId} (hi : i < s.created) : Waiting (finish s i) where
  queue j hj := h.queue j (List.mem_of_mem_erase hj)
  receivers := h.receivers
  requestors := h.requestors
  slots := h.slots
  emissions e he j hj := by
    rcases List.mem_cons.mp he with rfl | he
    · obtain ⟨call, hCall, rfl⟩ := List.mem_map.mp hj
      exact h.slots i call hCall
    · exact h.emissions e he j hj
  emitted j hj := by
    rcases List.mem_append.mp hj with hj | hj
    · exact h.emitted j hj
    · exact List.mem_singleton.mp hj ▸ hi
  nodup := h.nodup.erase i
  unemitted j hj hEmitted := by
    obtain ⟨hOther, hQueued⟩ := h.nodup.mem_erase_iff.mp hj
    rcases List.mem_append.mp hEmitted with hEmitted | hSelf
    · exact h.unemitted j hQueued hEmitted
    · exact hOther (List.mem_singleton.mp hSelf)

theorem enqueue (h : Waiting s) (action : Action) : Waiting (enqueue s action) := by
  have hSucc : ∀ {i}, i < s.created → i < s.created + 1 := Nat.lt_succ_of_lt
  have hReceivers : ∀ i ∈ subscriptions s action, i < s.created + 1 := by
    intro i hi
    cases action with
    | request => exact hSucc (h.receivers i hi)
    | refresh =>
      rcases List.mem_append.mp hi with hi | hi
      · exact hSucc (h.receivers i hi)
      · exact List.mem_singleton.mp hi ▸ Nat.lt_succ_self _
  have hNew : s.created ∉ s.emitted := fun hEmitted => Nat.lt_irrefl _ (h.emitted _ hEmitted)
  cases hLast : s.requestQueue.getLast? with
  | none =>
    rw [enqueue_eq_invoke action (List.getLast?_eq_none_iff.mp hLast)]
    have hHeaded : Waiting (headed s action) :=
      { queue := fun i hi => List.mem_singleton.mp hi ▸ Nat.lt_succ_self _
        receivers := hReceivers
        requestors := fun i hi => hSucc (h.requestors i hi)
        slots := fun j call hCall => hSucc (h.slots j call hCall)
        emissions := fun e he i hi => hSucc (h.emissions e he i hi)
        emitted := fun i hi => hSucc (h.emitted i hi)
        nodup := List.nodup_singleton _
        unemitted := fun i hi => List.mem_singleton.mp hi ▸ hNew }
    exact hHeaded.invoke (Nat.lt_succ_self _) action
  | some last =>
    rw [enqueue_eq_linked action hLast]
    refine
      { queue := ?_, receivers := hReceivers
        requestors := fun i hi => hSucc (h.requestors i hi), slots := ?_
        emissions := fun e he i hi => hSucc (h.emissions e he i hi)
        emitted := fun i hi => hSucc (h.emitted i hi), nodup := ?_, unemitted := ?_ }
    · intro i hi
      rcases List.mem_append.mp hi with hi | hi
      · exact hSucc (h.queue i hi)
      · exact List.mem_singleton.mp hi ▸ Nat.lt_succ_self _
    · rintro j ⟨next, act⟩ hCall
      rcases mem_linked hCall with hOld | ⟨rfl, -⟩
      · exact hSucc (h.slots j _ hOld)
      · exact Nat.lt_succ_self _
    · refine List.nodup_append.mpr ⟨h.nodup, List.nodup_singleton _, ?_⟩
      intro i hi j hj
      rw [List.mem_singleton.mp hj]
      exact (h.queue i hi).ne
    · intro i hi
      rcases List.mem_append.mp hi with hi | hi
      · exact h.unemitted i hi
      · exact List.mem_singleton.mp hi ▸ hNew

theorem popped (h : Waiting s) {e : Emission} {rest : List Emission}
    (hEmissions : s.emissions = e :: rest) {emissions : List Emission}
    (hShorter : ∀ e' ∈ emissions, e' ∈ rest ∨ ∀ i ∈ e'.targets, i ∈ e.targets) :
    Waiting { s with emissions } := by
  refine { h with emissions := fun e' he' i hi => ?_ }
  have hAll := h.emissions
  rw [hEmissions] at hAll
  rcases hShorter e' he' with hRest | hTargets
  · exact hAll e' (List.mem_cons_of_mem _ hRest) i hi
  · exact hAll e List.mem_cons_self i (hTargets i hi)

theorem runSlot (h : Waiting s) (hRun : runSlot s = some s') : Waiting s' := by
  unfold RequestSequencer.runSlot at hRun
  split at hRun
  case h_1 => cases hRun
  case h_2 hEmissions | h_5 hEmissions =>
    obtain rfl := Option.some.inj hRun
    exact h.popped hEmissions fun _ he => .inl he
  case h_3 hEmissions =>
    obtain rfl := Option.some.inj hRun
    refine h.popped hEmissions fun e he => ?_
    rcases List.mem_cons.mp he with rfl | he
    · exact .inr fun _ hi => hi
    · exact .inl he
  case h_4 sender next action slots rest hEmissions =>
    obtain rfl := Option.some.inj hRun
    have hNext : next < s.created :=
      h.emissions _ (hEmissions ▸ List.mem_cons_self) next (by simp [Emission.targets])
    have hPopped : Waiting { s with emissions := .finished sender slots :: rest } := by
      refine h.popped hEmissions fun e he => ?_
      rcases List.mem_cons.mp he with rfl | he
      · exact .inr fun _ hi => List.mem_cons_of_mem _ hi
      · exact .inl he
    exact hPopped.invoke hNext action
  case h_6 i receivers rest hEmissions =>
    obtain rfl := Option.some.inj hRun
    have hFirst : i < s.created :=
      h.emissions _ (hEmissions ▸ List.mem_cons_self) i List.mem_cons_self
    have hPopped : Waiting { s with emissions := .refreshFinished receivers :: rest } := by
      refine h.popped hEmissions fun e he => ?_
      rcases List.mem_cons.mp he with rfl | he
      · exact .inr fun _ hi => List.mem_cons_of_mem _ hi
      · exact .inl he
    exact hPopped.finish hFirst

theorem destroy (h : Waiting s) (i : InvokerId) : Waiting (destroy s i) := by
  refine { h with receivers := ?_, slots := ?_, emissions := ?_ }
  · exact fun j hj => h.receivers j (List.mem_of_mem_erase hj)
  · intro j call hCall
    by_cases hj : j = i
    · subst j
      simp [RequestSequencer.destroy] at hCall
    · exact h.slots j call (by simpa [RequestSequencer.destroy, hj] using hCall)
  · intro e he j hj
    obtain ⟨e', he', rfl⟩ := List.mem_map.mp he
    refine h.emissions e' he' j ?_
    cases e' with
    | finished => exact hj
    | refreshFinished receivers => exact List.mem_of_mem_erase hj

theorem step {e : Event} (h : Waiting s) (hStep : step s e = some s') : Waiting s' := by
  cases stepped hStep with
  | enqueue action => exact h.enqueue action
  | @connect i hCreated =>
    refine { h with slots := fun j call hCall => h.slots j call ?_ }
    by_cases hj : j = i
    · subst j
      simpa [RequestSequencer.connect] using hCall
    · simpa [RequestSequencer.connect, hj] using hCall
  | @requestorFinished i hRequestor =>
    have hErased : Waiting { s with requestors := s.requestors.erase i } :=
      { h with requestors := fun j hj => h.requestors j (List.mem_of_mem_erase hj) }
    exact hErased.finish (h.requestors _ hRequestor)
  | foreignRefresh => exact { h with }
  | refreshFinished =>
    unfold emitRefreshFinished
    split
    · exact { h with }
    · refine { h with emissions := fun e he i hi => ?_ }
      rcases List.mem_cons.mp he with rfl | he
      · exact h.receivers i hi
      · exact h.emissions e he i hi
  | runSlot hRun => exact h.runSlot hRun
  | destroy => exact h.destroy _

end Waiting

section Step

variable {s s' : State} {e : Event}

theorem emitted_stable (i : InvokerId) : Stable step fun s => i ∈ s.emitted :=
  fun _ _ _ h hStep => (step_grows hStep).2.subset h

/-- A connected refresh invoker stays connected until it is deleted. -/
theorem refreshSlots_until (i : InvokerId) :
    Until step (fun s => i ∈ s.refreshSlots) fun s => i ∈ s.emitted := by
  intro s e s' h hStep
  cases stepped hStep with
  | enqueue action =>
    refine .inl ?_
    cases hLast : s.requestQueue.getLast? with
    | none =>
      rw [enqueue_eq_invoke action (List.getLast?_eq_none_iff.mp hLast), invoke_refreshSlots]
      exact subset_subscriptions s action h
    | some last =>
      rw [enqueue_eq_linked action hLast]
      exact subset_subscriptions s action h
  | connect | requestorFinished | foreignRefresh => exact .inl h
  | refreshFinished =>
    unfold emitRefreshFinished
    split <;> exact .inl h
  | runSlot hRun =>
    refine .inl ?_
    simp only [runSlot] at hRun
    split at hRun
    case h_1 => cases hRun
    all_goals
      obtain rfl := Option.some.inj hRun
      first
        | exact h
        | simpa using h
  | @destroy j hEmitted =>
    by_cases hij : i = j
    · exact .inr (hij ▸ hEmitted)
    · exact .inl ((List.mem_erase_of_ne hij).mpr h)

/-- A requestor under way stays so until it reports. -/
theorem requestors_until (i : InvokerId) :
    Until step (fun s => i ∈ s.requestors) fun s => i ∈ s.emitted := by
  intro s e s' h hStep
  have hInvoke : ∀ (t : State) next action, i ∈ t.requestors →
      i ∈ (invoke t next action).requestors := by
    intro t next action ht
    cases action with
    | request => exact List.mem_append_left _ ht
    | refresh => exact ht
  cases stepped hStep with
  | enqueue action =>
    refine .inl ?_
    cases hLast : s.requestQueue.getLast? with
    | none =>
      rw [enqueue_eq_invoke action (List.getLast?_eq_none_iff.mp hLast)]
      exact hInvoke (headed s action) _ _ h
    | some last =>
      rw [enqueue_eq_linked action hLast]
      exact h
  | connect | foreignRefresh | destroy => exact .inl h
  | @requestorFinished j =>
    by_cases hij : i = j
    · exact .inr (List.mem_append_right _ (List.mem_singleton.mpr hij))
    · exact .inl ((List.mem_erase_of_ne hij).mpr h)
  | refreshFinished =>
    unfold emitRefreshFinished
    split <;> exact .inl h
  | runSlot hRun =>
    refine .inl ?_
    simp only [runSlot] at hRun
    split at hRun
    case h_1 => cases hRun
    all_goals
      obtain rfl := Option.some.inj hRun
      first
        | exact h
        | exact hInvoke _ _ _ h

/-- The functors that hang on an invoker stay there until it has emitted. -/
theorem slots_step {j : InvokerId} {call : InvokerId × Action} (hStep : step s e = some s')
    (hBefore : j ∉ s.emitted) (h : call ∈ invocations (s.finishedSlots j)) :
    call ∈ invocations (s'.finishedSlots j) := by
  have hAppend : ∀ k slots, call ∈ invocations
      (Function.update s.finishedSlots k (s.finishedSlots k ++ slots) j) := by
    intro k slots
    by_cases hj : j = k
    · subst k
      simp [h]
    · simpa [hj] using h
  cases stepped hStep with
  | enqueue action =>
    cases hLast : s.requestQueue.getLast? with
    | none =>
      rw [enqueue_eq_invoke action (List.getLast?_eq_none_iff.mp hLast)]
      cases action <;> exact h
    | some last =>
      rw [enqueue_eq_linked action hLast]
      exact hAppend _ _
  | connect => exact hAppend _ _
  | requestorFinished | foreignRefresh => exact h
  | refreshFinished =>
    unfold emitRefreshFinished
    split <;> exact h
  | runSlot hRun =>
    simp only [runSlot] at hRun
    split at hRun
    case h_1 => cases hRun
    case h_4 action _ _ _ =>
      obtain rfl := Option.some.inj hRun
      cases action <;> exact h
    all_goals
      obtain rfl := Option.some.inj hRun
      exact h
  | @destroy k hEmitted =>
    have hj : j ≠ k := fun hSame => hBefore (hSame ▸ hEmitted)
    simpa [destroy, hj] using h

end Step

/-- The emission with `depth` others below it on the call stack. -/
def Under (depth : Nat) (e : Emission) (s : State) : Prop :=
  ∃ above below, s.emissions = above ++ e :: below ∧ below.length = depth

theorem Under.depth_lt {depth : Nat} {e : Emission} {s : State} (h : Under depth e s) :
    depth < s.emissions.length := by
  obtain ⟨above, below, hEmissions, rfl⟩ := h
  simp only [hEmissions, List.length_append, List.length_cons]
  omega

theorem Under.push {depth : Nat} {e top : Emission} {s : State} {emissions : List Emission}
    (h : Under depth e s) (hEmissions : emissions = top :: s.emissions) :
    Under depth e { s with emissions } := by
  obtain ⟨above, below, hSame, hDepth⟩ := h
  exact ⟨top :: above, below, by rw [hEmissions, hSame]; rfl, hDepth⟩

theorem Under.congr {depth : Nat} {e : Emission} {s s' : State} (h : Under depth e s)
    (hEmissions : s'.emissions = s.emissions) : Under depth e s' := by
  obtain ⟨above, below, hSame, hDepth⟩ := h
  exact ⟨above, below, hEmissions.trans hSame, hDepth⟩

/-- What an invocation brings about. -/
def Invoked (i : InvokerId) : Action → State → Prop
  | .request => fun s => i ∈ s.requestors
  | .refresh => fun s => some i ∈ s.refreshes

theorem invoked_invoke (s : State) (i : InvokerId) (action : Action) :
    Invoked i action (invoke s i action) := by
  cases action <;> exact List.mem_append_right _ (List.mem_singleton_self _)

/-- What a step can do to an emission under way. -/
inductive Advanced (depth : Nat) (s' : State) : Emission → Prop
  | kept {e : Emission} (hUnder : Under depth e s') : Advanced depth s' e
  | forgotten {e : Emission} {i : InvokerId} (hEmitted : i ∈ s'.emitted)
      (hUnder : Under depth (e.forget i) s') : Advanced depth s' e
  | handled {sender : InvokerId} {slots : List Slot}
      (hUnder : Under depth (.finished sender slots) s') :
      Advanced depth s' (.finished sender (.handler :: slots))
  | invoked {sender next : InvokerId} {action : Action} {slots : List Slot}
      (hUnder : Under depth (.finished sender slots) s') (hInvoked : Invoked next action s') :
      Advanced depth s' (.finished sender (.invoker next action :: slots))
  | received {i : InvokerId} {receivers : List InvokerId}
      (hUnder : Under depth (.refreshFinished receivers) s') (hEmitted : i ∈ s'.emitted) :
      Advanced depth s' (.refreshFinished (i :: receivers))
  | finished {sender : InvokerId} : Advanced depth s' (.finished sender [])
  | refreshFinished : Advanced depth s' (.refreshFinished [])

section Step

variable {s s' : State} {depth : Nat} {e : Emission}

@[simp] theorem invoke_emissions (s : State) (i : InvokerId) (action : Action) :
    (invoke s i action).emissions = s.emissions := by cases action <;> rfl

/-- The innermost emission runs its next slot; the others wait. -/
theorem advanced_of_runSlot (h : Under depth e s) (hRun : runSlot s = some s') :
    Advanced depth s' e := by
  obtain ⟨above, below, hSame, rfl⟩ := h
  cases above with
  | nil =>
    rw [List.nil_append] at hSame
    cases e with
    | finished sender slots =>
      cases slots with
      | nil => exact .finished
      | cons slot slots =>
        cases slot with
        | handler =>
          simp only [runSlot, hSame, Option.some.injEq] at hRun
          exact .handled ⟨[], below, by rw [← hRun]; rfl, rfl⟩
        | invoker next action =>
          simp only [runSlot, hSame, Option.some.injEq] at hRun
          exact .invoked ⟨[], below, by rw [← hRun, invoke_emissions]; rfl, rfl⟩
            (hRun ▸ invoked_invoke ..)
    | refreshFinished receivers =>
      cases receivers with
      | nil => exact .refreshFinished
      | cons i receivers =>
        simp only [runSlot, hSame, Option.some.injEq] at hRun
        exact .received ⟨[_], below, by rw [← hRun]; rfl, rfl⟩
          (hRun ▸ List.mem_append_right _ (List.mem_singleton_self _))
  | cons top rest =>
    refine .kept ?_
    simp only [runSlot] at hRun
    split at hRun
    case h_1 => cases hRun
    case h_2 hEmissions | h_5 hEmissions =>
      obtain rfl := Option.some.inj hRun
      obtain ⟨-, hRest⟩ := List.cons.inj (hEmissions.symm.trans hSame)
      exact ⟨rest, below, hRest, rfl⟩
    case h_3 hEmissions | h_6 hEmissions =>
      obtain rfl := Option.some.inj hRun
      obtain ⟨-, hRest⟩ := List.cons.inj (hEmissions.symm.trans hSame)
      subst hRest
      first
        | exact ⟨_ :: rest, below, rfl, rfl⟩
        | exact ⟨_ :: _ :: rest, below, rfl, rfl⟩
    case h_4 hEmissions =>
      obtain rfl := Option.some.inj hRun
      obtain ⟨-, hRest⟩ := List.cons.inj (hEmissions.symm.trans hSame)
      subst hRest
      exact ⟨_ :: rest, below, by rw [invoke_emissions]; rfl, rfl⟩

theorem advanced_of_step {event : Event} (h : Under depth e s) (hStep : step s event = some s') :
    Advanced depth s' e := by
  cases stepped hStep with
  | enqueue action =>
    refine .kept (h.congr ?_)
    cases hLast : s.requestQueue.getLast? with
    | none =>
      rw [enqueue_eq_invoke action (List.getLast?_eq_none_iff.mp hLast), invoke_emissions]
      rfl
    | some last =>
      rw [enqueue_eq_linked action hLast]
      rfl
  | connect | foreignRefresh => exact .kept h
  | requestorFinished => exact .kept (h.push rfl)
  | refreshFinished =>
    unfold emitRefreshFinished
    split
    · exact .kept h
    · exact .kept (h.push rfl)
  | runSlot hRun => exact advanced_of_runSlot h hRun
  | @destroy i hEmitted =>
    obtain ⟨above, below, hSame, rfl⟩ := h
    refine .forgotten hEmitted
      ⟨above.map (Emission.forget i), below.map (Emission.forget i), ?_, List.length_map ..⟩
    simp [destroy, hSame]

/-- An invoker emits with all the functors that hang on it. -/
theorem under_of_emitted {event : Event} {j : InvokerId} (hStep : step s event = some s')
    (hBefore : j ∉ s.emitted) (hNow : j ∈ s'.emitted) :
    ∃ depth, Under depth (.finished j (s.finishedSlots j)) s' := by
  have hFinish : ∀ t i, t.emitted = s.emitted → t.finishedSlots = s.finishedSlots →
      j ∈ (finish t i).emitted → ∃ depth, Under depth (.finished j (s.finishedSlots j)) (finish t i) := by
    intro t i hEmitted hSlots hj
    rcases List.mem_append.mp hj with hj | hj
    · exact absurd (hEmitted ▸ hj) hBefore
    · obtain rfl := List.mem_singleton.mp hj
      exact ⟨_, [], t.emissions, by rw [← hSlots]; rfl, rfl⟩
  cases stepped hStep with
  | enqueue action =>
    refine absurd ?_ hBefore
    cases hLast : s.requestQueue.getLast? with
    | none =>
      rw [enqueue_eq_invoke action (List.getLast?_eq_none_iff.mp hLast), invoke_emitted] at hNow
      exact hNow
    | some last =>
      rw [enqueue_eq_linked action hLast] at hNow
      exact hNow
  | connect | foreignRefresh | destroy => exact absurd hNow hBefore
  | requestorFinished => exact hFinish _ _ rfl rfl hNow
  | refreshFinished =>
    unfold emitRefreshFinished at hNow
    split at hNow <;> exact absurd hNow hBefore
  | runSlot hRun =>
    simp only [runSlot] at hRun
    split at hRun
    case h_1 => cases hRun
    case h_6 =>
      obtain rfl := Option.some.inj hRun
      exact hFinish _ _ rfl rfl hNow
    case h_4 =>
      obtain rfl := Option.some.inj hRun
      rw [invoke_emitted] at hNow
      exact absurd hNow hBefore
    all_goals
      obtain rfl := Option.some.inj hRun
      exact absurd hNow hBefore

end Step

end SrcLink.RequestSequencer
