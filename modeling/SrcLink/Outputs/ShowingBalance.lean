import Mathlib.Algebra.Order.Ring.Int
import SrcLink.Outputs.PipelineStructure

/-! # Acquired sources and started outputs

`destroyPipeline` chooses what to give back from the status values it finds. The
account of a state says what the calls so far still owe; it holds as long as the
status of a running stream only changes between active and reconnecting.
-/

namespace SrcLink.EgressLinkOutput

open Json Schema EarlyExit StepSystem

set_option autoImplicit false

/-- The net showing count that the calls put on a source. -/
def showing (source : Source) (calls : List Call) : Int :=
  calls.count (.sourceIncShowing source) - calls.count (.sourceDecShowing source)

/-- The output was started and has not been stopped since. -/
def owesStop (output : Handle) : List Call → Bool
  | [] => false
  | c :: calls =>
    if c = .outputStart (some output) true then true
    else if c = .outputStop output then false
    else owesStop output calls

/-- At the end of every `destroyPipeline` no source is held any more, and every output
that was started is stopped before its reference is dropped. -/
structure Balanced (calls : List Call) : Prop where
  torn : ∀ earlier, .pipelineDestroyed :: earlier <:+ calls →
    ∀ source, showing source earlier = 0
  stopped : ∀ output earlier, .outputRelease output :: earlier <:+ calls →
    owesStop output earlier = false

/-- Calls that no count here depends on. -/
def Call.idle : Call → Bool
  | .outputStart _ started => !started
  | .outputForceStop _ => true
  | .outputReconnecting _ => true
  | .incrementActiveOutputs => true
  | .decrementActiveOutputs => true
  | .incrementStandByOutputs => true
  | .decrementStandByOutputs => true
  | .syncUplinkStatus => true
  | _ => false

theorem showing_append (source : Source) (xs ys : List Call) :
    showing source (xs ++ ys) = showing source xs + showing source ys := by
  simp only [showing, List.count_append]
  omega

theorem showing_cons (source : Source) (c : Call) (calls : List Call) :
    showing source (c :: calls) = showing source [c] + showing source calls :=
  showing_append source [c] calls

@[simp] theorem showing_nil (source : Source) : showing source [] = 0 := rfl

theorem showing_pipelineDestroyed (source : Source) : showing source [.pipelineDestroyed] = 0 := by
  simp [showing]

theorem showing_outputStart (source : Source) (output : Option Handle) (started : Bool) :
    showing source [.outputStart output started] = 0 := by
  simp [showing]

theorem showing_idle (source : Source) {xs : List Call} (hIdle : ∀ c ∈ xs, c.idle = true) :
    showing source xs = 0 := by
  have hInc : Call.sourceIncShowing source ∉ xs :=
    fun h => absurd (hIdle _ h) (by simp [Call.idle])
  have hDec : Call.sourceDecShowing source ∉ xs :=
    fun h => absurd (hIdle _ h) (by simp [Call.idle])
  simp [showing, List.count_eq_zero_of_not_mem hInc, List.count_eq_zero_of_not_mem hDec]

/-- Calls that start nothing can only settle a debt. -/
theorem owesStop_append (output : Handle) {xs : List Call}
    (hStart : Call.outputStart (some output) true ∉ xs) (calls : List Call) :
    owesStop output (xs ++ calls) =
      (owesStop output calls && !xs.contains (.outputStop output)) := by
  induction xs with
  | nil => simp
  | cons c xs ih =>
    obtain ⟨hHead, hTail⟩ := not_or.mp (List.mem_cons.not.mp hStart)
    rw [List.cons_append, owesStop, if_neg (Ne.symm hHead), List.contains_cons]
    by_cases hStop : c = .outputStop output
    · simp [hStop]
    · rw [if_neg hStop, ih hTail, beq_eq_false_iff_ne.mpr (Ne.symm hStop), Bool.false_or]

theorem Balanced.cons {c : Call} {calls : List Call} (h : Balanced calls)
    (hTorn : c = .pipelineDestroyed → ∀ source, showing source calls = 0)
    (hStopped : ∀ output, c = .outputRelease output → owesStop output calls = false) :
    Balanced (c :: calls) where
  torn earlier hSuffix := by
    rcases List.suffix_cons_iff.mp hSuffix with hHead | hTail
    · obtain ⟨rfl, rfl⟩ := List.cons.inj hHead
      exact hTorn rfl
    · exact h.torn earlier hTail
  stopped output earlier hSuffix := by
    rcases List.suffix_cons_iff.mp hSuffix with hHead | hTail
    · obtain ⟨rfl, rfl⟩ := List.cons.inj hHead
      exact hStopped output rfl
    · exact h.stopped output earlier hTail

theorem balanced_nil : Balanced [] where
  torn earlier hSuffix := by simp at hSuffix
  stopped output earlier hSuffix := by simp at hSuffix

/-- Neither a teardown nor a release. -/
def Call.plain : Call → Bool
  | .pipelineDestroyed => false
  | .outputRelease _ => false
  | _ => true

theorem Balanced.append {xs calls : List Call} (h : Balanced calls)
    (hPlain : ∀ c ∈ xs, c.plain = true) : Balanced (xs ++ calls) := by
  induction xs with
  | nil => exact h
  | cons c xs ih =>
    obtain ⟨hHead, hTail⟩ := List.forall_mem_cons.mp hPlain
    apply (ih hTail).cons
    · rintro rfl
      exact absurd hHead (by decide)
    · rintro output rfl
      exact absurd hHead (by simp [Call.plain])

theorem Call.plain_of_idle {c : Call} (h : c.idle = true) : c.plain = true := by
  cases c <;> first | rfl | simp [Call.idle] at h

theorem idle_statusCalls (old new : EgressLinkOutputStatus) :
    ∀ c ∈ statusCalls old new, c.idle = true := by
  have hCounters : ∀ c ∈ [Call.incrementActiveOutputs, .decrementActiveOutputs,
      .incrementStandByOutputs, .decrementStandByOutputs], c.idle = true := by decide
  exact fun c hc => hCounters c (mem_of_mem_statusCalls hc)

def State.streamingHeld (s : State) : Bool := s.streamingOutput.isSome && s.streamingRunning

def State.recordingHeld (s : State) : Bool := s.recordingOutput.isSome && s.recordingRunning

/-- The showing counts that `destroyPipeline` will give back. -/
def State.showings (s : State) : Int :=
  1 + (if s.streamingHeld then 1 else 0) + if s.recordingHeld then 1 else 0

structure Account (s : State) : Prop where
  showing : ∀ source, showing source s.calls = if s.source = some source then s.showings else 0
  owed : ∀ output, owesStop output s.calls = true →
    (s.streamingOutput = some output ∧ s.streamingHeld = true) ∨
      (s.recordingOutput = some output ∧ s.recordingHeld = true)
  created : ∀ output, s.streamingOutput = some output ∨ s.recordingOutput = some output →
    output < s.nextHandle
  distinct : ∀ output, s.streamingOutput = some output → s.recordingOutput ≠ some output
  balanced : Balanced s.calls

theorem account_initial {s : State} (h : Initial s) : Account s where
  showing source := by simp [h.calls, h.source]
  owed output hOwes := by simp [h.calls, owesStop] at hOwes
  created output hHeld := by simp [h.handles] at hHeld
  distinct output hHeld := by simp [h.handles] at hHeld
  balanced := h.calls ▸ balanced_nil

theorem Account.congr {s t : State} (h : Account s) (hCalls : t.calls = s.calls)
    (hSource : t.source = s.source) (hStreaming : t.streamingOutput = s.streamingOutput)
    (hRecording : t.recordingOutput = s.recordingOutput)
    (hStreamingHeld : t.streamingHeld = s.streamingHeld)
    (hRecordingHeld : t.recordingHeld = s.recordingHeld) (hNext : s.nextHandle ≤ t.nextHandle) :
    Account t where
  showing source := by
    rw [hCalls, hSource, State.showings, hStreamingHeld, hRecordingHeld]
    exact h.showing source
  owed output hOwes := by
    rw [hStreaming, hRecording, hStreamingHeld, hRecordingHeld]
    exact h.owed output (hCalls ▸ hOwes)
  created output hHeld := by
    rw [hStreaming, hRecording] at hHeld
    exact (h.created output hHeld).trans_le hNext
  distinct output hHeld := by
    rw [hStreaming] at hHeld
    exact hRecording ▸ h.distinct output hHeld
  balanced := hCalls ▸ h.balanced

theorem Account.idle {s : State} (h : Account s) {xs : List Call}
    (hIdle : ∀ c ∈ xs, c.idle = true) : Account { s with calls := xs ++ s.calls } :=
  { h with
    showing := fun source => by
      rw [showing_append, showing_idle source hIdle, zero_add]
      exact h.showing source
    owed := fun output hOwes => by
      rw [owesStop_append output fun hStart =>
        absurd (hIdle _ hStart) (by simp [Call.idle])] at hOwes
      exact h.owed output (Bool.and_eq_true_iff.mp hOwes).1
    balanced := h.balanced.append fun c hc => Call.plain_of_idle (hIdle c hc) }

theorem Account.call {s : State} (h : Account s) {c : Call} (hIdle : c.idle = true) :
    Account (s.call c) :=
  have hOne : ∀ c' ∈ [c], c'.idle = true := by simpa using hIdle
  h.idle hOne

/-- The status may change as long as no started stream stops to count as running. -/
theorem Account.setStatus {s : State} (h : Account s) {value : EgressLinkOutputStatus}
    (hHeld : (s.streamingOutput.isSome && value.running) = s.streamingHeld) :
    Account (setStatus value s) := by
  rw [setStatus_eq]
  apply Account.idle (s := { s with status := value }) _ (idle_statusCalls _ _)
  exact h.congr rfl rfl rfl rfl hHeld rfl le_rfl

theorem Account.setRecordingStatus {s : State} (h : Account s) {value : RecordingOutputStatus}
    (hHeld : (s.recordingOutput.isSome && decide (value = .active)) = s.recordingHeld) :
    Account (setRecordingStatus value s) :=
  h.congr rfl rfl rfl rfl rfl hHeld le_rfl

theorem showing_incCalls (source : Source) (held : Option Source) :
    showing source (incCalls held) = if held = some source then 1 else 0 := by
  cases held with
  | none => simp [incCalls]
  | some held => by_cases hSame : held = source <;> simp [incCalls, showing, hSame]

theorem showing_decCalls (source : Source) (held : Option Source) :
    showing source (decCalls held) = if held = some source then -1 else 0 := by
  cases held with
  | none => simp [decCalls]
  | some held => by_cases hSame : held = source <;> simp [decCalls, showing, hSame]

theorem showing_releaseCalls (source : Source) (held : Option Source) (running : Bool)
    (output : Option Handle) :
    showing source (releaseCalls held running output) =
      if held = some source ∧ (output.isSome && running) = true then -1 else 0 := by
  cases output with
  | none => simp [releaseCalls]
  | some output =>
    cases running with
    | false => simp [releaseCalls, showing]
    | true =>
      rw [releaseCalls, if_pos rfl, showing_cons source (.outputRelease output),
        showing_cons source (.outputStop output), showing_decCalls]
      simp [showing]

theorem showing_teardownCalls (s : State) (nextStatus : EgressLinkOutputStatus)
    (source : Source) :
    showing source (teardownCalls s nextStatus) =
      if s.source = some source then -s.showings else 0 := by
  have hStreamingHeld : (s.streamingOutput.isSome && s.streamingRunning) = s.streamingHeld := rfl
  have hRecordingHeld : (s.recordingOutput.isSome && s.recordingRunning) = s.recordingHeld := rfl
  rw [teardownCalls, List.cons_append, showing_cons, showing_append, showing_append, showing_append,
    showing_idle source (idle_statusCalls _ _), showing_decCalls, showing_releaseCalls,
    showing_releaseCalls, showing_pipelineDestroyed, hStreamingHeld, hRecordingHeld]
  by_cases hSource : s.source = some source
  · cases hStreaming : s.streamingHeld <;> cases hRecording : s.recordingHeld <;>
      simp [State.showings, hStreaming, hRecording, hSource]
  · simp [hSource]

theorem not_mem_start_releaseCalls (output : Handle) (held : Option Source) (running : Bool)
    (released : Option Handle) :
    Call.outputStart (some output) true ∉ releaseCalls held running released := by
  cases released <;> cases running <;> cases held <;> simp [releaseCalls, decCalls]

theorem mem_stop_releaseCalls {output : Handle} {held : Option Source} {running : Bool}
    {released : Option Handle} (hReleased : released = some output) (hRunning : running = true) :
    Call.outputStop output ∈ releaseCalls held running released := by
  subst hReleased hRunning
  simp [releaseCalls]

theorem not_mem_start_teardownCalls (s : State) (nextStatus : EgressLinkOutputStatus)
    (output : Handle) : Call.outputStart (some output) true ∉ teardownCalls s nextStatus := by
  intro hMem
  simp only [teardownCalls, List.cons_append, List.mem_cons, List.mem_append] at hMem
  rcases hMem with hMarker | hStatus | hSource | hStreaming | hRecording
  · cases hMarker
  · exact absurd (idle_statusCalls _ _ _ hStatus) (by simp [Call.idle])
  · cases s.source <;> simp [decCalls] at hSource
  · exact not_mem_start_releaseCalls _ _ _ _ hStreaming
  · exact not_mem_start_releaseCalls _ _ _ _ hRecording

/-- The stops of a teardown, and then its releases, settle every debt of the account. -/
theorem Account.owesStop_teardown {s : State} (h : Account s)
    (nextStatus : EgressLinkOutputStatus) (output : Handle) :
    owesStop output (teardownCalls s nextStatus ++ s.calls) = false := by
  rw [owesStop_append output (not_mem_start_teardownCalls s nextStatus output)]
  cases hOwes : owesStop output s.calls with
  | false => rfl
  | true =>
    have hStopped : Call.outputStop output ∈ teardownCalls s nextStatus := by
      simp only [teardownCalls, List.cons_append, List.mem_cons, List.mem_append]
      rcases h.owed output hOwes with ⟨hOutput, hHeld⟩ | ⟨hOutput, hHeld⟩
      · have hRunning := (Bool.and_eq_true_iff.mp hHeld).2
        exact .inr (.inr (.inr (.inl (mem_stop_releaseCalls hOutput hRunning))))
      · have hRunning := (Bool.and_eq_true_iff.mp hHeld).2
        exact .inr (.inr (.inr (.inr (mem_stop_releaseCalls hOutput hRunning))))
    simp [hStopped]

theorem Account.showing_teardown {s : State} (h : Account s)
    (nextStatus : EgressLinkOutputStatus) (source : Source) :
    EgressLinkOutput.showing source (teardownCalls s nextStatus ++ s.calls) = 0 := by
  rw [showing_append, showing_teardownCalls, h.showing source]
  split
  · exact neg_add_cancel _
  · rfl

theorem owesStop_stop_cons (output : Handle) (calls : List Call) :
    owesStop output (.outputStop output :: calls) = false := by
  simp [owesStop]

theorem plain_decCalls (held : Option Source) : ∀ c ∈ decCalls held, c.plain = true := by
  intro c hc
  obtain ⟨source, _, rfl⟩ := List.mem_map.mp hc
  rfl

theorem Balanced.release {calls : List Call} (h : Balanced calls) (held : Option Source)
    {running : Bool} {released : Option Handle}
    (hSettled : running = false → ∀ output, released = some output →
      owesStop output calls = false) : Balanced (releaseCalls held running released ++ calls) := by
  cases released with
  | none => exact h
  | some output =>
    cases running with
    | false =>
      apply h.cons (by simp)
      rintro output' hSame
      cases hSame
      exact hSettled rfl output rfl
    | true =>
      have hDec := (h.append (plain_decCalls held)).cons
        (c := .outputStop output) (by simp) (by simp)
      apply hDec.cons (by simp)
      rintro output' hSame
      cases hSame
      exact owesStop_stop_cons output _

/-- An output whose status does not count as running owes nothing. -/
theorem Account.settled_streaming {s : State} (h : Account s) (hIdle : s.streamingRunning = false)
    {output : Handle} (hOutput : s.streamingOutput = some output) :
    owesStop output s.calls = false := by
  by_contra hOwes
  rcases h.owed output (Bool.eq_true_of_not_eq_false hOwes) with ⟨_, hHeld⟩ | ⟨hOther, _⟩
  · simp [State.streamingHeld, hIdle] at hHeld
  · exact h.distinct output hOutput hOther

theorem Account.settled_recording {s : State} (h : Account s) (hIdle : s.recordingRunning = false)
    {output : Handle} (hOutput : s.recordingOutput = some output) :
    owesStop output s.calls = false := by
  by_contra hOwes
  rcases h.owed output (Bool.eq_true_of_not_eq_false hOwes) with ⟨hOther, _⟩ | ⟨_, hHeld⟩
  · exact h.distinct output hOther hOutput
  · simp [State.recordingHeld, hIdle] at hHeld

theorem Account.balanced_teardown {s : State} (h : Account s)
    (nextStatus : EgressLinkOutputStatus) : Balanced (teardownCalls s nextStatus ++ s.calls) := by
  have hRecording : Balanced
      (releaseCalls s.source s.recordingRunning s.recordingOutput ++ s.calls) :=
    h.balanced.release s.source fun hIdle _ hOutput => h.settled_recording hIdle hOutput
  have hStreaming : Balanced (releaseCalls s.source s.streamingRunning s.streamingOutput ++
      (releaseCalls s.source s.recordingRunning s.recordingOutput ++ s.calls)) := by
    apply hRecording.release
    intro hIdle output hOutput
    rw [owesStop_append output (not_mem_start_releaseCalls output _ _ _),
      h.settled_streaming hIdle hOutput]
    rfl
  have hStatus := (hStreaming.append (plain_decCalls s.source)).append
    fun c hc => Call.plain_of_idle (idle_statusCalls s.status nextStatus c hc)
  have hTeardown := h.showing_teardown nextStatus
  simp only [teardownCalls, List.cons_append, List.append_assoc] at hStatus hTeardown ⊢
  refine hStatus.cons (fun _ source => ?_) (by simp)
  have hZero := hTeardown source
  rwa [showing_cons, showing_pipelineDestroyed, zero_add] at hZero

theorem Account.destroyPipeline {s : State} (h : Account s)
    (nextStatus : EgressLinkOutputStatus) (nextRecordingStatus : RecordingOutputStatus) :
    Account (destroyPipeline nextStatus nextRecordingStatus s) := by
  rw [destroyPipeline_eq]
  constructor
  · exact fun source => h.showing_teardown nextStatus source
  · intro output hOwes
    rw [h.owesStop_teardown nextStatus output] at hOwes
    cases hOwes
  · rintro output (hNone | hNone) <;> cases hNone
  · exact fun _ hNone => nomatch hNone
  · exact h.balanced_teardown nextStatus

theorem Account.stop {s : State} (h : Account s) : Account (stop s) :=
  (h.destroyPipeline _ _).call rfl

/-- While `start` is under way. A stream that runs on is one that the rest of `start`
does not abort. -/
structure Steady (obs : Obs) (reconstructed : Bool) (s : State) : Prop where
  account : Account s
  streaming : reconstructed = true → s.streamingRunning = false
  recording : reconstructed = true → s.recordingRunning = false
  spared : s.streamingRunning = true →
    obs.videoInfo.isSome = true ∧ (createEgressSettings s.settings s.connection).isSome = true

/-- No stream is running. -/
structure Paused (reconstructed : Bool) (s : State) : Prop where
  account : Account s
  streaming : s.streamingRunning = false
  recording : reconstructed = true → s.recordingRunning = false

theorem Paused.steady {obs : Obs} {reconstructed : Bool} {s : State} (h : Paused reconstructed s) :
    Steady obs reconstructed s where
  account := h.account
  streaming _ := h.streaming
  recording := h.recording
  spared hRunning := absurd hRunning (by simp [h.streaming])

theorem Steady.paused {obs : Obs} {reconstructed : Bool} {s : State}
    (h : Steady obs reconstructed s) (hStreaming : s.streamingRunning = false) :
    Paused reconstructed s :=
  ⟨h.account, hStreaming, h.recording⟩

theorem Inv.streamingRunning_of_none {s : State} (h : Inv s) (hNone : s.streamingOutput = none) :
    s.streamingRunning = false := by
  by_contra hRunning
  apply h.streaming _ hNone
  cases hStatus : s.status <;>
    simp_all [State.streamingRunning, EgressLinkOutputStatus.running]

theorem Inv.recordingRunning_of_none {s : State} (h : Inv s) (hNone : s.recordingOutput = none) :
    s.recordingRunning = false := by
  by_contra hRunning
  apply h.recording _ hNone
  simp_all [State.recordingRunning]

theorem Inv.streamingRunning_of_not_encoded {s : State} (h : Inv s) (hMissing : ¬ Encoded s) :
    s.streamingRunning = false := by
  apply h.streamingRunning_of_none
  by_contra hOutput
  exact hMissing (h.streamingParts hOutput).2

theorem Paused.setStatus {reconstructed : Bool} {s : State} (h : Paused reconstructed s)
    {value : EgressLinkOutputStatus} (hValue : value.running = false) :
    Paused reconstructed (setStatus value s) := by
  have hAccount : Account (EgressLinkOutput.setStatus value s) :=
    h.account.setStatus (by simp [State.streamingHeld, h.streaming, hValue])
  rw [setStatus_eq] at hAccount ⊢
  exact ⟨hAccount, hValue, h.recording⟩

section Build

variable (obs : Obs) (uuid : String) {reconstructed : Bool}

theorem triple_abort_paused :
    Triple (Paused reconstructed) abort (fun _ => False) Account :=
  Triple.exit fun _ h => (h.setStatus rfl).account

theorem triple_handle_abort_paused {P Q : State → Prop} {b : Block State}
    (h : Triple P b Q (Paused reconstructed)) : Triple P (b.handle abort) Q Account :=
  h.handle (triple_abort_paused.weaken (fun _ => id) (fun _ => False.elim) fun _ => id)

/-- After `destroyPipeline`. -/
structure Vacant (s : State) : Prop where
  paused : Paused true s
  source : s.source = none

theorem Account.vacant {s : State} (h : Account s) :
    Vacant (EgressLinkOutput.destroyPipeline .inactive .inactive s) := by
  have hAccount := h.destroyPipeline .inactive .inactive
  rw [destroyPipeline_eq] at hAccount ⊢
  exact ⟨⟨hAccount, rfl, fun _ => rfl⟩, rfl⟩

theorem Vacant.acquire {s : State} (h : Vacant s) (source : Source) :
    Account ({ s with source := some source }.call (.sourceIncShowing source)) := by
  have hStreaming : s.streamingHeld = false := by simp [State.streamingHeld, h.paused.streaming]
  have hRecording : s.recordingHeld = false := by
    simp [State.recordingHeld, h.paused.recording rfl]
  have hAccount := h.paused.account
  constructor
  · intro other
    have hBefore := hAccount.showing other
    rw [h.source, if_neg (by simp)] at hBefore
    change EgressLinkOutput.showing other (incCalls (some source) ++ s.calls) =
      if some source = some other then
        1 + (if s.streamingHeld then 1 else 0) + (if s.recordingHeld then 1 else 0)
      else 0
    rw [showing_append, showing_incCalls, hBefore, hStreaming, hRecording]
    simp
  · intro output hOwes
    exact hAccount.owed output (by simpa [State.call, owesStop] using hOwes)
  · exact hAccount.created
  · exact hAccount.distinct
  · exact hAccount.balanced.cons (by simp) (by simp)

theorem triple_createSource_vacant :
    Triple Vacant (createSource obs uuid) (Paused true) (Paused true) := by
  intro s h
  have hReset : Paused true { s with source := none } :=
    { h.paused with account := h.paused.account.congr rfl h.source.symm rfl rfl rfl rfl le_rfl }
  unfold createSource
  cases obs.sourceByUuid uuid with
  | none => exact hReset
  | some source =>
    simp only
    split
    · exact { h.paused with account := h.acquire source }
    · exact hReset

theorem triple_reconstruct_account :
    Triple Account (reconstruct obs uuid) (Paused true) Account := by
  apply Triple.andThen (Triple.step fun s h => h.vacant)
  apply Triple.andThen (Q := Paused true)
  · apply Triple.whenever
    · exact (triple_handle_abort_paused (triple_createSource_vacant obs uuid)).pre fun _ h => h.1
    · exact fun _ h _ => h.paused
  · apply Triple.step
    intro s h
    exact { h with account := h.account.congr rfl rfl rfl rfl rfl rfl le_rfl }

theorem triple_createVideo_paused :
    Triple (Paused reconstructed) (createVideo obs) (Paused reconstructed)
      (Paused reconstructed) := by
  intro s h
  have hView : Paused reconstructed
      { s with sourceView := s.create obs.viewCreated, nextHandle := s.nextHandle + 1 } :=
    { h with account := h.account.congr rfl rfl rfl rfl rfl rfl (Nat.le_succ _) }
  unfold createVideo
  split
  · exact Ends.answer (fun _ => hView) fun _ => hView
  · exact Ends.answer (fun _ => h) fun _ => h

theorem triple_createAudio_paused :
    Triple (Paused reconstructed) (createAudio obs uuid) (Paused reconstructed)
      (Paused reconstructed) := by
  intro s h
  have hChanged : ∀ audioSilence audioSource nextHandle, s.nextHandle ≤ nextHandle →
      Paused reconstructed { s with audioSilence, audioSource, nextHandle } :=
    fun _ _ _ hNext => { h with account := h.account.congr rfl rfl rfl rfl rfl rfl hNext }
  unfold createAudio
  split
  · exact Ends.answer (fun _ => hChanged _ _ _ (Nat.le_succ _)) fun _ =>
      hChanged _ _ _ (Nat.le_succ _)
  · split
    · split
      · exact h
      · split
        · exact hChanged _ _ _ (Nat.le_succ _)
        · exact hChanged _ _ _ le_rfl
    · exact Ends.answer (fun _ => h) fun _ => h

theorem triple_createVideoEncoder_paused (size : Int × Int) :
    Triple (Paused reconstructed) (createVideoEncoder obs size) (Paused reconstructed)
      (Paused reconstructed) := by
  intro s h
  unfold createVideoEncoder
  split
  · exact { h with account := h.account.congr rfl rfl rfl rfl rfl rfl (Nat.le_succ _) }
  · exact { h with account := h.account.congr rfl rfl rfl rfl rfl rfl le_rfl }

theorem triple_createAudioEncoder_paused :
    Triple (Paused reconstructed) (createAudioEncoder obs) (Paused reconstructed)
      (Paused reconstructed) := by
  intro s h
  have hEncoder : Paused reconstructed
      { s with
        audioEncoder := s.create obs.audioEncoderCreated, nextHandle := s.nextHandle + 1 } :=
    { h with account := h.account.congr rfl rfl rfl rfl rfl rfl (Nat.le_succ _) }
  exact Ends.answer (fun _ => hEncoder) fun _ => hEncoder

theorem triple_ensureVideoEncoder_steady :
    Triple (fun s => Inv s ∧ Steady obs reconstructed s) (ensureVideoEncoder obs)
      (Steady obs reconstructed) Account := by
  apply Triple.whenever
  · have hCreate : Triple (Paused reconstructed) _ (Paused reconstructed) (Paused reconstructed) :=
      (triple_createVideo_paused obs).andThen
        (Triple.choose (encoderSize obs) (triple_createVideoEncoder_paused obs))
    apply (triple_handle_abort_paused hCreate).weaken
    · rintro s ⟨⟨hInv, h⟩, hMissing⟩
      apply h.paused
      apply hInv.streamingRunning_of_not_encoded
      exact fun hEncoded => hEncoded.1 (Option.isNone_iff_eq_none.mp hMissing)
    · exact fun _ h => h.steady
    · exact fun _ => id
  · exact fun _ h _ => h.2

theorem triple_ensureAudioEncoder_steady :
    Triple (fun s => Inv s ∧ Steady obs reconstructed s) (ensureAudioEncoder obs)
      (Steady obs reconstructed) Account := by
  apply Triple.whenever
  · have hCreate : Triple (Paused reconstructed) _ (Paused reconstructed) (Paused reconstructed) :=
      Triple.choose audioSourceUuid fun uuid =>
        (triple_createAudio_paused obs uuid).andThen (triple_createAudioEncoder_paused obs)
    apply (triple_handle_abort_paused hCreate).weaken
    · rintro s ⟨⟨hInv, h⟩, hMissing⟩
      apply h.paused
      apply hInv.streamingRunning_of_not_encoded
      exact fun hEncoded => hEncoded.2 (Option.isNone_iff_eq_none.mp hMissing)
    · exact fun _ h => h.steady
    · exact fun _ => id
  · exact fun _ h _ => h.2

end Build

theorem State.eq_nextHandle_of_create {s : State} {created : Bool} {output : Handle}
    (h : s.create created = some output) : output = s.nextHandle := by
  unfold State.create at h
  split at h
  · exact (Option.some.inj h).symm
  · cases h

theorem Account.create_streaming {s : State} (h : Account s)
    (hIdle : s.streamingRunning = false) (created : Bool) :
    Account { s with streamingOutput := s.create created, nextHandle := s.nextHandle + 1 } where
  showing source := by
    have hHeld : s.streamingHeld = false := by simp [State.streamingHeld, hIdle]
    have hSame : State.streamingHeld
        { s with streamingOutput := s.create created, nextHandle := s.nextHandle + 1 } = false := by
      simp only [State.streamingHeld, Bool.and_eq_false_iff]
      exact .inr hIdle
    rw [State.showings, hSame, ← hHeld]
    exact h.showing source
  owed output hOwes := by
    rcases h.owed output hOwes with ⟨_, hHeld⟩ | hRecording
    · simp [State.streamingHeld, hIdle] at hHeld
    · exact .inr hRecording
  created output hHeld := by
    rcases hHeld with hNew | hOld
    · exact Nat.lt_succ_of_le (State.eq_nextHandle_of_create hNew).le
    · exact Nat.lt_succ_of_lt (h.created output (.inr hOld))
  distinct output hNew hOld :=
    (h.created output (.inr hOld)).ne (State.eq_nextHandle_of_create hNew)
  balanced := h.balanced

theorem Account.create_recording {s : State} (h : Account s)
    (hIdle : s.recordingRunning = false) (created : Bool) :
    Account { s with recordingOutput := s.create created, nextHandle := s.nextHandle + 1 } where
  showing source := by
    have hHeld : s.recordingHeld = false := by simp [State.recordingHeld, hIdle]
    have hSame : State.recordingHeld
        { s with recordingOutput := s.create created, nextHandle := s.nextHandle + 1 } = false := by
      simp only [State.recordingHeld, Bool.and_eq_false_iff]
      exact .inr hIdle
    rw [State.showings, hSame, ← hHeld]
    exact h.showing source
  owed output hOwes := by
    rcases h.owed output hOwes with hStreaming | ⟨_, hHeld⟩
    · exact .inl hStreaming
    · simp [State.recordingHeld, hIdle] at hHeld
  created output hHeld := by
    rcases hHeld with hOld | hNew
    · exact Nat.lt_succ_of_lt (h.created output (.inl hOld))
    · exact Nat.lt_succ_of_le (State.eq_nextHandle_of_create hNew).le
  distinct output hOld hNew :=
    (h.created output (.inl hOld)).ne (State.eq_nextHandle_of_create hNew)
  balanced := h.balanced

section Build

variable (obs : Obs) (uuid : String) {streaming reconstructed : Bool}

theorem triple_createStreamingOutput_paused :
    Triple (Paused reconstructed) (createStreamingOutput obs) (Paused reconstructed)
      (Paused reconstructed) := by
  apply Triple.andThen (Q := Paused reconstructed)
  · intro s h
    have hService : Paused reconstructed
        { s with service := s.create obs.serviceCreated, nextHandle := s.nextHandle + 1 } :=
      { h with account := h.account.congr rfl rfl rfl rfl rfl rfl (Nat.le_succ _) }
    exact Ends.answer (fun _ => hService) fun _ => hService
  · intro s h
    have hOutput : Paused reconstructed
        { s with
          streamingOutput := s.create obs.streamingOutputCreated
          nextHandle := s.nextHandle + 1 } :=
      { h with account := h.account.create_streaming h.streaming _ }
    exact Ends.answer (fun _ => hOutput) fun _ => hOutput

theorem triple_ensureStreamingOutput_steady :
    Triple (fun s => Inv s ∧ Steady obs reconstructed s) (ensureStreamingOutput obs streaming)
      (Steady obs reconstructed) Account := by
  apply Triple.whenever
  · have hCreate : Triple (Paused reconstructed) _ (Paused reconstructed) Account :=
      (triple_createStreamingOutput_paused obs).handle
        (Triple.step (f := setStatus .error) fun s h => h.setStatus rfl)
    apply hCreate.weaken
    · rintro s ⟨⟨hInv, h⟩, hMissing⟩
      apply h.paused
      apply hInv.streamingRunning_of_none
      exact Option.isNone_iff_eq_none.mp (Bool.and_eq_true_iff.mp hMissing).1
    · exact fun _ h => h.steady
    · exact fun _ => id
  · exact fun _ h _ => h.2

theorem triple_ensureRecordingOutput_steady (recording : Bool) :
    Triple (fun s => Inv s ∧ Steady obs reconstructed s) (ensureRecordingOutput obs recording)
      (Steady obs reconstructed) Account := by
  apply Triple.whenever
  · apply Triple.handle (S := fun s => Steady obs reconstructed s ∧ s.recordingRunning = false)
    · rintro s ⟨⟨hInv, h⟩, hMissing⟩
      have hIdle := hInv.recordingRunning_of_none
        (Option.isNone_iff_eq_none.mp (Bool.and_eq_true_iff.mp hMissing).1)
      have hOutput : Steady obs reconstructed
          { s with
            recordingOutput := s.create obs.recordingOutputCreated
            nextHandle := s.nextHandle + 1 } :=
        { h with account := h.account.create_recording hIdle _ }
      exact Ends.answer (fun _ => hOutput) fun _ => ⟨hOutput, hIdle⟩
    · apply Triple.step
      rintro s ⟨h, hIdle⟩
      exact
        { h with
          account := h.account.setRecordingStatus (by simp [State.recordingHeld, hIdle])
          recording := fun _ => rfl }
  · exact fun _ h _ => h.2

/-- The outputs that a rebuild has created are not running yet. -/
theorem Steady.activated {s : State} (h : Steady obs true s) :
    Account (activateStreaming obs (activateRecording s)) := by
  have hRecording : Account (activateRecording s) ∧
      (activateRecording s).streamingRunning = false := by
    unfold activateRecording
    split
    · refine ⟨h.account.setRecordingStatus ?_, h.streaming rfl⟩
      simp [State.recordingHeld, h.recording rfl]
    · exact ⟨h.account, h.streaming rfl⟩
  unfold activateStreaming
  split
  · have hSaved : Account (saveTimestamp obs (activateRecording s)) :=
      hRecording.1.congr rfl rfl rfl rfl rfl rfl le_rfl
    apply hSaved.setStatus
    have hIdle : (saveTimestamp obs (activateRecording s)).streamingRunning = false := hRecording.2
    simp [State.streamingHeld, hIdle, EgressLinkOutputStatus.running]
  · exact hRecording.1

theorem triple_goStandBy_steady :
    Triple (Steady obs reconstructed) (goStandBy streaming reconstructed)
      (Steady obs reconstructed) Account := by
  apply Triple.whenever
  · apply Triple.step
    rintro s ⟨h, hStandBy⟩
    have hIdle := h.streaming (Bool.and_eq_true_iff.mp hStandBy).2
    exact ((h.paused hIdle).setStatus rfl).steady
  · exact fun _ h _ => h

theorem triple_reconstruct_steady :
    Triple (fun s => Account s ∧ (reconstructed = false → Steady obs false s))
      (Block.whenever (fun _ => reconstructed) (reconstruct obs uuid))
      (Steady obs reconstructed) Account := by
  apply Triple.whenever
  · cases reconstructed with
    | false => exact fun s h => absurd h.2 (by decide)
    | true =>
      apply (triple_reconstruct_account obs uuid).weaken
      · exact fun s h => h.1.1
      · exact fun s h => h.steady
      · exact fun _ => id
  · rintro s ⟨_, h⟩ hKept
    exact hKept ▸ h hKept

/-- Where a check of `start` fails for a stream that it would spare, no stream is running. -/
theorem Steady.abort {s : State} (h : Steady obs reconstructed s)
    (hFails : ¬ (obs.videoInfo.isSome = true ∧
      (createEgressSettings s.settings s.connection).isSome = true)) :
    Account (setStatus .error s) := by
  have hIdle : s.streamingRunning = false := by
    by_contra hRunning
    exact hFails (h.spared (Bool.eq_true_of_not_eq_false hRunning))
  exact ((h.paused hIdle).setStatus rfl).account

/-- A kept pipeline is steady: the rest of `start` does not abort its stream. -/
theorem triple_buildPipeline_account (recording : Bool) :
    Triple
      (fun s =>
        (Inv s ∧ (reconstructed = false → streaming = true → s.status ≠ .standBy)) ∧
        Account s ∧ (reconstructed = false → Steady obs false s))
      (buildPipeline obs uuid reconstructed streaming recording)
      (fun s => Inv s ∧ Account s) (fun s => Inv s ∧ Account s) := by
  apply Triple.andThen ((triple_reconstruct_whenever obs uuid).also
    ((triple_reconstruct_steady obs uuid).pre fun _ h => h.2))
  apply Triple.andThen (triple_goStandBy.also
    ((triple_goStandBy_steady obs).pre fun _ h => h.2))
  apply Triple.andThen (Q := fun s =>
    Building streaming reconstructed s ∧ Steady obs reconstructed s)
  · exact Triple.require (fun _ h _ => h) fun _ h _ => ⟨h.1.inv, h.2.account⟩
  apply Triple.andThen (Q := fun s =>
    Building streaming reconstructed s ∧ Steady obs reconstructed s)
  · apply Triple.require (fun _ h _ => h)
    intro s h hFails
    -- a stream that goes on passes the check, so where it fails none is running
    exact ⟨h.1.inv.setStatus_error, h.2.abort obs fun hHolds => by simp [hHolds.1] at hFails⟩
  apply Triple.andThen (Q := fun s =>
    Building streaming reconstructed s ∧ Steady obs reconstructed s)
  · apply Triple.require (fun _ h _ => h)
    intro s h hFails
    exact ⟨h.1.inv.setStatus_error, h.2.abort obs fun hHolds => by simp [hHolds.2] at hFails⟩
  apply Triple.andThen ((triple_ensureVideoEncoder obs).also
    ((triple_ensureVideoEncoder_steady obs).pre fun _ h => ⟨h.1.inv, h.2⟩))
  apply Triple.andThen ((triple_ensureAudioEncoder obs).also
    ((triple_ensureAudioEncoder_steady obs).pre fun _ h => ⟨h.1.inv, h.2⟩))
  apply Triple.andThen ((triple_ensureStreamingOutput obs).also
    ((triple_ensureStreamingOutput_steady obs).pre fun _ h => ⟨h.1.inv, h.2⟩))
  apply Triple.andThen ((triple_ensureRecordingOutput obs recording).also
    ((triple_ensureRecordingOutput_steady obs recording).pre fun _ h => ⟨h.1.inv, h.2⟩))
  apply Triple.andThen (Q := fun s => Inv s ∧ Steady obs reconstructed s)
  · exact Triple.require (fun _ h _ => h) fun _ h _ => ⟨h.1, h.2.account⟩
  · apply Triple.whenever
    · cases reconstructed with
      | false => exact fun s h => absurd h.2 (by decide)
      | true =>
        apply Triple.step
        rintro s ⟨⟨hInv, h⟩, _⟩
        exact ⟨hInv.activateRecording.activateStreaming obs, h.activated⟩
    · exact fun _ h _ => ⟨h.1, h.2.account⟩

end Build

theorem active_of_running_of_not_demandsReconstruction {uuid : String} {s : State}
    (hKept : demandsReconstruction uuid s = false) (hRunning : s.streamingRunning = true) :
    s.status = .active := by
  cases hStatus : s.status <;>
    simp_all [demandsReconstruction, State.streamingRunning, EgressLinkOutputStatus.running]
  exact hKept.1.1.2 hKept.1.2

/-- A call of `start` that keeps an active pipeline and then gives up before its end. -/
def AbortsActive (obs : Obs) (s : State) : Prop :=
  s.status = .active ∧ s.getSourceUuid ≠ "" ∧ s.getVisible = true ∧
    demandsReconstruction s.getSourceUuid (retrieveConnection obs s) = false ∧
    (obs.videoInfo = none ∨
      createEgressSettings s.settings (connectionOf s.name obs.uplink) = none)

/-- A tick that moves an established stream to the changing status. -/
def ChangesSettings (obs : Obs) (s : State) : Prop :=
  s.status.running = true ∧ s.recordingStatus ≠ .activating ∧
    sinceAttempt obs s > outputRetryTimeoutMsecs ∧ interlockStops obs = false ∧
    s.activeSettingsRev < s.storedSettingsRev ∧ obs.streamingReconnecting = false

theorem Account.start {s : State} (h : Account s) (hInv : Inv s) (obs : Obs)
    (hSpares : s.streamingRunning = true → ¬ AbortsActive obs s) :
    Account (start obs s) := by
  apply Account.call _ rfl
  unfold startPipeline
  split
  · exact h.destroyPipeline _ _
  · next hEnabled =>
    have hRetrieved : Account (retrieveConnection obs s) := h.congr rfl rfl rfl rfl rfl rfl le_rfl
    apply ((triple_buildPipeline_account obs _ _).body (fun _ => id) _ _).2
    refine ⟨⟨{ hInv with }, fun hKept hConnected => ?_⟩, hRetrieved, fun hKept => ?_⟩
    · rw [active_of_not_demandsReconstruction hKept hConnected]
      decide
    · refine ⟨hRetrieved, fun hRebuilt => absurd hRebuilt (by decide),
        fun hRebuilt => absurd hRebuilt (by decide), fun hRunning => ?_⟩
      have hActive := active_of_running_of_not_demandsReconstruction hKept hRunning
      by_contra hAborts
      apply hSpares hRunning
      simp only [Bool.or_eq_true, decide_eq_true_eq, Bool.not_eq_true', not_or] at hEnabled
      refine ⟨hActive, hEnabled.1, Bool.eq_true_of_not_eq_false hEnabled.2, hKept, ?_⟩
      rcases not_and_or.mp hAborts with hInfo | hSettings
      · exact .inl (Option.not_isSome_iff_eq_none.mp hInfo)
      · exact .inr (Option.not_isSome_iff_eq_none.mp hSettings)

/-- A start that succeeds: one more showing count, one more output to stop. -/
theorem Account.begin {s t : State} (h : Account s) {started : Handle}
    (hCalls : t.calls = incCalls s.source ++ .outputStart (some started) true :: s.calls)
    (hSource : t.source = s.source) (hStreaming : t.streamingOutput = s.streamingOutput)
    (hRecording : t.recordingOutput = s.recordingOutput) (hNext : t.nextHandle = s.nextHandle)
    (hShowings : t.showings = s.showings + 1)
    (hStreamingHeld : s.streamingHeld = true → t.streamingHeld = true)
    (hRecordingHeld : s.recordingHeld = true → t.recordingHeld = true)
    (hStarted : (t.streamingOutput = some started ∧ t.streamingHeld = true) ∨
      (t.recordingOutput = some started ∧ t.recordingHeld = true)) : Account t where
  showing source := by
    rw [hCalls, hSource, hShowings, showing_append, showing_cons, showing_outputStart,
      showing_incCalls, h.showing source]
    split
    · omega
    · rfl
  owed output hOwes := by
    rw [hCalls, owesStop_append output (fun hMem => by
      obtain ⟨_, _, hInc⟩ := List.mem_map.mp hMem
      cases hInc)] at hOwes
    have hOwes' := (Bool.and_eq_true_iff.mp hOwes).1
    -- the output owes its stop from now on; the others owe what they did
    by_cases hSame : output = started
    · exact hSame ▸ hStarted
    · rw [hStreaming, hRecording]
      have hBefore : owesStop output s.calls = true := by
        simpa [owesStop, Ne.symm hSame] using hOwes'
      exact (h.owed output hBefore).imp (fun hHeld => ⟨hHeld.1, hStreamingHeld hHeld.2⟩)
        fun hHeld => ⟨hHeld.1, hRecordingHeld hHeld.2⟩
  created output hHeld := by
    rw [hStreaming, hRecording] at hHeld
    exact hNext ▸ h.created output hHeld
  distinct output hHeld := by
    rw [hStreaming] at hHeld
    exact hRecording ▸ h.distinct output hHeld
  balanced := by
    rw [hCalls]
    apply (h.balanced.cons (by simp) (by simp)).append
    intro c hc
    obtain ⟨_, _, rfl⟩ := List.mem_map.mp hc
    rfl

theorem Account.restart {s : State} (h : Account s) {output : Handle} (started : Bool)
    (hHeld : (s.streamingOutput = some output ∧ s.streamingHeld = true) ∨
      (s.recordingOutput = some output ∧ s.recordingHeld = true)) :
    Account (s.call (.outputStart (some output) started)) := by
  cases started with
  | false => exact h.call rfl
  | true =>
    exact
      { h with
        showing := fun source => by
          change EgressLinkOutput.showing source (.outputStart (some output) true :: s.calls) =
            if s.source = some source then s.showings else 0
          rw [showing_cons, showing_outputStart, zero_add]
          exact h.showing source
        owed := fun other hOwes => by
          by_cases hSame : other = output
          · exact hSame ▸ hHeld
          · exact h.owed other (by simpa [State.call, owesStop, Ne.symm hSame] using hOwes)
        balanced := h.balanced.cons (by simp) (by simp) }

theorem Account.begin_streaming {s t : State} (h : Account s) {output : Handle}
    (hOutput : s.streamingOutput = some output) (hIdle : s.streamingRunning = false)
    (hBegun : t = { s with
      status := .active
      calls := incCalls s.source ++ .outputStart (some output) true :: s.calls }) :
    Account t := by
  subst hBegun
  have hBefore : s.streamingHeld = false := by simp [State.streamingHeld, hIdle]
  have hAfter : (s.streamingOutput.isSome && EgressLinkOutputStatus.active.running) = true := by
    rw [hOutput]
    rfl
  refine h.begin rfl rfl rfl rfl rfl ?_ (fun _ => hAfter) (fun hHeld => hHeld)
    (.inl ⟨hOutput, hAfter⟩)
  change 1 + (if s.streamingOutput.isSome && EgressLinkOutputStatus.active.running then 1 else 0) +
    (if s.recordingHeld then 1 else 0) = s.showings + 1
  rw [hAfter, State.showings, hBefore]
  simp only [if_true, Bool.false_eq_true, if_false]
  omega

theorem Account.begin_recording {s t : State} (h : Account s) {output : Handle}
    (hOutput : s.recordingOutput = some output) (hIdle : s.recordingRunning = false)
    (hBegun : t = { s with
      recordingStatus := .active
      calls := incCalls s.source ++ .outputStart (some output) true :: s.calls }) :
    Account t := by
  subst hBegun
  have hBefore : s.recordingHeld = false := by simp [State.recordingHeld, hIdle]
  have hAfter : (s.recordingOutput.isSome &&
      decide (RecordingOutputStatus.active = .active)) = true := by
    rw [hOutput]
    rfl
  refine h.begin rfl rfl rfl rfl rfl ?_ (fun hHeld => hHeld) (fun _ => hAfter)
    (.inr ⟨hOutput, hAfter⟩)
  change 1 + (if s.streamingHeld then 1 else 0) +
    (if s.recordingOutput.isSome && decide (RecordingOutputStatus.active = .active) then 1 else 0) =
      s.showings + 1
  rw [hAfter, State.showings, hBefore]
  simp only [if_true, Bool.false_eq_true, if_false]
  omega

theorem Account.startStreaming {s : State} (h : Account s) (obs : Obs)
    (hIdle : s.streamingRunning = false) : Account (startStreaming obs s) := by
  have hSaved : Account (saveTimestamp obs s) := h.congr rfl rfl rfl rfl rfl rfl le_rfl
  apply Account.call _ rfl
  split
  · next hSome =>
    obtain ⟨output, hOutput⟩ := Option.isSome_iff_exists.mp hSome
    simp only
    split
    · next hStarted =>
      rw [setStatus_eq, incShowing_eq, hStarted, hOutput]
      exact (hSaved.begin_streaming hOutput hIdle rfl).idle (idle_statusCalls _ _)
    · next hFailed =>
      apply Account.setStatus
      · exact hSaved.call (by simpa [Call.idle] using hFailed)
      · change (s.streamingOutput.isSome && false) = s.streamingHeld
        simp [State.streamingHeld, hIdle]
  · exact h

theorem Account.startRecording {s : State} (h : Account s) (obs : Obs)
    (hIdle : s.recordingRunning = false) : Account (startRecording obs s) := by
  unfold EgressLinkOutput.startRecording
  split
  · next hSome =>
    obtain ⟨output, hOutput⟩ := Option.isSome_iff_exists.mp hSome
    simp only
    split
    · next hStarted =>
      rw [incShowing_eq, hStarted, hOutput]
      exact h.begin_recording hOutput hIdle rfl
    · next hFailed =>
      apply Account.setRecordingStatus
      · exact h.call (by simpa [Call.idle] using hFailed)
      · change (s.recordingOutput.isSome && false) = s.recordingHeld
        simp [State.recordingHeld, hIdle]
  · exact h

theorem Account.restartStreaming {s : State} (h : Account s) (obs : Obs)
    (hOutput : s.streamingOutput ≠ none) (hRunning : s.streamingRunning = true) :
    Account (restartStreaming obs s) := by
  obtain ⟨output, hOutput⟩ := Option.ne_none_iff_exists'.mp hOutput
  have hHeld : s.streamingHeld = true := by simp [State.streamingHeld, hOutput, hRunning]
  have hSaved : Account (saveTimestamp obs s) := h.congr rfl rfl rfl rfl rfl rfl le_rfl
  have hStopped := hSaved.call (c := .outputForceStop s.streamingOutput) rfl
  have hStarted := hStopped.restart obs.streamingStarted (.inl ⟨hOutput, hHeld⟩)
  rw [← hOutput] at hStarted
  unfold EgressLinkOutput.restartStreaming
  simp only
  split
  · apply hStarted.setStatus
    change (s.streamingOutput.isSome && true) = s.streamingHeld
    rw [hOutput, hHeld]
    rfl
  · exact hStarted

theorem Account.restartRecording {s : State} (h : Account s) (obs : Obs)
    (hOutput : s.recordingOutput ≠ none) (hRunning : s.recordingRunning = true) :
    Account (restartRecording obs s) := by
  obtain ⟨output, hOutput⟩ := Option.ne_none_iff_exists'.mp hOutput
  have hHeld : s.recordingHeld = true := by simp [State.recordingHeld, hOutput, hRunning]
  have hStopped := h.call (c := .outputForceStop s.recordingOutput) rfl
  have hStarted := hStopped.restart obs.recordingStarted (.inr ⟨hOutput, hHeld⟩)
  rw [← hOutput] at hStarted
  exact hStarted

/-- The settings of the running stream are up to date, or it is reconnecting by itself. -/
def Settled (obs : Obs) (s : State) : Prop :=
  ¬ (s.activeSettingsRev < s.storedSettingsRev ∧ obs.streamingReconnecting = false)

structure Watched (obs : Obs) (s : State) : Prop where
  account : Account s
  running : s.streamingRunning = true
  settled : Settled obs s

section Monitor

variable (obs : Obs) (alive : Bool)

theorem triple_checkStandBy_watched :
    Triple
      (fun s => (Inv s ∧ streamingInactiveStatus s = false ∧ alive = streamingAlive obs s) ∧
        Account s ∧ (s.streamingRunning = true → Settled obs s))
      (checkStandBy obs alive) (Watched obs) Account := by
  apply Triple.require
  · rintro s ⟨⟨hInv, hStatus, rfl⟩, h, hSettled⟩ hNotStandBy
    have hRunning : s.streamingRunning = true := by
      by_contra hIdle
      have hStandBy : s.status = .standBy := by
        cases hCase : s.status <;>
          simp_all [streamingInactiveStatus, State.streamingRunning, EgressLinkOutputStatus.running]
      simp [streamingAlive, hStandBy, hInv.standBy hStandBy] at hNotStandBy
    exact ⟨h, hRunning, hSettled hRunning⟩
  · rintro s ⟨⟨hInv, _, _⟩, h, _⟩ hFails
    apply h.start hInv obs
    intro hRunning
    have hStandBy : s.status = .standBy := by simpa using (Bool.or_eq_false_iff.mp hFails).2
    simp [State.streamingRunning, hStandBy, EgressLinkOutputStatus.running] at hRunning

theorem triple_changeSettings_watched :
    Triple (Watched obs) (changeSettings obs) (Watched obs) Account := by
  intro s h
  unfold changeSettings
  split
  · next hRev =>
    simp only
    split
    · exact { h with account := h.account.call rfl }
    · next hAsked => exact absurd ⟨hRev, Bool.eq_false_of_not_eq_true hAsked⟩ h.settled
  · exact h

theorem triple_checkRecording_watched :
    Triple (fun s => Established s ∧ Watched obs s) (checkRecording obs) (Watched obs) Account := by
  apply Triple.whenever
  · apply Triple.step
    rintro s ⟨⟨hEstablished, h⟩, hRecording⟩
    have hActive : s.recordingStatus = .active := by
      simpa using (Bool.and_eq_true_iff.mp hRecording).1
    have hOutput := hEstablished.inv.recording (by simp [hActive])
    have hRunning : s.recordingRunning = true := by simp [State.recordingRunning, hActive]
    exact { h with account := h.account.restartRecording obs hOutput hRunning }
  · exact fun _ h _ => h.2

theorem triple_checkReconnected_watched :
    Triple (fun s => Established s ∧ Watched obs s) (checkReconnected alive) (Watched obs)
      Account := by
  apply Triple.whenever
  · apply Triple.step
    rintro s ⟨⟨hEstablished, h⟩, _⟩
    have hAccount : Account (setStatus .active s) := by
      apply h.account.setStatus
      simp [State.streamingHeld, h.running, EgressLinkOutputStatus.running]
    rw [setStatus_eq] at hAccount ⊢
    exact ⟨hAccount, rfl, h.settled⟩
  · exact fun _ h _ => h.2

theorem triple_monitorOutput_account :
    Triple
      (fun s => (Inv s ∧ streamingInactiveStatus s = false ∧ alive = streamingAlive obs s) ∧
        Account s ∧
          (s.streamingRunning = true → interlockStops obs = false → Settled obs s))
      (monitorOutput obs alive) (fun s => Inv s ∧ Account s) (fun s => Inv s ∧ Account s) := by
  apply Triple.andThen (Q := fun s =>
    (Inv s ∧ streamingInactiveStatus s = false ∧ alive = streamingAlive obs s) ∧
      Account s ∧ (s.streamingRunning = true → Settled obs s))
  · apply Triple.require
    · rintro s ⟨hStatus, h, hSettled⟩ hGoes
      exact ⟨hStatus, h, fun hRunning => hSettled hRunning (by simpa using hGoes)⟩
    · exact fun s h _ => ⟨h.1.1.stop, h.2.1.stop⟩
  apply Triple.andThen ((triple_checkStandBy obs alive).also (triple_checkStandBy_watched obs alive))
  apply Triple.andThen ((triple_changeSettings obs).also
    ((triple_changeSettings_watched obs).pre fun _ h => h.2))
  apply Triple.andThen ((triple_checkRecording obs).also (triple_checkRecording_watched obs))
  apply Triple.andThen (Q := fun s => Established s ∧ Watched obs s)
  · apply Triple.require (fun _ h _ => h)
    rintro s ⟨hEstablished, h⟩ _
    exact ⟨hEstablished.inv.restartStreaming obs hEstablished.held,
      h.account.restartStreaming obs hEstablished.held h.running⟩
  apply Triple.andThen ((triple_checkReconnected alive).also
    (triple_checkReconnected_watched obs alive))
  exact Triple.require (fun _ h _ => ⟨h.1.inv, h.2.account⟩)
    fun _ h _ => ⟨h.1.inv.stop, h.2.account.stop⟩

end Monitor

theorem streamingRunning_of_status {s : State} {status : EgressLinkOutputStatus}
    (hStatus : s.status = status) : s.streamingRunning = status.running := by
  rw [State.streamingRunning, hStatus]

theorem startStreaming_recordingStatus (obs : Obs) (s : State) :
    (startStreaming obs s).recordingStatus = s.recordingStatus := by
  unfold startStreaming
  simp only [State.call, setStatus_eq, incShowing_eq, saveTimestamp]
  split
  · split <;> rfl
  · rfl

theorem Account.activate {s : State} (h : Account s) (obs : Obs) :
    Account
      (let t := if s.status = .activating then EgressLinkOutput.startStreaming obs s else s
      if s.recordingStatus = .activating then EgressLinkOutput.startRecording obs t else t) := by
  have hStreaming : Account
      (if s.status = .activating then EgressLinkOutput.startStreaming obs s else s) := by
    split
    · next hStatus => exact h.startStreaming obs (streamingRunning_of_status hStatus)
    · exact h
  have hRecordingStatus :
      (if s.status = .activating then EgressLinkOutput.startStreaming obs s else s).recordingStatus =
        s.recordingStatus := by
    split
    · exact startStreaming_recordingStatus obs s
    · rfl
  simp only
  split
  · next hActivating =>
    apply hStreaming.startRecording
    rw [State.recordingRunning, hRecordingStatus, hActivating]
    decide
  · exact hStreaming

theorem Account.onMonitoringTimerTimeout {s : State} (h : Account s) (hInv : Inv s) (obs : Obs)
    (hKeeps : ¬ ChangesSettings obs s) : Account (onMonitoringTimerTimeout obs s) := by
  have hStart : s.streamingRunning = false → Account (EgressLinkOutput.start obs s) :=
    fun hIdle => h.start hInv obs fun hRunning => absurd hRunning (by simp [hIdle])
  unfold EgressLinkOutput.onMonitoringTimerTimeout
  simp only
  split
  · next hChanging => exact hStart (streamingRunning_of_status hChanging)
  · split
    · split
      · exact h.activate obs
      · exact h
    · next hActivating =>
      split
      · next hInactive =>
        split
        · apply hStart
          cases hStatus : s.status <;>
            simp_all [streamingInactiveStatus, State.streamingRunning,
              EgressLinkOutputStatus.running]
        · exact h
      · next hEstablished =>
        split
        · next hElapsed =>
          refine ((triple_monitorOutput_account obs _).body (fun _ => id) s
            ⟨⟨hInv, Bool.not_eq_true _ ▸ hEstablished, rfl⟩, h, ?_⟩).2
          -- a restart for changed settings is what the hypothesis excludes
          intro hRunning hStays hChanged
          exact hKeeps ⟨hRunning, fun hRecording => hActivating (.inr hRecording), hElapsed, hStays,
            hChanged⟩
        · exact h

/-- Events from outside: only ticks call the private `startStreaming` and `startRecording`. -/
def Driven (_ : State) : Event → Prop
  | .startStreaming _ => False
  | .startRecording _ => False
  | _ => True

/-- The stream's status is not moved away from a running stream. -/
def Undisturbed (s : State) : Event → Prop
  | .monitoringTimerTimeout obs => ¬ ChangesSettings obs s
  | .start obs => ¬ AbortsActive obs s
  | .startStreaming _ => False
  | .startRecording _ => False
  | _ => True

theorem Account.apply {s : State} (h : Account s) (hInv : Inv s) {e : Event}
    (hUndisturbed : Undisturbed s e) : Account (apply s e) := by
  cases e with
  | monitoringTimerTimeout obs => exact h.onMonitoringTimerTimeout hInv obs hUndisturbed
  | start obs => exact h.start hInv obs fun _ => hUndisturbed
  | stop => exact h.stop
  | startStreaming obs => exact hUndisturbed.elim
  | startRecording obs => exact hUndisturbed.elim
  | update defaults newSettings => exact h.congr rfl rfl rfl rfl rfl rfl le_rfl
  | setVisible value => exact h.congr rfl rfl rfl rfl rfl rfl le_rfl
  | setSourceUuid value =>
    exact setSourceUuid_keeps h fun _ => h.congr rfl rfl rfl rfl rfl rfl le_rfl
  | uplinkReady uplink =>
    exact onUplinkReady_keeps h fun _ => h.congr rfl rfl rfl rfl rfl rfl le_rfl
  | shutdown => exact h.stop

theorem account_of_reachable {s : State} (h : Reachable step Undisturbed Initial s) :
    Account s := by
  have hBoth : Inv s ∧ Account s := by
    apply h.invariant (fun s hInitial => ⟨inv_initial hInitial, account_initial hInitial⟩)
    rintro s e s' ⟨hInv, hAccount⟩ hUndisturbed hStep
    obtain rfl : EgressLinkOutput.apply s e = s' := Option.some.inj hStep
    exact ⟨hInv.apply e, hAccount.apply hInv hUndisturbed⟩
  exact hBoth.2

theorem Account.showing_stop {s : State} (h : Account s) (source : Source) :
    EgressLinkOutput.showing source (EgressLinkOutput.stop s).calls = 0 := by
  have hStopped := h.stop.showing source
  rw [hStopped, if_neg]
  simp [EgressLinkOutput.stop, destroyPipeline_eq, State.call]

/-- What the calls of an output must add up to, at every teardown and after a stop. -/
structure Releases (s : State) : Prop where
  balanced : Balanced s.calls
  stopped : ∀ source, showing source (stop s).calls = 0

theorem releases_of_undisturbed {s : State} (h : Reachable step Undisturbed Initial s) :
    Releases s where
  balanced := (account_of_reachable h).balanced
  stopped := (account_of_reachable h).showing_stop

/-- Two ticks start the stream, then the output is stopped. -/
theorem releases_of_undisturbed_stopped :
    ∃ s, .outputStart (some 5) true ∈ s.calls ∧ .outputStop 5 ∈ s.calls ∧ Releases s := by
  have hReady : Reachable step Undisturbed Initial
      (apply mainOutput (.monitoringTimerTimeout (healthyObs 10000))) :=
    .next (e := Event.monitoringTimerTimeout (healthyObs 10000)) (.start initial_mainOutput)
      (fun hChanges => absurd hChanges.1 (by decide)) rfl
  have hActive := Reachable.next (e := Event.monitoringTimerTimeout (healthyObs 12000)) hReady
    (fun hChanges => absurd hChanges.1 (by decide +kernel)) rfl
  have hStopped := Reachable.next (e := Event.stop) hActive trivial rfl
  exact ⟨_, by decide +kernel, by decide +kernel, releases_of_undisturbed hStopped⟩

/-- The settings change while the stream is active: the next tick moves it to the changing
status, in which a teardown neither stops it nor gives its showing count back. -/
theorem not_releases : ¬ ∀ s, Reachable step Driven Initial s → Releases s := by
  intro hAll
  have hReady : Reachable step Driven Initial
      (apply mainOutput (.monitoringTimerTimeout (healthyObs 10000))) :=
    .next (e := Event.monitoringTimerTimeout (healthyObs 10000)) (.start initial_mainOutput)
      trivial rfl
  have hActive := Reachable.next (e := Event.monitoringTimerTimeout (healthyObs 12000)) hReady
    trivial rfl
  have hUpdated := Reachable.next (e := Event.update [] []) hActive trivial rfl
  have hChanging := Reachable.next (e := Event.monitoringTimerTimeout (healthyObs 16000)) hUpdated
    trivial rfl
  exact absurd ((hAll _ hChanging).stopped 7) (by decide +kernel)

end SrcLink.EgressLinkOutput
