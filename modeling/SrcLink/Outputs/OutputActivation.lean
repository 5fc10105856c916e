import SrcLink.Outputs.StandBy

/-! # Created outputs and their activation

`start` creates an output whenever its handle is missing, but activates outputs only in
a call that has rebuilt the pipeline. The two agree unless an earlier call could not
create the recording output.
-/

namespace SrcLink.EgressLinkOutput

open StepSystem

set_option autoImplicit false

section Activation

variable (obs : Obs) (s : State)

/-- An output that was missing when `start` came to create it, and is there afterwards, is
left to be started by the next ticks. -/
structure Activates : Prop where
  recording : rebuilds obs s = true ∨ s.recordingOutput = none →
    (start obs s).recordingOutput ≠ none → (start obs s).recordingStatus = .activating
  streaming : rebuilds obs s = true ∨ s.streamingOutput = none →
    (start obs s).streamingOutput ≠ none → (start obs s).status = .activating

/-- The recording output that an earlier call could not create can be created now. -/
structure CreatesLate : Prop where
  enabled : Enabled s
  kept : rebuilds obs s = false
  recording : s.getRecording = true
  missing : s.recordingOutput = none
  videoInfo : obs.videoInfo.isSome = true
  protocol : streams obs s = true →
    (createEgressSettings s.settings (retrieveConnection obs s).connection).isSome = true
  created : obs.recordingOutputCreated = true

end Activation

theorem keepPipeline_keeps (obs : Obs) (streaming recording : Bool) (s : State) :
    (keepPipeline obs streaming recording s).streamingOutput = s.streamingOutput ∧
      (keepPipeline obs streaming recording s).recordingStatus ∈ [s.recordingStatus, .error] := by
  rw [keepPipeline]
  simp only [ensureRecordingOutput_body, setStatus_eq]
  split
  · split
    · split
      · split
        · split <;> simp
        · simp
      · simp
    · simp
  · simp

theorem keepPipeline_streamingOutput (obs : Obs) (streaming recording : Bool) (s : State) :
    (keepPipeline obs streaming recording s).streamingOutput = s.streamingOutput :=
  (keepPipeline_keeps obs streaming recording s).1

theorem keepPipeline_recordingStatus (obs : Obs) (streaming recording : Bool) (s : State) :
    (keepPipeline obs streaming recording s).recordingStatus ∈ [s.recordingStatus, .error] :=
  (keepPipeline_keeps obs streaming recording s).2

theorem keepPipeline_creates_iff (obs : Obs) (streaming recording : Bool) {s : State}
    (hMissing : s.recordingOutput = none) :
    (keepPipeline obs streaming recording s).recordingOutput ≠ none ↔
      recording = true ∧ obs.videoInfo.isSome = true ∧
        (streaming = true → (createEgressSettings s.settings s.connection).isSome = true) ∧
        obs.recordingOutputCreated = true := by
  -- past the checks; before them an abort creates nothing
  have hBody : ((ensureRecordingOutput obs recording).body s).recordingOutput ≠ none ↔
      recording = true ∧ obs.recordingOutputCreated = true := by
    rw [ensureRecordingOutput_body, hMissing]
    cases recording <;> cases obs.recordingOutputCreated <;> simp [hMissing]
  have hAborted : (setStatus .error s).recordingOutput = none := by rw [setStatus_eq, hMissing]
  unfold keepPipeline
  split
  · split
    · next hVideo =>
      split
      · next hProtocol =>
        have hKnown : streaming = true →
            (createEgressSettings s.settings s.connection).isSome = true := by
          rintro rfl
          exact hProtocol
        rw [hBody]
        exact ⟨fun h => ⟨h.1, hVideo, hKnown, h.2⟩, fun h => ⟨h.1, h.2.2.2⟩⟩
      · next hProtocol =>
        simp only [Bool.or_eq_true, not_or, Bool.not_eq_true', Bool.not_eq_false] at hProtocol
        simp [hAborted, hProtocol]
    · next hVideo => simp [hAborted, hVideo]
  · next hUnused =>
    obtain ⟨-, rfl⟩ := Bool.or_eq_false_iff.mp (Bool.not_eq_true _ ▸ hUnused)
    simp [hMissing]

section Start

variable {obs : Obs} {s : State}

/-- Every output of the view is about to be started. -/
structure PipelineView.Activating (v : PipelineView) : Prop where
  recording : v.recordingOutput = true → v.recordingStatus = .activating
  streaming : v.streamingOutput = true → v.status = .activating

theorem activating_of_failed (v : PipelineView) (hStreaming : v.streamingOutput = false)
    (hRecording : v.recordingOutput = false) : v.failed.Activating where
  recording hOutput := by simp [PipelineView.failed, hRecording] at hOutput
  streaming hOutput := by simp [PipelineView.failed, hStreaming] at hOutput

theorem activating_rebuilt (v : PipelineView) (uuid : String)
    (streaming recording streamingCreated recordingCreated : Bool) :
    (v.rebuilt uuid streaming recording streamingCreated recordingCreated).Activating where
  recording hOutput := by
    obtain ⟨hRecording, hCreated⟩ := Bool.and_eq_true_iff.mp hOutput
    simp [PipelineView.rebuilt, hRecording, hCreated]
  streaming hOutput := by
    obtain ⟨hStreaming, hCreated⟩ := Bool.and_eq_true_iff.mp hOutput
    simp [PipelineView.rebuilt, hStreaming, hCreated]

theorem activates_of_rebuilt (hEnabled : Enabled s) (hRebuilds : rebuilds obs s = true) :
    Activates obs s := by
  have hActivating : (start obs s).view.Activating := by
    change (startPipeline obs s).view.Activating
    have hRebuilt : Rebuilt obs _ _ _ _ (startPipeline obs s) :=
      startPipeline_rebuilt hEnabled hRebuilds
    cases hRebuilt with
    | failed _ hView =>
      rcases hView with hView | hView <;> rw [hView] <;> exact activating_of_failed _ rfl rfl
    | built _ hView =>
      rw [hView]
      exact activating_rebuilt ..
  exact
    { recording := fun _ hCreated => hActivating.recording (Option.isSome_iff_ne_none.mpr hCreated)
      streaming := fun _ hCreated =>
        hActivating.streaming (Option.isSome_iff_ne_none.mpr hCreated) }

theorem activates_of_disabled (hDisabled : ¬ Enabled s) : Activates obs s := by
  have hStart : startPipeline obs s = _ := startPipeline_of_disabled hDisabled
  rw [destroyPipeline_eq] at hStart
  refine ⟨fun _ hCreated => absurd ?_ hCreated, fun _ hCreated => absurd ?_ hCreated⟩
  · exact congrArg State.recordingOutput hStart
  · exact congrArg State.streamingOutput hStart

theorem createsLate_iff_of_kept (hInv : Inv s) (hProvided : Provided s) (hEnabled : Enabled s)
    (hKept : rebuilds obs s = false) :
    CreatesLate obs s ↔ s.recordingOutput = none ∧ (start obs s).recordingOutput ≠ none := by
  have hStart := startPipeline_of_kept (rebuilds_eq_false_iff.mp hKept) hInv hProvided hEnabled
  change _ ↔ s.recordingOutput = none ∧ (startPipeline obs s).recordingOutput ≠ none
  rw [hStart]
  have hCreates (hMissing : (retrieveConnection obs s).recordingOutput = none) :=
    keepPipeline_creates_iff obs (streams obs s) s.getRecording hMissing
  constructor
  · intro h
    exact ⟨h.missing, (hCreates h.missing).mpr ⟨h.recording, h.videoInfo, h.protocol, h.created⟩⟩
  · rintro ⟨hMissing, hCreated⟩
    obtain ⟨hRecording, hVideo, hProtocol, hYes⟩ := (hCreates hMissing).mp hCreated
    exact ⟨hEnabled, hKept, hRecording, hMissing, hVideo, hProtocol, hYes⟩

/-- A kept pipeline has its streaming output, so only the recording output can be created. -/
theorem activates_iff_of_kept (hInv : Inv s) (hProvided : Provided s) (hEnabled : Enabled s)
    (hKept : rebuilds obs s = false) :
    Activates obs s ↔ ¬ (s.recordingOutput = none ∧ (start obs s).recordingOutput ≠ none) := by
  have hStart := startPipeline_of_kept (rebuilds_eq_false_iff.mp hKept) hInv hProvided hEnabled
  constructor
  · rintro hActivates ⟨hMissing, hCreated⟩
    have hBefore : s.recordingStatus ≠ .activating :=
      fun hStatus => hInv.recording (by simp [hStatus]) hMissing
    have hAfter : (startPipeline obs s).recordingStatus ∈ [s.recordingStatus, .error] := by
      rw [hStart]
      exact keepPipeline_recordingStatus ..
    have hActivating : (startPipeline obs s).recordingStatus = .activating :=
      hActivates.recording (.inr hMissing) hCreated
    simp [hActivating, hBefore.symm] at hAfter
  · intro hNot
    have hNever : ¬ rebuilds obs s = true := by simp [hKept]
    refine ⟨fun hMissing hCreated => ?_, fun hMissing hCreated => ?_⟩
    · exact absurd ⟨hMissing.resolve_left hNever, hCreated⟩ hNot
    · refine absurd ?_ hCreated
      change (startPipeline obs s).streamingOutput = none
      rw [hStart, keepPipeline_streamingOutput]
      exact hMissing.resolve_left hNever

end Start

theorem activates_iff {s : State} (hReachable : Reachable step anyStep Initial s) (obs : Obs) :
    Activates obs s ↔ ¬ CreatesLate obs s := by
  have hInv := inv_of_reachable hReachable
  have hProvided := provided_of_reachable hReachable
  by_cases hEnabled : Enabled s
  · cases hRebuilds : rebuilds obs s with
    | true =>
      have hNot : ¬ CreatesLate obs s := fun h => absurd (hRebuilds.symm.trans h.kept) (by decide)
      exact iff_of_true (activates_of_rebuilt hEnabled hRebuilds) hNot
    | false =>
      -- only here do the guards of creation and activation part
      rw [createsLate_iff_of_kept hInv hProvided hEnabled hRebuilds]
      exact activates_iff_of_kept hInv hProvided hEnabled hRebuilds
  · have hNot : ¬ CreatesLate obs s := fun h => hEnabled h.enabled
    exact iff_of_true (activates_of_disabled hEnabled) hNot

/-- The first start cannot create the recording output. -/
def withoutRecordingOutput : State :=
  start { unlinkedObs 10000 with recordingOutputCreated := false } recordedOutput

theorem reachable_withoutRecordingOutput :
    Reachable step anyStep Initial withoutRecordingOutput :=
  reachable_foldl initial_recordedOutput
    [.start { unlinkedObs 10000 with recordingOutputCreated := false }]

theorem activates_iff_recordedOutput :
    (start (unlinkedObs 10000) recordedOutput).recordingOutput ≠ none ∧
      Activates (unlinkedObs 10000) recordedOutput :=
  ⟨by decide +kernel, (activates_iff (.start initial_recordedOutput) _).mpr
    fun hLate => absurd hLate.kept (by decide +kernel)⟩

/-- The next start creates it and leaves the recording in its error status. -/
theorem lateRecording_not_activated :
    ¬ ∀ s obs, Reachable step anyStep Initial s → Activates obs s := by
  intro hAll
  have hActivates := hAll _ (unlinkedObs 14000) reachable_withoutRecordingOutput
  exact absurd (hActivates.recording (.inr (by decide +kernel)) (by decide +kernel))
    (by decide +kernel)

end SrcLink.EgressLinkOutput
