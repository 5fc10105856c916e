import SrcLink.Outputs.StandBy

/-! # A tick while the interlock condition is false

The monitoring tick picks its branch from the streaming status alone, and only the
branch for an active, reconnecting or stand-by stream stops the pipeline.
-/

namespace SrcLink.EgressLinkOutput

open EarlyExit StepSystem

set_option autoImplicit false

structure EverythingOff (s : State) : Prop where
  streamingOutput : s.streamingOutput = none
  recordingOutput : s.recordingOutput = none
  status : s.status ∉ [.active, .reconnecting, .standBy]
  recordingStatus : s.recordingStatus ≠ .active

/-- A tick at which the configured interlock should have stopped the output. -/
structure InterlockOff (obs : Obs) (s : State) : Prop where
  configured : obs.interlockType ∈ ["streaming", "recording", "streaming_recording", "virtual_cam"]
  condition : interlockStarts obs = false
  status : s.status ≠ .activating ∧ s.status ≠ .changing
  recordingStatus : s.recordingStatus ≠ .activating
  elapsed : sinceAttempt obs s > outputRetryTimeoutMsecs

theorem everythingOff_stop (s : State) : EverythingOff (stop s) := by
  constructor <;> simp [stop, destroyPipeline_eq, State.call]

/-- For the four kinds of interlock the start test and the stop test are opposites. -/
theorem interlockStops_eq_not {obs : Obs}
    (hConfigured : obs.interlockType ∈
      ["streaming", "recording", "streaming_recording", "virtual_cam"]) :
    interlockStops obs = !interlockStarts obs := by
  simp only [List.mem_cons, List.not_mem_nil, or_false] at hConfigured
  rcases hConfigured with hType | hType | hType | hType <;>
    simp [interlockStops, interlockStarts, hType]

section Tick

variable {obs : Obs} {s : State}

theorem InterlockOff.tick_of_established (h : InterlockOff obs s)
    (hEstablished : streamingInactiveStatus s = false) :
    onMonitoringTimerTimeout obs s = stop s := by
  have hStops : interlockStops obs = true := by
    rw [interlockStops_eq_not h.configured, h.condition]
    rfl
  have hActivating : ¬ (s.status = .activating ∨ s.recordingStatus = .activating) :=
    not_or.mpr ⟨h.status.1, h.recordingStatus⟩
  unfold onMonitoringTimerTimeout
  simp only
  rw [if_neg h.status.2, if_neg hActivating, if_neg (by simp [hEstablished]), if_pos h.elapsed]
  simp [Block.body, monitorOutput, Block.andThen, checkInterlock, Block.require, hStops]

theorem InterlockOff.tick_of_inactive (h : InterlockOff obs s)
    (hInactive : streamingInactiveStatus s = true) : onMonitoringTimerTimeout obs s = s := by
  have hActivating : ¬ (s.status = .activating ∨ s.recordingStatus = .activating) :=
    not_or.mpr ⟨h.status.1, h.recordingStatus⟩
  unfold onMonitoringTimerTimeout
  simp only
  rw [if_neg h.status.2, if_neg hActivating, if_pos hInactive, if_neg (by simp [h.condition])]

/-- A state that the tick leaves alone is off if it holds no output. -/
theorem everythingOff_iff_of_inactive (hInv : Inv s)
    (hInactive : streamingInactiveStatus s = true) :
    EverythingOff s ↔ s.streamingOutput = none ∧ s.recordingOutput = none := by
  constructor
  · exact fun hOff => ⟨hOff.streamingOutput, hOff.recordingOutput⟩
  · rintro ⟨hStreaming, hRecording⟩
    refine ⟨hStreaming, hRecording, ?_, ?_⟩
    · cases hStatus : s.status <;> simp_all [streamingInactiveStatus]
    · intro hActive
      exact hInv.recording (by simp [hActive]) hRecording

/-- The error status is the only one that a tick leaves alone with outputs behind it. -/
theorem InterlockOff.error_or_none (h : InterlockOff obs s) (hProvided : Provided s)
    (hInactive : streamingInactiveStatus s = true) :
    s.status = .error ∨ s.streamingOutput = none ∧ s.recordingOutput = none := by
  obtain ⟨hNotActivating, hNotChanging⟩ := h.status
  cases hStatus : s.status with
  | error => exact .inl rfl
  | inactive => exact .inr (hProvided.idle (by simp [hStatus]))
  | disabled => exact .inr (hProvided.idle (by simp [hStatus]))
  | activating => exact absurd hStatus hNotActivating
  | changing => exact absurd hStatus hNotChanging
  | _ => simp [streamingInactiveStatus, hStatus] at hInactive

end Tick

/-- The tick turns everything off unless an output is held in the error status. -/
theorem everythingOff_tick_iff {s : State} (hReachable : Reachable step anyStep Initial s)
    {obs : Obs} (h : InterlockOff obs s) :
    EverythingOff (onMonitoringTimerTimeout obs s) ↔
      (s.status = .error → s.streamingOutput = none ∧ s.recordingOutput = none) := by
  cases hInactive : streamingInactiveStatus s with
  | true =>
    -- here the tick only asks whether to start
    rw [h.tick_of_inactive hInactive,
      everythingOff_iff_of_inactive (inv_of_reachable hReachable) hInactive]
    refine ⟨fun hOff _ => hOff, fun hError => ?_⟩
    exact (h.error_or_none (provided_of_reachable hReachable) hInactive).elim hError id
  | false =>
    rw [h.tick_of_established hInactive]
    refine iff_of_true (everythingOff_stop s) fun hError => ?_
    simp [streamingInactiveStatus, hError] at hInactive

/-- The interlock is on the streaming of the frontend. -/
def frontendObs (now : UInt64) (streaming : Bool) : Obs :=
  { healthyObs now with interlockType := "streaming", frontendStreamingActive := streaming }

/-- A start and the delayed start of both outputs. -/
def startedOutput (streamingStarted : Bool) : State :=
  [.monitoringTimerTimeout (frontendObs 10000 true),
    .monitoringTimerTimeout { frontendObs 12000 true with streamingStarted }].foldl apply
    recordedOutput

theorem interlockOff_startedOutput (streamingStarted : Bool) :
    InterlockOff (frontendObs 20000 false) (startedOutput streamingStarted) := by
  constructor <;> cases streamingStarted <;> decide +kernel

theorem everythingOff_tick_iff_streaming :
    (startedOutput true).status = .active ∧
      EverythingOff (onMonitoringTimerTimeout (frontendObs 20000 false) (startedOutput true)) :=
  ⟨by decide +kernel,
    (everythingOff_tick_iff (reachable_foldl initial_recordedOutput _)
      (interlockOff_startedOutput true)).mpr fun hError => absurd hError (by decide +kernel)⟩

/-- The stream has failed to start and the recording runs: it goes on when the frontend
stops streaming. -/
theorem failedStream_keeps_recording :
    ¬ ∀ s obs, Reachable step anyStep Initial s → InterlockOff obs s →
      EverythingOff (onMonitoringTimerTimeout obs s) := by
  intro hAll
  have hOff := hAll (startedOutput false) _ (reachable_foldl initial_recordedOutput _)
    (interlockOff_startedOutput false)
  exact absurd hOff.recordingStatus (by decide +kernel)

end SrcLink.EgressLinkOutput
