import SrcLink.Outputs.StandBy

/-! # The result of a successful start

What `start` leaves behind when every OBS call succeeds, for each status from which
the monitor calls it.
-/

namespace SrcLink.EgressLinkOutput

open Json Schema StepSystem

set_option autoImplicit false

structure Released (t : State) : Prop where
  status : t.status = .disabled
  outputs : t.service = none ∧ t.streamingOutput = none ∧ t.recordingOutput = none
  encoders : t.videoEncoder = none ∧ t.audioEncoder = none
  source : t.source = none ∧ t.sourceView = none ∧ t.audioSource = none ∧ t.audioSilence = none

structure Started (obs : Obs) (s t : State) : Prop where
  revision : t.activeSettingsRev = t.storedSettingsRev
  source : t.activeSourceUuid = s.getSourceUuid
  connected : uplinkConnection obs s ≠ none → t.status = .activating ∧ t.streamingOutput ≠ none
  unconnected : uplinkConnection obs s = none → t.status = .standBy ∧ t.streamingOutput = none
  recording : rebuilds obs s = true → s.getRecording = true →
    t.recordingOutput ≠ none ∧ t.recordingStatus = .activating

structure StartPostcondition (obs : Obs) (s t : State) : Prop where
  disabled : ¬ Enabled s → Released t
  enabled : Enabled s → Started obs s t

theorem createEgressSettings_isSome {settings connection : QJsonObject}
    (hProtocol : StageConnection.getProtocol connection = "srt" ∨
      StageConnection.getProtocol connection = "rtmp") :
    (createEgressSettings settings connection).isSome = true := by
  unfold createEgressSettings
  rw [if_pos hProtocol]
  simp only
  split
  · rfl
  · split <;> rfl

theorem released_destroyPipeline (s : State) :
    Released (destroyPipeline .disabled .inactive s) := by
  rw [destroyPipeline_eq]
  exact ⟨rfl, ⟨rfl, rfl, rfl⟩, ⟨rfl, rfl⟩, ⟨rfl, rfl, rfl, rfl⟩⟩

section Start

variable {obs : Obs} {s : State}

/-- The protocols that an output can be started with. -/
def KnownProtocol (obs : Obs) (s : State) : Prop :=
  ∀ c, uplinkConnection obs s = some c →
    StageConnection.getProtocol c = "srt" ∨ StageConnection.getProtocol c = "rtmp"

theorem KnownProtocol.streams_eq (h : KnownProtocol obs s) :
    streams obs s = (uplinkConnection obs s).isSome := by
  change (!(retrieveConnection obs s).connection.isEmpty) = _
  rw [retrieveConnection_connection]
  cases hConnection : uplinkConnection obs s with
  | none => rfl
  | some c =>
    have hNonempty : c ≠ [] := by
      rintro rfl
      rcases h _ hConnection with hProtocol | hProtocol
      · exact absurd hProtocol (by decide)
      · exact absurd hProtocol (by decide)
    simp [hNonempty]

theorem startable_of_callsSucceed (hCalls : CallsSucceed obs s.getSourceUuid)
    (hProtocol : KnownProtocol obs s) :
    Startable obs s.getSourceUuid (retrieveConnection obs s).view where
  toCallsSucceed := hCalls
  protocol hConnected := by
    apply createEgressSettings_isSome
    change (retrieveConnection obs s).connection.isEmpty = false at hConnected
    change StageConnection.getProtocol (retrieveConnection obs s).connection = _ ∨
      StageConnection.getProtocol (retrieveConnection obs s).connection = _
    rw [retrieveConnection_connection] at hConnected ⊢
    cases hConnection : uplinkConnection obs s with
    | none => simp [hConnection] at hConnected
    | some c => exact hProtocol c hConnection

theorem started_of_rebuilt {t : State} (hCalls : CallsSucceed obs s.getSourceUuid)
    (hProtocol : KnownProtocol obs s)
    (h : Rebuilt obs s.getSourceUuid (retrieveConnection obs s).view (streams obs s) s.getRecording
      t) : Started obs s t := by
  cases h with
  | failed hStart _ => exact absurd (startable_of_callsSucceed hCalls hProtocol) hStart
  | built _ hView =>
    rw [hCalls.outputs.1, hCalls.outputs.2, hProtocol.streams_eq] at hView
    have hActive : t.activeSettingsRev = s.storedSettingsRev :=
      congrArg PipelineView.activeSettingsRev hView
    have hStored : t.storedSettingsRev = s.storedSettingsRev :=
      congrArg PipelineView.storedSettingsRev hView
    have hStatus : t.status = _ := congrArg PipelineView.status hView
    have hStreaming : t.streamingOutput.isSome = _ := congrArg PipelineView.streamingOutput hView
    have hRecordingStatus : t.recordingStatus = _ := congrArg PipelineView.recordingStatus hView
    have hRecording : t.recordingOutput.isSome = _ := congrArg PipelineView.recordingOutput hView
    simp only [PipelineView.rebuilt, Bool.and_true, if_true] at hStatus hStreaming
    simp only [PipelineView.rebuilt, Bool.and_true, if_true] at hRecordingStatus hRecording
    refine ⟨hActive.trans hStored.symm, congrArg PipelineView.activeSourceUuid hView, ?_, ?_, ?_⟩
    · intro hConnected
      rw [Option.isSome_iff_ne_none.mpr hConnected] at hStatus hStreaming
      exact ⟨hStatus, Option.isSome_iff_ne_none.mp hStreaming⟩
    · intro hUnconnected
      rw [hUnconnected] at hStatus hStreaming
      exact ⟨hStatus, Option.not_isSome_iff_eq_none.mp (by simp [hStreaming])⟩
    · intro _ hEnabled
      rw [hEnabled] at hRecordingStatus hRecording
      exact ⟨Option.isSome_iff_ne_none.mp hRecording, hRecordingStatus⟩

/-- A missing recording output does not disturb the rest. -/
theorem started_of_kept (hInv : Inv s) (hCalls : CallsSucceed obs s.getSourceUuid)
    (hProtocol : KnownProtocol obs s) (hKept : Kept obs s) (hStatus : s.status ≠ .active) :
    Started obs s (keepPipeline obs (streams obs s) s.getRecording (retrieveConnection obs s)) := by
  have hStreams : streams obs s = false := by
    cases hCase : streams obs s with
    | false => rfl
    | true => exact absurd (hKept.streaming hCase) hStatus
  have hNone : uplinkConnection obs s = none := by
    rw [hProtocol.streams_eq] at hStreams
    simpa using hStreams
  have hStandBy := hKept.standBy hStreams
  -- only the recording output may be new, and nothing is said of it
  have hUnchanged : ∀ recordingOutput nextHandle, Started obs s
      { retrieveConnection obs s with recordingOutput, nextHandle } := fun _ _ =>
    { revision := hKept.revision
      source := hKept.source.symm
      connected := fun hConnected => absurd hNone hConnected
      unconnected := fun _ => ⟨hStandBy, hInv.standBy hStandBy⟩
      recording := fun hRebuilds => by
        rw [rebuilds_eq_false_iff.mpr hKept] at hRebuilds
        cases hRebuilds }
  unfold keepPipeline
  simp only [hStreams, hCalls.videoInfo, Bool.not_false, Bool.true_or, if_true,
    ensureRecordingOutput_body, hCalls.outputs.2]
  split
  · split
    · exact hUnchanged _ _
    · exact hUnchanged _ _
  · exact hUnchanged _ _

end Start

/-- The statuses from which the monitor starts an output. -/
def startStatuses : List EgressLinkOutputStatus :=
  [.inactive, .error, .disabled, .changing, .standBy]

theorem start_postcondition {s : State} (hReachable : Reachable step anyStep Initial s)
    (hStatus : s.status ∈ startStatuses) {obs : Obs}
    (hCalls : Enabled s → CallsSucceed obs s.getSourceUuid) (hProtocol : KnownProtocol obs s) :
    StartPostcondition obs s (start obs s) := by
  have hInv := inv_of_reachable hReachable
  have hProvided := provided_of_reachable hReachable
  constructor
  · intro hDisabled
    have hReleased := released_destroyPipeline s
    rw [start, startPipeline_of_disabled hDisabled]
    exact { hReleased with }
  · intro hEnabled
    have hStarted : Started obs s (startPipeline obs s) := by
      cases hRebuilds : rebuilds obs s with
      | true =>
        exact started_of_rebuilt (hCalls hEnabled) hProtocol
          (startPipeline_rebuilt hEnabled hRebuilds)
      | false =>
        have hKept := rebuilds_eq_false_iff.mp hRebuilds
        rw [startPipeline_of_kept hKept hInv hProvided hEnabled]
        -- an established stream would stay as it is, but the monitor does not start one
        apply started_of_kept hInv (hCalls hEnabled) hProtocol hKept
        intro hActive
        simp [startStatuses, hActive] at hStatus
    exact { hStarted with }

theorem callsSucceed_healthyObs (now : UInt64) (sourceUuid : String) :
    CallsSucceed (healthyObs now) sourceUuid where
  source _ := ⟨7, rfl, rfl, rfl⟩
  videoInfo := rfl
  mainVideo := rfl
  sourceVideo := ⟨by simp [healthyObs], by simp [healthyObs], rfl⟩
  mainAudio := rfl
  sourceAudio := ⟨rfl, rfl, rfl⟩
  encoders := ⟨rfl, rfl⟩
  outputs := ⟨rfl, rfl⟩

theorem knownProtocol_recordedOutput (now : UInt64) :
    KnownProtocol (healthyObs now) recordedOutput := by
  intro c hConnection
  obtain rfl := Option.some.inj (hConnection.symm.trans rfl)
  exact .inl (by decide)

theorem start_postcondition_recordedOutput :
    Enabled recordedOutput ∧ uplinkConnection (healthyObs 10000) recordedOutput ≠ none ∧
      StartPostcondition (healthyObs 10000) recordedOutput
        (start (healthyObs 10000) recordedOutput) :=
  ⟨⟨by decide, by decide⟩, Option.some_ne_none _,
    start_postcondition (.start initial_recordedOutput) (by decide)
      (fun _ => callsSucceed_healthyObs _ _) (knownProtocol_recordedOutput _)⟩

end SrcLink.EgressLinkOutput
