import SrcLink.Outputs.ShowingBalance
import SrcLink.Outputs.StartOutcome

/-! # The stand-by status

An output in stand-by is started again at every tick, to see whether a connection has
come. Such a start keeps the pipeline as long as the settings stay the same.
-/

namespace SrcLink.EgressLinkOutput

open Json Schema EarlyExit StepSystem

set_option autoImplicit false

def restingStatuses : List EgressLinkOutputStatus := [.standBy, .inactive, .disabled]

structure Provided (s : State) : Prop where
  revision : s.activeSettingsRev ≤ s.storedSettingsRev
  encoders : s.status = .standBy → s.activeSettingsRev = s.storedSettingsRev →
    s.getRecording = true → Encoded s
  idle : s.status ∈ [.inactive, .disabled] → s.streamingOutput = none ∧ s.recordingOutput = none

theorem provided_initial {s : State} (h : Initial s) : Provided s where
  revision := by
    rw [h.activeSettingsRev]
    rcases h.storedSettingsRev with hStored | hStored <;> simp [hStored]
  encoders hStatus := by simp [h.status] at hStatus
  idle _ := ⟨h.handles.2.1, h.handles.2.2.1⟩

structure SameParts (s t : State) : Prop where
  settings : t.settings = s.settings
  active : t.activeSettingsRev = s.activeSettingsRev
  stored : t.storedSettingsRev = s.storedSettingsRev
  encoders : t.videoEncoder = s.videoEncoder ∧ t.audioEncoder = s.audioEncoder
  outputs : t.streamingOutput = s.streamingOutput ∧ t.recordingOutput = s.recordingOutput

namespace Provided

variable {s t : State}

theorem congr (h : Provided s) (hParts : SameParts s t)
    (hStatus : t.status ∈ restingStatuses → t.status = s.status) : Provided t where
  revision := by
    rw [hParts.active, hParts.stored]
    exact h.revision
  encoders hStandBy hCurrent hRecording := by
    rw [hParts.active, hParts.stored] at hCurrent
    rw [State.getRecording, hParts.settings] at hRecording
    have hBefore := (hStatus (by simp [hStandBy, restingStatuses])).symm.trans hStandBy
    have hEncoded := h.encoders hBefore hCurrent hRecording
    exact ⟨hParts.encoders.1 ▸ hEncoded.1, hParts.encoders.2 ▸ hEncoded.2⟩
  idle hIdle := by
    rw [hStatus (List.mem_cons_of_mem _ hIdle)] at hIdle
    rw [hParts.outputs.1, hParts.outputs.2]
    exact h.idle hIdle

theorem congr_of_status (h : Provided s) (hParts : SameParts s t) (hStatus : t.status = s.status) :
    Provided t :=
  h.congr hParts fun _ => hStatus

theorem call (h : Provided s) (c : Call) : Provided (s.call c) :=
  h.congr_of_status ⟨rfl, rfl, rfl, ⟨rfl, rfl⟩, ⟨rfl, rfl⟩⟩ rfl

theorem setStatus (h : Provided s) {value : EgressLinkOutputStatus}
    (hValue : value ∉ restingStatuses) : Provided (setStatus value s) := by
  rw [setStatus_eq]
  exact h.congr ⟨rfl, rfl, rfl, ⟨rfl, rfl⟩, ⟨rfl, rfl⟩⟩ fun hResting => absurd hResting hValue

theorem destroyPipeline (h : Provided s) {nextStatus : EgressLinkOutputStatus}
    (hNext : nextStatus ≠ .standBy) (nextRecordingStatus : RecordingOutputStatus) :
    Provided (destroyPipeline nextStatus nextRecordingStatus s) := by
  rw [destroyPipeline_eq]
  exact ⟨h.revision, fun hStandBy => absurd hStandBy hNext, fun _ => ⟨rfl, rfl⟩⟩

theorem stop (h : Provided s) : Provided (stop s) :=
  (h.destroyPipeline (by decide) _).call _

/-- A recording output that appears or not does not disturb an established stream. -/
theorem keepPipeline (h : Provided s) (hEstablished : s.status ∉ [.inactive, .disabled])
    (obs : Obs) (streaming recording : Bool) :
    Provided (keepPipeline obs streaming recording s) := by
  have hOutput : ∀ recordingOutput recordingStatus nextHandle,
      Provided { s with recordingOutput, recordingStatus, nextHandle } :=
    fun _ _ _ => ⟨h.revision, h.encoders, fun hIdle => absurd hIdle hEstablished⟩
  unfold EgressLinkOutput.keepPipeline
  split
  · split
    · split
      · rw [ensureRecordingOutput_body]
        split
        · split
          · exact hOutput _ _ _
          · exact hOutput _ _ _
        · exact h
      · exact h.setStatus (by decide)
    · exact h.setStatus (by decide)
  · exact h

end Provided

section Kept

variable {obs : Obs} {s : State}

structure Kept (obs : Obs) (s : State) : Prop where
  source : s.getSourceUuid = s.activeSourceUuid
  revision : s.activeSettingsRev = s.storedSettingsRev
  streaming : streams obs s = true → s.status = .active
  standBy : streams obs s = false → s.status = .standBy

theorem rebuilds_eq_false_iff : rebuilds obs s = false ↔ Kept obs s := by
  unfold rebuilds demandsReconstruction
  have hStreams : streams obs s = !(retrieveConnection obs s).connection.isEmpty := rfl
  constructor
  · intro hKept
    simp only [Bool.or_eq_false_iff, decide_eq_false_iff_not, not_not] at hKept
    obtain ⟨⟨⟨hSource, hStandBy⟩, hActive⟩, hRevision⟩ := hKept
    refine ⟨hSource, hRevision, fun hYes => ?_, fun hNo => ?_⟩
    · rw [hStreams] at hYes
      rw [hYes] at hActive
      exact not_not.mp (of_decide_eq_false hActive)
    · rw [hStreams, Bool.not_eq_false'] at hNo
      rw [hNo] at hStandBy
      exact not_not.mp (of_decide_eq_false hStandBy)
  · rintro ⟨hSource, hRevision, hActive, hStandBy⟩
    rw [hStreams] at hActive hStandBy
    cases hConnection : (retrieveConnection obs s).connection.isEmpty with
    | true =>
      have hStatus := hStandBy (by simp [hConnection])
      simp [retrieveConnection, hSource, hRevision, hStatus]
    | false =>
      have hStatus := hActive (by simp [hConnection])
      simp [retrieveConnection, hSource, hRevision, hStatus]

theorem Kept.held (h : Kept obs s) (hInv : Inv s) (hStreams : streams obs s = true) :
    s.streamingOutput ≠ none :=
  hInv.streaming (by simp [h.streaming hStreams])

theorem Kept.encoded (h : Kept obs s) (hInv : Inv s) (hProvided : Provided s)
    (hNeeded : (streams obs s || s.getRecording) = true) : Encoded s := by
  cases hStreams : streams obs s with
  | true => exact (hInv.streamingParts (h.held hInv hStreams)).2
  | false =>
    rw [hStreams, Bool.false_or] at hNeeded
    exact hProvided.encoders (h.standBy hStreams) h.revision hNeeded

theorem startPipeline_of_kept (h : Kept obs s) (hInv : Inv s) (hProvided : Provided s)
    (hEnabled : Enabled s) :
    startPipeline obs s =
      keepPipeline obs (streams obs s) s.getRecording (retrieveConnection obs s) :=
  startPipeline_kept hEnabled (rebuilds_eq_false_iff.mpr h) (h.encoded hInv hProvided)
    (h.held hInv)

end Kept

theorem provided_of_rebuilt {obs : Obs} {uuid : String} {streaming : Bool} {s t : State}
    (h : Provided s) (hView : Rebuilt obs uuid s.view streaming s.getRecording t) : Provided t := by
  -- the error status asks for nothing but the revision
  have hFailed : ∀ v : PipelineView, t.view = v.failed →
      v.activeSettingsRev ≤ v.storedSettingsRev → Provided t := by
    intro v hView hRevision
    have hStatus : t.status = .error := congrArg PipelineView.status hView
    have hActive : t.activeSettingsRev = _ := congrArg PipelineView.activeSettingsRev hView
    have hStored : t.storedSettingsRev = _ := congrArg PipelineView.storedSettingsRev hView
    refine ⟨?_, fun hStandBy => by simp [hStatus] at hStandBy,
      fun hIdle => by simp [hStatus] at hIdle⟩
    rw [hActive, hStored]
    exact hRevision
  cases hView with
  | failed _ hView =>
    rcases hView with hView | hView
    · exact hFailed _ hView h.revision
    · exact hFailed _ hView le_rfl
  | built hEncoded hView =>
    have hActive : t.activeSettingsRev = _ := congrArg PipelineView.activeSettingsRev hView
    have hStored : t.storedSettingsRev = _ := congrArg PipelineView.storedSettingsRev hView
    have hSettings : t.settings = s.settings := congrArg PipelineView.settings hView
    have hStatus : t.status = _ := congrArg PipelineView.status hView
    refine ⟨?_, fun _ _ hRecording => hEncoded ?_, fun hIdle => ?_⟩
    · rw [hActive, hStored]
      exact le_rfl
    · rw [State.getRecording, hSettings] at hRecording
      rw [State.getRecording, hRecording, Bool.or_true]
    · rw [hStatus] at hIdle
      revert hIdle
      cases streaming <;> cases streamingCreated obs <;> simp [PipelineView.rebuilt]

theorem Kept.established {obs : Obs} {s : State} (h : Kept obs s) :
    s.status ∉ [.inactive, .disabled] := by
  cases hStreams : streams obs s with
  | true => simp [h.streaming hStreams]
  | false => simp [h.standBy hStreams]

namespace Provided

variable {s : State}

theorem start (h : Provided s) (hInv : Inv s) (obs : Obs) : Provided (start obs s) := by
  apply call
  by_cases hEnabled : Enabled s
  · have hRetrieved : Provided (retrieveConnection obs s) :=
      h.congr_of_status ⟨rfl, rfl, rfl, ⟨rfl, rfl⟩, ⟨rfl, rfl⟩⟩ rfl
    cases hRebuilds : rebuilds obs s with
    | true =>
      exact provided_of_rebuilt hRetrieved (startPipeline_rebuilt hEnabled hRebuilds)
    | false =>
      have hKept := rebuilds_eq_false_iff.mp hRebuilds
      rw [startPipeline_of_kept hKept hInv h hEnabled]
      exact hRetrieved.keepPipeline hKept.established ..
  · rw [startPipeline_of_disabled hEnabled]
    exact h.destroyPipeline (by decide) _

theorem saveTimestamp (h : Provided s) (obs : Obs) : Provided (saveTimestamp obs s) :=
  h.congr_of_status ⟨rfl, rfl, rfl, ⟨rfl, rfl⟩, ⟨rfl, rfl⟩⟩ rfl

theorem incShowing (h : Provided s) : Provided (incShowing s) := by
  rw [incShowing_eq]
  exact h.congr_of_status ⟨rfl, rfl, rfl, ⟨rfl, rfl⟩, ⟨rfl, rfl⟩⟩ rfl

theorem setRecordingStatus (h : Provided s) (value : RecordingOutputStatus) :
    Provided (setRecordingStatus value s) :=
  h.congr_of_status ⟨rfl, rfl, rfl, ⟨rfl, rfl⟩, ⟨rfl, rfl⟩⟩ rfl

theorem startStreaming (h : Provided s) (obs : Obs) : Provided (startStreaming obs s) := by
  apply call
  split
  · have hStarted := (h.saveTimestamp obs).call
      (.outputStart s.streamingOutput obs.streamingStarted)
    simp only
    split
    · exact hStarted.incShowing.setStatus (by decide)
    · exact hStarted.setStatus (by decide)
  · exact h

theorem startRecording (h : Provided s) (obs : Obs) : Provided (startRecording obs s) := by
  unfold EgressLinkOutput.startRecording
  split
  · have hStarted := h.call (.outputStart s.recordingOutput obs.recordingStarted)
    simp only
    split
    · exact hStarted.incShowing.setRecordingStatus _
    · exact hStarted.setRecordingStatus _
  · exact h

theorem restartStreaming (h : Provided s) (obs : Obs) : Provided (restartStreaming obs s) := by
  have hRestarted := ((h.saveTimestamp obs).call (.outputForceStop s.streamingOutput)).call
    (.outputStart s.streamingOutput obs.streamingStarted)
  unfold EgressLinkOutput.restartStreaming
  simp only
  split
  · exact hRestarted.setStatus (by decide)
  · exact hRestarted

theorem restartRecording (h : Provided s) (obs : Obs) : Provided (restartRecording obs s) :=
  (h.call _).call _

end Provided

theorem triple_monitorOutput_provided (obs : Obs) (alive : Bool) :
    Triple (fun s => Inv s ∧ Provided s) (monitorOutput obs alive) Provided Provided := by
  apply Triple.andThen (Triple.require (fun _ h _ => h) fun _ h _ => h.2.stop)
  apply Triple.andThen (Q := Provided)
    (Triple.require (fun _ h _ => h.2) fun _ h _ => h.2.start h.1 obs)
  apply Triple.andThen (Q := Provided)
  · intro s h
    unfold changeSettings
    split
    · simp only
      split
      · exact h.call _
      · exact (h.call _).setStatus (by decide)
    · exact h
  apply Triple.andThen (Keeps.whenever (Triple.step fun _ h => h.restartRecording obs))
  apply Triple.andThen (Keeps.require fun _ h => h.restartStreaming obs)
  apply Triple.andThen (Keeps.whenever (Triple.step fun _ h => h.setStatus (by decide)))
  exact Keeps.require fun _ h => h.stop

namespace Provided

variable {s : State}

theorem onMonitoringTimerTimeout (h : Provided s) (hInv : Inv s) (obs : Obs) :
    Provided (onMonitoringTimerTimeout obs s) := by
  apply onMonitoringTimerTimeout_keeps h (h.start hInv obs) (h.startStreaming obs)
  · exact fun _ hStarted => hStarted.startRecording obs
  · exact fun _ => (triple_monitorOutput_provided obs _).body (fun _ => id) s ⟨hInv, h⟩

theorem outdated (h : Provided s) {t : State}
    (hActive : t.activeSettingsRev = s.activeSettingsRev)
    (hStored : t.storedSettingsRev = s.storedSettingsRev + 1) (hStatus : t.status = s.status)
    (hStreaming : t.streamingOutput = s.streamingOutput)
    (hRecording : t.recordingOutput = s.recordingOutput) : Provided t where
  revision := by
    rw [hActive, hStored]
    exact h.revision.trans (Int.le_add_one le_rfl)
  encoders _ hCurrent := by
    have hRevision := h.revision
    omega
  idle hIdle := by
    rw [hStreaming, hRecording]
    exact h.idle (hStatus ▸ hIdle)

theorem apply (h : Provided s) (hInv : Inv s) (e : Event) : Provided (apply s e) :=
  apply_keeps h (h.onMonitoringTimerTimeout hInv) (h.start hInv) h.stop h.startStreaming
    h.startRecording (fun _ _ => h.outdated rfl rfl rfl rfl rfl) e

end Provided

theorem provided_of_reachable {s : State} (h : Reachable step anyStep Initial s) : Provided s := by
  have hBoth : Inv s ∧ Provided s := by
    apply h.invariant (fun s hInitial => ⟨inv_initial hInitial, provided_initial hInitial⟩)
    rintro s e s' ⟨hInv, hProvided⟩ - hStep
    obtain rfl : EgressLinkOutput.apply s e = s' := Option.some.inj hStep
    exact ⟨hInv.apply e, hProvided.apply hInv e⟩
  exact hBoth.2

/-- The first uplink connection for the output. -/
def uplinkConnection (obs : Obs) (s : State) : Option QJsonObject :=
  (TypedJsonArray.values (UplinkInfo.getConnections obs.uplink)).find?
    fun c => StageConnection.getSourceName c = s.name

theorem retrieveConnection_connection (obs : Obs) (s : State) :
    (retrieveConnection obs s).connection = (uplinkConnection obs s).getD [] :=
  TypedJsonArray.find_eq ..

/-- A check in stand-by, with no connection to be seen. -/
structure StandByCheck (obs : Obs) (s : State) : Prop where
  status : s.status = .standBy
  enabled : Enabled s
  source : s.getSourceUuid = s.activeSourceUuid
  revision : s.activeSettingsRev = s.storedSettingsRev
  unconnected : uplinkConnection obs s = none
  videoInfo : obs.videoInfo.isSome = true
  recording : s.getRecording = true → s.recordingOutput ≠ none ∧ Encoded s

structure SamePipeline (s t : State) : Prop where
  status : t.status = s.status ∧ t.recordingStatus = s.recordingStatus
  outputs : t.service = s.service ∧ t.streamingOutput = s.streamingOutput ∧
    t.recordingOutput = s.recordingOutput
  encoders : t.videoEncoder = s.videoEncoder ∧ t.audioEncoder = s.audioEncoder
  source : t.source = s.source ∧ t.sourceView = s.sourceView ∧ t.audioSource = s.audioSource ∧
    t.audioSilence = s.audioSilence ∧ t.activeSourceUuid = s.activeSourceUuid
  revisions : t.activeSettingsRev = s.activeSettingsRev ∧
    t.storedSettingsRev = s.storedSettingsRev
  showing : ∀ source, showing source t.calls = showing source s.calls

theorem keepPipeline_of_held {obs : Obs} {recording : Bool} {s : State}
    (hVideo : obs.videoInfo.isSome = true)
    (hHeld : recording = true → s.recordingOutput ≠ none) :
    keepPipeline obs false recording s = s := by
  have hBody : (ensureRecordingOutput obs recording).body s = s := by
    rw [ensureRecordingOutput_body]
    apply if_neg
    intro hMissing
    obtain ⟨hNone, hRecording⟩ := Bool.and_eq_true_iff.mp hMissing
    exact hHeld hRecording (Option.isNone_iff_eq_none.mp hNone)
  simp only [keepPipeline, hBody, hVideo, if_true, Bool.not_false, Bool.true_or, ite_self]

theorem StandByCheck.start {obs : Obs} {s : State} (h : StandByCheck obs s) :
    start obs s = { s with connection := [], calls := .syncUplinkStatus :: s.calls } := by
  have hConnection : (retrieveConnection obs s).connection = [] := by
    rw [retrieveConnection_connection, h.unconnected]
    rfl
  have hStreams : streams obs s = false := by
    change (!(retrieveConnection obs s).connection.isEmpty) = false
    rw [hConnection]
    rfl
  have hKept : Kept obs s :=
    ⟨h.source, h.revision, fun hYes => by simp [hStreams] at hYes, fun _ => h.status⟩
  have hPipeline : startPipeline obs s = retrieveConnection obs s := by
    rw [startPipeline_kept h.enabled (rebuilds_eq_false_iff.mpr hKept), hStreams]
    · exact keepPipeline_of_held h.videoInfo fun hRecording => (h.recording hRecording).1
    · intro hNeeded
      rw [hStreams, Bool.false_or] at hNeeded
      exact (h.recording hNeeded).2
    · exact fun hYes => by simp [hStreams] at hYes
  rw [EgressLinkOutput.start, hPipeline, ← hConnection]
  rfl

theorem StandByCheck.again {obs obs' : Obs} {s : State} (h : StandByCheck obs s)
    (h' : StandByCheck obs' s) : StandByCheck obs' (EgressLinkOutput.start obs s) := by
  rw [h.start]
  exact { h' with enabled := ⟨h'.enabled.source, h'.enabled.visible⟩ }

theorem standByChecks_keep (checks : List Obs) {s : State}
    (hChecks : ∀ obs ∈ checks, StandByCheck obs s) :
    SamePipeline s (checks.foldl (fun t obs => start obs t) s) := by
  induction checks generalizing s with
  | nil => exact ⟨⟨rfl, rfl⟩, ⟨rfl, rfl, rfl⟩, ⟨rfl, rfl⟩, ⟨rfl, rfl, rfl, rfl, rfl⟩, ⟨rfl, rfl⟩,
      fun _ => rfl⟩
  | cons obs checks ih =>
    obtain ⟨hFirst, hRest⟩ := List.forall_mem_cons.mp hChecks
    have hAgain := ih (s := start obs s) fun obs' hObs' => hFirst.again (hRest obs' hObs')
    rw [List.foldl_cons]
    -- a check gives the state back, with a call that shows no source
    rw [hFirst.start] at hAgain ⊢
    refine { hAgain with showing := fun source => (hAgain.showing source).trans ?_ }
    rw [showing_cons, showing_idle source (by simp [Call.idle]), zero_add]

/-- The recording runs while no connection is there. -/
def recordingInStandBy : State :=
  [.monitoringTimerTimeout (unlinkedObs 10000), .monitoringTimerTimeout (unlinkedObs 12000)].foldl
    apply recordedOutput

theorem standByCheck_recordingInStandBy (now : UInt64) :
    StandByCheck (unlinkedObs now) recordingInStandBy where
  status := by decide +kernel
  enabled := ⟨by decide +kernel, by decide +kernel⟩
  source := by decide +kernel
  revision := by decide +kernel
  unconnected := rfl
  videoInfo := rfl
  recording _ := ⟨by decide +kernel, by decide +kernel, by decide +kernel⟩

theorem standByChecks_keep_recording :
    Reachable step anyStep Initial recordingInStandBy ∧
      recordingInStandBy.recordingStatus = .active ∧
      SamePipeline recordingInStandBy ([unlinkedObs 13000, unlinkedObs 14000].foldl
        (fun t obs => start obs t) recordingInStandBy) := by
  refine ⟨reachable_foldl initial_recordedOutput _, by decide +kernel,
    standByChecks_keep _ fun obs hObs => ?_⟩
  obtain rfl | rfl : obs = unlinkedObs 13000 ∨ obs = unlinkedObs 14000 := by simpa using hObs
  · exact standByCheck_recordingInStandBy _
  · exact standByCheck_recordingInStandBy _

end SrcLink.EgressLinkOutput
