import SrcLink.Outputs.StandBy

/-! # What the settings say and what the pipeline holds

A pipeline that was built from the present revision of the settings holds their source
and streams to a connection. The name, the settings and their revision are nobody's to
change but the user's and the uplink's.
-/

namespace SrcLink.EgressLinkOutput

open Json Schema EarlyExit StepSystem

set_option autoImplicit false

/-- What the pipeline is built from. -/
def State.identity (s : State) : String × QJsonObject × Int :=
  (s.name, s.settings, s.storedSettingsRev)

section Identity

variable {i : String × QJsonObject × Int}

@[simp] theorem identity_setStatus (value : EgressLinkOutputStatus) (s : State) :
    (setStatus value s).identity = s.identity := by
  rw [setStatus_eq]
  rfl

theorem identity_destroyPipeline (nextStatus : EgressLinkOutputStatus)
    (nextRecordingStatus : RecordingOutputStatus) (s : State) :
    (destroyPipeline nextStatus nextRecordingStatus s).identity = s.identity := by
  rw [destroyPipeline_eq]
  rfl

theorem keepsIdentity_setStatus (value : EgressLinkOutputStatus) :
    Keeps (fun s : State => s.identity = i) (Block.step (setStatus value)) :=
  Triple.step fun _ h => (identity_setStatus ..).trans h

theorem keepsIdentity_abort {b : Block State} (h : Keeps (fun s => s.identity = i) b) :
    Keeps (fun s => s.identity = i) (b.handle abort) :=
  h.handle (Triple.exit fun _ ht => (identity_setStatus ..).trans ht)

theorem keepsIdentity_reconstruct (obs : Obs) (uuid : String) :
    Keeps (fun s => s.identity = i) (reconstruct obs uuid) := by
  apply Triple.andThen (Q := fun s => s.identity = i)
  · exact Triple.step fun s h => (identity_destroyPipeline ..).trans h
  apply Triple.andThen (Q := fun s => s.identity = i)
  · apply Keeps.whenever (keepsIdentity_abort _)
    intro s h
    unfold createSource
    split
    · split <;> exact h
    · exact h
  · exact Triple.step fun _ h => h

theorem keepsIdentity_ensureVideoEncoder (obs : Obs) :
    Keeps (fun s => s.identity = i) (ensureVideoEncoder obs) := by
  apply Keeps.whenever (keepsIdentity_abort _)
  apply Triple.andThen (Q := fun s => s.identity = i)
  · intro s h
    unfold createVideo
    split <;> exact Ends.answer (fun _ => h) fun _ => h
  · apply Triple.choose (encoderSize obs)
    intro size s h
    unfold createVideoEncoder
    split <;> exact h

theorem keepsIdentity_ensureAudioEncoder (obs : Obs) :
    Keeps (fun s => s.identity = i) (ensureAudioEncoder obs) := by
  have hCreate (uuid : String) : Keeps (fun s => s.identity = i)
      ((createAudio obs uuid).andThen (createAudioEncoder obs)) := by
    apply Triple.andThen (Q := fun s => s.identity = i)
    · intro s h
      unfold createAudio
      split
      · exact Ends.answer (fun _ => h) fun _ => h
      · split
        · split
          · exact h
          · split <;> exact h
        · exact Ends.answer (fun _ => h) fun _ => h
    · exact fun s h => Ends.answer (fun _ => h) fun _ => h
  exact Keeps.whenever (keepsIdentity_abort (Triple.choose audioSourceUuid hCreate))

theorem keepsIdentity_ensureStreamingOutput (obs : Obs) (streaming : Bool) :
    Keeps (fun s => s.identity = i) (ensureStreamingOutput obs streaming) := by
  apply Keeps.whenever (Triple.handle (S := fun s => s.identity = i) _
    (keepsIdentity_setStatus .error))
  apply Triple.andThen (Q := fun s => s.identity = i)
  · exact fun s h => Ends.answer (fun _ => h) fun _ => h
  · exact fun s h => Ends.answer (fun _ => h) fun _ => h

theorem keepsIdentity_ensureRecordingOutput (obs : Obs) (recording : Bool) :
    Keeps (fun s => s.identity = i) (ensureRecordingOutput obs recording) := by
  apply Keeps.whenever (Triple.handle (S := fun s => s.identity = i) _ (Triple.step fun _ h => h))
  exact fun s h => Ends.answer (fun _ => h) fun _ => h

theorem keepsIdentity_buildPipeline (obs : Obs) (uuid : String)
    (reconstructPipeline streaming recording : Bool) :
    Keeps (fun s => s.identity = i)
      (buildPipeline obs uuid reconstructPipeline streaming recording) := by
  have hFailed : ∀ s : State, s.identity = i → (setStatus .error s).identity = i :=
    fun _ h => (identity_setStatus ..).trans h
  apply Triple.andThen (Keeps.whenever (keepsIdentity_reconstruct obs uuid))
  apply Triple.andThen (Keeps.whenever (keepsIdentity_setStatus .standBy))
  apply Triple.andThen (Keeps.require fun _ h => h)
  apply Triple.andThen (Keeps.require hFailed)
  apply Triple.andThen (Keeps.require hFailed)
  apply Triple.andThen (keepsIdentity_ensureVideoEncoder obs)
  apply Triple.andThen (keepsIdentity_ensureAudioEncoder obs)
  apply Triple.andThen (keepsIdentity_ensureStreamingOutput obs streaming)
  apply Triple.andThen (keepsIdentity_ensureRecordingOutput obs recording)
  apply Triple.andThen (Keeps.require fun _ h => h)
  apply Keeps.whenever (Triple.step fun s h => ?_)
  have hRecording : (activateRecording s).identity = s.identity := by
    unfold activateRecording
    split <;> rfl
  have hStreaming : ∀ t, (activateStreaming obs t).identity = t.identity := by
    intro t
    unfold activateStreaming
    split
    · exact identity_setStatus ..
    · rfl
  exact (hStreaming _).trans (hRecording.trans h)

theorem identity_stop (s : State) : (stop s).identity = s.identity :=
  identity_destroyPipeline .inactive .inactive s

theorem identity_start (obs : Obs) (s : State) : (start obs s).identity = s.identity := by
  change (startPipeline obs s).identity = s.identity
  unfold startPipeline
  split
  · exact identity_destroyPipeline ..
  · exact Keeps.body (keepsIdentity_buildPipeline obs s.getSourceUuid _ _ _) rfl

theorem identity_startStreaming (obs : Obs) (s : State) :
    (startStreaming obs s).identity = s.identity := by
  unfold startStreaming
  simp only [incShowing_eq]
  split
  · split <;> exact identity_setStatus ..
  · rfl

theorem identity_startRecording (obs : Obs) (s : State) :
    (startRecording obs s).identity = s.identity := by
  unfold startRecording
  simp only [incShowing_eq]
  split
  · split <;> rfl
  · rfl

theorem identity_restartStreaming (obs : Obs) (s : State) :
    (restartStreaming obs s).identity = s.identity := by
  unfold restartStreaming
  simp only
  split
  · exact identity_setStatus ..
  · rfl

theorem identity_restartRecording (obs : Obs) (s : State) :
    (restartRecording obs s).identity = s.identity := rfl

theorem keepsIdentity_monitorOutput (obs : Obs) (alive : Bool) :
    Keeps (fun s => s.identity = i) (monitorOutput obs alive) := by
  have hStop : ∀ s : State, s.identity = i → (stop s).identity = i :=
    fun s h => (identity_stop s).trans h
  apply Triple.andThen (Keeps.require hStop)
  apply Triple.andThen (Keeps.require fun s h => (identity_start obs s).trans h)
  apply Triple.andThen (Q := fun s => s.identity = i)
  · intro s h
    unfold changeSettings
    split
    · simp only
      split
      · exact h
      · exact (identity_setStatus ..).trans h
    · exact h
  apply Triple.andThen
    (Keeps.whenever (Triple.step fun s h => (identity_restartRecording obs s).trans h))
  apply Triple.andThen (Keeps.require fun s h => (identity_restartStreaming obs s).trans h)
  apply Triple.andThen (Keeps.whenever (keepsIdentity_setStatus .active))
  exact Keeps.require hStop

theorem identity_onMonitoringTimerTimeout (obs : Obs) (s : State) :
    (onMonitoringTimerTimeout obs s).identity = s.identity := by
  apply onMonitoringTimerTimeout_keeps (P := fun t => t.identity = s.identity) rfl
    (identity_start obs s) (identity_startStreaming obs s)
  · exact fun t h => (identity_startRecording obs t).trans h
  · exact fun _ => (keepsIdentity_monitorOutput obs _).body rfl

end Identity

structure Aligned (s : State) : Prop where
  source : s.activeSettingsRev = s.storedSettingsRev → s.activeSourceUuid ≠ "" →
    s.activeSourceUuid = s.getSourceUuid ∧ Enabled s
  acquired : s.status = .standBy ∨ s.streamingOutput ≠ none → s.activeSourceUuid ≠ ""
  connected : s.activeSettingsRev = s.storedSettingsRev → s.streamingOutput ≠ none →
    s.connection ≠ []

/-- What the alignment is about, the status apart. -/
structure SameBuild (s t : State) : Prop where
  settings : t.settings = s.settings
  revisions : t.activeSettingsRev = s.activeSettingsRev ∧
    t.storedSettingsRev = s.storedSettingsRev
  source : t.activeSourceUuid = s.activeSourceUuid
  connection : t.connection = s.connection
  streamingOutput : t.streamingOutput = s.streamingOutput

theorem enabled_congr {s t : State} (hSettings : t.settings = s.settings) :
    Enabled t ↔ Enabled s := by
  have hSource : t.getSourceUuid = s.getSourceUuid := by simp only [State.getSourceUuid, hSettings]
  have hVisible : t.getVisible = s.getVisible := by simp only [State.getVisible, hSettings]
  exact ⟨fun h => ⟨hSource ▸ h.source, hVisible ▸ h.visible⟩,
    fun h => ⟨hSource ▸ h.source, hVisible ▸ h.visible⟩⟩

theorem aligned_initial {s : State} (h : Initial s) : Aligned s where
  source _ hSource := absurd h.activeSourceUuid hSource
  acquired hHeld := by
    rcases hHeld with hStandBy | hOutput
    · rw [h.status] at hStandBy
      cases hStandBy
    · exact absurd h.handles.2.1 hOutput
  connected _ hOutput := absurd h.handles.2.1 hOutput

namespace Aligned

variable {s t : State}

theorem congr (h : Aligned s) (hBuild : SameBuild s t)
    (hStatus : t.status = .standBy → s.status = .standBy) : Aligned t where
  source hFresh hSource := by
    rw [hBuild.revisions.1, hBuild.revisions.2] at hFresh
    rw [hBuild.source] at hSource ⊢
    obtain ⟨hUuid, hEnabled⟩ := h.source hFresh hSource
    exact ⟨by rw [hUuid, State.getSourceUuid, State.getSourceUuid, hBuild.settings],
      (enabled_congr hBuild.settings).mpr hEnabled⟩
  acquired hHeld := by
    rw [hBuild.streamingOutput] at hHeld
    rw [hBuild.source]
    exact h.acquired (hHeld.imp_left hStatus)
  connected hFresh hOutput := by
    rw [hBuild.revisions.1, hBuild.revisions.2] at hFresh
    rw [hBuild.streamingOutput] at hOutput
    rw [hBuild.connection]
    exact h.connected hFresh hOutput

theorem call (h : Aligned s) (c : Call) : Aligned (s.call c) :=
  h.congr ⟨rfl, ⟨rfl, rfl⟩, rfl, rfl, rfl⟩ id

theorem setStatus (h : Aligned s) {value : EgressLinkOutputStatus} (hValue : value ≠ .standBy) :
    Aligned (setStatus value s) := by
  rw [setStatus_eq]
  exact h.congr ⟨rfl, ⟨rfl, rfl⟩, rfl, rfl, rfl⟩ fun hStandBy => absurd hStandBy hValue

theorem destroyPipeline (s : State) {nextStatus : EgressLinkOutputStatus}
    (hNext : nextStatus ≠ .standBy) (nextRecordingStatus : RecordingOutputStatus) :
    Aligned (destroyPipeline nextStatus nextRecordingStatus s) := by
  rw [destroyPipeline_eq]
  constructor
  · exact fun _ hSource => absurd rfl hSource
  · exact fun hHeld => (hHeld.elim hNext fun hOutput => hOutput rfl).elim
  · exact fun _ hOutput => absurd rfl hOutput

theorem stop (s : State) : Aligned (stop s) :=
  (destroyPipeline s (by decide) .inactive).call _

/-- A new revision of the settings is not built yet. -/
theorem outdated (h : Aligned s) (hProvided : Provided s)
    (hActive : t.activeSettingsRev = s.activeSettingsRev)
    (hStored : t.storedSettingsRev = s.storedSettingsRev + 1)
    (hSource : t.activeSourceUuid = s.activeSourceUuid) (hStatus : t.status = s.status)
    (hOutput : t.streamingOutput = s.streamingOutput) : Aligned t := by
  have hStale : t.activeSettingsRev ≠ t.storedSettingsRev := by
    have hRevision := hProvided.revision
    omega
  refine ⟨fun hFresh => absurd hFresh hStale, ?_, fun hFresh => absurd hFresh hStale⟩
  rw [hStatus, hOutput, hSource]
  exact h.acquired

theorem of_rebuilt {obs : Obs} (hEnabled : Enabled s)
    (h : Rebuilt obs s.getSourceUuid (retrieveConnection obs s).view (streams obs s)
      s.getRecording t) : Aligned t := by
  cases h with
  | failed _ hView =>
    -- nothing is held in the error status
    have hStatus : t.status = .error := by
      rcases hView with hView | hView <;> exact congrArg PipelineView.status hView
    have hOutput : t.streamingOutput = none := by
      have hNone : t.streamingOutput.isSome = false := by
        rcases hView with hView | hView <;> exact congrArg PipelineView.streamingOutput hView
      exact Option.not_isSome_iff_eq_none.mp (by simp [hNone])
    have hSettings : t.settings = s.settings := by
      rcases hView with hView | hView <;> exact congrArg PipelineView.settings hView
    refine ⟨fun _ hSource => ?_, fun hHeld => ?_, fun _ hHeld => absurd hOutput hHeld⟩
    · refine ⟨?_, (enabled_congr hSettings).mpr hEnabled⟩
      rw [State.getSourceUuid, hSettings]
      rcases hView with hView | hView
      · exact absurd (congrArg PipelineView.activeSourceUuid hView) hSource
      · exact congrArg PipelineView.activeSourceUuid hView
    · simp [hStatus, hOutput] at hHeld
  | built _ hView =>
    have hSource : t.activeSourceUuid = s.getSourceUuid :=
      congrArg PipelineView.activeSourceUuid hView
    have hSettings : t.settings = s.settings := congrArg PipelineView.settings hView
    have hConnection : t.connection = connectionOf s.name obs.uplink :=
      congrArg PipelineView.connection hView
    have hOutput : t.streamingOutput.isSome = (streams obs s && streamingCreated obs) :=
      congrArg PipelineView.streamingOutput hView
    refine ⟨fun _ _ => ⟨?_, (enabled_congr hSettings).mpr hEnabled⟩, fun _ => ?_, ?_⟩
    · rw [hSource, State.getSourceUuid, State.getSourceUuid, hSettings]
    · rw [hSource]
      exact hEnabled.source
    · intro _ hHeld hNone
      rw [Option.isSome_iff_ne_none.mpr hHeld] at hOutput
      have hStreams := (Bool.and_eq_true_iff.mp hOutput.symm).1
      rw [streams, ← hConnection, hNone] at hStreams
      cases hStreams

theorem keepPipeline (h : Aligned s) (obs : Obs) (streaming recording : Bool) :
    Aligned (keepPipeline obs streaming recording s) := by
  unfold EgressLinkOutput.keepPipeline
  split
  · split
    · split
      · rw [ensureRecordingOutput_body]
        split
        · split <;> exact h.congr ⟨rfl, ⟨rfl, rfl⟩, rfl, rfl, rfl⟩ id
        · exact h
      · exact h.setStatus (by decide)
    · exact h.setStatus (by decide)
  · exact h

/-- The connection that a kept pipeline finds in the uplink is one it can stream to. -/
theorem retrieveConnection (h : Aligned s) (hInv : Inv s) {obs : Obs} (hKept : Kept obs s) :
    Aligned (retrieveConnection obs s) where
  source hFresh hSource :=
    have hHeld := h.source hFresh hSource
    ⟨hHeld.1, hHeld.2.source, hHeld.2.visible⟩
  acquired := h.acquired
  connected _ hOutput hNone := by
    have hStreams : streams obs s = false := by
      change (!(EgressLinkOutput.retrieveConnection obs s).connection.isEmpty) = false
      rw [hNone]
      rfl
    exact hOutput (hInv.standBy (hKept.standBy hStreams))

theorem start (h : Aligned s) (hInv : Inv s) (hProvided : Provided s) (obs : Obs) :
    Aligned (start obs s) := by
  apply call
  by_cases hEnabled : Enabled s
  · cases hRebuilds : rebuilds obs s with
    | true => exact of_rebuilt hEnabled (startPipeline_rebuilt hEnabled hRebuilds)
    | false =>
      have hKept := rebuilds_eq_false_iff.mp hRebuilds
      rw [startPipeline_of_kept hKept hInv hProvided hEnabled]
      exact (h.retrieveConnection hInv hKept).keepPipeline ..
  · rw [startPipeline_of_disabled hEnabled]
    exact destroyPipeline s (by decide) _

theorem incShowing (h : Aligned s) : Aligned (incShowing s) := by
  rw [incShowing_eq]
  exact h.congr ⟨rfl, ⟨rfl, rfl⟩, rfl, rfl, rfl⟩ id

theorem startStreaming (h : Aligned s) (obs : Obs) : Aligned (startStreaming obs s) := by
  apply call
  split
  · have hStarted : Aligned ((saveTimestamp obs s).call
        (.outputStart s.streamingOutput obs.streamingStarted)) :=
      h.congr ⟨rfl, ⟨rfl, rfl⟩, rfl, rfl, rfl⟩ id
    simp only
    split
    · exact hStarted.incShowing.setStatus (by decide)
    · exact hStarted.setStatus (by decide)
  · exact h

theorem startRecording (h : Aligned s) (obs : Obs) : Aligned (startRecording obs s) := by
  have hStatus : ∀ value t, Aligned t → Aligned (setRecordingStatus value t) :=
    fun _ _ ht => ht.congr ⟨rfl, ⟨rfl, rfl⟩, rfl, rfl, rfl⟩ id
  unfold EgressLinkOutput.startRecording
  split
  · have hStarted := h.call (.outputStart s.recordingOutput obs.recordingStarted)
    simp only
    split
    · exact hStatus _ _ hStarted.incShowing
    · exact hStatus _ _ hStarted
  · exact h

theorem restartStreaming (h : Aligned s) (obs : Obs) : Aligned (restartStreaming obs s) := by
  have hRestarted : Aligned (((saveTimestamp obs s).call
      (.outputForceStop s.streamingOutput)).call
        (.outputStart s.streamingOutput obs.streamingStarted)) :=
    h.congr ⟨rfl, ⟨rfl, rfl⟩, rfl, rfl, rfl⟩ id
  unfold EgressLinkOutput.restartStreaming
  simp only
  split
  · exact hRestarted.setStatus (by decide)
  · exact hRestarted

theorem restartRecording (h : Aligned s) (obs : Obs) : Aligned (restartRecording obs s) :=
  (h.call _).call _

end Aligned

theorem triple_monitorOutput_aligned (obs : Obs) (alive : Bool) :
    Triple (fun s => (Inv s ∧ Provided s) ∧ Aligned s) (monitorOutput obs alive) Aligned
      Aligned := by
  apply Triple.andThen (Triple.require (fun _ h _ => h) fun s _ _ => Aligned.stop s)
  apply Triple.andThen (Q := Aligned)
    (Triple.require (fun _ h _ => h.2) fun _ h _ => h.2.start h.1.1 h.1.2 obs)
  apply Triple.andThen (Q := Aligned)
  · intro s h
    unfold changeSettings
    split
    · simp only
      split
      · exact h.call _
      · exact (h.call _).setStatus (by decide)
    · exact h
  apply Triple.andThen (Keeps.whenever (Triple.step fun _ h => h.restartRecording obs))
  apply Triple.andThen (Keeps.require fun _ h => h.restartStreaming obs)
  apply Triple.andThen (Keeps.whenever (Triple.step fun _ h => h.setStatus (by decide)))
  exact Keeps.require fun s _ => Aligned.stop s

theorem Aligned.onMonitoringTimerTimeout {s : State} (h : Aligned s) (hInv : Inv s)
    (hProvided : Provided s) (obs : Obs) : Aligned (onMonitoringTimerTimeout obs s) := by
  apply onMonitoringTimerTimeout_keeps h (h.start hInv hProvided obs) (h.startStreaming obs)
  · exact fun _ hStarted => hStarted.startRecording obs
  · exact fun _ =>
      (triple_monitorOutput_aligned obs _).body (fun _ => id) s ⟨⟨hInv, hProvided⟩, h⟩

theorem Aligned.apply {s : State} (h : Aligned s) (hInv : Inv s) (hProvided : Provided s)
    (e : Event) : Aligned (apply s e) :=
  apply_keeps h (h.onMonitoringTimerTimeout hInv hProvided) (h.start hInv hProvided)
    (Aligned.stop s) h.startStreaming h.startRecording
    (fun _ _ => h.outdated hProvided rfl rfl rfl rfl rfl) e

theorem aligned_of_reachable {guard : State → Event → Prop} {s : State}
    (h : Reachable step guard Initial s) : Inv s ∧ Provided s ∧ Aligned s := by
  apply h.invariant
    (fun s hInitial => ⟨inv_initial hInitial, provided_initial hInitial, aligned_initial hInitial⟩)
  rintro s e s' ⟨hInv, hProvided, hAligned⟩ - hStep
  obtain rfl : apply s e = s' := Option.some.inj hStep
  exact ⟨hInv.apply e, hProvided.apply hInv e, hAligned.apply hInv hProvided e⟩

theorem connection_setStatus (value : EgressLinkOutputStatus) (s : State) :
    (setStatus value s).connection = s.connection := by rw [setStatus_eq]

theorem connection_stop (s : State) : (stop s).connection = s.connection := by
  rw [stop, destroyPipeline_eq]
  rfl

theorem connection_keepPipeline (obs : Obs) (streaming recording : Bool) (s : State) :
    (keepPipeline obs streaming recording s).connection = s.connection := by
  unfold keepPipeline
  simp only [ensureRecordingOutput_body]
  split
  · split
    · split
      · split
        · split <;> rfl
        · rfl
      · exact connection_setStatus ..
    · exact connection_setStatus ..
  · rfl

section Connection

variable {obs : Obs} {s : State}

/-- The connections that an event with this uplink can leave behind. -/
def Retrieves (obs : Obs) (s t : State) : Prop :=
  t.connection = s.connection ∨ t.connection = connectionOf s.name obs.uplink

theorem retrieves_start (hInv : Inv s) (hProvided : Provided s) : Retrieves obs s (start obs s) := by
  change Retrieves obs s (startPipeline obs s)
  by_cases hEnabled : Enabled s
  · refine .inr ?_
    cases hRebuilds : rebuilds obs s with
    | true =>
      have hRebuilt := startPipeline_rebuilt hEnabled hRebuilds
      cases hRebuilt with
      | failed _ hView => rcases hView with hView | hView <;> exact congrArg (·.connection) hView
      | built _ hView => exact congrArg PipelineView.connection hView
    | false =>
      rw [startPipeline_of_kept (rebuilds_eq_false_iff.mp hRebuilds) hInv hProvided hEnabled,
        connection_keepPipeline]
      rfl
  · refine .inl ?_
    rw [startPipeline_of_disabled hEnabled, destroyPipeline_eq]

theorem connection_startStreaming (obs : Obs) (s : State) :
    (startStreaming obs s).connection = s.connection := by
  unfold startStreaming
  simp only [incShowing_eq]
  split
  · split <;> exact connection_setStatus ..
  · rfl

theorem connection_startRecording (obs : Obs) (s : State) :
    (startRecording obs s).connection = s.connection := by
  unfold startRecording
  simp only [incShowing_eq]
  split
  · split <;> rfl
  · rfl

theorem connection_restartStreaming (obs : Obs) (s : State) :
    (restartStreaming obs s).connection = s.connection := by
  unfold restartStreaming
  simp only
  split
  · exact connection_setStatus ..
  · rfl

theorem retrieves_monitorOutput (hInv : Inv s) (hProvided : Provided s) (alive : Bool) :
    Retrieves obs s ((monitorOutput obs alive).body s) := by
  have hSame : ∀ t t' : State, t'.connection = t.connection → Retrieves obs s t →
      Retrieves obs s t' :=
    fun _ _ hEq => Or.imp hEq.trans hEq.trans
  apply Triple.body (P := (· = s)) (Q := Retrieves obs s) _ (fun _ => id) s rfl
  apply Triple.andThen (Q := (· = s))
  · exact Triple.require (fun _ h _ => h) fun t h _ => .inl (h ▸ connection_stop t)
  apply Triple.andThen (Q := Retrieves obs s)
  · exact Triple.require (fun _ h _ => .inl (h ▸ rfl)) fun t h _ =>
      h ▸ retrieves_start (h ▸ hInv) (h ▸ hProvided)
  apply Triple.andThen (Q := Retrieves obs s)
  · intro t h
    unfold changeSettings
    split
    · simp only
      split
      · exact h
      · exact hSame _ _ (connection_setStatus ..) h
    · exact h
  apply Triple.andThen (Keeps.whenever (Triple.step fun t h => hSame t (restartRecording obs t) rfl h))
  apply Triple.andThen (Keeps.require fun t h => hSame _ _ (connection_restartStreaming obs t) h)
  apply Triple.andThen
    (Keeps.whenever (Triple.step fun t h => hSame _ _ (connection_setStatus _ t) h))
  exact Keeps.require fun t h => hSame _ _ (connection_stop t) h

theorem retrieves_onMonitoringTimerTimeout (hInv : Inv s) (hProvided : Provided s) :
    Retrieves obs s (onMonitoringTimerTimeout obs s) := by
  apply onMonitoringTimerTimeout_keeps (P := Retrieves obs s) (.inl rfl)
    (retrieves_start hInv hProvided) (.inl (connection_startStreaming obs s))
  · exact fun t h => h.imp (connection_startRecording obs t).trans
      (connection_startRecording obs t).trans
  · exact fun _ => retrieves_monitorOutput hInv hProvided _

end Connection

end SrcLink.EgressLinkOutput
