import SrcLink.Outputs.PipelineStructure

/-! # What a start does

`start` either keeps the pipeline it finds or rebuilds it. A rebuild is described on
a view of the state that forgets all handles but the presence of the two outputs.
-/

namespace SrcLink.EgressLinkOutput

open Json EarlyExit

set_option autoImplicit false

/-- `start` without a rebuild: only a missing recording output is created. -/
def keepPipeline (obs : Obs) (streaming recording : Bool) (s : State) : State :=
  if streaming || recording then
    if obs.videoInfo.isSome then
      if !streaming || (createEgressSettings s.settings s.connection).isSome then
        (ensureRecordingOutput obs recording).body s
      else setStatus .error s
    else setStatus .error s
  else s

theorem ensureVideoEncoder_of_encoded {s : State} (h : Encoded s) (obs : Obs) :
    ensureVideoEncoder obs s = .ok s :=
  Block.whenever_of_false (Option.isNone_eq_false_iff.mpr (Option.isSome_iff_ne_none.mpr h.1))

theorem ensureAudioEncoder_of_encoded {s : State} (h : Encoded s) (obs : Obs) :
    ensureAudioEncoder obs s = .ok s :=
  Block.whenever_of_false (Option.isNone_eq_false_iff.mpr (Option.isSome_iff_ne_none.mpr h.2))

theorem ensureStreamingOutput_of_held {s : State} {streaming : Bool}
    (h : streaming = true → s.streamingOutput ≠ none) (obs : Obs) :
    ensureStreamingOutput obs streaming s = .ok s := by
  apply Block.whenever_of_false
  cases streaming with
  | false => exact Bool.and_false _
  | true => simp [Option.isSome_iff_ne_none.mpr (h rfl)]

theorem buildPipeline_kept {obs : Obs} {uuid : String} {streaming recording : Bool} {s : State}
    (hEncoded : (streaming || recording) = true → Encoded s)
    (hHeld : streaming = true → s.streamingOutput ≠ none) :
    (buildPipeline obs uuid false streaming recording).body s =
      keepPipeline obs streaming recording s := by
  have hKept : ∀ b : Block State, Block.whenever (fun _ => false) b s = .ok s :=
    fun _ => Block.whenever_of_false rfl
  have hStandBy : goStandBy streaming false s = .ok s :=
    Block.whenever_of_false (Bool.and_false _)
  rw [buildPipeline, Block.body_andThen_of_ok (hKept _), Block.body_andThen_of_ok hStandBy]
  simp only [Block.body_require_andThen, keepPipeline, id]
  split
  · next hNeeded =>
    rw [Block.body_andThen_of_ok (ensureVideoEncoder_of_encoded (hEncoded hNeeded) obs),
      Block.body_andThen_of_ok (ensureAudioEncoder_of_encoded (hEncoded hNeeded) obs),
      Block.body_andThen_of_ok (ensureStreamingOutput_of_held hHeld obs),
      Block.body_andThen_of_body]
    intro t
    rw [Block.body_require_andThen, Block.body_of_ok (Block.whenever_of_false rfl), id, ite_self]
  · rfl

theorem ensureRecordingOutput_body (obs : Obs) (recording : Bool) (s : State) :
    (ensureRecordingOutput obs recording).body s =
      if s.recordingOutput.isNone && recording then
        if obs.recordingOutputCreated then
          { s with recordingOutput := some s.nextHandle, nextHandle := s.nextHandle + 1 }
        else
          { s with
            recordingOutput := none, recordingStatus := .error, nextHandle := s.nextHandle + 1 }
      else s := by
  rw [ensureRecordingOutput, Block.body_whenever]
  congr 1
  unfold Block.body Block.handle createRecordingOutput
  cases obs.recordingOutputCreated <;> rfl

structure PipelineView where
  settings : QJsonObject
  connection : QJsonObject
  activeSourceUuid : String
  activeSettingsRev : Int
  storedSettingsRev : Int
  status : EgressLinkOutputStatus
  recordingStatus : RecordingOutputStatus
  streamingOutput : Bool
  recordingOutput : Bool

def State.view (s : State) : PipelineView where
  settings := s.settings
  connection := s.connection
  activeSourceUuid := s.activeSourceUuid
  activeSettingsRev := s.activeSettingsRev
  storedSettingsRev := s.storedSettingsRev
  status := s.status
  recordingStatus := s.recordingStatus
  streamingOutput := s.streamingOutput.isSome
  recordingOutput := s.recordingOutput.isSome

namespace PipelineView

def cleared (v : PipelineView) : PipelineView :=
  { v with
    activeSourceUuid := "", status := .inactive, recordingStatus := .inactive
    streamingOutput := false, recordingOutput := false }

/-- The source of the settings is acquired. -/
def prepared (sourceUuid : String) (v : PipelineView) : PipelineView :=
  { v.cleared with activeSourceUuid := sourceUuid, activeSettingsRev := v.storedSettingsRev }

def failed (v : PipelineView) : PipelineView := { v with status := .error }

/-- Before the outputs are created. -/
def waiting (sourceUuid : String) (streaming : Bool) (v : PipelineView) : PipelineView :=
  { v.prepared sourceUuid with status := if streaming then .inactive else .standBy }

/-- `created` tells for each output whether OBS creates it. -/
def rebuilt (sourceUuid : String) (streaming recording : Bool)
    (streamingCreated recordingCreated : Bool) (v : PipelineView) : PipelineView :=
  { v.prepared sourceUuid with
    streamingOutput := streaming && streamingCreated
    status := if streaming then if streamingCreated then .activating else .error else .standBy
    recordingOutput := recording && recordingCreated
    recordingStatus :=
      if recording then if recordingCreated then .activating else .error else .inactive }

end PipelineView

@[simp] theorem view_setStatus (value : EgressLinkOutputStatus) (s : State) :
    (setStatus value s).view = { s.view with status := value } := by
  rw [setStatus_eq]
  rfl

@[simp] theorem view_destroyPipeline (s : State) :
    (destroyPipeline .inactive .inactive s).view = s.view.cleared := by
  rw [destroyPipeline_eq]
  rfl

@[simp] theorem view_activateRecording (s : State) :
    (activateRecording s).view =
      { s.view with
        recordingStatus :=
          if s.view.recordingOutput then .activating else s.view.recordingStatus } := by
  unfold activateRecording State.view
  split <;> simp_all [setRecordingStatus]

@[simp] theorem view_activateStreaming (obs : Obs) (s : State) :
    (activateStreaming obs s).view =
      { s.view with
        status := if s.view.streamingOutput then .activating else s.view.status } := by
  unfold activateStreaming
  split
  · next hSome => simp [State.view, saveTimestamp, setStatus_eq, hSome]
  · next hNone => simp [State.view, hNone]

def streamingCreated (obs : Obs) : Bool := obs.serviceCreated && obs.streamingOutputCreated

/-- Every OBS call that a rebuild may make succeeds. -/
structure CallsSucceed (obs : Obs) (sourceUuid : String) : Prop where
  source : sourceUuid ≠ "program" → ∃ source, obs.sourceByUuid sourceUuid = some source ∧
    obs.isSourceAvailable source = true ∧ obs.isSourceVisible source = true
  videoInfo : obs.videoInfo.isSome = true
  mainVideo : obs.mainVideo = true
  sourceVideo : obs.sourceWidth ≠ 0 ∧ obs.sourceHeight ≠ 0 ∧ obs.viewAdded = true
  mainAudio : obs.mainAudio = true
  sourceAudio : obs.audioInfo = true ∧ obs.silenceOpened = true ∧ obs.sourceAudio = true
  encoders : obs.videoEncoderCreated = true ∧ obs.audioEncoderCreated = true
  outputs : streamingCreated obs = true ∧ obs.recordingOutputCreated = true

/-- Moreover a connection has a known protocol. -/
structure Startable (obs : Obs) (sourceUuid : String) (v : PipelineView) : Prop
    extends CallsSucceed obs sourceUuid where
  protocol : v.connection.isEmpty = false → (createEgressSettings v.settings v.connection).isSome

section Rebuild

variable (obs : Obs) (uuid : String) (v : PipelineView) {w : PipelineView}

inductive Rebuilt (streaming recording : Bool) (t : State) : Prop
  | failed (hStart : ¬ Startable obs uuid v)
      (hView : t.view = v.cleared.failed ∨ t.view = (v.prepared uuid).failed)
  | built (hEncoded : (streaming || recording) = true → Encoded t)
      (hView : t.view =
        v.rebuilt uuid streaming recording (streamingCreated obs) obs.recordingOutputCreated)

/-- A stage has failed after which nothing can be built. -/
def Stuck (w : PipelineView) (t : State) : Prop := t.view = w ∧ ¬ Startable obs uuid v

theorem triple_handle_abort_view {P Q : State → Prop} {b : Block State}
    (h : Triple P b Q (Stuck obs uuid v w)) :
    Triple P (b.handle abort) Q (Stuck obs uuid v w.failed) := by
  apply h.handle (Triple.exit _)
  rintro s ⟨hView, hStart⟩
  exact ⟨by rw [view_setStatus, hView]; rfl, hStart⟩

theorem triple_createSource_view (hUuid : uuid ≠ "program") :
    Triple (fun s => s.view = w) (createSource obs uuid) (fun s => s.view = w)
      (Stuck obs uuid v w) := by
  intro s h
  unfold createSource
  split
  · next source hFound =>
    split
    · exact h
    · next hMissing =>
      refine ⟨h, fun hStart => hMissing ?_⟩
      obtain ⟨source', hSource, hAvailable, hVisible⟩ := hStart.source hUuid
      obtain rfl : source = source' := Option.some.inj (hFound.symm.trans hSource)
      simp [hAvailable, hVisible]
  · next hNone =>
    refine ⟨h, fun hStart => ?_⟩
    obtain ⟨source, hSource, _⟩ := hStart.source hUuid
    simp [hNone] at hSource

theorem triple_reconstruct_view :
    Triple (fun s => s.view = v) (reconstruct obs uuid) (fun s => s.view = v.prepared uuid)
      (Stuck obs uuid v v.cleared.failed) := by
  apply Triple.andThen (Q := fun s => s.view = v.cleared)
  · exact Triple.step fun s h => by rw [view_destroyPipeline, h]
  apply Triple.andThen (Q := fun s => s.view = v.cleared)
  · apply Triple.whenever
    · rintro s ⟨h, hUuid⟩
      exact triple_handle_abort_view obs uuid v
        (triple_createSource_view obs uuid v (by simpa using hUuid)) s h
    · exact fun _ h _ => h
  · apply Triple.step
    intro s h
    change ({ s.view with activeSourceUuid := uuid, activeSettingsRev := s.view.storedSettingsRev }
      : PipelineView) = _
    rw [h]
    rfl

theorem triple_createVideo_view :
    Triple (fun s => s.view = w) (createVideo obs) (fun s => s.view = w) (Stuck obs uuid v w) := by
  intro s h
  unfold createVideo
  split
  · refine Ends.answer (fun _ => h) fun hFailed => ⟨h, fun hStart => ?_⟩
    obtain ⟨hWidth, hHeight, hAdded⟩ := hStart.sourceVideo
    simp [hWidth, hHeight, hAdded] at hFailed
  · refine Ends.answer (fun _ => h) fun hFailed => ⟨h, fun hStart => ?_⟩
    simp [hStart.mainVideo] at hFailed

theorem triple_createVideoEncoder_view (size : Int × Int) :
    Triple (fun s => s.view = w) (createVideoEncoder obs size)
      (fun s => s.view = w ∧ s.videoEncoder ≠ none) (Stuck obs uuid v w) := by
  intro s h
  unfold createVideoEncoder
  split
  · exact ⟨h, Option.some_ne_none _⟩
  · next hFailed => exact ⟨h, fun hStart => hFailed hStart.encoders.1⟩

theorem triple_ensureVideoEncoder_view :
    Triple (fun s => s.view = w) (ensureVideoEncoder obs)
      (fun s => s.view = w ∧ s.videoEncoder ≠ none) (Stuck obs uuid v w.failed) := by
  apply Triple.whenever
  · apply Triple.pre (triple_handle_abort_view obs uuid v _) fun _ => And.left
    exact (triple_createVideo_view obs uuid v).andThen
      (Triple.choose (encoderSize obs) (triple_createVideoEncoder_view obs uuid v))
  · intro s h hPresent
    exact ⟨h, fun hNone => by simp [hNone] at hPresent⟩

theorem triple_createAudio_view (audioUuid : String) :
    Triple (fun s => s.view = w ∧ s.videoEncoder ≠ none) (createAudio obs audioUuid)
      (fun s => s.view = w ∧ s.videoEncoder ≠ none) (Stuck obs uuid v w) := by
  intro s h
  unfold createAudio
  split
  · refine Ends.answer (fun _ => h) fun hFailed => ⟨h.1, fun hStart => ?_⟩
    simp [hStart.sourceAudio] at hFailed
  · split
    · split
      · next hFailed => exact ⟨h.1, fun hStart => by simp [hStart.sourceAudio] at hFailed⟩
      · split
        · exact h
        · next hFailed => exact ⟨h.1, fun hStart => hFailed hStart.sourceAudio.2.2⟩
    · refine Ends.answer (fun _ => h) fun hFailed => ⟨h.1, fun hStart => ?_⟩
      simp [hStart.mainAudio] at hFailed

theorem triple_createAudioEncoder_view :
    Triple (fun s => s.view = w ∧ s.videoEncoder ≠ none) (createAudioEncoder obs)
      (fun s => s.view = w ∧ Encoded s) (Stuck obs uuid v w) := by
  intro s h
  unfold createAudioEncoder
  apply Ends.answer
  · exact fun hCreated => ⟨h.1, h.2, by simp [State.create, hCreated]⟩
  · exact fun hFailed => ⟨h.1, fun hStart => by simp [hStart.encoders.2] at hFailed⟩

theorem triple_ensureAudioEncoder_view :
    Triple (fun s => s.view = w ∧ s.videoEncoder ≠ none) (ensureAudioEncoder obs)
      (fun s => s.view = w ∧ Encoded s) (Stuck obs uuid v w.failed) := by
  apply Triple.whenever
  · apply Triple.pre (triple_handle_abort_view obs uuid v _) fun _ => And.left
    exact Triple.choose audioSourceUuid fun audioUuid =>
      (triple_createAudio_view obs uuid v audioUuid).andThen
        (triple_createAudioEncoder_view obs uuid v)
  · intro s h hPresent
    exact ⟨h.1, h.2, fun hNone => by simp [hNone] at hPresent⟩

/-- The encoders exist and the outputs are as in the view. -/
def Stage (w : PipelineView) (s : State) : Prop := s.view = w ∧ Encoded s

def withStreaming (streaming created : Bool) (w : PipelineView) : PipelineView :=
  if streaming then
    if created then { w with streamingOutput := true } else w.failed
  else w

def withRecording (recording created : Bool) (w : PipelineView) : PipelineView :=
  if recording then
    if created then { w with recordingOutput := true } else { w with recordingStatus := .error }
  else w

theorem triple_createStreamingOutput_view (hNone : w.streamingOutput = false) :
    Triple (Stage w) (createStreamingOutput obs)
      (fun s => streamingCreated obs = true ∧ Stage { w with streamingOutput := true } s)
      (fun s => streamingCreated obs = false ∧ Stage w s) := by
  apply Triple.andThen (Q := fun s => obs.serviceCreated = true ∧ Stage w s)
  · intro s h
    exact Ends.answer (fun hCreated => ⟨hCreated, h⟩)
      fun hFailed => ⟨by simp [streamingCreated, hFailed], h⟩
  · rintro s ⟨hService, hView, hEncoded⟩
    have hOutput : ({ s with
        streamingOutput := s.create obs.streamingOutputCreated
        nextHandle := s.nextHandle + 1 } : State).view =
          { w with streamingOutput := obs.streamingOutputCreated } := by
      rw [← hView]
      cases hCreated : obs.streamingOutputCreated <;> simp [State.view, State.create]
    refine Ends.answer (fun hCreated => ⟨by simp [streamingCreated, hService, hCreated], ?_⟩)
      fun hFailed => ⟨by simp [streamingCreated, hFailed], ?_⟩
    · exact ⟨by rw [hOutput, hCreated], hEncoded⟩
    · refine ⟨?_, hEncoded⟩
      rw [hOutput, hFailed, ← hNone]

theorem triple_ensureStreamingOutput_view (streaming : Bool) {R : State → Prop}
    (hNone : w.streamingOutput = false) :
    Triple (Stage w) (ensureStreamingOutput obs streaming)
      (Stage (withStreaming streaming (streamingCreated obs) w)) R := by
  apply Triple.whenever
  · cases streaming with
    | false =>
      rintro s ⟨_, hStreaming⟩
      simp at hStreaming
    | true =>
      apply Triple.pre (P := Stage w) _ fun _ => And.left
      apply ((triple_createStreamingOutput_view obs hNone).weaken (fun _ => id) _
        fun _ => id).handle (Triple.step _)
      · rintro s ⟨hCreated, h⟩
        simpa [withStreaming, hCreated] using h
      · rintro s ⟨hFailed, h⟩
        refine ⟨?_, ?_⟩
        · rw [view_setStatus, h.1, withStreaming, hFailed]
          rfl
        · rw [setStatus_eq]
          exact h.2
  · intro s h hSkipped
    have hAbsent : s.streamingOutput.isNone = true := by
      have hView : s.view.streamingOutput = false := h.1 ▸ hNone
      simpa [State.view] using hView
    obtain rfl : streaming = false := by simpa [hAbsent] using hSkipped
    exact h

theorem triple_ensureRecordingOutput_view (recording : Bool) {R : State → Prop}
    (hNone : w.recordingOutput = false) :
    Triple (Stage w) (ensureRecordingOutput obs recording)
      (Stage (withRecording recording obs.recordingOutputCreated w)) R := by
  apply Triple.whenever
  · cases recording with
    | false =>
      rintro s ⟨_, hRecording⟩
      simp at hRecording
    | true =>
      apply Triple.pre (P := Stage w) _ fun _ => And.left
      have hCreate : Triple (Stage w) (createRecordingOutput obs)
          (fun s => obs.recordingOutputCreated = true ∧ Stage { w with recordingOutput := true } s)
          (fun s => obs.recordingOutputCreated = false ∧ Stage w s) := by
        rintro s ⟨hView, hEncoded⟩
        refine Ends.answer (fun hCreated => ⟨hCreated, ?_, hEncoded⟩)
          fun hFailed => ⟨hFailed, ?_, hEncoded⟩
        · rw [← hView]
          simp [State.view, State.create, hCreated]
        · rw [← hView] at hNone ⊢
          simpa [State.view, State.create, hFailed] using hNone
      apply (hCreate.weaken (fun _ => id) _ fun _ => id).handle (Triple.step _)
      · rintro s ⟨hCreated, h⟩
        simpa [withRecording, hCreated] using h
      · rintro s ⟨hFailed, h⟩
        refine ⟨?_, h.2⟩
        rw [withRecording, hFailed, ← h.1]
        rfl
  · intro s h hSkipped
    have hAbsent : s.recordingOutput.isNone = true := by
      have hView : s.view.recordingOutput = false := h.1 ▸ hNone
      simpa [State.view] using hView
    obtain rfl : recording = false := by simpa [hAbsent] using hSkipped
    exact h

/-- The outputs that exist are activated. -/
def activated (w : PipelineView) : PipelineView :=
  { w with
    recordingStatus := if w.recordingOutput then .activating else w.recordingStatus
    status := if w.streamingOutput then .activating else w.status }

theorem activated_waiting (streaming recording streamingCreated recordingCreated : Bool) :
    activated (withRecording recording recordingCreated
        (withStreaming streaming streamingCreated (v.waiting uuid streaming))) =
      v.rebuilt uuid streaming recording streamingCreated recordingCreated := by
  cases streaming <;> cases recording <;> cases streamingCreated <;> cases recordingCreated <;> rfl

theorem activated_of_none (hStreaming : w.streamingOutput = false)
    (hRecording : w.recordingOutput = false) : activated w = w := by
  cases w
  obtain rfl := hStreaming
  obtain rfl := hRecording
  rfl

theorem triple_goStandBy_view (streaming : Bool) {R : State → Prop} :
    Triple (fun s => s.view = v.prepared uuid) (goStandBy streaming true)
      (fun s => s.view = v.waiting uuid streaming) R := by
  apply Triple.whenever
  · apply Triple.step
    rintro s ⟨h, hStandBy⟩
    obtain rfl : streaming = false := by simpa using hStandBy
    rw [view_setStatus, h]
    rfl
  · intro s h hSkipped
    obtain rfl : streaming = true := by simpa using hSkipped
    exact h

theorem encoded_activate {s : State} (h : Encoded s) :
    Encoded (activateStreaming obs (activateRecording s)) := by
  have hRecording : Encoded (activateRecording s) := by
    unfold activateRecording
    split <;> exact h
  unfold activateStreaming
  split
  · rw [setStatus_eq]
    exact hRecording
  · exact hRecording

theorem triple_activate_view :
    Triple (Stage w)
      ((Block.require (fun s => s.streamingOutput.isSome || s.recordingOutput.isSome) id).andThen
        (Block.whenever (fun _ => true)
          (Block.step fun s => activateStreaming obs (activateRecording s))))
      (Stage (activated w)) (Stage (activated w)) := by
  apply Triple.andThen (Q := Stage w)
  · apply Triple.require
    · exact fun _ h _ => h
    · intro s h hNone
      obtain ⟨hStreaming, hRecording⟩ := Bool.or_eq_false_iff.mp hNone
      rw [activated_of_none]
      · exact h
      · exact h.1 ▸ hStreaming
      · exact h.1 ▸ hRecording
  · apply Triple.whenever
    · apply Triple.step
      rintro s ⟨h, _⟩
      refine ⟨?_, ?_⟩
      · rw [view_activateStreaming, view_activateRecording, h.1]
        rfl
      · exact encoded_activate obs h.2
    · exact fun _ _ hSkipped => absurd hSkipped (by decide)

theorem triple_buildPipeline_view (streaming recording : Bool)
    (hStreaming : streaming = !v.connection.isEmpty) :
    Triple (fun s => s.view = v) (buildPipeline obs uuid true streaming recording)
      (Rebuilt obs uuid v streaming recording) (Rebuilt obs uuid v streaming recording) := by
  have hStuck : ∀ s, Stuck obs uuid v (v.waiting uuid streaming).failed s →
      Rebuilt obs uuid v streaming recording s := fun s h => .failed h.2 (.inr h.1)
  apply Triple.andThen (Q := fun s => s.view = v.prepared uuid)
  · apply Triple.whenever
    · exact (triple_reconstruct_view obs uuid v).weaken (fun _ => And.left) (fun _ => id)
        fun s h => .failed h.2 (.inl h.1)
    · exact fun _ _ hSkipped => absurd hSkipped (by decide)
  apply Triple.andThen (triple_goStandBy_view uuid v streaming)
  apply Triple.andThen (Q := fun s => s.view = v.waiting uuid streaming)
  · apply Triple.require
    · exact fun _ h _ => h
    · intro s h hUnused
      -- neither stream nor recording: the source is all there is to build
      refine .built (fun hNeeded => by simp [hNeeded] at hUnused) (h.trans ?_)
      obtain ⟨rfl, rfl⟩ := Bool.or_eq_false_iff.mp hUnused
      rfl
  apply Triple.andThen (Q := fun s => s.view = v.waiting uuid streaming)
  · apply Triple.require
    · exact fun _ h _ => h
    · intro s h hNoVideo
      -- every check that fails from here on leaves the same view
      refine hStuck _ ⟨by rw [view_setStatus, h]; rfl, fun hStart => ?_⟩
      simp [hStart.videoInfo] at hNoVideo
  apply Triple.andThen (Q := fun s => s.view = v.waiting uuid streaming)
  · apply Triple.require
    · exact fun _ h _ => h
    · intro s h hProtocol
      refine hStuck _ ⟨by rw [view_setStatus, h]; rfl, fun hStart => ?_⟩
      obtain ⟨hConnected, hUnknown⟩ := Bool.or_eq_false_iff.mp hProtocol
      have hSettings : s.settings = v.settings := congrArg PipelineView.settings h
      have hConnection : s.connection = v.connection := congrArg PipelineView.connection h
      have hKnown := hStart.protocol (by simpa [hStreaming] using hConnected)
      rw [hSettings, hConnection, hKnown] at hUnknown
      cases hUnknown
  apply Triple.andThen
    ((triple_ensureVideoEncoder_view obs uuid v).weaken (fun _ => id) (fun _ => id) hStuck)
  apply Triple.andThen
    ((triple_ensureAudioEncoder_view obs uuid v).weaken (fun _ => id) (fun _ => id) hStuck)
  apply Triple.andThen (triple_ensureStreamingOutput_view obs streaming rfl)
  apply Triple.andThen (triple_ensureRecordingOutput_view obs recording _)
  · have hBuilt : ∀ s, Stage (activated (withRecording recording obs.recordingOutputCreated
        (withStreaming streaming (streamingCreated obs) (v.waiting uuid streaming)))) s →
          Rebuilt obs uuid v streaming recording s :=
      fun s h => .built (fun _ => h.2) (h.1.trans (activated_waiting ..))
    exact (triple_activate_view obs).weaken (fun _ => id) hBuilt hBuilt
  · cases streaming <;> cases streamingCreated obs <;> rfl

end Rebuild

/-- The settings name a source and do not hide the output. -/
structure Enabled (s : State) : Prop where
  source : s.getSourceUuid ≠ ""
  visible : s.getVisible = true

/-- The decision of a `start` from this state. -/
def rebuilds (obs : Obs) (s : State) : Bool :=
  demandsReconstruction s.getSourceUuid (retrieveConnection obs s)

/-- A connection of the output's name is in the uplink. -/
def streams (obs : Obs) (s : State) : Bool := !(connectionOf s.name obs.uplink).isEmpty

section Start

variable {obs : Obs} {s : State}

theorem startPipeline_of_disabled (h : ¬ Enabled s) :
    startPipeline obs s = destroyPipeline .disabled .inactive s := by
  unfold startPipeline
  apply if_pos
  by_contra hNot
  simp only [Bool.or_eq_true, decide_eq_true_eq, Bool.not_eq_true', not_or] at hNot
  exact h ⟨hNot.1, by simpa using hNot.2⟩

theorem startPipeline_of_enabled (h : Enabled s) :
    startPipeline obs s =
      (buildPipeline obs s.getSourceUuid (rebuilds obs s) (streams obs s) s.getRecording).body
        (retrieveConnection obs s) := by
  unfold startPipeline
  rw [if_neg (by simp [h.source, h.visible])]
  rfl

theorem startPipeline_rebuilt (h : Enabled s) (hRebuilds : rebuilds obs s = true) :
    Rebuilt obs s.getSourceUuid (retrieveConnection obs s).view (streams obs s) s.getRecording
      (startPipeline obs s) := by
  rw [startPipeline_of_enabled h, hRebuilds]
  exact (triple_buildPipeline_view obs s.getSourceUuid (retrieveConnection obs s).view
    (streams obs s) s.getRecording rfl).body (fun _ => id) _ rfl

theorem startPipeline_kept (h : Enabled s) (hKept : rebuilds obs s = false)
    (hEncoded : (streams obs s || s.getRecording) = true → Encoded s)
    (hHeld : streams obs s = true → s.streamingOutput ≠ none) :
    startPipeline obs s =
      keepPipeline obs (streams obs s) s.getRecording (retrieveConnection obs s) := by
  rw [startPipeline_of_enabled h, hKept]
  exact buildPipeline_kept hEncoded hHeld

end Start

end SrcLink.EgressLinkOutput
