import SrcLink.Library.StepSystem
import SrcLink.Outputs.EgressLinkOutput

/-! # Structure of the pipeline

Which handles stand behind each status. Every statement of `start` keeps the
invariant, so each of its early exits does.
-/

namespace SrcLink.EgressLinkOutput

open Json Schema EarlyExit StepSystem

set_option autoImplicit false

/-- The output that a call is made on. -/
def Call.operand : Call → Option (Option Handle)
  | .outputStart output _ => some output
  | .outputForceStop output => some output
  | .outputReconnecting output => some output
  | _ => none

def Call.onNull (c : Call) : Bool := c.operand = some none

structure PipelineStructure (s : State) : Prop where
  streaming : s.status ∈ [.activating, .active, .reconnecting, .changing] →
    s.streamingOutput ≠ none ∧ s.service ≠ none ∧ s.videoEncoder ≠ none ∧ s.audioEncoder ≠ none
  standBy : s.status = .standBy → s.streamingOutput = none
  recording : s.recordingStatus ∈ [.activating, .active] →
    s.recordingOutput ≠ none ∧ s.videoEncoder ≠ none ∧ s.audioEncoder ≠ none
  calls : ∀ c ∈ s.calls, c.onNull = false

def Encoded (s : State) : Prop := s.videoEncoder ≠ none ∧ s.audioEncoder ≠ none

structure Inv (s : State) : Prop where
  streamingParts : s.streamingOutput ≠ none → s.service ≠ none ∧ Encoded s
  recordingParts : s.recordingOutput ≠ none → Encoded s
  streaming : s.status ∈ [.activating, .active, .reconnecting, .changing] →
    s.streamingOutput ≠ none
  standBy : s.status = .standBy → s.streamingOutput = none
  recording : s.recordingStatus ∈ [.activating, .active] → s.recordingOutput ≠ none
  calls : ∀ c ∈ s.calls, c.onNull = false

theorem Inv.pipelineStructure {s : State} (h : Inv s) : PipelineStructure s where
  streaming hStatus :=
    have hOutput := h.streaming hStatus
    have hParts := h.streamingParts hOutput
    ⟨hOutput, hParts.1, hParts.2⟩
  standBy := h.standBy
  recording hStatus :=
    have hOutput := h.recording hStatus
    ⟨hOutput, h.recordingParts hOutput⟩
  calls := h.calls

theorem inv_initial {s : State} (h : Initial s) : Inv s where
  streamingParts hOutput := absurd h.handles.2.1 hOutput
  recordingParts hOutput := absurd h.handles.2.2.1 hOutput
  streaming hStatus := by simp [h.status] at hStatus
  standBy hStatus := h.handles.2.1
  recording hStatus := by simp [h.recordingStatus] at hStatus
  calls := by simp [h.calls]

theorem not_onNull_of_held {c : Call} {output : Option Handle} (hOperand : c.operand = some output)
    (hOutput : output ≠ none) : c.onNull = false := by
  simp [Call.onNull, hOperand, hOutput]

theorem not_onNull_statusCalls (old new : EgressLinkOutputStatus) :
    ∀ c ∈ statusCalls old new, c.onNull = false := by
  have hCounters : ∀ c ∈ [Call.incrementActiveOutputs, .decrementActiveOutputs,
      .incrementStandByOutputs, .decrementStandByOutputs], c.onNull = false := by decide
  exact fun c hc => hCounters c (mem_of_mem_statusCalls hc)

theorem not_onNull_incCalls (source : Option Source) :
    ∀ c ∈ incCalls source, c.onNull = false := by
  intro c hc
  obtain ⟨held, _, rfl⟩ := List.mem_map.mp hc
  rfl

theorem not_onNull_decCalls (source : Option Source) :
    ∀ c ∈ decCalls source, c.onNull = false := by
  intro c hc
  obtain ⟨held, _, rfl⟩ := List.mem_map.mp hc
  rfl

theorem not_onNull_releaseCalls (source : Option Source) (running : Bool)
    (output : Option Handle) : ∀ c ∈ releaseCalls source running output, c.onNull = false := by
  intro c hc
  cases output with
  | none => cases hc
  | some output =>
    rcases List.mem_cons.mp hc with rfl | hc
    · rfl
    · cases running with
      | false => cases hc
      | true =>
        rcases List.mem_cons.mp hc with rfl | hc
        · rfl
        · exact not_onNull_decCalls source c hc

theorem not_onNull_teardownCalls (s : State) (nextStatus : EgressLinkOutputStatus) :
    ∀ c ∈ teardownCalls s nextStatus, c.onNull = false := by
  intro c hc
  simp only [teardownCalls, List.cons_append, List.mem_cons, List.mem_append] at hc
  rcases hc with rfl | hStatus | hSource | hStreaming | hRecording
  · rfl
  · exact not_onNull_statusCalls _ _ c hStatus
  · exact not_onNull_decCalls _ c hSource
  · exact not_onNull_releaseCalls _ _ _ c hStreaming
  · exact not_onNull_releaseCalls _ _ _ c hRecording

theorem forall_append {α : Type*} {p : α → Prop} {xs ys : List α} (hxs : ∀ x ∈ xs, p x)
    (hys : ∀ y ∈ ys, p y) : ∀ x ∈ xs ++ ys, p x :=
  fun x hx => (List.mem_append.mp hx).elim (hxs x) (hys x)

theorem Inv.call {s : State} (h : Inv s) {c : Call} (hNull : c.onNull = false) :
    Inv (s.call c) :=
  { h with calls := List.forall_mem_cons.mpr ⟨hNull, h.calls⟩ }

theorem Inv.setStatus {s : State} (h : Inv s) {value : EgressLinkOutputStatus}
    (hDriven : value ∈ [.activating, .active, .reconnecting, .changing] →
      s.streamingOutput ≠ none)
    (hStandBy : value = .standBy → s.streamingOutput = none) : Inv (setStatus value s) := by
  rw [setStatus_eq]
  exact
    { h with
      streaming := hDriven
      standBy := hStandBy
      calls := forall_append (not_onNull_statusCalls _ _) h.calls }

theorem Inv.setStatus_error {s : State} (h : Inv s) : Inv (EgressLinkOutput.setStatus .error s) :=
  h.setStatus (fun hDriven => absurd hDriven (by decide)) fun hStandBy => absurd hStandBy (by decide)

theorem Inv.setStatus_held {s : State} (h : Inv s) (hHeld : s.streamingOutput ≠ none)
    {value : EgressLinkOutputStatus} (hValue : value ≠ .standBy) :
    Inv (EgressLinkOutput.setStatus value s) :=
  h.setStatus (fun _ => hHeld) fun hStandBy => absurd hStandBy hValue

theorem Inv.setRecordingStatus {s : State} (h : Inv s) {value : RecordingOutputStatus}
    (hDriven : value ∈ [.activating, .active] → s.recordingOutput ≠ none) :
    Inv (setRecordingStatus value s) :=
  { h with recording := hDriven }

theorem Inv.incShowing {s : State} (h : Inv s) : Inv (incShowing s) := by
  rw [incShowing_eq]
  exact { h with calls := forall_append (not_onNull_incCalls _) h.calls }

theorem Inv.destroyPipeline {s : State} (h : Inv s) {nextStatus : EgressLinkOutputStatus}
    {nextRecordingStatus : RecordingOutputStatus}
    (hStatus : nextStatus ∉ [.activating, .active, .reconnecting, .changing])
    (hRecording : nextRecordingStatus ∉ [.activating, .active]) :
    Inv (destroyPipeline nextStatus nextRecordingStatus s) := by
  rw [destroyPipeline_eq]
  constructor
  · exact fun hNone => absurd rfl hNone
  · exact fun hNone => absurd rfl hNone
  · exact fun hDriven => absurd hDriven hStatus
  · exact fun _ => rfl
  · exact fun hDriven => absurd hDriven hRecording
  · exact forall_append (not_onNull_teardownCalls _ _) h.calls

theorem Inv.stop {s : State} (h : Inv s) : Inv (stop s) :=
  (h.destroyPipeline (by decide) (by decide)).call rfl

/-- Between the rebuild decision and the creation of the encoders. -/
structure Building (streaming reconstructed : Bool) (s : State) : Prop where
  inv : Inv s
  connected : streaming = true → s.status ≠ .standBy
  cleared : reconstructed = true → s.streamingOutput = none

/-- While an encoder is missing, no output depends on it. -/
structure Bare (streaming video : Bool) (s : State) : Prop where
  inv : Inv s
  connected : streaming = true → s.status ≠ .standBy
  streamingOutput : s.streamingOutput = none
  recordingOutput : s.recordingOutput = none
  video : video = true → s.videoEncoder ≠ none

structure Equipped (streaming : Bool) (s : State) : Prop where
  inv : Inv s
  connected : streaming = true → s.status ≠ .standBy
  encoded : Encoded s

theorem building_destroyPipeline {s : State} (h : Inv s) (streaming : Bool) :
    Building streaming true (destroyPipeline .inactive .inactive s) where
  inv := h.destroyPipeline (by decide) (by decide)
  connected _ := by
    rw [destroyPipeline_eq]
    simp
  cleared _ := by rw [destroyPipeline_eq]

theorem Inv.bare {streaming video : Bool} {s : State} (h : Inv s)
    (hConnected : streaming = true → s.status ≠ .standBy)
    (hVideo : video = true → s.videoEncoder ≠ none) (hMissing : ¬ Encoded s) :
    Bare streaming video s where
  inv := h
  connected := hConnected
  streamingOutput := by
    by_contra hOutput
    exact hMissing (h.streamingParts hOutput).2
  recordingOutput := by
    by_contra hOutput
    exact hMissing (h.recordingParts hOutput)
  video := hVideo

theorem triple_abort : Triple Inv abort (fun _ => False) Inv :=
  Triple.exit fun _ h => h.setStatus_error

theorem triple_handle_abort {P Q : State → Prop} {b : Block State} (h : Triple P b Q Inv) :
    Triple P (b.handle abort) Q Inv :=
  h.handle (triple_abort.weaken (fun _ => id) (fun _ => False.elim) fun _ => id)

section Build

variable (obs : Obs) (uuid : String) {streaming reconstructed video : Bool}

theorem triple_createSource :
    Triple (Building streaming reconstructed) (createSource obs uuid)
      (Building streaming reconstructed) Inv := by
  intro s h
  have hReset : Inv { s with source := none } := { h.inv with }
  unfold createSource
  cases obs.sourceByUuid uuid with
  | none => exact hReset
  | some source =>
    simp only
    split
    · have hHeld : Inv { s with source := some source } := { h.inv with }
      exact ⟨hHeld.call rfl, h.connected, h.cleared⟩
    · exact hReset

theorem triple_reconstruct :
    Triple Inv (reconstruct obs uuid) (Building streaming true) Inv := by
  apply Triple.andThen (Triple.step fun s h => building_destroyPipeline h streaming)
  apply Triple.andThen (Q := Building streaming true)
  · apply Triple.whenever
    · exact (triple_handle_abort (triple_createSource obs uuid)).pre fun _ h => h.1
    · exact fun _ h _ => h
  · exact Triple.step fun _ h => ⟨{ h.inv with }, h.connected, h.cleared⟩

theorem triple_createVideo :
    Triple (Bare streaming video) (createVideo obs) (Bare streaming video) Inv := by
  intro s h
  have hView : Bare streaming video
      { s with sourceView := s.create obs.viewCreated, nextHandle := s.nextHandle + 1 } :=
    { h with inv := { h.inv with } }
  unfold createVideo
  split
  · exact Ends.answer (fun _ => hView) fun _ => hView.inv
  · exact Ends.answer (fun _ => h) fun _ => h.inv

theorem triple_createAudio :
    Triple (Bare streaming video) (createAudio obs uuid) (Bare streaming video) Inv := by
  intro s h
  have hChanged : ∀ audioSilence audioSource nextHandle,
      Bare streaming video { s with audioSilence, audioSource, nextHandle } :=
    fun _ _ _ => { h with inv := { h.inv with } }
  unfold createAudio
  split
  · exact Ends.answer (fun _ => hChanged _ _ _) fun _ => (hChanged _ _ _).inv
  · split
    · split
      · exact h.inv
      · split
        · exact hChanged _ _ _
        · exact (hChanged _ _ _).inv
    · exact Ends.answer (fun _ => h) fun _ => h.inv

theorem Bare.inv_encoders {s : State} (h : Bare streaming video s)
    (videoEncoder audioEncoder : Option Handle) (nextHandle : Handle) (width height : Int) :
    Inv { s with videoEncoder, audioEncoder, nextHandle, width, height } :=
  { h.inv with
    streamingParts := fun hOutput => absurd h.streamingOutput hOutput
    recordingParts := fun hOutput => absurd h.recordingOutput hOutput }

theorem triple_createVideoEncoder (size : Int × Int) :
    Triple (Bare streaming video) (createVideoEncoder obs size) (Bare streaming true) Inv := by
  intro s h
  unfold createVideoEncoder
  split
  · exact
      { h with
        inv := h.inv_encoders ..
        video := fun _ => Option.some_ne_none _ }
  · exact h.inv_encoders ..

theorem triple_createAudioEncoder :
    Triple (Bare streaming true) (createAudioEncoder obs) (Equipped streaming) Inv := by
  intro s h
  unfold createAudioEncoder
  apply Ends.answer
  · intro hCreated
    refine ⟨h.inv_encoders .., h.connected, h.video rfl, ?_⟩
    simp [State.create, hCreated]
  · exact fun _ => h.inv_encoders ..

/-- The encoders a stage of `start` can rely on. -/
structure VideoEncoded (streaming : Bool) (s : State) : Prop where
  inv : Inv s
  connected : streaming = true → s.status ≠ .standBy
  video : s.videoEncoder ≠ none

theorem triple_ensureVideoEncoder :
    Triple (Building streaming reconstructed) (ensureVideoEncoder obs) (VideoEncoded streaming)
      Inv := by
  apply Triple.whenever
  · have hCreate : Triple (Bare streaming false) _ (Bare streaming true) Inv :=
      (triple_createVideo obs).andThen
        (Triple.choose (encoderSize obs) (triple_createVideoEncoder obs))
    apply (triple_handle_abort hCreate).weaken
    · rintro s ⟨h, hMissing⟩
      apply h.inv.bare h.connected (fun hVideo => absurd hVideo (by decide))
      exact fun hEncoded => hEncoded.1 (Option.isNone_iff_eq_none.mp hMissing)
    · exact fun s h => ⟨h.inv, h.connected, h.video rfl⟩
    · exact fun _ => id
  · intro s h hPresent
    exact ⟨h.inv, h.connected, fun hNone => by simp [hNone] at hPresent⟩

theorem triple_ensureAudioEncoder :
    Triple (VideoEncoded streaming) (ensureAudioEncoder obs) (Equipped streaming) Inv := by
  apply Triple.whenever
  · have hCreate : Triple (Bare streaming true) _ (Equipped streaming) Inv :=
      Triple.choose audioSourceUuid fun uuid =>
        (triple_createAudio obs uuid).andThen (triple_createAudioEncoder obs)
    apply (triple_handle_abort hCreate).pre
    rintro s ⟨h, hMissing⟩
    apply h.inv.bare h.connected (fun _ => h.video)
    exact fun hEncoded => hEncoded.2 (Option.isNone_iff_eq_none.mp hMissing)
  · intro s h hPresent
    exact ⟨h.inv, h.connected, h.video, fun hNone => by simp [hNone] at hPresent⟩

theorem triple_createStreamingOutput :
    Triple (fun s => Equipped true s ∧ s.streamingOutput = none) (createStreamingOutput obs)
      (Equipped true) (Equipped true) := by
  apply Triple.andThen (Q := fun s =>
    Equipped true s ∧ s.streamingOutput = none ∧ s.service ≠ none)
  · rintro s ⟨h, hNone⟩
    have hService : ∀ service nextHandle, Equipped true { s with service, nextHandle } :=
      fun _ _ =>
        { h with
          inv :=
            { h.inv with streamingParts := fun hOutput => absurd hNone hOutput } }
    apply Ends.answer
    · exact fun hCreated => ⟨hService _ _, hNone, by simp [State.create, hCreated]⟩
    · exact fun _ => hService _ _
  · rintro s ⟨h, hNone, hService⟩
    have hOutput : Equipped true
        { s with
          streamingOutput := s.create obs.streamingOutputCreated
          nextHandle := s.nextHandle + 1 } :=
      { h with
        inv :=
          { h.inv with
            streamingParts := fun _ => ⟨hService, h.encoded⟩
            streaming := fun hStatus => absurd hNone (h.inv.streaming hStatus)
            standBy := fun hStatus => absurd hStatus (h.connected rfl) } }
    exact Ends.answer (fun _ => hOutput) fun _ => hOutput

theorem triple_createRecordingOutput :
    Triple (fun s => Equipped streaming s ∧ s.recordingOutput = none) (createRecordingOutput obs)
      Inv Inv := by
  rintro s ⟨h, hNone⟩
  have hOutput : Inv
      { s with
        recordingOutput := s.create obs.recordingOutputCreated
        nextHandle := s.nextHandle + 1 } :=
    { h.inv with
      recordingParts := fun _ => h.encoded
      recording := fun hStatus => absurd hNone (h.inv.recording hStatus) }
  exact Ends.answer (fun _ => hOutput) fun _ => hOutput

theorem Equipped.setStatus_error {s : State} (h : Equipped streaming s) :
    Equipped streaming (setStatus .error s) := by
  refine ⟨h.inv.setStatus_error, ?_, ?_⟩ <;> rw [setStatus_eq]
  · simp
  · exact h.encoded

theorem triple_ensureStreamingOutput :
    Triple (Equipped streaming) (ensureStreamingOutput obs streaming) (Equipped streaming) Inv := by
  apply Triple.whenever
  · cases streaming with
    | false =>
      rintro s ⟨_, hStreaming⟩
      simp at hStreaming
    | true =>
      apply Triple.pre ((triple_createStreamingOutput obs).handle (Triple.step _))
      · rintro s ⟨h, hMissing⟩
        exact ⟨h, Option.isNone_iff_eq_none.mp (Bool.and_eq_true_iff.mp hMissing).1⟩
      · exact fun s h => h.setStatus_error
  · exact fun _ h _ => h

theorem triple_ensureRecordingOutput (recording : Bool) :
    Triple (Equipped streaming) (ensureRecordingOutput obs recording) Inv Inv := by
  apply Triple.whenever
  · apply Triple.pre ((triple_createRecordingOutput obs).handle (Triple.step _))
    · rintro s ⟨h, hMissing⟩
      exact ⟨h, Option.isNone_iff_eq_none.mp (Bool.and_eq_true_iff.mp hMissing).1⟩
    · exact fun s h => h.setRecordingStatus fun hDriven => absurd hDriven (by decide)
  · exact fun _ h _ => h.inv

theorem Inv.saveTimestamp {s : State} (h : Inv s) : Inv (saveTimestamp obs s) := { h with }

theorem Inv.activateRecording {s : State} (h : Inv s) : Inv (activateRecording s) := by
  unfold EgressLinkOutput.activateRecording
  split
  · next hOutput => exact h.setRecordingStatus fun _ => Option.isSome_iff_ne_none.mp hOutput
  · exact h

theorem Inv.activateStreaming {s : State} (h : Inv s) : Inv (activateStreaming obs s) := by
  unfold EgressLinkOutput.activateStreaming
  split
  · next hOutput =>
    exact (h.saveTimestamp obs).setStatus_held (Option.isSome_iff_ne_none.mp hOutput) (by decide)
  · exact h

theorem triple_reconstruct_whenever :
    Triple (fun s => Inv s ∧ (reconstructed = false → streaming = true → s.status ≠ .standBy))
      (Block.whenever (fun _ => reconstructed) (reconstruct obs uuid))
      (Building streaming reconstructed) Inv := by
  apply Triple.whenever
  · cases reconstructed with
    | false => exact fun s h => absurd h.2 (by decide)
    | true => exact (triple_reconstruct obs uuid).pre fun s h => h.1.1
  · rintro s ⟨h, hConnected⟩ hKept
    exact ⟨h, hConnected hKept, fun hRebuilt => absurd hRebuilt (by simp [hKept])⟩

theorem triple_goStandBy :
    Triple (Building streaming reconstructed) (goStandBy streaming reconstructed)
      (Building streaming reconstructed) Inv := by
  apply Triple.whenever
  · apply Triple.step
    rintro s ⟨h, hStandBy⟩
    obtain ⟨hStreaming, hRebuilt⟩ := Bool.and_eq_true_iff.mp hStandBy
    have hNone := h.cleared hRebuilt
    refine ⟨h.inv.setStatus (fun hDriven => absurd hDriven (by decide)) fun _ => hNone, ?_, ?_⟩
    · exact fun hTrue => by simp [hTrue] at hStreaming
    · rw [setStatus_eq]
      exact h.cleared
  · exact fun _ h _ => h

/-- A pipeline that streams without a rebuild is active, hence not in stand-by. -/
theorem triple_buildPipeline (recording : Bool) :
    Triple (fun s => Inv s ∧ (reconstructed = false → streaming = true → s.status ≠ .standBy))
      (buildPipeline obs uuid reconstructed streaming recording) Inv Inv := by
  apply Triple.andThen (triple_reconstruct_whenever obs uuid)
  apply Triple.andThen triple_goStandBy
  apply Triple.andThen (Q := Building streaming reconstructed)
  · exact Triple.require (fun _ h _ => h) fun _ h _ => h.inv
  apply Triple.andThen (Q := Building streaming reconstructed)
  · exact Triple.require (fun _ h _ => h) fun _ h _ => h.inv.setStatus_error
  apply Triple.andThen (Q := Building streaming reconstructed)
  · exact Triple.require (fun _ h _ => h) fun _ h _ => h.inv.setStatus_error
  apply Triple.andThen (triple_ensureVideoEncoder obs)
  apply Triple.andThen (triple_ensureAudioEncoder obs)
  apply Triple.andThen (triple_ensureStreamingOutput obs)
  apply Triple.andThen (triple_ensureRecordingOutput obs recording)
  apply Triple.andThen (Q := Inv)
  · exact Triple.require (fun _ h _ => h) fun _ h _ => h
  · apply Triple.whenever
    · exact Triple.step fun s h => h.1.activateRecording.activateStreaming obs
    · exact fun _ h _ => h

end Build

theorem active_of_not_demandsReconstruction {uuid : String} {s : State}
    (hKept : demandsReconstruction uuid s = false) (hConnected : (!s.connection.isEmpty) = true) :
    s.status = .active := by
  by_contra hStatus
  simp [demandsReconstruction, hStatus, hConnected] at hKept

theorem Inv.start {s : State} (h : Inv s) (obs : Obs) : Inv (start obs s) := by
  apply Inv.call _ rfl
  unfold startPipeline
  split
  · exact h.destroyPipeline (by decide) (by decide)
  · apply (triple_buildPipeline obs _ _).body fun _ => id
    refine ⟨{ h with }, fun hKept hConnected => ?_⟩
    rw [active_of_not_demandsReconstruction hKept hConnected]
    decide

theorem Inv.startStreaming {s : State} (h : Inv s) (obs : Obs) : Inv (startStreaming obs s) := by
  apply Inv.call _ rfl
  split
  · next hOutput =>
    have hHeld := Option.isSome_iff_ne_none.mp hOutput
    have hStarted := (h.saveTimestamp obs).call
      (c := .outputStart _ obs.streamingStarted) (not_onNull_of_held rfl hHeld)
    simp only
    split
    · apply hStarted.incShowing.setStatus_held _ (by decide)
      rw [incShowing_eq]
      exact hHeld
    · exact hStarted.setStatus_error
  · exact h

theorem Inv.startRecording {s : State} (h : Inv s) (obs : Obs) : Inv (startRecording obs s) := by
  unfold EgressLinkOutput.startRecording
  split
  · next hOutput =>
    have hHeld := Option.isSome_iff_ne_none.mp hOutput
    have hStarted := h.call
      (c := .outputStart _ obs.recordingStarted) (not_onNull_of_held rfl hHeld)
    simp only
    split
    · apply hStarted.incShowing.setRecordingStatus
      rw [incShowing_eq]
      exact fun _ => hHeld
    · exact hStarted.setRecordingStatus fun hDriven => absurd hDriven (by decide)
  · exact h

theorem Inv.restartStreaming {s : State} (h : Inv s) (obs : Obs)
    (hHeld : s.streamingOutput ≠ none) : Inv (restartStreaming obs s) := by
  have hStopped := (h.saveTimestamp obs).call
    (c := .outputForceStop _) (not_onNull_of_held rfl hHeld)
  have hStarted := hStopped.call
    (c := .outputStart _ obs.streamingStarted) (not_onNull_of_held rfl hHeld)
  unfold EgressLinkOutput.restartStreaming
  simp only
  split
  · exact hStarted.setStatus_held hHeld (by decide)
  · exact hStarted

theorem Inv.restartRecording {s : State} (h : Inv s) (obs : Obs)
    (hHeld : s.recordingOutput ≠ none) : Inv (restartRecording obs s) :=
  (h.call (not_onNull_of_held rfl hHeld)).call (not_onNull_of_held rfl hHeld)

/-- What holds after the stand-by check of a tick: the stream is established. -/
structure Established (s : State) : Prop where
  inv : Inv s
  held : s.streamingOutput ≠ none

theorem triple_changeSettings (obs : Obs) :
    Triple Established (changeSettings obs) Established Inv := by
  intro s h
  unfold changeSettings
  split
  · have hAsked := h.inv.call (c := .outputReconnecting _) (not_onNull_of_held rfl h.held)
    simp only
    split
    · exact ⟨hAsked, h.held⟩
    · exact hAsked.setStatus_held h.held (by decide)
  · exact h

/-- Past the stand-by check the output is active or reconnecting, so it exists. -/
theorem triple_checkStandBy (obs : Obs) (alive : Bool) :
    Triple (fun s => Inv s ∧ streamingInactiveStatus s = false ∧ alive = streamingAlive obs s)
      (checkStandBy obs alive) Established Inv := by
  apply Triple.require
  · rintro s ⟨h, hStatus, rfl⟩ hNotStandBy
    refine ⟨h, fun hNone => ?_⟩
    have hStandBy : s.status ≠ .standBy := by simpa [streamingAlive, hNone] using hNotStandBy
    apply h.streaming _ hNone
    cases hCase : s.status <;> simp_all [streamingInactiveStatus]
  · exact fun _ h _ => h.1.start obs

theorem triple_checkRecording (obs : Obs) :
    Triple Established (checkRecording obs) Established Inv := by
  apply Triple.whenever
  · apply Triple.step
    rintro s ⟨h, hRecording⟩
    have hActive : s.recordingStatus = .active := by
      simpa using (Bool.and_eq_true_iff.mp hRecording).1
    exact ⟨h.inv.restartRecording obs (h.inv.recording (by simp [hActive])), h.held⟩
  · exact fun _ h _ => h

theorem triple_checkStreaming (obs : Obs) (alive : Bool) :
    Triple Established (checkStreaming obs alive) Established Inv :=
  Triple.require (fun _ h _ => h) fun _ h _ => h.inv.restartStreaming obs h.held

theorem triple_checkReconnected (alive : Bool) :
    Triple Established (checkReconnected alive) Established Inv := by
  apply Triple.whenever
  · apply Triple.step
    rintro s ⟨h, _⟩
    refine ⟨h.inv.setStatus_held h.held (by decide), ?_⟩
    rw [setStatus_eq]
    exact h.held
  · exact fun _ h _ => h

theorem triple_monitorOutput (obs : Obs) (alive : Bool) :
    Triple (fun s => Inv s ∧ streamingInactiveStatus s = false ∧ alive = streamingAlive obs s)
      (monitorOutput obs alive) Inv Inv := by
  apply Triple.andThen (Triple.require (fun _ h _ => h) fun _ h _ => h.1.stop)
  apply Triple.andThen (triple_checkStandBy obs alive)
  apply Triple.andThen (triple_changeSettings obs)
  apply Triple.andThen (triple_checkRecording obs)
  apply Triple.andThen (triple_checkStreaming obs alive)
  apply Triple.andThen (triple_checkReconnected alive)
  exact Triple.require (fun _ h _ => h.inv) fun _ h _ => h.inv.stop

theorem Inv.onMonitoringTimerTimeout {s : State} (h : Inv s) (obs : Obs) :
    Inv (onMonitoringTimerTimeout obs s) := by
  apply onMonitoringTimerTimeout_keeps h (h.start obs) (h.startStreaming obs)
  · exact fun _ hStarted => hStarted.startRecording obs
  · exact fun hStatus => (triple_monitorOutput obs _).body (fun _ => id) s ⟨h, hStatus, rfl⟩

theorem Inv.apply {s : State} (h : Inv s) (e : Event) : Inv (apply s e) :=
  apply_keeps h h.onMonitoringTimerTimeout h.start h.stop h.startStreaming h.startRecording
    (fun _ _ => { h with }) e

theorem inv_of_reachable {guard : State → Event → Prop} {s : State}
    (h : Reachable step guard Initial s) : Inv s :=
  h.invariant (fun _ => inv_initial) fun _ e _ hInv _ hStep => Option.some.inj hStep ▸ hInv.apply e

theorem pipelineStructure_of_reachable {s : State} (h : Reachable step anyStep Initial s) :
    PipelineStructure s :=
  (inv_of_reachable h).pipelineStructure

/-- An uplink document with one connection, for the output named "main". -/
def mainUplink : QJsonObject :=
  [("connections", .array [.object
    [("_id", .string "c1"), ("source_name", .string "main"), ("protocol", .string "srt")]])]

/-- Every OBS call succeeds. -/
def healthyObs (now : UInt64) : Obs where
  currentMSecsSinceEpoch := now
  interlockType := "always_on"
  uplink := mainUplink
  frontendStreamingActive := false
  frontendRecordingActive := false
  frontendVirtualcamActive := false
  sourceByUuid := fun _ => some 7
  isSourceAvailable := fun _ => true
  isSourceVisible := fun _ => true
  videoInfo := some (1920, 1080)
  mainVideo := true
  viewCreated := true
  sourceWidth := 1280
  sourceHeight := 720
  viewAdded := true
  mainAudio := true
  audioInfo := true
  silenceOpened := true
  sourceAudio := true
  videoEncoderCreated := true
  audioEncoderCreated := true
  serviceCreated := true
  streamingOutputCreated := true
  recordingOutputCreated := true
  streamingStarted := true
  recordingStarted := true
  streamingActive := true
  recordingActive := true
  streamingReconnecting := false

/-- The output "main" of source "cam", as constructed. -/
def mainOutput : State where
  name := "main"
  settings := [("source_uuid", .string "cam"), ("visible", .bool true)]
  connection := []
  service := none
  streamingOutput := none
  recordingOutput := none
  videoEncoder := none
  audioEncoder := none
  source := none
  sourceView := none
  audioSilence := none
  audioSource := none
  status := .inactive
  recordingStatus := .inactive
  activeSourceUuid := ""
  storedSettingsRev := 1
  activeSettingsRev := 0
  connectionAttemptingAt := 0
  width := 0
  height := 0
  nextHandle := 0
  calls := []

theorem initial_mainOutput : Initial mainOutput := by constructor <;> simp [mainOutput]

/-- The same output with recording enabled. -/
def recordedOutput : State :=
  { mainOutput with
    settings := [("source_uuid", .string "cam"), ("visible", .bool true),
      ("recording", .bool true)] }

theorem initial_recordedOutput : Initial recordedOutput := by
  constructor <;> simp [recordedOutput, mainOutput]

/-- No stage has been linked yet. -/
def unlinkedObs (now : UInt64) : Obs := { healthyObs now with uplink := [] }

theorem reachable_foldl {s : State} (h : Initial s) (es : List Event) :
    Reachable step anyStep Initial (es.foldl apply s) :=
  reachable_of_run es (.start h) (run_total apply s es)

/-- Two ticks take the output to active. -/
theorem pipelineStructure_of_reachable_active :
    ∃ s, s.status = .active ∧ s.streamingOutput ≠ none ∧ PipelineStructure s := by
  have hReady : Reachable step anyStep Initial (apply mainOutput (.monitoringTimerTimeout
      (healthyObs 10000))) := .next (.start initial_mainOutput) trivial rfl
  have hActive := Reachable.next (e := Event.monitoringTimerTimeout (healthyObs 12000)) hReady
    trivial rfl
  exact ⟨_, by decide +kernel, by decide +kernel, pipelineStructure_of_reachable hActive⟩

end SrcLink.EgressLinkOutput
