import SrcLink.Outputs.EgressLinkOutput

/-! # What an output does to the counters of the client

Every change of the status decrements the counter it leaves and increments the one
it enters. The calls of an output therefore add up to the difference between the
shares of its statuses, whatever it does in between.
-/

namespace SrcLink.EgressLinkOutput

open EarlyExit

set_option autoImplicit false

def EgressLinkOutputStatus.activates (status : EgressLinkOutputStatus) : Bool :=
  status = .activating || status = .active || status = .reconnecting

def EgressLinkOutputStatus.standsBy (status : EgressLinkOutputStatus) : Bool := status = .standBy

def Call.activeChange : Call → Int
  | .incrementActiveOutputs => 1
  | .decrementActiveOutputs => -1
  | _ => 0

def Call.standByChange : Call → Int
  | .incrementStandByOutputs => 1
  | .decrementStandByOutputs => -1
  | _ => 0

def activeTotal (calls : List Call) : Int := (calls.map Call.activeChange).sum

def standByTotal (calls : List Call) : Int := (calls.map Call.standByChange).sum

/-- The calls have moved the counters from an earlier status of the output to its status. -/
structure Counted (before : EgressLinkOutputStatus) (s : State) : Prop where
  active : before.activates.toInt + activeTotal s.calls = s.status.activates.toInt
  standBy : before.standsBy.toInt + standByTotal s.calls = s.status.standsBy.toInt

/-- Calls that no counter depends on. -/
def Call.countless (c : Call) : Prop := c.activeChange = 0 ∧ c.standByChange = 0

theorem activeTotal_append (xs ys : List Call) :
    activeTotal (xs ++ ys) = activeTotal xs + activeTotal ys := by
  rw [activeTotal, List.map_append, List.sum_append]
  rfl

theorem standByTotal_append (xs ys : List Call) :
    standByTotal (xs ++ ys) = standByTotal xs + standByTotal ys := by
  rw [standByTotal, List.map_append, List.sum_append]
  rfl

theorem total_countless {xs : List Call} (h : ∀ c ∈ xs, c.countless) :
    activeTotal xs = 0 ∧ standByTotal xs = 0 := by
  induction xs with
  | nil => exact ⟨rfl, rfl⟩
  | cons c xs ih =>
    obtain ⟨⟨hActive, hStandBy⟩, hRest⟩ := List.forall_mem_cons.mp h
    obtain ⟨hActives, hStandBys⟩ := ih hRest
    simp only [activeTotal, standByTotal, List.map_cons, List.sum_cons] at hActives hStandBys ⊢
    omega

theorem total_statusCalls (old new : EgressLinkOutputStatus) :
    old.activates.toInt + activeTotal (statusCalls old new) = new.activates.toInt ∧
      old.standsBy.toInt + standByTotal (statusCalls old new) = new.standsBy.toInt := by
  cases old <;> cases new <;> decide

namespace Counted

variable {before : EgressLinkOutputStatus} {s t : State}

theorem congr (h : Counted before s) (hStatus : t.status = s.status) (hCalls : t.calls = s.calls) :
    Counted before t where
  active := by rw [hStatus, hCalls, h.active]
  standBy := by rw [hStatus, hCalls, h.standBy]

theorem append (h : Counted before s) {xs : List Call} (hOther : ∀ c ∈ xs, c.countless) :
    Counted before { s with calls := xs ++ s.calls } := by
  obtain ⟨hActive, hStandBy⟩ := total_countless hOther
  constructor
  · rw [activeTotal_append, hActive, zero_add, h.active]
  · rw [standByTotal_append, hStandBy, zero_add, h.standBy]

theorem call (h : Counted before s) {c : Call} (hOther : c.countless) :
    Counted before (s.call c) := by
  have hCalls : ∀ c' ∈ [c], c'.countless := List.forall_mem_singleton.mpr hOther
  exact h.append hCalls

theorem setStatus (h : Counted before s) (value : EgressLinkOutputStatus) :
    Counted before (setStatus value s) := by
  obtain ⟨hActive, hStandBy⟩ := total_statusCalls s.status value
  rw [setStatus_eq]
  constructor
  · rw [activeTotal_append, add_left_comm, h.active, add_comm, hActive]
  · rw [standByTotal_append, add_left_comm, h.standBy, add_comm, hStandBy]

theorem setRecordingStatus (h : Counted before s) (value : RecordingOutputStatus) :
    Counted before (setRecordingStatus value s) := h.congr rfl rfl

theorem incShowing (h : Counted before s) : Counted before (incShowing s) := by
  rw [incShowing_eq]
  apply h.append
  intro c hc
  obtain ⟨source, -, rfl⟩ := List.mem_map.mp hc
  exact ⟨rfl, rfl⟩

theorem decShowing (h : Counted before s) : Counted before (decShowing s) := by
  rw [decShowing_eq]
  apply h.append
  intro c hc
  obtain ⟨source, -, rfl⟩ := List.mem_map.mp hc
  exact ⟨rfl, rfl⟩

/-- The calls that release an output, stopped first if it runs. -/
theorem release (h : Counted before s) (runs : Prop) [Decidable runs] (output : Handle) :
    Counted before
      ((if runs then (EgressLinkOutput.decShowing s).call (.outputStop output) else s).call
        (.outputRelease output)) := by
  split
  · exact (h.decShowing.call ⟨rfl, rfl⟩).call ⟨rfl, rfl⟩
  · exact h.call ⟨rfl, rfl⟩

theorem releaseRecordingOutput (h : Counted before s) :
    Counted before (releaseRecordingOutput s) := by
  unfold EgressLinkOutput.releaseRecordingOutput
  split
  · exact (h.release _ _).congr rfl rfl
  · exact h

theorem releaseStreamingOutput (h : Counted before s) :
    Counted before (releaseStreamingOutput s) := by
  unfold EgressLinkOutput.releaseStreamingOutput
  split
  · exact (h.release _ _).congr rfl rfl
  · exact h

theorem destroyPipeline (h : Counted before s) (nextStatus : EgressLinkOutputStatus)
    (nextRecordingStatus : RecordingOutputStatus) :
    Counted before (destroyPipeline nextStatus nextRecordingStatus s) := by
  have hReleased := h.releaseRecordingOutput.releaseStreamingOutput
  have hShown : Counted before (EgressLinkOutput.decShowing _) :=
    (hReleased.congr rfl rfl (t := { EgressLinkOutput.releaseStreamingOutput
      (EgressLinkOutput.releaseRecordingOutput s) with
        service := none, audioEncoder := none, videoEncoder := none, sourceView := none })).decShowing
  have hEmptied := hShown.congr rfl rfl (t := { EgressLinkOutput.decShowing _ with
    source := none, activeSourceUuid := "", audioSource := none, audioSilence := none })
  have hSet := (hEmptied.setStatus nextStatus).setRecordingStatus nextRecordingStatus
  exact hSet.call (c := .pipelineDestroyed) ⟨rfl, rfl⟩

theorem stop (h : Counted before s) : Counted before (stop s) :=
  (h.destroyPipeline .inactive .inactive).call (c := .syncUplinkStatus) ⟨rfl, rfl⟩

theorem saveTimestamp (h : Counted before s) (obs : Obs) : Counted before (saveTimestamp obs s) :=
  h.congr rfl rfl

end Counted

section Build

variable (before : EgressLinkOutputStatus) (obs : Obs)

theorem keeps_abort : Keeps (Counted before) abort := Triple.exit fun _ h => h.setStatus .error

theorem keeps_createSource (uuid : String) : Keeps (Counted before) (createSource obs uuid) := by
  intro s h
  unfold createSource
  split
  · split
    · next source _ _ =>
      have hHeld : Counted before { s with source := some source } := h.congr rfl rfl
      exact hHeld.call (c := .sourceIncShowing source) ⟨rfl, rfl⟩
    · exact h.congr rfl rfl
  · exact h.congr rfl rfl

theorem keeps_createVideo : Keeps (Counted before) (createVideo obs) := by
  intro s h
  unfold createVideo
  split
  · exact Ends.answer (fun _ => h.congr rfl rfl) fun _ => h.congr rfl rfl
  · exact Ends.answer (fun _ => h) fun _ => h

theorem keeps_createVideoEncoder (size : Int × Int) :
    Keeps (Counted before) (createVideoEncoder obs size) := by
  intro s h
  unfold createVideoEncoder
  split
  · exact h.congr rfl rfl
  · exact h.congr rfl rfl

theorem keeps_createAudio (uuid : String) : Keeps (Counted before) (createAudio obs uuid) := by
  intro s h
  unfold createAudio
  split
  · exact Ends.answer (fun _ => h.congr rfl rfl) fun _ => h.congr rfl rfl
  · split
    · split
      · exact h
      · split
        · exact h.congr rfl rfl
        · exact h.congr rfl rfl
    · exact Ends.answer (fun _ => h) fun _ => h

theorem keeps_createAudioEncoder : Keeps (Counted before) (createAudioEncoder obs) :=
  fun _ h => Ends.answer (fun _ => h.congr rfl rfl) fun _ => h.congr rfl rfl

theorem keeps_createStreamingOutput : Keeps (Counted before) (createStreamingOutput obs) := by
  apply Triple.andThen (Q := Counted before)
  · exact fun _ h => Ends.answer (fun _ => h.congr rfl rfl) fun _ => h.congr rfl rfl
  · exact fun _ h => Ends.answer (fun _ => h.congr rfl rfl) fun _ => h.congr rfl rfl

theorem keeps_createRecordingOutput : Keeps (Counted before) (createRecordingOutput obs) :=
  fun _ h => Ends.answer (fun _ => h.congr rfl rfl) fun _ => h.congr rfl rfl

theorem keeps_reconstruct (uuid : String) : Keeps (Counted before) (reconstruct obs uuid) := by
  apply Triple.andThen (Triple.step fun _ h => h.destroyPipeline .inactive .inactive)
  apply Triple.andThen (Q := Counted before)
  · exact Keeps.whenever ((keeps_createSource before obs uuid).handle (keeps_abort before))
  · exact Triple.step fun _ h => h.congr rfl rfl

theorem keeps_ensureVideoEncoder : Keeps (Counted before) (ensureVideoEncoder obs) := by
  have hCreate := (keeps_createVideo before obs).andThen
    (Triple.choose (encoderSize obs) (keeps_createVideoEncoder before obs))
  exact Keeps.whenever (hCreate.handle (keeps_abort before))

theorem keeps_ensureAudioEncoder : Keeps (Counted before) (ensureAudioEncoder obs) := by
  have hCreate := Triple.choose audioSourceUuid fun uuid =>
    (keeps_createAudio before obs uuid).andThen (keeps_createAudioEncoder before obs)
  exact Keeps.whenever (hCreate.handle (keeps_abort before))

theorem keeps_buildPipeline (uuid : String) (reconstructed streaming recording : Bool) :
    Keeps (Counted before) (buildPipeline obs uuid reconstructed streaming recording) := by
  apply Triple.andThen (Keeps.whenever (keeps_reconstruct before obs uuid))
  apply Triple.andThen (Keeps.whenever (Triple.step fun _ h => h.setStatus .standBy))
  apply Triple.andThen (Keeps.require fun _ h => h)
  apply Triple.andThen (Keeps.require fun _ h => h.setStatus .error)
  apply Triple.andThen (Keeps.require fun _ h => h.setStatus .error)
  apply Triple.andThen (keeps_ensureVideoEncoder before obs)
  apply Triple.andThen (keeps_ensureAudioEncoder before obs)
  apply Triple.andThen (Keeps.whenever
    ((keeps_createStreamingOutput before obs).handle (Triple.step fun _ h => h.setStatus .error)))
  apply Triple.andThen (Keeps.whenever ((keeps_createRecordingOutput before obs).handle
    (Triple.step fun _ h => h.setRecordingStatus .error)))
  apply Triple.andThen (Keeps.require fun _ h => h)
  apply Keeps.whenever
  apply Triple.step
  intro s h
  have hRecording : Counted before (activateRecording s) := by
    unfold activateRecording
    split
    · exact h.setRecordingStatus .activating
    · exact h
  unfold activateStreaming
  split
  · exact (hRecording.saveTimestamp obs).setStatus .activating
  · exact hRecording

end Build

namespace Counted

variable {before : EgressLinkOutputStatus} {s : State}

theorem start (h : Counted before s) (obs : Obs) : Counted before (start obs s) := by
  refine Counted.call (c := .syncUplinkStatus) ?_ ⟨rfl, rfl⟩
  unfold startPipeline
  split
  · exact h.destroyPipeline .disabled .inactive
  · have hConnected : Counted before (retrieveConnection obs s) := h.congr rfl rfl
    exact Keeps.body (keeps_buildPipeline before obs _ _ _ _) hConnected

theorem startStreaming (h : Counted before s) (obs : Obs) :
    Counted before (startStreaming obs s) := by
  refine Counted.call (c := .syncUplinkStatus) ?_ ⟨rfl, rfl⟩
  split
  · have hStarted := (h.saveTimestamp obs).call
      (c := .outputStart s.streamingOutput obs.streamingStarted) ⟨rfl, rfl⟩
    simp only
    split
    · exact hStarted.incShowing.setStatus .active
    · exact hStarted.setStatus .error
  · exact h

theorem startRecording (h : Counted before s) (obs : Obs) :
    Counted before (startRecording obs s) := by
  unfold EgressLinkOutput.startRecording
  split
  · have hStarted := h.call (c := .outputStart s.recordingOutput obs.recordingStarted) ⟨rfl, rfl⟩
    simp only
    split
    · exact hStarted.incShowing.setRecordingStatus .active
    · exact hStarted.setRecordingStatus .error
  · exact h

theorem restartStreaming (h : Counted before s) (obs : Obs) :
    Counted before (restartStreaming obs s) := by
  have hStopped := (h.saveTimestamp obs).call
    (c := .outputForceStop s.streamingOutput) ⟨rfl, rfl⟩
  have hStarted := hStopped.call
    (c := .outputStart s.streamingOutput obs.streamingStarted) ⟨rfl, rfl⟩
  unfold EgressLinkOutput.restartStreaming
  simp only
  split
  · exact hStarted.setStatus .reconnecting
  · exact hStarted

theorem restartRecording (h : Counted before s) (obs : Obs) :
    Counted before (restartRecording obs s) :=
  (h.call (c := .outputForceStop s.recordingOutput) ⟨rfl, rfl⟩).call
    (c := .outputStart s.recordingOutput obs.recordingStarted) ⟨rfl, rfl⟩

end Counted

theorem keeps_changeSettings (before : EgressLinkOutputStatus) (obs : Obs) :
    Keeps (Counted before) (changeSettings obs) := by
  intro s h
  unfold changeSettings
  split
  · have hAsked := h.call (c := .outputReconnecting s.streamingOutput) ⟨rfl, rfl⟩
    simp only
    split
    · exact hAsked
    · exact hAsked.setStatus .changing
  · exact h

theorem keeps_monitorOutput (before : EgressLinkOutputStatus) (obs : Obs) (alive : Bool) :
    Keeps (Counted before) (monitorOutput obs alive) := by
  apply Triple.andThen (Keeps.require fun _ h => h.stop)
  apply Triple.andThen (Keeps.require fun _ h => h.start obs)
  apply Triple.andThen (keeps_changeSettings before obs)
  apply Triple.andThen (Keeps.whenever (Triple.step fun _ h => h.restartRecording obs))
  apply Triple.andThen (Keeps.require fun _ h => h.restartStreaming obs)
  apply Triple.andThen (Keeps.whenever (Triple.step fun _ h => h.setStatus .active))
  exact Keeps.require fun _ h => h.stop

namespace Counted

variable {before : EgressLinkOutputStatus} {s : State}

theorem onMonitoringTimerTimeout (h : Counted before s) (obs : Obs) :
    Counted before (onMonitoringTimerTimeout obs s) := by
  apply onMonitoringTimerTimeout_keeps h (h.start obs) (h.startStreaming obs)
  · exact fun _ hStarted => hStarted.startRecording obs
  · exact fun _ => Keeps.body (keeps_monitorOutput before obs _) h

theorem apply (h : Counted before s) (e : Event) : Counted before (apply s e) :=
  apply_keeps h h.onMonitoringTimerTimeout h.start h.stop h.startStreaming h.startRecording
    (fun _ _ => h.congr rfl rfl) e

end Counted

end SrcLink.EgressLinkOutput
