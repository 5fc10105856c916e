import SrcLink.Outputs.ShowingBalance
import SrcLink.Library.ObjectLog

/-! # The outputs that OBS creates

A streaming or recording output is an OBS object that this class holds from its creation
to its release. The calls of a whole run use it in between only, and release it once.
-/

namespace SrcLink.EgressLinkOutput

open EarlyExit StepSystem

set_option autoImplicit false

def Call.uses : Call → Option Handle
  | .outputStart output _ => output
  | .outputStop output => some output
  | .outputForceStop output => output
  | .outputReconnecting output => output
  | .outputRelease output => some output
  | _ => none

def Call.releases : Call → Option Handle
  | .outputRelease output => some output
  | _ => none

theorem Call.uses_of_releases (c : Call) (output : Handle) (h : c.releases = some output) :
    c.uses = some output := by
  cases c <;> first | exact h | cases h

theorem Call.releases_eq_some {c : Call} {output : Handle} :
    c.releases = some output ↔ c = .outputRelease output := by
  cases c <;> simp [Call.releases]

def State.Holds (s : State) (output : Handle) : Prop :=
  s.streamingOutput = some output ∨ s.recordingOutput = some output

/-- The outputs of `known`, and those held now, are used and released in order. -/
structure Tracked (known : Handle → Prop) (s : State) : Prop where
  log : ObjectLog.Kept Call.uses Call.releases s.calls s.Holds s.nextHandle
  distinct : ∀ output, s.streamingOutput = some output → s.recordingOutput ≠ some output
  accounted : ∀ output, known output → s.Holds output ∨ Call.outputRelease output ∈ s.calls

/-- A call that may be made at any time: it uses held outputs only and releases none. -/
def Harmless (s : State) (c : Call) : Prop :=
  (∀ output, c.uses = some output → s.Holds output) ∧ c.releases = none

variable {known : Handle → Prop} {s t : State}

theorem Harmless.of_unused {c : Call} (h : c.uses = none) : Harmless s c := by
  refine ⟨fun output hUses => ?_, Option.eq_none_iff_forall_ne_some.mpr fun output hReleases => ?_⟩
  · rw [h] at hUses
    cases hUses
  · have hUses := c.uses_of_releases output hReleases
    rw [h] at hUses
    cases hUses

theorem harmless_of_mem_statusCalls {old new : EgressLinkOutputStatus} {c : Call}
    (h : c ∈ statusCalls old new) : Harmless s c := by
  have hCalls := mem_of_mem_statusCalls h
  simp only [List.mem_cons, List.not_mem_nil, or_false] at hCalls
  rcases hCalls with rfl | rfl | rfl | rfl <;> exact .of_unused rfl

theorem harmless_of_mem_incCalls {source : Option Source} {c : Call}
    (h : c ∈ incCalls source) : Harmless s c := by
  obtain ⟨_, _, rfl⟩ := List.mem_map.mp h
  exact .of_unused rfl

theorem harmless_of_mem_decCalls {source : Option Source} {c : Call}
    (h : c ∈ decCalls source) : Harmless s c := by
  obtain ⟨_, _, rfl⟩ := List.mem_map.mp h
  exact .of_unused rfl

theorem tracked_initial (h : Initial s) : Tracked (fun _ => False) s where
  log := by
    rw [h.calls]
    refine ObjectLog.Kept.nil fun output hHolds => ?_
    rcases hHolds with hHeld | hHeld
    · rw [h.handles.2.1] at hHeld
      cases hHeld
    · rw [h.handles.2.2.1] at hHeld
      cases hHeld
  distinct output hHeld := by
    rw [h.handles.2.1] at hHeld
    cases hHeld
  accounted _ h := h.elim

namespace Tracked

theorem learn (h : Tracked known s) : Tracked (fun output => known output ∨ s.Holds output) s where
  log := h.log
  distinct := h.distinct
  accounted output hKnown := hKnown.elim (h.accounted output) .inl

/-- New objects of another kind and harmless calls. -/
theorem extend (h : Tracked known s) (hStreaming : t.streamingOutput = s.streamingOutput)
    (hRecording : t.recordingOutput = s.recordingOutput) (hNext : s.nextHandle ≤ t.nextHandle)
    {ops : List Call} (hCalls : t.calls = ops ++ s.calls) (hOps : ∀ c ∈ ops, Harmless s c) :
    Tracked known t where
  log := by
    rw [hCalls]
    refine (h.log.append hOps).mono hNext fun output hHolds => ?_
    rwa [State.Holds, hStreaming, hRecording] at hHolds
  distinct output := by
    rw [hStreaming, hRecording]
    exact h.distinct output
  accounted output hKnown := by
    rw [State.Holds, hStreaming, hRecording, hCalls]
    exact (h.accounted output hKnown).imp_right (List.mem_append_right ops)

/-- Nothing about the outputs changes. -/
theorem congr (h : Tracked known s) (hStreaming : t.streamingOutput = s.streamingOutput)
    (hRecording : t.recordingOutput = s.recordingOutput) (hNext : s.nextHandle ≤ t.nextHandle)
    (hCalls : t.calls = s.calls) : Tracked known t :=
  h.extend hStreaming hRecording hNext (show t.calls = [] ++ s.calls from hCalls)
    fun _ hc => nomatch hc

theorem call (h : Tracked known s) (c : Call) (hCall : Harmless s c) : Tracked known (s.call c) :=
  h.extend rfl rfl le_rfl (show (s.call c).calls = [c] ++ s.calls from rfl)
    fun _ hc => List.mem_singleton.mp hc ▸ hCall

theorem setStatus (h : Tracked known s) (value : EgressLinkOutputStatus) :
    Tracked known (setStatus value s) := by
  rw [setStatus_eq]
  exact h.extend rfl rfl le_rfl rfl fun _ => harmless_of_mem_statusCalls

theorem setRecordingStatus (h : Tracked known s) (value : RecordingOutputStatus) :
    Tracked known (setRecordingStatus value s) :=
  h.congr rfl rfl le_rfl rfl

theorem incShowing (h : Tracked known s) : Tracked known (incShowing s) := by
  rw [incShowing_eq]
  exact h.extend rfl rfl le_rfl rfl fun _ => harmless_of_mem_incCalls

theorem decShowing (h : Tracked known s) : Tracked known (decShowing s) := by
  rw [decShowing_eq]
  exact h.extend rfl rfl le_rfl rfl fun _ => harmless_of_mem_decCalls

/-- An output is created where none is held. -/
theorem createStreaming (h : Tracked known s) (hNone : s.streamingOutput = none)
    (created : Bool) : Tracked known
      { s with streamingOutput := s.create created, nextHandle := s.nextHandle + 1 } where
  log := by
    refine h.log.create Call.uses_of_releases fun output hHolds => ?_
    rcases hHolds with hNew | hOld
    · exact .inr (State.eq_nextHandle_of_create hNew)
    · exact .inl (.inr hOld)
  distinct output hNew hOld := by
    have hBelow := (h.log.unreleased output (.inr hOld)).1
    exact Nat.lt_irrefl _ (State.eq_nextHandle_of_create hNew ▸ hBelow)
  accounted output hKnown := by
    refine (h.accounted output hKnown).imp_left fun hHolds => ?_
    rcases hHolds with hHeld | hHeld
    · rw [hNone] at hHeld
      cases hHeld
    · exact .inr hHeld

theorem createRecording (h : Tracked known s) (hNone : s.recordingOutput = none)
    (created : Bool) : Tracked known
      { s with recordingOutput := s.create created, nextHandle := s.nextHandle + 1 } where
  log := by
    refine h.log.create Call.uses_of_releases fun output hHolds => ?_
    rcases hHolds with hOld | hNew
    · exact .inl (.inl hOld)
    · exact .inr (State.eq_nextHandle_of_create hNew)
  distinct output hOld hNew := by
    have hBelow := (h.log.unreleased output (.inl hOld)).1
    exact Nat.lt_irrefl _ (State.eq_nextHandle_of_create hNew ▸ hBelow)
  accounted output hKnown := by
    refine (h.accounted output hKnown).imp_left fun hHolds => ?_
    rcases hHolds with hHeld | hHeld
    · exact .inl hHeld
    · rw [hNone] at hHeld
      cases hHeld

/-- The release of one of two different outputs. -/
theorem release (h : Tracked known s) {released : Handle} (hHeld : s.Holds released)
    (hKeeps : ∀ output, t.Holds output ↔ s.Holds output ∧ output ≠ released)
    (hDistinct : ∀ output, t.streamingOutput = some output → t.recordingOutput ≠ some output)
    (hNext : t.nextHandle = s.nextHandle)
    (hCalls : t.calls = .outputRelease released :: s.calls) : Tracked known t where
  log := by
    rw [hCalls, hNext]
    refine h.log.cons (fun output hUses => Option.some.inj hUses ▸ hHeld) fun output hHolds => ?_
    obtain ⟨hOld, hOther⟩ := (hKeeps output).mp hHolds
    exact ⟨hOld, fun hSame => hOther (Option.some.inj hSame).symm⟩
  distinct := hDistinct
  accounted output hKnown := by
    rw [hCalls]
    rcases h.accounted output hKnown with hHolds | hReleased
    · by_cases hSame : output = released
      · exact .inr (hSame ▸ List.mem_cons_self)
      · exact .inl ((hKeeps output).mpr ⟨hHolds, hSame⟩)
    · exact .inr (List.mem_cons_of_mem _ hReleased)

theorem releaseRecordingOutput (h : Tracked known s) :
    Tracked known (releaseRecordingOutput s) := by
  unfold EgressLinkOutput.releaseRecordingOutput
  split
  · next output hOutput =>
    have hStopped : ∀ t : State, Tracked known t → t.streamingOutput = s.streamingOutput →
        t.recordingOutput = some output →
        Tracked known { t.call (.outputRelease output) with recordingOutput := none } := by
      intro t ht hStreaming hRecording
      refine ht.release (show t.Holds output from .inr hRecording) (fun other => ?_) ?_ rfl rfl
      · have hNot : t.streamingOutput = some other → other ≠ output := by
          rintro hOther rfl
          exact ht.distinct other hOther hRecording
        constructor
        · rintro (hOther | hNone)
          · exact ⟨.inl hOther, hNot hOther⟩
          · cases hNone
        · rintro ⟨hOther | hSame, hNe⟩
          · exact .inl hOther
          · rw [hRecording] at hSame
            exact absurd (Option.some.inj hSame).symm hNe
      · exact fun _ _ hNone => nomatch hNone
    simp only
    split
    · rw [decShowing_eq]
      refine hStopped _ (call ?_ (.outputStop output) ?_) rfl hOutput
      · exact h.extend rfl rfl le_rfl rfl fun _ => harmless_of_mem_decCalls
      · exact ⟨fun other hUses => .inr (hOutput.trans hUses), rfl⟩
    · exact hStopped s h rfl hOutput
  · exact h

theorem releaseStreamingOutput (h : Tracked known s) :
    Tracked known (releaseStreamingOutput s) := by
  unfold EgressLinkOutput.releaseStreamingOutput
  split
  · next output hOutput =>
    have hStopped : ∀ t : State, Tracked known t → t.recordingOutput = s.recordingOutput →
        t.streamingOutput = some output →
        Tracked known { t.call (.outputRelease output) with streamingOutput := none } := by
      intro t ht hRecording hStreaming
      refine ht.release (show t.Holds output from .inl hStreaming) (fun other => ?_) ?_ rfl rfl
      · have hNot : t.recordingOutput = some other → other ≠ output := by
          rintro hOther rfl
          exact ht.distinct other hStreaming hOther
        constructor
        · rintro (hNone | hOther)
          · cases hNone
          · exact ⟨.inr hOther, hNot hOther⟩
        · rintro ⟨hSame | hOther, hNe⟩
          · rw [hStreaming] at hSame
            exact absurd (Option.some.inj hSame).symm hNe
          · exact .inr hOther
      · exact fun _ hNone => nomatch hNone
    simp only
    split
    · rw [decShowing_eq]
      refine hStopped _ (call ?_ (.outputStop output) ?_) rfl hOutput
      · exact h.extend rfl rfl le_rfl rfl fun _ => harmless_of_mem_decCalls
      · exact ⟨fun other hUses => .inl (hOutput.trans hUses), rfl⟩
    · exact hStopped s h rfl hOutput
  · exact h

theorem destroyPipeline (h : Tracked known s) (nextStatus : EgressLinkOutputStatus)
    (nextRecordingStatus : RecordingOutputStatus) :
    Tracked known (destroyPipeline nextStatus nextRecordingStatus s) := by
  have hReleased := h.releaseRecordingOutput.releaseStreamingOutput
  unfold EgressLinkOutput.destroyPipeline
  simp only
  refine call (setRecordingStatus (setStatus ?_ nextStatus) nextRecordingStatus)
    .pipelineDestroyed (.of_unused rfl)
  refine (decShowing (hReleased.congr ?_ ?_ ?_ ?_)).congr rfl rfl le_rfl rfl <;> rfl

theorem stop (h : Tracked known s) : Tracked known (stop s) :=
  (h.destroyPipeline ..).call .syncUplinkStatus (.of_unused rfl)

theorem saveTimestamp (h : Tracked known s) (obs : Obs) : Tracked known (saveTimestamp obs s) :=
  h.congr rfl rfl le_rfl rfl

theorem startStreaming (h : Tracked known s) (obs : Obs) :
    Tracked known (startStreaming obs s) := by
  refine call ?_ .syncUplinkStatus (.of_unused rfl)
  split
  · have hStarted : Tracked known ((EgressLinkOutput.saveTimestamp obs s).call
        (.outputStart s.streamingOutput obs.streamingStarted)) :=
      (h.saveTimestamp obs).call (.outputStart _ _) ⟨fun _ hUses => .inl hUses, rfl⟩
    simp only
    split
    · exact hStarted.incShowing.setStatus _
    · exact hStarted.setStatus _
  · exact h

theorem startRecording (h : Tracked known s) (obs : Obs) :
    Tracked known (startRecording obs s) := by
  unfold EgressLinkOutput.startRecording
  split
  · have hStarted : Tracked known
        (s.call (.outputStart s.recordingOutput obs.recordingStarted)) :=
      h.call (.outputStart _ _) ⟨fun _ hUses => .inr hUses, rfl⟩
    simp only
    split
    · exact hStarted.incShowing.setRecordingStatus _
    · exact hStarted.setRecordingStatus _
  · exact h

theorem restartStreaming (h : Tracked known s) (obs : Obs) :
    Tracked known (restartStreaming obs s) := by
  have hForced : Tracked known
      ((EgressLinkOutput.saveTimestamp obs s).call (.outputForceStop s.streamingOutput)) :=
    (h.saveTimestamp obs).call (.outputForceStop _) ⟨fun _ hUses => .inl hUses, rfl⟩
  have hRestarted : Tracked known (((EgressLinkOutput.saveTimestamp obs s).call
      (.outputForceStop s.streamingOutput)).call
        (.outputStart s.streamingOutput obs.streamingStarted)) :=
    hForced.call (.outputStart _ _) ⟨fun _ hUses => .inl hUses, rfl⟩
  unfold EgressLinkOutput.restartStreaming
  simp only
  split
  · exact hRestarted.setStatus _
  · exact hRestarted

theorem restartRecording (h : Tracked known s) (obs : Obs) :
    Tracked known (restartRecording obs s) :=
  (h.call (.outputForceStop _) ⟨fun _ hUses => .inr hUses, rfl⟩).call (.outputStart _ _)
    ⟨fun _ hUses => .inr hUses, rfl⟩

end Tracked

theorem keepsTracked_abort {b : Block State} (h : Keeps (Tracked known) b) :
    Keeps (Tracked known) (b.handle abort) :=
  h.handle (Triple.exit fun _ ht => ht.setStatus .error)

theorem keepsTracked_reconstruct (obs : Obs) (uuid : String) :
    Keeps (Tracked known) (reconstruct obs uuid) := by
  apply Triple.andThen (Q := Tracked known)
  · exact Triple.step fun s h => h.destroyPipeline ..
  apply Triple.andThen (Q := Tracked known)
  · apply Keeps.whenever (keepsTracked_abort _)
    intro s h
    unfold createSource
    split
    · split
      · exact (h.call (.sourceIncShowing _) (.of_unused rfl)).congr rfl rfl le_rfl rfl
      · exact h.congr rfl rfl le_rfl rfl
    · exact h.congr rfl rfl le_rfl rfl
  · exact Triple.step fun s h => h.congr rfl rfl le_rfl rfl

theorem keepsTracked_ensureVideoEncoder (obs : Obs) :
    Keeps (Tracked known) (ensureVideoEncoder obs) := by
  apply Keeps.whenever (keepsTracked_abort _)
  apply Triple.andThen (Q := Tracked known)
  · intro s h
    have hView : Tracked known
        { s with sourceView := s.create obs.viewCreated, nextHandle := s.nextHandle + 1 } :=
      h.congr rfl rfl (Nat.le_succ _) rfl
    unfold createVideo
    split
    · exact Ends.answer (fun _ => hView) fun _ => hView
    · exact Ends.answer (fun _ => h) fun _ => h
  · apply Triple.choose (encoderSize obs)
    intro size s h
    unfold createVideoEncoder
    split
    · exact h.congr rfl rfl (Nat.le_succ _) rfl
    · exact h.congr rfl rfl le_rfl rfl

theorem keepsTracked_createAudio (obs : Obs) (uuid : String) :
    Keeps (Tracked known) (createAudio obs uuid) := by
  intro s h
  unfold createAudio
  split
  · have hSilence : Tracked known
        { s with
          audioSilence := s.create (obs.audioInfo && obs.silenceOpened)
          nextHandle := s.nextHandle + 1 } := h.congr rfl rfl (Nat.le_succ _) rfl
    exact Ends.answer (fun _ => hSilence) fun _ => hSilence
  · split
    · split
      · exact h
      · split
        · exact h.congr rfl rfl (Nat.le_succ _) rfl
        · exact h.congr rfl rfl le_rfl rfl
    · exact Ends.answer (fun _ => h) fun _ => h

theorem keepsTracked_ensureAudioEncoder (obs : Obs) :
    Keeps (Tracked known) (ensureAudioEncoder obs) := by
  have hCreate (uuid : String) : Keeps (Tracked known)
      ((createAudio obs uuid).andThen (createAudioEncoder obs)) := by
    apply Triple.andThen (keepsTracked_createAudio obs uuid)
    intro s h
    have hEncoder : Tracked known
        { s with
          audioEncoder := s.create obs.audioEncoderCreated
          nextHandle := s.nextHandle + 1 } := h.congr rfl rfl (Nat.le_succ _) rfl
    exact Ends.answer (fun _ => hEncoder) fun _ => hEncoder
  exact Keeps.whenever (keepsTracked_abort (Triple.choose audioSourceUuid hCreate))

/-- The service comes before the output, which is still missing then. -/
theorem triple_createStreamingOutput_tracked (obs : Obs) :
    Triple (fun s => Tracked known s ∧ s.streamingOutput = none) (createStreamingOutput obs)
      (Tracked known) (Tracked known) := by
  apply Triple.andThen (Q := fun s => Tracked known s ∧ s.streamingOutput = none)
  · rintro s ⟨h, hNone⟩
    have hService : Tracked known
        { s with service := s.create obs.serviceCreated, nextHandle := s.nextHandle + 1 } :=
      h.congr rfl rfl (Nat.le_succ _) rfl
    exact Ends.answer (fun _ => ⟨hService, hNone⟩) fun _ => hService
  · rintro s ⟨h, hNone⟩
    have hOutput := h.createStreaming hNone obs.streamingOutputCreated
    exact Ends.answer (fun _ => hOutput) fun _ => hOutput

theorem keepsTracked_ensureStreamingOutput (obs : Obs) (streaming : Bool) :
    Keeps (Tracked known) (ensureStreamingOutput obs streaming) := by
  apply Triple.whenever
  · apply Triple.handle (S := Tracked known)
    · refine (triple_createStreamingOutput_tracked obs).pre fun s h => ⟨h.1, ?_⟩
      exact Option.isNone_iff_eq_none.mp (Bool.and_eq_true_iff.mp h.2).1
    · exact Triple.step fun _ h => h.setStatus .error
  · exact fun _ h _ => h

theorem keepsTracked_ensureRecordingOutput (obs : Obs) (recording : Bool) :
    Keeps (Tracked known) (ensureRecordingOutput obs recording) := by
  apply Triple.whenever
  · apply Triple.handle (S := Tracked known)
    · rintro s ⟨h, hMissing⟩
      have hNone := Option.isNone_iff_eq_none.mp (Bool.and_eq_true_iff.mp hMissing).1
      have hOutput := h.createRecording hNone obs.recordingOutputCreated
      exact Ends.answer (fun _ => hOutput) fun _ => hOutput
    · exact Triple.step fun _ h => h.setRecordingStatus .error
  · exact fun _ h _ => h

theorem keepsTracked_buildPipeline (obs : Obs) (uuid : String)
    (reconstructPipeline streaming recording : Bool) :
    Keeps (Tracked known) (buildPipeline obs uuid reconstructPipeline streaming recording) := by
  have hFailed : ∀ s : State, Tracked known s → Tracked known (setStatus .error s) :=
    fun _ h => h.setStatus .error
  apply Triple.andThen (Keeps.whenever (keepsTracked_reconstruct obs uuid))
  apply Triple.andThen (Keeps.whenever (Triple.step fun _ h => h.setStatus .standBy))
  apply Triple.andThen (Keeps.require fun _ h => h)
  apply Triple.andThen (Keeps.require hFailed)
  apply Triple.andThen (Keeps.require hFailed)
  apply Triple.andThen (keepsTracked_ensureVideoEncoder obs)
  apply Triple.andThen (keepsTracked_ensureAudioEncoder obs)
  apply Triple.andThen (keepsTracked_ensureStreamingOutput obs streaming)
  apply Triple.andThen (keepsTracked_ensureRecordingOutput obs recording)
  apply Triple.andThen (Keeps.require fun _ h => h)
  apply Keeps.whenever (Triple.step fun s h => ?_)
  have hRecording : Tracked known (activateRecording s) := by
    unfold activateRecording
    split
    · exact h.setRecordingStatus .activating
    · exact h
  unfold activateStreaming
  split
  · exact (hRecording.saveTimestamp obs).setStatus .activating
  · exact hRecording

theorem Tracked.start (h : Tracked known s) (obs : Obs) : Tracked known (start obs s) := by
  refine Tracked.call ?_ .syncUplinkStatus (.of_unused rfl)
  unfold startPipeline
  split
  · exact h.destroyPipeline ..
  · exact Keeps.body (keepsTracked_buildPipeline obs s.getSourceUuid _ _ _)
      (h.congr rfl rfl le_rfl rfl)

theorem keepsTracked_monitorOutput (obs : Obs) (alive : Bool) :
    Keeps (Tracked known) (monitorOutput obs alive) := by
  have hStop : ∀ s : State, Tracked known s → Tracked known (stop s) := fun _ h => h.stop
  apply Triple.andThen (Keeps.require hStop)
  apply Triple.andThen (Keeps.require fun s h => h.start obs)
  apply Triple.andThen (Q := Tracked known)
  · intro s h
    unfold changeSettings
    split
    · have hAsked : Tracked known (s.call (.outputReconnecting s.streamingOutput)) :=
        h.call (.outputReconnecting _) ⟨fun _ hUses => .inl hUses, rfl⟩
      simp only
      split
      · exact hAsked
      · exact hAsked.setStatus .changing
    · exact h
  apply Triple.andThen (Keeps.whenever (Triple.step fun s h => h.restartRecording obs))
  apply Triple.andThen (Keeps.require fun s h => h.restartStreaming obs)
  apply Triple.andThen (Keeps.whenever (Triple.step fun s h => h.setStatus .active))
  exact Keeps.require hStop

theorem Tracked.apply (h : Tracked known s) (e : Event) : Tracked known (apply s e) := by
  refine apply_keeps h (fun obs => ?_) h.start h.stop h.startStreaming h.startRecording
    (fun _ _ => h.congr rfl rfl le_rfl rfl) e
  exact onMonitoringTimerTimeout_keeps h (h.start obs) (h.startStreaming obs)
    (fun _ ht => ht.startRecording obs) fun _ => (keepsTracked_monitorOutput obs _).body h

theorem Tracked.step (h : Tracked known s) {e : Event} (hStep : step s e = some t) :
    Tracked known t := Option.some.inj hStep ▸ h.apply e

theorem tracked_of_reachable {guard : State → Event → Prop}
    (h : Reachable step guard Initial s) : Tracked (fun _ => False) s :=
  h.invariant (fun _ => tracked_initial) fun _ _ _ ih _ hStep => ih.step hStep

theorem count_outputRelease (calls : List Call) (output : Handle) :
    calls.count (.outputRelease output) = calls.countP fun c => c.releases = some output := by
  refine List.countP_congr fun c _ => ?_
  rw [beq_iff_eq, decide_eq_true_iff]
  exact Call.releases_eq_some.symm

/-- Along every run no call is made on a released output, the two outputs are different
objects, and an output that was held once is held still or has been released exactly once. -/
theorem outputs_released_once {guard guard' : State → Event → Prop}
    (h : Reachable step guard Initial s) (hRun : Reachable step guard' (· = s) t) :
    ObjectLog.Disciplined Call.uses Call.releases t.calls ∧
      (∀ output, t.streamingOutput = some output → t.recordingOutput ≠ some output) ∧
      ∀ output, s.Holds output →
        t.Holds output ∧ t.calls.count (.outputRelease output) = 0 ∨
          ¬ t.Holds output ∧ t.calls.count (.outputRelease output) = 1 := by
  have hTracked : Tracked (fun output => False ∨ s.Holds output) t :=
    hRun.invariant (fun _ hSame => hSame ▸ (tracked_of_reachable h).learn)
      fun _ _ _ ih _ hStep => ih.step hStep
  refine ⟨hTracked.log.disciplined, hTracked.distinct, fun output hHeld => ?_⟩
  rcases Classical.em (t.Holds output) with hHolds | hReleased
  · refine .inl ⟨hHolds, List.count_eq_zero.mpr fun hRelease => ?_⟩
    exact (hTracked.log.unreleased output hHolds).2 _ hRelease rfl
  · refine .inr ⟨hReleased, Nat.le_antisymm ?_ ?_⟩
    · rw [count_outputRelease]
      exact hTracked.log.disciplined.countP_le_one Call.uses_of_releases output
    · rcases hTracked.accounted output (.inr hHeld) with hHolds | hRelease
      · exact absurd hHolds hReleased
      · exact List.count_pos_iff.mpr hRelease

/-- The first tick creates outputs. -/
def builtOutput : State := [Event.monitoringTimerTimeout (healthyObs 10000)].foldl apply mainOutput

/-- The start after a change of the settings replaces them. -/
def rebuiltOutput : State :=
  [Event.setVisible true, .start (healthyObs 11000)].foldl apply builtOutput

theorem outputs_released_once_rebuiltOutput :
    builtOutput.Holds 5 ∧ ¬ rebuiltOutput.Holds 5 ∧
      rebuiltOutput.calls.count (.outputRelease 5) = 1 := by
  have hBuilt : Reachable step anyStep Initial builtOutput := reachable_foldl initial_mainOutput _
  have hRun : Reachable step anyStep (· = builtOutput) rebuiltOutput :=
    reachable_of_run _ (.start rfl) (run_total apply builtOutput _)
  have hHeld : builtOutput.Holds 5 := .inl (by decide +kernel)
  have hReplaced : ¬ rebuiltOutput.Holds 5 := by
    rintro (hStreaming | hRecording)
    · revert hStreaming
      decide +kernel
    · revert hRecording
      decide +kernel
  rcases (outputs_released_once hBuilt hRun).2.2 5 hHeld with hStill | hReleased
  · exact absurd hStill.1 hReplaced
  · exact ⟨hHeld, hReleased⟩

end SrcLink.EgressLinkOutput
