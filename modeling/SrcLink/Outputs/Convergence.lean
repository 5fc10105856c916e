import SrcLink.Library.Ranking
import SrcLink.Outputs.OutputAlignment
import SrcLink.Outputs.StartPostcondition

/-! # Where the monitor takes an output

Whatever has happened to an output, the monitoring ticks alone bring it to what the
settings and the uplink ask for, as soon as OBS does what it is asked to do. Four ticks
that come long enough after the last attempt are enough, and later ticks change nothing.
-/

namespace SrcLink.EgressLinkOutput

open Json Schema EarlyExit StepSystem Ranking

set_option autoImplicit false

/-- Documents of one connection differ only if the later one has a larger revision: what a notice
of the uplink would not replace is the connection of that uplink. -/
def Revised (uplink : QJsonObject) (s : State) : Prop :=
  let incoming := connectionOf s.name uplink
  StageConnection.getId s.connection = StageConnection.getId incoming →
    StageConnection.getRevision incoming ≤ StageConnection.getRevision s.connection →
      s.connection = incoming

/-- The output has taken over its connection of the uplink. -/
def Current (uplink : QJsonObject) (s : State) : Prop := s.connection = connectionOf s.name uplink

theorem current_onUplinkReady {uplink : QJsonObject} {s : State} (h : Revised uplink s) :
    Current uplink (onUplinkReady uplink s) := by
  unfold onUplinkReady
  simp only
  split
  · rfl
  · next hSame =>
    obtain ⟨hId, hRevision⟩ := not_or.mp hSame
    exact h (not_not.mp hId) (not_lt.mp hRevision)

theorem Current.onUplinkReady {uplink : QJsonObject} {s : State} (h : Current uplink s) :
    onUplinkReady uplink s = s := by
  have hSame : s.connection = connectionOf s.name uplink := h
  unfold EgressLinkOutput.onUplinkReady
  rw [← hSame]
  exact if_neg (not_or.mpr ⟨not_not.mpr rfl, lt_irrefl _⟩)

/-- OBS, the frontend and the uplink let the output do what its settings ask for. -/
structure HealthyTick (uplink : QJsonObject) (s : State) (obs : Obs) : Prop where
  uplink : obs.uplink = uplink
  interlock : interlockStarts obs = true
  calls : Enabled s → CallsSucceed obs s.getSourceUuid
  protocol : KnownProtocol obs s
  streaming : obs.streamingStarted = true ∧ obs.streamingActive = true ∧
    obs.streamingReconnecting = false
  source : s.source.all obs.isSourceAvailable = true

/-- The ticks and the notices of one uplink. -/
def Healthy (uplink : QJsonObject) (s : State) : Event → Prop
  | .monitoringTimerTimeout obs => HealthyTick uplink s obs
  | .uplinkReady u => u = uplink
  | _ => False

/-- A tick that comes after the retry timeout. -/
def due (s : State) : Event → Bool
  | .monitoringTimerTimeout obs => sinceAttempt obs s > outputRetryTimeoutMsecs
  | _ => false

theorem interlockStops_of_starts {obs : Obs} (h : interlockStarts obs = true) :
    interlockStops obs = false := by
  unfold interlockStarts at h
  unfold interlockStops
  grind

theorem started_start {obs : Obs} {s : State} (hInv : Inv s) (hProvided : Provided s)
    (hEnabled : Enabled s) (hCalls : CallsSucceed obs s.getSourceUuid)
    (hProtocol : KnownProtocol obs s) (hStatus : s.status ≠ .active) :
    Started obs s (start obs s) := by
  have hStarted : Started obs s (startPipeline obs s) := by
    cases hRebuilds : rebuilds obs s with
    | true => exact started_of_rebuilt hCalls hProtocol (startPipeline_rebuilt hEnabled hRebuilds)
    | false =>
      have hKept := rebuilds_eq_false_iff.mp hRebuilds
      rw [startPipeline_of_kept hKept hInv hProvided hEnabled]
      exact started_of_kept hInv hCalls hProtocol hKept hStatus
  exact { hStarted with }

/-- What a healthy tick does. -/
inductive Ticked (obs : Obs) (s t : State) : Prop
  | idle (hEarly : ¬ sinceAttempt obs s > outputRetryTimeoutMsecs) (hSame : t = s)
  | started (hStatus : s.status ∈ startStatuses)
      (hPending : s.status = .changing ∨ s.recordingStatus ≠ .activating) (hStart : t = start obs s)
  | launched (hStatus : s.status ≠ .changing)
      (hPending : s.status = .activating ∨ s.recordingStatus = .activating)
      (hNext : t.status = if s.status = .activating then .active else s.status)
      (hRecording : t.recordingStatus ≠ .activating)
      (hRevision : t.activeSettingsRev = s.activeSettingsRev)
  | changing (hStatus : s.status = .active ∨ s.status = .reconnecting)
      (hStale : s.activeSettingsRev ≠ s.storedSettingsRev) (hNext : t.status = .changing)
  | watched (hStatus : s.status = .active ∨ s.status = .reconnecting)
      (hFresh : s.activeSettingsRev = s.storedSettingsRev) (hNext : t.status = .active)
      (hRecording : t.recordingStatus ≠ .activating)
      (hRevision : t.activeSettingsRev = s.activeSettingsRev)

section Tick

variable {uplink : QJsonObject} {obs : Obs} {s : State}

theorem startStreaming_of_held (hHeld : s.streamingOutput ≠ none)
    (hStarted : obs.streamingStarted = true) :
    (startStreaming obs s).status = .active ∧
      (startStreaming obs s).recordingStatus = s.recordingStatus ∧
      (startStreaming obs s).recordingOutput = s.recordingOutput ∧
      (startStreaming obs s).activeSettingsRev = s.activeSettingsRev := by
  have hSome := Option.isSome_iff_ne_none.mpr hHeld
  simp [startStreaming, hSome, hStarted, incShowing_eq, setStatus_eq, State.call, saveTimestamp]

theorem startRecording_of_held (hHeld : s.recordingOutput ≠ none) (obs : Obs) :
    (startRecording obs s).status = s.status ∧
      (startRecording obs s).recordingStatus ≠ .activating ∧
      (startRecording obs s).activeSettingsRev = s.activeSettingsRev := by
  have hSome := Option.isSome_iff_ne_none.mpr hHeld
  cases hStarted : obs.recordingStarted <;>
    simp [startRecording, hSome, hStarted, incShowing_eq, setRecordingStatus, State.call]

theorem early_of_early {obs : Obs} {s : State}
    (h : ¬ sinceAttempt obs s > outputStartDelayMsecs) :
    ¬ sinceAttempt obs s > outputRetryTimeoutMsecs := by
  have hDelays : outputStartDelayMsecs < outputRetryTimeoutMsecs := by decide
  exact fun hDue => h (UInt64.lt_trans hDelays hDue)

/-- The delayed start of the outputs that wait for it. -/
theorem ticked_of_pending (hInv : Inv s) (h : HealthyTick uplink s obs)
    (hStatus : s.status ≠ .changing)
    (hPending : s.status = .activating ∨ s.recordingStatus = .activating) :
    Ticked obs s (onMonitoringTimerTimeout obs s) := by
  have hStreaming : ∀ t, (if s.status = .activating then startStreaming obs s else s) = t →
      t.status = (if s.status = .activating then .active else s.status) ∧
        t.recordingStatus = s.recordingStatus ∧ t.recordingOutput = s.recordingOutput ∧
        t.activeSettingsRev = s.activeSettingsRev := by
    rintro t rfl
    by_cases hActivating : s.status = .activating
    · simp only [hActivating, if_true]
      exact startStreaming_of_held (hInv.streaming (by simp [hActivating])) h.streaming.1
    · simp only [hActivating, if_false, and_self]
  unfold onMonitoringTimerTimeout
  simp only
  rw [if_neg hStatus, if_pos hPending]
  split
  · generalize hNext : (if s.status = .activating then startStreaming obs s else s) = t
    obtain ⟨hStatus', hRecording, hOutput, hRevision⟩ := hStreaming t hNext
    by_cases hActivating : s.recordingStatus = .activating
    · have hHeld : t.recordingOutput ≠ none := hOutput ▸ hInv.recording (by simp [hActivating])
      obtain ⟨hKept, hLeft, hSame⟩ := startRecording_of_held hHeld obs
      rw [if_pos hActivating]
      exact .launched hStatus hPending (hKept.trans hStatus') hLeft (hSame.trans hRevision)
    · rw [if_neg hActivating]
      exact .launched hStatus hPending hStatus' (hRecording ▸ hActivating) hRevision
  · next hEarly => exact .idle (early_of_early hEarly) rfl

/-- Of an output that streams, what the checks on it leave alone. -/
structure StillStreaming (s t : State) : Prop where
  status : t.status = .active ∨ t.status = .reconnecting
  recordingStatus : t.recordingStatus = s.recordingStatus
  activeSettingsRev : t.activeSettingsRev = s.activeSettingsRev
  source : t.source = s.source

/-- An output that streams with the present settings stays, or becomes, active. -/
theorem watched_monitorOutput (h : HealthyTick uplink s obs)
    (hStatus : s.status = .active ∨ s.status = .reconnecting)
    (hFresh : s.activeSettingsRev = s.storedSettingsRev) :
    ((monitorOutput obs true).body s).status = .active ∧
      StillStreaming s ((monitorOutput obs true).body s) := by
  apply Triple.body (P := (· = s)) (Q := fun t => t.status = .active ∧ StillStreaming s t) _
    (fun _ => id) s rfl
  apply Triple.andThen (Q := (· = s))
  · apply Triple.require (fun _ ht _ => ht)
    intro t _ hStops
    simp [interlockStops_of_starts h.interlock] at hStops
  apply Triple.andThen (Q := (· = s))
  · exact Triple.require (fun _ ht _ => ht) fun _ _ hAlive => by simp at hAlive
  apply Triple.andThen (Q := StillStreaming s)
  · rintro t rfl
    unfold changeSettings
    rw [if_neg (by rw [hFresh]; exact lt_irrefl _)]
    exact ⟨hStatus, rfl, rfl, rfl⟩
  apply Triple.andThen (Q := StillStreaming s)
  · refine Triple.whenever (Triple.step ?_) fun _ ht _ => ht
    rintro t ⟨ht, -⟩
    exact ⟨ht.status, ht.recordingStatus, ht.activeSettingsRev, ht.source⟩
  apply Triple.andThen (Q := StillStreaming s)
  · exact Triple.require (fun _ ht _ => ht) fun _ _ hAlive => by simp at hAlive
  apply Triple.andThen (Q := fun t => t.status = .active ∧ StillStreaming s t)
  · apply Triple.whenever
    · apply Triple.step
      rintro t ⟨ht, -⟩
      rw [setStatus_eq]
      exact ⟨rfl, .inl rfl, ht.recordingStatus, ht.activeSettingsRev, ht.source⟩
    · intro t ht hActive
      refine ⟨ht.status.resolve_right fun hReconnecting => ?_, ht⟩
      simp [hReconnecting] at hActive
  · apply Triple.require (fun _ ht _ => ht)
    intro t ht hGone
    rw [ht.2.source, h.source] at hGone
    cases hGone

/-- The checks on an output that streams. -/
theorem ticked_of_streaming (hInv : Inv s) (hProvided : Provided s) (h : HealthyTick uplink s obs)
    (hStatus : s.status = .active ∨ s.status = .reconnecting)
    (hPending : s.recordingStatus ≠ .activating) :
    Ticked obs s ((monitorOutput obs (streamingAlive obs s)).body s) := by
  have hHeld : s.streamingOutput ≠ none := hInv.streaming (by rcases hStatus with h | h <;> simp [h])
  have hAlive : streamingAlive obs s = true := by
    simp [streamingAlive, Option.isSome_iff_ne_none.mpr hHeld, h.streaming.2.1]
  have hStops := interlockStops_of_starts h.interlock
  rw [hAlive]
  by_cases hFresh : s.activeSettingsRev = s.storedSettingsRev
  · obtain ⟨hNext, hStill⟩ := watched_monitorOutput h hStatus hFresh
    exact .watched hStatus hFresh hNext (hStill.recordingStatus ▸ hPending)
      hStill.activeSettingsRev
  · have hStale : s.activeSettingsRev < s.storedSettingsRev :=
      lt_of_le_of_ne hProvided.revision hFresh
    refine .changing hStatus hFresh ?_
    simp [Block.body, monitorOutput, Block.andThen, checkInterlock, Block.require, hStops,
      checkStandBy, changeSettings, hStale, h.streaming.2.2, setStatus_eq]

theorem ticked (hInv : Inv s) (hProvided : Provided s) (h : HealthyTick uplink s obs) :
    Ticked obs s (onMonitoringTimerTimeout obs s) := by
  by_cases hChanging : s.status = .changing
  · refine .started (by simp [hChanging, startStatuses]) (.inl hChanging) ?_
    simp [onMonitoringTimerTimeout, hChanging]
  by_cases hPending : s.status = .activating ∨ s.recordingStatus = .activating
  · exact ticked_of_pending hInv h hChanging hPending
  obtain ⟨hStatus, hRecording⟩ := not_or.mp hPending
  unfold onMonitoringTimerTimeout
  simp only
  rw [if_neg hChanging, if_neg hPending]
  cases hInactive : streamingInactiveStatus s with
  | true =>
    rw [if_pos rfl, if_pos h.interlock]
    refine .started ?_ (.inr hRecording) rfl
    cases hCase : s.status <;> simp_all [streamingInactiveStatus, startStatuses]
  | false =>
    rw [if_neg (by decide)]
    split
    · by_cases hStandBy : s.status = .standBy
      · refine .started (by simp [hStandBy, startStatuses]) (.inr hRecording) ?_
        have hAlive : streamingAlive obs s = false := by
          simp [streamingAlive, hInv.standBy hStandBy]
        simp [Block.body, monitorOutput, Block.andThen, checkInterlock, Block.require,
          interlockStops_of_starts h.interlock, checkStandBy, hAlive, hStandBy]
      · apply ticked_of_streaming hInv hProvided h _ hRecording
        cases hCase : s.status <;> simp_all [streamingInactiveStatus]
    · next hEarly => exact .idle hEarly rfl

end Tick

instance (s : State) : Decidable (Enabled s) :=
  decidable_of_iff (s.getSourceUuid ≠ "" ∧ s.getVisible = true)
    ⟨fun h => ⟨h.1, h.2⟩, fun h => ⟨h.source, h.visible⟩⟩

def State.fresh (s : State) : Bool := s.activeSettingsRev = s.storedSettingsRev

/-- A recording that is to be started takes a tick of its own. -/
def State.pending (s : State) : Nat := if s.recordingStatus = .activating then 1 else 0

/-- The due ticks that the output needs at most. -/
def rank (uplink : QJsonObject) (s : State) : Nat :=
  match s.status with
  | .inactive | .changing => 2
  | .disabled => if Enabled s then 2 else 0
  | .error => 2 + s.pending
  | .standBy => if s.fresh && (connectionOf s.name uplink).isEmpty then 0 else 2 + s.pending
  | .activating => if s.fresh then 1 else 4
  | .active => if s.fresh then 0 else 3 + s.pending
  | .reconnecting => (if s.fresh then 1 else 3) + s.pending

theorem rank_le (uplink : QJsonObject) (s : State) : rank uplink s ≤ 4 := by
  have hPending : s.pending ≤ 1 := by
    unfold State.pending
    split <;> decide
  unfold rank
  split <;> (try split) <;> omega

section Rank

variable {uplink : QJsonObject} {obs : Obs} {s t : State}

theorem pending_eq_zero (h : s.recordingStatus ≠ .activating) : s.pending = 0 := if_neg h

theorem pending_eq_one (h : s.recordingStatus = .activating) : s.pending = 1 := if_pos h

/-- An output at rest has no recording to start. -/
theorem pending_of_idle (hInv : Inv s) (hProvided : Provided s)
    (hIdle : s.status ∈ [.inactive, .disabled]) : s.recordingStatus ≠ .activating := by
  intro hPending
  exact hInv.recording (by simp [hPending]) (hProvided.idle hIdle).2

theorem connectionOf_of_unconnected (h : uplinkConnection obs s = none) :
    connectionOf s.name obs.uplink = [] := by
  have hRetrieved := retrieveConnection_connection obs s
  rw [h] at hRetrieved
  exact hRetrieved

theorem unconnected_of_connectionOf (hProtocol : KnownProtocol obs s)
    (h : connectionOf s.name obs.uplink = []) : uplinkConnection obs s = none := by
  have hStreams := hProtocol.streams_eq
  rw [streams, h] at hStreams
  exact Option.not_isSome_iff_eq_none.mp (by simp [← hStreams])

/-- A start leaves one tick at most, and none where none was left. -/
theorem rank_start (hInv : Inv s) (hProvided : Provided s) (h : HealthyTick uplink s obs)
    (hStatus : s.status ∈ startStatuses) :
    rank uplink (start obs s) ≤ 1 ∧ (rank uplink s = 0 → rank uplink (start obs s) = 0) := by
  have hIdentity := identity_start obs s
  have hName : (start obs s).name = s.name := congrArg Prod.fst hIdentity
  have hSettings : (start obs s).settings = s.settings := congrArg (·.2.1) hIdentity
  by_cases hEnabled : Enabled s
  · have hActive : s.status ≠ .active := fun hActive => by simp [hActive, startStatuses] at hStatus
    have hStarted :=
      started_start hInv hProvided hEnabled (h.calls hEnabled) h.protocol hActive
    have hFresh : (start obs s).fresh = true := decide_eq_true hStarted.revision
    cases hConnection : uplinkConnection obs s with
    | none =>
      have hNone := connectionOf_of_unconnected hConnection
      rw [h.uplink] at hNone
      have hZero : rank uplink (start obs s) = 0 := by
        simp [rank, (hStarted.unconnected hConnection).1, hFresh, hName, hNone]
      exact ⟨by simp [hZero], fun _ => hZero⟩
    | some c =>
      have hConnected : uplinkConnection obs s ≠ none := by simp [hConnection]
      have hOne : rank uplink (start obs s) = 1 := by
        simp [rank, (hStarted.connected hConnected).1, hFresh]
      refine ⟨hOne.le, fun hZero => ?_⟩
      -- an enabled output that needs no tick before a start is in stand-by
      cases hCase : s.status <;> simp [startStatuses, hCase, rank, hEnabled] at hStatus hZero
      have hNone := unconnected_of_connectionOf h.protocol (h.uplink ▸ hZero.2)
      exact absurd hNone hConnected
  · have hDisabled : (start obs s).status = .disabled := by
      rw [start, startPipeline_of_disabled hEnabled, destroyPipeline_eq]
      rfl
    have hStill : ¬ Enabled (start obs s) := fun hNow => hEnabled ((enabled_congr hSettings).mp hNow)
    have hZero : rank uplink (start obs s) = 0 := by simp [rank, hDisabled, hStill]
    exact ⟨by simp [hZero], fun _ => hZero⟩

theorem two_le_rank_or (uplink : QJsonObject) (hStatus : s.status ∈ startStatuses) :
    rank uplink s = 0 ∨ 2 ≤ rank uplink s := by
  cases hCase : s.status <;> simp only [rank, hCase]
  case inactive | changing | error => exact .inr (by omega)
  case disabled | standBy => split <;> omega
  case activating | active | reconnecting => simp [startStatuses, hCase] at hStatus

/-- A tick does not raise the rank, and a due one lowers it. -/
theorem rank_ticked (hInv : Inv s) (hProvided : Provided s) (h : HealthyTick uplink s obs)
    (hIdentity : t.identity = s.identity) (hTick : Ticked obs s t) :
    rank uplink t ≤ rank uplink s ∧
      (sinceAttempt obs s > outputRetryTimeoutMsecs → rank uplink s ≠ 0 →
        rank uplink t < rank uplink s) := by
  have hName : t.name = s.name := congrArg Prod.fst hIdentity
  have hStored : t.storedSettingsRev = s.storedSettingsRev := congrArg (·.2.2) hIdentity
  have hSameFresh : t.activeSettingsRev = s.activeSettingsRev → t.fresh = s.fresh := by
    intro hRevision
    rw [State.fresh, State.fresh, hRevision, hStored]
  cases hTick with
  | idle hEarly hSame => exact ⟨by rw [hSame], fun hDue => absurd hDue hEarly⟩
  | started hStatus hPending hStart =>
    subst hStart
    obtain ⟨hOne, hZero⟩ := rank_start hInv hProvided h hStatus
    rcases two_le_rank_or uplink hStatus with hDone | hMore
    · exact ⟨by rw [hZero hDone, hDone], fun _ hLeft => absurd hDone hLeft⟩
    · exact ⟨by omega, fun _ _ => by omega⟩
  | launched hStatus hPending hNext hRecording hRevision =>
    have hFresh := hSameFresh hRevision
    have hDone := pending_eq_zero hRecording
    by_cases hActivating : s.status = .activating
    · rw [if_pos hActivating] at hNext
      simp only [rank, hNext, hActivating, hFresh, hDone]
      cases s.fresh <;> simp
    · rw [if_neg hActivating] at hNext
      have hWaiting := pending_eq_one (hPending.resolve_left hActivating)
      -- the recording is started and the status stays
      cases hCase : s.status <;> simp only [rank, hNext, hCase, hName, hFresh, hDone, hWaiting]
      case inactive | disabled =>
        exact absurd (hPending.resolve_left hActivating)
          (pending_of_idle hInv hProvided (by simp [hCase]))
      case changing => exact absurd hCase hStatus
      case activating => exact absurd hCase hActivating
      case error => omega
      case standBy | active => split <;> simp
      case reconnecting => omega
  | changing hStatus hStale hNext =>
    have hOld : s.fresh = false := decide_eq_false hStale
    rcases hStatus with hStatus | hStatus <;>
      simp only [rank, hNext, hStatus, hOld, Bool.false_eq_true, if_false] <;>
      exact ⟨by omega, fun _ _ => by omega⟩
  | watched hStatus hFresh hNext hRecording hRevision =>
    have hNew : s.fresh = true := decide_eq_true hFresh
    have hStill := (hSameFresh hRevision).trans hNew
    rcases hStatus with hStatus | hStatus <;>
      simp only [rank, hNext, hStatus, hNew, hStill, if_true] <;>
      exact ⟨by omega, fun _ _ => by omega⟩

end Rank

/-- The output does what its settings and its uplink ask for. -/
structure Converged (uplink : QJsonObject) (s : State) : Prop where
  disabled : ¬ Enabled s →
    s.status = .disabled ∧ s.streamingOutput = none ∧ s.recordingOutput = none
  built : Enabled s →
    s.activeSettingsRev = s.storedSettingsRev ∧ s.activeSourceUuid = s.getSourceUuid
  unconnected : Enabled s → connectionOf s.name uplink = [] →
    s.status = .standBy ∧ s.streamingOutput = none
  connected : Enabled s → connectionOf s.name uplink ≠ [] →
    s.status = .active ∧ s.streamingOutput ≠ none ∧ s.service ≠ none ∧ Encoded s ∧
      s.connection = connectionOf s.name uplink

section Runs

variable {uplink : QJsonObject} {s : State}

theorem converged_of_rank_eq_zero (hInv : Inv s) (hProvided : Provided s) (hAligned : Aligned s)
    (hCurrent : Current uplink s) (hRank : rank uplink s = 0) : Converged uplink s := by
  -- a fresh pipeline that holds something was built from the present settings
  have hBuilt : s.fresh = true → (s.status = .standBy ∨ s.streamingOutput ≠ none) →
      Enabled s ∧ s.activeSettingsRev = s.storedSettingsRev ∧
        s.activeSourceUuid = s.getSourceUuid := by
    intro hFresh hHeld
    have hRevision := of_decide_eq_true hFresh
    obtain ⟨hSource, hEnabled⟩ := hAligned.source hRevision (hAligned.acquired hHeld)
    exact ⟨hEnabled, hRevision, hSource⟩
  cases hStatus : s.status <;> simp only [rank, hStatus] at hRank
  case disabled =>
    have hDisabled : ¬ Enabled s := fun hEnabled => by simp [hEnabled] at hRank
    obtain ⟨hStreaming, hRecording⟩ := hProvided.idle (by simp [hStatus])
    exact ⟨fun _ => ⟨hStatus, hStreaming, hRecording⟩, fun hEnabled => absurd hEnabled hDisabled,
      fun hEnabled => absurd hEnabled hDisabled, fun hEnabled => absurd hEnabled hDisabled⟩
  case standBy =>
    obtain ⟨hFresh, hNone⟩ : s.fresh = true ∧ connectionOf s.name uplink = [] := by
      simpa using hRank
    obtain ⟨hEnabled, hRevision, hSource⟩ := hBuilt hFresh (.inl hStatus)
    exact ⟨fun hDisabled => absurd hEnabled hDisabled, fun _ => ⟨hRevision, hSource⟩,
      fun _ _ => ⟨hStatus, hInv.standBy hStatus⟩,
      fun _ hSome => absurd hNone hSome⟩
  case active =>
    have hFresh : s.fresh = true := by
      by_contra hNot
      simp [hNot] at hRank
    have hHeld : s.streamingOutput ≠ none := hInv.streaming (by simp [hStatus])
    obtain ⟨hService, hEncoded⟩ := hInv.streamingParts hHeld
    obtain ⟨hEnabled, hRevision, hSource⟩ := hBuilt hFresh (.inr hHeld)
    have hConnected := hAligned.connected hRevision hHeld
    exact ⟨fun hDisabled => absurd hEnabled hDisabled, fun _ => ⟨hRevision, hSource⟩,
      fun _ hNone => absurd (hCurrent.trans hNone) hConnected,
      fun _ _ => ⟨hStatus, hHeld, hService, hEncoded, hCurrent⟩⟩
  case activating | reconnecting => split at hRank <;> omega
  case inactive | changing | error => omega

/-- What a healthy run keeps, and what it needs to go on. -/
structure Informed (uplink : QJsonObject) (s : State) : Prop where
  reachable : Reachable step anyStep Initial s
  current : Current uplink s

theorem Informed.onMonitoringTimerTimeout {obs : Obs} (h : Informed uplink s)
    (hHealthy : HealthyTick uplink s obs) :
    Informed uplink (onMonitoringTimerTimeout obs s) where
  reachable := h.reachable.next (e := .monitoringTimerTimeout obs) trivial rfl
  current := by
    obtain ⟨hInv, hProvided, -⟩ := aligned_of_reachable h.reachable
    have hName : (EgressLinkOutput.onMonitoringTimerTimeout obs s).name = s.name :=
      congrArg Prod.fst (identity_onMonitoringTimerTimeout obs s)
    have hRetrieves : Retrieves obs s _ := retrieves_onMonitoringTimerTimeout hInv hProvided
    rcases hRetrieves with hSame | hNew
    · rw [Current, hSame, hName]
      exact h.current
    · rw [hHealthy.uplink] at hNew
      rw [Current, hNew, hName]

theorem Informed.rank_tick {obs : Obs} (h : Informed uplink s)
    (hHealthy : HealthyTick uplink s obs) :
    rank uplink (EgressLinkOutput.onMonitoringTimerTimeout obs s) ≤ rank uplink s ∧
      (sinceAttempt obs s > outputRetryTimeoutMsecs → rank uplink s ≠ 0 →
        rank uplink (EgressLinkOutput.onMonitoringTimerTimeout obs s) < rank uplink s) := by
  obtain ⟨hInv, hProvided, -⟩ := aligned_of_reachable h.reachable
  exact rank_ticked hInv hProvided hHealthy (identity_onMonitoringTimerTimeout obs s)
    (ticked hInv hProvided hHealthy)

theorem ranks_healthy (uplink : QJsonObject) :
    Ranks apply (Healthy uplink) due (Informed uplink) (rank uplink) := by
  constructor
  · intro s e h hHealthy
    cases e with
    | monitoringTimerTimeout obs => exact h.onMonitoringTimerTimeout hHealthy
    | uplinkReady u =>
      obtain rfl : u = uplink := hHealthy
      have hSame : apply s (.uplinkReady u) = s := h.current.onUplinkReady
      rwa [hSame]
    | _ => exact hHealthy.elim
  · intro s e h hHealthy
    cases e with
    | monitoringTimerTimeout obs => exact (h.rank_tick hHealthy).1
    | uplinkReady u =>
      obtain rfl : u = uplink := hHealthy
      exact (congrArg (rank u) h.current.onUplinkReady).le
    | _ => exact hHealthy.elim
  · intro s e h hHealthy hDue hLeft
    cases e with
    | monitoringTimerTimeout obs => exact (h.rank_tick hHealthy).2 (of_decide_eq_true hDue) hLeft
    | _ => cases hDue

/-- Once the output has seen the uplink, four due ticks in good health are enough. -/
theorem converged_of_healthy (hReachable : Reachable step anyStep Initial s)
    (hRevised : Revised uplink s) {es : List Event}
    (hHealthy : Guarded apply (Healthy uplink) (onUplinkReady uplink s) es)
    (hDue : 4 ≤ drives apply due (onUplinkReady uplink s) es) :
    Converged uplink (es.foldl apply (onUplinkReady uplink s)) := by
  have hRanks := ranks_healthy uplink
  have hInformed : Informed uplink (onUplinkReady uplink s) :=
    ⟨hReachable.next (e := .uplinkReady uplink) trivial rfl, current_onUplinkReady hRevised⟩
  obtain ⟨hReachable', hCurrent⟩ := hRanks.inv_foldl hInformed hHealthy
  obtain ⟨hInv, hProvided, hAligned⟩ := aligned_of_reachable hReachable'
  exact converged_of_rank_eq_zero hInv hProvided hAligned hCurrent
    (hRanks.rank_eq_zero hInformed hHealthy ((rank_le _ _).trans hDue))

end Runs

theorem healthyTick_healthyObs {s : State} (hName : s.name = "main") (now : UInt64) :
    HealthyTick mainUplink s (healthyObs now) where
  uplink := rfl
  interlock := rfl
  calls _ := callsSucceed_healthyObs _ _
  protocol := by
    intro c hConnection
    rw [uplinkConnection, hName] at hConnection
    obtain rfl := Option.some.inj (hConnection.symm.trans rfl)
    exact .inl (by decide)
  streaming := ⟨rfl, rfl, rfl⟩
  source := by cases s.source <;> rfl

/-- The settings are changed between the creation of the outputs and their delayed start. -/
def restlessOutput : State :=
  [.monitoringTimerTimeout (healthyObs 10000), .setVisible true].foldl apply mainOutput

theorem reachable_restlessOutput : Reachable step anyStep Initial restlessOutput :=
  reachable_of_run [.monitoringTimerTimeout (healthyObs 10000), .setVisible true]
    (.start initial_mainOutput) rfl

/-- The first tick has brought the connection of the uplink. -/
theorem revised_restlessOutput : Revised mainUplink restlessOutput := fun _ _ => rfl

def healthyTicks : List Event :=
  [.monitoringTimerTimeout (healthyObs 20000), .monitoringTimerTimeout (healthyObs 30000),
    .monitoringTimerTimeout (healthyObs 40000), .monitoringTimerTimeout (healthyObs 50000)]

theorem converged_of_healthy_restlessOutput :
    rank mainUplink (onUplinkReady mainUplink restlessOutput) = 4 ∧
      Converged mainUplink (healthyTicks.foldl apply (onUplinkReady mainUplink restlessOutput)) :=
  ⟨by decide +kernel, converged_of_healthy reachable_restlessOutput revised_restlessOutput
    ⟨healthyTick_healthyObs (by decide +kernel) _, healthyTick_healthyObs (by decide +kernel) _,
      healthyTick_healthyObs (by decide +kernel) _, healthyTick_healthyObs (by decide +kernel) _,
      trivial⟩ (by decide +kernel)⟩

end SrcLink.EgressLinkOutput
