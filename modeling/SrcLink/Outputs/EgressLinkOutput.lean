import SrcLink.Document.Schema
import SrcLink.Library.EarlyExit

/-! # An egress link output

`EgressLinkOutput` builds an OBS pipeline (source, encoders, service, outputs) for
one stage connection and is driven by a monitoring timer. OBS, the frontend, the
clock and the uplink document answer freely at every event; their answers are the
fields of `Obs`. The settings that OBS objects are created with, the statistics (a
module of their own) and the Qt signals take no part in any decision here and are
left out.
-/

namespace SrcLink.EgressLinkOutput

open Json Schema EarlyExit

set_option autoImplicit false

inductive EgressLinkOutputStatus where
  | inactive
  | standBy
  | activating
  | active
  | error
  | disabled
  | reconnecting
  | changing
  deriving DecidableEq, Repr

inductive RecordingOutputStatus where
  | inactive
  | activating
  | active
  | error
  | disabled
  deriving DecidableEq, Repr

/-- An object that OBS has created for this output. -/
abbrev Handle := Nat

/-- A source of the scene collection. -/
abbrev Source := Nat

inductive Call where
  | sourceIncShowing (source : Source)
  | sourceDecShowing (source : Source)
  | outputStart (output : Option Handle) (started : Bool)
  | outputStop (output : Handle)
  | outputForceStop (output : Option Handle)
  | outputReconnecting (output : Option Handle)
  /-- the last reference is dropped -/
  | outputRelease (output : Handle)
  | incrementActiveOutputs
  | decrementActiveOutputs
  | incrementStandByOutputs
  | decrementStandByOutputs
  | syncUplinkStatus
  /-- `destroyPipeline` is done -/
  | pipelineDestroyed
  deriving DecidableEq, Repr

/-- What the calls made during one event answer. -/
structure Obs where
  currentMSecsSinceEpoch : UInt64
  interlockType : String
  uplink : QJsonObject
  frontendStreamingActive : Bool
  frontendRecordingActive : Bool
  frontendVirtualcamActive : Bool
  sourceByUuid : String → Option Source
  isSourceAvailable : Source → Bool
  isSourceVisible : Source → Bool
  /-- output width and height -/
  videoInfo : Option (Int × Int)
  mainVideo : Bool
  viewCreated : Bool
  sourceWidth : Nat
  sourceHeight : Nat
  viewAdded : Bool
  mainAudio : Bool
  audioInfo : Bool
  silenceOpened : Bool
  sourceAudio : Bool
  videoEncoderCreated : Bool
  audioEncoderCreated : Bool
  serviceCreated : Bool
  streamingOutputCreated : Bool
  recordingOutputCreated : Bool
  streamingStarted : Bool
  recordingStarted : Bool
  streamingActive : Bool
  recordingActive : Bool
  streamingReconnecting : Bool

structure State where
  name : String
  settings : QJsonObject
  connection : QJsonObject
  service : Option Handle
  streamingOutput : Option Handle
  recordingOutput : Option Handle
  videoEncoder : Option Handle
  audioEncoder : Option Handle
  /-- none if the main output is used -/
  source : Option Source
  sourceView : Option Handle
  audioSilence : Option Handle
  audioSource : Option Handle
  status : EgressLinkOutputStatus
  recordingStatus : RecordingOutputStatus
  activeSourceUuid : String
  storedSettingsRev : Int
  activeSettingsRev : Int
  connectionAttemptingAt : UInt64
  width : Int
  height : Int
  nextHandle : Handle
  /-- newest first -/
  calls : List Call

def outputStartDelayMsecs : UInt64 := 1000

def outputRetryTimeoutMsecs : UInt64 := 3500

/-- After the constructor, which leaves `connectionAttemptingAt` unset; a stored
settings file counts as one revision. -/
structure Initial (s : State) : Prop where
  connection : s.connection = []
  handles : s.service = none ∧ s.streamingOutput = none ∧ s.recordingOutput = none ∧
    s.videoEncoder = none ∧ s.audioEncoder = none ∧ s.sourceView = none ∧
    s.audioSilence = none ∧ s.audioSource = none
  source : s.source = none
  status : s.status = .inactive
  recordingStatus : s.recordingStatus = .inactive
  activeSourceUuid : s.activeSourceUuid = ""
  storedSettingsRev : s.storedSettingsRev = 0 ∨ s.storedSettingsRev = 1
  activeSettingsRev : s.activeSettingsRev = 0
  calls : s.calls = []

namespace State

def call (s : State) (c : Call) : State := { s with calls := c :: s.calls }

def create (s : State) (created : Bool) : Option Handle :=
  if created then some s.nextHandle else none

def getSourceUuid (s : State) : String := (s.settings.value "source_uuid").toString

def getVisible (s : State) : Bool := (s.settings.value "visible").toBool

def getRecording (s : State) : Bool := (s.settings.value "recording").toBool

end State

def leaveStatus : EgressLinkOutputStatus → List Call
  | .activating => [.decrementActiveOutputs]
  | .active => [.decrementActiveOutputs]
  | .standBy => [.decrementStandByOutputs]
  | .reconnecting => [.decrementActiveOutputs]
  | _ => []

def enterStatus : EgressLinkOutputStatus → List Call
  | .activating => [.incrementActiveOutputs]
  | .active => [.incrementActiveOutputs]
  | .standBy => [.incrementStandByOutputs]
  | .reconnecting => [.incrementActiveOutputs]
  | _ => []

def setStatus (value : EgressLinkOutputStatus) (s : State) : State :=
  if s.status ≠ value then
    { s with
      status := value
      calls := enterStatus value ++ leaveStatus s.status ++ s.calls }
  else s

def setRecordingStatus (value : RecordingOutputStatus) (s : State) : State :=
  { s with recordingStatus := value }

def incShowing (s : State) : State :=
  match s.source with
  | some source => s.call (.sourceIncShowing source)
  | none => s

def decShowing (s : State) : State :=
  match s.source with
  | some source => s.call (.sourceDecShowing source)
  | none => s

/-- The bitrate limits; a protocol that is neither `srt` nor `rtmp` has no settings. -/
def createEgressSettings (settings connection : QJsonObject) : Option QJsonObject :=
  if StageConnection.getProtocol connection = "srt" ∨
      StageConnection.getProtocol connection = "rtmp" then
    let bitrate := (settings.value "bitrate").toInt
    if bitrate > StageConnection.getMaxBitrate connection then
      some (settings.insert "bitrate" (.double (StageConnection.getMaxBitrate connection)))
    else if bitrate < StageConnection.getMinBitrate connection then
      some (settings.insert "bitrate" (.double (StageConnection.getMinBitrate connection)))
    else some settings
  else none

def connectionOf (name : String) (uplink : QJsonObject) : QJsonObject :=
  TypedJsonArray.find (UplinkInfo.getConnections uplink)
    fun c => StageConnection.getSourceName c = name

def retrieveConnection (obs : Obs) (s : State) : State :=
  { s with connection := connectionOf s.name obs.uplink }

def createSource (obs : Obs) (sourceUuid : String) : Block State := fun s =>
  match obs.sourceByUuid sourceUuid with
  | some source =>
    if obs.isSourceAvailable source && obs.isSourceVisible source then
      .ok ({ s with source := some source }.call (.sourceIncShowing source))
    else .error { s with source := none }
  | none => .error { s with source := none }

def createVideo (obs : Obs) : Block State := fun s =>
  match s.source with
  | some _ =>
    Block.answer (obs.sourceWidth ≠ 0 && obs.sourceHeight ≠ 0 && obs.viewAdded)
      { s with sourceView := s.create obs.viewCreated, nextHandle := s.nextHandle + 1 }
  | none => Block.answer obs.mainVideo s

def createAudio (obs : Obs) (audioSourceUuid : String) : Block State := fun s =>
  if audioSourceUuid = "no_audio" then
    Block.answer (obs.audioInfo && obs.silenceOpened)
      { s with
        audioSilence := s.create (obs.audioInfo && obs.silenceOpened)
        nextHandle := s.nextHandle + 1 }
  else if audioSourceUuid ≠ "program" ∧ audioSourceUuid ≠ "master_track" ∧
      (obs.sourceByUuid audioSourceUuid).isSome then
    if !obs.audioInfo then .error s
    else if obs.sourceAudio then
      .ok { s with audioSource := some s.nextHandle, nextHandle := s.nextHandle + 1 }
    else .error { s with audioSource := none }
  else Block.answer obs.mainAudio s

def createService (obs : Obs) : Block State := fun s =>
  Block.answer obs.serviceCreated
    { s with service := s.create obs.serviceCreated, nextHandle := s.nextHandle + 1 }

def createStreamingOutput (obs : Obs) : Block State :=
  (createService obs).andThen fun s =>
    Block.answer obs.streamingOutputCreated
      { s with
        streamingOutput := s.create obs.streamingOutputCreated
        nextHandle := s.nextHandle + 1 }

def createRecordingOutput (obs : Obs) : Block State := fun s =>
  Block.answer obs.recordingOutputCreated
    { s with
      recordingOutput := s.create obs.recordingOutputCreated
      nextHandle := s.nextHandle + 1 }

def createVideoEncoder (obs : Obs) (size : Int × Int) : Block State := fun s =>
  if obs.videoEncoderCreated then
    .ok
      { s with
        videoEncoder := some s.nextHandle, nextHandle := s.nextHandle + 1
        width := size.1, height := size.2 }
  else .error { s with videoEncoder := none }

def createAudioEncoder (obs : Obs) : Block State := fun s =>
  Block.answer obs.audioEncoderCreated
    { s with audioEncoder := s.create obs.audioEncoderCreated, nextHandle := s.nextHandle + 1 }

def releaseRecordingOutput (s : State) : State :=
  match s.recordingOutput with
  | some output =>
    let s := if s.recordingStatus = .active then (decShowing s).call (.outputStop output) else s
    { s.call (.outputRelease output) with recordingOutput := none }
  | none => s

def releaseStreamingOutput (s : State) : State :=
  match s.streamingOutput with
  | some output =>
    let s :=
      if s.status = .active ∨ s.status = .reconnecting then
        (decShowing s).call (.outputStop output)
      else s
    { s.call (.outputRelease output) with streamingOutput := none }
  | none => s

def destroyPipeline (nextStatus : EgressLinkOutputStatus)
    (nextRecordingStatus : RecordingOutputStatus) (s : State) : State :=
  let s := releaseStreamingOutput (releaseRecordingOutput s)
  let s :=
    decShowing
      { s with service := none, audioEncoder := none, videoEncoder := none, sourceView := none }
  let s :=
    { s with source := none, activeSourceUuid := "", audioSource := none, audioSilence := none }
  (setRecordingStatus nextRecordingStatus (setStatus nextStatus s)).call .pipelineDestroyed

/-- `{ setStatus(EGRESS_LINK_OUTPUT_STATUS_ERROR); return; }` -/
def abort : Block State := Block.exit (setStatus .error)

def demandsReconstruction (sourceUuid : String) (s : State) : Bool :=
  let goStandBy := s.connection.isEmpty && s.status ≠ .standBy
  let goActive := !s.connection.isEmpty && s.status ≠ .active
  sourceUuid ≠ s.activeSourceUuid || goStandBy || goActive ||
    s.activeSettingsRev ≠ s.storedSettingsRev

def reconstruct (obs : Obs) (sourceUuid : String) : Block State :=
  (Block.step (destroyPipeline .inactive .inactive)).andThen <|
  (Block.whenever (fun _ => sourceUuid ≠ "program")
    ((createSource obs sourceUuid).handle abort)).andThen <|
  Block.step fun s =>
    { s with activeSourceUuid := sourceUuid, activeSettingsRev := s.storedSettingsRev }

def encoderSize (obs : Obs) (s : State) : Int × Int :=
  if s.connection.isEmpty then obs.videoInfo.getD (0, 0)
  else (StageConnection.getWidth s.connection, StageConnection.getHeight s.connection)

def audioSourceUuid (s : State) : String :=
  let uuid := (s.settings.value "audio_source").toString
  if uuid = "" then s.activeSourceUuid else uuid

def ensureVideoEncoder (obs : Obs) : Block State :=
  Block.whenever (fun s => s.videoEncoder.isNone)
    (((createVideo obs).andThen fun s => createVideoEncoder obs (encoderSize obs s) s).handle
      abort)

def ensureAudioEncoder (obs : Obs) : Block State :=
  Block.whenever (fun s => s.audioEncoder.isNone)
    (Block.handle (fun s => ((createAudio obs (audioSourceUuid s)).andThen
      (createAudioEncoder obs)) s) abort)

def ensureStreamingOutput (obs : Obs) (streaming : Bool) : Block State :=
  Block.whenever (fun s => s.streamingOutput.isNone && streaming)
    ((createStreamingOutput obs).handle (Block.step (setStatus .error)))

def ensureRecordingOutput (obs : Obs) (recording : Bool) : Block State :=
  Block.whenever (fun s => s.recordingOutput.isNone && recording)
    ((createRecordingOutput obs).handle (Block.step (setRecordingStatus .error)))

/-- Save current timestamp to reduce reconnection with timeout. -/
def saveTimestamp (obs : Obs) (s : State) : State :=
  { s with connectionAttemptingAt := obs.currentMSecsSinceEpoch }

def activateRecording (s : State) : State :=
  if s.recordingOutput.isSome then setRecordingStatus .activating s else s

def activateStreaming (obs : Obs) (s : State) : State :=
  if s.streamingOutput.isSome then setStatus .activating (saveTimestamp obs s) else s

def goStandBy (streaming reconstructPipeline : Bool) : Block State :=
  Block.whenever (fun _ => !streaming && reconstructPipeline) (Block.step (setStatus .standBy))

/-- From the rebuild decision on. -/
def buildPipeline (obs : Obs) (sourceUuid : String)
    (reconstructPipeline streaming recording : Bool) : Block State :=
  (Block.whenever (fun _ => reconstructPipeline) (reconstruct obs sourceUuid)).andThen <|
  (goStandBy streaming reconstructPipeline).andThen <|
  (Block.require (fun _ => streaming || recording) id).andThen <|
  (Block.require (fun _ => obs.videoInfo.isSome) (setStatus .error)).andThen <|
  (Block.require
    (fun s => !streaming || (createEgressSettings s.settings s.connection).isSome)
    (setStatus .error)).andThen <|
  (ensureVideoEncoder obs).andThen <|
  (ensureAudioEncoder obs).andThen <|
  (ensureStreamingOutput obs streaming).andThen <|
  (ensureRecordingOutput obs recording).andThen <|
  (Block.require (fun s => s.streamingOutput.isSome || s.recordingOutput.isSome) id).andThen <|
  Block.whenever (fun _ => reconstructPipeline)
    (Block.step fun s => activateStreaming obs (activateRecording s))

def startPipeline (obs : Obs) (s : State) : State :=
  if s.getSourceUuid = "" || !s.getVisible then destroyPipeline .disabled .inactive s
  else
    let s := retrieveConnection obs s
    (buildPipeline obs s.getSourceUuid (demandsReconstruction s.getSourceUuid s)
      (!s.connection.isEmpty) s.getRecording).body s

def start (obs : Obs) (s : State) : State := (startPipeline obs s).call .syncUplinkStatus

def startStreaming (obs : Obs) (s : State) : State :=
  let t :=
    if s.streamingOutput.isSome then
      let s := (saveTimestamp obs s).call (.outputStart s.streamingOutput obs.streamingStarted)
      if obs.streamingStarted then setStatus .active (incShowing s) else setStatus .error s
    else s
  t.call .syncUplinkStatus

def startRecording (obs : Obs) (s : State) : State :=
  if s.recordingOutput.isSome then
    let s := s.call (.outputStart s.recordingOutput obs.recordingStarted)
    if obs.recordingStarted then setRecordingStatus .active (incShowing s)
    else setRecordingStatus .error s
  else s

def stop (s : State) : State := (destroyPipeline .inactive .inactive s).call .syncUplinkStatus

def restartStreaming (obs : Obs) (s : State) : State :=
  let s :=
    ((saveTimestamp obs s).call (.outputForceStop s.streamingOutput)).call
      (.outputStart s.streamingOutput obs.streamingStarted)
  if obs.streamingStarted then setStatus .reconnecting s else s

def restartRecording (obs : Obs) (s : State) : State :=
  (s.call (.outputForceStop s.recordingOutput)).call
    (.outputStart s.recordingOutput obs.recordingStarted)

def interlockStarts (obs : Obs) : Bool :=
  if obs.interlockType = "always_on" then true
  else if obs.interlockType = "streaming" then obs.frontendStreamingActive
  else if obs.interlockType = "recording" then obs.frontendRecordingActive
  else if obs.interlockType = "streaming_recording" then
    obs.frontendStreamingActive || obs.frontendRecordingActive
  else if obs.interlockType = "virtual_cam" then obs.frontendVirtualcamActive
  else false

def interlockStops (obs : Obs) : Bool :=
  if obs.interlockType = "" then true
  else if obs.interlockType = "streaming" then !obs.frontendStreamingActive
  else if obs.interlockType = "recording" then !obs.frontendRecordingActive
  else if obs.interlockType = "streaming_recording" then
    !obs.frontendStreamingActive && !obs.frontendRecordingActive
  else if obs.interlockType = "virtual_cam" then !obs.frontendVirtualcamActive
  else false

def streamingInactiveStatus (s : State) : Bool :=
  s.status ≠ .active && s.status ≠ .standBy && s.status ≠ .reconnecting

def streamingAlive (obs : Obs) (s : State) : Bool :=
  s.streamingOutput.isSome && obs.streamingActive

def recordingAlive (obs : Obs) (s : State) : Bool :=
  s.recordingOutput.isSome && obs.recordingActive

/-- The reconnecting test is made only for changed settings. -/
def changeSettings (obs : Obs) : Block State := fun s =>
  if s.activeSettingsRev < s.storedSettingsRev then
    let s := s.call (.outputReconnecting s.streamingOutput)
    if obs.streamingReconnecting then .ok s else .error (setStatus .changing s)
  else .ok s

def checkInterlock (obs : Obs) : Block State :=
  Block.require (fun _ => !interlockStops obs) stop

def checkStandBy (obs : Obs) (streamingAlive : Bool) : Block State :=
  Block.require (fun s => streamingAlive || s.status ≠ .standBy) (start obs)

def checkRecording (obs : Obs) : Block State :=
  Block.whenever (fun s => s.recordingStatus = .active && !recordingAlive obs s)
    (Block.step (restartRecording obs))

def checkStreaming (obs : Obs) (streamingAlive : Bool) : Block State :=
  Block.require (fun s => streamingAlive || (s.status ≠ .active && s.status ≠ .reconnecting))
    (restartStreaming obs)

def checkReconnected (streamingAlive : Bool) : Block State :=
  Block.whenever (fun s => streamingAlive && s.status = .reconnecting)
    (Block.step (setStatus .active))

def checkSource (obs : Obs) : Block State :=
  Block.require (fun s => s.source.all obs.isSourceAvailable) stop

/-- The checks on an established output, `OUTPUT_RETRY_TIMEOUT_MSECS` after the last attempt. -/
def monitorOutput (obs : Obs) (streamingAlive : Bool) : Block State :=
  (checkInterlock obs).andThen <|
  (checkStandBy obs streamingAlive).andThen <|
  (changeSettings obs).andThen <|
  (checkRecording obs).andThen <|
  (checkStreaming obs streamingAlive).andThen <|
  (checkReconnected streamingAlive).andThen <|
  checkSource obs

/-- `QDateTime().currentMSecsSinceEpoch() - connectionAttemptingAt`, an unsigned difference -/
def sinceAttempt (obs : Obs) (s : State) : UInt64 :=
  obs.currentMSecsSinceEpoch - s.connectionAttemptingAt

def onMonitoringTimerTimeout (obs : Obs) (s : State) : State :=
  let activateStreaming := s.status = .activating
  let activateRecording := s.recordingStatus = .activating
  if s.status = .changing then start obs s
  else if activateStreaming ∨ activateRecording then
    if sinceAttempt obs s > outputStartDelayMsecs then
      let t := if activateStreaming then startStreaming obs s else s
      if activateRecording then startRecording obs t else t
    else s
  else if streamingInactiveStatus s then
    if interlockStarts obs then start obs s else s
  else if sinceAttempt obs s > outputRetryTimeoutMsecs then
    (monitorOutput obs (streamingAlive obs s)).body s
  else s

def obsDataApply (target data : QJsonObject) : QJsonObject :=
  data.foldr (fun item target => target.insert item.1 item.2) target

def update (defaults newSettings : QJsonObject) (s : State) : State :=
  { s with
    settings := obsDataApply (obsDataApply s.settings defaults) newSettings
    storedSettingsRev := s.storedSettingsRev + 1 }

def setSourceUuid (value : String) (s : State) : State :=
  if value = s.getSourceUuid then s
  else
    { s with
      settings := s.settings.insert "source_uuid" (.string value)
      storedSettingsRev := s.storedSettingsRev + 1 }

def setVisible (value : Bool) (s : State) : State :=
  { s with
    settings := s.settings.insert "visible" (.bool value)
    storedSettingsRev := s.storedSettingsRev + 1 }

def onUplinkReady (uplink : QJsonObject) (s : State) : State :=
  let incoming := connectionOf s.name uplink
  if StageConnection.getId s.connection ≠ StageConnection.getId incoming ∨
      StageConnection.getRevision s.connection < StageConnection.getRevision incoming then
    { s with connection := incoming, storedSettingsRev := s.storedSettingsRev + 1 }
  else s

inductive Event where
  | monitoringTimerTimeout (obs : Obs)
  | start (obs : Obs)
  | stop
  | startStreaming (obs : Obs)
  | startRecording (obs : Obs)
  | update (defaults newSettings : QJsonObject)
  | setVisible (value : Bool)
  | setSourceUuid (value : String)
  | uplinkReady (uplink : QJsonObject)
  /-- the frontend shuts down or changes the scene collection -/
  | shutdown

def apply (s : State) : Event → State
  | .monitoringTimerTimeout obs => onMonitoringTimerTimeout obs s
  | .start obs => EgressLinkOutput.start obs s
  | .stop => EgressLinkOutput.stop s
  | .startStreaming obs => EgressLinkOutput.startStreaming obs s
  | .startRecording obs => EgressLinkOutput.startRecording obs s
  | .update defaults newSettings => EgressLinkOutput.update defaults newSettings s
  | .setVisible value => EgressLinkOutput.setVisible value s
  | .setSourceUuid value => EgressLinkOutput.setSourceUuid value s
  | .uplinkReady uplink => onUplinkReady uplink s
  | .shutdown => EgressLinkOutput.stop s

def step (s : State) (e : Event) : Option State := some (apply s e)

def statusCalls (old new : EgressLinkOutputStatus) : List Call :=
  if old = new then [] else enterStatus new ++ leaveStatus old

theorem setStatus_eq (value : EgressLinkOutputStatus) (s : State) :
    setStatus value s =
      { s with status := value, calls := statusCalls s.status value ++ s.calls } := by
  unfold setStatus statusCalls
  by_cases hSame : s.status = value
  · subst hSame
    simp
  · simp [hSame]

theorem mem_of_mem_statusCalls {old new : EgressLinkOutputStatus} {c : Call}
    (h : c ∈ statusCalls old new) :
    c ∈ [Call.incrementActiveOutputs, .decrementActiveOutputs, .incrementStandByOutputs,
      .decrementStandByOutputs] := by
  rw [statusCalls] at h
  split at h
  · cases h
  · rcases List.mem_append.mp h with hEnter | hLeave
    · cases new <;> simp [enterStatus] at hEnter <;> simp [hEnter]
    · cases old <;> simp [leaveStatus] at hLeave <;> simp [hLeave]

def incCalls (source : Option Source) : List Call := source.toList.map .sourceIncShowing

def decCalls (source : Option Source) : List Call := source.toList.map .sourceDecShowing

theorem incShowing_eq (s : State) :
    incShowing s = { s with calls := incCalls s.source ++ s.calls } := by
  unfold incShowing
  split
  · next source hSource => simp [incCalls, hSource, State.call]
  · next hSource =>
    have hNone : incCalls s.source = [] := by
      rw [hSource]
      rfl
    rw [hNone, List.nil_append]

theorem decShowing_eq (s : State) :
    decShowing s = { s with calls := decCalls s.source ++ s.calls } := by
  unfold decShowing
  split
  · next source hSource => simp [decCalls, hSource, State.call]
  · next hSource =>
    have hNone : decCalls s.source = [] := by
      rw [hSource]
      rfl
    rw [hNone, List.nil_append]

/-- The calls that release an output, `running` when its status says that it was started. -/
def releaseCalls (source : Option Source) (running : Bool) : Option Handle → List Call
  | some output =>
    .outputRelease output :: if running then .outputStop output :: decCalls source else []
  | none => []

def EgressLinkOutputStatus.running (status : EgressLinkOutputStatus) : Bool :=
  status = .active || status = .reconnecting

def State.streamingRunning (s : State) : Bool := s.status.running

def State.recordingRunning (s : State) : Bool := s.recordingStatus = .active

theorem releaseRecordingOutput_eq (s : State) :
    releaseRecordingOutput s =
      { s with
        recordingOutput := none
        calls := releaseCalls s.source s.recordingRunning s.recordingOutput ++ s.calls } := by
  unfold releaseRecordingOutput
  split
  · next output hOutput =>
    by_cases hActive : s.recordingStatus = .active <;>
      simp [releaseCalls, State.recordingRunning, hOutput, hActive, decShowing_eq, State.call]
  · next hOutput =>
    have hNone : releaseCalls s.source s.recordingRunning s.recordingOutput = [] := by
      rw [hOutput]
      rfl
    rw [hNone, List.nil_append, ← hOutput]

theorem releaseStreamingOutput_eq (s : State) :
    releaseStreamingOutput s =
      { s with
        streamingOutput := none
        calls := releaseCalls s.source s.streamingRunning s.streamingOutput ++ s.calls } := by
  unfold releaseStreamingOutput
  split
  · next output hOutput =>
    by_cases hRunning : s.status = .active ∨ s.status = .reconnecting <;>
      simp [releaseCalls, State.streamingRunning, EgressLinkOutputStatus.running, hOutput, hRunning,
        decShowing_eq, State.call]
  · next hOutput =>
    have hNone : releaseCalls s.source s.streamingRunning s.streamingOutput = [] := by
      rw [hOutput]
      rfl
    rw [hNone, List.nil_append, ← hOutput]

/-- The calls of `destroyPipeline`, newest first. -/
def teardownCalls (s : State) (nextStatus : EgressLinkOutputStatus) : List Call :=
  .pipelineDestroyed :: statusCalls s.status nextStatus ++ (decCalls s.source ++
    (releaseCalls s.source s.streamingRunning s.streamingOutput ++
      releaseCalls s.source s.recordingRunning s.recordingOutput))

theorem destroyPipeline_eq (nextStatus : EgressLinkOutputStatus)
    (nextRecordingStatus : RecordingOutputStatus) (s : State) :
    destroyPipeline nextStatus nextRecordingStatus s =
      { s with
        service := none, streamingOutput := none, recordingOutput := none
        videoEncoder := none, audioEncoder := none, source := none, sourceView := none
        audioSilence := none, audioSource := none, activeSourceUuid := ""
        status := nextStatus, recordingStatus := nextRecordingStatus
        calls := teardownCalls s nextStatus ++ s.calls } := by
  simp [destroyPipeline, setStatus_eq, setRecordingStatus, decShowing_eq, State.call,
    releaseStreamingOutput_eq, releaseRecordingOutput_eq, teardownCalls, State.streamingRunning]

section Keeps

variable {P : State → Prop} {s : State}

theorem onMonitoringTimerTimeout_keeps {obs : Obs} (h : P s) (hStart : P (start obs s))
    (hStreaming : P (startStreaming obs s)) (hRecording : ∀ t, P t → P (startRecording obs t))
    (hMonitor : streamingInactiveStatus s = false →
      P ((monitorOutput obs (streamingAlive obs s)).body s)) :
    P (onMonitoringTimerTimeout obs s) := by
  unfold onMonitoringTimerTimeout
  simp only
  split
  · exact hStart
  · split
    · split
      · have hStarted : P (if s.status = .activating then startStreaming obs s else s) := by
          split
          · exact hStreaming
          · exact h
        split
        · exact hRecording _ hStarted
        · exact hStarted
      · exact h
    · split
      · split
        · exact hStart
        · exact h
      · next hStatus =>
        split
        · exact hMonitor (Bool.not_eq_true _ ▸ hStatus)
        · exact h

theorem setSourceUuid_keeps {value : String} (h : P s)
    (hChange : ∀ settings, P { s with
      settings := settings
      storedSettingsRev := s.storedSettingsRev + 1 }) : P (setSourceUuid value s) := by
  unfold setSourceUuid
  split
  · exact h
  · exact hChange _

theorem onUplinkReady_keeps {uplink : QJsonObject} (h : P s)
    (hChange : ∀ connection, P { s with
      connection := connection
      storedSettingsRev := s.storedSettingsRev + 1 }) : P (onUplinkReady uplink s) := by
  unfold onUplinkReady
  simp only
  split
  · exact hChange _
  · exact h

/-- The events that concern the settings or the connection leave the pipeline alone. -/
theorem apply_keeps (h : P s) (hTick : ∀ obs, P (onMonitoringTimerTimeout obs s))
    (hStart : ∀ obs, P (start obs s)) (hStop : P (stop s))
    (hStreaming : ∀ obs, P (startStreaming obs s)) (hRecording : ∀ obs, P (startRecording obs s))
    (hChange : ∀ settings connection, P { s with
      settings := settings
      connection := connection
      storedSettingsRev := s.storedSettingsRev + 1 }) (e : Event) : P (apply s e) := by
  cases e with
  | monitoringTimerTimeout obs => exact hTick obs
  | start obs => exact hStart obs
  | stop | shutdown => exact hStop
  | startStreaming obs => exact hStreaming obs
  | startRecording obs => exact hRecording obs
  | update defaults newSettings => exact hChange _ s.connection
  | setVisible value => exact hChange _ s.connection
  | setSourceUuid value => exact setSourceUuid_keeps h fun _ => hChange _ s.connection
  | uplinkReady uplink => exact onUplinkReady_keeps h fun _ => hChange s.settings _

end Keeps

end SrcLink.EgressLinkOutput
