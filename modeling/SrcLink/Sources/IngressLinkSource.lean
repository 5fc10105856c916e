import Mathlib.Algebra.Ring.Nat
import Mathlib.Data.List.Basic
import Mathlib.Logic.Function.Basic
import SrcLink.Client.ApiClient
import SrcLink.Document.QString
import SrcLink.Document.QUrl

/-! # An ingress link source

`IngressLinkSource` asks the server for a downlink and plays the connection it gets
with a private decoder source. Its calls to the API client are recorded; the slots
of the client's signals are the cases of `SourceEvent`.
-/

namespace SrcLink.IngressLinkSource

open Json Schema ApiClient

set_option autoImplicit false

/-- The conversion of a wider integer to `int`. -/
def toInt32 (value : Int) : Int := value.bmod (2 ^ 32)

def IsInt32 (value : Int) : Prop := -2 ^ 31 ≤ value ∧ value < 2 ^ 31

theorem toInt_double {value : Int} (h : IsInt32 value) :
    (QJsonValue.double value).toInt = value := by
  obtain ⟨hLow, hHigh⟩ := h
  simp only [QJsonValue.toInt, Rat.den_intCast, Rat.num_intCast]
  rw [if_pos ⟨trivial, hLow, hHigh⟩]

theorem isInt32_toInt (value : QJsonValue) : IsInt32 value.toInt := by
  unfold QJsonValue.toInt
  split
  · split
    · next h => exact h.2
    · exact ⟨by decide, by decide⟩
  · exact ⟨by decide, by decide⟩

/-- The port range of the settings and `usedPorts` of the API client. -/
structure Ports where
  portMin : Int
  portMax : Int
  /-- a missing entry reads as false -/
  used : Int → Bool

namespace Ports

def range (p : Ports) : List Int :=
  (List.range (p.portMax + 1 - p.portMin).toNat).map fun (i : Nat) => p.portMin + (i : Int)

def getFreePort (p : Ports) : Int × Ports :=
  match p.range.find? fun i => !p.used i with
  | some i => (i, { p with used := Function.update p.used i true })
  | none => (0, p)

def releasePort (p : Ports) (port : Int) : Ports :=
  { p with used := Function.update p.used port false }

end Ports

/-- The getters of `obs_data_t`. -/
structure ObsData where
  getString : String → String
  getInt : String → Int
  getBool : String → Bool

structure ApiSettings where
  ingressProtocol : String
  ingressSrtLatency : Int
  ingressSrtPbkeylen : Int
  ingressReconnectDelayTime : Int
  ingressNetworkBufferSize : Int

/-- What `captureSettings` reads besides the members of the source. -/
structure Capture where
  settings : ObsData
  apiSettings : ApiSettings
  privateIp : String
  /-- a new password -/
  streamId : String

structure DecoderOptions where
  reconnectDelaySec : Int
  bufferingMb : Int
  hwDecode : Bool
  clearOnMediaEnd : Bool
  deriving DecidableEq

def compositeParameters (c : Capture) (req : QJsonObject) : String :=
  if DownlinkRequestBody.getProtocol req = "srt" then
    let latency :=
      if c.settings.getBool "advanced_settings" then toInt32 (c.settings.getInt "srt_latency")
      else c.apiSettings.ingressSrtLatency
    -- microseconds
    let parameters := "latency=" ++ toString (toInt32 (latency * 1000))
    if DownlinkRequestBody.getRelay req then parameters
    else parameters ++ "&pbkeylen=" ++ toString c.apiSettings.ingressSrtPbkeylen
  else ""

open DownlinkRequestBody in
/-- The captured request; its revision and its port are still those of the last one. -/
def newRequest (c : Capture) (connRequest : QJsonObject) : QJsonObject :=
  let req := setProtocol connRequest c.apiSettings.ingressProtocol
  let req := setLanServer req c.privateIp
  let req := setStageId req (c.settings.getString "stage_id")
  let req := setSeatName req (c.settings.getString "seat_name")
  let req := setSourceName req (c.settings.getString "source_name")
  let req := setMaxBitrate req (toInt32 (c.settings.getInt "max_bitrate"))
  let req := setMinBitrate req (toInt32 (c.settings.getInt "min_bitrate"))
  let req := setWidth req (toInt32 (c.settings.getInt "width"))
  let req := setHeight req (toInt32 (c.settings.getInt "height"))
  let req := setRelay req (c.settings.getBool "relay")
  let req := setStreamId req c.streamId
  setParameters req (compositeParameters c req)

def capturedOptions (c : Capture) : DecoderOptions :=
  let advanced := c.settings.getBool "advanced_settings"
  { reconnectDelaySec :=
      if advanced then toInt32 (c.settings.getInt "reconnect_delay_sec")
      else c.apiSettings.ingressReconnectDelayTime
    bufferingMb :=
      if advanced then toInt32 (c.settings.getInt "buffering_mb")
      else c.apiSettings.ingressNetworkBufferSize
    hwDecode := c.settings.getBool "hw_decode"
    clearOnMediaEnd := c.settings.getBool "clear_on_media_end" }

/-- Increment revision when we have some changes. -/
def nextRevision (c : Capture) (connRequest : QJsonObject) (revision : Int) : Int :=
  if (newRequest c connRequest).equals connRequest then revision else toInt32 (revision + 1)

def giveBackPort (ports : Ports) (connRequest : QJsonObject) : QJsonObject × Ports :=
  let port := DownlinkRequestBody.getPort connRequest
  if port ≠ 0 then (DownlinkRequestBody.setPort connRequest 0, ports.releasePort port)
  else (connRequest, ports)

def takePort (ports : Ports) (connRequest : QJsonObject) : QJsonObject × Ports :=
  if !DownlinkRequestBody.getRelay connRequest then
    let free := ports.getFreePort
    (DownlinkRequestBody.setPort connRequest free.1, free.2)
  else (connRequest, ports)

/-- Re-allocate port. -/
def reallocatePort (ports : Ports) (connRequest : QJsonObject) : QJsonObject × Ports :=
  let freed := giveBackPort ports connRequest
  takePort freed.2 freed.1

/-- The arguments that the input URL is made of. -/
structure DecoderInput where
  /-- for `setHost` -/
  host : String
  port : Int
  query : QUrlQuery
  deriving DecidableEq

structure DecoderSettings where
  /-- none if the input is the empty string -/
  input : Option DecoderInput
  options : DecoderOptions
  inputFormat : String := "mpegts"
  isLocalFile : Bool := false
  deriving DecidableEq

open StageConnection in
def relayStreamId (connection : QJsonObject) : String :=
  if getRelayApp connection = "mediamtx" then
    [getStreamId connection, getId connection, getPassphrase connection].foldl QString.arg
      "read:%1:%2:%3"
  else [getStreamId connection, getPassphrase connection].foldl QString.arg "play/%1/%2"

open StageConnection in
/-- Without a relay the participant's latency overrides the one of the parameters. -/
def directParameters (connection : QJsonObject) : QUrlQuery :=
  let parameters := QUrlQuery.ofText (getParameters connection)
  if getLatency connection ≠ 0 then
    (parameters.removeQueryItem "latency").addQueryItem "latency"
      (toString (toInt32 (getLatency connection * 1000)))
  else parameters

open StageConnection in
def decoderInput (connection : QJsonObject) : Option DecoderInput :=
  if getAllocationId connection ≠ "" ∧ getProtocol connection = "srt" then
    if getRelay connection then
      some
        { host := getServer connection, port := getPort connection
          query := ((QUrlQuery.ofText (getParameters connection)).addQueryItem "mode"
            "caller").addQueryItem "streamid" (relayStreamId connection) }
    else
      some
        { host := "0.0.0.0", port := getPort connection
          query := (((directParameters connection).addQueryItem "mode" "listener").addQueryItem
            "streamid" (getStreamId connection)).addQueryItem "passphrase"
            (getPassphrase connection) }
  else none

structure Source where
  uuid : String
  options : DecoderOptions
  connRequest : QJsonObject
  revision : Int
  connection : QJsonObject
  /-- what `decoderSource` was created or last updated with -/
  decoderSettings : DecoderSettings
  /-- newest first -/
  calls : List Call

/-- The request that `putConnection` makes; the source's settings are in `connRequest`. -/
def putConnection (uuid : String) (connRequest : QJsonObject) : Call :=
  if (0 < DownlinkRequestBody.getPort connRequest || DownlinkRequestBody.getRelay connRequest) &&
      DownlinkRequestBody.getStageId connRequest ≠ "" &&
      DownlinkRequestBody.getSeatName connRequest ≠ "" &&
      DownlinkRequestBody.getSourceName connRequest ≠ "" then
    .putDownlink uuid connRequest
  else .deleteDownlink uuid false

namespace Source

def captureSettings (ports : Ports) (c : Capture) (s : Source) : Source × Ports :=
  let revision := nextRevision c s.connRequest s.revision
  let captured := DownlinkRequestBody.setRevision (newRequest c s.connRequest) revision
  let reallocated := reallocatePort ports captured
  ({ s with
      options := capturedOptions c, revision := revision, connRequest := reallocated.1 },
    reallocated.2)

section Captured

variable (ports : Ports) (c : Capture) (s : Source)

theorem captureSettings_connRequest :
    (s.captureSettings ports c).1.connRequest =
      (reallocatePort ports (DownlinkRequestBody.setRevision (newRequest c s.connRequest)
        (nextRevision c s.connRequest s.revision))).1 := by
  rw [captureSettings]

theorem captureSettings_revision :
    (s.captureSettings ports c).1.revision = nextRevision c s.connRequest s.revision := by
  rw [captureSettings]

theorem captureSettings_calls : (s.captureSettings ports c).1.calls = s.calls := by
  rw [captureSettings]

end Captured

def createDecoderSettings (s : Source) : DecoderSettings :=
  { input := decoderInput s.connection, options := s.options }

def putConnection (s : Source) : Source :=
  { s with calls := IngressLinkSource.putConnection s.uuid s.connRequest :: s.calls }

def onSettingsUpdate (ports : Ports) (c : Capture) (s : Source) : Source × Ports :=
  let captured := captureSettings ports c s
  (putConnection captured.1, captured.2)

def resetDecoder (connection : QJsonObject) (s : Source) : Source :=
  let s := { s with connection := connection }
  { s with decoderSettings := createDecoderSettings s }

def onPutDownlinkFailed (uuid : String) (s : Source) : Source :=
  if uuid ≠ s.uuid then s else resetDecoder [] s

def onDeleteDownlinkSucceeded (uuid : String) (s : Source) : Source :=
  if uuid ≠ s.uuid then s else resetDecoder [] s

def reconnectionNeeded (incoming : QJsonObject) (s : Source) : Bool :=
  let populated : Bool := StageConnection.getAllocationId s.connection ≠ ""
  populated != decide (StageConnection.getAllocationId incoming ≠ "") ||
    s.revision < StageConnection.getRevision incoming ||
    StageConnection.getPassphrase s.connection ≠ StageConnection.getPassphrase incoming

def onDownlinkReady (downlink : QJsonObject) (s : Source) : Source :=
  let incoming := DownlinkInfo.getConnection downlink
  if StageConnection.getId incoming ≠ s.uuid then s
  else if reconnectionNeeded incoming s then
    -- Prevent infinite loop
    resetDecoder incoming { s with revision := StageConnection.getRevision incoming }
  else
    -- Just update data
    { s with connection := incoming }

def offers (seatName sourceName : String) (stage : QJsonObject) : Bool :=
  let seat := TypedJsonArray.find (Stage.getSeats stage) fun s => StageSeat.getName s = seatName
  let source :=
    TypedJsonArray.find (Stage.getSources stage) fun s => StageSource.getName s = sourceName
  !seat.isEmpty && !source.isEmpty

def onStagesReady (stages : QJsonArray) (s : Source) : Source :=
  let stageId := DownlinkRequestBody.getStageId s.connRequest
  let seatName := DownlinkRequestBody.getSeatName s.connRequest
  let sourceName := DownlinkRequestBody.getSourceName s.connRequest
  if !s.connection.isEmpty || stageId = "" || seatName = "" || sourceName = "" then s
  else
    let stage := TypedJsonArray.find stages fun stage =>
      Stage.getId stage = stageId && offers seatName sourceName stage
    if stage.isEmpty then s else putConnection s

def onLoginSucceeded (s : Source) : Source :=
  if !s.connection.isEmpty then s else putConnection s

def onLogoutSucceeded (s : Source) : Source := resetDecoder [] s

/-- Before the constructor captures the settings, which sets the options. -/
def unregistered (uuid : String) (c : Capture) : Source :=
  { uuid := uuid, options := capturedOptions c, revision := 0, connection := []
    connRequest :=
      DownlinkRequestBody.setRelayApps (DownlinkRequestBody.setPort [] 0)
        [.string "srtrelay", .string "mediamtx"]
    decoderSettings := { input := none, options := capturedOptions c }, calls := [] }

/-- The decoder source is created with the settings captured first. -/
def construct (uuid : String) (ports : Ports) (c : Capture) : Source × Ports :=
  let captured := captureSettings ports c (unregistered uuid c)
  (putConnection
      { captured.1 with decoderSettings := createDecoderSettings captured.1 }, captured.2)

end Source

/-- The bodies of the requests, newest first. -/
def bodies (s : Source) : List QJsonObject :=
  s.calls.filterMap fun
    | .putDownlink _ params => some params
    | _ => none

inductive SourceEvent where
  /-- the user changes the settings or the source is reactivated -/
  | settingsUpdate (ports : Ports) (c : Capture)
  | downlinkReady (downlink : QJsonObject)
  /-- of the request itself or of its status -/
  | putDownlinkFailed (uuid : String)
  /-- by the source, or removed by the server -/
  | deleteDownlinkSucceeded (uuid : String)
  | stagesReady (stages : QJsonArray)
  | loginSucceeded
  | logoutSucceeded

def Source.apply (s : Source) : SourceEvent → Source
  | .settingsUpdate ports c => (s.onSettingsUpdate ports c).1
  | .downlinkReady downlink => s.onDownlinkReady downlink
  | .putDownlinkFailed uuid => s.onPutDownlinkFailed uuid
  | .deleteDownlinkSucceeded uuid => s.onDeleteDownlinkSucceeded uuid
  | .stagesReady stages => s.onStagesReady stages
  | .loginSucceeded => s.onLoginSucceeded
  | .logoutSucceeded => s.onLogoutSucceeded

/-- Only the other two slots read what the event brings. -/
def SourceEvent.Passive : SourceEvent → Prop
  | .settingsUpdate _ _ | .downlinkReady _ => False
  | _ => True

/-- All that a slot can do to the source. -/
inductive Applied (s : Source) : SourceEvent → Source → Prop
  | captured (ports : Ports) (c : Capture) :
      Applied s (.settingsUpdate ports c) (s.captureSettings ports c).1.putConnection
  | ignored {downlink : QJsonObject}
      (hOther : StageConnection.getId (DownlinkInfo.getConnection downlink) ≠ s.uuid) :
      Applied s (.downlinkReady downlink) s
  | reset {downlink incoming : QJsonObject}
      (hIncoming : DownlinkInfo.getConnection downlink = incoming)
      (hOwn : StageConnection.getId incoming = s.uuid)
      (hNeeded : s.reconnectionNeeded incoming = true) :
      Applied s (.downlinkReady downlink)
        (Source.resetDecoder incoming { s with revision := StageConnection.getRevision incoming })
  | stored {downlink incoming : QJsonObject}
      (hIncoming : DownlinkInfo.getConnection downlink = incoming)
      (hOwn : StageConnection.getId incoming = s.uuid)
      (hKept : s.reconnectionNeeded incoming = false) :
      Applied s (.downlinkReady downlink) { s with connection := incoming }
  | emptied {e : SourceEvent} (hPassive : e.Passive) : Applied s e (s.resetDecoder [])
  | put {e : SourceEvent} (hPassive : e.Passive) : Applied s e s.putConnection
  | unchanged {e : SourceEvent} (hPassive : e.Passive) : Applied s e s

theorem applied (s : Source) (e : SourceEvent) : Applied s e (s.apply e) := by
  cases e with
  | settingsUpdate ports c => exact .captured ports c
  | downlinkReady downlink =>
    simp only [Source.apply, Source.onDownlinkReady]
    split
    · next hOther => exact .ignored hOther
    · next hOwn =>
      split
      · next hNeeded => exact .reset rfl (not_not.mp hOwn) hNeeded
      · next hKept => exact .stored rfl (not_not.mp hOwn) (by simpa using hKept)
  | putDownlinkFailed uuid =>
    simp only [Source.apply, Source.onPutDownlinkFailed]
    split
    · exact .unchanged trivial
    · exact .emptied trivial
  | deleteDownlinkSucceeded uuid =>
    simp only [Source.apply, Source.onDeleteDownlinkSucceeded]
    split
    · exact .unchanged trivial
    · exact .emptied trivial
  | stagesReady stages =>
    simp only [Source.apply, Source.onStagesReady]
    split
    · exact .unchanged trivial
    · split
      · exact .unchanged trivial
      · exact .put trivial
  | loginSucceeded =>
    simp only [Source.apply, Source.onLoginSucceeded]
    split
    · exact .unchanged trivial
    · exact .put trivial
  | logoutSucceeded => exact .emptied trivial

/-- A capture of the settings of a source that has selected a stage, a seat and a source. -/
def selectedCapture (streamId : String) (relay : Bool) : Capture where
  settings :=
    { getString := id, getInt := fun _ => 0, getBool := fun key => key = "relay" && relay }
  apiSettings :=
    { ingressProtocol := "srt", ingressSrtLatency := 200, ingressSrtPbkeylen := 16
      ingressReconnectDelayTime := 1, ingressNetworkBufferSize := 1 }
  privateIp := "192.168.0.2"
  streamId := streamId

def createdSource : Source :=
  (Source.construct "source" ⟨10000, 10099, fun _ => false⟩ (selectedCapture "a" false)).1

def updateWith (streamId : String) : SourceEvent :=
  .settingsUpdate ⟨10000, 10099, fun _ => false⟩ (selectedCapture streamId false)

/-- A downlink of the source with an allocation. -/
def allocatedDownlink (revision : Int) (streamId passphrase : String) : QJsonObject :=
  let connection := (connectionDocument "source").insert "allocation_id" (.string "allocation")
  let connection := connection.insert "revision" (.double revision)
  let connection := connection.insert "stream_id" (.string streamId)
  let connection := connection.insert "protocol" (.string "srt")
  [("connection", .object (connection.insert "passphrase" (.string passphrase)))]

end SrcLink.IngressLinkSource
