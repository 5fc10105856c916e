import SrcLink.Outputs.EgressLinkOutput
import SrcLink.Sources.IngressLinkSource

/-! # The settings of the uplink

The stream settings of an output are its own ones with the server, the credentials and
the bitrate of the connection. A guest in the network of the host is sent to the server
of that network. What Qt makes of a host or of the text of a URL is a parameter.
-/

namespace SrcLink.UplinkSettings

open Json Json.QJsonObject Schema Schema.StageConnection IngressLinkSource

set_option autoImplicit false

structure SrtUrl where
  /-- the argument of `setHost` -/
  address : String
  port : Int
  query : QUrlQuery

inductive ServerUrl where
  | srt (url : SrtUrl)
  | rtmp (url : String)

structure EgressSettings where
  server : ServerUrl
  settings : QJsonObject

def ServerUrl.host (urls : UrlSyntax) : ServerUrl → String
  | srt url => urls.setHost url.address
  | rtmp url => urls.host url

def ServerUrl.source : ServerUrl → String
  | srt url => url.address
  | rtmp url => url

/-- Seems guest lives in the same network. -/
def sameNetwork (address : String) (uplink : QJsonObject) : Bool :=
  address = UplinkInfo.getPublicAddress uplink ||
    StageSeatAllocation.getLan (UplinkInfo.getAllocation uplink)

def srtAddress (uplink connection : QJsonObject) : String :=
  if sameNetwork (getServer connection) uplink then getLanServer connection
  else getServer connection

def rtmpServer (urls : UrlSyntax) (uplink connection : QJsonObject) : String :=
  if sameNetwork (urls.host (getServer connection)) uplink then getLanServer connection
  else getServer connection

def publishStreamId (connection : QJsonObject) : String :=
  if getRelayApp connection = "mediamtx" then
    [getStreamId connection, getId connection, getPassphrase connection].foldl QString.arg
      "publish:%1:%2:%3"
  else [getStreamId connection, getPassphrase connection].foldl QString.arg "publish/%1/%2"

/-- With a relay, too, the participant's latency overrides the one of the parameters. -/
def srtParameters (connection : QJsonObject) : QUrlQuery :=
  let parameters := QUrlQuery.ofText (getParameters connection)
  if getLatency connection ≠ 0 then
    (parameters.removeQueryItem "latency").addQueryItem "latency"
      (toString (toInt32 (getLatency connection * 1000)))
  else parameters

def addOptionalItem (query : QUrlQuery) (key value : String) : QUrlQuery :=
  if value ≠ "" then query.addQueryItem key value else query

def srtQuery (connection : QJsonObject) : QUrlQuery :=
  let parameters := (srtParameters connection).addQueryItem "mode" "caller"
  if getRelay connection then parameters.addQueryItem "streamid" (publishStreamId connection)
  else
    addOptionalItem (addOptionalItem parameters "streamid" (getStreamId connection))
      "passphrase" (getPassphrase connection)

def srtUrl (uplink connection : QJsonObject) : SrtUrl where
  address := srtAddress uplink connection
  port := getPort connection
  query := srtQuery connection

def rtmpCredentials (connection settings : QJsonObject) : QJsonObject :=
  let settings := settings.insert "key" (.string (getStreamId connection))
  if getAuthUsername connection ≠ "" ∧ getPassphrase connection ≠ "" then
    ((settings.insert "use_auth" (.bool true)).insert "username"
      (.string (getAuthUsername connection))).insert "password"
      (.string (getPassphrase connection))
  else settings.insert "use_auth" (.bool false)

def limitBitrate (connection settings : QJsonObject) : QJsonObject :=
  let bitrate := (settings.value "bitrate").toInt
  if bitrate > getMaxBitrate connection then
    settings.insert "bitrate" (.double (getMaxBitrate connection))
  else if bitrate < getMinBitrate connection then
    settings.insert "bitrate" (.double (getMinBitrate connection))
  else settings

def createEgressSettings (urls : UrlSyntax) (uplink settings connection : QJsonObject) :
    Option EgressSettings :=
  if getProtocol connection = "srt" then
    some
      { server := .srt (srtUrl uplink connection)
        settings := limitBitrate connection settings }
  else if getProtocol connection = "rtmp" then
    some
      { server := .rtmp (rtmpServer urls uplink connection)
        settings := limitBitrate connection (rtmpCredentials connection settings) }
  else none

theorem value_rtmpCredentials (connection settings : QJsonObject) {key : String}
    (hOther : key ∉ ["key", "use_auth", "username", "password"]) :
    (rtmpCredentials connection settings).value key = settings.value key := by
  simp only [List.mem_cons, List.not_mem_nil, or_false, not_or] at hOther
  obtain ⟨hKey, hAuth, hName, hPassword⟩ := hOther
  rw [rtmpCredentials]
  split
  · rw [value_insert_of_ne _ _ hPassword, value_insert_of_ne _ _ hName,
      value_insert_of_ne _ _ hAuth, value_insert_of_ne _ _ hKey]
  · rw [value_insert_of_ne _ _ hAuth, value_insert_of_ne _ _ hKey]

theorem bitrate_limitBitrate {connection settings settings' : QJsonObject}
    (hSame : settings.value "bitrate" = settings'.value "bitrate") :
    (limitBitrate connection settings).value "bitrate" =
      (limitBitrate connection settings').value "bitrate" := by
  rw [limitBitrate, limitBitrate, hSame]
  split
  · rw [value_insert_self, value_insert_self]
  · split
    · rw [value_insert_self, value_insert_self]
    · exact hSame

/-- The pipeline asks only whether there are settings and what bitrate they have. -/
theorem createEgressSettings_bitrate (urls : UrlSyntax) (uplink settings connection : QJsonObject) :
    (createEgressSettings urls uplink settings connection).map
        (fun egress => egress.settings.value "bitrate") =
      (EgressLinkOutput.createEgressSettings settings connection).map
        fun settings => settings.value "bitrate" := by
  have hLimited : EgressLinkOutput.createEgressSettings settings connection =
      if getProtocol connection = "srt" ∨ getProtocol connection = "rtmp" then
        some (limitBitrate connection settings) else none := by
    simp only [EgressLinkOutput.createEgressSettings, limitBitrate, gt_iff_lt, apply_ite some]
  rw [hLimited, createEgressSettings]
  split
  · next hSrt => rw [if_pos (.inl hSrt)]; rfl
  · next hNotSrt =>
    split
    · next hRtmp =>
      rw [if_pos (.inr hRtmp), Option.map_some, Option.map_some]
      exact congrArg some
        (bitrate_limitBitrate (value_rtmpCredentials connection settings (by decide)))
    · next hNotRtmp =>
      rw [if_neg (not_or.mpr ⟨hNotSrt, hNotRtmp⟩)]
      rfl

section Target

variable (urls : UrlSyntax) (uplink connection : QJsonObject)

variable {connection}

end Target

def connectionTo (protocol server : String) (optional : QJsonObject) : QJsonObject :=
  optional ++
    [("_id", .string "c1"), ("stage_id", .string "s1"), ("seat_name", .string "seat"),
      ("source_name", .string "cam"), ("protocol", .string protocol), ("server", .string server),
      ("port", .double 9000), ("stream_id", .string "stream"), ("passphrase", .string "secret"),
      ("parameters", .string ""), ("relay", .bool false), ("max_bitrate", .double 8000),
      ("min_bitrate", .double 500), ("width", .double 1920), ("height", .double 1080),
      ("revision", .double 1), ("allocation_id", .string "a1"), ("owner_user_id", .string "u1")]

end SrcLink.UplinkSettings
