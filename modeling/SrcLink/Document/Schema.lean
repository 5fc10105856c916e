import SrcLink.Document.Json
import SrcLink.Document.QString

/-! # Document schema

The typed views of JSON objects that the server and the plugin exchange. Each
class is a namespace of functions on the object it wraps; `isValid` checks its
fields in the order of the source. Fields that nothing here reads have no getter.
-/

namespace SrcLink.Schema

open Json Json.TypedJsonArray

set_option autoImplicit false

namespace SubscriptionFeatures

def isValid (o : QJsonObject) : Bool :=
  (o.value "host_ability").isBool && (o.value "guest_ability").isBool &&
  (o.value "max_stages").isDouble && (o.value "max_parties").isDouble &&
  (o.value "max_concurrent_party_events").isDouble &&
  (o.value "max_sources_per_stage_seat").isDouble && (o.value "max_seats_per_stage").isDouble &&
  (o.value "max_srtrelay_servers_per_stage").isDouble &&
  (o.value "max_members_per_party").isDouble &&
  (o.value "max_participants_per_party_event").isDouble &&
  (o.value "max_uplink_duration").isDouble && (o.value "ui_type").isString &&
  (o.value "byol_ability").isBool

end SubscriptionFeatures

namespace SavedSubscriptionPlan

def getFeatures (o : QJsonObject) : QJsonObject := (o.value "features").toObject

def isValid (o : QJsonObject) : Bool :=
  (o.value "name").isString && maybe (o.value "description") (o.value "description").isString &&
  SubscriptionFeatures.isValid (getFeatures o) && (o.value "period_months").isDouble

end SavedSubscriptionPlan

namespace SubscriptionLicense

def getLicenseValid (o : QJsonObject) : Bool := (o.value "valid").toBool

def getSavedPlan (o : QJsonObject) : QJsonObject := (o.value "saved_plan").toObject

def isValid (o : QJsonObject) : Bool :=
  SavedSubscriptionPlan.isValid (getSavedPlan o) && (o.value "start_date").isString &&
  (o.value "valid").isBool

end SubscriptionLicense

namespace AccountResourceUsage

def isValid (o : QJsonObject) : Bool :=
  (o.value "stages").isDouble && (o.value "parties").isDouble &&
  (o.value "party_events").isDouble && (o.value "concurrent_party_events").isDouble &&
  (o.value "max_stage_sources").isDouble && (o.value "max_stage_seats").isDouble &&
  (o.value "max_srtrelay_servers").isDouble && (o.value "max_party_members").isDouble &&
  (o.value "max_party_event_participants").isDouble

end AccountResourceUsage

namespace AccountAccessCodeView

def isValid (o : QJsonObject) : Bool :=
  (o.value "_id").isString && (o.value "value").isString &&
  maybe (o.value "expiry_date") (o.value "expiry_date").isString &&
  maybe (o.value "description") (o.value "description").isString &&
  (o.value "created_at").isString

end AccountAccessCodeView

namespace Account

def getAccessCodeView (o : QJsonObject) : QJsonObject := (o.value "access_code_view").toObject

def isValid (o : QJsonObject) : Bool :=
  (o.value "_id").isString && (o.value "display_name").isString &&
  maybe (o.value "picture_id") (o.value "picture_id").isString &&
  maybe (o.value "access_code_view") (AccountAccessCodeView.isValid (getAccessCodeView o))

end Account

namespace AccountInfo

def getAccount (o : QJsonObject) : QJsonObject := (o.value "account").toObject

def getSubscriptionLicense (o : QJsonObject) : QJsonObject :=
  (o.value "subscription_license").toObject

def getResourceUsage (o : QJsonObject) : QJsonObject := (o.value "resource_usage").toObject

def setAccount (o account : QJsonObject) : QJsonObject := o.insert "account" (.object account)

def setSubscriptionLicense (o license : QJsonObject) : QJsonObject :=
  o.insert "subscription_license" (.object license)

def setResourceUsage (o usage : QJsonObject) : QJsonObject :=
  o.insert "resource_usage" (.object usage)

def isValid (o : QJsonObject) : Bool :=
  Account.isValid (getAccount o) && SubscriptionLicense.isValid (getSubscriptionLicense o) &&
  AccountResourceUsage.isValid (getResourceUsage o)

end AccountInfo

namespace StageSource

def getName (o : QJsonObject) : String := (o.value "name").toString

def getDisplayName (o : QJsonObject) : String := (o.value "display_name").toString

def getDescription (o : QJsonObject) : String := (o.value "description").toString

def isValid (o : QJsonObject) : Bool :=
  (o.value "name").isString && (o.value "display_name").isString &&
  maybe (o.value "description") (o.value "description").isString

end StageSource

namespace StageSeat

def getName (o : QJsonObject) : String := (o.value "name").toString

def isValid (o : QJsonObject) : Bool :=
  (o.value "name").isString && (o.value "display_name").isString

end StageSeat

namespace RelayServer

def isValid (o : QJsonObject) : Bool :=
  (o.value "address").isString && (o.value "port").isDouble && (o.value "app").isString

end RelayServer

namespace StageSeatView

def isValid (o : QJsonObject) : Bool :=
  maybe (o.value "display_name") (o.value "display_name").isString

end StageSeatView

namespace AccountView

def isValid (o : QJsonObject) : Bool :=
  (o.value "display_name").isString &&
  maybe (o.value "picture_id") (o.value "picture_id").isString

end AccountView

namespace Stage

def getId (o : QJsonObject) : String := (o.value "_id").toString

def getSources (o : QJsonObject) : QJsonArray := (o.value "sources").toArray

def getSeats (o : QJsonObject) : QJsonArray := (o.value "seats").toArray

def getRelayServers (o : QJsonObject) : QJsonArray := (o.value "relay_servers").toArray

def getOwnerAccountView (o : QJsonObject) : QJsonObject := (o.value "owner_account_view").toObject

def isValid (o : QJsonObject) : Bool :=
  (o.value "_id").isString && (o.value "name").isString &&
  maybe (o.value "description") (o.value "description").isString &&
  maybe (o.value "picture_id") (o.value "picture_id").isString &&
  maybe (o.value "sources")
    ((o.value "sources").isArray && every (getSources o) StageSource.isValid) &&
  maybe (o.value "seats") ((o.value "seats").isArray && every (getSeats o) StageSeat.isValid) &&
  maybe (o.value "relay_servers")
    ((o.value "relay_servers").isArray && every (getRelayServers o) RelayServer.isValid) &&
  AccountView.isValid (getOwnerAccountView o) && (o.value "owner_user_id").isString

end Stage

namespace StageView

def isValid (o : QJsonObject) : Bool :=
  (o.value "name").isString && maybe (o.value "picture_id") (o.value "picture_id").isString &&
  maybe (o.value "description") (o.value "description").isString

end StageView

namespace Party

def getId (o : QJsonObject) : String := (o.value "_id").toString

def getOwnerAccountView (o : QJsonObject) : QJsonObject := (o.value "owner_account_view").toObject

def isValid (o : QJsonObject) : Bool :=
  (o.value "_id").isString && (o.value "name").isString &&
  maybe (o.value "description") (o.value "description").isString &&
  maybe (o.value "picture_id") (o.value "picture_id").isString &&
  maybe (o.value "capacity") (o.value "capacity").isDouble &&
  AccountView.isValid (getOwnerAccountView o) && (o.value "owner_user_id").isString

end Party

namespace PartyView

def isValid (o : QJsonObject) : Bool :=
  (o.value "name").isString && maybe (o.value "picture_id") (o.value "picture_id").isString

end PartyView

namespace PartyMember

def getPartyView (o : QJsonObject) : QJsonObject := (o.value "party_view").toObject

def getAccountView (o : QJsonObject) : QJsonObject := (o.value "account_view").toObject

def isValid (o : QJsonObject) : Bool :=
  (o.value "party_id").isString &&
  maybe (o.value "invite_code") (o.value "invite_code").isString &&
  (o.value "display_name").isString &&
  maybe (o.value "account_id") (o.value "account_id").isString &&
  maybe (o.value "membership_date") (o.value "membership_date").isString &&
  PartyView.isValid (getPartyView o) &&
  maybe (o.value "account_view") (AccountView.isValid (getAccountView o)) &&
  maybe (o.value "byol") (o.value "byol").isBool

end PartyMember

namespace PartyEvent

def getPartyView (o : QJsonObject) : QJsonObject := (o.value "party_view").toObject

def getStageView (o : QJsonObject) : QJsonObject := (o.value "stage_view").toObject

def getOwnerAccountView (o : QJsonObject) : QJsonObject := (o.value "owner_account_view").toObject

def isValid (o : QJsonObject) : Bool :=
  (o.value "_id").isString && (o.value "name").isString &&
  maybe (o.value "description") (o.value "description").isString &&
  (o.value "start_time").isString && maybe (o.value "end_time") (o.value "end_time").isString &&
  maybe (o.value "picture_id") (o.value "picture_id").isString && (o.value "status").isString &&
  (o.value "status_changed_at").isString &&
  maybe (o.value "capacity") (o.value "capacity").isDouble &&
  PartyView.isValid (getPartyView o) && StageView.isValid (getStageView o) &&
  AccountView.isValid (getOwnerAccountView o) && (o.value "owner_user_id").isString

end PartyEvent

namespace PartyEventView

def isValid (o : QJsonObject) : Bool :=
  (o.value "name").isString && maybe (o.value "picture_id") (o.value "picture_id").isString &&
  maybe (o.value "description") (o.value "description").isString && (o.value "status").isString &&
  (o.value "status_changed_at").isString

end PartyEventView

namespace PartyEventParticipant

def getId (o : QJsonObject) : String := (o.value "_id").toString

def getStageView (o : QJsonObject) : QJsonObject := (o.value "stage_view").toObject

def getPartyView (o : QJsonObject) : QJsonObject := (o.value "party_view").toObject

def getPartyEventView (o : QJsonObject) : QJsonObject := (o.value "party_event_view").toObject

def getAccountView (o : QJsonObject) : QJsonObject := (o.value "account_view").toObject

def getStageSeatView (o : QJsonObject) : QJsonObject := (o.value "stage_seat_view").toObject

def getOwnerAccountView (o : QJsonObject) : QJsonObject := (o.value "owner_account_view").toObject

def isValid (o : QJsonObject) : Bool :=
  (o.value "_id").isString && (o.value "party_id").isString &&
  (o.value "party_event_id").isString && (o.value "stage_id").isString &&
  maybe (o.value "member_id") (o.value "member_id").isString &&
  maybe (o.value "account_id") (o.value "account_id").isString &&
  maybe (o.value "seat_name") (o.value "seat_name").isString &&
  maybe (o.value "disabled") (o.value "disabled").isBool &&
  maybe (o.value "lan") (o.value "lan").isBool &&
  maybe (o.value "byol") (o.value "byol").isBool && StageView.isValid (getStageView o) &&
  PartyView.isValid (getPartyView o) && PartyEventView.isValid (getPartyEventView o) &&
  maybe (o.value "account_view") (AccountView.isValid (getAccountView o)) &&
  maybe (o.value "stage_seat_view") (StageSeatView.isValid (getStageSeatView o)) &&
  (o.value "owner_user_id").isString &&
  maybe (o.value "owner_account_view") (AccountView.isValid (getOwnerAccountView o))

end PartyEventParticipant

namespace MemberActivationResult

def getParty (o : QJsonObject) : QJsonObject := (o.value "party").toObject

def getMember (o : QJsonObject) : QJsonObject := (o.value "member").toObject

def getParticipants (o : QJsonObject) : QJsonArray := (o.value "participants").toArray

def isValid (o : QJsonObject) : Bool :=
  Party.isValid (getParty o) && PartyMember.isValid (getMember o) &&
  maybe (o.value "participants")
    ((o.value "participants").isArray && every (getParticipants o) PartyEventParticipant.isValid)

end MemberActivationResult

namespace ConnectionAdvices

def isValid (o : QJsonObject) : Bool :=
  maybe (o.value "unreachable") (o.value "unreachable").isBool

end ConnectionAdvices

namespace StageConnection

def getId (o : QJsonObject) : String := (o.value "_id").toString

def getSourceName (o : QJsonObject) : String := (o.value "source_name").toString

def getProtocol (o : QJsonObject) : String := (o.value "protocol").toString

def getServer (o : QJsonObject) : String := (o.value "server").toString

def getPort (o : QJsonObject) : Int := (o.value "port").toInt

def getStreamId (o : QJsonObject) : String := (o.value "stream_id").toString

def getPassphrase (o : QJsonObject) : String := (o.value "passphrase").toString

def getParameters (o : QJsonObject) : String := (o.value "parameters").toString

def getRelay (o : QJsonObject) : Bool := (o.value "relay").toBool

def getAllocationId (o : QJsonObject) : String := (o.value "allocation_id").toString

def getLatency (o : QJsonObject) : Int := (o.value "latency").toInt

def getLanServer (o : QJsonObject) : String := (o.value "lan_server").toString

def getAuthUsername (o : QJsonObject) : String := (o.value "auth_username").toString

def getRelayApp (o : QJsonObject) : String := (o.value "relay_app").toString

def getMaxBitrate (o : QJsonObject) : Int := (o.value "max_bitrate").toInt

def getMinBitrate (o : QJsonObject) : Int := (o.value "min_bitrate").toInt

def getWidth (o : QJsonObject) : Int := (o.value "width").toInt

def getHeight (o : QJsonObject) : Int := (o.value "height").toInt

def getRevision (o : QJsonObject) : Int := (o.value "revision").toInt

def getConnectionAdvices (o : QJsonObject) : QJsonObject := (o.value "connection_advices").toObject

def isValid (o : QJsonObject) : Bool :=
  (o.value "_id").isString && (o.value "stage_id").isString && (o.value "seat_name").isString &&
  (o.value "source_name").isString && (o.value "protocol").isString &&
  (o.value "server").isString && (o.value "port").isDouble && (o.value "stream_id").isString &&
  (o.value "passphrase").isString && (o.value "parameters").isString &&
  (o.value "relay").isBool && (o.value "max_bitrate").isDouble &&
  (o.value "min_bitrate").isDouble && (o.value "width").isDouble && (o.value "height").isDouble &&
  (o.value "revision").isDouble && maybe (o.value "disabled") (o.value "disabled").isBool &&
  maybe (o.value "allocation_id") (o.value "allocation_id").isString &&
  maybe (o.value "connection_advices") (ConnectionAdvices.isValid (getConnectionAdvices o)) &&
  maybe (o.value "lan_server") (o.value "lan_server").isString &&
  maybe (o.value "latency") (o.value "latency").isDouble && (o.value "owner_user_id").isString &&
  maybe (o.value "auth_username") (o.value "auth_username").isString &&
  maybe (o.value "relay_app") (o.value "relay_app").isString

end StageConnection

namespace StageSeatAllocation

def getId (o : QJsonObject) : String := (o.value "_id").toString

def getLan (o : QJsonObject) : Bool := (o.value "lan").toBool

def isValid (o : QJsonObject) : Bool :=
  (o.value "_id").isString && (o.value "party_id").isString &&
  (o.value "party_event_id").isString && (o.value "stage_id").isString &&
  (o.value "seat_name").isString && (o.value "member_id").isString &&
  (o.value "participant_id").isString && (o.value "account_id").isString &&
  maybe (o.value "disabled") (o.value "disabled").isBool &&
  maybe (o.value "lan") (o.value "lan").isBool &&
  maybe (o.value "latency") (o.value "latency").isDouble && (o.value "owner_user_id").isString

end StageSeatAllocation

namespace UplinkInfo

def getAllocation (o : QJsonObject) : QJsonObject := (o.value "allocation").toObject

def getStage (o : QJsonObject) : QJsonObject := (o.value "stage").toObject

def getConnections (o : QJsonObject) : QJsonArray := (o.value "connections").toArray

def getPublicAddress (o : QJsonObject) : String := (o.value "public_address").toString

def setAllocation (o allocation : QJsonObject) : QJsonObject :=
  o.insert "allocation" (.object allocation)

def setStage (o stage : QJsonObject) : QJsonObject := o.insert "stage" (.object stage)

def setConnections (o : QJsonObject) (connections : QJsonArray) : QJsonObject :=
  o.insert "connections" (.array connections)

def isValid (o : QJsonObject) : Bool :=
  maybe (o.value "allocation") (StageSeatAllocation.isValid (getAllocation o)) &&
  maybe (o.value "stage") (Stage.isValid (getStage o)) &&
  (o.value "connections").isArray && every (getConnections o) StageConnection.isValid &&
  (o.value "public_address").isString

end UplinkInfo

namespace DownlinkInfo

def getConnection (o : QJsonObject) : QJsonObject := (o.value "connection").toObject

def isValid (o : QJsonObject) : Bool :=
  StageConnection.isValid (getConnection o)

end DownlinkInfo

namespace DownlinkRequestBody

def getStageId (o : QJsonObject) : String := (o.value "stage_id").toString

def setStageId (o : QJsonObject) (value : String) : QJsonObject :=
  o.insert "stage_id" (.string value)

def getSeatName (o : QJsonObject) : String := (o.value "seat_name").toString

def setSeatName (o : QJsonObject) (value : String) : QJsonObject :=
  o.insert "seat_name" (.string value)

def getSourceName (o : QJsonObject) : String := (o.value "source_name").toString

def setSourceName (o : QJsonObject) (value : String) : QJsonObject :=
  o.insert "source_name" (.string value)

def getProtocol (o : QJsonObject) : String := (o.value "protocol").toString

def setProtocol (o : QJsonObject) (value : String) : QJsonObject :=
  o.insert "protocol" (.string value)

def getPort (o : QJsonObject) : Int := (o.value "port").toInt

def setPort (o : QJsonObject) (value : Int) : QJsonObject := o.insert "port" (.double value)

def getStreamId (o : QJsonObject) : String := (o.value "stream_id").toString

def setStreamId (o : QJsonObject) (value : String) : QJsonObject :=
  o.insert "stream_id" (.string value)

def setParameters (o : QJsonObject) (value : String) : QJsonObject :=
  o.insert "parameters" (.string value)

def getRelay (o : QJsonObject) : Bool := (o.value "relay").toBool

def setRelay (o : QJsonObject) (value : Bool) : QJsonObject := o.insert "relay" (.bool value)

def setMaxBitrate (o : QJsonObject) (value : Int) : QJsonObject :=
  o.insert "max_bitrate" (.double value)

def setMinBitrate (o : QJsonObject) (value : Int) : QJsonObject :=
  o.insert "min_bitrate" (.double value)

def setWidth (o : QJsonObject) (value : Int) : QJsonObject := o.insert "width" (.double value)

def setHeight (o : QJsonObject) (value : Int) : QJsonObject := o.insert "height" (.double value)

def getRevision (o : QJsonObject) : Int := (o.value "revision").toInt

def setRevision (o : QJsonObject) (value : Int) : QJsonObject :=
  o.insert "revision" (.double value)

def setLanServer (o : QJsonObject) (value : String) : QJsonObject :=
  o.insert "lan_server" (.string value)

def setRelayApps (o : QJsonObject) (value : QJsonArray) : QJsonObject :=
  o.insert "relay_apps" (.array value)

end DownlinkRequestBody

namespace WebSocketMessage

def getEvent (o : QJsonObject) : String := (o.value "event").toString

def getReason (o : QJsonObject) : String := (o.value "reason").toString

def getName (o : QJsonObject) : String := (o.value "name").toString

def getId (o : QJsonObject) : String := (o.value "id").toString

def getPayload (o : QJsonObject) : QJsonObject := (o.value "payload").toObject

def getContinuous (o : QJsonObject) : Bool := (o.value "continuous").toBool

def isValid (o : QJsonObject) : Bool :=
  (o.value "event").isString && maybe (o.value "reason") (o.value "reason").isString &&
  maybe (o.value "name") (o.value "name").isString &&
  maybe (o.value "id") (o.value "id").isString &&
  maybe (o.value "payload") (o.value "payload").isObject &&
  maybe (o.value "continuous") (o.value "continuous").isBool

end WebSocketMessage

namespace WsPortalFacilityView

def getAddress (o : QJsonObject) : String := (o.value "address").toString

/-- The host always has the `api` subdomain added to the address. -/
def getApiHost (o : QJsonObject) : String := "api." ++ getAddress o

def getPort (o : QJsonObject) : Int := (o.value "port").toInt

def getTlsPort (o : QJsonObject) : Int := (o.value "tls_port").toInt

def getApiHostAndPort (o : QJsonObject) : String :=
  QString.arg (QString.arg "%1:%2" (getApiHost o))
    (toString (if getTlsPort o ≠ 0 then getTlsPort o else getPort o))

@[irreducible] def getApiUrl (o : QJsonObject) : String :=
  QString.arg (QString.arg "%1://%2" (if getTlsPort o ≠ 0 then "wss" else "ws"))
    (getApiHostAndPort o)

def isValid (o : QJsonObject) : Bool :=
  (o.value "address").isString && (o.value "port").isDouble &&
  maybe (o.value "tls_port") (o.value "tls_port").isDouble

end WsPortalFacilityView

namespace WsPortal

def getId (o : QJsonObject) : String := (o.value "_id").toString

def getOwnerAccountView (o : QJsonObject) : QJsonObject := (o.value "owner_account_view").toObject

def getEventSubscriptions (o : QJsonObject) : Int := (o.value "event_subscriptions").toInt

def getFacilityView (o : QJsonObject) : QJsonObject := (o.value "facility_view").toObject

def isValid (o : QJsonObject) : Bool :=
  (o.value "_id").isString && (o.value "name").isString &&
  maybe (o.value "description") (o.value "description").isString &&
  maybe (o.value "picture_id") (o.value "picture_id").isString &&
  maybe (o.value "event_subscriptions") (o.value "event_subscriptions").isDouble &&
  AccountView.isValid (getOwnerAccountView o) && (o.value "owner_user_id").isString &&
  (o.value "facility_id").isString &&
  maybe (o.value "facility_view") (WsPortalFacilityView.isValid (getFacilityView o))

end WsPortal

end SrcLink.Schema
