import SrcLink.Client.OnlineResources
import SrcLink.Library.KeyedArray

/-! # The API client

`SRCLinkApiClient` with the state of its `O2` object and of its WebSocket client.
A request that has been issued waits in `requests` until its invoker finishes, in
any order; what its `finished` slots do is told by the kind of the request. A
reply carries the parsed document of its body, `undefined` when it is not JSON.
-/

namespace SrcLink.ApiClient

open Json Json.TypedJsonArray Schema

set_option autoImplicit false

inductive NetworkError where
  | noError
  | contentConflictError
  | unknownContentError
  | other (code : Nat)
  deriving DecidableEq, Repr

inductive UplinkStatus where
  | inactive
  | active
  | standby
  deriving DecidableEq, Repr

def UplinkStatus.toString : UplinkStatus → String
  | .inactive => "inactive"
  | .active => "active"
  | .standby => "standby"

/-- What was asked of the server, with what the slots connected to `finished` capture. -/
inductive Request where
  | refresh
  /-- `startsSession` is the slot of the constructor and of `onO2LinkingSucceeded` -/
  | accountInfo (startsSession : Bool)
  | parties
  | partyEvents
  | participants
  | stages
  | uplink
  | downlink (sourceUuid : String)
  | putDownlink (sourceUuid : String) (params : QJsonObject)
  | putDownlinkStatus (sourceUuid : String)
  | deleteDownlink (sourceUuid : String) (parallel : Bool)
  | putUplink (body : QJsonObject) (startsWebSocket : Bool)
  | putUplinkStatus (body : QJsonObject)
  /-- `unlinks` is the slot of `logout` -/
  | deleteUplink (parallel unlinks : Bool)
  | redeemInviteCode (inviteCode : String)

inductive Signal where
  | loginSucceeded
  | loginFailed
  | logoutSucceeded
  | ready (reconnect : Bool)
  | webSocketDisconnected
  | accountInfoReady (accountInfo : QJsonObject)
  | accountInfoFailed
  | partiesReady (parties : QJsonArray)
  | partiesFailed
  | partyEventsReady (partyEvents : QJsonArray)
  | partyEventsFailed
  | stagesReady (stages : QJsonArray)
  | stagesFailed
  | participantsReady (participants : QJsonArray)
  | participantsFailed
  | uplinkReady (uplink : QJsonObject)
  | uplinkFailed (uuid : String)
  | downlinkReady (downlink : QJsonObject)
  | downlinkRemoved (uuid : String)
  | downlinkFailed (uuid : String)
  | putDownlinkSucceeded (downlink : QJsonObject)
  | putDownlinkFailed (uuid : String)
  | putDownlinkStatusSucceeded (downlink : QJsonObject)
  | putDownlinkStatusFailed (uuid : String)
  | deleteDownlinkSucceeded (uuid : String)
  | deleteDownlinkFailed (uuid : String)
  | putUplinkSucceeded (uplink : QJsonObject)
  | putUplinkFailed (uuid : String) (error : NetworkError)
  | putUplinkStatusSucceeded (uplink : QJsonObject)
  | putUplinkStatusFailed (uuid : String)
  | deleteUplinkSucceeded (uuid : String)
  | deleteUplinkFailed (uuid : String)
  | redeemInviteCodeSucceeded (result : QJsonObject)
  | redeemInviteCodeFailed (inviteCode : String)
  | licenseChanged (license : QJsonObject)
  | wsPortalsReady (wsPortals : QJsonArray)
  | webSocketSubscribeSucceeded (name : String) (payload : QJsonObject)
  | webSocketSubscribeFailed (name : String) (payload : QJsonObject)
  | webSocketUnsubscribeSucceeded (name : String) (payload : QJsonObject)
  | webSocketUnsubscribeFailed (name : String) (payload : QJsonObject)
  | webSocketInvokeSucceeded (name : String) (payload : QJsonObject)
  | webSocketInvokeFailed (name : String) (payload : QJsonObject)

/-- A text message the WebSocket client sends. -/
inductive Frame where
  | subscribe (name : String) (payload : QJsonObject)
  | unsubscribe (name : String) (payload : QJsonObject)

structure WebSocket where
  started : Bool := false
  /-- `QWebSocket::isValid` -/
  valid : Bool := false
  reconnectCount : Nat := 0

structure Settings where
  participantId : String
  partyId : String

structure State where
  uuid : String
  settings : Settings
  linked : Bool
  /-- `O2` has a refresh token -/
  refreshToken : Bool
  activeOutputs : Int := 0
  standByOutputs : Int := 0
  uplinkStatus : UplinkStatus := .inactive
  terminating : Bool := false
  websocket : WebSocket := {}
  signalsBlocked : Bool := false
  resources : Resources := {}
  /-- issued and not finished, oldest first -/
  requests : List Request := []
  /-- newest first -/
  sent : List Frame := []
  /-- newest first -/
  signals : List Signal := []

def emit (s : State) (signal : Signal) : State :=
  if s.signalsBlocked then s else { s with signals := signal :: s.signals }

def emitAll (s : State) (signals : List Signal) : State := signals.foldl emit s

/-- `CHECK_CLIENT_TOKEN`, then a new invoker. -/
def request (s : State) (r : Request) : State :=
  if s.refreshToken then { s with requests := s.requests ++ [r] } else s

def refresh (s : State) : State := { s with requests := s.requests ++ [.refresh] }

def send (s : State) (frame : Frame) : State :=
  if s.websocket.started && s.websocket.valid then { s with sent := frame :: s.sent } else s

def subscribe (s : State) (name : String) (payload : QJsonObject) : State :=
  send s (.subscribe name payload)

def unsubscribe (s : State) (name : String) (payload : QJsonObject) : State :=
  send s (.unsubscribe name payload)

def uuidPayload (uuid : String) : QJsonObject := [("uuid", .string uuid)]

def WebSocket.start (w : WebSocket) : WebSocket :=
  if w.started then w else { w with started := true, reconnectCount := 0 }

/-- A closed socket is not valid any more. -/
def WebSocket.stop (w : WebSocket) : WebSocket :=
  if w.started then { w with started := false, valid := false } else w

def putUplinkBody (s : State) : QJsonObject :=
  [("participant_id",
      .string (if s.settings.participantId ≠ "none" then s.settings.participantId else "")),
    ("uplink_status", .string s.uplinkStatus.toString),
    ("protocols", .array [.string "srt", .string "rtmp"]),
    ("relay_apps", .array [.string "srtrelay", .string "mediamtx"]),
    ("force", .string "true")]

def putUplink (s : State) (startsWebSocket : Bool) : State :=
  request s (.putUplink (putUplinkBody s) startsWebSocket)

def putUplinkStatus (s : State) : State :=
  request s (.putUplinkStatus [("uplink_status", .string s.uplinkStatus.toString)])

def logout (s : State) : State := request s (.deleteUplink true true)

def syncOnlineResources (s : State) : State :=
  [Request.parties, .partyEvents, .participants, .stages].foldl request s

def clearOnlineResources (s : State) : State :=
  { s with resources := {}, settings := { participantId := "", partyId := "" } }

def terminate (s : State) : State :=
  request { s with terminating := true, resources.uplink := [] } (.deleteUplink true false)

def nextUplinkStatus (s : State) : UplinkStatus :=
  if 0 < s.activeOutputs then .active else if 0 < s.standByOutputs then .standby else .inactive

def syncUplinkStatus (s : State) (force : Bool) : State :=
  if s.resources.uplink.isEmpty then s
  else if force || nextUplinkStatus s != s.uplinkStatus then
    putUplinkStatus { s with uplinkStatus := nextUplinkStatus s }
  else s

/-- `emit licenseChanged`, whose slot is connected in the constructor. -/
def emitLicenseChanged (s : State) (license : QJsonObject) : State :=
  if s.signalsBlocked then s
  else
    let s := emit s (.licenseChanged license)
    if SubscriptionLicense.getLicenseValid license then putUplink s false else s

def onO2LinkingSucceeded (s : State) : State :=
  if s.linked then
    if s.refreshToken then
      let s := if s.resources.accountInfo.isEmpty then request s (.accountInfo true) else s
      emit s .loginSucceeded
    else s
  else
    emit (clearOnlineResources { s with websocket := s.websocket.stop }) .logoutSucceeded

def onO2LinkingFailed (s : State) : State :=
  emit { s with websocket := s.websocket.stop } .loginFailed

/-- `O2::unlink` drops the tokens and emits `linkingSucceeded`. -/
def unlink (s : State) : State :=
  onO2LinkingSucceeded { s with linked := false, refreshToken := false }

def licenseChanges (accountInfo license : QJsonObject) : Bool :=
  !accountInfo.isEmpty &&
    SubscriptionLicense.getLicenseValid (AccountInfo.getSubscriptionLicense accountInfo) !=
      SubscriptionLicense.getLicenseValid license

def onAccountInfoReply (s : State) (error : NetworkError) (body : QJsonValue) : State :=
  if error ≠ .noError then emit s .accountInfoFailed
  else
    let newAccountInfo := body.toObject
    if !AccountInfo.isValid newAccountInfo then emit s .accountInfoFailed
    else
      let license := AccountInfo.getSubscriptionLicense newAccountInfo
      let changes := licenseChanges s.resources.accountInfo license
      let s := emit { s with resources.accountInfo := newAccountInfo }
        (.accountInfoReady newAccountInfo)
      if changes then emitLicenseChanged s license else s

def onPartiesReply (s : State) (error : NetworkError) (body : QJsonValue) : State :=
  if error ≠ .noError then emit s .partiesFailed
  else
    let newParties := body.toArray
    if !every newParties Party.isValid then emit s .partiesFailed
    else
      let s := { s with resources.parties := newParties }
      let s :=
        if s.settings.partyId = "" && newParties.length > 0 then
          { s with settings.partyId := Party.getId (newParties.getD 0 .undefined).toObject }
        else s
      emit s (.partiesReady newParties)

/-- The reply slots of the other lists differ in the kind of document only. -/
def onListReply (isValid : QJsonObject → Bool) (store : Resources → QJsonArray → Resources)
    (ready : QJsonArray → Signal) (failed : Signal) (s : State) (error : NetworkError)
    (body : QJsonValue) : State :=
  if error ≠ .noError then emit s failed
  else
    let newItems := body.toArray
    if !every newItems isValid then emit s failed
    else emit { s with resources := store s.resources newItems } (ready newItems)

def onPartyEventsReply : State → NetworkError → QJsonValue → State :=
  onListReply PartyEvent.isValid (fun r items => { r with partyEvents := items })
    .partyEventsReady .partyEventsFailed

def onParticipantsReply : State → NetworkError → QJsonValue → State :=
  onListReply PartyEventParticipant.isValid (fun r items => { r with participants := items })
    .participantsReady .participantsFailed

def onStagesReply : State → NetworkError → QJsonValue → State :=
  onListReply Stage.isValid (fun r items => { r with stages := items }) .stagesReady .stagesFailed

/-- The reply slots of the uplink requests: what they emit besides `uplinkReady` and
`uplinkFailed`, and what they subscribe. -/
def onUplinkReply (failed : NetworkError → List Signal) (succeeded : QJsonObject → List Signal)
    (topics : List (String × QJsonObject)) (s : State) (error : NetworkError)
    (body : QJsonValue) : State :=
  if s.terminating then s
  else if error ≠ .noError then emitAll s (failed error ++ [.uplinkFailed s.uuid])
  else
    let newUplink := body.toObject
    if !UplinkInfo.isValid newUplink then
      emitAll s (failed .unknownContentError ++ [.uplinkFailed s.uuid])
    else
      let s := topics.foldl (fun s topic => subscribe s topic.1 topic.2)
        { s with resources.uplink := newUplink }
      emitAll s (succeeded newUplink ++ [.uplinkReady newUplink])

def onRequestUplinkReply : State → NetworkError → QJsonValue → State :=
  onUplinkReply (fun _ => []) (fun _ => []) []

def onPutUplinkReply (s : State) : NetworkError → QJsonValue → State :=
  onUplinkReply (fun error => [.putUplinkFailed s.uuid error])
    (fun uplink => [.putUplinkSucceeded uplink]) [("uplink", uuidPayload s.uuid)] s

def onPutUplinkStatusReply (s : State) : NetworkError → QJsonValue → State :=
  onUplinkReply (fun _ => [.putUplinkStatusFailed s.uuid])
    (fun uplink => [.putUplinkStatusSucceeded uplink]) [] s

/-- The reply slots of the downlink requests, with the same parameters. -/
def onDownlinkReply (failed : List Signal) (succeeded : QJsonObject → List Signal)
    (topics : List (String × QJsonObject)) (s : State) (sourceUuid : String)
    (error : NetworkError) (body : QJsonValue) : State :=
  if error ≠ .noError then emitAll s (failed ++ [.downlinkFailed sourceUuid])
  else
    let newDownlink := body.toObject
    if !DownlinkInfo.isValid newDownlink then emitAll s (failed ++ [.downlinkFailed sourceUuid])
    else
      let s := topics.foldl (fun s topic => subscribe s topic.1 topic.2)
        { s with resources.downlinks := s.resources.downlinks.insert sourceUuid newDownlink }
      emitAll s (succeeded newDownlink ++ [.downlinkReady newDownlink])

def onRequestDownlinkReply : State → String → NetworkError → QJsonValue → State :=
  onDownlinkReply [] (fun _ => []) []

def onPutDownlinkReply (s : State) (sourceUuid : String) : NetworkError → QJsonValue → State :=
  onDownlinkReply [.putDownlinkFailed sourceUuid] (fun downlink => [.putDownlinkSucceeded downlink])
    [("downlink", uuidPayload sourceUuid)] s sourceUuid

def onPutDownlinkStatusReply (s : State) (sourceUuid : String) :
    NetworkError → QJsonValue → State :=
  onDownlinkReply [.putDownlinkStatusFailed sourceUuid]
    (fun downlink => [.putDownlinkStatusSucceeded downlink]) [] s sourceUuid

def onDeleteDownlinkReply (s : State) (sourceUuid : String) (error : NetworkError) : State :=
  if error ≠ .noError then emit s (.deleteDownlinkFailed sourceUuid)
  else
    let s := unsubscribe s "downlink" (uuidPayload sourceUuid)
    if s.resources.downlinks.contains sourceUuid then
      emit { s with resources.downlinks := s.resources.downlinks.remove sourceUuid }
        (.deleteDownlinkSucceeded sourceUuid)
    else s

def onDeleteUplinkReply (s : State) (error : NetworkError) : State :=
  if error ≠ .noError then emit s (.deleteUplinkFailed s.uuid)
  else
    let s := unsubscribe s "uplink" (uuidPayload s.uuid)
    emit { s with resources.uplink := [] } (.deleteUplinkSucceeded s.uuid)

/-- `findIndex` by id, then `replace` or `append`. -/
def replaceOrAppend (getId : QJsonObject → String) (id : String) (newItem : QJsonObject)
    (items : QJsonArray) : QJsonArray :=
  KeyedArray.replaceOrAppend (fun item => getId item.toObject) id (.object newItem) items

def mergeParticipants (participants : QJsonArray) (merged : List QJsonObject) : QJsonArray :=
  merged.foldl (fun participants participant =>
    replaceOrAppend PartyEventParticipant.getId (PartyEventParticipant.getId participant)
      participant participants) participants

def onRedeemInviteCodeReply (s : State) (inviteCode : String) (error : NetworkError)
    (body : QJsonValue) : State :=
  if error ≠ .noError then emit s (.redeemInviteCodeFailed inviteCode)
  else
    let result := body.toObject
    let redeemed := values (MemberActivationResult.getParticipants result)
    let s := { s with
      resources.participants := mergeParticipants s.resources.participants redeemed }
    let s :=
      match redeemed with
      | [] => s
      | participant :: _ =>
        putUplink { s with settings.participantId := PartyEventParticipant.getId participant } false
    emitAll s [.redeemInviteCodeSucceeded result, .participantsReady s.resources.participants]

/-- The slots connected to `finished`, in connection order. -/
def onFinished (s : State) (r : Request) (error : NetworkError) (body : QJsonValue) : State :=
  match r with
  | .refresh => s
  | .accountInfo startsSession =>
    let s := onAccountInfoReply s error body
    if startsSession && error = .noError then putUplink s true else s
  | .parties => onPartiesReply s error body
  | .partyEvents => onPartyEventsReply s error body
  | .participants => onParticipantsReply s error body
  | .stages => onStagesReply s error body
  | .uplink => onRequestUplinkReply s error body
  | .downlink sourceUuid => onRequestDownlinkReply s sourceUuid error body
  | .putDownlink sourceUuid _ => onPutDownlinkReply s sourceUuid error body
  | .putDownlinkStatus sourceUuid => onPutDownlinkStatusReply s sourceUuid error body
  | .deleteDownlink sourceUuid _ => onDeleteDownlinkReply s sourceUuid error
  | .putUplink _ startsWebSocket =>
    let s := onPutUplinkReply s error body
    if startsWebSocket then { s with websocket := s.websocket.start } else s
  | .putUplinkStatus _ => onPutUplinkStatusReply s error body
  | .deleteUplink _ unlinks =>
    let s := onDeleteUplinkReply s error
    if unlinks then unlink s else s
  | .redeemInviteCode inviteCode => onRedeemInviteCodeReply s inviteCode error body

/-- A cached list that messages keep up to date one document at a time. -/
structure Collection where
  isValid : QJsonObject → Bool
  getId : QJsonObject → String
  items : Resources → QJsonArray
  store : Resources → QJsonArray → Resources
  ready : Resources → Signal

namespace Collection

def uplinkConnections : Collection where
  isValid := StageConnection.isValid
  getId := StageConnection.getId
  items r := UplinkInfo.getConnections r.uplink
  store r items := { r with uplink := UplinkInfo.setConnections r.uplink items }
  ready r := .uplinkReady r.uplink

def stages : Collection where
  isValid := Stage.isValid
  getId := Stage.getId
  items r := r.stages
  store r items := { r with stages := items }
  ready r := .stagesReady r.stages

def participants : Collection where
  isValid := PartyEventParticipant.isValid
  getId := PartyEventParticipant.getId
  items r := r.participants
  store r items := { r with participants := items }
  ready r := .participantsReady r.participants

def wsPortals : Collection where
  isValid := WsPortal.isValid
  getId := WsPortal.getId
  items r := r.wsPortals
  store r items := { r with wsPortals := items }
  ready r := .wsPortalsReady r.wsPortals

def change (c : Collection) (id : String) (newItem : QJsonObject) (r : Resources) : Resources :=
  c.store r (replaceOrAppend c.getId id newItem (c.items r))

/-- `findIndex` by id, then `removeAt`. -/
def remove (c : Collection) (id : String) (r : Resources) : Resources :=
  c.store r (KeyedArray.removeFirst (fun item => c.getId item.toObject) id (c.items r))

def contains (c : Collection) (id : String) (r : Resources) : Bool :=
  (TypedJsonArray.findIndex (c.items r) fun item => c.getId item = id).isSome

end Collection

def collectionChanged (c : Collection) (s : State) (id : String) (payload : QJsonObject) : State :=
  if !c.isValid payload then s
  else
    let s := { s with resources := c.change id payload s.resources }
    emit s (c.ready s.resources)

def collectionRemoved (c : Collection) (s : State) (id : String) : State :=
  if c.contains id s.resources then
    let s := { s with resources := c.remove id s.resources }
    emit s (c.ready s.resources)
  else s

/-- A document inside the uplink or the account information that messages replace. -/
structure Field where
  isValid : QJsonObject → Bool
  store : Resources → QJsonObject → Resources
  ready : Resources → Signal

namespace Field

def uplinkAllocation : Field where
  isValid := StageSeatAllocation.isValid
  store r allocation := { r with uplink := UplinkInfo.setAllocation r.uplink allocation }
  ready r := .uplinkReady r.uplink

def uplinkStage : Field where
  isValid := Stage.isValid
  store r stage := { r with uplink := UplinkInfo.setStage r.uplink stage }
  ready r := .uplinkReady r.uplink

def account : Field where
  isValid := Account.isValid
  store r account := { r with accountInfo := AccountInfo.setAccount r.accountInfo account }
  ready r := .accountInfoReady r.accountInfo

def subscriptionLicense : Field where
  isValid := SubscriptionLicense.isValid
  store r license :=
    { r with accountInfo := AccountInfo.setSubscriptionLicense r.accountInfo license }
  ready r := .accountInfoReady r.accountInfo

def resourceUsage : Field where
  isValid := AccountResourceUsage.isValid
  store r usage := { r with accountInfo := AccountInfo.setResourceUsage r.accountInfo usage }
  ready r := .accountInfoReady r.accountInfo

end Field

def fieldChanged (f : Field) (s : State) (payload : QJsonObject) : State :=
  if !f.isValid payload then s
  else
    let s := { s with resources := f.store s.resources payload }
    emit s (f.ready s.resources)

/-- A license message also tells whether the license has become valid or invalid. -/
def subscriptionLicenseChanged (s : State) (payload : QJsonObject) : State :=
  let changes := licenseChanges s.resources.accountInfo payload
  let changed := fieldChanged .subscriptionLicense s payload
  if SubscriptionLicense.isValid payload && changes then emitLicenseChanged changed payload
  else changed

def downlinkWithConnection (downlinks : QMap QJsonObject) (id : String)
    (connection : QJsonObject) : QJsonObject :=
  ((downlinks.lookup id).getD []).insert "connection" (.object connection)

def downlinkConnectionChanged (s : State) (id : String) (payload : QJsonObject) : State :=
  if !StageConnection.isValid payload then s
  else
    let downlink := downlinkWithConnection s.resources.downlinks id payload
    emit { s with resources.downlinks := s.resources.downlinks.insert id downlink }
      (.downlinkReady downlink)

def downlinkConnectionRemoved (s : State) (id : String) : State :=
  if s.resources.downlinks.contains id then
    emit { s with resources.downlinks := s.resources.downlinks.remove id } (.downlinkRemoved id)
  else s

def uplinkFieldRemoved (field : String) (fieldId : QJsonObject → String) (s : State)
    (id : String) : State :=
  if fieldId s.resources.uplink = id then
    let uplink := s.resources.uplink.remove field
    emit { s with resources.uplink := uplink } (.uplinkReady uplink)
  else s

def uplinkAllocationRemoved : State → String → State :=
  uplinkFieldRemoved "allocation" fun uplink =>
    StageSeatAllocation.getId (UplinkInfo.getAllocation uplink)

def uplinkStageRemoved : State → String → State :=
  uplinkFieldRemoved "stage" fun uplink => Stage.getId (UplinkInfo.getStage uplink)

def dataChanged (s : State) (name id : String) (payload : QJsonObject) : State :=
  match name with
  | "uplink.allocations" => fieldChanged .uplinkAllocation s payload
  | "uplink.stages" => fieldChanged .uplinkStage s payload
  | "uplink.connections" => collectionChanged .uplinkConnections s id payload
  | "downlink.connections" => downlinkConnectionChanged s id payload
  | "stages" => collectionChanged .stages s id payload
  | "participants" => collectionChanged .participants s id payload
  | "accounts" => fieldChanged .account s payload
  | "accounts.licenses" => subscriptionLicenseChanged s payload
  | "accounts.resourceUsage" => fieldChanged .resourceUsage s payload
  | "ws-portals" => collectionChanged .wsPortals s id payload
  | _ => s

def dataRemoved (s : State) (name id : String) : State :=
  match name with
  | "uplink.allocations" => uplinkAllocationRemoved s id
  | "uplink.stages" => uplinkStageRemoved s id
  | "uplink.connections" => collectionRemoved .uplinkConnections s id
  | "downlink.connections" => downlinkConnectionRemoved s id
  | "stages" => collectionRemoved .stages s id
  | "participants" => collectionRemoved .participants s id
  | "accounts" => logout s
  | "ws-portals" => collectionRemoved .wsPortals s id
  | _ => s

/-- `blockSignals` around the body of a data message. -/
def blockingSignals (s : State) (block : Bool) (body : State → State) : State :=
  { body { s with signalsBlocked := block } with signalsBlocked := false }

def onWebSocketDataChanged (s : State) (message : QJsonObject) : State :=
  blockingSignals s (WebSocketMessage.getContinuous message) fun s =>
    dataChanged s (WebSocketMessage.getName message) (WebSocketMessage.getId message)
      (WebSocketMessage.getPayload message)

def onWebSocketDataRemoved (s : State) (message : QJsonObject) : State :=
  blockingSignals s (WebSocketMessage.getContinuous message) fun s =>
    dataRemoved s (WebSocketMessage.getName message) (WebSocketMessage.getId message)

def readyTopics (s : State) (reconnect : Bool) : List (String × QJsonObject) :=
  [("accounts", [("initial_data", .bool reconnect)]),
    ("uplink", [("uuid", .string s.uuid), ("initial_data", .bool !reconnect)]),
    ("stages", [("initial_data", .bool true)]),
    ("participants", [("initial_data", .bool true)]),
    ("ws-portals", [("initial_data", .bool true)])]

/-- The body of the loop over the downlinks. -/
def resumeDownlink (reconnect : Bool) (s : State) (sourceUuid : String) : State :=
  let s := subscribe s "downlink" (uuidPayload sourceUuid)
  if reconnect then request s (.putDownlinkStatus sourceUuid) else s

def onWebSocketReady (s : State) (reconnect : Bool) : State :=
  let s := (readyTopics s reconnect).foldl (fun s topic => subscribe s topic.1 topic.2) s
  let s := s.resources.downlinks.keys.foldl (resumeDownlink reconnect) s
  let s := if reconnect then syncUplinkStatus s true else s
  emit s (.ready reconnect)

def onWebSocketAborted (s : State) (reason : String) : State :=
  if reason = "token-expired" || reason = "not-authorized" then refresh s else s

def onTextMessageReceived (s : State) (message : QJsonObject) : State :=
  let name := WebSocketMessage.getName message
  let payload := WebSocketMessage.getPayload message
  match WebSocketMessage.getEvent message with
  | "ready" => onWebSocketReady s (s.websocket.reconnectCount > 0)
  | "aborted" => onWebSocketAborted s (WebSocketMessage.getReason message)
  | "added" => onWebSocketDataChanged s message
  | "changed" => onWebSocketDataChanged s message
  | "removed" => onWebSocketDataRemoved s message
  | "subscribed" => emit s (.webSocketSubscribeSucceeded name payload)
  | "unsubscribed" => emit s (.webSocketUnsubscribeSucceeded name payload)
  | "invoked" => emit s (.webSocketInvokeSucceeded name payload)
  | "subscribe_failed" => emit s (.webSocketSubscribeFailed name payload)
  | "unsubscribe_failed" => emit s (.webSocketUnsubscribeFailed name payload)
  | "invoke_failed" => emit s (.webSocketInvokeFailed name payload)
  | _ => s

/-- A dropped connection or a failed attempt. -/
def onDisconnected (s : State) : State :=
  if s.websocket.started then
    { s with websocket :=
        { s.websocket with valid := false, reconnectCount := s.websocket.reconnectCount + 1 } }
  else emit { s with websocket := { s.websocket with valid := false } } .webSocketDisconnected

/-- What the rest of the plugin calls. -/
inductive Call where
  | logout
  | refresh
  | syncOnlineResources
  | requestAccountInfo
  | requestParties
  | requestPartyEvents
  | requestParticipants
  | requestStages
  | requestUplink
  | requestDownlink (sourceUuid : String)
  | putDownlink (sourceUuid : String) (params : QJsonObject)
  | putDownlinkStatus (sourceUuid : String)
  | deleteDownlink (sourceUuid : String) (parallel : Bool)
  | putUplink
  | putUplinkStatus
  | deleteUplink (parallel : Bool)
  | redeemInviteCode (inviteCode : String)
  | terminate
  | syncUplinkStatus (force : Bool)
  | countActiveOutputs (change : Int)
  | countStandByOutputs (change : Int)
  | setParticipantId (id : String)
  | setPartyId (id : String)

def perform (s : State) : Call → State
  | .logout => logout s
  | .refresh => refresh s
  | .syncOnlineResources => syncOnlineResources s
  | .requestAccountInfo => request s (.accountInfo false)
  | .requestParties => request s .parties
  | .requestPartyEvents => request s .partyEvents
  | .requestParticipants => request s .participants
  | .requestStages => request s .stages
  | .requestUplink => request s .uplink
  | .requestDownlink sourceUuid => request s (.downlink sourceUuid)
  | .putDownlink sourceUuid params => request s (.putDownlink sourceUuid params)
  | .putDownlinkStatus sourceUuid => request s (.putDownlinkStatus sourceUuid)
  | .deleteDownlink sourceUuid parallel => request s (.deleteDownlink sourceUuid parallel)
  | .putUplink => putUplink s false
  | .putUplinkStatus => putUplinkStatus s
  | .deleteUplink parallel => request s (.deleteUplink parallel false)
  | .redeemInviteCode inviteCode => request s (.redeemInviteCode inviteCode)
  | .terminate => terminate s
  | .syncUplinkStatus force => syncUplinkStatus s force
  | .countActiveOutputs change => { s with activeOutputs := s.activeOutputs + change }
  | .countStandByOutputs change => { s with standByOutputs := s.standByOutputs + change }
  | .setParticipantId id => { s with settings.participantId := id }
  | .setPartyId id => { s with settings.partyId := id }

inductive Event where
  | call (c : Call)
  /-- the request at this position finishes -/
  | reply (position : Nat) (error : NetworkError) (body : QJsonValue)
  | textMessage (message : QJsonObject)
  | socketConnected
  | socketDisconnected
  /-- `O2` stores what it knows of the link and of the refresh token -/
  | tokensStored (linked refreshToken : Bool)
  | linkingSucceeded
  | linkingFailed

def step (s : State) : Event → Option State
  | .call c => some (perform s c)
  | .reply position error body =>
    (s.requests[position]?).map fun r =>
      onFinished { s with requests := s.requests.eraseIdx position } r error body
  | .textMessage message => some (onTextMessageReceived s message)
  | .socketConnected => some { s with websocket := { s.websocket with valid := true } }
  | .socketDisconnected => some (onDisconnected s)
  | .tokensStored linked refreshToken =>
    some { s with linked := linked, refreshToken := refreshToken }
  | .linkingSucceeded => some (onO2LinkingSucceeded s)
  | .linkingFailed => some (onO2LinkingFailed s)

/-- The constructor: the tokens come from the settings store. -/
def construct (uuid : String) (settings : Settings) (linked refreshToken expired : Bool) : State :=
  let s : State :=
    { uuid := uuid, settings := settings, linked := linked, refreshToken := refreshToken }
  if expired then refresh s else request s (.accountInfo true)

def Constructed (s : State) : Prop :=
  ∃ uuid settings linked refreshToken expired,
    s = construct uuid settings linked refreshToken expired

def stageDocument (id : String) : QJsonObject :=
  [("_id", .string id), ("name", .string "main"), ("owner_user_id", .string "user"),
    ("owner_account_view", .object [("display_name", .string "owner")])]

def uplinkDocument : QJsonObject :=
  [("connections", .array []), ("public_address", .string "192.0.2.1")]

def connectionDocument (id : String) : QJsonObject :=
  [("_id", .string id), ("relay", .bool false)] ++
    ["stage_id", "seat_name", "source_name", "protocol", "server", "stream_id", "passphrase",
      "parameters", "owner_user_id"].map (fun field => (field, .string field)) ++
    ["port", "max_bitrate", "min_bitrate", "width", "height", "revision"].map
      fun field => (field, .double 1)

def dataMessage (event name id : String) (payload : QJsonObject) : QJsonObject :=
  [("event", .string event), ("name", .string name), ("id", .string id),
    ("payload", .object payload)]

def freshClient : State :=
  construct "client" { participantId := "", partyId := "" } true true false

theorem freshClient_constructed : Constructed freshClient := ⟨_, _, _, _, _, rfl⟩

end SrcLink.ApiClient
