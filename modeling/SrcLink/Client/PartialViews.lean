import SrcLink.Client.FrameRule

/-! # Views of a part of the client

A view of the state sees the signals of some aspects of the client and what else belongs to
these: the downlinks of the cache, the participant id, the start of the WebSocket. A handler
that is concerned with other aspects leaves the view alone; what a login or a logout does is
left to the view.
-/

namespace SrcLink.ApiClient

open Json Json.TypedJsonArray Schema Schema.WebSocketMessage

set_option autoImplicit false

inductive Aspect where
  | session
  | connection
  | account
  | parties
  | partyEvents
  | participants
  | stages
  | uplink
  | downlinks
  | inviteCodes
  | wsPortals
  | webSocketStart
  deriving DecidableEq

def Signal.aspect : Signal → Aspect
  | .loginSucceeded | .loginFailed | .logoutSucceeded => .session
  | .ready _ | .webSocketDisconnected | .webSocketSubscribeSucceeded _ _
  | .webSocketSubscribeFailed _ _ | .webSocketUnsubscribeSucceeded _ _
  | .webSocketUnsubscribeFailed _ _ | .webSocketInvokeSucceeded _ _
  | .webSocketInvokeFailed _ _ => .connection
  | .accountInfoReady _ | .accountInfoFailed | .licenseChanged _ => .account
  | .partiesReady _ | .partiesFailed => .parties
  | .partyEventsReady _ | .partyEventsFailed => .partyEvents
  | .participantsReady _ | .participantsFailed => .participants
  | .stagesReady _ | .stagesFailed => .stages
  | .uplinkReady _ | .uplinkFailed _ | .putUplinkSucceeded _ | .putUplinkFailed _ _
  | .putUplinkStatusSucceeded _ | .putUplinkStatusFailed _ | .deleteUplinkSucceeded _
  | .deleteUplinkFailed _ => .uplink
  | .downlinkReady _ | .downlinkRemoved _ | .downlinkFailed _ | .putDownlinkSucceeded _
  | .putDownlinkFailed _ | .putDownlinkStatusSucceeded _ | .putDownlinkStatusFailed _
  | .deleteDownlinkSucceeded _ | .deleteDownlinkFailed _ => .downlinks
  | .redeemInviteCodeSucceeded _ | .redeemInviteCodeFailed _ => .inviteCodes
  | .wsPortalsReady _ => .wsPortals

def Request.startsWebSocket : Request → Bool
  | .putUplink _ startsWebSocket => startsWebSocket
  | _ => false

/-- Whether the reply ends the session. -/
def Request.unlinks : Request → Bool
  | .deleteUplink _ unlinks => unlinks
  | _ => false

/-- What the slots of a request are concerned with. -/
def Request.aspects : Request → List Aspect
  | .refresh => []
  | .accountInfo startsSession => if startsSession then [.account, .webSocketStart] else [.account]
  | .parties => [.parties]
  | .partyEvents => [.partyEvents]
  | .participants => [.participants]
  | .stages => [.stages]
  | .uplink | .putUplinkStatus _ => [.uplink]
  | .putUplink _ startsWebSocket =>
    if startsWebSocket then [.uplink, .webSocketStart] else [.uplink]
  | .deleteUplink _ unlinks => if unlinks then [.uplink, .session] else [.uplink]
  | .downlink _ | .putDownlink _ _ | .putDownlinkStatus _ | .deleteDownlink _ _ => [.downlinks]
  | .redeemInviteCode _ => [.inviteCodes, .participants]

/-- What the data messages of a name are concerned with. -/
def messageAspect (name : String) : Aspect :=
  match name with
  | "uplink.allocations" => .uplink
  | "uplink.stages" => .uplink
  | "uplink.connections" => .uplink
  | "downlink.connections" => .downlinks
  | "stages" => .stages
  | "participants" => .participants
  | "accounts" => .account
  | "accounts.licenses" => .account
  | "accounts.resourceUsage" => .account
  | "ws-portals" => .wsPortals
  | _ => .connection

theorem messageAspect_ne_webSocketStart (name : String) :
    messageAspect name ≠ .webSocketStart := by
  unfold messageAspect
  split <;> nofun

structure PartialView {β : Type} (seen : Aspect → Bool) (π : State → β) : Prop where
  emit : ∀ s signal, seen signal.aspect = false → π (emit s signal) = π s
  send : ∀ s frame, π (send s frame) = π s
  append : ∀ s r, r.startsWebSocket = false ∨ seen .webSocketStart = false →
    π { s with requests := s.requests ++ [r] } = π s
  requests : seen .webSocketStart = false → ∀ s requests, π { s with requests := requests } = π s
  websocket : seen .webSocketStart = false →
    ∀ s websocket, π { s with websocket := websocket } = π s
  resources : ∀ s resources, resources.downlinks = s.resources.downlinks →
    π { s with resources := resources } = π s
  downlinks : seen .downlinks = false → ∀ s downlinks,
    π { s with resources.downlinks := downlinks } = π s
  participantId : seen .participants = false → ∀ s id,
    π { s with settings.participantId := id } = π s
  partyId : ∀ s id, π { s with settings.partyId := id } = π s
  signalsBlocked : ∀ s block, π { s with signalsBlocked := block } = π s
  terminating : ∀ s terminating, π { s with terminating := terminating } = π s
  uplinkStatus : ∀ s status, π { s with uplinkStatus := status } = π s
  outputs : ∀ s active standBy,
    π { s with activeOutputs := active, standByOutputs := standBy } = π s
  tokens : ∀ s linked refreshToken,
    π { s with linked := linked, refreshToken := refreshToken } = π s

namespace PartialView

variable {β : Type} {seen : Aspect → Bool} {π : State → β} (h : PartialView seen π)

section Primitives

variable (s : State)

include h

theorem emitAll {signals : List Signal} (hSeen : ∀ signal ∈ signals, seen signal.aspect = false) :
    π (emitAll s signals) = π s := by
  induction signals generalizing s with
  | nil => rfl
  | cons signal signals ih =>
    obtain ⟨hFirst, hRest⟩ := List.forall_mem_cons.mp hSeen
    exact (ih (ApiClient.emit s signal) hRest).trans (h.emit s signal hFirst)

/-- Signals of one aspect, with another one at the end. -/
theorem emitOwn {aspect : Aspect} (hSeen : seen aspect = false) {signals : List Signal}
    {last : Signal} (hSignals : ∀ signal ∈ signals, signal.aspect = aspect)
    (hLast : last.aspect = aspect) : π (ApiClient.emitAll s (signals ++ [last])) = π s := by
  refine h.emitAll s (List.forall_mem_append.mpr ⟨fun signal hMem => ?_, ?_⟩)
  · exact hSignals signal hMem ▸ hSeen
  · exact List.forall_mem_singleton.mpr (hLast ▸ hSeen)

theorem request {r : Request} (hSeen : r.startsWebSocket = false ∨ seen .webSocketStart = false) :
    π (request s r) = π s := by
  unfold ApiClient.request
  split
  · exact h.append s r hSeen
  · rfl

theorem putUplink : π (putUplink s false) = π s := h.request s (.inl rfl)

theorem subscribeTopics (topics : List (String × QJsonObject)) :
    π (topics.foldl (fun s topic => subscribe s topic.1 topic.2) s) = π s :=
  foldl_keeps π (fun s _ => h.send s _) topics s

theorem syncUplinkStatus (force : Bool) : π (syncUplinkStatus s force) = π s := by
  unfold ApiClient.syncUplinkStatus
  split
  · rfl
  · split
    · exact (h.request _ (.inl rfl)).trans (h.uplinkStatus s _)
    · rfl

theorem emitLicenseChanged (hSeen : seen .account = false) (license : QJsonObject) :
    π (emitLicenseChanged s license) = π s := by
  have hAnnounced := h.emit s (.licenseChanged license) hSeen
  simp only [ApiClient.emitLicenseChanged]
  split
  · rfl
  · split
    · exact (h.putUplink _).trans hAnnounced
    · exact hAnnounced

theorem terminate : π (terminate s) = π s := by
  have hCleared := h.resources { s with terminating := true } { s.resources with uplink := [] } rfl
  exact (h.request _ (.inl rfl)).trans (hCleared.trans (h.terminating s true))

theorem perform {c : Call} (hSeen : seen .participants = false ∨ ∀ id, c ≠ .setParticipantId id) :
    π (perform s c) = π s := by
  cases c with
  | syncOnlineResources =>
    simp only [ApiClient.perform, syncOnlineResources, List.foldl_cons, List.foldl_nil]
    rw [h.request _ (.inl rfl), h.request _ (.inl rfl), h.request _ (.inl rfl),
      h.request _ (.inl rfl)]
  | syncUplinkStatus force => exact h.syncUplinkStatus s force
  | terminate => exact h.terminate s
  | refresh => exact h.append s _ (.inl rfl)
  | countActiveOutputs | countStandByOutputs => exact h.outputs s _ _
  | setParticipantId id =>
    exact h.participantId (hSeen.resolve_right fun hOther => hOther id rfl) s id
  | setPartyId id => exact h.partyId s id
  | _ => exact h.request s (.inl rfl)

end Primitives

section Replies

variable (s : State) (error : NetworkError) (body : QJsonValue)

include h

theorem onAccountInfoReply (hSeen : seen .account = false) :
    π (onAccountInfoReply s error body) = π s := by
  have hStored : π (ApiClient.emit { s with resources.accountInfo := body.toObject }
      (.accountInfoReady body.toObject)) = π s :=
    (h.emit _ (.accountInfoReady _) hSeen).trans (h.resources s _ rfl)
  simp only [ApiClient.onAccountInfoReply]
  split
  · exact h.emit s _ hSeen
  · split
    · exact h.emit s _ hSeen
    · split
      · exact (h.emitLicenseChanged _ hSeen _).trans hStored
      · exact hStored

theorem onPartiesReply (hSeen : seen .parties = false) : π (onPartiesReply s error body) = π s := by
  have hStored := h.resources s { s.resources with parties := body.toArray } rfl
  simp only [ApiClient.onPartiesReply]
  split
  · exact h.emit s _ hSeen
  · split
    · exact h.emit s _ hSeen
    · refine (h.emit _ (.partiesReady _) hSeen).trans ?_
      split
      · exact (h.partyId _ _).trans hStored
      · exact hStored

theorem onListReply {isValid : QJsonObject → Bool} {store : Resources → QJsonArray → Resources}
    {ready : QJsonArray → Signal} {failed : Signal}
    (hStore : ∀ r items, (store r items).downlinks = r.downlinks) {aspect : Aspect}
    (hSeen : seen aspect = false) (hReady : ∀ items, (ready items).aspect = aspect)
    (hFailed : failed.aspect = aspect) :
    π (onListReply isValid store ready failed s error body) = π s := by
  have hRefused := h.emit s failed (hFailed ▸ hSeen)
  simp only [ApiClient.onListReply]
  split
  · exact hRefused
  · split
    · exact hRefused
    · exact (h.emit _ _ (hReady _ ▸ hSeen)).trans (h.resources s _ (hStore _ _))

theorem onUplinkReply (hSeen : seen .uplink = false) {failed : NetworkError → List Signal}
    {succeeded : QJsonObject → List Signal} (topics : List (String × QJsonObject))
    (hFailed : ∀ error, ∀ signal ∈ failed error, signal.aspect = .uplink)
    (hSucceeded : ∀ uplink, ∀ signal ∈ succeeded uplink, signal.aspect = .uplink) :
    π (onUplinkReply failed succeeded topics s error body) = π s := by
  simp only [ApiClient.onUplinkReply]
  split
  · rfl
  · split
    · exact h.emitOwn s hSeen (hFailed _) rfl
    · split
      · exact h.emitOwn s hSeen (hFailed _) rfl
      · refine (h.emitOwn _ hSeen (hSucceeded _) rfl).trans ?_
        exact (h.subscribeTopics _ topics).trans (h.resources s _ rfl)

theorem onDownlinkReply (hSeen : seen .downlinks = false) {failed : List Signal}
    {succeeded : QJsonObject → List Signal} (topics : List (String × QJsonObject))
    (sourceUuid : String) (hFailed : ∀ signal ∈ failed, signal.aspect = .downlinks)
    (hSucceeded : ∀ downlink, ∀ signal ∈ succeeded downlink, signal.aspect = .downlinks) :
    π (onDownlinkReply failed succeeded topics s sourceUuid error body) = π s := by
  simp only [ApiClient.onDownlinkReply]
  split
  · exact h.emitOwn s hSeen hFailed rfl
  · split
    · exact h.emitOwn s hSeen hFailed rfl
    · refine (h.emitOwn _ hSeen (hSucceeded _) rfl).trans ?_
      exact (h.subscribeTopics _ topics).trans (h.downlinks hSeen s _)

theorem onDeleteDownlinkReply (hSeen : seen .downlinks = false) (sourceUuid : String) :
    π (onDeleteDownlinkReply s sourceUuid error) = π s := by
  simp only [ApiClient.onDeleteDownlinkReply]
  split
  · exact h.emit s _ hSeen
  · split
    · refine (h.emit _ (.deleteDownlinkSucceeded _) hSeen).trans ?_
      exact (h.downlinks hSeen _ _).trans (h.send s _)
    · exact h.send s _

theorem onDeleteUplinkReply (hSeen : seen .uplink = false) :
    π (onDeleteUplinkReply s error) = π s := by
  simp only [ApiClient.onDeleteUplinkReply]
  split
  · exact h.emit s _ hSeen
  · let sent := unsubscribe s "uplink" (uuidPayload s.uuid)
    have hCleared := h.resources sent { sent.resources with uplink := [] } rfl
    exact (h.emit _ (.deleteUplinkSucceeded _) hSeen).trans (hCleared.trans (h.send s _))

theorem onRedeemInviteCodeReply (hSeen : seen .inviteCodes = false)
    (hParticipants : seen .participants = false) (inviteCode : String) :
    π (onRedeemInviteCodeReply s inviteCode error body) = π s := by
  have hMerged := h.resources s { s.resources with
    participants := mergeParticipants s.resources.participants
      (values (MemberActivationResult.getParticipants body.toObject)) } rfl
  simp only [ApiClient.onRedeemInviteCodeReply]
  split
  · exact h.emit s _ hSeen
  · refine (h.emitAll _ ?_).trans ?_
    · exact List.forall_mem_cons.mpr ⟨hSeen, List.forall_mem_singleton.mpr hParticipants⟩
    · split
      · exact hMerged
      · exact (h.putUplink _).trans ((h.participantId hParticipants _ _).trans hMerged)

end Replies

section Messages

variable (s : State)

include h

theorem collectionChanged (k : Kind) (hSeen : ∀ r, seen (k.collection.ready r).aspect = false)
    (id : String) (payload : QJsonObject) :
    π (collectionChanged k.collection s id payload) = π s := by
  have hStored := h.resources s (k.collection.change id payload s.resources) (by cases k <;> rfl)
  simp only [ApiClient.collectionChanged]
  split
  · rfl
  · exact (h.emit _ _ (hSeen _)).trans hStored

theorem collectionRemoved (k : Kind) (hSeen : ∀ r, seen (k.collection.ready r).aspect = false)
    (id : String) : π (collectionRemoved k.collection s id) = π s := by
  have hStored := h.resources s (k.collection.remove id s.resources) (by cases k <;> rfl)
  simp only [ApiClient.collectionRemoved]
  split
  · exact (h.emit _ _ (hSeen _)).trans hStored
  · rfl

theorem fieldChanged (f : Field)
    (hStore : ∀ r payload, (f.store r payload).downlinks = r.downlinks)
    (hSeen : ∀ r, seen (f.ready r).aspect = false) (payload : QJsonObject) :
    π (fieldChanged f s payload) = π s := by
  simp only [ApiClient.fieldChanged]
  split
  · rfl
  · exact (h.emit _ _ (hSeen _)).trans (h.resources s _ (hStore _ _))

theorem uplinkFieldRemoved (hSeen : seen .uplink = false) (field : String)
    (fieldId : QJsonObject → String) (id : String) :
    π (uplinkFieldRemoved field fieldId s id) = π s := by
  simp only [ApiClient.uplinkFieldRemoved]
  split
  · exact (h.emit _ (.uplinkReady _) hSeen).trans (h.resources s _ rfl)
  · rfl

theorem dataChanged {name : String} (hSeen : seen (messageAspect name) = false) (id : String)
    (payload : QJsonObject) : π (dataChanged s name id payload) = π s := by
  unfold ApiClient.dataChanged
  split
  · exact h.fieldChanged s .uplinkAllocation (fun _ _ => rfl) (fun _ => hSeen) payload
  · exact h.fieldChanged s .uplinkStage (fun _ _ => rfl) (fun _ => hSeen) payload
  · exact h.collectionChanged s .uplinkConnections (fun _ => hSeen) id payload
  · simp only [downlinkConnectionChanged]
    split
    · rfl
    · exact (h.emit _ (.downlinkReady _) hSeen).trans (h.downlinks hSeen s _)
  · exact h.collectionChanged s .stages (fun _ => hSeen) id payload
  · exact h.collectionChanged s .participants (fun _ => hSeen) id payload
  · exact h.fieldChanged s .account (fun _ _ => rfl) (fun _ => hSeen) payload
  · have hField : π (ApiClient.fieldChanged .subscriptionLicense s payload) = π s :=
      h.fieldChanged s .subscriptionLicense (fun _ _ => rfl) (fun _ => hSeen) payload
    simp only [subscriptionLicenseChanged]
    split
    · exact (h.emitLicenseChanged _ hSeen _).trans hField
    · exact hField
  · exact h.fieldChanged s .resourceUsage (fun _ _ => rfl) (fun _ => hSeen) payload
  · exact h.collectionChanged s .wsPortals (fun _ => hSeen) id payload
  · rfl

theorem dataRemoved {name : String} (hSeen : seen (messageAspect name) = false) (id : String) :
    π (dataRemoved s name id) = π s := by
  unfold ApiClient.dataRemoved
  split
  · exact h.uplinkFieldRemoved s hSeen _ _ id
  · exact h.uplinkFieldRemoved s hSeen _ _ id
  · exact h.collectionRemoved s .uplinkConnections (fun _ => hSeen) id
  · simp only [downlinkConnectionRemoved]
    split
    · exact (h.emit _ (.downlinkRemoved _) hSeen).trans (h.downlinks hSeen s _)
    · rfl
  · exact h.collectionRemoved s .stages (fun _ => hSeen) id
  · exact h.collectionRemoved s .participants (fun _ => hSeen) id
  · exact h.request s (.inl rfl)
  · exact h.collectionRemoved s .wsPortals (fun _ => hSeen) id
  · rfl

theorem blockingSignals (block : Bool) {body : State → State}
    (hBody : π (body { s with signalsBlocked := block }) = π { s with signalsBlocked := block }) :
    π (blockingSignals s block body) = π s :=
  (h.signalsBlocked _ false).trans (hBody.trans (h.signalsBlocked s block))

theorem onWebSocketReady (hSeen : seen .connection = false) (reconnect : Bool) :
    π (onWebSocketReady s reconnect) = π s := by
  have hResume (t : State) (sourceUuid : String) :
      π (resumeDownlink reconnect t sourceUuid) = π t := by
    simp only [resumeDownlink]
    split
    · exact (h.request _ (.inl rfl)).trans (h.send t _)
    · exact h.send t _
  have hResumed (uuids : List String) (t : State) :
      π (uuids.foldl (ApiClient.resumeDownlink reconnect) t) = π t := foldl_keeps π hResume uuids t
  have hTopics := h.subscribeTopics s (readyTopics s reconnect)
  simp only [ApiClient.onWebSocketReady]
  refine (h.emit _ (.ready reconnect) hSeen).trans ?_
  split
  · exact (h.syncUplinkStatus _ true).trans ((hResumed _ _).trans hTopics)
  · exact (hResumed _ _).trans hTopics

theorem onTextMessageReceived (hConnection : seen .connection = false) {m : QJsonObject}
    (hData : IsChange m ∨ IsRemoval m → seen (messageAspect (getName m)) = false) :
    π (onTextMessageReceived s m) = π s := by
  have hChanged (hChange : IsChange m) : π (onWebSocketDataChanged s m) = π s :=
    h.blockingSignals s _ (h.dataChanged _ (hData (.inl hChange)) _ _)
  simp only [ApiClient.onTextMessageReceived]
  split
  · exact h.onWebSocketReady s hConnection _
  · simp only [onWebSocketAborted]
    split
    · exact h.append s _ (.inl rfl)
    · rfl
  · next hEvent => exact hChanged (.inl hEvent)
  · next hEvent => exact hChanged (.inr hEvent)
  · next hEvent => exact h.blockingSignals s _ (h.dataRemoved _ (hData (.inr hEvent)) _)
  all_goals first | exact h.emit s _ hConnection | rfl

end Messages

section Steps

variable {s : State}

include h

/-- The slot of `logout` is not covered. -/
theorem onFinished {r : Request} (hSeen : ∀ aspect ∈ r.aspects, seen aspect = false)
    (hStays : r.unlinks = false) (error : NetworkError) (body : QJsonValue) :
    π (onFinished s r error body) = π s := by
  cases r with
  | refresh => rfl
  | accountInfo startsSession =>
    cases startsSession with
    | false => exact h.onAccountInfoReply s error body (hSeen _ List.mem_cons_self)
    | true =>
      have hReply := h.onAccountInfoReply s error body (hSeen _ List.mem_cons_self)
      simp only [ApiClient.onFinished]
      split
      · exact (h.request _ (.inr (hSeen _ (.tail _ (.head _))))).trans hReply
      · exact hReply
  | parties => exact h.onPartiesReply s error body (hSeen _ List.mem_cons_self)
  | partyEvents =>
    rw [ApiClient.onFinished, onPartyEventsReply]
    exact h.onListReply s error body (fun _ _ => rfl) (hSeen _ List.mem_cons_self)
      (fun _ => rfl) rfl
  | participants =>
    rw [ApiClient.onFinished, onParticipantsReply]
    exact h.onListReply s error body (fun _ _ => rfl) (hSeen _ List.mem_cons_self)
      (fun _ => rfl) rfl
  | stages =>
    rw [ApiClient.onFinished, onStagesReply]
    exact h.onListReply s error body (fun _ _ => rfl) (hSeen _ List.mem_cons_self)
      (fun _ => rfl) rfl
  | uplink =>
    exact h.onUplinkReply s error body (hSeen _ List.mem_cons_self) _
      (fun _ => List.forall_mem_nil _) fun _ => List.forall_mem_nil _
  | putUplinkStatus sentBody =>
    exact h.onUplinkReply s error body (hSeen _ List.mem_cons_self) _
      (fun _ => List.forall_mem_singleton.mpr rfl) fun _ => List.forall_mem_singleton.mpr rfl
  | putUplink sentBody startsWebSocket =>
    have hReply (hOwn : seen .uplink = false) : π (onPutUplinkReply s error body) = π s :=
      h.onUplinkReply s error body hOwn _ (fun _ => List.forall_mem_singleton.mpr rfl)
        fun _ => List.forall_mem_singleton.mpr rfl
    cases startsWebSocket with
    | false => exact hReply (hSeen _ List.mem_cons_self)
    | true =>
      refine (h.websocket (hSeen _ (.tail _ (.head _))) _ _).trans ?_
      exact hReply (hSeen _ List.mem_cons_self)
  | deleteUplink parallel unlinks =>
    cases unlinks with
    | false => exact h.onDeleteUplinkReply s error (hSeen _ List.mem_cons_self)
    | true => cases hStays
  | downlink sourceUuid =>
    exact h.onDownlinkReply s error body (hSeen _ List.mem_cons_self) _ sourceUuid
      (List.forall_mem_nil _) fun _ => List.forall_mem_nil _
  | putDownlink sourceUuid | putDownlinkStatus sourceUuid =>
    exact h.onDownlinkReply s error body (hSeen _ List.mem_cons_self) _ sourceUuid
      (List.forall_mem_singleton.mpr rfl) fun _ => List.forall_mem_singleton.mpr rfl
  | deleteDownlink sourceUuid parallel =>
    exact h.onDeleteDownlinkReply s error (hSeen _ List.mem_cons_self) sourceUuid
  | redeemInviteCode inviteCode =>
    exact h.onRedeemInviteCodeReply s error body (hSeen _ List.mem_cons_self)
      (hSeen _ (.tail _ (.head _))) inviteCode

end Steps

end PartialView

end SrcLink.ApiClient
