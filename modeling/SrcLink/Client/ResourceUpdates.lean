import SrcLink.Client.ApiClient
import SrcLink.Library.StepSystem

/-! # What a step does to the cached resources

Only the replies, the data messages and the two clearing steps write the caches.
`Update` lists the writes with the checks that guard them; every result about the
caches follows from it without going back to the handlers.
-/

namespace SrcLink.ApiClient

open Json Json.TypedJsonArray Schema StepSystem

set_option autoImplicit false

theorem foldl_keeps {α β : Type} (π : State → β) {f : State → α → State}
    (hKeeps : ∀ s x, π (f s x) = π s) (xs : List α) (s : State) : π (xs.foldl f s) = π s := by
  induction xs generalizing s with
  | nil => rfl
  | cons x xs ih => rw [List.foldl_cons, ih, hKeeps]

section Resources

variable (s : State)

@[simp] theorem emit_resources (signal : Signal) : (emit s signal).resources = s.resources := by
  unfold emit
  split <;> rfl

@[simp] theorem emitAll_resources (signals : List Signal) :
    (emitAll s signals).resources = s.resources :=
  foldl_keeps State.resources emit_resources signals s

@[simp] theorem request_resources (r : Request) : (request s r).resources = s.resources := by
  unfold request
  split <;> rfl

@[simp] theorem refresh_resources : (refresh s).resources = s.resources := rfl

@[simp] theorem subscribe_resources (name : String) (payload : QJsonObject) :
    (subscribe s name payload).resources = s.resources := by
  unfold subscribe send
  split <;> rfl

@[simp] theorem unsubscribe_resources (name : String) (payload : QJsonObject) :
    (unsubscribe s name payload).resources = s.resources := by
  unfold unsubscribe send
  split <;> rfl

@[simp] theorem subscribeTopics_resources (topics : List (String × QJsonObject)) :
    (topics.foldl (fun s topic => subscribe s topic.1 topic.2) s).resources = s.resources :=
  foldl_keeps State.resources (fun s _ => subscribe_resources s _ _) topics s

@[simp] theorem putUplink_resources (startsWebSocket : Bool) :
    (putUplink s startsWebSocket).resources = s.resources :=
  request_resources s _

@[simp] theorem putUplinkStatus_resources : (putUplinkStatus s).resources = s.resources :=
  request_resources s _

@[simp] theorem logout_resources : (logout s).resources = s.resources := request_resources s _

@[simp] theorem syncOnlineResources_resources : (syncOnlineResources s).resources = s.resources :=
  foldl_keeps State.resources request_resources _ s

@[simp] theorem syncUplinkStatus_resources (force : Bool) :
    (syncUplinkStatus s force).resources = s.resources := by
  unfold syncUplinkStatus
  split
  · rfl
  · split
    · exact putUplinkStatus_resources _
    · rfl

@[simp] theorem emitLicenseChanged_resources (license : QJsonObject) :
    (emitLicenseChanged s license).resources = s.resources := by
  unfold emitLicenseChanged
  split
  · rfl
  · split <;> simp

theorem resumeDownlink_resources (reconnect : Bool) (s : State) (sourceUuid : String) :
    (resumeDownlink reconnect s sourceUuid).resources = s.resources := by
  unfold resumeDownlink
  split <;> simp

@[simp] theorem onWebSocketReady_resources (reconnect : Bool) :
    (onWebSocketReady s reconnect).resources = s.resources := by
  unfold onWebSocketReady
  split <;> simp [foldl_keeps State.resources (resumeDownlink_resources reconnect)]

@[simp] theorem onWebSocketAborted_resources (reason : String) :
    (onWebSocketAborted s reason).resources = s.resources := by
  unfold onWebSocketAborted
  split <;> rfl

@[simp] theorem onO2LinkingFailed_resources : (onO2LinkingFailed s).resources = s.resources :=
  emit_resources _ _

@[simp] theorem onDisconnected_resources : (onDisconnected s).resources = s.resources := by
  unfold onDisconnected
  split
  · rfl
  · exact emit_resources _ _

theorem onO2LinkingSucceeded_resources :
    (onO2LinkingSucceeded s).resources = if s.linked then s.resources else {} := by
  unfold onO2LinkingSucceeded
  split
  · split
    · split <;> simp
    · rfl
  · simp [clearOnlineResources]

@[simp] theorem unlink_resources : (unlink s).resources = {} :=
  onO2LinkingSucceeded_resources _

end Resources

section Replies

variable (s : State) (error : NetworkError) (body : QJsonValue)

theorem onAccountInfoReply_resources :
    (onAccountInfoReply s error body).resources =
      if error = .noError ∧ AccountInfo.isValid body.toObject then
        { s.resources with accountInfo := body.toObject }
      else s.resources := by
  unfold onAccountInfoReply
  by_cases hError : error = .noError
  · by_cases hValid : AccountInfo.isValid body.toObject = true
    · simp only [hError, hValid, ne_eq, not_true_eq_false, if_false, Bool.not_true,
        Bool.false_eq_true, and_self, if_true]
      split <;> simp
    · simp [hError, hValid]
  · simp [hError]

theorem onPartiesReply_resources :
    (onPartiesReply s error body).resources =
      if error = .noError ∧ every body.toArray Party.isValid then
        { s.resources with parties := body.toArray }
      else s.resources := by
  unfold onPartiesReply
  by_cases hError : error = .noError
  · by_cases hValid : every body.toArray Party.isValid = true
    · simp only [hError, hValid, ne_eq, not_true_eq_false, if_false, Bool.not_true,
        Bool.false_eq_true, and_self, if_true]
      split <;> simp
    · simp [hError, hValid]
  · simp [hError]

theorem onListReply_resources (isValid : QJsonObject → Bool)
    (store : Resources → QJsonArray → Resources) (ready : QJsonArray → Signal) (failed : Signal) :
    (onListReply isValid store ready failed s error body).resources =
      if error = .noError ∧ every body.toArray isValid then store s.resources body.toArray
      else s.resources := by
  unfold onListReply
  by_cases hError : error = .noError
  · by_cases hValid : every body.toArray isValid = true <;> simp [hError, hValid]
  · simp [hError]

theorem onUplinkReply_resources (failed : NetworkError → List Signal)
    (succeeded : QJsonObject → List Signal) (topics : List (String × QJsonObject)) :
    (onUplinkReply failed succeeded topics s error body).resources =
      if s.terminating = false ∧ error = .noError ∧ UplinkInfo.isValid body.toObject then
        { s.resources with uplink := body.toObject }
      else s.resources := by
  unfold onUplinkReply
  by_cases hTerminating : s.terminating = true
  · simp [hTerminating]
  · by_cases hError : error = .noError
    · by_cases hValid : UplinkInfo.isValid body.toObject = true <;>
        simp [hTerminating, hError, hValid]
    · simp [hTerminating, hError]

theorem onDownlinkReply_resources (failed : List Signal) (succeeded : QJsonObject → List Signal)
    (topics : List (String × QJsonObject)) (sourceUuid : String) :
    (onDownlinkReply failed succeeded topics s sourceUuid error body).resources =
      if error = .noError ∧ DownlinkInfo.isValid body.toObject then
        { s.resources with downlinks := s.resources.downlinks.insert sourceUuid body.toObject }
      else s.resources := by
  unfold onDownlinkReply
  by_cases hError : error = .noError
  · by_cases hValid : DownlinkInfo.isValid body.toObject = true <;> simp [hError, hValid]
  · simp [hError]

end Replies

/-- The lists that messages keep up to date. -/
inductive Kind where
  | uplinkConnections
  | stages
  | participants
  | wsPortals
  deriving DecidableEq, Repr

/-- The name that messages give the list. -/
def Kind.name : Kind → String
  | .uplinkConnections => "uplink.connections"
  | .stages => "stages"
  | .participants => "participants"
  | .wsPortals => "ws-portals"

def Kind.collection : Kind → Collection
  | .uplinkConnections => .uplinkConnections
  | .stages => .stages
  | .participants => .participants
  | .wsPortals => .wsPortals

def Field.named : String → Option Field
  | "uplink.allocations" => some .uplinkAllocation
  | "uplink.stages" => some .uplinkStage
  | "accounts" => some .account
  | "accounts.licenses" => some .subscriptionLicense
  | "accounts.resourceUsage" => some .resourceUsage
  | _ => none

def uplinkFieldNamed : String → Option String
  | "uplink.allocations" => some "allocation"
  | "uplink.stages" => some "stage"
  | _ => none

def IsChange (message : QJsonObject) : Prop :=
  WebSocketMessage.getEvent message = "added" ∨ WebSocketMessage.getEvent message = "changed"

def IsRemoval (message : QJsonObject) : Prop := WebSocketMessage.getEvent message = "removed"

instance (message : QJsonObject) : Decidable (IsChange message) :=
  inferInstanceAs (Decidable (_ ∨ _))

instance (message : QJsonObject) : Decidable (IsRemoval message) :=
  inferInstanceAs (Decidable (_ = _))

def Request.StoresUplink : Request → Prop
  | .uplink | .putUplink _ _ | .putUplinkStatus _ => True
  | _ => False

/-- The downlink whose document the reply to the request replaces. -/
def Request.storedDownlink : Request → Option String
  | .downlink sourceUuid | .putDownlink sourceUuid _ | .putDownlinkStatus sourceUuid =>
    some sourceUuid
  | _ => none

open WebSocketMessage in
inductive Update (s : State) : Event → Resources → Prop where
  | unchanged (e : Event) : Update s e s.resources
  | accountInfo {i : Nat} {startsSession : Bool} {body : QJsonValue}
      (hRequest : s.requests[i]? = some (.accountInfo startsSession))
      (hValid : AccountInfo.isValid body.toObject) :
      Update s (.reply i .noError body) { s.resources with accountInfo := body.toObject }
  | parties {i : Nat} {body : QJsonValue} (hRequest : s.requests[i]? = some .parties)
      (hValid : every body.toArray Party.isValid) :
      Update s (.reply i .noError body) { s.resources with parties := body.toArray }
  | partyEvents {i : Nat} {body : QJsonValue} (hRequest : s.requests[i]? = some .partyEvents)
      (hValid : every body.toArray PartyEvent.isValid) :
      Update s (.reply i .noError body) { s.resources with partyEvents := body.toArray }
  | participants {i : Nat} {body : QJsonValue} (hRequest : s.requests[i]? = some .participants)
      (hValid : every body.toArray PartyEventParticipant.isValid) :
      Update s (.reply i .noError body) { s.resources with participants := body.toArray }
  | stages {i : Nat} {body : QJsonValue} (hRequest : s.requests[i]? = some .stages)
      (hValid : every body.toArray Stage.isValid) :
      Update s (.reply i .noError body) { s.resources with stages := body.toArray }
  | uplink {i : Nat} {r : Request} {body : QJsonValue} (hRequest : s.requests[i]? = some r)
      (hStores : r.StoresUplink) (hRunning : s.terminating = false)
      (hValid : UplinkInfo.isValid body.toObject) :
      Update s (.reply i .noError body) { s.resources with uplink := body.toObject }
  | downlink {i : Nat} {r : Request} {sourceUuid : String} {body : QJsonValue}
      (hRequest : s.requests[i]? = some r) (hStores : r.storedDownlink = some sourceUuid)
      (hValid : DownlinkInfo.isValid body.toObject) :
      Update s (.reply i .noError body)
        { s.resources with downlinks := s.resources.downlinks.insert sourceUuid body.toObject }
  | redeemed {i : Nat} {inviteCode : String} {body : QJsonValue}
      (hRequest : s.requests[i]? = some (.redeemInviteCode inviteCode)) :
      Update s (.reply i .noError body)
        { s.resources with
          participants := mergeParticipants s.resources.participants
            (values (MemberActivationResult.getParticipants body.toObject)) }
  | deletedDownlink {i : Nat} {sourceUuid : String} {parallel : Bool} {body : QJsonValue}
      (hRequest : s.requests[i]? = some (.deleteDownlink sourceUuid parallel)) :
      Update s (.reply i .noError body)
        { s.resources with downlinks := s.resources.downlinks.remove sourceUuid }
  | deletedUplink {i : Nat} {parallel : Bool} {body : QJsonValue}
      (hRequest : s.requests[i]? = some (.deleteUplink parallel false)) :
      Update s (.reply i .noError body) { s.resources with uplink := [] }
  | unlinked {i : Nat} {parallel : Bool} {error : NetworkError} {body : QJsonValue}
      (hRequest : s.requests[i]? = some (.deleteUplink parallel true)) :
      Update s (.reply i error body) {}
  | collectionChanged {k : Kind} {message : QJsonObject} (hChange : IsChange message)
      (hName : getName message = k.name) (hValid : k.collection.isValid (getPayload message)) :
      Update s (.textMessage message)
        (k.collection.change (getId message) (getPayload message) s.resources)
  | fieldChanged {f : Field} {message : QJsonObject} (hChange : IsChange message)
      (hName : Field.named (getName message) = some f) (hValid : f.isValid (getPayload message)) :
      Update s (.textMessage message) (f.store s.resources (getPayload message))
  | downlinkConnection {message : QJsonObject} (hChange : IsChange message)
      (hName : getName message = "downlink.connections")
      (hValid : StageConnection.isValid (getPayload message)) :
      Update s (.textMessage message)
        { s.resources with
          downlinks := s.resources.downlinks.insert (getId message)
            (downlinkWithConnection s.resources.downlinks (getId message) (getPayload message)) }
  | collectionRemoved {k : Kind} {message : QJsonObject} (hRemoval : IsRemoval message)
      (hName : getName message = k.name)
      (hContains : k.collection.contains (getId message) s.resources) :
      Update s (.textMessage message) (k.collection.remove (getId message) s.resources)
  | uplinkFieldRemoved {field : String} {message : QJsonObject} (hRemoval : IsRemoval message)
      (hName : uplinkFieldNamed (getName message) = some field) :
      Update s (.textMessage message)
        { s.resources with uplink := s.resources.uplink.remove field }
  | downlinkRemoved {message : QJsonObject} (hRemoval : IsRemoval message)
      (hName : getName message = "downlink.connections") :
      Update s (.textMessage message)
        { s.resources with downlinks := s.resources.downlinks.remove (getId message) }
  | cleared (hUnlinked : s.linked = false) : Update s .linkingSucceeded {}
  | terminated : Update s (.call .terminate) { s.resources with uplink := [] }

section Steps

variable {s : State}

theorem Update.of_if {e : Event} {p : Prop} [Decidable p] {r : Resources}
    (h : p → Update s e r) : Update s e (if p then r else s.resources) := by
  split
  · next hHolds => exact h hHolds
  · exact .unchanged e

theorem perform_update (c : Call) : Update s (.call c) (perform s c).resources := by
  have hSame (h : (perform s c).resources = s.resources) :
      Update s (.call c) (perform s c).resources := h ▸ .unchanged _
  cases c with
  | terminate =>
    rw [perform, terminate, request_resources]
    exact .terminated
  | _ => exact hSame (by simp [perform])

theorem onFinished_update {i : Nat} {r : Request} (hRequest : s.requests[i]? = some r)
    (error : NetworkError) (body : QJsonValue) {t : State} (hResources : t.resources = s.resources)
    (hTerminating : t.terminating = s.terminating) :
    Update s (.reply i error body) (onFinished t r error body).resources := by
  cases r with
  | refresh => exact hResources ▸ .unchanged _
  | accountInfo startsSession =>
    -- the second slot, which puts the uplink, stores nothing
    have hReply : (onFinished t (.accountInfo startsSession) error body).resources =
        (onAccountInfoReply t error body).resources := by
      simp only [onFinished]
      split <;> simp
    rw [hReply, onAccountInfoReply_resources, hResources]
    exact .of_if fun ⟨hError, hValid⟩ => hError ▸ .accountInfo hRequest hValid
  | parties =>
    rw [onFinished, onPartiesReply_resources, hResources]
    exact .of_if fun ⟨hError, hValid⟩ => hError ▸ .parties hRequest hValid
  | partyEvents =>
    rw [onFinished, onPartyEventsReply, onListReply_resources, hResources]
    exact .of_if fun ⟨hError, hValid⟩ => hError ▸ .partyEvents hRequest hValid
  | participants =>
    rw [onFinished, onParticipantsReply, onListReply_resources, hResources]
    exact .of_if fun ⟨hError, hValid⟩ => hError ▸ .participants hRequest hValid
  | stages =>
    rw [onFinished, onStagesReply, onListReply_resources, hResources]
    exact .of_if fun ⟨hError, hValid⟩ => hError ▸ .stages hRequest hValid
  | uplink =>
    rw [onFinished, onRequestUplinkReply, onUplinkReply_resources, hResources, hTerminating]
    exact .of_if fun ⟨hRunning, hError, hValid⟩ =>
      hError ▸ .uplink hRequest trivial hRunning hValid
  | putUplink sentBody startsWebSocket =>
    -- nor does the one that starts the WebSocket
    have hReply : (onFinished t (.putUplink sentBody startsWebSocket) error body).resources =
        (onPutUplinkReply t error body).resources := by
      simp only [onFinished]
      split <;> rfl
    rw [hReply, onPutUplinkReply, onUplinkReply_resources, hResources, hTerminating]
    exact .of_if fun ⟨hRunning, hError, hValid⟩ =>
      hError ▸ .uplink hRequest trivial hRunning hValid
  | putUplinkStatus sentBody =>
    rw [onFinished, onPutUplinkStatusReply, onUplinkReply_resources, hResources, hTerminating]
    exact .of_if fun ⟨hRunning, hError, hValid⟩ =>
      hError ▸ .uplink hRequest trivial hRunning hValid
  | downlink sourceUuid =>
    rw [onFinished, onRequestDownlinkReply, onDownlinkReply_resources, hResources]
    exact .of_if fun ⟨hError, hValid⟩ => hError ▸ .downlink hRequest rfl hValid
  | putDownlink sourceUuid params =>
    rw [onFinished, onPutDownlinkReply, onDownlinkReply_resources, hResources]
    exact .of_if fun ⟨hError, hValid⟩ => hError ▸ .downlink hRequest rfl hValid
  | putDownlinkStatus sourceUuid =>
    rw [onFinished, onPutDownlinkStatusReply, onDownlinkReply_resources, hResources]
    exact .of_if fun ⟨hError, hValid⟩ => hError ▸ .downlink hRequest rfl hValid
  | deleteDownlink sourceUuid parallel =>
    simp only [onFinished, onDeleteDownlinkReply]
    split
    · rw [emit_resources, hResources]
      exact .unchanged _
    · next hError =>
      rw [not_not.mp hError]
      split
      · rw [emit_resources, unsubscribe_resources, hResources]
        exact .deletedDownlink hRequest
      · rw [unsubscribe_resources, hResources]
        exact .unchanged _
  | deleteUplink parallel unlinks =>
    cases unlinks with
    | true =>
      -- unlinking clears the caches, whatever the reply has been
      simp only [onFinished, if_true, unlink_resources]
      exact .unlinked hRequest
    | false =>
      simp only [onFinished, onDeleteUplinkReply, Bool.false_eq_true, if_false]
      split
      · rw [emit_resources, hResources]
        exact .unchanged _
      · next hError =>
        rw [not_not.mp hError, emit_resources, unsubscribe_resources, hResources]
        exact .deletedUplink hRequest
  | redeemInviteCode inviteCode =>
    simp only [onFinished, onRedeemInviteCodeReply]
    split
    · rw [emit_resources, hResources]
      exact .unchanged _
    · next hError =>
      rw [not_not.mp hError, emitAll_resources]
      split <;> simpa [hResources] using Update.redeemed hRequest

theorem collectionChanged_resources (c : Collection) (id : String) (payload : QJsonObject) :
    (collectionChanged c s id payload).resources =
      if c.isValid payload then c.change id payload s.resources else s.resources := by
  unfold collectionChanged
  cases c.isValid payload <;> simp

theorem fieldChanged_resources (f : Field) (payload : QJsonObject) :
    (fieldChanged f s payload).resources =
      if f.isValid payload then f.store s.resources payload else s.resources := by
  unfold fieldChanged
  cases f.isValid payload <;> simp

theorem subscriptionLicenseChanged_resources (payload : QJsonObject) :
    (subscriptionLicenseChanged s payload).resources =
      (fieldChanged .subscriptionLicense s payload).resources := by
  simp only [subscriptionLicenseChanged]
  split
  · exact emitLicenseChanged_resources _ _
  · rfl

open WebSocketMessage in
theorem dataChanged_update {message : QJsonObject} (hChange : IsChange message) {t : State}
    (hResources : t.resources = s.resources) :
    Update s (.textMessage message)
      (dataChanged t (getName message) (getId message) (getPayload message)).resources := by
  have hCollection (k : Kind) (hName : getName message = k.name) :
      Update s (.textMessage message)
        (collectionChanged k.collection t (getId message) (getPayload message)).resources := by
    rw [collectionChanged_resources, hResources]
    exact .of_if (.collectionChanged hChange hName)
  have hField {f : Field} (hName : Field.named (getName message) = some f) :
      Update s (.textMessage message) (fieldChanged f t (getPayload message)).resources := by
    rw [fieldChanged_resources, hResources]
    exact .of_if (.fieldChanged hChange hName)
  unfold dataChanged
  split
  · next hName => exact hField (by rw [hName]; rfl)
  · next hName => exact hField (by rw [hName]; rfl)
  · next hName => exact hCollection .uplinkConnections hName
  · next hName =>
    simp only [downlinkConnectionChanged]
    split
    · rw [hResources]
      exact .unchanged _
    · next hValid =>
      rw [emit_resources, hResources]
      exact .downlinkConnection hChange hName (by simpa using hValid)
  · next hName => exact hCollection .stages hName
  · next hName => exact hCollection .participants hName
  · next hName => exact hField (by rw [hName]; rfl)
  · next hName =>
    rw [subscriptionLicenseChanged_resources]
    exact hField (by rw [hName]; rfl)
  · next hName => exact hField (by rw [hName]; rfl)
  · next hName => exact hCollection .wsPortals hName
  · rw [hResources]
    exact .unchanged _

open WebSocketMessage in
theorem dataRemoved_update {message : QJsonObject} (hRemoval : IsRemoval message) {t : State}
    (hResources : t.resources = s.resources) :
    Update s (.textMessage message)
      (dataRemoved t (getName message) (getId message)).resources := by
  have hCollection (k : Kind) (hName : getName message = k.name) :
      Update s (.textMessage message) (collectionRemoved k.collection t (getId message)).resources := by
    simp only [collectionRemoved]
    split
    · next hContains =>
      rw [emit_resources, hResources]
      exact .collectionRemoved hRemoval hName (hResources ▸ hContains)
    · rw [hResources]
      exact .unchanged _
  have hField {field : String} (fieldId : QJsonObject → String)
      (hName : uplinkFieldNamed (getName message) = some field) :
      Update s (.textMessage message)
        (uplinkFieldRemoved field fieldId t (getId message)).resources := by
    simp only [uplinkFieldRemoved]
    split
    · rw [emit_resources, hResources]
      exact .uplinkFieldRemoved hRemoval hName
    · rw [hResources]
      exact .unchanged _
  unfold dataRemoved
  split
  · next hName => exact hField _ (by rw [hName]; rfl)
  · next hName => exact hField _ (by rw [hName]; rfl)
  · next hName => exact hCollection .uplinkConnections hName
  · next hName =>
    simp only [downlinkConnectionRemoved]
    split
    · rw [emit_resources, hResources]
      exact .downlinkRemoved hRemoval hName
    · rw [hResources]
      exact .unchanged _
  · next hName => exact hCollection .stages hName
  · next hName => exact hCollection .participants hName
  · rw [logout_resources, hResources]
    exact .unchanged _
  · next hName => exact hCollection .wsPortals hName
  · rw [hResources]
    exact .unchanged _

theorem onTextMessageReceived_update (message : QJsonObject) :
    Update s (.textMessage message) (onTextMessageReceived s message).resources := by
  simp only [onTextMessageReceived]
  split
  · rw [onWebSocketReady_resources]
    exact .unchanged _
  · rw [onWebSocketAborted_resources]
    exact .unchanged _
  · next hEvent => exact dataChanged_update (.inl hEvent) rfl
  · next hEvent => exact dataChanged_update (.inr hEvent) rfl
  · next hEvent => exact dataRemoved_update hEvent rfl
  all_goals simpa using Update.unchanged (.textMessage message)

theorem step_update {s' : State} {e : Event} (hStep : step s e = some s') :
    Update s e s'.resources := by
  cases e with
  | call c =>
    obtain rfl := Option.some.inj hStep
    exact perform_update c
  | reply position error body =>
    obtain ⟨r, hRequest, rfl⟩ := Option.map_eq_some_iff.mp hStep
    exact onFinished_update hRequest error body rfl rfl
  | textMessage message =>
    obtain rfl := Option.some.inj hStep
    exact onTextMessageReceived_update message
  | linkingSucceeded =>
    obtain rfl := Option.some.inj hStep
    rw [onO2LinkingSucceeded_resources]
    split
    · exact .unchanged _
    · next hUnlinked => exact .cleared (by simpa using hUnlinked)
  | linkingFailed =>
    obtain rfl := Option.some.inj hStep
    rw [onO2LinkingFailed_resources]
    exact .unchanged _
  | socketConnected | tokensStored =>
    obtain rfl := Option.some.inj hStep
    exact .unchanged _
  | socketDisconnected =>
    obtain rfl := Option.some.inj hStep
    rw [onDisconnected_resources]
    exact .unchanged _

end Steps

end SrcLink.ApiClient
