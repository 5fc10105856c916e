import SrcLink.Client.ResourceUpdates

/-! # Validity of the cached documents

Every handler but one checks the documents it stores. `redeemInviteCode` merges
the participants of its reply unchecked, and a message for a part of the uplink
or of the account is stored even when there is no document to hold it. In runs
without these, every cached document is valid.
-/

namespace SrcLink.ApiClient

open Json Json.TypedJsonArray Schema Schema.WebSocketMessage StepSystem

set_option autoImplicit false

structure ValidResources (r : Resources) : Prop where
  accountInfo : r.accountInfo = [] ∨ AccountInfo.isValid r.accountInfo
  parties : every r.parties Party.isValid
  partyEvents : every r.partyEvents PartyEvent.isValid
  participants : every r.participants PartyEventParticipant.isValid
  stages : every r.stages Stage.isValid
  uplink : r.uplink = [] ∨ UplinkInfo.isValid r.uplink
  downlinks : ∀ uuid downlink, r.downlinks.lookup uuid = some downlink →
    DownlinkInfo.isValid downlink
  wsPortals : every r.wsPortals WsPortal.isValid

theorem ValidResources.cleared : ValidResources {} where
  accountInfo := .inl rfl
  parties := rfl
  partyEvents := rfl
  participants := rfl
  stages := rfl
  uplink := .inl rfl
  downlinks _ _ hLookup := nomatch hLookup
  wsPortals := rfl

section Lists

variable {isValid : QJsonObject → Bool} {items : QJsonArray}

theorem every_iff : every items isValid ↔ ∀ item ∈ items, isValid item.toObject :=
  List.all_eq_true

theorem every_replaceOrAppend (h : every items isValid) (getId : QJsonObject → String)
    (id : String) {newItem : QJsonObject} (hNew : isValid newItem) :
    every (replaceOrAppend getId id newItem items) isValid := by
  rw [every_iff] at h ⊢
  intro item hItem
  obtain rfl | hOld := KeyedArray.mem_replaceOrAppend _ hItem
  · exact hNew
  · exact h item hOld

theorem every_removeFirst (h : every items isValid) (key : QJsonValue → String) (id : String) :
    every (KeyedArray.removeFirst key id items) isValid := by
  rw [every_iff] at h ⊢
  intro item hItem
  exact h item ((KeyedArray.removeFirst_sublist key id items).subset hItem)

theorem every_mergeParticipants {participants : QJsonArray} {merged : List QJsonObject}
    (h : every participants PartyEventParticipant.isValid)
    (hMerged : ∀ participant ∈ merged, PartyEventParticipant.isValid participant) :
    every (mergeParticipants participants merged) PartyEventParticipant.isValid := by
  induction merged generalizing participants with
  | nil => exact h
  | cons participant merged ih =>
    obtain ⟨hFirst, hRest⟩ := List.forall_mem_cons.mp hMerged
    exact ih (every_replaceOrAppend h _ _ hFirst) hRest

end Lists

section Patches

variable {o : QJsonObject} {check : String → QJsonValue → Bool} (field : String)

theorem forall_insert (h : ∀ f, check f (o.value f)) {v : QJsonValue} (hNew : check field v)
    (f : String) : check f ((o.insert field v).value f) := by
  by_cases hField : f = field
  · rw [hField, QJsonObject.value_insert_self]
    exact hNew
  · rw [QJsonObject.value_insert_of_ne o v hField]
    exact h f

theorem forall_remove (h : ∀ f, check f (o.value f)) (hAbsent : check field .undefined)
    (f : String) : check f ((o.remove field).value f) := by
  by_cases hField : f = field
  · rw [hField, QJsonObject.value_remove_self]
    exact hAbsent
  · rw [QJsonObject.value_remove_of_ne o hField]
    exact h f

/-- What `UplinkInfo::isValid` asks of each field. -/
def uplinkFieldIsValid (field : String) (v : QJsonValue) : Bool :=
  match field with
  | "allocation" => maybe v (StageSeatAllocation.isValid v.toObject)
  | "stage" => maybe v (Stage.isValid v.toObject)
  | "connections" => v.isArray && every v.toArray StageConnection.isValid
  | "public_address" => v.isString
  | _ => true

def accountFieldIsValid (field : String) (v : QJsonValue) : Bool :=
  match field with
  | "account" => Account.isValid v.toObject
  | "subscription_license" => SubscriptionLicense.isValid v.toObject
  | "resource_usage" => AccountResourceUsage.isValid v.toObject
  | _ => true

theorem uplink_isValid_iff :
    UplinkInfo.isValid o ↔ ∀ f, uplinkFieldIsValid f (o.value f) := by
  constructor
  · intro h f
    simp only [UplinkInfo.isValid, Bool.and_eq_true] at h
    obtain ⟨⟨⟨⟨hAllocation, hStage⟩, hArray⟩, hConnections⟩, hAddress⟩ := h
    unfold uplinkFieldIsValid
    split
    · exact hAllocation
    · exact hStage
    · exact Bool.and_eq_true_iff.mpr ⟨hArray, hConnections⟩
    · exact hAddress
    · rfl
  · intro h
    obtain ⟨hArray, hConnections⟩ := Bool.and_eq_true_iff.mp (h "connections")
    simp only [UplinkInfo.isValid, Bool.and_eq_true]
    exact ⟨⟨⟨⟨h "allocation", h "stage"⟩, hArray⟩, hConnections⟩, h "public_address"⟩

theorem accountInfo_isValid_iff :
    AccountInfo.isValid o ↔ ∀ f, accountFieldIsValid f (o.value f) := by
  constructor
  · intro h f
    simp only [AccountInfo.isValid, Bool.and_eq_true] at h
    obtain ⟨⟨hAccount, hLicense⟩, hUsage⟩ := h
    unfold accountFieldIsValid
    split
    · exact hAccount
    · exact hLicense
    · exact hUsage
    · rfl
  · intro h
    simp only [AccountInfo.isValid, Bool.and_eq_true]
    exact ⟨⟨h "account", h "subscription_license"⟩, h "resource_usage"⟩

theorem uplink_insert (h : UplinkInfo.isValid o) {v : QJsonValue}
    (hNew : uplinkFieldIsValid field v) : UplinkInfo.isValid (o.insert field v) :=
  uplink_isValid_iff.mpr (forall_insert field (uplink_isValid_iff.mp h) hNew)

theorem uplink_remove (h : UplinkInfo.isValid o) (hAbsent : uplinkFieldIsValid field .undefined) :
    UplinkInfo.isValid (o.remove field) :=
  uplink_isValid_iff.mpr (forall_remove field (uplink_isValid_iff.mp h) hAbsent)

theorem accountInfo_insert (h : AccountInfo.isValid o) {v : QJsonValue}
    (hNew : accountFieldIsValid field v) : AccountInfo.isValid (o.insert field v) :=
  accountInfo_isValid_iff.mpr (forall_insert field (accountInfo_isValid_iff.mp h) hNew)

theorem withConnection_isValid (downlinks : QMap QJsonObject) (id : String)
    {connection : QJsonObject} (hNew : StageConnection.isValid connection) :
    DownlinkInfo.isValid (downlinkWithConnection downlinks id connection) := by
  rw [DownlinkInfo.isValid, DownlinkInfo.getConnection, downlinkWithConnection,
    QJsonObject.value_insert_self]
  exact hNew

end Patches

/-- The document of which a message of this name changes a part, and the check of the part. -/
def patched (r : Resources) : String → Option (QJsonObject × (QJsonObject → Bool))
  | "uplink.allocations" => some (r.uplink, StageSeatAllocation.isValid)
  | "uplink.stages" => some (r.uplink, Stage.isValid)
  | "uplink.connections" => some (r.uplink, StageConnection.isValid)
  | "accounts" => some (r.accountInfo, Account.isValid)
  | "accounts.licenses" => some (r.accountInfo, SubscriptionLicense.isValid)
  | "accounts.resourceUsage" => some (r.accountInfo, AccountResourceUsage.isValid)
  | _ => none

/-- A changed part of a document finds the document there, and the participants that come
with a redeemed invite code are valid. -/
def WellFormed (s : State) : Event → Prop
  | .textMessage m =>
    IsChange m → ∀ document isValid, patched s.resources (getName m) = some (document, isValid) →
      isValid (getPayload m) → document ≠ []
  | .reply i error body =>
    error = .noError → ∀ inviteCode, s.requests[i]? = some (.redeemInviteCode inviteCode) →
      ∀ participant ∈ values (MemberActivationResult.getParticipants body.toObject),
        PartyEventParticipant.isValid participant
  | _ => True

theorem ValidResources.withUplink {r : Resources} (h : ValidResources r) {uplink : QJsonObject}
    (hValid : UplinkInfo.isValid uplink) : ValidResources { r with uplink := uplink } :=
  { h with uplink := .inr hValid }

theorem ValidResources.withAccountInfo {r : Resources} (h : ValidResources r)
    {accountInfo : QJsonObject} (hValid : AccountInfo.isValid accountInfo) :
    ValidResources { r with accountInfo := accountInfo } :=
  { h with accountInfo := .inr hValid }

theorem ValidResources.downlinks_insert {r : Resources} (h : ValidResources r) (uuid : String)
    {downlink : QJsonObject} (hNew : DownlinkInfo.isValid downlink) :
    ValidResources { r with downlinks := r.downlinks.insert uuid downlink } := by
  refine { h with downlinks := fun uuid' downlink' hLookup => ?_ }
  rw [QMap.lookup_insert] at hLookup
  split at hLookup
  · exact Option.some.inj hLookup ▸ hNew
  · exact h.downlinks uuid' downlink' hLookup

theorem ValidResources.downlinks_remove {r : Resources} (h : ValidResources r) (uuid : String) :
    ValidResources { r with downlinks := r.downlinks.remove uuid } := by
  refine { h with downlinks := fun uuid' downlink' hLookup => ?_ }
  rw [QMap.lookup_remove] at hLookup
  split at hLookup
  · cases hLookup
  · exact h.downlinks uuid' downlink' hLookup

theorem connections_isValid {uplink : QJsonObject} (h : UplinkInfo.isValid uplink) :
    every (UplinkInfo.getConnections uplink) StageConnection.isValid :=
  (Bool.and_eq_true_iff.mp (uplink_isValid_iff.mp h "connections")).2

section Setters

variable {uplink accountInfo : QJsonObject}

theorem setAllocation_isValid (h : UplinkInfo.isValid uplink) {allocation : QJsonObject}
    (hNew : StageSeatAllocation.isValid allocation) :
    UplinkInfo.isValid (UplinkInfo.setAllocation uplink allocation) :=
  uplink_insert "allocation" h (v := .object allocation) hNew

theorem setStage_isValid (h : UplinkInfo.isValid uplink) {stage : QJsonObject}
    (hNew : Stage.isValid stage) : UplinkInfo.isValid (UplinkInfo.setStage uplink stage) :=
  uplink_insert "stage" h (v := .object stage) hNew

theorem setAccount_isValid (h : AccountInfo.isValid accountInfo) {account : QJsonObject}
    (hNew : Account.isValid account) :
    AccountInfo.isValid (AccountInfo.setAccount accountInfo account) :=
  accountInfo_insert "account" h (v := .object account) hNew

theorem setSubscriptionLicense_isValid (h : AccountInfo.isValid accountInfo)
    {license : QJsonObject} (hNew : SubscriptionLicense.isValid license) :
    AccountInfo.isValid (AccountInfo.setSubscriptionLicense accountInfo license) :=
  accountInfo_insert "subscription_license" h (v := .object license) hNew

theorem setResourceUsage_isValid (h : AccountInfo.isValid accountInfo) {usage : QJsonObject}
    (hNew : AccountResourceUsage.isValid usage) :
    AccountInfo.isValid (AccountInfo.setResourceUsage accountInfo usage) :=
  accountInfo_insert "resource_usage" h (v := .object usage) hNew

end Setters

theorem setConnections_isValid {uplink : QJsonObject} (h : UplinkInfo.isValid uplink)
    {connections : QJsonArray} (hNew : every connections StageConnection.isValid) :
    UplinkInfo.isValid (UplinkInfo.setConnections uplink connections) :=
  uplink_insert "connections" h (v := .array connections) hNew

theorem ValidResources.store {r : Resources} (h : ValidResources r) {k : Kind}
    {items : QJsonArray} (hItems : every items k.collection.isValid)
    (hUplink : k = .uplinkConnections → UplinkInfo.isValid r.uplink) :
    ValidResources (k.collection.store r items) := by
  cases k with
  | uplinkConnections =>
    exact { h with uplink := .inr (setConnections_isValid (hUplink rfl) hItems) }
  | stages => exact { h with stages := hItems }
  | participants => exact { h with participants := hItems }
  | wsPortals => exact { h with wsPortals := hItems }

theorem ValidResources.items {r : Resources} (h : ValidResources r) (k : Kind) :
    every (k.collection.items r) k.collection.isValid := by
  cases k with
  | uplinkConnections =>
    obtain hEmpty | hValid := h.uplink
    · simp only [Kind.collection, Collection.uplinkConnections, hEmpty]
      rfl
    · exact connections_isValid hValid
  | stages => exact h.stages
  | participants => exact h.participants
  | wsPortals => exact h.wsPortals

theorem uplink_ne_nil_of_contains {r : Resources} {id : String}
    (h : Kind.uplinkConnections.collection.contains id r) : r.uplink ≠ [] := by
  intro hEmpty
  simp only [Kind.collection, Collection.contains, Collection.uplinkConnections, hEmpty] at h
  cases h

theorem ValidResources.collection_change {r : Resources} (h : ValidResources r) {k : Kind}
    {id : String} {doc : QJsonObject} (hNew : k.collection.isValid doc)
    (hUplink : k = .uplinkConnections → r.uplink ≠ []) :
    ValidResources (k.collection.change id doc r) :=
  h.store (every_replaceOrAppend (h.items k) _ _ hNew) fun hKind =>
    h.uplink.resolve_left (hUplink hKind)

theorem ValidResources.collection_remove {r : Resources} (h : ValidResources r) {k : Kind}
    {id : String} (hContains : k.collection.contains id r) :
    ValidResources (k.collection.remove id r) := by
  refine h.store (every_removeFirst (h.items k) _ _) fun hKind => ?_
  subst hKind
  exact h.uplink.resolve_left (uplink_ne_nil_of_contains hContains)

theorem ValidResources.field_store {s : State} (h : ValidResources s.resources) {f : Field}
    {m : QJsonObject} (hWell : WellFormed s (.textMessage m)) (hChange : IsChange m)
    (hName : Field.named (getName m) = some f) (hValid : f.isValid (getPayload m)) :
    ValidResources (f.store s.resources (getPayload m)) := by
  -- a well-formed message changes a part of a document that is there
  have hFound {document : QJsonObject} {isValid : QJsonObject → Bool}
      (hPatched : patched s.resources (getName m) = some (document, isValid))
      (hPayload : isValid (getPayload m)) : document ≠ [] :=
    hWell hChange document isValid hPatched hPayload
  unfold Field.named at hName
  split at hName
  · next hEvent =>
    obtain rfl := Option.some.inj hName
    have hUplink := h.uplink.resolve_left (hFound (by rw [hEvent]; rfl) hValid)
    exact h.withUplink (setAllocation_isValid hUplink hValid)
  · next hEvent =>
    obtain rfl := Option.some.inj hName
    have hUplink := h.uplink.resolve_left (hFound (by rw [hEvent]; rfl) hValid)
    exact h.withUplink (setStage_isValid hUplink hValid)
  · next hEvent =>
    obtain rfl := Option.some.inj hName
    have hAccount := h.accountInfo.resolve_left (hFound (by rw [hEvent]; rfl) hValid)
    exact h.withAccountInfo (setAccount_isValid hAccount hValid)
  · next hEvent =>
    obtain rfl := Option.some.inj hName
    have hAccount := h.accountInfo.resolve_left (hFound (by rw [hEvent]; rfl) hValid)
    exact h.withAccountInfo (setSubscriptionLicense_isValid hAccount hValid)
  · next hEvent =>
    obtain rfl := Option.some.inj hName
    have hAccount := h.accountInfo.resolve_left (hFound (by rw [hEvent]; rfl) hValid)
    exact h.withAccountInfo (setResourceUsage_isValid hAccount hValid)
  · cases hName

theorem ValidResources.update {s : State} {e : Event} {r : Resources}
    (h : ValidResources s.resources) (hWell : WellFormed s e) (hUpdate : Update s e r) :
    ValidResources r := by
  cases hUpdate with
  | unchanged => exact h
  | accountInfo _ hValid => exact { h with accountInfo := .inr hValid }
  | parties _ hValid => exact { h with parties := hValid }
  | partyEvents _ hValid => exact { h with partyEvents := hValid }
  | participants _ hValid => exact { h with participants := hValid }
  | stages _ hValid => exact { h with stages := hValid }
  | uplink _ _ _ hValid => exact { h with uplink := .inr hValid }
  | downlink _ _ hValid => exact h.downlinks_insert _ hValid
  | redeemed hRequest =>
    exact { h with
      participants := every_mergeParticipants h.participants (hWell rfl _ hRequest) }
  | deletedDownlink => exact h.downlinks_remove _
  | deletedUplink | terminated => exact { h with uplink := .inl rfl }
  | unlinked | cleared => exact .cleared
  | collectionChanged hChange hName hValid =>
    refine h.collection_change hValid fun hKind => ?_
    subst hKind
    exact hWell hChange _ StageConnection.isValid (by rw [hName]; rfl) hValid
  | fieldChanged hChange hName hValid => exact h.field_store hWell hChange hName hValid
  | downlinkConnection _ _ hValid =>
    exact h.downlinks_insert _ (withConnection_isValid _ _ hValid)
  | collectionRemoved _ _ hContains => exact h.collection_remove hContains
  | @uplinkFieldRemoved field m hRemoval hName =>
    -- the removable fields of the uplink are optional
    have hAbsent : uplinkFieldIsValid field .undefined := by
      unfold uplinkFieldNamed at hName
      split at hName <;> cases hName <;> rfl
    refine { h with uplink := ?_ }
    obtain hEmpty | hValid := h.uplink
    · exact .inl (by rw [hEmpty]; rfl)
    · exact .inr (uplink_remove field hValid hAbsent)
  | downlinkRemoved => exact h.downlinks_remove _

theorem validResources_of_wellFormed {s : State} (h : Reachable step WellFormed Constructed s) :
    ValidResources s.resources := by
  induction h with
  | start hStart =>
    obtain ⟨uuid, settings, linked, refreshToken, expired, rfl⟩ := hStart
    have hEmpty : (construct uuid settings linked refreshToken expired).resources = {} := by
      unfold construct
      split <;> simp
    rw [hEmpty]
    exact .cleared
  | next _ hWell hStep ih => exact ih.update hWell (step_update hStep)

/-- A message changes the stage of an uplink that the client has. -/
theorem validResources_of_wellFormed_changedStage :
    ∃ s : State, s.resources.uplink.value "stage" = .object (stageDocument "a") ∧
      ValidResources s.resources := by
  have hPut : Reachable step WellFormed Constructed _ :=
    .next (e := Event.call .putUplink) (.start freshClient_constructed) trivial rfl
  have hUplink := Reachable.next (e := Event.reply 1 .noError (.object uplinkDocument)) hPut
    (by
      intro _ inviteCode hRequest
      have hPending : (perform freshClient .putUplink).requests[1]? =
          some (.putUplink (putUplinkBody freshClient) false) := rfl
      cases hPending.symm.trans hRequest)
    rfl
  have hPatched := Reachable.next
    (e := Event.textMessage (dataMessage "changed" "uplink.stages" "a" (stageDocument "a")))
    hUplink
    (by
      intro _ document isValid hDocument _
      have hFound : uplinkDocument = document :=
        congrArg Prod.fst (Option.some.inj hDocument)
      exact hFound ▸ List.cons_ne_nil _ _)
    rfl
  exact ⟨_, rfl, validResources_of_wellFormed hPatched⟩

/-- The reply to a redeemed invite code brings an empty object as participant. -/
theorem not_validResources :
    ¬∀ s, Reachable step anyStep Constructed s → ValidResources s.resources := by
  intro hAll
  have hIdle : Reachable step anyStep Constructed _ :=
    .next (e := Event.reply 0 (.other 1) .undefined) (.start freshClient_constructed) trivial rfl
  have hRedeems := Reachable.next (e := Event.call (.redeemInviteCode "code")) hIdle trivial rfl
  have hRedeemed := Reachable.next
    (e := Event.reply 0 .noError (.object [("participants", .array [.object []])])) hRedeems
    trivial rfl
  exact absurd (hAll _ hRedeemed).participants (by decide +kernel)

end SrcLink.ApiClient
