import SrcLink.Client.ResourceUpdates

/-! # The cached lists as maps

Stages, participants, portals and the connections of the uplink are arrays that
messages and invite codes update one document at a time. Together they stand for
one map from a list and an id to a document; each event writes that map, and the
arrays always hold what the last write to each key left there.
-/

namespace SrcLink.ApiClient

open Json Json.TypedJsonArray Schema Schema.WebSocketMessage StepSystem KeyedArray

set_option autoImplicit false

def Collection.key (c : Collection) (item : QJsonValue) : String := c.getId item.toObject

def DistinctIds (r : Resources) : Prop :=
  ∀ k : Kind, Distinct k.collection.key (k.collection.items r)

/-- What looking an id up in a cached list gives. -/
def cachedMap (r : Resources) (k : Kind × String) : Option QJsonObject :=
  (toMap k.1.collection.key (k.1.collection.items r) k.2).map QJsonValue.toObject

/-- Everything that a write to the list `k` leaves alone. -/
structure SameBut (k : Kind) (r r' : Resources) : Prop where
  accountInfo : r'.accountInfo = r.accountInfo
  parties : r'.parties = r.parties
  partyEvents : r'.partyEvents = r.partyEvents
  downlinks : r'.downlinks = r.downlinks
  lists : ∀ k' ≠ k, k'.collection.items r' = k'.collection.items r
  uplinkFields : ∀ field ≠ "connections", r'.uplink.value field = r.uplink.value field
  uplink : k ≠ .uplinkConnections → r'.uplink = r.uplink

section Collections

variable (k : Kind) (r : Resources) (items : QJsonArray)

theorem items_store : k.collection.items (k.collection.store r items) = items := by
  cases k with
  | uplinkConnections =>
    exact congrArg QJsonValue.toArray
      (QJsonObject.value_insert_self r.uplink "connections" (.array items))
  | _ => rfl

theorem store_sameBut : SameBut k r (k.collection.store r items) := by
  cases k with
  | uplinkConnections =>
    refine ⟨rfl, rfl, rfl, rfl, fun k' hNe => ?_, fun field hNe => ?_, fun hNe => (hNe rfl).elim⟩
    · cases k' with
      | uplinkConnections => exact (hNe rfl).elim
      | _ => rfl
    · exact QJsonObject.value_insert_of_ne r.uplink (.array items) hNe
  | _ =>
    refine ⟨rfl, rfl, rfl, rfl, fun k' hNe => ?_, fun _ _ => rfl, fun _ => rfl⟩
    cases k' <;> first | rfl | exact (hNe rfl).elim

theorem items_store_of_ne {k k' : Kind} (hNe : k' ≠ k) (r : Resources) (items : QJsonArray) :
    k'.collection.items (k.collection.store r items) = k'.collection.items r :=
  (store_sameBut k r items).lists k' hNe

theorem SameBut.refl : SameBut k r r :=
  ⟨rfl, rfl, rfl, rfl, fun _ _ => rfl, fun _ _ => rfl, fun _ => rfl⟩

theorem cachedMap_store (id : String) (value : Option QJsonObject)
    (hItems : ∀ id', (toMap k.collection.key items id').map QJsonValue.toObject =
      Function.update (fun id' => cachedMap r (k, id')) id value id') :
    cachedMap (k.collection.store r items) = Function.update (cachedMap r) (k, id) value := by
  funext ⟨k', id'⟩
  by_cases hKind : k' = k
  · subst k'
    rw [cachedMap, items_store, hItems]
    by_cases hId : id' = id
    · rw [hId, Function.update_self, Function.update_self]
    · rw [Function.update_of_ne hId, Function.update_of_ne (by simp [hId])]
  · rw [Function.update_of_ne (by simp [hKind]), cachedMap, items_store_of_ne hKind]
    rfl

end Collections

theorem map_update {α β : Type} (f : α → β) (m : String → Option α) (id : String)
    (value : Option α) (id' : String) :
    (Function.update m id value id').map f =
      Function.update (fun id' => (m id').map f) id (value.map f) id' := by
  by_cases hSame : id' = id
  · rw [hSame, Function.update_self, Function.update_self]
  · rw [Function.update_of_ne hSame, Function.update_of_ne hSame]

theorem cachedMap_change {k : Kind} {id : String} {doc : QJsonObject}
    (hId : k.collection.getId doc = id) (r : Resources) :
    cachedMap (k.collection.change id doc r) =
      Function.update (cachedMap r) (k, id) (some doc) := by
  refine cachedMap_store k r _ id _ fun id' => ?_
  have hMap : toMap k.collection.key (replaceOrAppend k.collection.getId id doc
      (k.collection.items r)) =
      Function.update (toMap k.collection.key (k.collection.items r)) id (some (.object doc)) :=
    toMap_replaceOrAppend k.collection.key (x := .object doc) hId _
  rw [hMap, map_update]
  rfl

theorem cachedMap_remove {r : Resources} (h : DistinctIds r) (k : Kind) (id : String) :
    cachedMap (k.collection.remove id r) = Function.update (cachedMap r) (k, id) none := by
  refine cachedMap_store k r _ id _ fun id' => ?_
  have hMap : toMap k.collection.key (removeFirst k.collection.key id (k.collection.items r)) =
      Function.update (toMap k.collection.key (k.collection.items r)) id none :=
    toMap_removeFirst k.collection.key id (h k)
  exact (congrArg (fun m => (m id').map QJsonValue.toObject) hMap).trans (map_update ..)

theorem DistinctIds.store {k : Kind} {r : Resources} {items : QJsonArray} (h : DistinctIds r)
    (hItems : Distinct k.collection.key items) : DistinctIds (k.collection.store r items) := by
  intro k'
  by_cases hKind : k' = k
  · rw [hKind, items_store]
    exact hItems
  · rw [items_store_of_ne hKind]
    exact h k'

theorem DistinctIds.change {k : Kind} {id : String} {doc : QJsonObject} {r : Resources}
    (h : DistinctIds r) (hId : k.collection.getId doc = id) :
    DistinctIds (k.collection.change id doc r) :=
  h.store (Distinct.replaceOrAppend k.collection.key (x := .object doc) hId (h k))

theorem DistinctIds.remove {r : Resources} (h : DistinctIds r) (k : Kind) (id : String) :
    DistinctIds (k.collection.remove id r) :=
  h.store (Distinct.removeFirst k.collection.key (h k))

theorem contains_eq_false_iff (k : Kind) (id : String) (r : Resources) :
    k.collection.contains id r = false ↔ cachedMap r (k, id) = none := by
  rw [cachedMap, Option.map_eq_none_iff, ← findIndex_eq_none_iff]
  exact Option.isSome_eq_false_iff.trans Option.isNone_iff_eq_none

/-- A message for the list `k`; a changed document is valid and carries the id of the message. -/
def IsCacheMessage (k : Kind) (m : QJsonObject) : Prop :=
  getName m = k.name ∧
    (IsChange m ∧ k.collection.isValid (getPayload m) ∧
        k.collection.getId (getPayload m) = getId m ∨ IsRemoval m)

def messageUpdate (k : Kind) (m : QJsonObject) : MapUpdate (Kind × String) QJsonObject where
  key := (k, getId m)
  value := if IsRemoval m then none else some (getPayload m)

theorem IsChange.not_removal {m : QJsonObject} (h : IsChange m) : ¬IsRemoval m := by
  intro hRemoval
  rw [IsRemoval] at hRemoval
  rcases h with h | h <;> rw [hRemoval] at h <;> contradiction

theorem changeMessage_resources {k : Kind} {m : QJsonObject} (hName : getName m = k.name)
    (hChange : IsChange m) (hValid : k.collection.isValid (getPayload m)) (s : State) :
    (onTextMessageReceived s m).resources =
      k.collection.change (getId m) (getPayload m) s.resources := by
  have hBody (t : State) : (dataChanged t (getName m) (getId m) (getPayload m)).resources =
      k.collection.change (getId m) (getPayload m) t.resources := by
    rw [hName]
    cases k <;> exact (collectionChanged_resources ..).trans (if_pos hValid)
  rcases hChange with hEvent | hEvent <;> simp only [onTextMessageReceived, hEvent] <;>
    exact hBody _

theorem removalMessage_eq {k : Kind} {m : QJsonObject} (hName : getName m = k.name)
    (hRemoval : IsRemoval m) (s : State) :
    onTextMessageReceived s m =
      blockingSignals s (getContinuous m) fun s => collectionRemoved k.collection s (getId m) := by
  have hEvent : getEvent m = "removed" := hRemoval
  simp only [onTextMessageReceived, hEvent, onWebSocketDataRemoved, hName]
  cases k <;> rfl

theorem removalMessage_unknown {k : Kind} {m : QJsonObject} (hName : getName m = k.name)
    (hRemoval : IsRemoval m) {s : State} (hUnknown : cachedMap s.resources (k, getId m) = none) :
    onTextMessageReceived s m = { s with signalsBlocked := false } := by
  have hContains := (contains_eq_false_iff k (getId m) s.resources).mpr hUnknown
  rw [removalMessage_eq hName hRemoval]
  simp only [blockingSignals, collectionRemoved, hContains, Bool.false_eq_true, if_false]

theorem removalMessage_known {k : Kind} {m : QJsonObject} (hName : getName m = k.name)
    (hRemoval : IsRemoval m) {s : State} (hKnown : cachedMap s.resources (k, getId m) ≠ none) :
    (onTextMessageReceived s m).resources = k.collection.remove (getId m) s.resources := by
  have hContains : k.collection.contains (getId m) s.resources = true :=
    (Bool.eq_false_or_eq_true _).resolve_right fun hFalse =>
      hKnown ((contains_eq_false_iff ..).mp hFalse)
  rw [removalMessage_eq hName hRemoval]
  simp only [blockingSignals, collectionRemoved, hContains, if_true]
  exact emit_resources _ _

/-- What a message for `k` does: the map is updated at one key. -/
structure Refines (k : Kind) (u : MapUpdate (Kind × String) QJsonObject) (r r' : Resources) :
    Prop where
  distinct : DistinctIds r'
  maps : cachedMap r' = u.apply (cachedMap r)
  framed : SameBut k r r'

theorem message_refines {k : Kind} {m : QJsonObject} (h : IsCacheMessage k m) {s : State}
    (hDistinct : DistinctIds s.resources) :
    Refines k (messageUpdate k m) s.resources (onTextMessageReceived s m).resources := by
  obtain ⟨hName, ⟨hChange, hValid, hId⟩ | hRemoval⟩ := h
  · have hUpdate : messageUpdate k m = ⟨(k, getId m), some (getPayload m)⟩ := by
      rw [messageUpdate, if_neg hChange.not_removal]
    rw [hUpdate, changeMessage_resources hName hChange hValid]
    exact ⟨hDistinct.change hId, cachedMap_change hId _, store_sameBut ..⟩
  · have hUpdate : messageUpdate k m = ⟨(k, getId m), none⟩ := by
      rw [messageUpdate, if_pos hRemoval]
    rw [hUpdate]
    by_cases hKnown : cachedMap s.resources (k, getId m) = none
    · rw [removalMessage_unknown hName hRemoval hKnown]
      refine ⟨hDistinct, ?_, .refl ..⟩
      rw [MapUpdate.apply, ← hKnown, Function.update_eq_self]
    · rw [removalMessage_known hName hRemoval hKnown]
      exact ⟨hDistinct.remove k _, cachedMap_remove hDistinct k _, store_sameBut ..⟩

def participantUpdate (participant : QJsonObject) : MapUpdate (Kind × String) QJsonObject where
  key := (.participants, PartyEventParticipant.getId participant)
  value := some participant

theorem merge_refines (docs : List QJsonObject) {r : Resources} (h : DistinctIds r) :
    DistinctIds { r with participants := mergeParticipants r.participants docs } ∧
      cachedMap { r with participants := mergeParticipants r.participants docs } =
        (docs.map participantUpdate).reverse.foldr MapUpdate.apply (cachedMap r) := by
  induction docs generalizing r with
  | nil => exact ⟨h, rfl⟩
  | cons doc docs ih =>
    have hId : Kind.participants.collection.getId doc = PartyEventParticipant.getId doc := rfl
    obtain ⟨hDistinct, hMaps⟩ := ih (h.change hId)
    refine ⟨hDistinct, hMaps.trans ?_⟩
    rw [cachedMap_change hId, List.map_cons, List.reverse_cons, List.foldr_append]
    rfl

def Kind.named : String → Option Kind
  | "uplink.connections" => some .uplinkConnections
  | "stages" => some .stages
  | "participants" => some .participants
  | "ws-portals" => some .wsPortals
  | _ => none

theorem Kind.named_name (k : Kind) : Kind.named k.name = some k := by cases k <;> rfl

/-- The documents that an event adds, changes, merges or removes, oldest first. -/
def cacheUpdates (s : State) : Event → List (MapUpdate (Kind × String) QJsonObject)
  | .textMessage m =>
    match Kind.named (getName m) with
    | some k => [messageUpdate k m]
    | none => []
  | .reply i error body =>
    match s.requests[i]? with
    | some (.redeemInviteCode _) =>
      if error = .noError then
        (values (MemberActivationResult.getParticipants body.toObject)).map participantUpdate
      else []
    | _ => []
  | _ => []

/-- The events of the runs: messages for the four lists and the use of invite codes. -/
inductive IsCacheEvent (s : State) : Event → Prop where
  | message {k : Kind} {m : QJsonObject} (h : IsCacheMessage k m) : IsCacheEvent s (.textMessage m)
  | redeem (inviteCode : String) : IsCacheEvent s (.call (.redeemInviteCode inviteCode))
  | redeemed {i : Nat} {error : NetworkError} {body : QJsonValue} {inviteCode : String}
      (h : s.requests[i]? = some (.redeemInviteCode inviteCode)) :
      IsCacheEvent s (.reply i error body)

/-- The client beside the updates so far, newest first. -/
structure Tracked where
  client : State
  updates : List (MapUpdate (Kind × String) QJsonObject) := []

def trackedStep (t : Tracked) (e : Event) : Option Tracked :=
  (step t.client e).map fun client =>
    { client := client, updates := (cacheUpdates t.client e).reverse ++ t.updates }

theorem cacheEvent_refines {s s' : State} {e : Event} (h : IsCacheEvent s e)
    (hDistinct : DistinctIds s.resources) (hStep : step s e = some s') :
    DistinctIds s'.resources ∧
      cachedMap s'.resources =
        (cacheUpdates s e).reverse.foldr MapUpdate.apply (cachedMap s.resources) := by
  cases h with
  | @message k m hMessage =>
    obtain rfl := Option.some.inj hStep
    have hRefines := message_refines hMessage hDistinct
    have hUpdates : cacheUpdates s (.textMessage m) = [messageUpdate k m] := by
      rw [cacheUpdates, hMessage.1, Kind.named_name]
    rw [hUpdates]
    exact ⟨hRefines.distinct, hRefines.maps⟩
  | redeem inviteCode =>
    obtain rfl := Option.some.inj hStep
    have hSame : (perform s (.redeemInviteCode inviteCode)).resources = s.resources :=
      request_resources _ _
    rw [hSame]
    exact ⟨hDistinct, rfl⟩
  | @redeemed i error body inviteCode hRequest =>
    rw [step, hRequest] at hStep
    obtain rfl := Option.some.inj hStep
    simp only [onFinished, onRedeemInviteCodeReply, cacheUpdates, hRequest]
    -- a failed request merges nothing
    by_cases hError : error = .noError
    · rw [if_neg (not_not.mpr hError), if_pos hError, emitAll_resources]
      split <;> simpa using merge_refines _ hDistinct
    · rw [if_pos hError, if_neg hError, emit_resources]
      exact ⟨hDistinct, rfl⟩

/-- The caches of `t`, reached from `s`, are the map that the updates since `s` make. -/
structure CachesAreMaps (s : State) (t : Tracked) : Prop where
  distinct : DistinctIds t.client.resources
  lookup : ∀ k, cachedMap t.client.resources k =
    MapUpdate.latest (cachedMap s.resources k) k t.updates
  unknownRemoval : ∀ (k : Kind) (m : QJsonObject), getName m = k.name → IsRemoval m →
    cachedMap t.client.resources (k, getId m) = none →
      onTextMessageReceived t.client m = { t.client with signalsBlocked := false }
  framing : ∀ (k : Kind) (m : QJsonObject), IsCacheMessage k m →
    SameBut k t.client.resources (onTextMessageReceived t.client m).resources
  commute : ∀ (k k' : Kind) (m m' : QJsonObject), IsCacheMessage k m → IsCacheMessage k' m' →
    (k, getId m) ≠ (k', getId m') →
      cachedMap (onTextMessageReceived (onTextMessageReceived t.client m) m').resources =
        cachedMap (onTextMessageReceived (onTextMessageReceived t.client m') m).resources

theorem messages_commute {k k' : Kind} {m m' : QJsonObject} (h : IsCacheMessage k m)
    (h' : IsCacheMessage k' m') (hNe : (k, getId m) ≠ (k', getId m')) {s : State}
    (hDistinct : DistinctIds s.resources) :
    cachedMap (onTextMessageReceived (onTextMessageReceived s m) m').resources =
      cachedMap (onTextMessageReceived (onTextMessageReceived s m') m).resources := by
  have hFirst := message_refines h hDistinct
  have hFirst' := message_refines h' hDistinct
  rw [(message_refines h' hFirst.distinct).maps, (message_refines h hFirst'.distinct).maps,
    hFirst.maps, hFirst'.maps]
  exact (MapUpdate.apply_comm (u := messageUpdate k m) (v := messageUpdate k' m') _ hNe).symm

theorem tracked_invariant {s : State} (hDistinct : DistinctIds s.resources) {t : Tracked}
    (h : Reachable trackedStep (fun t e => IsCacheEvent t.client e) (· = { client := s }) t) :
    DistinctIds t.client.resources ∧
      cachedMap t.client.resources = t.updates.foldr MapUpdate.apply (cachedMap s.resources) := by
  induction h with
  | start hStart =>
    rw [hStart]
    exact ⟨hDistinct, rfl⟩
  | next _ hEvent hStep ih =>
    obtain ⟨client, hClient, rfl⟩ := Option.map_eq_some_iff.mp hStep
    obtain ⟨hDistinct', hMaps⟩ := cacheEvent_refines hEvent ih.1 hClient
    refine ⟨hDistinct', hMaps.trans ?_⟩
    rw [ih.2, List.foldr_append]

theorem cachesAreMaps_of_reachable {s : State} (hDistinct : DistinctIds s.resources)
    {t : Tracked}
    (h : Reachable trackedStep (fun t e => IsCacheEvent t.client e) (· = { client := s }) t) :
    CachesAreMaps s t := by
  obtain ⟨hDistinct', hMaps⟩ := tracked_invariant hDistinct h
  constructor
  · exact hDistinct'
  · intro k
    rw [hMaps, MapUpdate.foldr_apply]
  · intro k m hName hRemoval hUnknown
    exact removalMessage_unknown hName hRemoval hUnknown
  · intro k m hMessage
    exact (message_refines hMessage hDistinct').framed
  · intro k k' m m' hMessage hMessage' hNe
    exact messages_commute hMessage hMessage' hNe hDistinct'

theorem stageMessage_isCacheMessage (id : String) :
    IsCacheMessage .stages (dataMessage "added" "stages" id (stageDocument id)) :=
  ⟨rfl, .inl ⟨.inl rfl, rfl, rfl⟩⟩

theorem cachesAreMaps_of_reachable_twoStages :
    CachesAreMaps freshClient
      { client := onTextMessageReceived
          (onTextMessageReceived freshClient
            (dataMessage "added" "stages" "a" (stageDocument "a")))
          (dataMessage "added" "stages" "b" (stageDocument "b"))
        updates := [⟨(.stages, "b"), some (stageDocument "b")⟩,
          ⟨(.stages, "a"), some (stageDocument "a")⟩] } :=
  cachesAreMaps_of_reachable (s := freshClient)
    (by intro k; cases k <;> exact List.nodup_nil)
    (.next (e := Event.textMessage _)
      (.next (e := Event.textMessage _) (.start rfl)
        (.message (stageMessage_isCacheMessage "a")) rfl)
      (.message (stageMessage_isCacheMessage "b")) rfl)

end SrcLink.ApiClient
