import SrcLink.Client.StableViews
import SrcLink.Sources.IngressLinkSource

/-! # Deletion of a downlink

An ingress source puts and deletes its own downlink, and its destructor deletes it
with a request that bypasses the sequencer. That request can overtake the others:
the downlink stays deleted as long as no reply to an overtaken request and no late
message brings its document back.
-/

namespace SrcLink.IngressLinkSource

open Json Schema Schema.WebSocketMessage StepSystem ApiClient

set_option autoImplicit false

/-- The request of the destructor. -/
def destroy (uuid : String) : Call := .deleteDownlink uuid true

/-- The downlink that a call asks for. -/
def calledDownlink : Call → Option String
  | .requestDownlink uuid | .putDownlink uuid _ | .putDownlinkStatus uuid
  | .deleteDownlink uuid _ => some uuid
  | _ => none

def requestedDownlink : Request → Option String
  | .downlink uuid | .putDownlink uuid _ | .putDownlinkStatus uuid | .deleteDownlink uuid _ =>
    some uuid
  | _ => none

/-- One source beside the client that it shares with everything else. -/
structure World where
  client : State
  destroyed : Bool := false
  /-- the request of the destructor has succeeded -/
  deleted : Bool := false

inductive Event where
  | putConnection (connRequest : QJsonObject)
  | destroy
  | client (e : ApiClient.Event)

/-- Whether an event is the success of the destructor's request. -/
def reportsDeletion (uuid : String) (s : State) : ApiClient.Event → Bool
  | .reply i .noError _ =>
    match s.requests[i]? with
    | some (.deleteDownlink sourceUuid true) => sourceUuid = uuid
    | _ => false
  | _ => false

/-- Nobody but the source itself calls for its downlink. -/
def fromElsewhere (uuid : String) : ApiClient.Event → Bool
  | .call c => calledDownlink c ≠ some uuid
  | _ => true

def step (uuid : String) (w : World) : Event → Option World
  | .putConnection connRequest =>
    if w.destroyed then none
    else some { w with client := perform w.client (IngressLinkSource.putConnection uuid connRequest) }
  | .destroy =>
    if w.destroyed then none
    else some { w with
      client := perform w.client (IngressLinkSource.destroy uuid), destroyed := true }
  | .client e =>
    if fromElsewhere uuid e then
      (ApiClient.step w.client e).map fun client =>
        { w with client := client, deleted := w.deleted || reportsDeletion uuid w.client e }
    else none

def Created (w : World) : Prop := Constructed w.client ∧ w.destroyed = false ∧ w.deleted = false

/-- The source is destroyed, its deletion has succeeded, and no request for it is pending. -/
def Closed (uuid : String) (w : World) : Prop :=
  w.destroyed = true ∧ w.deleted = true ∧
    ∀ r ∈ w.client.requests, requestedDownlink r ≠ some uuid

instance (uuid : String) (w : World) : Decidable (Closed uuid w) :=
  inferInstanceAs (Decidable (_ ∧ _ ∧ _))

def subscribesDownlink (uuid : String) : Frame → Bool
  | .subscribe name payload => name = "downlink" && (payload.value "uuid").toString = uuid
  | .unsubscribe _ _ => false

/-- The subscribe messages sent for the downlink. -/
def subscriptions (uuid : String) (s : State) : List Frame :=
  s.sent.filter (subscribesDownlink uuid)

theorem subscriptions_emit (uuid : String) (s : State) (signal : Signal) :
    subscriptions uuid (emit s signal) = subscriptions uuid s := by
  unfold emit
  split <;> rfl

theorem subscriptions_stable (uuid : String) :
    Stable (fun frame => subscribesDownlink uuid frame = false) (subscriptions uuid) where
  emit s signal _ := subscriptions_emit uuid s signal
  send s frame hOther := by
    unfold send
    split
    · rw [subscriptions, List.filter_cons_of_neg (by simp [hOther])]
      rfl
    · rfl
  requests _ _ := rfl
  resources _ _ := rfl
  settings _ _ := rfl
  websocket _ _ := rfl
  signalsBlocked _ _ := rfl
  terminating _ _ := rfl
  uplinkStatus _ _ := rfl
  outputs _ _ _ := rfl
  tokens _ _ _ := rfl

theorem subscriptions_onO2LinkingSucceeded (uuid : String) (s : State) :
    subscriptions uuid (onO2LinkingSucceeded s) = subscriptions uuid s := by
  simp only [onO2LinkingSucceeded]
  split
  · split
    · rw [subscriptions_emit]
      split
      · exact (subscriptions_stable uuid).request s _
      · rfl
    · rfl
  · exact subscriptions_emit uuid _ _

theorem subscriptions_unlink (uuid : String) (s : State) :
    subscriptions uuid (unlink s) = subscriptions uuid s :=
  subscriptions_onO2LinkingSucceeded uuid { s with linked := false, refreshToken := false }

theorem subscriptions_relinks {uuid : String} {s s' : State} {e : ApiClient.Event}
    (hRelinks : Relinks s e) (hStep : ApiClient.step s e = some s') :
    subscriptions uuid s' = subscriptions uuid s := by
  cases e with
  | linkingSucceeded =>
    obtain rfl := Option.some.inj hStep
    exact subscriptions_onO2LinkingSucceeded uuid s
  | reply i error body =>
    obtain ⟨parallel, hRequest⟩ := hRelinks
    rw [ApiClient.step, hRequest] at hStep
    obtain rfl := Option.some.inj hStep
    have hReply := (subscriptions_stable uuid).frameRule.onDeleteUplinkReply
      { s with requests := s.requests.eraseIdx i } error fun _ => rfl
    exact (subscriptions_unlink uuid _).trans hReply
  | _ => exact hRelinks.elim

/-- Whether an event stores a document for the downlink. -/
def BringsDownlink (uuid : String) (s : State) : ApiClient.Event → Prop
  | .reply i error body =>
    error = .noError ∧ DownlinkInfo.isValid body.toObject ∧
      ∃ r, s.requests[i]? = some r ∧ r.storedDownlink = some uuid
  | .textMessage m =>
    IsChange m ∧ getName m = "downlink.connections" ∧ getId m = uuid ∧
      StageConnection.isValid (getPayload m)
  | _ => False

/-- Once the downlink is deleted, no document for it arrives. -/
def NoLateDownlink (uuid : String) (w : World) (e : Event) : Prop :=
  w.deleted = true → ∀ e', e = .client e' → ¬BringsDownlink uuid w.client e'

section Steps

variable {uuid : String} {s s' : State} {e : ApiClient.Event}

theorem subscriptions_step (hStep : ApiClient.step s e = some s')
    (hAbsent : s.resources.downlinks.lookup uuid = none) (hNone : ¬BringsDownlink uuid s e) :
    subscriptions uuid s' = subscriptions uuid s := by
  by_cases hRelinks : Relinks s e
  · exact subscriptions_relinks hRelinks hStep
  · refine (subscriptions_stable uuid).step hStep (fun frame hSends => ?_) hRelinks
    have hOther {sourceUuid : String} (hNe : sourceUuid ≠ uuid) :
        subscribesDownlink uuid (.subscribe "downlink" (uuidPayload sourceUuid)) = false := by
      simp [subscribesDownlink, uuidPayload, QJsonObject.value_cons, QJsonValue.toString, hNe]
    cases hSends with
    | ready _ hTopic =>
      simp only [readyTopics, List.mem_cons, List.not_mem_nil, or_false] at hTopic
      obtain rfl | rfl | rfl | rfl | rfl := hTopic <;> rfl
    | resumed _ hKnown =>
      refine hOther fun hSame => ?_
      exact (QMap.mem_keys_iff ..).mp hKnown (hSame ▸ hAbsent)
    | putUplink => rfl
    | @putDownlink i sourceUuid params body hRequest hValid =>
      refine hOther fun hSame => hNone ⟨rfl, hValid, _, hRequest, ?_⟩
      rw [← hSame]
      rfl
    | deleteUplink | deleteDownlink => rfl

theorem lookup_update {r : Resources} (hUpdate : Update s e r)
    (hAbsent : s.resources.downlinks.lookup uuid = none) (hNone : ¬BringsDownlink uuid s e) :
    r.downlinks.lookup uuid = none := by
  cases hUpdate with
  | @downlink i request sourceUuid body hRequest hStores hValid =>
    rw [QMap.lookup_insert, if_neg, hAbsent]
    rintro rfl
    exact hNone ⟨rfl, hValid, request, hRequest, hStores⟩
  | deletedDownlink | downlinkRemoved =>
    rw [QMap.lookup_remove]
    split
    · rfl
    · exact hAbsent
  | downlinkConnection hChange hName hValid =>
    rw [QMap.lookup_insert, if_neg, hAbsent]
    exact fun hSame => hNone ⟨hChange, hName, hSame.symm, hValid⟩
  | unlinked | cleared => rfl
  | @collectionChanged k | @collectionRemoved k => cases k <;> exact hAbsent
  | @fieldChanged f m hChange hName hValid =>
    unfold Field.named at hName
    split at hName <;> cases hName <;> exact hAbsent
  | _ => exact hAbsent

theorem lookup_deleted (hReports : reportsDeletion uuid s e = true)
    (hStep : ApiClient.step s e = some s') : s'.resources.downlinks.lookup uuid = none := by
  cases e with
  | reply i error body =>
    cases error with
    | noError =>
      simp only [reportsDeletion] at hReports
      split at hReports
      · next sourceUuid hRequest =>
        obtain rfl := of_decide_eq_true hReports
        rw [ApiClient.step, hRequest] at hStep
        obtain rfl := Option.some.inj hStep
        simp only [onFinished, onDeleteDownlinkReply]
        split
        · next hError => exact (hError rfl).elim
        · split
          · rw [emit_resources, QMap.lookup_remove, if_pos rfl]
          · next hContains => exact Option.not_isSome_iff_eq_none.mp hContains
      · cases hReports
    | _ => cases hReports
  | _ => cases hReports

end Steps

theorem perform_keeps {uuid : String} {c : Call} (hCalls : calledDownlink c = some uuid)
    (s : State) :
    (perform s c).resources = s.resources ∧
      subscriptions uuid (perform s c) = subscriptions uuid s := by
  refine ⟨?_, (subscriptions_stable uuid).perform s c⟩
  cases c <;> first | cases hCalls; done | exact request_resources s _

theorem calledDownlink_putConnection (uuid : String) (connRequest : QJsonObject) :
    calledDownlink (putConnection uuid connRequest) = some uuid := by
  unfold putConnection
  split <;> rfl

theorem calledDownlink_destroy (uuid : String) :
    calledDownlink (IngressLinkSource.destroy uuid) = some uuid := rfl

theorem absent_step {uuid : String} {w w' : World} {e : Event}
    (hLate : NoLateDownlink uuid w e) (hStep : step uuid w e = some w')
    (hAbsent : w.deleted = true → w.client.resources.downlinks.lookup uuid = none) :
    (w'.deleted = true → w'.client.resources.downlinks.lookup uuid = none) ∧
      (w.deleted = true →
        w'.deleted = true ∧ subscriptions uuid w'.client = subscriptions uuid w.client) := by
  cases e with
  | putConnection connRequest =>
    simp only [step] at hStep
    split at hStep
    · cases hStep
    · obtain rfl := Option.some.inj hStep
      obtain ⟨hResources, hSent⟩ :=
        perform_keeps (calledDownlink_putConnection uuid connRequest) w.client
      exact ⟨fun hDeleted => by rw [hResources]; exact hAbsent hDeleted, fun hDeleted =>
        ⟨hDeleted, hSent⟩⟩
  | destroy =>
    simp only [step] at hStep
    split at hStep
    · cases hStep
    · obtain rfl := Option.some.inj hStep
      obtain ⟨hResources, hSent⟩ := perform_keeps (calledDownlink_destroy uuid) w.client
      exact ⟨fun hDeleted => by rw [hResources]; exact hAbsent hDeleted, fun hDeleted =>
        ⟨hDeleted, hSent⟩⟩
  | client e =>
    simp only [step] at hStep
    split at hStep
    · obtain ⟨client, hClient, rfl⟩ := Option.map_eq_some_iff.mp hStep
      refine ⟨fun hDeleted => ?_, fun hDeleted => ⟨by simp [hDeleted], ?_⟩⟩
      · -- deleted before, or reported by this very event
        obtain hBefore | hReports := Bool.or_eq_true_iff.mp hDeleted
        · exact lookup_update (step_update hClient) (hAbsent hBefore) (hLate hBefore e rfl)
        · exact lookup_deleted hReports hClient
      · exact subscriptions_step hClient (hAbsent hDeleted) (hLate hDeleted e rfl)
    · cases hStep

theorem absent_of_deleted {uuid : String} {w : World}
    (h : Reachable (step uuid) (NoLateDownlink uuid) Created w) (hDeleted : w.deleted = true) :
    w.client.resources.downlinks.lookup uuid = none := by
  induction h with
  | start hStart => exact absurd hDeleted (by rw [hStart.2.2]; decide)
  | next _ hLate hStep ih => exact (absent_step hLate hStep ih).1 hDeleted

/-- The downlink has no entry, and no run that meets the guard subscribes it again. -/
structure StaysDeleted (uuid : String) (guard : World → Event → Prop) (w : World) : Prop where
  absent : w.client.resources.downlinks.lookup uuid = none
  silent : ∀ w', Reachable (step uuid) guard (· = w) w' →
    subscriptions uuid w'.client = subscriptions uuid w.client

theorem staysDeleted_of_noLateDownlink {uuid : String} {w : World}
    (h : Reachable (step uuid) (NoLateDownlink uuid) Created w) (hClosed : Closed uuid w) :
    StaysDeleted uuid (NoLateDownlink uuid) w where
  absent := absent_of_deleted h hClosed.2.1
  silent w' h' := by
    have hKept : w'.deleted = true ∧ subscriptions uuid w'.client = subscriptions uuid w.client := by
      induction h' with
      | start hStart =>
        rw [hStart]
        exact ⟨hClosed.2.1, rfl⟩
      | next hBefore hLate hStep ih =>
        have hAbsent := absent_of_deleted (h.trans hBefore) ih.1
        obtain ⟨hDeleted, hSent⟩ := (absent_step hLate hStep fun _ => hAbsent).2 ih.1
        exact ⟨hDeleted, hSent.trans ih.2⟩
    exact hKept.2

def connectionRequest : QJsonObject :=
  [("port", .double 9000), ("stage_id", .string "stage"), ("seat_name", .string "seat"),
    ("source_name", .string "camera")]

/-- The reply to the put downlink. -/
def downlinkReply (position : Nat) : Event :=
  .client (.reply position .noError (.object [("connection", .object (connectionDocument "source"))]))

/-- The reply to the deletion. -/
def deletionReply (position : Nat) : Event := .client (.reply position .noError .undefined)

def freshWorld : World := { client := freshClient }

theorem freshWorld_created : Created freshWorld := ⟨freshClient_constructed, rfl, rfl⟩

/-- The put completes before the deletion. -/
theorem staysDeleted_of_noLateDownlink_inOrder :
    ∃ w, Closed "source" w ∧ StaysDeleted "source" (NoLateDownlink "source") w := by
  have hIdle : Reachable (step "source") (NoLateDownlink "source") Created _ :=
    .next (e := Event.client (.reply 0 (.other 1) .undefined)) (.start freshWorld_created)
      (fun hDeleted => nomatch hDeleted) rfl
  have hPut := Reachable.next (e := Event.putConnection connectionRequest) hIdle
    (fun hDeleted => nomatch hDeleted) rfl
  have hDestroyed := Reachable.next (e := Event.destroy) hPut
    (fun hDeleted => nomatch hDeleted) rfl
  have hStored := Reachable.next (e := downlinkReply 0) hDestroyed
    (fun hDeleted => nomatch hDeleted) rfl
  have hDeleted := Reachable.next (e := deletionReply 0) hStored
    (fun hDeleted => nomatch hDeleted) rfl
  exact ⟨_, by decide +kernel, staysDeleted_of_noLateDownlink hDeleted (by decide +kernel)⟩

/-- The deletion overtakes the put. -/
theorem not_staysDeleted :
    ¬∀ uuid w, Reachable (step uuid) anyStep Created w → Closed uuid w →
      StaysDeleted uuid anyStep w := by
  intro hAll
  have hIdle : Reachable (step "source") anyStep Created _ :=
    .next (e := Event.client (.reply 0 (.other 1) .undefined)) (.start freshWorld_created)
      trivial rfl
  have hPut := Reachable.next (e := Event.putConnection connectionRequest) hIdle trivial rfl
  have hDestroyed := Reachable.next (e := Event.destroy) hPut trivial rfl
  have hDeleted := Reachable.next (e := deletionReply 1) hDestroyed trivial rfl
  have hStored := Reachable.next (e := downlinkReply 0) hDeleted trivial rfl
  have hAbsent := (hAll "source" _ hStored (by decide +kernel)).absent
  exact absurd (congrArg Option.isNone hAbsent) (by decide +kernel)

end SrcLink.IngressLinkSource
