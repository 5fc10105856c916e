import SrcLink.Library.StepSystem
import SrcLink.Sources.IngressLinkSource

/-! # Revisions of a downlink

Every capture of changed settings increments the revision, and `onDownlinkReady`
replaces it by the one of the server. As long as no downlink takes it back, later
request bodies have larger revisions.
-/

namespace SrcLink.IngressLinkSource

open Json Schema StepSystem

set_option autoImplicit false

def sourceStep (s : Source) (e : SourceEvent) : Option Source := some (s.apply e)

/-- The password generator has not given an empty string. -/
def Constructed (s : Source) : Prop :=
  ∃ uuid ports c, c.streamId ≠ "" ∧ s = (Source.construct uuid ports c).1

/-- A generated stream ID differs from the previous one. -/
def FreshStreamIds (s : Source) : SourceEvent → Prop
  | .settingsUpdate _ c => c.streamId ≠ DownlinkRequestBody.getStreamId s.connRequest
  | _ => True

/-- Besides, the revision does not overflow, and a downlink that resets the decoder does not
take the revision back. -/
def OrderedRevisions (s : Source) (e : SourceEvent) : Prop :=
  FreshStreamIds s e ∧
    match e with
    | .settingsUpdate _ _ => s.revision < 2 ^ 31 - 1
    | .downlinkReady downlink =>
      let incoming := DownlinkInfo.getConnection downlink
      StageConnection.getId incoming = s.uuid → s.reconnectionNeeded incoming = true →
        s.revision ≤ StageConnection.getRevision incoming
    | _ => True

structure RevisionsMonotone (guard : Source → SourceEvent → Prop) (s : Source) : Prop where
  later : ∀ s', Reachable sourceStep guard (· = s) s' → s.revision ≤ s'.revision
  bodies : (bodies s).Pairwise fun later earlier =>
    later = earlier ∨
      DownlinkRequestBody.getRevision earlier < DownlinkRequestBody.getRevision later

section Captured

variable {c : Capture} {req : QJsonObject} {revision : Int}

theorem streamId_newRequest (c : Capture) (req : QJsonObject) :
    (newRequest c req).value "stream_id" = .string c.streamId := by
  rw [newRequest, DownlinkRequestBody.setParameters,
    QJsonObject.value_insert_of_ne _ _ (by decide), DownlinkRequestBody.setStreamId,
    QJsonObject.value_insert_self]

theorem nextRevision_of_fresh (hFresh : c.streamId ≠ DownlinkRequestBody.getStreamId req)
    (hInt : IsInt32 revision) (hMax : revision < 2 ^ 31 - 1) :
    nextRevision c req revision = revision + 1 := by
  have hChanged : (newRequest c req).equals req = false := by
    refine Bool.eq_false_of_not_eq_true fun hEqual => hFresh ?_
    have hValue := QJsonObject.string_of_equals hEqual (streamId_newRequest c req)
    rw [DownlinkRequestBody.getStreamId, hValue]
    rfl
  rw [nextRevision, hChanged, if_neg (by decide), toInt32]
  obtain ⟨hLow, -⟩ := hInt
  exact Int.bmod_eq_of_le (by omega) (by omega)

theorem value_setPort {key : String} (hKey : key ≠ "port") (req : QJsonObject) (port : Int) :
    (DownlinkRequestBody.setPort req port).value key = req.value key := by
  rw [DownlinkRequestBody.setPort, QJsonObject.value_insert_of_ne _ _ hKey]

theorem value_reallocatePort {key : String} (hKey : key ≠ "port") (ports : Ports)
    (req : QJsonObject) : (reallocatePort ports req).1.value key = req.value key := by
  have hTaken (ports : Ports) (req : QJsonObject) :
      (takePort ports req).1.value key = req.value key := by
    simp only [takePort]
    split
    · exact value_setPort hKey req _
    · rfl
  have hGiven : (giveBackPort ports req).1.value key = req.value key := by
    simp only [giveBackPort]
    split
    · exact value_setPort hKey req 0
    · rfl
  exact (hTaken _ _).trans hGiven

/-- Past `newRequest` and the revision, a request changes in its port only. -/
theorem value_captureSettings {key : String} (hKey : key ≠ "port") (ports : Ports) (c : Capture)
    (s : Source) :
    (s.captureSettings ports c).1.connRequest.value key =
      (DownlinkRequestBody.setRevision (newRequest c s.connRequest)
        (nextRevision c s.connRequest s.revision)).value key := by
  rw [Source.captureSettings_connRequest, value_reallocatePort hKey]

theorem getRevision_captureSettings (ports : Ports) (c : Capture) {s : Source}
    (hInt : IsInt32 (nextRevision c s.connRequest s.revision)) :
    DownlinkRequestBody.getRevision (s.captureSettings ports c).1.connRequest =
      nextRevision c s.connRequest s.revision := by
  rw [DownlinkRequestBody.getRevision, value_captureSettings (by decide),
    DownlinkRequestBody.setRevision, QJsonObject.value_insert_self, toInt_double hInt]

end Captured

structure RevisionInv (s : Source) : Prop where
  isInt32 : IsInt32 s.revision
  request : DownlinkRequestBody.getRevision s.connRequest ≤ s.revision
  captured : ∀ body ∈ bodies s, body = s.connRequest ∨
    DownlinkRequestBody.getRevision body < DownlinkRequestBody.getRevision s.connRequest
  ordered : (bodies s).Pairwise fun later earlier =>
    later = earlier ∨
      DownlinkRequestBody.getRevision earlier < DownlinkRequestBody.getRevision later

theorem bodies_putConnection (s : Source) :
    bodies s.putConnection = bodies s ∨ bodies s.putConnection = s.connRequest :: bodies s := by
  unfold Source.putConnection IngressLinkSource.putConnection
  split
  · exact .inr rfl
  · exact .inl rfl

theorem RevisionInv.congr {s t : Source} (h : RevisionInv s) (hRevision : t.revision = s.revision)
    (hRequest : t.connRequest = s.connRequest) (hCalls : t.calls = s.calls) : RevisionInv t := by
  have hBodies : bodies t = bodies s := by rw [bodies, hCalls, bodies]
  constructor
  · rw [hRevision]
    exact h.isInt32
  · rw [hRevision, hRequest]
    exact h.request
  · rw [hBodies, hRequest]
    exact h.captured
  · rw [hBodies]
    exact h.ordered

theorem RevisionInv.putConnection {s : Source} (h : RevisionInv s) :
    RevisionInv s.putConnection := by
  rcases bodies_putConnection s with hSame | hNew
  · exact ⟨h.isInt32, h.request, hSame ▸ h.captured, hSame ▸ h.ordered⟩
  · refine ⟨h.isInt32, h.request, ?_, ?_⟩
    · rw [hNew]
      exact List.forall_mem_cons.mpr ⟨.inl rfl, h.captured⟩
    · rw [hNew]
      exact List.pairwise_cons.mpr ⟨fun body hBody => (h.captured body hBody).imp_left Eq.symm,
        h.ordered⟩

theorem RevisionInv.captured_of_fresh {s t : Source} (h : RevisionInv s)
    (hInt : IsInt32 t.revision) (hNext : t.revision = s.revision + 1)
    (hRequest : DownlinkRequestBody.getRevision t.connRequest = t.revision)
    (hCalls : t.calls = s.calls) : RevisionInv t := by
  have hBodies : bodies t = bodies s := by rw [bodies, hCalls, bodies]
  refine ⟨hInt, hRequest.le, fun body hBody => .inr ?_, hBodies ▸ h.ordered⟩
  have hOld := h.request
  rw [hBodies] at hBody
  rcases h.captured body hBody with rfl | hLess
  · omega
  · omega

theorem RevisionInv.captureSettings {s : Source} (h : RevisionInv s) (ports : Ports)
    {c : Capture} (hFresh : c.streamId ≠ DownlinkRequestBody.getStreamId s.connRequest)
    (hMax : s.revision < 2 ^ 31 - 1) :
    RevisionInv (s.captureSettings ports c).1 ∧
      (s.captureSettings ports c).1.revision = s.revision + 1 := by
  have hRevision := Source.captureSettings_revision ports c s
  have hNext := hRevision.trans (nextRevision_of_fresh hFresh h.isInt32 hMax)
  have hInt : IsInt32 (s.captureSettings ports c).1.revision := by
    obtain ⟨hLow, hHigh⟩ := h.isInt32
    rw [hNext]
    constructor <;> omega
  have hRequest := getRevision_captureSettings ports c (hRevision ▸ hInt)
  exact ⟨h.captured_of_fresh hInt hNext (hRequest.trans hRevision.symm)
    (Source.captureSettings_calls ports c s), hNext⟩

/-- Besides keeping the invariant, a step does not decrease the revision. -/
theorem step_revision {s t : Source} {e : SourceEvent} (h : RevisionInv s)
    (hGuard : OrderedRevisions s e) (hApplied : Applied s e t) :
    RevisionInv t ∧ s.revision ≤ t.revision := by
  obtain ⟨hFresh, hOrdered⟩ := hGuard
  cases hApplied with
  | captured ports c =>
    obtain ⟨hInv, hNext⟩ := h.captureSettings ports hFresh hOrdered
    refine ⟨hInv.putConnection, ?_⟩
    rw [Source.putConnection, hNext]
    omega
  | reset hIncoming hOwn hNeeded =>
    subst hIncoming
    have hLater := hOrdered hOwn hNeeded
    exact ⟨⟨isInt32_toInt _, h.request.trans hLater, h.captured, h.ordered⟩, hLater⟩
  | stored | emptied => exact ⟨h.congr rfl rfl rfl, le_rfl⟩
  | put => exact ⟨h.putConnection, le_rfl⟩
  | ignored | unchanged => exact ⟨h, le_rfl⟩

theorem unregistered_value {key : String} (hRelay : key ≠ "relay_apps") (hPort : key ≠ "port")
    (uuid : String) (c : Capture) :
    (Source.unregistered uuid c).connRequest.value key = .undefined := by
  rw [Source.unregistered, DownlinkRequestBody.setRelayApps, DownlinkRequestBody.setPort,
    QJsonObject.value_insert_of_ne _ _ hRelay, QJsonObject.value_insert_of_ne _ _ hPort]
  rfl

theorem unregistered_inv (uuid : String) (c : Capture) :
    RevisionInv (Source.unregistered uuid c) where
  isInt32 := ⟨(by decide : (-2 ^ 31 : Int) ≤ 0), (by decide : (0 : Int) < 2 ^ 31)⟩
  request := by
    rw [DownlinkRequestBody.getRevision, unregistered_value (by decide) (by decide)]
    exact le_rfl
  captured := List.forall_mem_nil _
  ordered := .nil

theorem constructed_inv {s : Source} (h : Constructed s) : RevisionInv s := by
  obtain ⟨uuid, ports, c, hFresh, rfl⟩ := h
  have hNew : c.streamId ≠
      DownlinkRequestBody.getStreamId (Source.unregistered uuid c).connRequest := by
    rw [DownlinkRequestBody.getStreamId, unregistered_value (by decide) (by decide)]
    exact hFresh
  have hZero : (Source.unregistered uuid c).revision < 2 ^ 31 - 1 :=
    (by decide : (0 : Int) < 2 ^ 31 - 1)
  obtain ⟨hInv, -⟩ := (unregistered_inv uuid c).captureSettings ports hNew hZero
  simp only [Source.construct]
  generalize (Source.captureSettings ports c (Source.unregistered uuid c)).1 = captured at hInv ⊢
  apply RevisionInv.putConnection
  exact hInv.congr rfl rfl rfl

theorem revisionInv_of_reachable {s : Source}
    (h : Reachable sourceStep OrderedRevisions Constructed s) : RevisionInv s :=
  h.invariant (fun _ => constructed_inv) fun _ _ _ hInv hGuard hStep =>
    Option.some.inj hStep ▸ (step_revision hInv hGuard (applied _ _)).1

theorem revisionsMonotone_of_ordered {s : Source}
    (h : Reachable sourceStep OrderedRevisions Constructed s) :
    RevisionsMonotone OrderedRevisions s where
  later s' hLater := by
    induction hLater with
    | start hStart => exact hStart ▸ le_rfl
    | next hBefore hGuard hStep ih =>
      have hInv := revisionInv_of_reachable (h.trans hBefore)
      exact ih.trans (Option.some.inj hStep ▸ (step_revision hInv hGuard (applied _ _)).2)
  bodies := (revisionInv_of_reachable h).ordered

theorem createdSource_constructed : Constructed createdSource := ⟨_, _, _, by decide, rfl⟩

/-- The answer arrives before the next change of the settings. -/
theorem revisionsMonotone_of_ordered_answered :
    ∃ s, (bodies s).length = 2 ∧ RevisionsMonotone OrderedRevisions s := by
  have hAnswered : Reachable sourceStep OrderedRevisions Constructed _ :=
    .next (e := SourceEvent.downlinkReady (allocatedDownlink 1 "a" "secret"))
      (.start createdSource_constructed) ⟨trivial, fun _ _ => by decide +kernel⟩ rfl
  have hFresh : ("b" : String) ≠ DownlinkRequestBody.getStreamId
      (createdSource.apply (.downlinkReady (allocatedDownlink 1 "a" "secret"))).connRequest := by
    decide +kernel
  have hMax : (createdSource.apply (.downlinkReady (allocatedDownlink 1 "a" "secret"))).revision <
      2 ^ 31 - 1 := by decide +kernel
  have hUpdated := Reachable.next (e := updateWith "b") hAnswered ⟨hFresh, hMax⟩ rfl
  exact ⟨_, by decide +kernel, revisionsMonotone_of_ordered hUpdated⟩

/-- The answer to the first request takes back the revision of the second one, which the third
one then has again. -/
theorem not_revisionsMonotone :
    ¬∀ s, Reachable sourceStep FreshStreamIds Constructed s →
      RevisionsMonotone FreshStreamIds s := by
  intro hAll
  have hFresh : ("b" : String) ≠ DownlinkRequestBody.getStreamId createdSource.connRequest := by
    decide +kernel
  have hUpdated : Reachable sourceStep FreshStreamIds Constructed _ :=
    .next (e := updateWith "b") (.start createdSource_constructed) hFresh rfl
  have hStale := Reachable.next
    (e := SourceEvent.downlinkReady (allocatedDownlink 1 "a" "secret")) hUpdated trivial rfl
  have hFreshAgain : ("c" : String) ≠ DownlinkRequestBody.getStreamId ((createdSource.apply
      (updateWith "b")).apply (.downlinkReady (allocatedDownlink 1 "a" "secret"))).connRequest := by
    decide +kernel
  have hRepeated := Reachable.next (e := updateWith "c") hStale hFreshAgain rfl
  have hBodies := (hAll _ hRepeated).bodies
  have hPut : (bodies (((createdSource.apply (updateWith "b")).apply
      (.downlinkReady (allocatedDownlink 1 "a" "secret"))).apply (updateWith "c"))).map
        (fun body => (DownlinkRequestBody.getStreamId body, DownlinkRequestBody.getRevision body)) =
      [("c", 2), ("b", 2), ("a", 1)] := by decide +kernel
  obtain ⟨third, earlier, hEqual, hThird, hRest⟩ := List.map_eq_cons_iff.mp hPut
  obtain ⟨second, first, rfl, hSecond, -⟩ := List.map_eq_cons_iff.mp hRest
  rw [hEqual] at hBodies
  rcases (List.pairwise_cons.mp hBodies).1 second List.mem_cons_self with rfl | hLess
  · exact absurd (hThird.symm.trans hSecond) (by decide)
  · rw [(Prod.mk.inj hThird).2, (Prod.mk.inj hSecond).2] at hLess
    omega

end SrcLink.IngressLinkSource
