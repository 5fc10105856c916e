import SrcLink.Portal.PortalMessages

/-! # The response to a batch of requests

A guest that sends a batch waits for one message with the responses, in order: of
all requests, or of those up to the first that fails when the batch halts on
failure. The loop leaves out the response that makes it halt, nothing is sent when no
response was collected, and the fields that obs-websocket has as optional must be there.
-/

namespace SrcLink.WsPortalClient

open Nlohmann
open QString (qUtf8Printable)

set_option autoImplicit false

/-- The fields of a request that are read. -/
structure Request where
  requestId : Option ByteArray
  requestType : ByteArray
  requestData : Option Json

/-- The fields of a batch that are read, with the sender's connection. -/
structure Batch where
  connectionId : ByteArray
  requestId : ByteArray
  haltOnFailure : Option Bool
  requests : List Request

/-- A request of a batch, as obs-websocket accepts it: it needs neither an id nor data. -/
structure IsRequest (document : Json) (r : Request) : Prop where
  fields : ∃ fields, document = .object fields ∧
    Json.lookup fields "requestId" = r.requestId.map .string ∧
    Json.lookup fields "requestType" = some (.string r.requestType) ∧
    Json.lookup fields "requestData" = r.requestData
  utf8 : ∀ requestData ∈ r.requestData, requestData.size ≠ 0 → requestData.isUtf8 = true

/-- The data `d` of a body with the opcode 8; `haltOnFailure` may be omitted, or null. -/
structure IsBatchData (data : Json) (b : Batch) : Prop where
  fields : ∃ fields documents, data = .object fields ∧
    (Json.lookup fields "haltOnFailure").getD .null =
      (b.haltOnFailure.map Json.boolean).getD .null ∧
    Json.lookup fields "requestId" = some (.string b.requestId) ∧
    Json.lookup fields "requests" = some (.array documents) ∧
    List.Forall₂ IsRequest documents b.requests

section Handler

variable {world : Type} (services : Services world)

/-- A message that carries a well-formed batch. -/
structure IsBatch (message : ByteArray) (data : Json) (b : Batch) : Prop where
  fields : ∃ fields body, services.fromMsgpack message = .object fields ∧
    Json.lookup fields "connectionId" = some (.string b.connectionId) ∧
    Json.lookup fields "body" = some (.binary body) ∧
    ∃ bodyFields opcode, services.fromMsgpack body = .object bodyFields ∧
      Json.lookup bodyFields "op" = some opcode ∧ opcode.getInt services.truncate = .ok 8 ∧
      Json.lookup bodyFields "d" = some data
  data : IsBatchData data b

def answer (r : Request) (w : world) : Option Response × world :=
  call services r.requestType (r.requestData.getD .null) w

/-- The response that the guest is to get, with the id and the type that it has sent. -/
def response (r : Request) (w : world) : Json :=
  match (answer services r w).1 with
  | none => .null
  | some answered =>
    .ofFields
      (r.requestId.toList.map (fun requestId => ("requestId", .string requestId)) ++
        [("requestStatus", requestStatus answered), ("requestType", .string r.requestType),
          ("responseData", answered.responseData.getD .null)])

/-- The responses of all requests, or of those up to the first that fails. -/
def completeResponses (haltOnFailure : Bool) : List Request → world → List Json
  | [], _ => []
  | r :: rs, w =>
    response services r w ::
      if haltOnFailure && !succeeded (answer services r w).1 then []
      else completeResponses haltOnFailure rs (answer services r w).2

def AllSucceed : List Request → world → Prop
  | [], _ => True
  | r :: rs, w => succeeded (answer services r w).1 = true ∧ AllSucceed rs (answer services r w).2

/-- The message with the opcode 9 that answers a batch. -/
structure BatchReply where
  connectionId : Json
  requestId : Json
  results : List Json

def BatchReply.encode (reply : BatchReply) : ByteArray :=
  services.toMsgpack (.ofFields
    [("body", .ofBytes (services.toMsgpack (.ofFields
        [("d", .ofFields [("requestId", reply.requestId), ("results", .array reply.results)]),
          ("op", .integer 9)]))),
      ("connectionId", reply.connectionId)])

/-- The reply that the batch is to get. -/
def completeReply (b : Batch) (w : world) : BatchReply where
  connectionId := .string b.connectionId
  requestId := .string b.requestId
  results := completeResponses services (b.haltOnFailure.getD false) b.requests w

/-- What becomes of a text of the guest on its way through a `QString` and a C string. -/
def printed (bytes : ByteArray) : Json := .text (qUtf8Printable (services.fromStdString bytes))

/-- The message that answers the batch `data`, if one is sent. -/
def batchReply (connectionId : ByteArray) (data : Json) (w : world) :
    Except Failure (Option BatchReply × world) := do
  let haltOnFailure ← (← data.index "haltOnFailure").getBool
  let requestId ← (← data.index "requestId").getString
  let requests ← data.index "requests"
  let (responses, w) ← processBatch services haltOnFailure requests.items [] w
  if responses.isEmpty then pure (none, w)
  else
    pure (some
      { connectionId := printed services connectionId, requestId := printed services requestId
        results := responses }, w)

/-- Text that reaches the guest as it has sent it: UTF-8 without U+0000. -/
def Kept (bytes : ByteArray) : Prop := printed services bytes = .string bytes

/-- A request with all fields, and with an id and a type that the guest gets back. -/
structure Request.Complete (r : Request) : Prop where
  requestId : ∃ requestId, r.requestId = some requestId ∧ Kept services requestId
  requestType : Kept services r.requestType
  requestData : r.requestData ≠ none

/-- The batches that are answered as they should. -/
structure Answerable (b : Batch) (w : world) : Prop where
  connectionId : Kept services b.connectionId
  requestId : Kept services b.requestId
  haltOnFailure : b.haltOnFailure ≠ none
  requests : b.requests ≠ []
  complete : ∀ r ∈ b.requests, r.Complete services
  succeed : b.haltOnFailure = some true → AllSucceed services b.requests w

variable {services} {w : world}

theorem kept_text (text : String)
    (hDecoded : services.fromStdString text.toByteArray = text) (hNul : '\x00' ∉ text.toList) :
    Kept services text.toByteArray := by
  rw [Kept, printed, hDecoded, QString.qUtf8Printable_eq_iff.mpr hNul]
  rfl

theorem onRequestBatch_eq {s : State} (hActive : s.status = .active) (connectionId : ByteArray)
    (data : Json) :
    onRequestBatch services s (services.fromStdString connectionId) data w =
      (batchReply services connectionId data w).map fun reply =>
        (reply.1.map (BatchReply.encode services), reply.2) := by
  simp only [onRequestBatch, batchReply, bind, Except.bind]
  repeat' split
  all_goals first | rfl | simp [Except.map, pure, Except.pure, sendMessage, hActive, printed,
    BatchReply.encode]

/-- The handler sends what the batch gives as the reply to its connection. -/
theorem batchMessage_eq {s : State} (hActive : s.status = .active) {message : ByteArray}
    {data : Json} {b : Batch} (h : IsBatch services message data b) :
    onBinaryMessageReceived services s message w =
      (batchReply services b.connectionId data w).map fun reply =>
        (reply.1.map (BatchReply.encode services), reply.2) := by
  obtain ⟨fields, body, hMessage, hId, hBody, bodyFields, opcode, hDecoded, hOp, hOpcode, hData⟩ :=
    h.fields
  have hEmpty : (Json.object fields).empty = false := by
    cases fields with
    | nil => cases hId
    | cons field fields => rfl
  simp only [onBinaryMessageReceived, hMessage, Json.isDiscarded, hEmpty, Bool.or_self,
    Bool.false_eq_true, if_false, Json.index_of_lookup hId, Json.index_of_lookup hBody, bind,
    Except.bind, Json.getString, Json.getBinary, onBody, hDecoded, Json.index_of_lookup hOp,
    hOpcode, Json.index_of_lookup hData]
  rw [if_neg (by decide), if_pos trivial, onRequestBatch_eq hActive]

theorem IsRequest.reads {document : Json} {r : Request} (h : IsRequest document r)
    {requestId : ByteArray} {requestData : Json} (hId : r.requestId = some requestId)
    (hData : r.requestData = some requestData) :
    Reads document requestId r.requestType requestData where
  fields := by
    obtain ⟨fields, hDocument, hIdField, hTypeField, hDataField⟩ := h.fields
    exact ⟨fields, hDocument, by rw [hIdField, hId]; rfl, hTypeField, hDataField.trans hData⟩
  dumped := h.utf8 requestData hData

theorem IsRequest.of_reads {document : Json} {r : Request} (h : IsRequest document r)
    {requestId requestType : ByteArray} {requestData : Json}
    (hReads : Reads document requestId requestType requestData) :
    r = ⟨some requestId, requestType, some requestData⟩ := by
  obtain ⟨fields, rfl, hIdField, hTypeField, hDataField⟩ := h.fields
  obtain ⟨_, ⟨⟩, hId, hType, hData⟩ := hReads.fields
  rw [hIdField, Option.map_eq_some_iff] at hId
  obtain ⟨bytes, hBytes, hSame⟩ := hId
  obtain rfl := Json.string.inj hSame
  rw [hTypeField] at hType
  obtain rfl := Json.string.inj (Option.some.inj hType)
  rw [← hBytes, ← hData, hDataField]

/-- The loop keeps the responses that it has collected. -/
theorem prefix_of_processBatch {haltOnFailure : Bool} {documents responses results : List Json}
    {w' : world}
    (h : processBatch services haltOnFailure documents responses w = .ok (results, w')) :
    responses <+: results := by
  induction documents generalizing responses w with
  | nil =>
    obtain ⟨rfl, -⟩ := Prod.mk.inj (Except.ok.inj h)
    exact List.prefix_rfl
  | cons document documents ih =>
    have hProcessed := h
    rw [processBatch, bind_ok_iff] at hProcessed
    obtain ⟨_, hProcessed, -⟩ := hProcessed
    obtain ⟨id, type, data, hReads, -⟩ := processRequest_ok_iff.mp hProcessed
    rw [processBatch_of_reads haltOnFailure documents responses hReads] at h
    simp only at h
    split at h
    · obtain ⟨rfl, -⟩ := Prod.mk.inj (Except.ok.inj h)
      exact List.prefix_rfl
    · split at h
      · exact ih h
      · exact (List.prefix_append _ _).trans (ih h)

theorem responseJson_not_empty (requestType requestId : String) (answered : Response) :
    (responseJson requestType requestId (some answered)).empty = false := rfl

theorem responseJson_eq_iff {r : Request} {requestId : ByteArray} {answered : Response}
    (hId : r.requestId = some requestId) (hAnswered : (answer services r w).1 = some answered) :
    responseJson (services.fromStdString r.requestType) (services.fromStdString requestId)
        (some answered) = response services r w ↔
      Kept services requestId ∧ Kept services r.requestType := by
  simp only [response, hAnswered, hId, responseJson, Json.ofFields, Kept, printed]
  simp

/-- The loop, with the responses it has collected before. -/
theorem processBatch_complete_iff
    (hAnswers : ∀ type data w, (services.callRequest type data w).1 ≠ none)
    (haltOnFailure : Bool) {documents : List Json} {requests : List Request}
    (hRequests : List.Forall₂ IsRequest documents requests)
    (responses : List Json) (w : world) :
    (∃ w', processBatch services haltOnFailure documents responses w =
        .ok (responses ++ completeResponses services haltOnFailure requests w, w')) ↔
      (∀ r ∈ requests, r.Complete services) ∧
        (haltOnFailure = true → AllSucceed services requests w) := by
  induction hRequests generalizing responses w with
  | nil =>
    exact iff_of_true ⟨w, by rw [completeResponses, List.append_nil]; rfl⟩
      ⟨List.forall_mem_nil _, fun _ => trivial⟩
  | @cons document r documents requests hRequest hRequests ih =>
    by_cases hGiven : ∃ requestId requestData,
        r.requestId = some requestId ∧ r.requestData = some requestData
    · obtain ⟨requestId, requestData, hId, hData⟩ := hGiven
      obtain ⟨answered, hAnswered⟩ := Option.ne_none_iff_exists'.mp (hAnswers
        (qUtf8Printable (services.fromStdString r.requestType))
        (if requestData.size ≠ 0 then some requestData else none) w)
      have hAnswer : answer services r w = call services r.requestType requestData w := by
        rw [answer, hData]
        rfl
      have hSome : (answer services r w).1 = some answered := by rw [hAnswer]; exact hAnswered
      have hSame := responseJson_eq_iff hId hSome
      rw [processBatch_of_reads haltOnFailure documents responses (hRequest.reads hId hData),
        ← hAnswer]
      simp only [hSome, responseJson_not_empty, Bool.false_eq_true, if_false, completeResponses,
        List.forall_mem_cons, AllSucceed]
      cases hHalts : haltOnFailure && !succeeded (some answered) with
      | true =>
        -- the loop breaks before it stores the response of the failed request
        obtain ⟨hHalt, hFailed⟩ := Bool.and_eq_true_iff.mp hHalts
        apply iff_of_false
        · rintro ⟨w', hResult⟩
          have hLists := (Prod.mk.inj (Except.ok.inj hResult)).1
          exact absurd (congrArg List.length hLists) (by simp)
        · rintro ⟨-, hSucceed⟩
          rw [(hSucceed hHalt).1] at hFailed
          cases hFailed
      | false =>
        by_cases hKept : Kept services requestId ∧ Kept services r.requestType
        · have hComplete : r.Complete services :=
            ⟨⟨requestId, hId, hKept.1⟩, hKept.2, by rw [hData]; exact Option.some_ne_none _⟩
          have hSucceeds : haltOnFailure = true → succeeded (some answered) = true := by
            intro hHalt
            simpa [hHalt] using hHalts
          rw [hSame.mpr hKept]
          have hRest := ih (responses ++ [response services r w]) (answer services r w).2
          rw [List.append_assoc] at hRest
          simp only [Bool.false_eq_true, if_false]
          refine Iff.trans hRest ?_
          constructor
          · rintro ⟨hAll, hSucceed⟩
            exact ⟨⟨hComplete, hAll⟩, fun hHalt => ⟨hSucceeds hHalt, hSucceed hHalt⟩⟩
          · rintro ⟨⟨-, hAll⟩, hSucceed⟩
            exact ⟨hAll, fun hHalt => (hSucceed hHalt).2⟩
        · apply iff_of_false
          · rintro ⟨w', hResult⟩
            have hPrefix := prefix_of_processBatch hResult
            rw [List.prefix_append_right_inj] at hPrefix
            exact hKept (hSame.mp (List.cons_prefix_cons.mp hPrefix).1)
          · rintro ⟨⟨⟨⟨id, hOwn, hIdKept⟩, hTypeKept, -⟩, -⟩, -⟩
            obtain rfl := Option.some.inj (hId.symm.trans hOwn)
            exact hKept ⟨hIdKept, hTypeKept⟩
    · apply iff_of_false
      · rintro ⟨w', hResult⟩
        rw [processBatch, bind_ok_iff] at hResult
        obtain ⟨_, hProcessed, -⟩ := hResult
        obtain ⟨id, type, data, hReads, -⟩ := processRequest_ok_iff.mp hProcessed
        obtain rfl := hRequest.of_reads hReads
        exact hGiven ⟨id, data, rfl, rfl⟩
      · rintro ⟨hAll, -⟩
        obtain ⟨⟨id, hId, -⟩, -, hData⟩ := hAll r List.mem_cons_self
        obtain ⟨data, hData⟩ := Option.ne_none_iff_exists'.mp hData
        exact hGiven ⟨id, data, hId, hData⟩

/-- The one reply is there, to the sender, with the id of the batch and the responses it should
have. -/
def RepliesCompletely (services : Services world) (data : Json) (b : Batch) (w : world) : Prop :=
  ∃ w', batchReply services b.connectionId data w = .ok (some (completeReply services b w), w')

theorem repliesCompletely_iff
    (hAnswers : ∀ type data w, (services.callRequest type data w).1 ≠ none) {data : Json}
    {b : Batch} (hData : IsBatchData data b) :
    RepliesCompletely services data b w ↔ Answerable services b w := by
  obtain ⟨fields, documents, rfl, hHalt, hId, hDocuments, hRequests⟩ := hData.fields
  have hIndex : (Json.object fields).index "haltOnFailure" =
      .ok ((b.haltOnFailure.map Json.boolean).getD .null) := congrArg Except.ok hHalt
  cases hGiven : b.haltOnFailure with
  | none =>
    -- the conversion of null to `bool` throws
    apply iff_of_false
    · rintro ⟨w', hReply⟩
      rw [batchReply, hIndex, hGiven] at hReply
      cases hReply
    · exact fun h => h.haltOnFailure hGiven
  | some halt =>
    have hReply : batchReply services b.connectionId (.object fields) w =
        (processBatch services halt documents [] w).map fun batch =>
          (if batch.1.isEmpty then none
            else some ⟨printed services b.connectionId, printed services b.requestId, batch.1⟩,
            batch.2) := by
      simp only [batchReply, hIndex, hGiven, Json.index_of_lookup hId,
        Json.index_of_lookup hDocuments, bind, Except.bind, Option.map_some, Option.getD_some,
        Json.getBool, Json.getString, Json.items]
      cases processBatch services halt documents [] w with
      | error failure => rfl
      | ok batch => cases hEmpty : batch.1.isEmpty <;> simp [hEmpty, Except.map, pure, Except.pure]
    have hLoop := processBatch_complete_iff hAnswers halt hRequests [] w
    rw [List.nil_append] at hLoop
    have hComplete : completeReply services b w = ⟨.string b.connectionId, .string b.requestId,
        completeResponses services halt b.requests w⟩ := by
      rw [completeReply, hGiven]
      rfl
    rw [RepliesCompletely, hReply, hComplete]
    constructor
    · rintro ⟨w', hSent⟩
      cases hBatch : processBatch services halt documents [] w with
      | error failure =>
        rw [hBatch] at hSent
        cases hSent
      | ok batch =>
        rw [hBatch] at hSent
        obtain ⟨hMessage, rfl⟩ := Prod.mk.inj (Except.ok.inj hSent)
        split at hMessage
        · cases hMessage
        · next hNonempty =>
          obtain ⟨hConnection, hRequestId, hResults⟩ :=
            BatchReply.mk.inj (Option.some.inj hMessage)
          obtain ⟨hAll, hSucceed⟩ := hLoop.mp ⟨batch.2, by rw [hBatch, ← hResults]⟩
          refine ⟨hConnection, hRequestId, by rw [hGiven]; exact Option.some_ne_none _, ?_, hAll,
            fun hTrue => hSucceed (Option.some.inj (hGiven.symm.trans hTrue))⟩
          intro hNone
          rw [hResults, hNone] at hNonempty
          exact hNonempty rfl
    · intro h
      obtain ⟨w', hBatch⟩ := hLoop.mpr
        ⟨h.complete, fun hTrue => h.succeed (hTrue ▸ hGiven)⟩
      obtain ⟨r, rs, hCons⟩ := List.exists_cons_of_ne_nil h.requests
      refine ⟨w', ?_⟩
      have hConnection : printed services b.connectionId = .string b.connectionId :=
        h.connectionId
      have hRequestId : printed services b.requestId = .string b.requestId := h.requestId
      rw [hBatch, hConnection, hRequestId, hCons]
      rfl

/-- An active portal client sends the complete response of a batch, and only that, exactly when
the batch is answerable. -/
theorem batch_answered_iff
    (hAnswers : ∀ type data w, (services.callRequest type data w).1 ≠ none) {s : State}
    (hActive : s.status = .active) {message : ByteArray} {data : Json} {b : Batch}
    (hBatch : IsBatch services message data b) (w : world) :
    (onBinaryMessageReceived services s message w =
        (batchReply services b.connectionId data w).map fun reply =>
          (reply.1.map (BatchReply.encode services), reply.2)) ∧
      (RepliesCompletely services data b w ↔ Answerable services b w) :=
  ⟨batchMessage_eq hActive hBatch, repliesCompletely_iff hAnswers hBatch.data⟩

end Handler

/-- The data of a batch of requests for the version. -/
def batchData (requestIds : List String) : Json :=
  .ofFields
    [("haltOnFailure", .boolean true), ("requestId", .text "batch"),
      ("requests", .array (requestIds.map fun requestId => .ofFields
        [("requestData", .null), ("requestId", .text requestId),
          ("requestType", .text "GetVersion")]))]

def batchBody (requestIds : List String) : Json :=
  .ofFields [("d", batchData requestIds), ("op", .integer 8)]

def batchOf (requestIds : List String) : Batch where
  connectionId := "guest".toByteArray
  requestId := "batch".toByteArray
  haltOnFailure := some true
  requests := requestIds.map fun requestId =>
    ⟨some requestId.toByteArray, "GetVersion".toByteArray, some .null⟩

def batchServices (requestIds : List String) : Services Unit where
  fromMsgpack bytes :=
    if bytes == toMsgpack (batchBody requestIds) then batchBody requestIds
    else messageWith (batchBody requestIds)
  toMsgpack := toMsgpack
  fromStdString bytes := (String.fromUTF8? bytes).getD ""
  truncate _ := 0
  callRequest _ _ _ := (some { statusCode := 100, comment := none, responseData := none }, ())

theorem batchOf_isBatch (requestIds : List String)
    (hOther : (toMsgpack (messageWith (batchBody requestIds)) ==
      toMsgpack (batchBody requestIds)) = false) :
    IsBatch (batchServices requestIds) (toMsgpack (messageWith (batchBody requestIds)))
      (batchData requestIds) (batchOf requestIds) := by
  have hMessage : (batchServices requestIds).fromMsgpack
      (toMsgpack (messageWith (batchBody requestIds))) = messageWith (batchBody requestIds) := by
    simp only [batchServices, hOther, Bool.false_eq_true, if_false]
  have hBody : (batchServices requestIds).fromMsgpack (toMsgpack (batchBody requestIds)) =
      batchBody requestIds :=
    if_pos (beq_self_eq_true (toMsgpack (batchBody requestIds)).data)
  refine ⟨⟨_, _, hMessage, rfl, rfl, _, _, hBody, rfl, rfl, rfl⟩, ⟨_, _, rfl, rfl, rfl, rfl, ?_⟩⟩
  rw [batchOf, List.forall₂_map_left_iff, List.forall₂_map_right_iff, List.forall₂_same]
  intro requestId _
  refine ⟨⟨_, rfl, rfl, rfl, rfl⟩, fun requestData hData hSize => ?_⟩
  obtain rfl := Option.some.inj hData
  exact (hSize rfl).elim

theorem batchOf_answerable : Answerable (batchServices ["1"]) (batchOf ["1"]) () where
  connectionId := kept_text "guest" (by decide +kernel) (by decide)
  requestId := kept_text "batch" (by decide +kernel) (by decide)
  haltOnFailure := Option.some_ne_none _
  requests := List.cons_ne_nil _ _
  complete := List.forall_mem_singleton.mpr
    ⟨⟨_, rfl, kept_text "1" (by decide +kernel) (by decide)⟩,
      kept_text "GetVersion" (by decide +kernel) (by decide), Option.some_ne_none _⟩
  succeed _ := ⟨rfl, trivial⟩

/-- The batch of one request gets its reply. -/
theorem batch_answered_iff_oneRequest :
    RepliesCompletely (batchServices ["1"]) (batchData ["1"]) (batchOf ["1"]) () :=
  (batch_answered_iff nofun (s := { status := .active }) rfl
    (batchOf_isBatch ["1"] (by decide +kernel)) ()).2.mpr batchOf_answerable

theorem emptyBatch_not_answered :
    ¬∀ (services : Services Unit) (s : State) (message : ByteArray) (data : Json) (b : Batch)
      (w : Unit), (∀ type data w, (services.callRequest type data w).1 ≠ none) →
        s.status = .active → IsBatch services message data b →
          RepliesCompletely services data b w := by
  intro hAll
  obtain ⟨w, hReply⟩ := hAll (batchServices []) { status := .active } _ _ _ () nofun rfl
    (batchOf_isBatch [] (by decide +kernel))
  have hNone : batchReply (batchServices []) (batchOf []).connectionId (batchData []) () =
      .ok (none, ()) := rfl
  rw [hNone] at hReply
  cases hReply

end SrcLink.WsPortalClient
