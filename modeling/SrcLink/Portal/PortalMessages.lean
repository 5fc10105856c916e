import SrcLink.Document.NlohmannJson
import SrcLink.Document.QString
import SrcLink.Portal.WsPortalClient

/-! # Messages of portal guests

A guest of the portal sends requests of the obs-websocket protocol. A message is a
msgpack document whose body is a msgpack document again. Every access to them throws
when the guest has sent another type, and the fields of a request are read as those
of a constant, so they must be there.
-/

namespace SrcLink.WsPortalClient

open Nlohmann
open QString (qUtf8Printable)

set_option autoImplicit false

/-- A response of obs-websocket; its data are JSON. -/
structure Response where
  statusCode : Int
  comment : Option String
  responseData : Option Json

/-- What the portal relies on. A `world` is a state of obs-websocket. -/
structure Services (world : Type) where
  /-- discarded if the bytes are not one msgpack document -/
  fromMsgpack : ByteArray → Json
  toMsgpack : Json → ByteArray
  /-- replaces what is not UTF-8 -/
  fromStdString : ByteArray → String
  /-- the conversion of a double to `int` -/
  truncate : BitVec 64 → Int
  /-- none for empty data -/
  callRequest : String → Option Json → world → Option Response × world

section Handler

variable {world : Type} (services : Services world)

def requestStatus (response : Response) : Json :=
  let code := ("code", Json.integer response.statusCode)
  let result := ("result", Json.boolean (response.statusCode = 100))
  match response.comment with
  | none => .ofFields [code, result]
  | some comment => .ofFields [code, ("comment", .text comment), result]

def responseJson (requestType requestId : String) : Option Response → Json
  | none => .null
  | some response =>
    .ofFields
      [("requestId", .text (qUtf8Printable requestId)), ("requestStatus", requestStatus response),
        ("requestType", .text (qUtf8Printable requestType)),
        ("responseData", response.responseData.getD .null)]

/-- The request data as obs-websocket gets them; none for empty data. -/
def obsData (requestData : Json) : Except Failure (Option Json) :=
  if requestData.size ≠ 0 then some <$> requestData.dump else pure none

def processRequest (request : Json) (w : world) : Except Failure (Json × world) := do
  let requestId ← (← request.constIndex "requestId").getString
  let requestType ← (← request.constIndex "requestType").getString
  let requestData ← request.constIndex "requestData"
  let data ← obsData requestData
  let (response, w) :=
    services.callRequest (qUtf8Printable (services.fromStdString requestType)) data w
  pure (responseJson (services.fromStdString requestType) (services.fromStdString requestId)
    response, w)

def sendMessage (s : State) (connectionId : String) (opcode : Int) (data : Json) :
    Option ByteArray :=
  if s.status ≠ .active then none
  else
    let body := services.toMsgpack (.ofFields [("d", data), ("op", .integer opcode)])
    some (services.toMsgpack
      (.ofFields [("body", .ofBytes body), ("connectionId", .text (qUtf8Printable connectionId))]))

def failed (response : Json) : Except Failure Bool :=
  if response.empty then pure true
  else do pure (← (← response.index "requestStatus").index "result").isFalse

def halts (haltOnFailure : Bool) (response : Json) : Except Failure Bool :=
  if haltOnFailure then failed response else pure false

def processBatch (haltOnFailure : Bool) :
    List Json → List Json → world → Except Failure (List Json × world)
  | [], responses, w => pure (responses, w)
  | request :: requests, responses, w => do
    let (response, w) ← processRequest services request w
    if ← halts haltOnFailure response then pure (responses, w)
    else
      processBatch haltOnFailure requests
        (if response.empty then responses else responses ++ [response]) w

def onRequest (s : State) (connectionId : String) (data : Json) (w : world) :
    Except Failure (Option ByteArray × world) := do
  let (response, w) ← processRequest services data w
  -- response possibly empty (e.g. obs-websocket had been terminated)
  if response.empty then pure (none, w)
  else pure (sendMessage services s connectionId 7 response, w)

def onRequestBatch (s : State) (connectionId : String) (data : Json) (w : world) :
    Except Failure (Option ByteArray × world) := do
  let haltOnFailure ← (← data.index "haltOnFailure").getBool
  let requestId ← (← data.index "requestId").getString
  let requests ← data.index "requests"
  let (responses, w) ← processBatch services haltOnFailure requests.items [] w
  if responses.isEmpty then pure (none, w)
  else
    let results := Json.ofFields
      [("requestId", .text (qUtf8Printable (services.fromStdString requestId))),
        ("results", .array responses)]
    pure (sendMessage services s connectionId 9 results, w)

def onBody (s : State) (connectionId : String) (body : Json) (w : world) :
    Except Failure (Option ByteArray × world) := do
  let op ← (← body.index "op").getInt services.truncate
  let data ← body.index "d"
  if op = 6 then onRequest services s connectionId data w
  else if op = 8 then onRequestBatch services s connectionId data w
  else
    -- Ignore unknown opcodes
    pure (none, w)

/-- The message that is sent to answer it, if any. -/
def onBinaryMessageReceived (s : State) (message : ByteArray) (w : world) :
    Except Failure (Option ByteArray × world) :=
  let messageObj := services.fromMsgpack message
  if messageObj.isDiscarded || messageObj.empty then pure (none, w)
  else do
    let connectionId ← (← messageObj.index "connectionId").getString
    -- The body is stored in msgpack encoded binary
    let body ← (← messageObj.index "body").getBinary
    onBody services s (services.fromStdString connectionId) (services.fromMsgpack body) w

/-- A request with the fields that are read. -/
structure Reads (request : Json) (requestId requestType : ByteArray) (requestData : Json) :
    Prop where
  fields : ∃ fields, request = .object fields ∧
    Json.lookup fields "requestId" = some (.string requestId) ∧
    Json.lookup fields "requestType" = some (.string requestType) ∧
    Json.lookup fields "requestData" = some requestData
  dumped : requestData.size ≠ 0 → requestData.isUtf8 = true

/-- What obs-websocket gets for a request. -/
def call (requestType : ByteArray) (requestData : Json) (w : world) : Option Response × world :=
  services.callRequest (qUtf8Printable (services.fromStdString requestType))
    (if requestData.size ≠ 0 then some requestData else none) w

def succeeded : Option Response → Bool
  | none => false
  | some response => response.statusCode = 100

/-- The requests of a batch that are processed: all, or those up to the first without success. -/
inductive BatchReads (haltOnFailure : Bool) : List Json → world → Prop
  | done (w : world) : BatchReads haltOnFailure [] w
  | halted {request : Json} {requests : List Json} {w : world} {requestId requestType : ByteArray}
      {requestData : Json} (hReads : Reads request requestId requestType requestData)
      (hHalt : haltOnFailure = true)
      (hFailed : succeeded (call services requestType requestData w).1 = false) :
      BatchReads haltOnFailure (request :: requests) w
  | next {request : Json} {requests : List Json} {w : world} {requestId requestType : ByteArray}
      {requestData : Json} (hReads : Reads request requestId requestType requestData)
      (hRest : BatchReads haltOnFailure requests (call services requestType requestData w).2) :
      BatchReads haltOnFailure (request :: requests) w

def BatchWellFormed (data : Json) (w : world) : Prop :=
  ∃ fields haltOnFailure requestId, data = .object fields ∧
    Json.lookup fields "haltOnFailure" = some (.boolean haltOnFailure) ∧
    Json.lookup fields "requestId" = some (.string requestId) ∧
    BatchReads services haltOnFailure
      ((Json.lookup fields "requests").getD .null).items w

/-- The body of a message; an opcode other than those of a request and of a batch is ignored. -/
def BodyWellFormed (body : Json) (w : world) : Prop :=
  ∃ fields opcode op, body = .object fields ∧ Json.lookup fields "op" = some opcode ∧
    opcode.getInt services.truncate = .ok op ∧
    let data := (Json.lookup fields "d").getD .null
    (op = 6 → ∃ requestId requestType requestData, Reads data requestId requestType requestData) ∧
      (op = 8 → BatchWellFormed services data w)

def MessageWellFormed (message : ByteArray) (w : world) : Prop :=
  let messageObj := services.fromMsgpack message
  messageObj.isDiscarded = true ∨ messageObj.empty = true ∨
    ∃ fields connectionId body, messageObj = .object fields ∧
      Json.lookup fields "connectionId" = some (.string connectionId) ∧
      Json.lookup fields "body" = some (.binary body) ∧
      BodyWellFormed services (services.fromMsgpack body) w

variable {services} {w : world}

theorem obsData_ok_iff {requestData : Json} {data : Option Json} :
    obsData requestData = .ok data ↔
      (requestData.size ≠ 0 → requestData.isUtf8 = true) ∧
        data = if requestData.size ≠ 0 then some requestData else none := by
  unfold obsData
  split
  · next hSize =>
    rw [forall_prop_of_true hSize, map_eq_pure_bind, bind_ok_iff]
    constructor
    · rintro ⟨text, hText, hData⟩
      obtain ⟨hUtf8, rfl⟩ := Json.dump_ok_iff.mp hText
      exact ⟨hUtf8, (Except.ok.inj hData).symm⟩
    · rintro ⟨hUtf8, rfl⟩
      exact ⟨requestData, Json.dump_ok_iff.mpr ⟨hUtf8, rfl⟩, rfl⟩
  · next hSize =>
    rw [and_iff_right fun hNot => (hSize hNot).elim]
    exact ⟨fun h => (Except.ok.inj h).symm, fun h => congrArg Except.ok h.symm⟩

theorem processRequest_ok_iff {request : Json} {result : Json × world} :
    processRequest services request w = .ok result ↔
      ∃ requestId requestType requestData, Reads request requestId requestType requestData ∧
        result = (responseJson (services.fromStdString requestType)
          (services.fromStdString requestId) (call services requestType requestData w).1,
          (call services requestType requestData w).2) := by
  simp only [processRequest, bind_ok_iff, Json.constIndex_ok_iff, Json.getString_ok_iff,
    obsData_ok_iff]
  constructor
  · rintro ⟨_, ⟨fields, rfl, hId⟩, id, rfl, _, ⟨_, ⟨⟩, hType⟩, type, rfl, data, ⟨_, ⟨⟩, hData⟩, _,
      ⟨hDumped, rfl⟩, hResult⟩
    exact ⟨id, type, data, ⟨⟨fields, rfl, hId, hType, hData⟩, hDumped⟩,
      (Except.ok.inj hResult).symm⟩
  · rintro ⟨id, type, data, ⟨⟨fields, rfl, hId, hType, hData⟩, hDumped⟩, rfl⟩
    exact ⟨_, ⟨fields, rfl, hId⟩, id, rfl, _, ⟨fields, rfl, hType⟩, type, rfl, data,
      ⟨fields, rfl, hData⟩, _, ⟨hDumped, rfl⟩, rfl⟩

theorem index_ofFields (fields : List (String × Json)) (key : String) :
    (Json.ofFields fields).index key =
      .ok (((fields.find? fun field => field.1 = key).map Prod.snd).getD .null) := by
  rw [Json.ofFields, Json.index, Json.lookup_ofFields]

theorem halts_responseJson (haltOnFailure : Bool) (requestType requestId : String)
    (response : Option Response) :
    halts haltOnFailure (responseJson requestType requestId response) =
      .ok (haltOnFailure && !succeeded response) := by
  have hResult (response : Response) : (requestStatus response).index "result" =
      .ok (.boolean (response.statusCode = 100)) := by
    unfold requestStatus
    cases response.comment with
    | none => exact index_ofFields _ _
    | some comment => exact index_ofFields _ _
  cases haltOnFailure with
  | false => rfl
  | true =>
    cases response with
    | none => rfl
    | some response =>
      have hStatus : (responseJson requestType requestId (some response)).index "requestStatus" =
          .ok (requestStatus response) := index_ofFields _ _
      have hEmpty : (responseJson requestType requestId (some response)).empty = false := rfl
      rw [halts, if_pos rfl, failed, hEmpty, if_neg (by decide), hStatus]
      simp only [bind, Except.bind, hResult, pure, Except.pure, succeeded]
      cases decide (response.statusCode = 100) <;> rfl

theorem processBatch_of_reads (haltOnFailure : Bool) {request : Json}
    (requests responses : List Json) {requestId requestType : ByteArray} {requestData : Json}
    (hReads : Reads request requestId requestType requestData) :
    processBatch services haltOnFailure (request :: requests) responses w =
      let answer := call services requestType requestData w
      let response := responseJson (services.fromStdString requestType)
        (services.fromStdString requestId) answer.1
      if haltOnFailure && !succeeded answer.1 then .ok (responses, answer.2)
      else
        processBatch services haltOnFailure requests
          (if response.empty then responses else responses ++ [response]) answer.2 := by
  have hProcessed : processRequest services request w = .ok _ :=
    processRequest_ok_iff.mpr ⟨requestId, requestType, requestData, hReads, rfl⟩
  rw [processBatch, hProcessed]
  simp only [bind, Except.bind, halts_responseJson]
  rfl

theorem processBatch_ok_iff {haltOnFailure : Bool} {requests responses : List Json} :
    (∃ result, processBatch services haltOnFailure requests responses w = .ok result) ↔
      BatchReads services haltOnFailure requests w := by
  -- the responses collected before do not matter, the state of obs-websocket does
  induction requests generalizing responses w with
  | nil => exact ⟨fun _ => .done w, fun _ => ⟨_, rfl⟩⟩
  | cons request requests ih =>
    constructor
    · rintro ⟨result, hResult⟩
      have hProcessed := hResult
      rw [processBatch, bind_ok_iff] at hProcessed
      obtain ⟨_, hProcessed, -⟩ := hProcessed
      obtain ⟨id, type, data, hReads, -⟩ := processRequest_ok_iff.mp hProcessed
      rw [processBatch_of_reads haltOnFailure requests responses hReads] at hResult
      cases hHalts : haltOnFailure && !succeeded (call services type data w).1 with
      | true =>
        obtain ⟨hHalt, hFailed⟩ := Bool.and_eq_true_iff.mp hHalts
        exact .halted hReads hHalt (by simpa using hFailed)
      | false =>
        simp only [hHalts] at hResult
        exact .next hReads (ih.mp ⟨result, hResult⟩)
    · intro hBatchReads
      cases hBatchReads with
      | halted hReads hHalt hFailed =>
        rw [processBatch_of_reads haltOnFailure requests responses hReads]
        simp only [hHalt, hFailed]
        exact ⟨_, rfl⟩
      | @next _ _ _ _ type data hReads hRest =>
        rw [processBatch_of_reads haltOnFailure requests responses hReads]
        simp only
        cases haltOnFailure && !succeeded (call services type data w).1 with
        | true => exact ⟨_, rfl⟩
        | false => exact ih.mpr hRest

variable {s : State} {connectionId : String}

theorem onRequest_ok_iff {data : Json} :
    (∃ result, onRequest services s connectionId data w = .ok result) ↔
      ∃ requestId requestType requestData, Reads data requestId requestType requestData := by
  constructor
  · rintro ⟨result, hResult⟩
    rw [onRequest, bind_ok_iff] at hResult
    obtain ⟨_, hProcessed, -⟩ := hResult
    obtain ⟨id, type, requestData, hReads, -⟩ := processRequest_ok_iff.mp hProcessed
    exact ⟨id, type, requestData, hReads⟩
  · rintro ⟨id, type, requestData, hReads⟩
    have hProcessed : processRequest services data w = .ok _ :=
      processRequest_ok_iff.mpr ⟨id, type, requestData, hReads, rfl⟩
    rw [onRequest, hProcessed]
    simp only [bind, Except.bind]
    split <;> exact ⟨_, rfl⟩

theorem onRequestBatch_ok_iff {data : Json} :
    (∃ result, onRequestBatch services s connectionId data w = .ok result) ↔
      BatchWellFormed services data w := by
  constructor
  · rintro ⟨result, hResult⟩
    simp only [onRequestBatch, bind_ok_iff, Json.getBool_ok_iff, Json.getString_ok_iff] at hResult
    obtain ⟨_, hHalt, halt, rfl, _, hId, id, rfl, requests, hRequests, batch, hBatch, -⟩ := hResult
    obtain ⟨fields, rfl, hHaltField⟩ := Json.exists_lookup_of_index hHalt nofun
    obtain ⟨_, ⟨⟩, hIdField⟩ := Json.exists_lookup_of_index hId nofun
    obtain rfl := Except.ok.inj hRequests
    exact ⟨fields, halt, id, rfl, hHaltField, hIdField, processBatch_ok_iff.mp ⟨batch, hBatch⟩⟩
  · rintro ⟨fields, halt, id, rfl, hHalt, hId, hReads⟩
    obtain ⟨batch, hBatch⟩ : ∃ batch, processBatch services halt _ [] w = .ok batch :=
      processBatch_ok_iff.mpr hReads
    have hRequests : (Json.object fields).index "requests" =
        .ok ((Json.lookup fields "requests").getD .null) := rfl
    rw [onRequestBatch, Json.index_of_lookup hHalt, Json.index_of_lookup hId, hRequests]
    simp only [bind, Except.bind, Json.getBool, Json.getString, hBatch]
    split <;> exact ⟨_, rfl⟩

theorem onBody_ok_iff {body : Json} :
    (∃ result, onBody services s connectionId body w = .ok result) ↔
      BodyWellFormed services body w := by
  have hOpcode {opcode : Json} {op : Int} (h : opcode.getInt services.truncate = .ok op) :
      opcode ≠ .null := by
    rintro rfl
    cases h
  -- behind the reading of the fields, only the opcode decides
  have hHandled {data : Json} {op : Int} :
      (∃ result, (if op = 6 then onRequest services s connectionId data w
          else if op = 8 then onRequestBatch services s connectionId data w
          else pure (none, w)) = .ok result) ↔
        (op = 6 → ∃ requestId requestType requestData,
          Reads data requestId requestType requestData) ∧
        (op = 8 → BatchWellFormed services data w) := by
    split
    · next hRequest =>
      subst hRequest
      rw [onRequest_ok_iff]
      exact ⟨fun h => ⟨fun _ => h, fun hBatch => absurd hBatch (by decide)⟩, fun h => h.1 rfl⟩
    · next hRequest =>
      split
      · next hBatch =>
        subst hBatch
        rw [onRequestBatch_ok_iff]
        exact ⟨fun h => ⟨fun hSix => (hRequest hSix).elim, fun _ => h⟩, fun h => h.2 rfl⟩
      · next hBatch =>
        exact ⟨fun _ => ⟨fun hSix => (hRequest hSix).elim, fun hEight => (hBatch hEight).elim⟩,
          fun _ => ⟨_, rfl⟩⟩
  constructor
  · rintro ⟨result, hResult⟩
    simp only [onBody, bind_ok_iff] at hResult
    obtain ⟨opcode, hIndex, op, hOp, data, hData, hRest⟩ := hResult
    obtain ⟨fields, rfl, hFound⟩ := Json.exists_lookup_of_index hIndex (hOpcode hOp)
    obtain rfl := Except.ok.inj hData
    exact ⟨fields, opcode, op, rfl, hFound, hOp, hHandled.mp ⟨result, hRest⟩⟩
  · rintro ⟨fields, opcode, op, rfl, hFound, hOp, hRest⟩
    have hData : (Json.object fields).index "d" = .ok ((Json.lookup fields "d").getD .null) := rfl
    rw [onBody, Json.index_of_lookup hFound, hData]
    simp only [bind, Except.bind, hOp]
    exact hHandled.mpr hRest

theorem handled_iff_wellFormed (services : Services world) (s : State) (message : ByteArray)
    (w : world) :
    (∃ result, onBinaryMessageReceived services s message w = .ok result) ↔
      MessageWellFormed services message w := by
  simp only [onBinaryMessageReceived, MessageWellFormed]
  generalize services.fromMsgpack message = messageObj
  split
  · next hIgnored =>
    refine iff_of_true ⟨_, rfl⟩ ?_
    obtain hDiscarded | hEmpty := Bool.or_eq_true_iff.mp hIgnored
    · exact .inl hDiscarded
    · exact .inr (.inl hEmpty)
  · next hRead =>
    constructor
    · rintro ⟨result, hResult⟩
      simp only [bind_ok_iff, Json.getString_ok_iff, Json.getBinary_ok_iff] at hResult
      obtain ⟨_, hId, id, rfl, _, hBody, body, rfl, hRest⟩ := hResult
      obtain ⟨fields, rfl, hIdField⟩ := Json.exists_lookup_of_index hId nofun
      obtain ⟨_, ⟨⟩, hBodyField⟩ := Json.exists_lookup_of_index hBody nofun
      have hWellFormed := onBody_ok_iff.mp ⟨result, hRest⟩
      exact .inr (.inr ⟨fields, id, body, rfl, hIdField, hBodyField, hWellFormed⟩)
    · rintro (hDiscarded | hEmpty | ⟨fields, id, body, rfl, hId, hBody, hRest⟩)
      · exact (hRead (Bool.or_eq_true_iff.mpr (.inl hDiscarded))).elim
      · exact (hRead (Bool.or_eq_true_iff.mpr (.inr hEmpty))).elim
      · rw [Json.index_of_lookup hId, Json.index_of_lookup hBody]
        exact onBody_ok_iff.mpr hRest

end Handler

mutual

/-- The msgpack format of small documents. -/
def pack : Json → List UInt8
  | .boolean false => [0xc2]
  | .boolean true => [0xc3]
  | .integer value => [value.toNat.toUInt8]
  | .string value => (0xa0 + value.size.toUInt8) :: value.toList
  | .binary value => 0xc4 :: value.size.toUInt8 :: value.toList
  | .array items => (0x90 + items.length.toUInt8) :: packItems items
  | .object fields => (0x80 + fields.length.toUInt8) :: packFields fields
  | _ => [0xc0]

def packItems : List Json → List UInt8
  | [] => []
  | item :: items => pack item ++ packItems items

def packFields : List (ByteArray × Json) → List UInt8
  | [] => []
  | (key, value) :: fields =>
    ((0xa0 + key.size.toUInt8) :: key.toList) ++ pack value ++ packFields fields

end

def toMsgpack (value : Json) : ByteArray := ⟨(pack value).toArray⟩

/-- A request as obs-websocket accepts it: `requestData` may be omitted. -/
def withoutRequestData : Json :=
  .ofFields
    [("d", .ofFields [("requestId", .text "1"), ("requestType", .text "GetVersion")]),
      ("op", .integer 6)]

/-- A batch as obs-websocket accepts it: `haltOnFailure` may be omitted. -/
def withoutHaltOnFailure : Json :=
  .ofFields
    [("d", .ofFields [("requestId", .text "1"), ("requests", .array [])]), ("op", .integer 8)]

def messageWith (body : Json) : Json :=
  .ofFields [("body", .binary (toMsgpack body)), ("connectionId", .text "guest")]

def packed : List Json :=
  [withoutRequestData, messageWith withoutRequestData, withoutHaltOnFailure,
    messageWith withoutHaltOnFailure]

/-- Reads these documents; every request succeeds. -/
def sampleServices : Services Unit where
  fromMsgpack bytes := (packed.find? fun value => toMsgpack value == bytes).getD .discarded
  toMsgpack := toMsgpack
  fromStdString bytes := (String.fromUTF8? bytes).getD ""
  truncate _ := 0
  callRequest _ _ _ := (some { statusCode := 100, comment := none, responseData := none }, ())

theorem not_handled :
    ¬∀ message : ByteArray, ∃ result,
      onBinaryMessageReceived sampleServices {} message () = .ok result := by
  intro hAll
  obtain ⟨result, hResult⟩ := hAll (toMsgpack (messageWith withoutRequestData))
  have hThrown : (onBinaryMessageReceived sampleServices {}
      (toMsgpack (messageWith withoutRequestData)) ()).isOk = false := by decide +kernel
  rw [hResult] at hThrown
  cases hThrown

example : (onBinaryMessageReceived sampleServices {}
    (toMsgpack (messageWith withoutHaltOnFailure)) ()).isOk = false := by decide +kernel

end SrcLink.WsPortalClient
