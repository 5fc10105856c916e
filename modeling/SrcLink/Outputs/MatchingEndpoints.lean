import SrcLink.Document.QString
import SrcLink.Outputs.EgressSettings

/-! # Two ends of one connection

The output and the source that share a connection document assemble their SRT URLs
separately. A reader of a query takes the first item with a key, and an item that
is absent as the empty text; both ends put their own items behind those of the
parameters. What is added to a list of items is taken as it is.
-/

namespace SrcLink.UplinkSettings

open Json Schema Schema.StageConnection IngressLinkSource QString

set_option autoImplicit false

abbrev QueryItems := List (String × Option String)

def firstItem (items : QueryItems) (key : String) : Option (String × Option String) :=
  items.find? fun item => item.1 = key

def firstValue (items : QueryItems) (key : String) : String :=
  ((firstItem items key).bind Prod.snd).getD ""

def HasItem (items : QueryItems) (key : String) : Prop := key ∈ items.map Prod.fst

instance (items : QueryItems) (key : String) : Decidable (HasItem items key) :=
  inferInstanceAs (Decidable (_ ∈ _))

theorem firstItem_eq_none_iff (items : QueryItems) (key : String) :
    firstItem items key = none ↔ ¬HasItem items key := by
  rw [firstItem, List.find?_eq_none, HasItem, List.mem_map, not_exists]
  simp only [decide_eq_true_eq, not_and]

theorem hasItem_congr {items items' : QueryItems} {key : String}
    (h : firstItem items key = firstItem items' key) : HasItem items key ↔ HasItem items' key := by
  rw [← not_iff_not, ← firstItem_eq_none_iff, ← firstItem_eq_none_iff, h]

theorem firstValue_append_of_hasItem {items : QueryItems} {key : String} (h : HasItem items key)
    (more : QueryItems) : firstValue (items ++ more) key = firstValue items key := by
  obtain ⟨item, hItem⟩ := Option.ne_none_iff_exists'.mp
    (mt (firstItem_eq_none_iff items key).mp (not_not.mpr h))
  have hBoth : firstItem (items ++ more) key = some item := by
    rw [firstItem, List.find?_append]
    exact congrArg (Option.or · _) hItem
  rw [firstValue, firstValue, hItem, hBoth]

theorem firstValue_append_of_not {items : QueryItems} {key : String} (h : ¬HasItem items key)
    (more : QueryItems) : firstValue (items ++ more) key = firstValue more key := by
  have hNone := (firstItem_eq_none_iff items key).mpr h
  have hMore : firstItem (items ++ more) key = firstItem more key := by
    rw [firstItem, List.find?_append]
    exact (congrArg (Option.or · _) hNone).trans (Option.none_or ..)
  rw [firstValue, firstValue, hMore]

theorem firstValue_cons_self (key value : String) (more : QueryItems) :
    firstValue ((key, some value) :: more) key = value := by
  simp [firstValue, firstItem]

theorem firstValue_cons_of_ne {key key' : String} (hNe : key' ≠ key) (value : Option String)
    (more : QueryItems) : firstValue ((key', value) :: more) key = firstValue more key := by
  simp [firstValue, firstItem, hNe]

section Items

variable (urls : UrlSyntax)

/-- The items of a query; the value of one that is added is its text. -/
def itemsOf (query : QUrlQuery) : QueryItems := query.items { urls with itemValue := id }

def optionalItem (key value : String) : QueryItems :=
  if value ≠ "" then [(key, some value)] else []

@[simp] theorem itemsOf_ofText (text : String) :
    itemsOf urls (.ofText text) = urls.queryItems text := rfl

@[simp] theorem itemsOf_addQueryItem (query : QUrlQuery) (key value : String) :
    itemsOf urls (query.addQueryItem key value) = itemsOf urls query ++ [(key, some value)] := rfl

@[simp] theorem itemsOf_addOptionalItem (query : QUrlQuery) (key value : String) :
    itemsOf urls (addOptionalItem query key value) =
      itemsOf urls query ++ optionalItem key value := by
  rw [addOptionalItem, optionalItem]
  split
  · rfl
  · exact (List.append_nil _).symm

theorem firstValue_optionalItem {key value : String} {more : QueryItems}
    (hMore : firstValue more key = "") (key' : String) :
    firstValue (optionalItem key value ++ more) key' =
      firstValue ((key, some value) :: more) key' := by
  rw [optionalItem]
  split
  · rfl
  · next hEmpty =>
    -- an item without text reads like none
    rw [List.nil_append]
    by_cases hKey : key = key'
    · rw [← hKey, hMore, firstValue_cons_self]
      exact (not_not.mp hEmpty).symm
    · exact (firstValue_cons_of_ne hKey _ more).symm

/-- The uplink and the downlink override the latency alike. -/
theorem srtParameters_eq : srtParameters = directParameters := rfl

theorem firstItem_eraseP (items : QueryItems) {key key' : String} (hNe : key' ≠ key) :
    firstItem (items.eraseP fun item => item.1 = key) key' = firstItem items key' := by
  induction items with
  | nil => rfl
  | cons item items ih =>
    rw [List.eraseP_cons, firstItem, firstItem, List.find?_cons]
    cases hRemoved : decide (item.1 = key) with
    | true =>
      have hOther : item.1 ≠ key' := fun hSame =>
        hNe (hSame.symm.trans (of_decide_eq_true hRemoved))
      rw [decide_eq_false hOther]
      rfl
    | false =>
      rw [cond_false, List.find?_cons]
      split
      · rfl
      · exact ih

theorem firstItem_directParameters (connection : QJsonObject) {key : String}
    (hNe : key ≠ "latency") :
    firstItem (itemsOf urls (directParameters connection)) key =
      firstItem (urls.queryItems (getParameters connection)) key := by
  rw [directParameters]
  split
  · rw [itemsOf_addQueryItem, firstItem, List.find?_append,
      List.find?_cons_of_neg (by simpa using hNe.symm), List.find?_nil, Option.or_none]
    exact firstItem_eraseP _ hNe
  · rfl

end Items

def listenerItems (connection : QJsonObject) : QueryItems :=
  [("mode", some "listener"), ("streamid", some (getStreamId connection)),
    ("passphrase", some (getPassphrase connection))]

def callerItems (connection : QJsonObject) : QueryItems :=
  ("mode", some "caller") :: (optionalItem "streamid" (getStreamId connection) ++
    optionalItem "passphrase" (getPassphrase connection))

theorem firstValue_callerItems (connection : QJsonObject) {key : String} (hNe : key ≠ "mode") :
    firstValue (callerItems connection) key = firstValue (listenerItems connection) key := by
  have hPassphrase : ∀ key', firstValue (optionalItem "passphrase" (getPassphrase connection)) key'
      = firstValue [("passphrase", some (getPassphrase connection))] key' := by
    intro key'
    rw [← firstValue_optionalItem rfl key', List.append_nil]
  have hNoStreamId :
      firstValue (optionalItem "passphrase" (getPassphrase connection)) "streamid" = "" := by
    rw [hPassphrase, firstValue_cons_of_ne (by decide)]
    rfl
  rw [callerItems, listenerItems, firstValue_cons_of_ne hNe.symm, firstValue_cons_of_ne hNe.symm,
    firstValue_optionalItem hNoStreamId]
  by_cases hStreamId : "streamid" = key
  · rw [← hStreamId, firstValue_cons_self, firstValue_cons_self]
  · rw [firstValue_cons_of_ne hStreamId, firstValue_cons_of_ne hStreamId, hPassphrase]

structure DirectMatch (urls : UrlSyntax) (caller : SrtUrl) (listener : DecoderInput) : Prop where
  port : caller.port = listener.port
  items : ∀ key, key ≠ "mode" →
    firstValue (itemsOf urls caller.query) key = firstValue (itemsOf urls listener.query) key
  calls : firstValue (itemsOf urls caller.query) "mode" = "caller"
  listens : firstValue (itemsOf urls listener.query) "mode" = "listener"

theorem directMatch_iff {urls : UrlSyntax} {caller : SrtUrl} {listener : DecoderInput}
    {parameters : QueryItems} {connection : QJsonObject} (hPort : caller.port = listener.port)
    (hCaller : itemsOf urls caller.query = parameters ++ callerItems connection)
    (hListener : itemsOf urls listener.query = parameters ++ listenerItems connection) :
    DirectMatch urls caller listener ↔ ¬HasItem parameters "mode" := by
  constructor
  · rintro ⟨-, -, hCalls, hListens⟩ hMode
    rw [hCaller, firstValue_append_of_hasItem hMode] at hCalls
    rw [hListener, firstValue_append_of_hasItem hMode, hCalls] at hListens
    exact absurd hListens (by decide)
  · intro hNoMode
    refine ⟨hPort, fun key hNe => ?_, ?_, ?_⟩
    · rw [hCaller, hListener]
      by_cases hKey : HasItem parameters key
      · rw [firstValue_append_of_hasItem hKey, firstValue_append_of_hasItem hKey]
      · rw [firstValue_append_of_not hKey, firstValue_append_of_not hKey,
          firstValue_callerItems connection hNe]
    · rw [hCaller, firstValue_append_of_not hNoMode]
      exact firstValue_cons_self ..
    · rw [hListener, firstValue_append_of_not hNoMode]
      exact firstValue_cons_self ..

/-- The action word, with the separator of the relay application. -/
def publishWord (connection : QJsonObject) : String :=
  if getRelayApp connection = "mediamtx" then "publish:" else "publish/"

def playWord (connection : QJsonObject) : String :=
  if getRelayApp connection = "mediamtx" then "read:" else "play/"

theorem foldl_arg_append {front : String} (hFront : '%' ∉ front.toList) (arguments : List String)
    (text : String) : arguments.foldl arg (front ++ text) = front ++ arguments.foldl arg text := by
  induction arguments generalizing text with
  | nil => rfl
  | cons a arguments ih => rw [List.foldl_cons, arg_append hFront, ih, List.foldl_cons]

theorem foldl_arg_of_eq {template front text : String} (hSplit : template = front ++ text)
    (hFront : '%' ∉ front.toList) (arguments : List String) :
    arguments.foldl arg template = front ++ arguments.foldl arg text := by
  rw [hSplit, foldl_arg_append hFront]

/-- Behind the action word both ends put the same text. -/
theorem exists_relayStreamIds (connection : QJsonObject) :
    ∃ rest, publishStreamId connection = publishWord connection ++ rest ∧
      relayStreamId connection = playWord connection ++ rest := by
  rw [publishStreamId, relayStreamId, publishWord, playWord]
  split
  · have hPublish : "publish:%1:%2:%3" = "publish:" ++ "%1:%2:%3" := by decide +kernel
    have hRead : "read:%1:%2:%3" = "read:" ++ "%1:%2:%3" := by decide +kernel
    exact ⟨_, foldl_arg_of_eq hPublish (by decide) _, foldl_arg_of_eq hRead (by decide) _⟩
  · have hPublish : "publish/%1/%2" = "publish/" ++ "%1/%2" := by decide +kernel
    have hPlay : "play/%1/%2" = "play/" ++ "%1/%2" := by decide +kernel
    exact ⟨_, foldl_arg_of_eq hPublish (by decide) _, foldl_arg_of_eq hPlay (by decide) _⟩

structure RelayMatch (urls : UrlSyntax) (connection : QJsonObject) (publisher : SrtUrl)
    (player : DecoderInput) : Prop where
  port : publisher.port = player.port
  publishes : firstValue (itemsOf urls publisher.query) "mode" = "caller"
  plays : firstValue (itemsOf urls player.query) "mode" = "caller"
  streamIds : ∃ rest,
    firstValue (itemsOf urls publisher.query) "streamid" = publishWord connection ++ rest ∧
      firstValue (itemsOf urls player.query) "streamid" = playWord connection ++ rest

def relayItems (streamId : String) : QueryItems :=
  [("mode", some "caller"), ("streamid", some streamId)]

theorem firstValue_mode_relayItems (items : QueryItems) (streamId : String) :
    firstValue (items ++ relayItems streamId) "mode" = "caller" ↔
      (HasItem items "mode" → firstValue items "mode" = "caller") := by
  by_cases hMode : HasItem items "mode"
  · rw [firstValue_append_of_hasItem hMode, imp_iff_right hMode]
  · rw [firstValue_append_of_not hMode]
    exact iff_of_true (firstValue_cons_self ..) fun h => absurd h hMode

theorem firstValue_streamId_relayItems {items : QueryItems} (hNone : ¬HasItem items "streamid")
    (streamId : String) :
    firstValue (items ++ relayItems streamId) "streamid" = streamId := by
  rw [firstValue_append_of_not hNone, relayItems, firstValue_cons_of_ne (by decide),
    firstValue_cons_self]

theorem publishWord_ne_playWord (connection : QJsonObject) :
    publishWord connection ≠ playWord connection := by
  rw [publishWord, playWord]
  split
  · decide
  · decide

/-- The publisher's parameters may have another latency. -/
theorem relayMatch_iff {urls : UrlSyntax} {publisher : SrtUrl} {player : DecoderInput}
    {published played : QueryItems} {connection : QJsonObject}
    (hPort : publisher.port = player.port)
    (hPublisher : itemsOf urls publisher.query =
      published ++ relayItems (publishStreamId connection))
    (hPlayer : itemsOf urls player.query = played ++ relayItems (relayStreamId connection))
    (hFirst : ∀ key, key ≠ "latency" → firstItem published key = firstItem played key) :
    RelayMatch urls connection publisher player ↔
      (HasItem played "mode" → firstValue played "mode" = "caller") ∧
        ¬HasItem played "streamid" := by
  have hMode := hasItem_congr (hFirst "mode" (by decide))
  have hStreamId := hasItem_congr (hFirst "streamid" (by decide))
  have hValue : ∀ key, key ≠ "latency" → firstValue published key = firstValue played key := by
    intro key hNe
    rw [firstValue, firstValue, hFirst key hNe]
  constructor
  · rintro ⟨-, -, hPlays, rest, hPublished, hPlayed⟩
    rw [hPlayer] at hPlays
    refine ⟨(firstValue_mode_relayItems ..).mp hPlays, fun hItem => ?_⟩
    rw [hPublisher, firstValue_append_of_hasItem (hStreamId.mpr hItem),
      hValue "streamid" (by decide)] at hPublished
    rw [hPlayer, firstValue_append_of_hasItem hItem, hPublished] at hPlayed
    exact publishWord_ne_playWord connection ((String.append_left_inj rest).mp hPlayed)
  · rintro ⟨hCaller, hNone⟩
    obtain ⟨rest, hPublished, hPlayed⟩ := exists_relayStreamIds connection
    refine ⟨hPort, ?_, ?_, rest, ?_, ?_⟩
    · rw [hPublisher, firstValue_mode_relayItems, hMode, hValue "mode" (by decide)]
      exact hCaller
    · rw [hPlayer]
      exact (firstValue_mode_relayItems ..).mpr hCaller
    · rw [hPublisher, firstValue_streamId_relayItems (mt hStreamId.mp hNone), hPublished]
    · rw [hPlayer, firstValue_streamId_relayItems hNone, hPlayed]

def EndpointsMatch (urls : UrlSyntax) (connection : QJsonObject) (caller : SrtUrl)
    (input : DecoderInput) : Prop :=
  if getRelay connection then RelayMatch urls connection caller input
  else DirectMatch urls caller input

/-- The parameters leave the items to the two ends that these set themselves. -/
def LeavesItems (urls : UrlSyntax) (connection : QJsonObject) : Prop :=
  let parameters := urls.queryItems (getParameters connection)
  if getRelay connection then
    (HasItem parameters "mode" → firstValue parameters "mode" = "caller") ∧
      ¬HasItem parameters "streamid"
  else ¬HasItem parameters "mode"

theorem endpointsMatch_iff (urls : UrlSyntax) (uplink settings : QJsonObject)
    {connection : QJsonObject} (hSrt : getProtocol connection = "srt")
    (hAllocated : getAllocationId connection ≠ "") :
    ∃ egress caller input,
      createEgressSettings urls uplink settings connection = some egress ∧
      egress.server = .srt caller ∧ decoderInput connection = some input ∧
      (EndpointsMatch urls connection caller input ↔ LeavesItems urls connection) := by
  have hCreated : createEgressSettings urls uplink settings connection = some _ := if_pos hSrt
  cases hRelay : getRelay connection with
  | true =>
    have hInput : decoderInput connection = some _ :=
      (if_pos ⟨hAllocated, hSrt⟩).trans (if_pos hRelay)
    refine ⟨_, _, _, hCreated, rfl, hInput, ?_⟩
    rw [EndpointsMatch, LeavesItems, if_pos hRelay, if_pos hRelay]
    have hPublisher : itemsOf urls (srtQuery connection) =
        itemsOf urls (directParameters connection) ++ relayItems (publishStreamId connection) := by
      simp [srtQuery, hRelay, srtParameters_eq, relayItems]
    refine relayMatch_iff rfl hPublisher ?_ fun key => firstItem_directParameters urls connection
    simp [relayItems]
  | false =>
    have hDirect : ¬getRelay connection = true := hRelay ▸ Bool.false_ne_true
    have hInput : decoderInput connection = some _ :=
      (if_pos ⟨hAllocated, hSrt⟩).trans (if_neg hDirect)
    refine ⟨_, _, _, hCreated, rfl, hInput, ?_⟩
    rw [EndpointsMatch, LeavesItems, if_neg hDirect, if_neg hDirect,
      ← hasItem_congr (firstItem_directParameters urls connection (by decide : "mode" ≠ "latency"))]
    have hCaller : itemsOf urls (srtQuery connection) =
        itemsOf urls (directParameters connection) ++ callerItems connection := by
      simp [srtQuery, hRelay, srtParameters_eq, callerItems]
    refine directMatch_iff rfl hCaller ?_
    simp [listenerItems]

def sharedConnection (parameters : String) : QJsonObject :=
  (connectionTo "srt" "203.0.113.5" []).insert "parameters" (.string parameters)

/-- The parameters leave the mode to the two ends. -/
theorem endpointsMatch_iff_buffered :
    ∃ egress caller input,
      createEgressSettings plainUrls [] [] (sharedConnection "pkt_size=1316") = some egress ∧
      egress.server = .srt caller ∧
      decoderInput (sharedConnection "pkt_size=1316") = some input ∧
      EndpointsMatch plainUrls (sharedConnection "pkt_size=1316") caller input := by
  obtain ⟨egress, caller, input, hCreated, hServer, hInput, hMatch⟩ :=
    @endpointsMatch_iff plainUrls [] [] (sharedConnection "pkt_size=1316") (by decide +kernel)
      (by decide +kernel)
  have hItems : plainUrls.queryItems (getParameters (sharedConnection "pkt_size=1316")) =
      [("pkt_size", some "1316")] := by decide +kernel
  refine ⟨egress, caller, input, hCreated, hServer, hInput, hMatch.mpr ?_⟩
  rw [LeavesItems, hItems, if_neg (by decide +kernel)]
  decide

/-- Both ends read the mode of the parameters, and both listen. -/
theorem modes_not_matching :
    ¬∀ uplink settings connection egress caller input, isValid connection = true →
      getProtocol connection = "srt" → getAllocationId connection ≠ "" →
      createEgressSettings plainUrls uplink settings connection = some egress →
      egress.server = .srt caller → decoderInput connection = some input →
      EndpointsMatch plainUrls connection caller input := by
  intro hAll
  have hMatch := hAll [] [] (sharedConnection "mode=listener") _ _ _ (by decide +kernel)
    (by decide +kernel) (by decide +kernel) rfl rfl rfl
  have hDirect : DirectMatch plainUrls (srtUrl [] (sharedConnection "mode=listener")) _ := hMatch
  have hBoth : firstValue (itemsOf plainUrls (srtQuery (sharedConnection "mode=listener"))) "mode" =
      "listener" := by decide +kernel
  exact absurd (hBoth.symm.trans hDirect.calls) (by decide)

end SrcLink.UplinkSettings
