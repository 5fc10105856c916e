import SrcLink.Library.StepSystem
import SrcLink.Sources.IngressLinkSource

/-! # The decoder and the stored connection

`onDownlinkReady` updates the decoder when it stores a connection that the source
knows to be new, by its revision, its passphrase or its allocation, and otherwise
stores the connection only. A change of the settings raises the revision of the
source before the server answers it. The input URL is compared by its parts.
-/

namespace SrcLink.IngressLinkSource

open Json Schema StepSystem

set_option autoImplicit false

/-- The input URL, by its parts. -/
structure InputUrl where
  host : String
  port : Int
  items : List (String × Option String)
  deriving DecidableEq

def DecoderInput.url (urls : UrlSyntax) (input : DecoderInput) : InputUrl where
  host := urls.setHost input.host
  port := urls.setPort input.port
  items := input.query.items urls

section Input

open StageConnection

variable (urls : UrlSyntax)

def inputUrl (connection : QJsonObject) : Option InputUrl :=
  (decoderInput connection).map (DecoderInput.url urls)

def Plays (connection : QJsonObject) : Prop :=
  getAllocationId connection ≠ "" ∧ getProtocol connection = "srt"

/-- The parts that two playing connections must share to be played in the same way. -/
structure SameParts (a b : QJsonObject) : Prop where
  relay : getRelay a = getRelay b
  port : urls.setPort (getPort a) = urls.setPort (getPort b)
  server : getRelay a = true → urls.setHost (getServer a) = urls.setHost (getServer b)
  relayParameters : getRelay a = true →
    urls.queryItems (getParameters a) = urls.queryItems (getParameters b)
  relayStreamId : getRelay a = true →
    urls.itemValue (relayStreamId a) = urls.itemValue (relayStreamId b)
  directParameters : getRelay a = false →
    (directParameters a).items urls = (directParameters b).items urls
  streamId : getRelay a = false →
    urls.itemValue (getStreamId a) = urls.itemValue (getStreamId b)
  passphrase : getRelay a = false →
    urls.itemValue (getPassphrase a) = urls.itemValue (getPassphrase b)

def SameInput (a b : QJsonObject) : Prop := (Plays a ↔ Plays b) ∧ (Plays a → SameParts urls a b)

variable {urls} {a b : QJsonObject}

theorem inputUrl_of_not_plays (h : ¬Plays a) : inputUrl urls a = none :=
  congrArg (Option.map (DecoderInput.url urls)) (if_neg h)

theorem inputUrl_relayed (h : Plays a) (hRelay : getRelay a = true) :
    inputUrl urls a = some
      { host := urls.setHost (getServer a), port := urls.setPort (getPort a)
        items := urls.queryItems (getParameters a) ++
          [("mode", some (urls.itemValue "caller")),
            ("streamid", some (urls.itemValue (relayStreamId a)))] } := by
  have hInput : decoderInput a = some _ := (if_pos h).trans (if_pos hRelay)
  rw [inputUrl, hInput]
  simp [DecoderInput.url]

theorem inputUrl_direct (h : Plays a) (hRelay : getRelay a = false) :
    inputUrl urls a = some
      { host := urls.setHost "0.0.0.0", port := urls.setPort (getPort a)
        items := (directParameters a).items urls ++
          [("mode", some (urls.itemValue "listener")),
            ("streamid", some (urls.itemValue (getStreamId a))),
            ("passphrase", some (urls.itemValue (getPassphrase a)))] } := by
  have hInput : decoderInput a = some _ := (if_pos h).trans (if_neg (by simp [hRelay]))
  rw [inputUrl, hInput]
  simp [DecoderInput.url]

theorem inputUrl_isSome_iff : (inputUrl urls a).isSome = true ↔ Plays a := by
  by_cases h : Plays a
  · cases hRelay : getRelay a with
    | true => simp [inputUrl_relayed h hRelay, h]
    | false => simp [inputUrl_direct h hRelay, h]
  · simp [inputUrl_of_not_plays h, h]

theorem inputUrl_ne_of_relay (h : Plays a) (h' : Plays b) (hRelay : getRelay a = true)
    (hDirect : getRelay b = false) : inputUrl urls a ≠ inputUrl urls b := by
  rw [inputUrl_relayed h hRelay, inputUrl_direct h' hDirect]
  intro hSame
  have hItems := congrArg (fun url => (url.items.getLast?).map Prod.fst) (Option.some.inj hSame)
  simp at hItems

theorem SameParts.of_inputUrl (h : Plays a) (h' : Plays b)
    (hSame : inputUrl urls a = inputUrl urls b) : SameParts urls a b := by
  cases hRelay : getRelay a with
  | true =>
    cases hRelay' : getRelay b with
    | true =>
      rw [inputUrl_relayed h hRelay, inputUrl_relayed h' hRelay', Option.some.injEq,
        InputUrl.mk.injEq] at hSame
      obtain ⟨hServer, hPort, hItems⟩ := hSame
      -- the last items are those that the source adds to the parameters
      obtain ⟨hParameters, hAdded⟩ := List.append_inj' hItems rfl
      simp only [List.cons.injEq, Prod.mk.injEq, Option.some.injEq, true_and, and_true] at hAdded
      have hNot (hDirect : getRelay a = false) : False := by simp [hRelay] at hDirect
      exact ⟨hRelay.trans hRelay'.symm, hPort, fun _ => hServer, fun _ => hParameters,
        fun _ => hAdded, fun hDirect => (hNot hDirect).elim, fun hDirect => (hNot hDirect).elim,
        fun hDirect => (hNot hDirect).elim⟩
    | false => exact absurd hSame (inputUrl_ne_of_relay h h' hRelay hRelay')
  | false =>
    cases hRelay' : getRelay b with
    | true => exact absurd hSame.symm (inputUrl_ne_of_relay h' h hRelay' hRelay)
    | false =>
      rw [inputUrl_direct h hRelay, inputUrl_direct h' hRelay', Option.some.injEq,
        InputUrl.mk.injEq] at hSame
      obtain ⟨-, hPort, hItems⟩ := hSame
      obtain ⟨hParameters, hAdded⟩ := List.append_inj' hItems rfl
      simp only [List.cons.injEq, Prod.mk.injEq, Option.some.injEq, true_and, and_true] at hAdded
      have hNot (hTrue : getRelay a = true) : False := by simp [hRelay] at hTrue
      exact ⟨hRelay.trans hRelay'.symm, hPort, fun hTrue => (hNot hTrue).elim,
        fun hTrue => (hNot hTrue).elim, fun hTrue => (hNot hTrue).elim, fun _ => hParameters,
        fun _ => hAdded.1, fun _ => hAdded.2⟩

theorem SameParts.inputUrl_eq (hParts : SameParts urls a b) (h : Plays a) (h' : Plays b) :
    inputUrl urls a = inputUrl urls b := by
  cases hRelay : getRelay a with
  | true =>
    rw [inputUrl_relayed h hRelay, inputUrl_relayed h' (hParts.relay ▸ hRelay),
      hParts.server hRelay, hParts.port, hParts.relayParameters hRelay,
      hParts.relayStreamId hRelay]
  | false =>
    rw [inputUrl_direct h hRelay, inputUrl_direct h' (hParts.relay ▸ hRelay), hParts.port,
      hParts.directParameters hRelay, hParts.streamId hRelay, hParts.passphrase hRelay]

theorem inputUrl_eq_iff : inputUrl urls a = inputUrl urls b ↔ SameInput urls a b := by
  constructor
  · intro hSame
    have hPlays : Plays a ↔ Plays b := by
      rw [← inputUrl_isSome_iff, hSame, inputUrl_isSome_iff]
    exact ⟨hPlays, fun h => .of_inputUrl h (hPlays.mp h) hSame⟩
  · rintro ⟨hPlays, hParts⟩
    by_cases h : Plays a
    · exact (hParts h).inputUrl_eq h (hPlays.mp h)
    · rw [inputUrl_of_not_plays h, inputUrl_of_not_plays (mt hPlays.mpr h)]

end Input

/-- The settings as the decoder source gets them. -/
structure AppliedSettings where
  /-- none if the input is the empty string -/
  input : Option InputUrl
  options : DecoderOptions
  inputFormat : String
  isLocalFile : Bool
  deriving DecidableEq

def DecoderSettings.applied (urls : UrlSyntax) (d : DecoderSettings) : AppliedSettings where
  input := d.input.map (DecoderInput.url urls)
  options := d.options
  inputFormat := d.inputFormat
  isLocalFile := d.isLocalFile

def DecoderFollows (urls : UrlSyntax) (s : Source) : Prop :=
  s.decoderSettings.applied urls = s.createDecoderSettings.applied urls

instance (urls : UrlSyntax) (s : Source) : Decidable (DecoderFollows urls s) :=
  inferInstanceAs (Decidable (_ = _))

/-- A connection that is stored without an update of the decoder is played like the stored one,
and captured settings have the options of the decoder. -/
def KeepsDecoder (urls : UrlSyntax) (s : Source) : SourceEvent → Prop
  | .settingsUpdate _ c => capturedOptions c = s.options
  | .downlinkReady downlink =>
    let incoming := DownlinkInfo.getConnection downlink
    StageConnection.getId incoming = s.uuid → s.reconnectionNeeded incoming = false →
      SameInput urls incoming s.connection
  | _ => True

section Steps

variable {urls : UrlSyntax} {s t : Source}

theorem decoderFollows_iff :
    DecoderFollows urls s ↔ s.decoderSettings.applied urls =
      { input := inputUrl urls s.connection, options := s.options, inputFormat := "mpegts"
        isLocalFile := false } :=
  Iff.rfl

theorem decoderFollows_resetDecoder (connection : QJsonObject) (s : Source) :
    DecoderFollows urls (s.resetDecoder connection) := rfl

theorem DecoderFollows.congr (h : DecoderFollows urls s)
    (hSettings : t.decoderSettings = s.decoderSettings) (hConnection : t.connection = s.connection)
    (hOptions : t.options = s.options) : DecoderFollows urls t := by
  rw [decoderFollows_iff, hSettings, hConnection, hOptions]
  exact h

/-- Storing other data needs no update of the decoder only if they give the same settings. -/
theorem decoderFollows_stored_iff (h : DecoderFollows urls s)
    (hSettings : t.decoderSettings = s.decoderSettings) :
    DecoderFollows urls t ↔
      inputUrl urls t.connection = inputUrl urls s.connection ∧ t.options = s.options := by
  rw [decoderFollows_iff, hSettings, decoderFollows_iff.mp h, AppliedSettings.mk.injEq]
  constructor
  · rintro ⟨hInput, hOptions, -⟩
    exact ⟨hInput.symm, hOptions.symm⟩
  · rintro ⟨hInput, hOptions⟩
    exact ⟨hInput.symm, hOptions.symm, rfl, rfl⟩

theorem keepsDecoder_of_passive {e : SourceEvent} (h : e.Passive) : KeepsDecoder urls s e := by
  cases e with
  | settingsUpdate | downlinkReady => exact h.elim
  | _ => trivial

theorem step_decoderFollows_iff {e : SourceEvent} (h : DecoderFollows urls s)
    (hApplied : Applied s e t) : DecoderFollows urls t ↔ KeepsDecoder urls s e := by
  cases hApplied with
  | captured ports c =>
    have hStored := decoderFollows_stored_iff
      (t := (s.captureSettings ports c).1.putConnection) h rfl
    exact hStored.trans (and_iff_right rfl)
  | ignored hOther => exact ⟨fun _ hOwn => (hOther hOwn).elim, fun _ => h⟩
  | reset hIncoming hOwn hNeeded =>
    subst hIncoming
    refine ⟨fun _ _ hKept => ?_, fun _ => decoderFollows_resetDecoder _ _⟩
    exact absurd (hNeeded.symm.trans hKept) (by decide)
  | @stored downlink incoming hIncoming hOwn hKept =>
    subst hIncoming
    have hStored := decoderFollows_stored_iff
      (t := { s with connection := DownlinkInfo.getConnection downlink }) h rfl
    rw [hStored, and_iff_left rfl, inputUrl_eq_iff]
    exact ⟨fun hInput _ _ => hInput, fun hInput => hInput hOwn hKept⟩
  | emptied hPassive =>
    exact iff_of_true (decoderFollows_resetDecoder _ _) (keepsDecoder_of_passive hPassive)
  | put hPassive => exact iff_of_true (h.congr rfl rfl rfl) (keepsDecoder_of_passive hPassive)
  | unchanged hPassive => exact iff_of_true h (keepsDecoder_of_passive hPassive)

theorem decoderFollows_construct (uuid : String) (ports : Ports) (c : Capture) :
    DecoderFollows urls (Source.construct uuid ports c).1 := by
  simp only [Source.construct]
  generalize (Source.captureSettings ports c (Source.unregistered uuid c)).1 = captured
  rfl

end Steps

/-- A source with the history of its connection. The requests are answered in their order. -/
structure Playback where
  source : Source
  /-- the documents of its connection, newest first -/
  delivered : List QJsonObject := []
  /-- the requests that have been answered or have failed -/
  answered : Nat := 0

namespace Playback

inductive Event where
  | signal (e : SourceEvent)
  | answer (downlink : QJsonObject)
  | fail

/-- The oldest request without an answer. -/
def oldest (w : Playback) : Option QJsonObject := (bodies w.source).reverse[w.answered]?

def Event.delivers (w : Playback) : Event → SourceEvent
  | .signal e => e
  | .answer downlink => .downlinkReady downlink
  | .fail => .putDownlinkFailed w.source.uuid

def documents (w : Playback) : SourceEvent → List QJsonObject
  | .downlinkReady downlink =>
    let incoming := DownlinkInfo.getConnection downlink
    if StageConnection.getId incoming = w.source.uuid then incoming :: w.delivered
    else w.delivered
  | _ => w.delivered

def step (w : Playback) (e : Event) : Option Playback :=
  let delivered := e.delivers w
  let next := { w with source := w.source.apply delivered, delivered := w.documents delivered }
  match e with
  | .signal _ => some next
  | _ => w.oldest.map fun _ => { next with answered := w.answered + 1 }

def Initial (w : Playback) : Prop :=
  ∃ uuid ports c, w = { source := (Source.construct uuid ports c).1 }

/-- What `createDecoderSettings` reads of the connection. -/
def decoderFields (connection : QJsonObject) : List QJsonValue :=
  ["protocol", "port", "parameters", "relay", "relay_app", "stream_id", "_id", "passphrase",
    "server", "latency", "allocation_id"].map connection.value

/-- The fields that the decoder uses change only with a larger revision, and the answer to a
request has its revision or a larger one. -/
def ServerContract (w : Playback) (e : Event) : Prop :=
  (match e.delivers w with
    | .downlinkReady downlink =>
      let incoming := DownlinkInfo.getConnection downlink
      StageConnection.getId incoming = w.source.uuid → ∀ earlier ∈ w.delivered,
        decoderFields earlier = decoderFields incoming ∨
          StageConnection.getRevision earlier < StageConnection.getRevision incoming
    | _ => True) ∧
  match e with
  | .answer downlink =>
    let incoming := DownlinkInfo.getConnection downlink
    StageConnection.getId incoming = w.source.uuid ∧ ∀ body ∈ w.oldest,
      DownlinkRequestBody.getRevision body ≤ StageConnection.getRevision incoming
  | _ => True

theorem step_source {w w' : Playback} {e : Event} (h : w.step e = some w') :
    w'.source = w.source.apply (e.delivers w) := by
  cases e with
  | signal e => exact Option.some.inj h ▸ rfl
  | answer downlink =>
    obtain ⟨_, -, rfl⟩ := Option.map_eq_some_iff.mp h
    rfl
  | fail =>
    obtain ⟨_, -, rfl⟩ := Option.map_eq_some_iff.mp h
    rfl

section Runs

variable (urls : UrlSyntax)

def Follows (w : Playback) : Prop := DecoderFollows urls w.source

instance (w : Playback) : Decidable (w.Follows urls) :=
  inferInstanceAs (Decidable (DecoderFollows urls _))

def Keeps (w : Playback) (e : Event) : Prop := KeepsDecoder urls w.source (e.delivers w)

variable {urls}

theorem initial_follows {w : Playback} (h : w.Initial) : w.Follows urls := by
  obtain ⟨uuid, ports, c, rfl⟩ := h
  exact decoderFollows_construct uuid ports c

theorem step_follows_iff {w w' : Playback} {e : Event} (h : w.Follows urls)
    (hStep : w.step e = some w') : w'.Follows urls ↔ w.Keeps urls e := by
  rw [Follows, step_source hStep]
  exact step_decoderFollows_iff h (applied _ _)

variable (urls)

/-- The condition is exact: the first step against it leaves the decoder behind. -/
theorem follows_iff_keeps (x : Execution step) (hInitial : (x.state 0).Initial) :
    (∀ n, (x.state n).Follows urls) ↔ ∀ n e, x.event n = some e → (x.state n).Keeps urls e := by
  refine x.always_iff (initial_follows hInitial) fun n e hEvent hFollows => ?_
  exact step_follows_iff hFollows (x.next_of_event hEvent)

end Runs

def created : Playback := { source := createdSource }

theorem created_initial : created.Initial := ⟨_, _, _, rfl⟩

def firstAnswer : Event := .answer (allocatedDownlink 1 "a" "secret")

def answeredOnce : Playback where
  source := createdSource.apply (.downlinkReady (allocatedDownlink 1 "a" "secret"))
  delivered := [DownlinkInfo.getConnection (allocatedDownlink 1 "a" "secret")]
  answered := 1

theorem step_firstAnswer : step created firstAnswer = some answeredOnce := rfl

theorem follows_iff_keeps_answered :
    ∃ x : Execution step, (x.state 1).source.decoderSettings.input ≠ none ∧
      ∀ n, (x.state n).Follows plainUrls := by
  have hRun : run step created [firstAnswer] = some answeredOnce := rfl
  refine ⟨Execution.ofRun step created [firstAnswer] (hRun ▸ rfl), ?_,
    (follows_iff_keeps plainUrls _ created_initial).mpr ?_⟩
  · exact (by decide +kernel : answeredOnce.source.decoderSettings.input ≠ none)
  · rintro (_ | n) e hEvent
    · obtain rfl := Option.some.inj hEvent
      have hNeeded : createdSource.reconnectionNeeded
          (DownlinkInfo.getConnection (allocatedDownlink 1 "a" "secret")) = true := by
        decide +kernel
      exact fun _ hKept => absurd (hNeeded.symm.trans hKept) (by decide)
    · exact absurd hEvent (Option.some_ne_none e).symm

/-- The answer to the second request has the revision that the change of the settings has already
given to the source. -/
theorem not_follows :
    ¬∀ w, Reachable step ServerContract Initial w → w.Follows plainUrls := by
  intro hAll
  have hFirst : Reachable step ServerContract Initial answeredOnce :=
    .next (e := firstAnswer) (.start created_initial)
      ⟨fun _ _ hNone => (List.not_mem_nil hNone).elim, by decide +kernel, by decide +kernel⟩
      step_firstAnswer
  have hUpdated : Reachable step ServerContract Initial
      { answeredOnce with source := answeredOnce.source.apply (updateWith "b") } :=
    .next (e := .signal (updateWith "b")) hFirst ⟨trivial, trivial⟩ rfl
  have hLater : StageConnection.getRevision
        (DownlinkInfo.getConnection (allocatedDownlink 1 "a" "secret")) <
      StageConnection.getRevision
        (DownlinkInfo.getConnection (allocatedDownlink 2 "b" "secret")) := by decide +kernel
  have hSecond := Reachable.next (e := Event.answer (allocatedDownlink 2 "b" "secret")) hUpdated
    ⟨fun _ => List.forall_mem_singleton.mpr (.inr hLater), by decide +kernel, by decide +kernel⟩
    rfl
  exact absurd (hAll _ hSecond) (by decide +kernel)

end Playback

end SrcLink.IngressLinkSource
