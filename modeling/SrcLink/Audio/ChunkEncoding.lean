import SrcLink.Audio.AudioCapture
import SrcLink.Library.Reblocking

/-! # The encoding of a chunk

What `pushAudio` appends for a chunk, and what a consumer reads back when the
chunk is at the front of the deque. The two agree on the length of a chunk only
if none of its planes is missing and the length fits 32 bits.
-/

namespace SrcLink.AudioCapture

set_option autoImplicit false

open ByteLayout Reblocking

theorem AudioBufferHeader.length_words (header : AudioBufferHeader) :
    header.words.length = AudioBufferHeader.layout.length := by
  simp [words, layout]

theorem AudioBufferHeader.map_fst_zip (header : AudioBufferHeader) :
    (AudioBufferHeader.layout.zip header.words).map Prod.fst = AudioBufferHeader.layout :=
  List.map_fst_zip header.length_words.ge

theorem AudioBufferHeader.map_snd_zip (header : AudioBufferHeader) :
    (AudioBufferHeader.layout.zip header.words).map Prod.snd = header.words :=
  List.map_snd_zip header.length_words.le

@[simp] theorem AudioBufferHeader.length_encode (header : AudioBufferHeader) :
    header.encode.length = AudioBufferHeader.size := by
  rw [encode, length_encodeFields, map_fst_zip, size]

theorem AudioBufferHeader.ofWords_words (header : AudioBufferHeader) :
    ofWords header.words = header := by
  obtain ⟨dataIdx, frames, speakers, format, samplesPerSec, timestamp, offset⟩ := header
  have hIdx : ∀ i : Fin maxAvPlanes, UInt64.ofNat ((words
      ⟨dataIdx, frames, speakers, format, samplesPerSec, timestamp, offset⟩).getD i 0) =
      dataIdx i := by
    intro i
    rw [words, List.getD_eq_getElem?_getD, List.getElem?_append_left (by simp)]
    simp
  simp only [ofWords, AudioBufferHeader.mk.injEq]
  refine ⟨funext hIdx, ?_⟩
  simp [words, maxAvPlanes]

theorem AudioBufferHeader.words_fit (header : AudioBufferHeader) :
    ∀ field ∈ AudioBufferHeader.layout.zip header.words, field.2 < 256 ^ field.1 := by
  have h64 : ∀ x : UInt64, x.toNat < 256 ^ 8 := fun x => x.toNat_lt
  have h32 : ∀ x : UInt32, x.toNat < 256 ^ 4 := fun x => x.toNat_lt
  intro field hField
  rw [layout, words, List.zip_append (by simp)] at hField
  rcases List.mem_append.mp hField with hIdx | hRest
  · obtain ⟨width, n⟩ := field
    have hWidth : width = 8 := List.eq_of_mem_replicate (List.of_mem_zip hIdx).1
    obtain ⟨i, _, rfl⟩ := List.mem_map.mp (List.of_mem_zip hIdx).2
    rw [hWidth]
    exact h64 _
  · simp only [List.zip_cons_cons, List.zip_nil_right, List.mem_cons, List.not_mem_nil,
      or_false] at hRest
    rcases hRest with rfl | rfl | rfl | rfl | rfl | rfl
    · exact h32 _
    · exact h32 _
    · exact h32 _
    · exact h32 _
    · exact h64 _
    · exact h64 _

theorem AudioBufferHeader.decode_encode (header : AudioBufferHeader) (rest : Bytes) :
    decode (header.encode ++ rest) = header := by
  have hRead := decodeFields_encodeFields header.words_fit rest
  rw [header.map_fst_zip, header.map_snd_zip] at hRead
  rw [decode, encode, hRead, ofWords_words]

/-- A chunk as it was pushed. -/
structure Chunk where
  audioData : AudioData
  samplesPerSec : UInt32
  speakers : SpeakerLayout

/-- A sample for each plane that is present. -/
abbrev Frame := Fin maxAvPlanes → Option UInt32

def Chunk.frames (c : Chunk) : List Frame :=
  (List.range c.audioData.frames.toNat).map fun k i =>
    if i ∈ planes c.speakers.value then (c.audioData.data i).bind (·[k]?) else none

def Chunk.view (c : Chunk) : ObsSourceAudio where
  data := (planes c.speakers.value).map c.audioData.data
  frames := c.audioData.frames
  speakers := c.speakers.value
  format := audioFormatFloatPlanar
  samplesPerSec := c.samplesPerSec
  timestamp := c.audioData.timestamp

/-- The chunk has a sample wherever the readers expect one, and its size fits 32 bits. -/
structure Chunk.Regular (c : Chunk) : Prop where
  complete : c.audioData.frames = 0 ∨ ∀ i ∈ planes c.speakers.value, c.audioData.data i ≠ none
  sized : c.speakers.value.toNat * c.audioData.frames.toNat * 4 < 2 ^ 32

abbrev Pending := Cut Chunk

def headerOf (p : Pending) : AudioBufferHeader :=
  { makeHeader p.chunk.samplesPerSec p.chunk.speakers p.chunk.audioData with
    offset := UInt64.ofNat p.offset }

def encodeChunk (p : Pending) : Bytes :=
  (headerOf p).encode ++ payload p.chunk.speakers p.chunk.audioData

@[simp] theorem Chunk.length_frames (c : Chunk) : c.frames.length = c.audioData.frames.toNat := by
  simp [Chunk.frames]

theorem SpeakerLayout.value_le (speakers : SpeakerLayout) :
    speakers.value.toNat ≤ maxAvPlanes := by
  cases speakers <;> decide

@[simp] theorem length_planes (speakers : SpeakerLayout) :
    (planes speakers.value).length = speakers.value.toNat := by
  simp [planes, speakers.value_le]

theorem nodup_planes (speakers : UInt32) : (planes speakers).Nodup :=
  (List.take_sublist ..).nodup (List.nodup_finRange _)

section Payload

variable (audioData : AudioData)

/-- The bytes of the planes of a list, as `pushAudio` appends them. -/
def planeBytes (i : Fin maxAvPlanes) : Bytes :=
  match audioData.data i with
  | none => []
  | some plane => (encodeWords 4 (plane.map UInt32.toNat)).take (audioData.frames * 4).toNat

theorem payload_eq (speakers : SpeakerLayout) :
    payload speakers audioData = (planes speakers.value).flatMap (planeBytes audioData) := rfl

variable {audioData}

theorem planeBytes_some {i : Fin maxAvPlanes} {plane : List UInt32}
    (hPlane : audioData.data i = some plane) (hFrames : audioData.frames.toNat * 4 < 2 ^ 32) :
    planeBytes audioData i = encodeWords 4 (plane.map UInt32.toNat) := by
  have hBytes : (audioData.frames * 4).toNat = audioData.frames.toNat * 4 := by
    rw [UInt32.toNat_mul]
    exact Nat.mod_eq_of_lt hFrames
  simp only [planeBytes, hPlane]
  refine List.take_of_length_le ?_
  rw [length_encodeWords, List.length_map, audioData.sized i plane hPlane, hBytes]

theorem length_planeBytes {i : Fin maxAvPlanes} {plane : List UInt32}
    (hPlane : audioData.data i = some plane) (hFrames : audioData.frames.toNat * 4 < 2 ^ 32) :
    (planeBytes audioData i).length = audioData.frames.toNat * 4 := by
  rw [planeBytes_some hPlane hFrames, length_encodeWords, List.length_map,
    audioData.sized i plane hPlane]

theorem length_flatMap_planeBytes {is : List (Fin maxAvPlanes)}
    (hComplete : audioData.frames = 0 ∨ ∀ i ∈ is, audioData.data i ≠ none)
    (hSized : is.length * audioData.frames.toNat * 4 < 2 ^ 32) :
    (is.flatMap (planeBytes audioData)).length = is.length * audioData.frames.toNat * 4 := by
  have hEach : ∀ i ∈ is, (planeBytes audioData i).length = audioData.frames.toNat * 4 := by
    intro i hi
    have hPos : 1 ≤ is.length := List.length_pos_of_mem hi
    have hFrames : audioData.frames.toNat * 4 < 2 ^ 32 := by
      refine lt_of_le_of_lt ?_ hSized
      rw [Nat.mul_assoc]
      exact Nat.le_mul_of_pos_left _ hPos
    cases hPlane : audioData.data i with
    | some plane => exact length_planeBytes hPlane hFrames
    | none =>
      rcases hComplete with hZero | hAll
      · simp [planeBytes, hPlane, hZero]
      · exact absurd hPlane (hAll i hi)
  rw [List.length_flatMap, List.map_congr_left hEach, List.map_const', List.sum_replicate_nat,
    Nat.mul_assoc]

theorem dataIdx_cons_none {i : Fin maxAvPlanes} (hNone : audioData.data i = none)
    (is : List (Fin maxAvPlanes)) (channels : UInt32) :
    dataIdx audioData (i :: is) channels = dataIdx audioData is channels := by
  simp only [dataIdx, hNone]

theorem dataIdx_cons_some {i : Fin maxAvPlanes} {plane : List UInt32}
    (hPlane : audioData.data i = some plane) (is : List (Fin maxAvPlanes)) (channels : UInt32) :
    dataIdx audioData (i :: is) channels =
      Function.update (dataIdx audioData is (channels + 1)) i
        (UInt64.ofNat (AudioBufferHeader.size + (channels * audioData.frames * 4).toNat)) := by
  simp only [dataIdx, hPlane]

theorem dataIdx_of_none {i : Fin maxAvPlanes} (hNone : audioData.data i = none)
    (is : List (Fin maxAvPlanes)) (channels : UInt32) :
    dataIdx audioData is channels i = 0 := by
  induction is generalizing channels with
  | nil => rfl
  | cons j is ih =>
    cases hPlane : audioData.data j with
    | none => rw [dataIdx_cons_none hPlane, ih]
    | some plane =>
      have hij : i ≠ j := by
        rintro rfl
        cases hNone.symm.trans hPlane
      rw [dataIdx_cons_some hPlane, Function.update_of_ne hij, ih]

/-- A plane that is present starts where `data_idx` says, behind the planes before it. -/
theorem dataIdx_of_some {is : List (Fin maxAvPlanes)} (channels : Nat) {i : Fin maxAvPlanes}
    {plane : List UInt32} (hNodup : is.Nodup) (hi : i ∈ is) (hPlane : audioData.data i = some plane)
    (hSized : (channels + is.length) * audioData.frames.toNat * 4 < 2 ^ 32)
    (hChannels : channels + is.length < 2 ^ 32) :
    ∃ before after, is.flatMap (planeBytes audioData) =
        before ++ encodeWords 4 (plane.map UInt32.toNat) ++ after ∧
      (dataIdx audioData is (UInt32.ofNat channels) i).toNat =
        AudioBufferHeader.size + channels * audioData.frames.toNat * 4 + before.length := by
  induction is generalizing channels with
  | nil => cases hi
  | cons j is ih =>
    rw [List.length_cons] at hSized hChannels
    have hFrames : audioData.frames.toNat * 4 < 2 ^ 32 := by
      refine lt_of_le_of_lt ?_ hSized
      rw [Nat.mul_assoc]
      exact Nat.le_mul_of_pos_left _ (by omega)
    obtain ⟨hNot, hNodup⟩ := List.nodup_cons.mp hNodup
    -- the plane comes first, or behind the plane `j`, which may be absent
    by_cases hij : i = j
    · subst j
      refine ⟨[], is.flatMap (planeBytes audioData), ?_, ?_⟩
      · rw [List.flatMap_cons, planeBytes_some hPlane hFrames, List.nil_append]
      · have hBefore : channels * audioData.frames.toNat * 4 < 2 ^ 32 :=
          lt_of_le_of_lt (Nat.mul_le_mul_right _ (Nat.mul_le_mul_right _ (by omega))) hSized
        have hProduct : (UInt32.ofNat channels * audioData.frames * 4).toNat =
            channels * audioData.frames.toNat * 4 := by
          rw [UInt32.toNat_mul, UInt32.toNat_mul, UInt32.toNat_ofNat',
            Nat.mod_eq_of_lt (by omega : channels < 2 ^ 32), Nat.mod_mul_mod]
          exact Nat.mod_eq_of_lt hBefore
        rw [dataIdx_cons_some hPlane, Function.update_self, hProduct, UInt64.toNat_ofNat',
          List.length_nil, Nat.add_zero]
        refine Nat.mod_eq_of_lt ?_
        have hSize : AudioBufferHeader.size = 96 := rfl
        omega
    · have hi : i ∈ is := (List.mem_cons.mp hi).resolve_left hij
      cases hOther : audioData.data j with
      | none =>
        -- an absent plane takes no bytes and counts as no channel
        have hLess : (channels + is.length) * audioData.frames.toNat * 4 < 2 ^ 32 :=
          lt_of_le_of_lt (Nat.mul_le_mul_right _ (Nat.mul_le_mul_right _ (by omega))) hSized
        obtain ⟨before, after, hBytes, hIdx⟩ := ih channels hNodup hi hLess (by omega)
        refine ⟨before, after, ?_, ?_⟩
        · rw [List.flatMap_cons, hBytes]
          simp [planeBytes, hOther]
        · rw [dataIdx_cons_none hOther, hIdx]
      | some other =>
        have hShift : channels + 1 + is.length = channels + (is.length + 1) := by omega
        obtain ⟨before, after, hBytes, hIdx⟩ :=
          ih (channels + 1) hNodup hi (by rwa [hShift]) (by omega)
        refine ⟨planeBytes audioData j ++ before, after, ?_, ?_⟩
        · rw [List.flatMap_cons, hBytes]
          simp only [List.append_assoc]
        · have hSucc : UInt32.ofNat channels + 1 = UInt32.ofNat (channels + 1) := by
            rw [UInt32.ofNat_add]
            rfl
          rw [dataIdx_cons_some hOther, Function.update_of_ne hij, hSucc, hIdx, List.length_append,
            length_planeBytes hOther hFrames]
          ring

end Payload

section Reading

variable {p : Pending}

theorem Chunk.Regular.length_payload {c : Chunk} (h : c.Regular) :
    (payload c.speakers c.audioData).length =
      c.speakers.value.toNat * c.audioData.frames.toNat * 4 := by
  rw [payload_eq, length_flatMap_planeBytes h.complete (by rw [length_planes]; exact h.sized),
    length_planes]

theorem dataSize_eq (h : p.chunk.Regular) : (headerOf p).dataSize = (encodeChunk p).length := by
  have hProduct : (p.chunk.speakers.value * p.chunk.audioData.frames * 4).toNat =
      p.chunk.speakers.value.toNat * p.chunk.audioData.frames.toNat * 4 := by
    rw [UInt32.toNat_mul, UInt32.toNat_mul, Nat.mod_mul_mod]
    exact Nat.mod_eq_of_lt h.sized
  rw [encodeChunk, List.length_append, AudioBufferHeader.length_encode, h.length_payload]
  exact congrArg (AudioBufferHeader.size + ·) hProduct

theorem peekFront_append {front buffer : Bytes} (rest : Bytes)
    (hFits : front.length ≤ buffer.length) :
    peekFront (front ++ rest) buffer front.length = some (front ++ buffer.drop front.length) := by
  have hThere : front.length ≤ (front ++ rest).length := by
    rw [List.length_append]
    exact Nat.le_add_right ..
  rw [peekFront, if_pos ⟨hThere, hFits⟩, List.take_left]

theorem peekChunk_encodeChunk {s : SourceAudioCapture} {rest : Bytes} (h : p.chunk.Regular)
    (hBuffer : s.audioBuffer = encodeChunk p ++ rest)
    (hFits : (encodeChunk p).length ≤ s.audioConvBufferSize) :
    peekChunk s = some (headerOf p,
      encodeChunk p ++ s.audioConvBuffer.drop (encodeChunk p).length) := by
  have hSize : (headerOf p).encode.length = AudioBufferHeader.size :=
    AudioBufferHeader.length_encode _
  have hHeader : AudioBufferHeader.size ≤ (encodeChunk p).length := by
    rw [encodeChunk, List.length_append, hSize]
    exact Nat.le_add_right ..
  have hFirst : peekFront s.audioBuffer s.audioConvBuffer AudioBufferHeader.size =
      some ((headerOf p).encode ++ s.audioConvBuffer.drop AudioBufferHeader.size) := by
    rw [hBuffer, encodeChunk, List.append_assoc, ← hSize]
    exact peekFront_append _ (hSize.le.trans (hHeader.trans hFits))
  have hSecond : peekFront s.audioBuffer
      ((headerOf p).encode ++ s.audioConvBuffer.drop AudioBufferHeader.size)
      (encodeChunk p).length =
      some (encodeChunk p ++ s.audioConvBuffer.drop (encodeChunk p).length) := by
    have hLength : ((headerOf p).encode ++ s.audioConvBuffer.drop AudioBufferHeader.size).length =
        s.audioConvBufferSize := by
      rw [List.length_append, hSize, List.length_drop]
      exact Nat.add_sub_cancel' (hHeader.trans hFits)
    have hBehind : ((headerOf p).encode ++ s.audioConvBuffer.drop AudioBufferHeader.size).drop
        (encodeChunk p).length = s.audioConvBuffer.drop (encodeChunk p).length := by
      rw [List.drop_append, List.drop_eq_nil_of_le (hSize.le.trans hHeader), List.nil_append,
        hSize, List.drop_drop, Nat.add_sub_cancel' hHeader]
    rw [hBuffer, peekFront_append rest (hFits.trans_eq hLength.symm), hBehind]
  simp only [peekChunk, hFirst, Option.bind_eq_bind, Option.bind_some,
    AudioBufferHeader.decode_encode, dataSize_eq h, hSecond]

theorem wordAt_encodeChunk {i : Fin maxAvPlanes} {plane : List UInt32} {k : Nat} (junk : Bytes)
    (h : p.chunk.Regular) (hi : i ∈ planes p.chunk.speakers.value)
    (hPlane : p.chunk.audioData.data i = some plane) (hk : k < plane.length) :
    wordAt 4 (encodeChunk p ++ junk) (((headerOf p).dataIdx i).toNat + 4 * k) =
      some plane[k].toNat := by
  have hLe := p.chunk.speakers.value_le
  have hMax : maxAvPlanes = 8 := rfl
  obtain ⟨before, after, hBytes, hIdx⟩ := dataIdx_of_some 0
    (nodup_planes p.chunk.speakers.value) hi hPlane
    (by rw [Nat.zero_add, length_planes]; exact h.sized) (by rw [length_planes]; omega)
  have hPosition : ((headerOf p).dataIdx i).toNat = ((headerOf p).encode ++ before).length := by
    rw [Nat.zero_mul, Nat.zero_mul, Nat.add_zero] at hIdx
    rw [List.length_append, AudioBufferHeader.length_encode]
    exact hIdx
  have hSplit : encodeChunk p ++ junk = (headerOf p).encode ++ before ++
      encodeWords 4 (plane.map UInt32.toNat) ++ (after ++ junk) := by
    rw [encodeChunk, payload_eq, hBytes]
    simp only [List.append_assoc]
  have hLength : k < (plane.map UInt32.toNat).length := by simpa using hk
  have hFits : (plane.map UInt32.toNat)[k] < 256 ^ 4 := by
    rw [List.getElem_map]
    exact UInt32.toNat_lt _
  rw [hSplit, hPosition, wordAt_encodeWords 4 hLength hFits, List.getElem_map]

theorem headerOf_dataIdx_of_none {i : Fin maxAvPlanes} (hNone : p.chunk.audioData.data i = none) :
    (headerOf p).dataIdx i = 0 :=
  dataIdx_of_none hNone _ _

theorem headerOf_dataIdx_ne {i : Fin maxAvPlanes} {plane : List UInt32} (h : p.chunk.Regular)
    (hi : i ∈ planes p.chunk.speakers.value) (hPlane : p.chunk.audioData.data i = some plane) :
    (headerOf p).dataIdx i ≠ 0 := by
  have hLe := p.chunk.speakers.value_le
  have hMax : maxAvPlanes = 8 := rfl
  obtain ⟨before, _, _, hIdx⟩ := dataIdx_of_some 0 (nodup_planes p.chunk.speakers.value) hi hPlane
    (by rw [Nat.zero_add, length_planes]; exact h.sized) (by rw [length_planes]; omega)
  intro hZero
  have hSame : ((headerOf p).dataIdx i).toNat = _ := hIdx
  rw [hZero] at hSame
  have hSize : AudioBufferHeader.size = 96 := rfl
  simp only [UInt64.toNat_zero] at hSame
  omega

theorem viewChunk_encodeChunk (junk : Bytes) (h : p.chunk.Regular) :
    viewChunk (headerOf p) (encodeChunk p ++ junk) = some p.chunk.view := by
  have hSpeakers : ¬ maxAvPlanes < (headerOf p).speakers.toNat :=
    Nat.not_lt.mpr p.chunk.speakers.value_le
  have hPlanes : ∀ i ∈ planes (headerOf p).speakers,
      (if (headerOf p).dataIdx i = 0 then some none
        else (readPlane (encodeChunk p ++ junk) ((headerOf p).dataIdx i).toNat
          (headerOf p).frames.toNat).map some) = some (p.chunk.audioData.data i) := by
    -- `data_idx` tells absent planes from present ones
    intro i hi
    cases hPlane : p.chunk.audioData.data i with
    | none => rw [if_pos (headerOf_dataIdx_of_none hPlane)]
    | some plane =>
      have hLength : plane.length = (headerOf p).frames.toNat :=
        p.chunk.audioData.sized i plane hPlane
      have hRead : readPlane (encodeChunk p ++ junk) ((headerOf p).dataIdx i).toNat
          (headerOf p).frames.toNat =
          some ((List.range (headerOf p).frames.toNat).map fun k => plane.getD k 0) := by
        refine mapM_of_forall fun k hk => ?_
        have hk' : k < plane.length := hLength ▸ List.mem_range.mp hk
        rw [wordAt_encodeChunk junk h hi hPlane hk', Option.map_some, UInt32.ofNat_toNat,
          List.getD_eq_getElem?_getD, List.getElem?_eq_getElem hk', Option.getD_some]
      have hAll : (List.range (headerOf p).frames.toNat).map (fun k => plane.getD k 0) = plane := by
        refine List.ext_getElem (by simp [hLength]) fun k hk hk' => ?_
        simp [hk']
      rw [if_neg (headerOf_dataIdx_ne h hi hPlane), hRead, hAll, Option.map_some]
  have hData := mapM_of_forall hPlanes
  simp only [viewChunk, if_neg hSpeakers, hData, Option.bind_eq_bind, Option.bind_some]
  rfl

end Reading

end SrcLink.AudioCapture
