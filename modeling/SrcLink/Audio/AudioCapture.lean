import SrcLink.Library.ByteLayout
import Mathlib.Data.List.FinRange
import Mathlib.Logic.Function.Basic

/-! # Audio capture

`SourceAudioCapture` keeps the pushed audio in a byte deque: for each chunk an
`AudioBufferHeader`, then the planes that are present. Its two consumers are
`OutputAudioSource::popAudio` and the loop of `SourceAudioThread::run`; the
latter is `drain` here. `none` stands for an access outside a buffer. Products
of 32-bit operands wrap at 32 bits, sizes at 64.
-/

namespace SrcLink.AudioCapture

set_option autoImplicit false

open ByteLayout

abbrev Bytes := List UInt8

def maxAvPlanes : Nat := 8

def maxAudioBufferFrames : Nat := 131071

/-- `AUDIO_FORMAT_FLOAT_PLANAR` -/
def audioFormatFloatPlanar : UInt32 := 8

/-- `speaker_layout`; the value is the number of channels. -/
inductive SpeakerLayout where
  | unknown | mono | stereo | twoPointOne | fourPointZero | fourPointOne | fivePointOne | sevenPointOne
  deriving DecidableEq, Repr

def SpeakerLayout.value : SpeakerLayout → UInt32
  | .unknown => 0
  | .mono => 1
  | .stereo => 2
  | .twoPointOne => 3
  | .fourPointZero => 4
  | .fourPointOne => 5
  | .fivePointOne => 6
  | .sevenPointOne => 8

/-- The plane indices `0 .. speakers - 1`. -/
def planes (speakers : UInt32) : List (Fin maxAvPlanes) :=
  (List.finRange maxAvPlanes).take speakers.toNat

structure AudioBufferHeader where
  /-- zero means an unused channel -/
  dataIdx : Fin maxAvPlanes → UInt64
  frames : UInt32
  speakers : UInt32
  format : UInt32
  samplesPerSec : UInt32
  timestamp : UInt64
  offset : UInt64

namespace AudioBufferHeader

/-- The sizes of the fields in memory. -/
def layout : List Nat := List.replicate maxAvPlanes 8 ++ [4, 4, 4, 4, 8, 8]

def size : Nat := layout.sum

def words (header : AudioBufferHeader) : List Nat :=
  (List.finRange maxAvPlanes).map (fun i => (header.dataIdx i).toNat) ++
    [header.frames.toNat, header.speakers.toNat, header.format.toNat, header.samplesPerSec.toNat,
      header.timestamp.toNat, header.offset.toNat]

def ofWords (words : List Nat) : AudioBufferHeader where
  dataIdx i := UInt64.ofNat (words.getD i 0)
  frames := UInt32.ofNat (words.getD 8 0)
  speakers := UInt32.ofNat (words.getD 9 0)
  format := UInt32.ofNat (words.getD 10 0)
  samplesPerSec := UInt32.ofNat (words.getD 11 0)
  timestamp := UInt64.ofNat (words.getD 12 0)
  offset := UInt64.ofNat (words.getD 13 0)

def encode (header : AudioBufferHeader) : Bytes := encodeFields (layout.zip header.words)

def decode (bytes : Bytes) : AudioBufferHeader := ofWords (decodeFields layout bytes)

end AudioBufferHeader

/-- `audio_data`: a plane that is present holds `frames` samples, given by their bits. -/
structure AudioData where
  data : Fin maxAvPlanes → Option (List UInt32)
  frames : UInt32
  timestamp : UInt64
  sized : ∀ i plane, data i = some plane → plane.length = frames.toNat

structure SourceAudioCapture where
  samplesPerSec : UInt32
  speakers : SpeakerLayout
  audioBuffer : Bytes
  audioBufferFrames : Nat
  /-- its length is `audioConvBufferSize` -/
  audioConvBuffer : Bytes
  active : Bool

def SourceAudioCapture.audioConvBufferSize (s : SourceAudioCapture) : Nat := s.audioConvBuffer.length

/-- The constructor; `OutputAudioSource` and the thread activate it later. -/
def SourceAudioCapture.create (samplesPerSec : UInt32) (speakers : SpeakerLayout) :
    SourceAudioCapture where
  samplesPerSec := samplesPerSec
  speakers := speakers
  audioBuffer := []
  audioBufferFrames := 0
  audioConvBuffer := []
  active := false

/-- `size_t` addition and subtraction -/
def sizeAdd (a b : Nat) : Nat := (a + b) % 2 ^ 64

def sizeSub (a b : Nat) : Nat := (a + (2 ^ 64 - b)) % 2 ^ 64

/-- The loop that assigns `data_idx`, from the given count of planes already placed. -/
def dataIdx (audioData : AudioData) :
    List (Fin maxAvPlanes) → UInt32 → Fin maxAvPlanes → UInt64
  | [], _ => fun _ => 0
  | i :: rest, channels =>
    match audioData.data i with
    | none => dataIdx audioData rest channels
    | some _ =>
      Function.update (dataIdx audioData rest (channels + 1)) i
        (UInt64.ofNat (AudioBufferHeader.size + (channels * audioData.frames * 4).toNat))

def makeHeader (samplesPerSec : UInt32) (speakers : SpeakerLayout) (audioData : AudioData) :
    AudioBufferHeader where
  dataIdx := dataIdx audioData (planes speakers.value) 0
  frames := audioData.frames
  speakers := speakers.value
  format := audioFormatFloatPlanar
  samplesPerSec := samplesPerSec
  timestamp := audioData.timestamp
  offset := 0

/-- What the second loop of `pushAudio` appends. -/
def payload (speakers : SpeakerLayout) (audioData : AudioData) : Bytes :=
  (planes speakers.value).flatMap fun i =>
    match audioData.data i with
    | none => []
    | some plane =>
      (encodeWords 4 (plane.map UInt32.toNat)).take (audioData.frames * 4).toNat

/-- The length both readers and the resizing of `audioConvBuffer` compute for a chunk. -/
def AudioBufferHeader.dataSize (header : AudioBufferHeader) : Nat :=
  size + (header.speakers * header.frames * 4).toNat

/-- Memory added by `brealloc` is read only after it has been written. -/
def brealloc (buffer : Bytes) (size : Nat) : Bytes :=
  buffer ++ List.replicate (size - buffer.length) 0

/-- The overflow check at the top of `pushAudio`. -/
def flushIfFull (s : SourceAudioCapture) (audioData : AudioData) : SourceAudioCapture :=
  if sizeAdd s.audioBufferFrames audioData.frames.toNat > maxAudioBufferFrames then
    { s with audioBuffer := [], audioBufferFrames := 0 }
  else s

def appendChunk (s : SourceAudioCapture) (audioData : AudioData) : SourceAudioCapture :=
  let header := makeHeader s.samplesPerSec s.speakers audioData
  { s with
    audioBuffer := s.audioBuffer ++ header.encode ++ payload s.speakers audioData
    audioConvBuffer :=
      if header.dataSize > s.audioConvBufferSize then brealloc s.audioConvBuffer header.dataSize
      else s.audioConvBuffer
    audioBufferFrames := sizeAdd s.audioBufferFrames audioData.frames.toNat }

def pushAudio (s : SourceAudioCapture) (audioData : AudioData) : SourceAudioCapture :=
  if s.active then appendChunk (flushIfFull s audioData) audioData else s

/-- `deque_peek_front`: copy the first bytes over the start of a buffer. -/
def peekFront (deque buffer : Bytes) (size : Nat) : Option Bytes :=
  if size ≤ deque.length ∧ size ≤ buffer.length then some (deque.take size ++ buffer.drop size)
  else none

/-- Both consumers read the header of the first chunk, then as much as it says. -/
def peekChunk (s : SourceAudioCapture) : Option (AudioBufferHeader × Bytes) := do
  let conv ← peekFront s.audioBuffer s.audioConvBuffer AudioBufferHeader.size
  let header := AudioBufferHeader.decode conv
  let conv ← peekFront s.audioBuffer conv header.dataSize
  some (header, conv)

/-- The samples of a plane, as far as the buffer holds them. -/
def readPlane (conv : Bytes) (position frames : Nat) : Option (List UInt32) :=
  (List.range frames).mapM fun k => (wordAt 4 conv (position + 4 * k)).map UInt32.ofNat

/-- `obs_source_audio`, with the samples its plane pointers give access to. -/
structure ObsSourceAudio where
  data : List (Option (List UInt32))
  frames : UInt32
  speakers : UInt32
  format : UInt32
  samplesPerSec : UInt32
  timestamp : UInt64
  deriving DecidableEq, Repr

/-- The chunk at the start of `audioConvBuffer`, as its header describes it. -/
def viewChunk (header : AudioBufferHeader) (conv : Bytes) : Option ObsSourceAudio := do
  if maxAvPlanes < header.speakers.toNat then none
  let data ← (planes header.speakers).mapM fun i =>
    if header.dataIdx i = 0 then some none
    else (readPlane conv (header.dataIdx i).toNat header.frames.toNat).map some
  some
    { data := data, frames := header.frames, speakers := header.speakers, format := header.format
      samplesPerSec := header.samplesPerSec, timestamp := header.timestamp }

/-- What a consumer took: the chunk it saw, and the step of `audioBufferFrames`. -/
structure Take where
  chunk : Option ObsSourceAudio
  framesBefore : Nat
  decrement : Nat
  deriving DecidableEq, Repr

/-- One round of the loop in `SourceAudioThread::run`, from the frame count on. -/
def drain (s : SourceAudioCapture) : Option (SourceAudioCapture × Option Take) :=
  if s.audioBufferFrames = 0 then some (s, none)
  else do
    let (header, conv) ← peekChunk s
    let audioData ← viewChunk header conv
    some
      ({ s with
          audioBuffer := s.audioBuffer.drop header.dataSize
          audioConvBuffer := conv
          audioBufferFrames := sizeSub s.audioBufferFrames header.frames.toNat },
        some
          { chunk := some audioData, framesBefore := s.audioBufferFrames
            decrement := header.frames.toNat })

end SrcLink.AudioCapture
