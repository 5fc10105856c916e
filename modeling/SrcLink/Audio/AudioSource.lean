import SrcLink.Audio.AudioCapture
import Mathlib.Algebra.Order.Field.Rat

/-! # Audio output

`OutputAudioSource::popAudio` mixes the oldest pending frames into the output
buffers of the selected tracks. Sample values are exact numbers; how the bits
of a sample stand for a number is a parameter.
-/

namespace SrcLink.AudioSource

set_option autoImplicit false

open AudioCapture ByteLayout

def audioOutputFrames : Nat := 1024

def maxAudioMixes : Nat := 6

/-- `audio_output_data[MAX_AUDIO_MIXES]`: track, channel, position. -/
abbrev Mixes := Nat → Fin maxAvPlanes → Nat → ℚ

abbrev Position := Nat × Fin maxAvPlanes × Nat

def clamp (x : ℚ) : ℚ := if x > 1 then 1 else if x < -1 then -1 else x

def Mixes.add (out : Mixes) (at_ : Position) (x : ℚ) : Mixes := fun tr ch i =>
  if (tr, ch, i) = at_ then clamp (out tr ch i + x) else out tr ch i

/-- The output buffers, and the positions written so far. -/
structure Mixer where
  out : Mixes
  writes : List Position

/-- The tracks that the `mixers` mask selects. -/
def tracks (mixers : UInt32) : List Nat :=
  (List.range maxAudioMixes).filter fun tr => mixers &&& (1 <<< UInt32.ofNat tr) ≠ 0

/-- The iterations of the three nested loops, in order. -/
def iterations (mixers : UInt32) (header : AudioBufferHeader) (frames : Nat) : List Position :=
  (tracks mixers).flatMap fun tr =>
    ((planes header.speakers).filter fun ch => header.dataIdx ch ≠ 0).flatMap fun ch =>
      (List.range frames).map fun i => (tr, ch, i)

/-- `*out += *in`, clamped; `none` when either pointer leaves its buffer. -/
def mixSample (value : UInt32 → ℚ) (header : AudioBufferHeader) (conv : Bytes) (outOffset : Nat)
    (mixer : Mixer) : Position → Option Mixer
  | (tr, ch, i) => do
    let bits ← wordAt 4 conv ((header.dataIdx ch).toNat + 4 * (header.offset.toNat + i))
    if outOffset + i < audioOutputFrames then
      some
        { out := mixer.out.add (tr, ch, outOffset + i) (value (UInt32.ofNat bits))
          writes := mixer.writes ++ [(tr, ch, outOffset + i)] }
    else none

def mixChunk (value : UInt32 → ℚ) (mixers : UInt32) (header : AudioBufferHeader) (conv : Bytes)
    (outOffset frames : Nat) (mixer : Mixer) : Option Mixer :=
  if tracks mixers ≠ [] ∧ maxAvPlanes < header.speakers.toNat then none
  else (iterations mixers header frames).foldlM (mixSample value header conv outOffset) mixer

/-- The variables of the loop of `popAudio`. -/
structure PopState where
  capture : SourceAudioCapture
  mixer : Mixer
  maxFrames : Nat
  taken : List Take

/-- Remove the first chunk, or leave its rest with a moved offset. -/
def advanceChunk (s : SourceAudioCapture) (header : AudioBufferHeader) (conv : Bytes)
    (chunkFrames frames : Nat) : SourceAudioCapture :=
  if frames = chunkFrames then
    { s with
      audioBuffer := s.audioBuffer.drop header.dataSize
      audioConvBuffer := conv
      audioBufferFrames := sizeSub s.audioBufferFrames frames }
  else
    let header := { header with offset := header.offset + UInt64.ofNat frames }
    { s with
      audioBuffer := header.encode ++ s.audioBuffer.drop AudioBufferHeader.size
      audioConvBuffer := header.encode ++ conv.drop AudioBufferHeader.size
      audioBufferFrames := sizeSub s.audioBufferFrames frames }

/-- The body of the loop. -/
def popChunk (value : UInt32 → ℚ) (mixers : UInt32) (p : PopState) : Option PopState := do
  let (header, conv) ← peekChunk p.capture
  let chunkFrames := sizeSub header.frames.toNat header.offset.toNat
  let frames := if chunkFrames > p.maxFrames then p.maxFrames else chunkFrames
  let mixer ← mixChunk value mixers header conv (audioOutputFrames - p.maxFrames) frames p.mixer
  some
    { capture := advanceChunk p.capture header conv chunkFrames frames
      mixer := mixer
      maxFrames := p.maxFrames - frames
      taken := p.taken ++
        [{ chunk := viewChunk header conv, framesBefore := p.capture.audioBufferFrames
           decrement := frames }] }

/-- `while (maxFrames > 0 && audioBufferFrames)`, for at most `fuel` rounds. -/
def popLoop (value : UInt32 → ℚ) (mixers : UInt32) : Nat → PopState → Option PopState
  | 0, p => if p.maxFrames > 0 ∧ p.capture.audioBufferFrames ≠ 0 then none else some p
  | fuel + 1, p =>
    if p.maxFrames > 0 ∧ p.capture.audioBufferFrames ≠ 0 then
      (popChunk value mixers p).bind (popLoop value mixers fuel)
    else some p

/-- Each round but the last removes a header from the deque. -/
def popFuel (s : SourceAudioCapture) : Nat := s.audioBuffer.length + 1

def popAudio (value : UInt32 → ℚ) (s : SourceAudioCapture) (startTsIn : UInt64) (mixers : UInt32)
    (audioData : Mixes) : Option (UInt64 × PopState) :=
  let start : PopState := ⟨s, ⟨audioData, []⟩, audioOutputFrames, []⟩
  if !s.active then some (startTsIn, start)
  else if s.audioBufferFrames < audioOutputFrames then some (startTsIn, start)
  else (popLoop value mixers (popFuel s) start).map fun p => (startTsIn, p)

end SrcLink.AudioSource
