import SrcLink.Library.StepSystem
import SrcLink.Audio.Mixing

/-! # Framing of the audio buffer

The byte deque is the concatenation of the encodings of the pending chunks,
through pushes, overflows, partial reads and both kinds of consumer, as long as
the chunks are regular. A pushed chunk without one of its planes is encoded
shorter than the readers expect, and shifts all that follows.
-/

namespace SrcLink.AudioSource

set_option autoImplicit false

open AudioCapture ByteLayout Reblocking StepSystem

structure Framed (s : SourceAudioCapture) (queue : List Pending) : Prop where
  bytes : s.audioBuffer = queue.flatMap encodeChunk
  frames : s.audioBufferFrames =
    (queue.map fun p => p.chunk.audioData.frames.toNat - p.offset).sum
  fits : ∀ p ∈ queue, (encodeChunk p).length ≤ s.audioConvBufferSize

/-- What keeps the framing: regular chunks of one layout, offsets within them. -/
structure Sound (s : SourceAudioCapture) (queue : List Pending) : Prop extends Framed s queue where
  regular : ∀ p ∈ queue, p.chunk.Regular
  within : ∀ p ∈ queue, p.offset ≤ p.chunk.audioData.frames.toNat
  speakers : ∀ p ∈ queue, p.chunk.speakers = s.speakers
  bounded : s.audioBufferFrames < 2 ^ 32

theorem sizeAdd_eq {a b : Nat} (h : a + b < 2 ^ 64) : sizeAdd a b = a + b := Nat.mod_eq_of_lt h

theorem sizeSub_eq {a b : Nat} (hLe : b ≤ a) (h : a < 2 ^ 64) : sizeSub a b = a - b := by
  rw [sizeSub, show a + (2 ^ 64 - b) = a - b + 2 ^ 64 by omega, Nat.add_mod_right]
  exact Nat.mod_eq_of_lt (by omega)

@[simp] theorem length_rest (p : Pending) :
    (p.rest Chunk.frames).length = p.chunk.audioData.frames.toNat - p.offset := by
  simp [Cut.rest]

theorem length_flatten_frames (queue : List Pending) : (flatten Chunk.frames queue).length =
    (queue.map fun p => p.chunk.audioData.frames.toNat - p.offset).sum := by
  rw [length_flatten]
  simp only [length_rest]

theorem Framed.frames_eq {s : SourceAudioCapture} {queue : List Pending} (h : Framed s queue) :
    s.audioBufferFrames = (flatten Chunk.frames queue).length := by
  rw [h.frames, length_flatten_frames]

theorem size_le_encodeChunk (p : Pending) : AudioBufferHeader.size ≤ (encodeChunk p).length := by
  rw [encodeChunk, List.length_append, AudioBufferHeader.length_encode]
  exact Nat.le_add_right ..

theorem length_le_encode (queue : List Pending) :
    queue.length ≤ (queue.flatMap encodeChunk).length := by
  induction queue with
  | nil => exact le_rfl
  | cons p queue ih =>
    have hSize := size_le_encodeChunk p
    have hPos : 0 < AudioBufferHeader.size := by decide
    rw [List.length_cons, List.flatMap_cons, List.length_append]
    omega

section Push

/-- The overflow rule of `pushAudio`, on whole chunks. -/
def pushQueue (queue : List Pending) (c : Chunk) : List Pending :=
  if maxAudioBufferFrames < (flatten Chunk.frames queue).length + c.audioData.frames.toNat then
    [⟨c, 0⟩]
  else queue ++ [⟨c, 0⟩]

def chunkOf (s : SourceAudioCapture) (audioData : AudioData) : Chunk :=
  ⟨audioData, s.samplesPerSec, s.speakers⟩

theorem encodeChunk_new (c : Chunk) : encodeChunk ⟨c, 0⟩ =
    (makeHeader c.samplesPerSec c.speakers c.audioData).encode ++
      payload c.speakers c.audioData := rfl

theorem length_brealloc (buffer : Bytes) (size : Nat) :
    (brealloc buffer size).length = max buffer.length size := by
  rw [brealloc, List.length_append, List.length_replicate]
  omega

theorem Sound.empty {s : SourceAudioCapture} (hBuffer : s.audioBuffer = [])
    (hFrames : s.audioBufferFrames = 0) : Sound s [] where
  bytes := hBuffer
  frames := hFrames
  fits := nofun
  regular := nofun
  within := nofun
  speakers := nofun
  bounded := by rw [hFrames]; decide

theorem Sound.appendChunk {s : SourceAudioCapture} {queue : List Pending} (h : Sound s queue)
    {audioData : AudioData} (hRegular : (chunkOf s audioData).Regular)
    (hRoom : s.audioBufferFrames + audioData.frames.toNat < 2 ^ 32) :
    Sound (appendChunk s audioData) (queue ++ [⟨chunkOf s audioData, 0⟩]) := by
  have hFrames : (AudioCapture.appendChunk s audioData).audioBufferFrames =
      s.audioBufferFrames + audioData.frames.toNat := sizeAdd_eq (by omega)
  -- the conversion buffer grows to the largest chunk so far
  have hSize : (AudioCapture.appendChunk s audioData).audioConvBufferSize =
      max s.audioConvBufferSize (encodeChunk ⟨chunkOf s audioData, 0⟩).length := by
    have hDataSize : (makeHeader s.samplesPerSec s.speakers audioData).dataSize =
        (encodeChunk ⟨chunkOf s audioData, 0⟩).length :=
      dataSize_eq (p := ⟨chunkOf s audioData, 0⟩) hRegular
    simp only [AudioCapture.appendChunk, hDataSize]
    split
    case isTrue => exact length_brealloc ..
    case isFalse hEnough => exact (max_eq_left (Nat.not_lt.mp hEnough)).symm
  refine ⟨⟨?_, ?_, ?_⟩, ?_, ?_, ?_, hFrames ▸ hRoom⟩
  · rw [List.flatMap_append, List.flatMap_singleton, encodeChunk_new, ← h.bytes,
      ← List.append_assoc]
    rfl
  · rw [hFrames, h.frames, List.map_append, List.sum_append_nat]
    rfl
  · intro p hp
    rw [hSize]
    rcases List.mem_append.mp hp with hp | hp
    · exact (h.fits p hp).trans (le_max_left ..)
    · rw [List.mem_singleton.mp hp]
      exact le_max_right ..
  · intro p hp
    rcases List.mem_append.mp hp with hp | hp
    · exact h.regular p hp
    · exact List.mem_singleton.mp hp ▸ hRegular
  · intro p hp
    rcases List.mem_append.mp hp with hp | hp
    · exact h.within p hp
    · exact List.mem_singleton.mp hp ▸ Nat.zero_le _
  · intro p hp
    rcases List.mem_append.mp hp with hp | hp
    · exact h.speakers p hp
    · rw [List.mem_singleton.mp hp]
      rfl

theorem Sound.pushAudio {s : SourceAudioCapture} {queue : List Pending} (h : Sound s queue)
    {audioData : AudioData} (hActive : s.active = true)
    (hRegular : (chunkOf s audioData).Regular) :
    Sound (pushAudio s audioData) (pushQueue queue (chunkOf s audioData)) := by
  have hLt : audioData.frames.toNat < 2 ^ 32 := UInt32.toNat_lt _
  have hBounded := h.bounded
  have hCheck : sizeAdd s.audioBufferFrames audioData.frames.toNat =
      (flatten Chunk.frames queue).length + audioData.frames.toNat := by
    rw [sizeAdd_eq (by omega), h.frames_eq]
  rw [AudioCapture.pushAudio, if_pos hActive, flushIfFull, hCheck]
  split
  case isTrue hFull =>
    rw [show pushQueue queue (chunkOf s audioData) = _ from if_pos hFull]
    have hEmpty : Sound { s with audioBuffer := [], audioBufferFrames := 0 } [] :=
      Sound.empty rfl rfl
    refine hEmpty.appendChunk hRegular ?_
    rw [Nat.zero_add]
    exact hLt
  case isFalse hFree =>
    rw [show pushQueue queue (chunkOf s audioData) = _ from if_neg hFree]
    refine h.appendChunk hRegular ?_
    have hMax : maxAudioBufferFrames = 131071 := rfl
    rw [h.frames_eq]
    omega

end Push

/-- The consumers leave alone what only the constructor and `setActive` set. -/
structure SameSetup (s s' : SourceAudioCapture) : Prop where
  samplesPerSec : s'.samplesPerSec = s.samplesPerSec
  speakers : s'.speakers = s.speakers
  active : s'.active = s.active

theorem SameSetup.trans {s s' s'' : SourceAudioCapture} (h : SameSetup s s')
    (h' : SameSetup s' s'') : SameSetup s s'' :=
  ⟨h'.samplesPerSec.trans h.samplesPerSec, h'.speakers.trans h.speakers, h'.active.trans h.active⟩

section Front

variable {s : SourceAudioCapture} {front : Pending} {queue : List Pending}

theorem Sound.peek (h : Sound s (front :: queue)) :
    peekChunk s = some (headerOf front,
      encodeChunk front ++ s.audioConvBuffer.drop (encodeChunk front).length) :=
  peekChunk_encodeChunk (h.regular _ List.mem_cons_self) h.bytes (h.fits _ List.mem_cons_self)

theorem Sound.conv_length (h : Sound s (front :: queue)) :
    (encodeChunk front ++ s.audioConvBuffer.drop (encodeChunk front).length).length =
      s.audioConvBufferSize := by
  rw [List.length_append, List.length_drop]
  exact Nat.add_sub_cancel' (h.fits _ List.mem_cons_self)

theorem Sound.frames_cons (h : Sound s (front :: queue)) :
    s.audioBufferFrames = (front.chunk.audioData.frames.toNat - front.offset) +
      (flatten Chunk.frames queue).length := by
  rw [h.frames_eq, flatten_cons, List.length_append, length_rest]

theorem Sound.remove (h : Sound s (front :: queue)) {s' : SourceAudioCapture}
    (hBuffer : s'.audioBuffer = s.audioBuffer.drop (headerOf front).dataSize)
    (hConv : s'.audioConvBufferSize = s.audioConvBufferSize)
    (hFrames : s'.audioBufferFrames =
      s.audioBufferFrames - (front.chunk.audioData.frames.toNat - front.offset))
    (hSpeakers : s'.speakers = s.speakers) : Sound s' queue := by
  have hBefore := h.frames_cons
  have hBounded := h.bounded
  refine ⟨⟨?_, ?_, ?_⟩, ?_, ?_, ?_, by omega⟩
  · rw [hBuffer, h.bytes, dataSize_eq (h.regular _ List.mem_cons_self), List.flatMap_cons,
      List.drop_left]
  · rw [hFrames, hBefore, Nat.add_sub_cancel_left, length_flatten_frames]
  · exact fun p hp => hConv ▸ h.fits p (List.mem_cons_of_mem _ hp)
  · exact fun p hp => h.regular p (List.mem_cons_of_mem _ hp)
  · exact fun p hp => h.within p (List.mem_cons_of_mem _ hp)
  · exact fun p hp => hSpeakers ▸ h.speakers p (List.mem_cons_of_mem _ hp)

theorem encodeChunk_drop_size (p : Pending) (rest : Bytes) :
    (encodeChunk p ++ rest).drop AudioBufferHeader.size =
      payload p.chunk.speakers p.chunk.audioData ++ rest := by
  rw [encodeChunk, List.append_assoc, List.drop_left' (AudioBufferHeader.length_encode _)]

theorem headerOf_move (front : Pending) (n : Nat) :
    { headerOf front with offset := (headerOf front).offset + UInt64.ofNat n } =
      headerOf { front with offset := front.offset + n } := by
  have hOffset : (headerOf front).offset + UInt64.ofNat n = UInt64.ofNat (front.offset + n) :=
    (UInt64.ofNat_add ..).symm
  rw [hOffset]
  rfl

theorem encodeChunk_move (p : Pending) (offset : Nat) :
    encodeChunk { p with offset } =
      (headerOf { p with offset }).encode ++ payload p.chunk.speakers p.chunk.audioData := rfl

theorem length_encodeChunk_move (p : Pending) (offset : Nat) :
    (encodeChunk { p with offset }).length = (encodeChunk p).length := by
  rw [encodeChunk_move, encodeChunk, List.length_append, List.length_append,
    AudioBufferHeader.length_encode, AudioBufferHeader.length_encode]

theorem Sound.move (h : Sound s (front :: queue)) {n : Nat} {s' : SourceAudioCapture}
    (hWithin : front.offset + n ≤ front.chunk.audioData.frames.toNat)
    (hBuffer : s'.audioBuffer = (headerOf { front with offset := front.offset + n }).encode ++
      s.audioBuffer.drop AudioBufferHeader.size)
    (hConv : s'.audioConvBufferSize = s.audioConvBufferSize)
    (hFrames : s'.audioBufferFrames = s.audioBufferFrames - n)
    (hSpeakers : s'.speakers = s.speakers) :
    Sound s' ({ front with offset := front.offset + n } :: queue) := by
  have hBefore := h.frames_cons
  have hBounded := h.bounded
  refine ⟨⟨?_, ?_, ?_⟩, ?_, ?_, ?_, by omega⟩
  · rw [hBuffer, h.bytes, List.flatMap_cons, encodeChunk_drop_size, List.flatMap_cons,
      encodeChunk_move, List.append_assoc]
  · rw [hFrames, hBefore, List.map_cons, List.sum_cons, ← length_flatten_frames]
    change _ = front.chunk.audioData.frames.toNat - (front.offset + n) + _
    omega
  · intro p hp
    rw [hConv]
    rcases List.mem_cons.mp hp with rfl | hp
    · exact (length_encodeChunk_move ..).trans_le (h.fits _ List.mem_cons_self)
    · exact h.fits p (List.mem_cons_of_mem _ hp)
  · intro p hp
    rcases List.mem_cons.mp hp with rfl | hp
    · exact h.regular front List.mem_cons_self
    · exact h.regular p (List.mem_cons_of_mem _ hp)
  · intro p hp
    rcases List.mem_cons.mp hp with rfl | hp
    · exact hWithin
    · exact h.within p (List.mem_cons_of_mem _ hp)
  · intro p hp
    rw [hSpeakers]
    rcases List.mem_cons.mp hp with rfl | hp
    · exact h.speakers front List.mem_cons_self
    · exact h.speakers p (List.mem_cons_of_mem _ hp)

/-- A round of the thread's loop passes on the front chunk, which no one has cut. -/
theorem Sound.drain (h : Sound s (front :: queue)) (hWhole : front.offset = 0)
    (hSome : s.audioBufferFrames ≠ 0) :
    ∃ s', drain s = some (s', some ⟨some front.chunk.view, s.audioBufferFrames,
        front.chunk.audioData.frames.toNat⟩) ∧
      Sound s' queue ∧ SameSetup s s' ∧
      front.chunk.audioData.frames.toNat ≤ s.audioBufferFrames := by
  have hBefore := h.frames_cons
  have hBounded := h.bounded
  have hLe : front.chunk.audioData.frames.toNat ≤ s.audioBufferFrames := by omega
  have hView := viewChunk_encodeChunk
    (s.audioConvBuffer.drop (encodeChunk front).length) (h.regular _ List.mem_cons_self)
  refine ⟨{ s with
      audioBuffer := s.audioBuffer.drop (headerOf front).dataSize
      audioConvBuffer := encodeChunk front ++ s.audioConvBuffer.drop (encodeChunk front).length
      audioBufferFrames := sizeSub s.audioBufferFrames front.chunk.audioData.frames.toNat },
    ?_, h.remove rfl h.conv_length ?_ rfl, ⟨rfl, rfl, rfl⟩, hLe⟩
  · rw [AudioCapture.drain, if_neg hSome, h.peek]
    simp only [Option.bind_eq_bind, Option.bind_some, hView]
    rfl
  · rw [hWhole, Nat.sub_zero]
    exact sizeSub_eq hLe (by omega)

end Front

section Pop

variable (value : UInt32 → ℚ) (mixers : UInt32)

theorem Sound.chunkFrames {s : SourceAudioCapture} {front : Pending} {queue : List Pending}
    (h : Sound s (front :: queue)) :
    sizeSub (headerOf front).frames.toNat (headerOf front).offset.toNat =
      front.chunk.audioData.frames.toNat - front.offset := by
  have hWithin := h.within _ List.mem_cons_self
  have hLt : front.chunk.audioData.frames.toNat < 2 ^ 32 := UInt32.toNat_lt _
  rw [headerOf_offset hWithin]
  exact sizeSub_eq hWithin (Nat.lt_trans hLt (by decide))

/-- What a run of the loop does, in terms of the chunks it touches and the frames it mixes. -/
structure Popped (queue : List Pending) (p p' : PopState) : Prop where
  sound : Sound p'.capture (consume Chunk.frames p.maxFrames queue).2
  mixed : Mixed value mixers (audioOutputFrames - p.maxFrames)
    ((flatten Chunk.frames queue).take p.maxFrames) p.mixer p'.mixer
  taken : ∃ new, p'.taken = p.taken ++ new ∧
    new.map Take.chunk = (consume Chunk.frames p.maxFrames queue).1.map (fun c => some c.view) ∧
    ∀ t ∈ new, t.decrement ≤ t.framesBefore
  setup : SameSetup p.capture p'.capture

/-- The variables of the loop after a round that takes `n` frames of the front chunk. -/
def afterRound (p : PopState) (front : Pending) (n : Nat) (m : Mixer) : PopState where
  capture := advanceChunk p.capture (headerOf front)
    (encodeChunk front ++ p.capture.audioConvBuffer.drop (encodeChunk front).length)
    (front.chunk.audioData.frames.toNat - front.offset) n
  mixer := m
  maxFrames := p.maxFrames - n
  taken := p.taken ++ [⟨some front.chunk.view, p.capture.audioBufferFrames, n⟩]

theorem popChunk_eq {p : PopState} {front : Pending} {queue : List Pending} {n : Nat}
    (h : Sound p.capture (front :: queue)) (hRoom : p.maxFrames ≤ audioOutputFrames)
    (hn : n = min (front.chunk.audioData.frames.toNat - front.offset) p.maxFrames) :
    ∃ m', popChunk value mixers p = some (afterRound p front n m') ∧
      Mixed value mixers (audioOutputFrames - p.maxFrames) ((front.rest Chunk.frames).take n)
        p.mixer m' := by
  have hRegular := h.regular _ List.mem_cons_self
  have hWithin := h.within _ List.mem_cons_self
  have hMin : (if front.chunk.audioData.frames.toNat - front.offset > p.maxFrames then p.maxFrames
      else front.chunk.audioData.frames.toNat - front.offset) = n := by
    rw [hn]
    split <;> omega
  obtain ⟨m', hMix, hMixed⟩ := mixChunk_encodeChunk value mixers
    (audioOutputFrames - p.maxFrames) (n := n)
    (p.capture.audioConvBuffer.drop (encodeChunk front).length) p.mixer hRegular (by omega) (by omega)
  refine ⟨m', ?_, hMixed⟩
  simp only [popChunk, h.peek, Option.bind_eq_bind, Option.bind_some, h.chunkFrames, hMin, hMix,
    viewChunk_encodeChunk _ hRegular, afterRound]

theorem Sound.advance_whole {s : SourceAudioCapture} {front : Pending} {queue : List Pending}
    (h : Sound s (front :: queue)) {conv : Bytes} (hConv : conv.length = s.audioConvBufferSize) :
    Sound (advanceChunk s (headerOf front) conv
      (front.chunk.audioData.frames.toNat - front.offset)
      (front.chunk.audioData.frames.toNat - front.offset)) queue := by
  have hBefore := h.frames_cons
  have hBounded := h.bounded
  rw [advanceChunk, if_pos rfl]
  exact h.remove rfl hConv (sizeSub_eq (by omega) (by omega)) rfl

theorem Sound.advance_part {s : SourceAudioCapture} {front : Pending} {queue : List Pending}
    (h : Sound s (front :: queue)) {conv : Bytes} {n : Nat}
    (hConv : conv.length = s.audioConvBufferSize)
    (hPart : n < front.chunk.audioData.frames.toNat - front.offset) :
    Sound (advanceChunk s (headerOf front) conv
      (front.chunk.audioData.frames.toNat - front.offset) n)
      ({ front with offset := front.offset + n } :: queue) := by
  have hBefore := h.frames_cons
  have hBounded := h.bounded
  have hSize := (size_le_encodeChunk front).trans (h.fits _ List.mem_cons_self)
  rw [advanceChunk, if_neg (by omega), headerOf_move]
  refine h.move (by omega) rfl ?_ (sizeSub_eq (by omega) (by omega)) rfl
  change ((headerOf _).encode ++ conv.drop AudioBufferHeader.size).length = _
  rw [List.length_append, AudioBufferHeader.length_encode, List.length_drop, hConv]
  exact Nat.add_sub_cancel' hSize

theorem advanceChunk_setup (s : SourceAudioCapture) (header : AudioBufferHeader) (conv : Bytes)
    (chunkFrames frames : Nat) : SameSetup s (advanceChunk s header conv chunkFrames frames) := by
  unfold advanceChunk
  split <;> exact ⟨rfl, rfl, rfl⟩

theorem popLoop_done {fuel : Nat} {p : PopState} (hDone : p.maxFrames = 0) :
    popLoop value mixers fuel p = some p := by
  cases fuel <;> simp [popLoop, hDone]

theorem popLoop_round {fuel : Nat} {p : PopState} (hPos : 0 < p.maxFrames)
    (hSome : p.capture.audioBufferFrames ≠ 0) :
    popLoop value mixers (fuel + 1) p = (popChunk value mixers p).bind (popLoop value mixers fuel) :=
  if_pos ⟨hPos, hSome⟩

/-- With enough frames pending, the loop takes exactly what it wants, chunk by chunk. -/
theorem popLoop_spec (queue : List Pending) {p : PopState} {fuel : Nat}
    (h : Sound p.capture queue) (hRoom : p.maxFrames ≤ audioOutputFrames)
    (hEnough : p.maxFrames ≤ (flatten Chunk.frames queue).length) (hFuel : queue.length ≤ fuel) :
    ∃ p', popLoop value mixers fuel p = some p' ∧ Popped value mixers queue p p' := by
  induction queue generalizing p fuel with
  | nil =>
    have hDone : p.maxFrames = 0 := Nat.le_zero.mp hEnough
    refine ⟨p, popLoop_done value mixers hDone, h, ?_, ⟨[], by simp, rfl, nofun⟩, ⟨rfl, rfl, rfl⟩⟩
    rw [flatten_nil, List.take_nil]
    exact .refl ..
  | cons front queue ih =>
    rcases Nat.eq_zero_or_pos p.maxFrames with hDone | hPos
    · refine ⟨p, popLoop_done value mixers hDone, ?_, ?_, ⟨[], by simp, ?_, nofun⟩, ⟨rfl, rfl, rfl⟩⟩
      · rw [hDone, consume_zero]
        exact h
      · rw [hDone, List.take_zero]
        exact .refl ..
      · rw [hDone, consume_zero]
        rfl
    · have hTotal := h.frames_cons
      rw [flatten_cons, List.length_append, length_rest] at hEnough
      have hSome : p.capture.audioBufferFrames ≠ 0 := by omega
      obtain ⟨fuel, rfl⟩ := Nat.exists_eq_succ_of_ne_zero
        (Nat.ne_of_gt (Nat.lt_of_lt_of_le (Nat.succ_pos _) hFuel))
      rw [popLoop_round value mixers hPos hSome]
      by_cases hWhole : front.chunk.audioData.frames.toNat - front.offset ≤ p.maxFrames
      · -- the chunk is used up, the rest of the queue serves the rest of the block
        obtain ⟨m', hChunk, hMixed⟩ := popChunk_eq value mixers h hRoom
          (min_eq_left hWhole).symm
        have hLength : (front.rest Chunk.frames).length ≤ p.maxFrames := by rwa [length_rest]
        have hTake : (front.rest Chunk.frames).take
            (front.chunk.audioData.frames.toNat - front.offset) = front.rest Chunk.frames :=
          List.take_of_length_le (length_rest front).le
        rw [hTake] at hMixed
        rw [hChunk, Option.bind_some]
        obtain ⟨p', hLoop, hPopped⟩ := ih (p := afterRound p front _ m')
          (h.advance_whole h.conv_length) ((Nat.sub_le ..).trans hRoom)
          (Nat.sub_le_iff_le_add'.mpr hEnough) (Nat.le_of_succ_le_succ hFuel)
        obtain ⟨new, hNew, hViews, hDecrements⟩ := hPopped.taken
        refine ⟨p', hLoop, ?_, ?_, ⟨⟨some front.chunk.view, p.capture.audioBufferFrames,
          front.chunk.audioData.frames.toNat - front.offset⟩ :: new, ?_, ?_, ?_⟩,
          (advanceChunk_setup ..).trans hPopped.setup⟩
        · rw [consume_whole _ _ hPos hLength, length_rest]
          exact hPopped.sound
        · rw [flatten_cons, List.take_append, List.take_of_length_le hLength]
          refine hMixed.append ?_
          have hStart : audioOutputFrames - p.maxFrames + (front.rest Chunk.frames).length =
              audioOutputFrames -
                (p.maxFrames - (front.chunk.audioData.frames.toNat - front.offset)) := by
            rw [length_rest]
            omega
          rw [hStart, length_rest]
          exact hPopped.mixed
        · rw [hNew]
          exact List.append_assoc ..
        · rw [consume_whole _ _ hPos hLength, length_rest, List.map_cons, List.map_cons]
          exact congrArg _ hViews
        · intro t ht
          rcases List.mem_cons.mp ht with rfl | ht
          · simp only
            omega
          · exact hDecrements t ht
      · -- the chunk covers the rest of the block and stays in front
        have hPart := Nat.not_le.mp hWhole
        obtain ⟨m', hChunk, hMixed⟩ := popChunk_eq value mixers h hRoom
          (min_eq_right hPart.le).symm
        have hLength : p.maxFrames < (front.rest Chunk.frames).length := by rwa [length_rest]
        rw [hChunk, Option.bind_some, popLoop_done value mixers (Nat.sub_self _)]
        refine ⟨_, rfl, ?_, ?_, ⟨[⟨some front.chunk.view, p.capture.audioBufferFrames,
          p.maxFrames⟩], rfl, ?_, ?_⟩, advanceChunk_setup ..⟩
        · rw [consume_part _ _ hPos hLength]
          exact h.advance_part h.conv_length hPart
        · rw [flatten_cons, List.take_append_of_le_length hLength.le]
          exact hMixed
        · rw [consume_part _ _ hPos hLength]
          rfl
        · intro t ht
          rw [List.mem_singleton.mp ht]
          simp only
          omega

end Pop

end SrcLink.AudioSource
