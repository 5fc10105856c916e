import SrcLink.Audio.FramingRuns

/-! # Re-blocking by `popAudio`

On an active `OutputAudioSource`, the pushed frames form one stream that
`popAudio` mixes into the output in blocks of `AUDIO_OUTPUT_FRAMES`. Each frame
is delivered once and in order, or discarded by an overflow. The sizes of the
chunks must fit 32 bits: beyond that the readers see less data than was pushed.
-/

namespace SrcLink.AudioSource

set_option autoImplicit false

open AudioCapture ByteLayout Reblocking StepSystem

/-- An `OutputAudioSource` whose audio output has been opened. -/
def Monitor.opened (samplesPerSec : UInt32) (speakers : SpeakerLayout) : Monitor :=
  ⟨{ SourceAudioCapture.create samplesPerSec speakers with active := true }, []⟩

/-- The events of such a source: pushes of complete chunks, and pops. -/
def Event.Complete (speakers : SpeakerLayout) : Event → Prop
  | .pushAudio audioData => ∀ i ∈ planes speakers.value, audioData.data i ≠ none
  | .popAudio _ _ _ => True
  | .setActive _ => False
  | .drain => False

/-- The size of the chunk does not wrap. -/
def Event.Sized (speakers : SpeakerLayout) : Event → Prop
  | .pushAudio audioData => speakers.value.toNat * audioData.frames.toNat * 4 < 2 ^ 32
  | _ => True

/-- The account of the stream, event by event. -/
def ledgerStep (samplesPerSec : UInt32) (speakers : SpeakerLayout) (l : Ledger Frame) :
    Event → Ledger Frame
  | .pushAudio audioData =>
    l.push maxAudioBufferFrames (Chunk.mk audioData samplesPerSec speakers).frames
  | .popAudio _ _ _ => l.pop audioOutputFrames
  | .setActive _ => l
  | .drain => l

/-- `popAudio` mixes in the oldest pending frames: each selected position gets its sample in one
write, and the loop ends, however many rounds it is given. -/
structure Delivers (value : UInt32 → ℚ) (s : SourceAudioCapture) (pending : List Frame)
    (mixers : UInt32) (audioData : Mixes) (p : PopState) : Prop where
  ends : ∀ fuel, popFuel s ≤ fuel → popLoop value mixers fuel
    ⟨s, ⟨audioData, []⟩, audioOutputFrames, []⟩ = some p
  consumed : p.capture.audioBufferFrames + audioOutputFrames = s.audioBufferFrames
  mixed : ∀ tr ∈ tracks mixers, ∀ ch ∈ planes s.speakers.value, ∀ i < audioOutputFrames,
    ∃ bits, pending[i]?.bind (· ch) = some bits ∧
      p.mixer.out tr ch i = clamp (audioData tr ch i + value bits)
  written : ∀ tr ch i, p.mixer.writes.count (tr, ch, i) =
    if tr ∈ tracks mixers ∧ ch ∈ planes s.speakers.value ∧ i < audioOutputFrames then 1 else 0
  untouched : ∀ tr ch i, ¬ (tr ∈ tracks mixers ∧ ch ∈ planes s.speakers.value ∧
    i < audioOutputFrames) → p.mixer.out tr ch i = audioData tr ch i

/-- The buffer holds the pending frames of the account, and a pop delivers a block or waits. -/
structure Reblocks (value : UInt32 → ℚ) (s : SourceAudioCapture) (l : Ledger Frame) : Prop where
  conserved : l.Conserved
  buffered : s.audioBufferFrames = l.pending.length
  waits : s.audioBufferFrames < audioOutputFrames → ∀ startTsIn mixers audioData,
    popAudio value s startTsIn mixers audioData =
      some (startTsIn, ⟨s, ⟨audioData, []⟩, audioOutputFrames, []⟩)
  delivers : audioOutputFrames ≤ s.audioBufferFrames → ∀ startTsIn mixers audioData,
    ∃ p, popAudio value s startTsIn mixers audioData = some (startTsIn, p) ∧
      Delivers value s l.pending mixers audioData p

/-- Every channel of the layout has a sample in every frame, and no other channel has. -/
def Filled (speakers : SpeakerLayout) (frame : Frame) : Prop :=
  ∀ ch, (frame ch).isSome ↔ ch ∈ planes speakers.value

theorem Chunk.filled {c : Chunk} (hComplete : ∀ i ∈ planes c.speakers.value,
    c.audioData.data i ≠ none) : ∀ frame ∈ c.frames, Filled c.speakers frame := by
  intro frame hFrame ch
  obtain ⟨k, hk, rfl⟩ := List.mem_map.mp hFrame
  by_cases hCh : ch ∈ planes c.speakers.value
  · obtain ⟨plane, hPlane⟩ := Option.ne_none_iff_exists'.mp (hComplete ch hCh)
    have hInside : k < plane.length := by
      rw [c.audioData.sized ch plane hPlane]
      exact List.mem_range.mp hk
    simp [hCh, hPlane, hInside]
  · simp [hCh]

/-- What links buffer, FIFO of chunks and account. -/
structure Accounts (samplesPerSec : UInt32) (speakers : SpeakerLayout) (s : Monitor)
    (l : Ledger Frame) : Prop where
  conserved : l.Conserved
  setup : SameSetup ⟨samplesPerSec, speakers, [], 0, [], true⟩ s.capture
  queued : ∃ queue, Sound s.capture queue ∧ l.pending = flatten Chunk.frames queue
  filled : ∀ frame ∈ l.pending, Filled speakers frame

section Account

variable {samplesPerSec : UInt32} {speakers : SpeakerLayout}

theorem accounts_opened :
    Accounts samplesPerSec speakers (Monitor.opened samplesPerSec speakers) Ledger.empty where
  conserved := Ledger.conserved_empty
  setup := ⟨rfl, rfl, rfl⟩
  queued := ⟨[], Sound.empty rfl rfl, rfl⟩
  filled := nofun

theorem Accounts.pushAudio {s : Monitor} {l : Ledger Frame} (h : Accounts samplesPerSec speakers s l)
    {audioData : AudioData} (hComplete : ∀ i ∈ planes speakers.value, audioData.data i ≠ none)
    (hSized : speakers.value.toNat * audioData.frames.toNat * 4 < 2 ^ 32) :
    Accounts samplesPerSec speakers
      { s with capture := AudioCapture.pushAudio s.capture audioData }
      (l.push maxAudioBufferFrames (Chunk.mk audioData samplesPerSec speakers).frames) := by
  obtain ⟨queue, hSound, hPending⟩ := h.queued
  have hChunk : chunkOf s.capture audioData = ⟨audioData, samplesPerSec, speakers⟩ := by
    rw [chunkOf, h.setup.samplesPerSec, h.setup.speakers]
  have hRegular : (chunkOf s.capture audioData).Regular := hChunk ▸ ⟨.inr hComplete, hSized⟩
  have hPush := hSound.pushAudio h.setup.active hRegular
  rw [hChunk] at hPush
  have hNew := Chunk.filled (c := ⟨audioData, samplesPerSec, speakers⟩) hComplete
  refine ⟨h.conserved.push .., h.setup.trans (pushAudio_setup ..), ⟨_, hPush, ?_⟩, ?_⟩
  · unfold Ledger.push pushQueue
    rw [hPending, Chunk.length_frames]
    split
    · simp [Cut.rest]
    · simp [Cut.rest]
  · unfold Ledger.push
    split
    · exact hNew
    · intro frame hFrame
      rcases List.mem_append.mp hFrame with hOld | hFrame
      · exact h.filled frame hOld
      · exact hNew frame hFrame

theorem Accounts.waits (value : UInt32 → ℚ) {s : Monitor} {l : Ledger Frame}
    (_ : Accounts samplesPerSec speakers s l) (hFew : s.capture.audioBufferFrames < audioOutputFrames)
    (startTsIn : UInt64) (mixers : UInt32) (audioData : Mixes) :
    popAudio value s.capture startTsIn mixers audioData =
      some (startTsIn, ⟨s.capture, ⟨audioData, []⟩, audioOutputFrames, []⟩) :=
  popAudio_waits value startTsIn mixers audioData (.inr hFew)

theorem Accounts.buffered {s : Monitor} {l : Ledger Frame}
    (h : Accounts samplesPerSec speakers s l) :
    s.capture.audioBufferFrames = l.pending.length := by
  obtain ⟨queue, hSound, hPending⟩ := h.queued
  rw [hSound.frames_eq, hPending]

/-- The stream starts at the first output position, so position `i` has the `i`-th frame. -/
theorem sampleAt_take {pending : List Frame} {n : Nat} (ch : Fin maxAvPlanes) (i : Nat) :
    sampleAt 0 (pending.take n) ch i = if i < n then pending[i]?.bind (· ch) else none := by
  rw [sampleAt, if_pos (Nat.zero_le _), Nat.sub_zero, List.getElem?_take]
  split <;> rfl

theorem Accounts.sample {s : Monitor} {l : Ledger Frame}
    (h : Accounts samplesPerSec speakers s l)
    (hEnough : audioOutputFrames ≤ s.capture.audioBufferFrames) (ch : Fin maxAvPlanes) (i : Nat) :
    (sampleAt 0 (l.pending.take audioOutputFrames) ch i).isSome ↔
      ch ∈ planes s.capture.speakers.value ∧ i < audioOutputFrames := by
  rw [sampleAt_take, h.setup.speakers]
  split
  · next hi =>
    have hInside : i < l.pending.length := by
      rw [← h.buffered]
      exact hi.trans_le hEnough
    rw [List.getElem?_eq_getElem hInside, Option.bind_some, and_iff_left hi]
    exact h.filled _ (List.getElem_mem hInside) ch
  · next hi => simp [hi]

theorem Accounts.delivers (value : UInt32 → ℚ) {s : Monitor} {l : Ledger Frame}
    (h : Accounts samplesPerSec speakers s l)
    (hEnough : audioOutputFrames ≤ s.capture.audioBufferFrames) (startTsIn : UInt64)
    (mixers : UInt32) (audioData : Mixes) :
    ∃ p, popAudio value s.capture startTsIn mixers audioData = some (startTsIn, p) ∧
      Delivers value s.capture l.pending mixers audioData p ∧
      Accounts samplesPerSec speakers ⟨p.capture, s.taken ++ p.taken⟩ (l.pop audioOutputFrames) := by
  obtain ⟨queue, hSound, hPending⟩ := h.queued
  obtain ⟨p, hPop, hEnds, hPopped⟩ := popAudio_delivers value hSound h.setup.active startTsIn mixers
    audioData hEnough
  have hLength : audioOutputFrames ≤ l.pending.length := h.buffered ▸ hEnough
  have hMixed := hPopped.mixed
  rw [← hPending] at hMixed
  have hSample := h.sample hEnough
  have hRest : flatten Chunk.frames (consume Chunk.frames audioOutputFrames queue).2 =
      l.pending.drop audioOutputFrames := by
    rw [flatten_consume, hPending]
  refine ⟨p, hPop, ⟨hEnds, ?_, ?_, ?_, ?_⟩, ?_⟩
  · rw [hPopped.sound.frames_eq, hRest, List.length_drop, h.buffered]
    exact Nat.sub_add_cancel hLength
  · intro tr hTr ch hCh i hi
    -- the block has a sample for every channel of the layout
    obtain ⟨bits, hBits⟩ := Option.isSome_iff_exists.mp ((hSample ch i).mpr ⟨hCh, hi⟩)
    refine ⟨bits, ?_, ?_⟩
    · rw [sampleAt_take, if_pos hi] at hBits
      exact hBits
    · refine (hMixed.out tr ch i).trans ?_
      rw [if_pos hTr]
      exact congrArg _ hBits
  · intro tr ch i
    refine (hMixed.writes tr ch i).trans ?_
    rw [List.count_nil, Nat.zero_add]
    exact if_congr (and_congr_right fun _ => hSample ch i) rfl rfl
  · intro tr ch i hOutside
    refine (hMixed.out tr ch i).trans ?_
    split
    · next hTr =>
      -- and for no other one
      have hNone : sampleAt 0 (l.pending.take audioOutputFrames) ch i = none := by
        rw [← Option.not_isSome_iff_eq_none, hSample ch i]
        exact fun hIn => hOutside ⟨hTr, hIn⟩
      exact congrArg (mixInto value (audioData tr ch i)) hNone
    · rfl
  · have hLedger : l.pop audioOutputFrames =
        { l with
          delivered := l.delivered ++ l.pending.take audioOutputFrames
          pending := l.pending.drop audioOutputFrames } := if_neg (Nat.not_lt.mpr hLength)
    refine ⟨h.conserved.pop _, h.setup.trans hPopped.setup, ⟨_, hPopped.sound, ?_⟩, ?_⟩
    · rw [hLedger]
      exact hRest.symm
    · rw [hLedger]
      exact fun frame hFrame => h.filled frame (List.mem_of_mem_drop hFrame)

theorem Accounts.reblocks (value : UInt32 → ℚ) {s : Monitor} {l : Ledger Frame}
    (h : Accounts samplesPerSec speakers s l) : Reblocks value s.capture l where
  conserved := h.conserved
  buffered := h.buffered
  waits := fun hFew => h.waits value hFew
  delivers := fun hEnough startTsIn mixers audioData => by
    obtain ⟨p, hPop, hDelivers, _⟩ := h.delivers value hEnough startTsIn mixers audioData
    exact ⟨p, hPop, hDelivers⟩

theorem Accounts.step (value : UInt32 → ℚ) {s : Monitor} {l : Ledger Frame} {e : Event}
    (h : Accounts samplesPerSec speakers s l) (hComplete : e.Complete speakers)
    (hSized : e.Sized speakers) :
    ∃ s', AudioSource.step value .output s e = some s' ∧
      Accounts samplesPerSec speakers s' (ledgerStep samplesPerSec speakers l e) := by
  cases e with
  | setActive active => cases hComplete
  | drain => cases hComplete
  | pushAudio audioData => exact ⟨_, rfl, h.pushAudio hComplete hSized⟩
  | popAudio startTsIn mixers audioData =>
    by_cases hEnough : audioOutputFrames ≤ s.capture.audioBufferFrames
    · obtain ⟨p, hPop, _, hAccounts⟩ := h.delivers value hEnough startTsIn mixers audioData
      refine ⟨_, ?_, hAccounts⟩
      rw [AudioSource.step, if_pos rfl, hPop]
      rfl
    · have hFew := Nat.not_le.mp hEnough
      have hLedger : ledgerStep samplesPerSec speakers l (.popAudio startTsIn mixers audioData) = l :=
        if_pos (h.buffered ▸ hFew)
      refine ⟨s, ?_, hLedger.symm ▸ h⟩
      rw [AudioSource.step, if_pos rfl, h.waits value hFew]
      simp

/-- Pushes of any complete chunks whose sizes fit 32 bits, and pops, in any order. -/
theorem reblocks_of_sized (value : UInt32 → ℚ) (samplesPerSec : UInt32) (speakers : SpeakerLayout)
    (es : List Event) (hComplete : ∀ e ∈ es, e.Complete speakers)
    (hSized : ∀ e ∈ es, e.Sized speakers) :
    ∃ s, run (step value .output) (Monitor.opened samplesPerSec speakers) es = some s ∧
      Reblocks value s.capture (es.foldl (ledgerStep samplesPerSec speakers) Ledger.empty) := by
  have hEach : ∀ s l e l', Accounts samplesPerSec speakers s l →
      e.Complete speakers ∧ e.Sized speakers →
      some (ledgerStep samplesPerSec speakers l e) = some l' →
      ∃ s', step value .output s e = some s' ∧ Accounts samplesPerSec speakers s' l' := by
    rintro s l e l' h ⟨hComplete, hSized⟩ hNext
    obtain rfl := Option.some.inj hNext
    exact h.step value hComplete hSized
  obtain ⟨s, hSame, hAccounts⟩ := run_simulates _ hEach es
    (meetsGuard_of_forall (fun e he _ => ⟨hComplete e he, hSized e he⟩) _) accounts_opened
    (run_total ..)
  exact ⟨s, hSame, hAccounts.reblocks value⟩

end Account

/-- Both planes of a stereo chunk hold the same sample over and over. -/
def constantChunk (frames : UInt32) (bits : UInt32) : AudioData where
  data _ := some (List.replicate frames.toNat bits)
  frames := frames
  timestamp := 0
  sized := by
    rintro i _ ⟨⟩
    exact List.length_replicate

theorem reblocks_of_sized_block :
    ∃ s, run (step (fun bits => bits.toNat) .output) (Monitor.opened 48000 .stereo)
        [.pushAudio (constantChunk 1500 1), .popAudio 0 1 fun _ _ _ => 0] = some s ∧
      Reblocks (fun bits => bits.toNat) s.capture
        ([.pushAudio (constantChunk 1500 1), .popAudio 0 1 fun _ _ _ => 0].foldl
          (ledgerStep 48000 .stereo) Ledger.empty) := by
  refine reblocks_of_sized (fun bits => bits.toNat) 48000 .stereo _ ?_ ?_
  · intro e he
    simp only [List.mem_cons, List.not_mem_nil, or_false] at he
    rcases he with rfl | rfl
    · exact fun _ _ => nofun
    · trivial
  · intro e he
    simp only [List.mem_cons, List.not_mem_nil, or_false] at he
    rcases he with rfl | rfl
    · exact (by decide : 2 * 1500 * 4 < 2 ^ 32)
    · trivial

section Oversized

theorem foldlM_mixSample_none (value : UInt32 → ℚ) {header : AudioBufferHeader} {conv : Bytes}
    {outOffset : Nat} {steps : List Position} {q : Position} (hq : q ∈ steps)
    (hFault : ∀ m, mixSample value header conv outOffset m q = none) (m : Mixer) :
    steps.foldlM (mixSample value header conv outOffset) m = none := by
  induction steps generalizing m with
  | nil => cases hq
  | cons q' steps ih =>
    rw [List.foldlM_cons]
    rcases List.mem_cons.mp hq with rfl | hq
    · rw [hFault]
      rfl
    · cases mixSample value header conv outOffset m q' with
      | none => rfl
      | some m' => exact ih hq m'

variable (value : UInt32 → ℚ) {audioData : AudioData}

/-- Two planes of `2 ^ 29` frames take `2 ^ 32` bytes, which all three computations wrap to zero. -/
theorem dataSize_oversized (hFrames : audioData.frames = 536870912) :
    (makeHeader 48000 .stereo audioData).dataSize = AudioBufferHeader.size := by
  change AudioBufferHeader.size + (SpeakerLayout.stereo.value * audioData.frames * 4).toNat = _
  rw [hFrames]
  rfl

theorem pushAudio_oversized (hFrames : audioData.frames = 536870912) :
    pushAudio (Monitor.opened 48000 .stereo).capture audioData =
      ⟨48000, .stereo, (makeHeader 48000 .stereo audioData).encode ++ payload .stereo audioData,
        536870912, List.replicate AudioBufferHeader.size 0, true⟩ := by
  have hFlush : flushIfFull (Monitor.opened 48000 .stereo).capture audioData =
      (Monitor.opened 48000 .stereo).capture := by
    unfold flushIfFull
    split <;> rfl
  have hToNat : audioData.frames.toNat = 536870912 := by
    rw [hFrames]
    rfl
  refine (if_pos rfl).trans ?_
  rw [hFlush]
  simp only [appendChunk, Monitor.opened, SourceAudioCapture.create,
    SourceAudioCapture.audioConvBufferSize, List.length_nil, hToNat, brealloc,
    dataSize_oversized hFrames, List.nil_append, Nat.sub_zero]
  rfl

theorem peekChunk_oversized (hFrames : audioData.frames = 536870912) :
    peekChunk (pushAudio (Monitor.opened 48000 .stereo).capture audioData) =
      some (makeHeader 48000 .stereo audioData, (makeHeader 48000 .stereo audioData).encode) := by
  have hPeek (conv : Bytes) (hConv : conv.length = AudioBufferHeader.size) :
      peekFront ((makeHeader 48000 .stereo audioData).encode ++ payload .stereo audioData) conv
        AudioBufferHeader.size = some (makeHeader 48000 .stereo audioData).encode := by
    rw [peekFront, if_pos ⟨by rw [List.length_append, AudioBufferHeader.length_encode]; omega,
      hConv.ge⟩, List.take_left' (AudioBufferHeader.length_encode _),
      List.drop_of_length_le hConv.le, List.append_nil]
  have hDecode : AudioBufferHeader.decode (makeHeader 48000 .stereo audioData).encode =
      makeHeader 48000 .stereo audioData := by
    simpa using AudioBufferHeader.decode_encode (makeHeader 48000 .stereo audioData) []
  rw [pushAudio_oversized hFrames]
  simp only [peekChunk, hPeek _ List.length_replicate, Option.bind_eq_bind, Option.bind_some,
    hDecode, dataSize_oversized hFrames, hPeek _ (AudioBufferHeader.length_encode _)]

theorem mixChunk_oversized (hPresent : ∀ i, audioData.data i ≠ none) (m : Mixer) :
    mixChunk value 1 (makeHeader 48000 .stereo audioData)
      (makeHeader 48000 .stereo audioData).encode 0 audioOutputFrames m = none := by
  obtain ⟨plane, hPlane⟩ := Option.ne_none_iff_exists'.mp (hPresent ⟨0, by decide⟩)
  have hIdx : ((makeHeader 48000 .stereo audioData).dataIdx ⟨0, by decide⟩).toNat =
      AudioBufferHeader.size := by
    change (dataIdx audioData (⟨0, by decide⟩ :: [⟨1, by decide⟩]) 0 ⟨0, by decide⟩).toNat = _
    rw [dataIdx_cons_some hPlane, Function.update_self, UInt32.zero_mul, UInt32.zero_mul]
    rfl
  have hMem : (0, ⟨0, by decide⟩, 0) ∈
      iterations 1 (makeHeader 48000 .stereo audioData) audioOutputFrames := by
    have hPlane : (⟨0, by decide⟩ : Fin maxAvPlanes) ∈ planes SpeakerLayout.stereo.value := by decide
    refine mem_iterations.mpr ⟨by decide, ⟨hPlane, ?_⟩, by decide⟩
    intro hZero
    rw [hZero] at hIdx
    exact absurd hIdx (by decide)
  refine (if_neg ?_).trans (foldlM_mixSample_none value hMem (fun m => ?_) m)
  · exact fun h => absurd h.2 (by decide : ¬ 8 < 2)
  · have hOutside : wordAt 4 (makeHeader 48000 .stereo audioData).encode
        (((makeHeader 48000 .stereo audioData).dataIdx ⟨0, by decide⟩).toNat + 4 * (0 + 0)) = none := by
      rw [hIdx, wordAt, AudioBufferHeader.length_encode]
      exact if_neg (by decide)
    rw [mixSample]
    change (wordAt 4 _ (_ + 4 * (0 + 0))).bind _ = none
    rw [hOutside, Option.bind_none]

theorem popAudio_oversized (hFrames : audioData.frames = 536870912)
    (hPresent : ∀ i, audioData.data i ≠ none) :
    popAudio value (pushAudio (Monitor.opened 48000 .stereo).capture audioData) 0 1
      (fun _ _ _ => 0) = none := by
  have hToNat : (makeHeader 48000 .stereo audioData).frames.toNat = 536870912 := by
    change audioData.frames.toNat = _
    rw [hFrames]
    rfl
  have hOffset : (makeHeader 48000 .stereo audioData).offset.toNat = 0 := rfl
  have hChunk : ∀ m taken, popChunk value 1
      ⟨pushAudio (Monitor.opened 48000 .stereo).capture audioData, m, audioOutputFrames, taken⟩ =
      none := by
    intro m taken
    simp only [popChunk, peekChunk_oversized hFrames, Option.bind_eq_bind, Option.bind_some, hToNat,
      hOffset]
    rw [if_pos (by decide), Nat.sub_self, mixChunk_oversized value hPresent, Option.bind_none]
  have hSome : (pushAudio (Monitor.opened 48000 .stereo).capture audioData).audioBufferFrames =
      536870912 := by
    rw [pushAudio_oversized hFrames]
  have hActive : (pushAudio (Monitor.opened 48000 .stereo).capture audioData).active = true := by
    rw [pushAudio_oversized hFrames]
  simp only [popAudio, hActive, Bool.not_true, Bool.false_eq_true, if_false, hSome]
  have hPos : 0 < audioOutputFrames := by decide
  rw [if_neg (by decide), popFuel, popLoop_round value 1 hPos (by rw [hSome]; decide), hChunk]
  rfl

/-- A pop after such a push reads outside its buffer instead of delivering. -/
theorem not_reblocks :
    ¬ ∀ (value : UInt32 → ℚ) (samplesPerSec : UInt32) (speakers : SpeakerLayout) (es : List Event),
      (∀ e ∈ es, e.Complete speakers) →
        ∃ s, run (step value .output) (Monitor.opened samplesPerSec speakers) es = some s ∧
          Reblocks value s.capture
            (es.foldl (ledgerStep samplesPerSec speakers) Ledger.empty) := by
  intro hAll
  obtain ⟨s, hRun, hReblocks⟩ := hAll (fun _ => 0) 48000 .stereo
    [.pushAudio (constantChunk 536870912 0)] (by
      intro e he
      rw [List.mem_singleton.mp he]
      exact fun _ _ => Option.some_ne_none _)
  obtain rfl := Option.some.inj hRun
  have hEnough : audioOutputFrames ≤ (pushAudio (Monitor.opened 48000 .stereo).capture
      (constantChunk 536870912 0)).audioBufferFrames := by
    rw [pushAudio_oversized rfl]
    decide
  obtain ⟨p, hPop, _⟩ := hReblocks.delivers hEnough 0 1 fun _ _ _ => 0
  have hFault : popAudio (fun _ => 0) (pushAudio (Monitor.opened 48000 .stereo).capture
      (constantChunk 536870912 0)) 0 1 (fun _ _ _ => 0) = none :=
    popAudio_oversized _ rfl fun _ => Option.some_ne_none _
  exact Option.some_ne_none _ (hPop.symm.trans hFault)

end Oversized

end SrcLink.AudioSource
