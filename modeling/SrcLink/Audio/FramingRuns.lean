import SrcLink.Audio.ChunkFraming

/-! # Runs of an audio capture and its consumer

A capture has one consumer, an `OutputAudioSource` or a `SourceAudioThread`.
Its runs follow those of a FIFO of whole chunks, as long as every pushed chunk
is regular.
-/

namespace SrcLink.AudioSource

set_option autoImplicit false

open AudioCapture ByteLayout Reblocking StepSystem

theorem popAudio_waits (value : UInt32 → ℚ) {s : SourceAudioCapture} (startTsIn : UInt64)
    (mixers : UInt32) (audioData : Mixes)
    (hWait : s.active = false ∨ s.audioBufferFrames < audioOutputFrames) :
    popAudio value s startTsIn mixers audioData =
      some (startTsIn, ⟨s, ⟨audioData, []⟩, audioOutputFrames, []⟩) := by
  unfold popAudio
  rcases hWait with hInactive | hFew
  · rw [hInactive]
    rfl
  · cases s.active with
    | false => rfl
    | true => exact if_pos hFew

/-- A loop that ends within some number of rounds ends alike within any larger number. -/
theorem popLoop_mono (value : UInt32 → ℚ) (mixers : UInt32) {fuel fuel' : Nat} {p p' : PopState}
    (hLe : fuel ≤ fuel') (h : popLoop value mixers fuel p = some p') :
    popLoop value mixers fuel' p = some p' := by
  induction fuel generalizing fuel' p with
  | zero =>
    rw [popLoop] at h
    split at h
    · cases h
    · next hDone =>
      cases fuel' with
      | zero => exact (if_neg hDone).trans h
      | succ fuel' => exact (if_neg hDone).trans h
  | succ fuel ih =>
    obtain ⟨fuel', rfl⟩ := Nat.exists_eq_succ_of_ne_zero (Nat.ne_of_gt (Nat.lt_of_lt_of_le
      (Nat.succ_pos _) hLe))
    rw [popLoop] at h ⊢
    split at h
    · next hMore =>
      obtain ⟨q, hChunk, hRest⟩ := Option.bind_eq_some_iff.mp h
      rw [if_pos hMore, hChunk]
      exact ih (Nat.le_of_succ_le_succ hLe) hRest
    · next hDone => exact (if_neg hDone).trans h

theorem popAudio_delivers (value : UInt32 → ℚ) {s : SourceAudioCapture} {queue : List Pending}
    (h : Sound s queue) (hActive : s.active = true) (startTsIn : UInt64) (mixers : UInt32)
    (audioData : Mixes) (hEnough : audioOutputFrames ≤ s.audioBufferFrames) :
    ∃ p', popAudio value s startTsIn mixers audioData = some (startTsIn, p') ∧
      (∀ fuel, popFuel s ≤ fuel → popLoop value mixers fuel
        ⟨s, ⟨audioData, []⟩, audioOutputFrames, []⟩ = some p') ∧
      Popped value mixers queue ⟨s, ⟨audioData, []⟩, audioOutputFrames, []⟩ p' := by
  have hFuel : queue.length ≤ popFuel s := by
    rw [popFuel, h.bytes]
    exact (length_le_encode queue).trans (Nat.le_succ _)
  obtain ⟨p', hLoop, hPopped⟩ := popLoop_spec value mixers queue
    (p := ⟨s, ⟨audioData, []⟩, audioOutputFrames, []⟩) h le_rfl (h.frames_eq ▸ hEnough) hFuel
  refine ⟨p', ?_, fun fuel hLe => popLoop_mono value mixers hLe hLoop, hPopped⟩
  simp only [popAudio, hActive, Bool.not_true, Bool.false_eq_true, if_false,
    if_neg (Nat.not_lt.mpr hEnough), hLoop, Option.map_some]

inductive Consumer where
  | output
  | thread
  deriving DecidableEq, Repr

/-- A capture, and what its consumer has taken so far. -/
structure Monitor where
  capture : SourceAudioCapture
  taken : List Take

def Monitor.create (samplesPerSec : UInt32) (speakers : SpeakerLayout) : Monitor :=
  ⟨SourceAudioCapture.create samplesPerSec speakers, []⟩

inductive Event where
  | setActive (value : Bool)
  | pushAudio (audioData : AudioData)
  | popAudio (startTsIn : UInt64) (mixers : UInt32) (audioData : Mixes)
  | drain

def step (value : UInt32 → ℚ) (consumer : Consumer) (s : Monitor) : Event → Option Monitor
  | .setActive active => some { s with capture := { s.capture with active } }
  | .pushAudio audioData => some { s with capture := pushAudio s.capture audioData }
  | .popAudio startTsIn mixers audioData =>
    if consumer = .output then
      (popAudio value s.capture startTsIn mixers audioData).map fun r =>
        ⟨r.2.capture, s.taken ++ r.2.taken⟩
    else none
  | .drain =>
    if consumer = .thread then
      (drain s.capture).map fun r => ⟨r.1, s.taken ++ r.2.toList⟩
    else none

/-- The buffer as its users think of it: pushed chunks, of which the first may be cut. -/
structure Fifo where
  active : Bool
  queue : List Pending
  taken : List ObsSourceAudio

namespace Fifo

def empty : Fifo := ⟨false, [], []⟩

def pop (f : Fifo) : Fifo :=
  if f.active ∧ audioOutputFrames ≤ (flatten Chunk.frames f.queue).length then
    { f with
      queue := (consume Chunk.frames audioOutputFrames f.queue).2
      taken := f.taken ++ (consume Chunk.frames audioOutputFrames f.queue).1.map Chunk.view }
  else f

def drain (f : Fifo) : Fifo :=
  match f.queue with
  | [] => f
  | p :: queue =>
    if (flatten Chunk.frames (p :: queue)).length = 0 then f
    else { f with queue, taken := f.taken ++ [p.chunk.view] }

def step (samplesPerSec : UInt32) (speakers : SpeakerLayout) (consumer : Consumer) (f : Fifo) :
    Event → Option Fifo
  | .setActive active => some { f with active }
  | .pushAudio audioData =>
    some (if f.active then { f with queue := pushQueue f.queue ⟨audioData, samplesPerSec, speakers⟩ }
      else f)
  | .popAudio _ _ _ => if consumer = .output then some f.pop else none
  | .drain => if consumer = .thread then some f.drain else none

end Fifo

/-- The buffer holds what the FIFO holds, and the consumer took what was pushed. -/
structure Faithful (s : Monitor) (f : Fifo) : Prop where
  framed : Framed s.capture f.queue
  taken : s.taken.map Take.chunk = f.taken.map some
  decrements : ∀ t ∈ s.taken, t.decrement ≤ t.framesBefore

/-- A chunk that is pushed while the capture is active has all its planes, or no frames, and its
size fits 32 bits. -/
def Event.Regular (speakers : SpeakerLayout) (f : Fifo) : Event → Prop
  | .pushAudio audioData =>
    f.active = true → ∀ samplesPerSec, (Chunk.mk audioData samplesPerSec speakers).Regular
  | _ => True

section Simulation

variable {samplesPerSec : UInt32} {speakers : SpeakerLayout} {consumer : Consumer}

structure Simulates (samplesPerSec : UInt32) (speakers : SpeakerLayout) (consumer : Consumer)
    (s : Monitor) (f : Fifo) : Prop where
  sound : Sound s.capture f.queue
  taken : s.taken.map Take.chunk = f.taken.map some
  decrements : ∀ t ∈ s.taken, t.decrement ≤ t.framesBefore
  setup : SameSetup ⟨samplesPerSec, speakers, [], 0, [], f.active⟩ s.capture
  whole : consumer = .thread → ∀ p ∈ f.queue, p.offset = 0

theorem Simulates.faithful {s : Monitor} {f : Fifo}
    (h : Simulates samplesPerSec speakers consumer s f) : Faithful s f :=
  ⟨h.sound.toFramed, h.taken, h.decrements⟩

theorem simulates_create : Simulates samplesPerSec speakers consumer
    (Monitor.create samplesPerSec speakers) Fifo.empty where
  sound := Sound.empty rfl rfl
  taken := rfl
  decrements := nofun
  setup := ⟨rfl, rfl, rfl⟩
  whole := nofun

theorem Simulates.setActive {s : Monitor} {f : Fifo}
    (h : Simulates samplesPerSec speakers consumer s f) (active : Bool) :
    Simulates samplesPerSec speakers consumer { s with capture := { s.capture with active } }
      { f with active } where
  sound :=
    { bytes := h.sound.bytes, frames := h.sound.frames, fits := h.sound.fits
      regular := h.sound.regular, within := h.sound.within, speakers := h.sound.speakers
      bounded := h.sound.bounded }
  taken := h.taken
  decrements := h.decrements
  setup := ⟨h.setup.samplesPerSec, h.setup.speakers, rfl⟩
  whole := h.whole

theorem pushAudio_setup (s : SourceAudioCapture) (audioData : AudioData) :
    SameSetup s (pushAudio s audioData) := by
  unfold pushAudio appendChunk flushIfFull
  split
  · split <;> exact ⟨rfl, rfl, rfl⟩
  · exact ⟨rfl, rfl, rfl⟩

theorem mem_pushQueue {queue : List Pending} {c : Chunk} {p : Pending}
    (h : p ∈ pushQueue queue c) : p ∈ queue ∨ p = ⟨c, 0⟩ := by
  unfold pushQueue at h
  split at h
  · exact .inr (List.mem_singleton.mp h)
  · rcases List.mem_append.mp h with h | h
    · exact .inl h
    · exact .inr (List.mem_singleton.mp h)

theorem Simulates.pushAudio {s : Monitor} {f : Fifo}
    (h : Simulates samplesPerSec speakers consumer s f) {audioData : AudioData}
    (hRegular : f.active = true → (Chunk.mk audioData samplesPerSec speakers).Regular) :
    Simulates samplesPerSec speakers consumer
      { s with capture := AudioCapture.pushAudio s.capture audioData }
      (if f.active then { f with queue := pushQueue f.queue ⟨audioData, samplesPerSec, speakers⟩ }
        else f) := by
  have hChunk : chunkOf s.capture audioData = ⟨audioData, samplesPerSec, speakers⟩ := by
    rw [chunkOf, h.setup.samplesPerSec, h.setup.speakers]
  obtain ⟨active, queue, taken⟩ := f
  cases active with
  | false =>
    have hSame : AudioCapture.pushAudio s.capture audioData = s.capture :=
      if_neg (by rw [h.setup.active]; exact Bool.false_ne_true)
    rw [hSame]
    exact h
  | true =>
    have hPush := h.sound.pushAudio h.setup.active (hChunk ▸ hRegular rfl)
    rw [hChunk] at hPush
    refine ⟨hPush, h.taken, h.decrements, h.setup.trans (pushAudio_setup ..), ?_⟩
    intro hThread p hp
    rcases mem_pushQueue hp with hp | rfl
    · exact h.whole hThread p hp
    · rfl

theorem Simulates.popAudio (value : UInt32 → ℚ) {s : Monitor} {f : Fifo}
    (h : Simulates samplesPerSec speakers .output s f) (startTsIn : UInt64) (mixers : UInt32)
    (audioData : Mixes) :
    ∃ s', step value .output s (.popAudio startTsIn mixers audioData) = some s' ∧
      Simulates samplesPerSec speakers .output s' f.pop := by
  have hActive : s.capture.active = f.active := h.setup.active
  by_cases hReady : f.active = true ∧ audioOutputFrames ≤ (flatten Chunk.frames f.queue).length
  · obtain ⟨p', hPop, _, hPopped⟩ := popAudio_delivers value h.sound (hActive.trans hReady.1)
      startTsIn mixers audioData (h.sound.frames_eq ▸ hReady.2)
    obtain ⟨new, hNew, hViews, hDecrements⟩ := hPopped.taken
    refine ⟨⟨p'.capture, s.taken ++ p'.taken⟩, ?_, ?_⟩
    · rw [step, if_pos rfl, hPop]
      rfl
    · rw [Fifo.pop, if_pos hReady]
      rw [List.nil_append] at hNew
      refine ⟨hPopped.sound, ?_, ?_, h.setup.trans hPopped.setup, nofun⟩
      · rw [List.map_append, List.map_append, List.map_map, h.taken, hNew, hViews]
        rfl
      · intro t ht
        rcases List.mem_append.mp ht with ht | ht
        · exact h.decrements t ht
        · exact hDecrements t (hNew ▸ ht)
  · have hWait : s.capture.active = false ∨ s.capture.audioBufferFrames < audioOutputFrames := by
      rw [hActive, h.sound.frames_eq]
      rcases not_and_or.mp hReady with hInactive | hFew
      · exact .inl (Bool.eq_false_of_not_eq_true hInactive)
      · exact .inr (Nat.not_le.mp hFew)
    refine ⟨s, ?_, ?_⟩
    · rw [step, if_pos rfl, popAudio_waits value startTsIn mixers audioData hWait]
      simp
    · rw [Fifo.pop, if_neg hReady]
      exact h

theorem Simulates.drain (value : UInt32 → ℚ) {s : Monitor} {f : Fifo}
    (h : Simulates samplesPerSec speakers .thread s f) :
    ∃ s', step value .thread s .drain = some s' ∧
      Simulates samplesPerSec speakers .thread s' f.drain := by
  -- without frames neither of them does anything
  by_cases hNone : s.capture.audioBufferFrames = 0
  · have hSame : f.drain = f := by
      unfold Fifo.drain
      split
      · rfl
      · next hQueue => exact if_pos (hQueue ▸ h.sound.frames_eq.symm.trans hNone)
    refine ⟨s, ?_, hSame.symm ▸ h⟩
    rw [step, if_pos rfl, AudioCapture.drain, if_pos hNone]
    simp
  · obtain ⟨active, queue, taken⟩ := f
    cases queue with
    | nil => exact absurd (h.sound.frames_eq) hNone
    | cons front queue =>
      have hTotal : (flatten Chunk.frames (front :: queue)).length ≠ 0 :=
        h.sound.frames_eq ▸ hNone
      obtain ⟨s', hDrain, hSound, hSetup, hLe⟩ :=
        h.sound.drain (h.whole rfl _ List.mem_cons_self) hNone
      refine ⟨⟨s', s.taken ++ [⟨some front.chunk.view, s.capture.audioBufferFrames,
        front.chunk.audioData.frames.toNat⟩]⟩, ?_, ?_⟩
      · rw [step, if_pos rfl, hDrain]
        rfl
      · rw [Fifo.drain]
        simp only [if_neg hTotal]
        refine ⟨hSound, ?_, ?_, h.setup.trans hSetup, ?_⟩
        · rw [List.map_append, List.map_append, h.taken]
          rfl
        · intro t ht
          rcases List.mem_append.mp ht with ht | ht
          · exact h.decrements t ht
          · exact List.mem_singleton.mp ht ▸ hLe
        · exact fun _ p hp => h.whole rfl p (List.mem_cons_of_mem _ hp)

theorem Simulates.step (value : UInt32 → ℚ) {s : Monitor} {f f' : Fifo} {e : Event}
    (h : Simulates samplesPerSec speakers consumer s f) (hRegular : e.Regular speakers f)
    (hStep : Fifo.step samplesPerSec speakers consumer f e = some f') :
    ∃ s', AudioSource.step value consumer s e = some s' ∧
      Simulates samplesPerSec speakers consumer s' f' := by
  cases e with
  | setActive active =>
    obtain rfl := Option.some.inj hStep
    exact ⟨_, rfl, h.setActive active⟩
  | pushAudio audioData =>
    obtain rfl := Option.some.inj hStep
    exact ⟨_, rfl, h.pushAudio fun hActive => hRegular hActive samplesPerSec⟩
  | popAudio startTsIn mixers audioData =>
    obtain ⟨rfl, hStep⟩ := Option.ite_none_right_eq_some.mp hStep
    obtain rfl := Option.some.inj hStep
    exact h.popAudio value startTsIn mixers audioData
  | drain =>
    obtain ⟨rfl, hStep⟩ := Option.ite_none_right_eq_some.mp hStep
    obtain rfl := Option.some.inj hStep
    exact h.drain value

end Simulation

/-- Every run of regular pushes keeps the buffer framed and hands on what was pushed. -/
theorem framing_of_regular (value : UInt32 → ℚ) (consumer : Consumer) (samplesPerSec : UInt32)
    (speakers : SpeakerLayout) (es : List Event) (f : Fifo)
    (hRegular : MeetsGuard (Fifo.step samplesPerSec speakers consumer)
      (fun f e => e.Regular speakers f) Fifo.empty es)
    (hRun : run (Fifo.step samplesPerSec speakers consumer) Fifo.empty es = some f) :
    ∃ s, run (step value consumer) (Monitor.create samplesPerSec speakers) es = some s ∧
      Faithful s f := by
  have hEach : ∀ s f e f', Simulates samplesPerSec speakers consumer s f → e.Regular speakers f →
      Fifo.step samplesPerSec speakers consumer f e = some f' →
      ∃ s', step value consumer s e = some s' ∧ Simulates samplesPerSec speakers consumer s' f' :=
    fun _ _ _ _ hRel hOk hStep => hRel.step value hOk hStep
  obtain ⟨s, hSame, hSimulates⟩ := run_simulates _ hEach es hRegular simulates_create hRun
  exact ⟨s, hSame, hSimulates.faithful⟩

section Stereo

/-- One frame of stereo audio; the right plane may be missing. -/
def stereoFrame (left : UInt32) (right : Option UInt32) : AudioData where
  data i := if i.val = 0 then some [left] else if i.val = 1 then right.map fun x => [x] else none
  frames := 1
  timestamp := 0
  sized := by
    intro i plane h
    split at h
    · cases h
      rfl
    · split at h
      · obtain ⟨x, _, rfl⟩ := Option.map_eq_some_iff.mp h
        rfl
      · cases h

/-- The first chunk lacks its right plane, but comes before the capture is active. -/
theorem framing_of_regular_stereo :
    ∃ s f, run (step (fun _ => 0) .thread) (Monitor.create 48000 .stereo)
        [.pushAudio (stereoFrame 5 none), .setActive true, .pushAudio (stereoFrame 1 (some 2)),
          .pushAudio (stereoFrame 3 (some 4)), .drain] = some s ∧
      f.queue.length = 1 ∧ Faithful s f := by
  have hFrame : ∀ left right samplesPerSec,
      (Chunk.mk (stereoFrame left (some right)) samplesPerSec .stereo).Regular := by
    intro left right samplesPerSec
    refine ⟨.inr ?_, (by decide : 2 * 1 * 4 < 2 ^ 32)⟩
    intro i hi
    have hCases : ∀ j ∈ planes SpeakerLayout.stereo.value, j.val = 0 ∨ j.val = 1 := by decide
    rcases hCases i hi with h | h <;> simp [stereoFrame, h]
  have hRegular : MeetsGuard (Fifo.step 48000 .stereo .thread) (fun f e => e.Regular .stereo f)
      Fifo.empty [.pushAudio (stereoFrame 5 none), .setActive true,
        .pushAudio (stereoFrame 1 (some 2)), .pushAudio (stereoFrame 3 (some 4)), .drain] := by
    refine ⟨nofun, ?_⟩
    rintro _ ⟨⟩
    refine ⟨trivial, ?_⟩
    rintro _ ⟨⟩
    refine ⟨fun _ => hFrame 1 2, fun _ _ => ⟨fun _ => hFrame 3 4, fun _ _ => ⟨trivial, ?_⟩⟩⟩
    exact fun _ _ => trivial
  obtain ⟨s, hRun, hFaithful⟩ :=
    framing_of_regular (fun _ => 0) .thread 48000 .stereo _ _ hRegular rfl
  exact ⟨s, _, hRun, rfl, hFaithful⟩

/-- A chunk without its right plane: the thread takes four bytes of the next header with it. -/
theorem not_framing :
    ¬ ∀ (value : UInt32 → ℚ) (consumer : Consumer) (samplesPerSec : UInt32)
      (speakers : SpeakerLayout) (es : List Event) (f : Fifo),
      run (Fifo.step samplesPerSec speakers consumer) Fifo.empty es = some f →
        ∃ s, run (step value consumer) (Monitor.create samplesPerSec speakers) es = some s ∧
          Faithful s f := by
  intro hAll
  obtain ⟨f, hFifo, hPending⟩ : ∃ f, run (Fifo.step 48000 .stereo .thread) Fifo.empty
      [.setActive true, .pushAudio (stereoFrame 1 none), .pushAudio (stereoFrame 3 (some 4)),
        .drain] = some f ∧ (f.queue.flatMap encodeChunk).length = 104 :=
    ⟨_, rfl, by decide +kernel⟩
  obtain ⟨s, hRun, hFaithful⟩ := hAll (fun _ => 0) .thread 48000 .stereo _ f hFifo
  have hLength : (run (step (fun _ => 0) .thread) (Monitor.create 48000 .stereo)
      [.setActive true, .pushAudio (stereoFrame 1 none), .pushAudio (stereoFrame 3 (some 4)),
        .drain]).map (fun s => s.capture.audioBuffer.length) = some 100 := by decide +kernel
  rw [hRun, Option.map_some, hFaithful.framed.bytes, hPending] at hLength
  exact absurd hLength (by decide)

end Stereo

end SrcLink.AudioSource
