import SrcLink.Audio.AudioSource
import SrcLink.Audio.ChunkEncoding

/-! # Mixing a chunk into the output

The loop nest of `popAudio` adds to each output position at most one sample,
the one at the same place of the pending stream, and touches nothing else.
-/

namespace SrcLink.AudioSource

set_option autoImplicit false

open AudioCapture ByteLayout

variable (value : UInt32 → ℚ)

def shift (outOffset : Nat) : Position → Position
  | (tr, ch, i) => (tr, ch, outOffset + i)

theorem shift_injective (outOffset : Nat) : Function.Injective (shift outOffset) := by
  rintro ⟨tr, ch, i⟩ ⟨tr', ch', i'⟩ h
  simp only [shift, Prod.mk.injEq, Nat.add_left_cancel_iff] at h
  obtain ⟨rfl, rfl, rfl⟩ := h
  rfl

/-- The sample that a stream, placed at `start`, has for a position of a channel. -/
def sampleAt (start : Nat) (stream : List Frame) (ch : Fin maxAvPlanes) (i : Nat) :
    Option UInt32 :=
  if start ≤ i then stream[i - start]?.bind (· ch) else none

def mixInto (x : ℚ) : Option UInt32 → ℚ
  | none => x
  | some bits => clamp (x + value bits)

/-- The stream has been mixed into the selected tracks, each sample written once. -/
structure Mixed (mixers : UInt32) (start : Nat) (stream : List Frame) (m m' : Mixer) : Prop where
  out : ∀ tr ch i, m'.out tr ch i =
    if tr ∈ tracks mixers then mixInto value (m.out tr ch i) (sampleAt start stream ch i)
    else m.out tr ch i
  writes : ∀ tr ch i, m'.writes.count (tr, ch, i) = m.writes.count (tr, ch, i) +
    if tr ∈ tracks mixers ∧ (sampleAt start stream ch i).isSome then 1 else 0

@[simp] theorem sampleAt_nil (start : Nat) (ch : Fin maxAvPlanes) (i : Nat) :
    sampleAt start [] ch i = none := by
  simp [sampleAt]

theorem sampleAt_append_left {start i : Nat} {left : List Frame} (right : List Frame)
    (ch : Fin maxAvPlanes) (hi : i < start + left.length) :
    sampleAt start (left ++ right) ch i = sampleAt start left ch i := by
  unfold sampleAt
  split
  · rw [List.getElem?_append_left (by omega)]
  · rfl

theorem sampleAt_append_right {start i : Nat} (left right : List Frame) (ch : Fin maxAvPlanes)
    (hi : start + left.length ≤ i) :
    sampleAt start (left ++ right) ch i = sampleAt (start + left.length) right ch i := by
  rw [sampleAt, sampleAt, if_pos (by omega), if_pos hi, List.getElem?_append_right (by omega),
    Nat.sub_sub]

theorem sampleAt_before {start i : Nat} (stream : List Frame) (ch : Fin maxAvPlanes)
    (hi : i < start) : sampleAt start stream ch i = none := by
  rw [sampleAt, if_neg (by omega)]

theorem sampleAt_beyond {start i : Nat} {stream : List Frame} (ch : Fin maxAvPlanes)
    (hi : start + stream.length ≤ i) : sampleAt start stream ch i = none := by
  rw [sampleAt, if_pos (by omega), List.getElem?_eq_none (by omega), Option.bind_none]

theorem Mixed.refl (mixers : UInt32) (start : Nat) (m : Mixer) : Mixed value mixers start [] m m where
  out tr ch i := by simp [mixInto]
  writes tr ch i := by simp

variable {value}

theorem Mixed.append {mixers : UInt32} {start : Nat} {left right : List Frame} {m m' m'' : Mixer}
    (hLeft : Mixed value mixers start left m m')
    (hRight : Mixed value mixers (start + left.length) right m' m'') :
    Mixed value mixers start (left ++ right) m m'' where
  out tr ch i := by
    rw [hRight.out, hLeft.out]
    by_cases hi : i < start + left.length
    · rw [sampleAt_append_left right ch hi, sampleAt_before right ch hi]
      simp [mixInto]
    · have hi := Nat.not_lt.mp hi
      rw [sampleAt_append_right left right ch hi, sampleAt_beyond ch hi]
      simp [mixInto]
  writes tr ch i := by
    rw [hRight.writes, hLeft.writes, Nat.add_assoc]
    congr 1
    by_cases hi : i < start + left.length
    · rw [sampleAt_append_left right ch hi, sampleAt_before right ch hi]
      simp
    · have hi := Nat.not_lt.mp hi
      rw [sampleAt_append_right left right ch hi, sampleAt_beyond ch hi]
      simp

section Loop

variable (value)

/-- What a list of iterations does to the output. -/
def addAll (bits : Position → UInt32) (outOffset : Nat) (steps : List Position) (out : Mixes) :
    Mixes :=
  steps.foldl (fun out q => out.add (shift outOffset q) (value (bits q))) out

theorem addAll_of_not_mem {bits : Position → UInt32} {outOffset : Nat} {steps : List Position}
    {out : Mixes} {tr : Nat} {ch : Fin maxAvPlanes} {i : Nat}
    (h : (tr, ch, i) ∉ steps.map (shift outOffset)) :
    addAll value bits outOffset steps out tr ch i = out tr ch i := by
  induction steps generalizing out with
  | nil => rfl
  | cons q steps ih =>
    obtain ⟨hHead, hTail⟩ := not_or.mp (List.mem_cons.not.mp h)
    calc addAll value bits outOffset (q :: steps) out tr ch i
        = addAll value bits outOffset steps (out.add (shift outOffset q) (value (bits q))) tr ch i :=
          rfl
      _ = out.add (shift outOffset q) (value (bits q)) tr ch i := ih hTail
      _ = out tr ch i := if_neg hHead

theorem addAll_of_mem {bits : Position → UInt32} {outOffset : Nat} {steps : List Position}
    {out : Mixes} {q : Position} {tr : Nat} {ch : Fin maxAvPlanes} {i : Nat}
    (hNodup : (steps.map (shift outOffset)).Nodup) (hq : q ∈ steps)
    (hShift : shift outOffset q = (tr, ch, i)) :
    addAll value bits outOffset steps out tr ch i = clamp (out tr ch i + value (bits q)) := by
  induction steps generalizing out with
  | nil => cases hq
  | cons p steps ih =>
    obtain ⟨hNot, hNodup⟩ := List.nodup_cons.mp hNodup
    have hUnfold : addAll value bits outOffset (p :: steps) out tr ch i = addAll value bits outOffset
        steps (out.add (shift outOffset p) (value (bits p))) tr ch i := rfl
    rcases List.mem_cons.mp hq with rfl | hq
    · rw [hShift] at hNot
      rw [hUnfold, addAll_of_not_mem value hNot, Mixes.add, if_pos hShift.symm]
    · have hOther : (tr, ch, i) ≠ shift outOffset p := by
        rintro hSame
        exact hNot (hSame ▸ hShift ▸ List.mem_map_of_mem hq)
      rw [hUnfold, ih hNodup hq, Mixes.add, if_neg hOther]

theorem foldlM_mixSample {header : AudioBufferHeader} {conv : Bytes} {outOffset : Nat}
    {steps : List Position} {bits : Position → UInt32} {m : Mixer}
    (hStep : ∀ q ∈ steps, ∀ m : Mixer, mixSample value header conv outOffset m q =
      some ⟨m.out.add (shift outOffset q) (value (bits q)), m.writes ++ [shift outOffset q]⟩) :
    steps.foldlM (mixSample value header conv outOffset) m =
      some ⟨addAll value bits outOffset steps m.out, m.writes ++ steps.map (shift outOffset)⟩ := by
  induction steps generalizing m with
  | nil => simp [addAll]
  | cons q steps ih =>
    rw [List.foldlM_cons, hStep q List.mem_cons_self]
    refine (ih fun p hp => hStep p (List.mem_cons_of_mem _ hp)).trans ?_
    simp [addAll]

end Loop

theorem nodup_tracks (mixers : UInt32) : (tracks mixers).Nodup := List.nodup_range.filter _

theorem mem_iterations {mixers : UInt32} {header : AudioBufferHeader} {frames : Nat}
    {tr : Nat} {ch : Fin maxAvPlanes} {i : Nat} :
    (tr, ch, i) ∈ iterations mixers header frames ↔
      tr ∈ tracks mixers ∧ (ch ∈ planes header.speakers ∧ header.dataIdx ch ≠ 0) ∧ i < frames := by
  simp only [iterations, List.mem_flatMap, List.mem_map, List.mem_filter, List.mem_range,
    Prod.mk.injEq, decide_eq_true_eq]
  constructor
  · rintro ⟨_, hTr, _, hCh, _, hi, rfl, rfl, rfl⟩
    exact ⟨hTr, hCh, hi⟩
  · rintro ⟨hTr, hCh, hi⟩
    exact ⟨tr, hTr, ch, hCh, i, hi, rfl, rfl, rfl⟩

theorem nodup_iterations (mixers : UInt32) (header : AudioBufferHeader) (frames : Nat) :
    (iterations mixers header frames).Nodup := by
  refine List.nodup_flatMap.mpr ⟨fun tr _ => List.nodup_flatMap.mpr ⟨fun ch _ => ?_, ?_⟩, ?_⟩
  · exact List.nodup_range.map fun i j h => by simpa using h
  · refine ((nodup_planes _).filter _).imp fun hNe => ?_
    simp only [Function.onFun, List.disjoint_left, List.mem_map]
    rintro _ ⟨_, _, rfl⟩ ⟨_, _, h⟩
    simp only [Prod.mk.injEq] at h
    exact hNe h.2.1.symm
  · refine (nodup_tracks mixers).imp fun hNe => ?_
    simp only [Function.onFun, List.disjoint_left, List.mem_flatMap, List.mem_map]
    rintro _ ⟨_, _, _, _, rfl⟩ ⟨_, _, _, _, h⟩
    simp only [Prod.mk.injEq] at h
    exact hNe h.1.symm

section Chunk

variable {p : Pending} {n : Nat}

theorem sampleAt_rest (start : Nat) (ch : Fin maxAvPlanes) (i : Nat)
    (hLength : p.offset + n ≤ p.chunk.audioData.frames.toNat) :
    sampleAt start ((p.rest Chunk.frames).take n) ch i =
      if start ≤ i ∧ i < start + n ∧ ch ∈ planes p.chunk.speakers.value then
        (p.chunk.audioData.data ch).bind (·[p.offset + (i - start)]?)
      else none := by
  by_cases hStart : start ≤ i
  · by_cases hEnd : i < start + n
    · have hInside : p.offset + (i - start) < p.chunk.audioData.frames.toNat := by omega
      simp [sampleAt, Reblocking.Cut.rest, Chunk.frames, hStart, hEnd, hInside,
        (by omega : i - start < n)]
    · have hBeyond : start + ((p.rest Chunk.frames).take n).length ≤ i := by
        rw [List.length_take]
        omega
      rw [sampleAt_beyond ch hBeyond, if_neg (by omega)]
  · rw [sampleAt_before _ ch (by omega), if_neg (by omega)]

/-- The sample an iteration reads. -/
def bitsOf (p : Pending) : Position → UInt32
  | (_, ch, i) => ((p.chunk.audioData.data ch).getD []).getD (p.offset + i) 0

theorem headerOf_offset (hLength : p.offset ≤ p.chunk.audioData.frames.toNat) :
    (headerOf p).offset.toNat = p.offset := by
  have hFrames : p.chunk.audioData.frames.toNat < 2 ^ 32 := UInt32.toNat_lt _
  exact (UInt64.toNat_ofNat' ..).trans (Nat.mod_eq_of_lt (by omega))

theorem data_of_dataIdx {ch : Fin maxAvPlanes} (h : (headerOf p).dataIdx ch ≠ 0) :
    ∃ plane, p.chunk.audioData.data ch = some plane :=
  Option.ne_none_iff_exists'.mp fun hNone => h (headerOf_dataIdx_of_none hNone)

theorem mem_shift_iterations {mixers : UInt32} {start : Nat} {tr : Nat} {ch : Fin maxAvPlanes}
    {i : Nat} (h : p.chunk.Regular) (hLength : p.offset + n ≤ p.chunk.audioData.frames.toNat) :
    (tr, ch, i) ∈ (iterations mixers (headerOf p) n).map (shift start) ↔
      tr ∈ tracks mixers ∧ (sampleAt start ((p.rest Chunk.frames).take n) ch i).isSome := by
  rw [sampleAt_rest start ch i hLength, List.mem_map]
  constructor
  · rintro ⟨⟨tr', ch', k⟩, hMem, hShift⟩
    obtain ⟨hTr, ⟨hCh, hIdx⟩, hk⟩ := mem_iterations.mp hMem
    simp only [shift, Prod.mk.injEq] at hShift
    obtain ⟨rfl, rfl, rfl⟩ := hShift
    obtain ⟨plane, hPlane⟩ := data_of_dataIdx hIdx
    have hSized := p.chunk.audioData.sized _ _ hPlane
    have hInside : p.offset + k < plane.length := by omega
    refine ⟨hTr, ?_⟩
    rw [if_pos ⟨Nat.le_add_right .., by omega, hCh⟩]
    simp [hPlane, hInside]
  · rintro ⟨hTr, hSome⟩
    by_cases hInside : start ≤ i ∧ i < start + n ∧ ch ∈ planes p.chunk.speakers.value
    · rw [if_pos hInside] at hSome
      obtain ⟨hStart, hEnd, hCh⟩ := hInside
      obtain ⟨plane, hPlane, _⟩ := Option.bind_eq_some_iff.mp (Option.eq_some_of_isSome hSome)
      refine ⟨(tr, ch, i - start), mem_iterations.mpr ⟨hTr, ⟨hCh, ?_⟩, by omega⟩, ?_⟩
      · exact headerOf_dataIdx_ne h hCh hPlane
      · simp only [shift, Nat.add_sub_cancel' hStart]
    · rw [if_neg hInside] at hSome
      cases hSome

theorem bitsOf_eq {start : Nat} {tr : Nat} {ch : Fin maxAvPlanes} {i : Nat} {bits : UInt32}
    (hLength : p.offset + n ≤ p.chunk.audioData.frames.toNat)
    (hBits : sampleAt start ((p.rest Chunk.frames).take n) ch (start + i) = some bits) :
    bitsOf p (tr, ch, i) = bits := by
  rw [sampleAt_rest start ch _ hLength] at hBits
  split at hBits
  · obtain ⟨plane, hPlane, hGet⟩ := Option.bind_eq_some_iff.mp hBits
    rw [Nat.add_sub_cancel_left] at hGet
    simp [bitsOf, hPlane, hGet]
  · cases hBits

theorem mixChunk_encodeChunk (value : UInt32 → ℚ) (mixers : UInt32) (start : Nat) (junk : Bytes)
    (m : Mixer) (h : p.chunk.Regular) (hLength : p.offset + n ≤ p.chunk.audioData.frames.toNat)
    (hRoom : start + n ≤ audioOutputFrames) :
    ∃ m', mixChunk value mixers (headerOf p) (encodeChunk p ++ junk) start n m = some m' ∧
      Mixed value mixers start ((p.rest Chunk.frames).take n) m m' := by
  have hSpeakers : ¬ maxAvPlanes < (headerOf p).speakers.toNat :=
    Nat.not_lt.mpr p.chunk.speakers.value_le
  -- every iteration reads inside the chunk and writes inside the block
  have hStep : ∀ q ∈ iterations mixers (headerOf p) n, ∀ m : Mixer,
      mixSample value (headerOf p) (encodeChunk p ++ junk) start m q = some
        ⟨m.out.add (shift start q) (value (bitsOf p q)), m.writes ++ [shift start q]⟩ := by
    rintro ⟨tr, ch, i⟩ hMem m
    obtain ⟨_, ⟨hCh, hIdx⟩, hi⟩ := mem_iterations.mp hMem
    obtain ⟨plane, hPlane⟩ := data_of_dataIdx hIdx
    have hInside : p.offset + i < plane.length := by
      rw [p.chunk.audioData.sized _ _ hPlane]
      omega
    have hBits : bitsOf p (tr, ch, i) = plane[p.offset + i] := by simp [bitsOf, hPlane, hInside]
    simp only [mixSample, headerOf_offset (Nat.le_of_add_right_le hLength),
      wordAt_encodeChunk junk h hCh hPlane hInside, Option.bind_eq_bind, Option.bind_some,
      if_pos (by omega : start + i < audioOutputFrames), hBits, UInt32.ofNat_toNat, shift]
  refine ⟨_, (if_neg fun hBad => hSpeakers hBad.2).trans (foldlM_mixSample value hStep), ?_, ?_⟩
  · intro tr ch i
    have hMem : (tr, ch, i) ∈ (iterations mixers (headerOf p) n).map (shift start) ↔ _ :=
      mem_shift_iterations h hLength
    -- a selected track gets the samples of the stream, another one nothing
    by_cases hTr : tr ∈ tracks mixers
    · rw [if_pos hTr]
      cases hSample : sampleAt start ((p.rest Chunk.frames).take n) ch i with
      | none => exact addAll_of_not_mem value fun hIn => by simpa [hSample] using hMem.mp hIn
      | some bits =>
        obtain ⟨⟨tr', ch', k⟩, hStepIn, hShift⟩ := List.mem_map.mp (hMem.mpr ⟨hTr, by simp [hSample]⟩)
        have hSame := hShift
        simp only [shift, Prod.mk.injEq] at hSame
        obtain ⟨rfl, rfl, rfl⟩ := hSame
        refine (addAll_of_mem value ((nodup_iterations ..).map (shift_injective start)) hStepIn
          hShift).trans ?_
        rw [bitsOf_eq hLength hSample]
        rfl
    · rw [if_neg hTr]
      exact addAll_of_not_mem value fun hIn => hTr (hMem.mp hIn).1
  · intro tr ch i
    rw [List.count_append, ((nodup_iterations ..).map (shift_injective start)).count]
    simp only [mem_shift_iterations h hLength]

end Chunk

end SrcLink.AudioSource
