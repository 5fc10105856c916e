import Mathlib.Algebra.Field.Rat
import Mathlib.Algebra.Order.Group.Nat
import Mathlib.Data.Rat.Defs
import SrcLink.Library.RestartingCounter
import SrcLink.Outputs.EgressLinkOutput

/-! # The statistics of an output

`updateStatistics` turns the running totals of the streaming output into what has been
sent since the last call. The totals start anew with every output, and there are none
without one: the call that sees a smaller total restarts the count from zero.
-/

namespace SrcLink.EgressLinkOutput

open RestartingCounter

set_option autoImplicit false

/-- What OBS and the clocks answer during a call. -/
structure StatisticsObs where
  totalBytes : Handle → UInt64
  totalFrames : Handle → Int32
  framesDropped : Handle → Int32
  gettimeNs : UInt64
  currentMSecsSinceEpoch : UInt64

section Totals

variable (obs : StatisticsObs) (output : State)

def StatisticsObs.bytesOf : UInt64 := output.streamingOutput.elim 0 obs.totalBytes

def StatisticsObs.framesOf : Int32 := output.streamingOutput.elim 0 obs.totalFrames

def StatisticsObs.droppedOf : Int32 := output.streamingOutput.elim 0 obs.framesDropped

end Totals

/-- The members that only `updateStatistics` changes, as the constructor sets them. -/
structure Statistics where
  lastBytesSent : UInt64 := 0
  lastBytesSentTime : UInt64 := 0
  initialTotalFrames : Int32 := 0
  initialDroppedFrames : Int32 := 0
  lastPutStatisticsAt : UInt64 := 0

structure OutputMetric where
  /-- before it is rounded to a `double` -/
  bitrate : ℚ
  totalFrames : Int32
  droppedFrames : Int32
  totalSize : Int64

/-- The arguments of `putStatistics`. -/
structure PutStatistics where
  sourceName : String
  status : String
  recording : Bool
  metric : OutputMetric

/-- The operands of the difference of a call; the first one is stored for the next call. -/
structure ByteCount where
  bytesSent : UInt64
  lastBytesSent : UInt64

def countBytes (totalBytes lastBytesSent : UInt64) : ByteCount :=
  let bytesSent := if totalBytes < lastBytesSent then 0 else totalBytes
  { bytesSent := bytesSent, lastBytesSent := if bytesSent = 0 then 0 else lastBytesSent }

namespace ByteCount

def bytesBetween (c : ByteCount) : UInt64 := c.bytesSent - c.lastBytesSent

end ByteCount

/-- The members after a call, its difference in bytes and in bits, and what it sends. -/
structure StatisticsUpdate where
  members : Statistics
  count : ByteCount
  bitsBetween : UInt64
  put : PutStatistics

def bitrate (bitsBetween elapsedNs : UInt64) : ℚ :=
  let timePassed : ℚ := elapsedNs.toNat / 1000000000
  if timePassed < 1 / 100 then 0 else bitsBetween.toNat / timePassed / 1000

def outputStatus : EgressLinkOutputStatus → String
  | .active => "active"
  | .activating => "standby"
  | .reconnecting => "reconnecting"
  | .changing => "standby"
  | .standBy => "standby"
  | _ => "inactive"

def updateStatistics (obs : StatisticsObs) (output : State) (s : Statistics) :
    StatisticsUpdate :=
  let totalBytes := obs.bytesOf output
  let count := countBytes totalBytes s.lastBytesSent
  let bitsBetween := count.bytesBetween * 8
  let totalFrames := obs.framesOf output
  let droppedFrames := obs.droppedOf output
  let dropped := totalFrames < s.initialTotalFrames || droppedFrames < s.initialDroppedFrames
  let initialTotalFrames := if dropped then 0 else s.initialTotalFrames
  let initialDroppedFrames := if dropped then 0 else s.initialDroppedFrames
  { members :=
      { lastBytesSent := count.bytesSent
        lastBytesSentTime := obs.gettimeNs
        initialTotalFrames := initialTotalFrames
        initialDroppedFrames := initialDroppedFrames
        lastPutStatisticsAt := obs.currentMSecsSinceEpoch }
    count := count
    bitsBetween := bitsBetween
    put :=
      { sourceName := output.name
        status := outputStatus output.status
        recording := output.recordingStatus = .active
        metric :=
          { bitrate := bitrate bitsBetween (obs.gettimeNs - s.lastBytesSentTime)
            totalFrames := totalFrames - initialTotalFrames
            droppedFrames := droppedFrames - initialDroppedFrames
            totalSize := totalBytes.toInt64 } } }

section Count

variable {totalBytes lastBytesSent : UInt64}

theorem countBytes_of_lt (h : totalBytes < lastBytesSent) :
    countBytes totalBytes lastBytesSent = ⟨0, 0⟩ := by
  rw [countBytes, if_pos h]
  rfl

theorem countBytes_of_le (h : lastBytesSent ≤ totalBytes) :
    countBytes totalBytes lastBytesSent = ⟨totalBytes, lastBytesSent⟩ := by
  rw [countBytes, if_neg (UInt64.not_lt.mpr h)]
  -- the second reset changes nothing: behind a total of zero nothing was stored
  split
  · next hZero =>
    have hStored : lastBytesSent = 0 := by
      rw [UInt64.le_iff_toNat_le, hZero] at h
      exact UInt64.toNat_inj.mp (Nat.le_zero.mp h)
    rw [hStored]
  · rfl

theorem countBytes_le (totalBytes lastBytesSent : UInt64) :
    (countBytes totalBytes lastBytesSent).lastBytesSent ≤
      (countBytes totalBytes lastBytesSent).bytesSent := by
  rcases UInt64.lt_or_le totalBytes lastBytesSent with hLt | hLe
  · rw [countBytes_of_lt hLt]
    exact UInt64.le_refl 0
  · rw [countBytes_of_le hLe]
    exact hLe

theorem bitsBetween_exact_iff (obs : StatisticsObs) (output : State) (s : Statistics) :
    (updateStatistics obs output s).bitsBetween.toNat =
        (updateStatistics obs output s).count.bytesBetween.toNat * 8 ↔
      (updateStatistics obs output s).count.bytesBetween.toNat < 2 ^ 61 := by
  have hBits : (updateStatistics obs output s).bitsBetween =
      (updateStatistics obs output s).count.bytesBetween * 8 := rfl
  have hEight : (8 : UInt64).toNat = 8 := rfl
  rw [hBits, UInt64.toNat_mul, hEight]
  omega

theorem bitrate_of_restart {obs : StatisticsObs} {output : State} {s : Statistics}
    (h : obs.bytesOf output < s.lastBytesSent) :
    (updateStatistics obs output s).put.metric.bitrate = 0 := by
  have hBits : (countBytes (obs.bytesOf output) s.lastBytesSent).bytesBetween * 8 = 0 := by
    rw [countBytes_of_lt h]
    rfl
  simp only [updateStatistics, hBits, bitrate]
  split
  · rfl
  · simp

end Count

/-- A call of `updateStatistics`: what it reads, and the output it is made for. -/
structure Reading where
  obs : StatisticsObs
  output : State

def Reading.totalBytes (r : Reading) : UInt64 := r.obs.bytesOf r.output

/-- The total that a call has read, `lastBytesSent` before it, and what it made of them. -/
structure StatisticsCall where
  totalBytes : UInt64
  stored : UInt64
  count : ByteCount
  bitsBetween : UInt64

namespace StatisticsCall

def restarts (c : StatisticsCall) : Bool := c.totalBytes < c.stored

/-- The bytes that the call adds, numbered as they are sent. -/
def span (c : StatisticsCall) : Span ℕ := ⟨c.count.lastBytesSent.toNat, c.count.bytesSent.toNat⟩

/-- What a call of `updateStatistics` makes of the total. -/
structure Counted (c : StatisticsCall) : Prop where
  count : c.count = countBytes c.totalBytes c.stored
  bits : c.bitsBetween = c.count.bytesBetween * 8

theorem Counted.le {c : StatisticsCall} (h : c.Counted) :
    c.count.lastBytesSent ≤ c.count.bytesSent := h.count ▸ countBytes_le c.totalBytes c.stored

end StatisticsCall

structure Metering where
  statistics : Statistics := {}
  /-- newest first -/
  calls : List StatisticsCall := []

namespace Metering

def update (m : Metering) (r : Reading) : Metering :=
  let updated := updateStatistics r.obs r.output m.statistics
  { statistics := updated.members
    calls :=
      ⟨r.totalBytes, m.statistics.lastBytesSent, updated.count, updated.bitsBetween⟩ :: m.calls }

/-- The calls after the latest restart, newest first. -/
def sinceRestart (m : Metering) : List StatisticsCall := m.calls.takeWhile fun c => !c.restarts

structure Accounted (m : Metering) : Prop where
  noUnderflow : ∀ c ∈ m.calls, c.count.lastBytesSent ≤ c.count.bytesSent
  bits : ∀ c ∈ m.calls, c.bitsBetween = (c.count.bytesSent - c.count.lastBytesSent) * 8
  restart : ∀ c ∈ m.calls, c.restarts = true →
    c.count.bytesBetween = 0 ∧ c.bitsBetween = 0 ∧ c.count.bytesSent = 0
  sum : (m.sinceRestart.map fun c => c.count.bytesBetween.toNat).sum =
    m.statistics.lastBytesSent.toNat
  latest : ∀ c ∈ m.calls.head?,
    m.statistics.lastBytesSent = if c.restarts then 0 else c.totalBytes
  once : ∀ byte, (m.sinceRestart.countP fun c => c.span.Contains byte) =
    if byte < m.statistics.lastBytesSent.toNat then 1 else 0

/-- The meter that a run of calls drives. -/
structure Refines (m : Metering) (meter : Meter ℕ) : Prop where
  counted : ∀ c ∈ m.calls, c.Counted
  last : m.statistics.lastBytesSent.toNat = meter.last
  spans : m.sinceRestart.map StatisticsCall.span = meter.spans
  latest : ∀ c ∈ m.calls.head?, m.statistics.lastBytesSent = c.count.bytesSent

theorem refines_start : Refines {} Meter.restarted where
  counted _ hNone := nomatch hNone
  last := rfl
  spans := rfl
  latest _ hNone := nomatch hNone

theorem Refines.update {m : Metering} {meter : Meter ℕ} (h : Refines m meter) (r : Reading) :
    Refines (m.update r) (meter.read r.totalBytes.toNat) := by
  have hCounted : ∀ c ∈ (m.update r).calls, c.Counted :=
    List.forall_mem_cons.mpr ⟨⟨rfl, rfl⟩, h.counted⟩
  have hLatest : ∀ c ∈ (m.update r).calls.head?,
      (m.update r).statistics.lastBytesSent = c.count.bytesSent := by
    rintro c ⟨⟩
    rfl
  have hStored : (m.update r).statistics.lastBytesSent =
      (countBytes r.totalBytes m.statistics.lastBytesSent).bytesSent := rfl
  rcases UInt64.lt_or_le r.totalBytes m.statistics.lastBytesSent with hLt | hLe
  · have hRead : meter.read r.totalBytes.toNat = Meter.restarted :=
      if_pos (h.last ▸ UInt64.lt_iff_toNat_lt.mp hLt)
    rw [hRead]
    refine ⟨hCounted, ?_, ?_, hLatest⟩
    · rw [hStored, countBytes_of_lt hLt]
      rfl
    · have hNone : (m.update r).sinceRestart = [] :=
        List.takeWhile_cons_of_neg (by simpa [StatisticsCall.restarts] using hLt)
      rw [hNone]
      rfl
  · have hRead : meter.read r.totalBytes.toNat =
        ⟨r.totalBytes.toNat, ⟨meter.last, r.totalBytes.toNat⟩ :: meter.spans⟩ :=
      if_neg (h.last ▸ Nat.not_lt.mpr (UInt64.le_iff_toNat_le.mp hLe))
    have hCount := countBytes_of_le hLe
    rw [hRead]
    refine ⟨hCounted, ?_, ?_, hLatest⟩
    · rw [hStored, hCount]
    · have hGoes : (m.update r).sinceRestart = _ :: m.sinceRestart :=
        List.takeWhile_cons_of_pos (by simpa [StatisticsCall.restarts] using hLe)
      rw [hGoes, List.map_cons]
      refine congrArg₂ List.cons ?_ h.spans
      change Span.mk (countBytes r.totalBytes m.statistics.lastBytesSent).lastBytesSent.toNat
        (countBytes r.totalBytes m.statistics.lastBytesSent).bytesSent.toNat = _
      rw [hCount, ← h.last]

theorem refines_run (readings : List Reading) :
    Refines (readings.foldl Metering.update {})
      ((readings.map fun r => r.totalBytes.toNat).foldl Meter.read Meter.restarted) := by
  rw [List.foldl_map]
  exact List.foldl_rel refines_start fun r _ m meter h => h.update r

theorem Refines.accounted {m : Metering} {meter : Meter ℕ} (h : Refines m meter)
    (hExact : meter.Exact) : Accounted m where
  noUnderflow c hc := (h.counted c hc).le
  bits c hc := (h.counted c hc).bits
  restart c hc hRestarts := by
    obtain ⟨hCount, hBits⟩ := h.counted c hc
    rw [hBits, hCount, countBytes_of_lt (of_decide_eq_true hRestarts)]
    exact ⟨rfl, rfl, rfl⟩
  sum := by
    have hBetween : ∀ c ∈ m.sinceRestart,
        c.count.bytesBetween.toNat = c.span.upper - c.span.lower := fun c hc =>
      UInt64.toNat_sub_of_le _ _ (h.counted c ((List.takeWhile_prefix _).subset hc)).le
    rw [List.map_congr_left hBetween, h.last, ← hExact.sum, ← h.spans, List.map_map]
    rfl
  latest c hc := by
    rw [h.latest c hc, (h.counted c (List.mem_of_mem_head? hc)).count]
    cases hRestarts : c.restarts with
    | true => rw [countBytes_of_lt (of_decide_eq_true hRestarts), if_pos rfl]
    | false =>
      have hLe := UInt64.not_lt.mp (of_decide_eq_false hRestarts)
      rw [countBytes_of_le hLe, if_neg Bool.false_ne_true]
  once byte := by
    rw [h.last, ← hExact.once byte, ← h.spans, List.countP_map]
    rfl

theorem throughput_accounted (readings : List Reading) :
    Accounted (readings.foldl Metering.update {}) :=
  (refines_run readings).accounted (Meter.exact_run _)

/-- Nothing ever sets the initial frames, so the metric has the totals of the output. -/
structure CountsAllFrames (s : Statistics) : Prop where
  initialTotalFrames : s.initialTotalFrames = 0
  initialDroppedFrames : s.initialDroppedFrames = 0
  metric : ∀ obs output,
    (updateStatistics obs output s).put.metric.totalFrames = obs.framesOf output ∧
      (updateStatistics obs output s).put.metric.droppedFrames = obs.droppedOf output

theorem countsAllFrames_of_zero {s : Statistics} (hTotal : s.initialTotalFrames = 0)
    (hDropped : s.initialDroppedFrames = 0) : CountsAllFrames s := by
  refine ⟨hTotal, hDropped, fun obs output => ?_⟩
  simp only [updateStatistics, hTotal, hDropped, ite_self, Int32.sub_zero, and_self]

theorem countsAllFrames_run (readings : List Reading) :
    CountsAllFrames (readings.foldl Metering.update {}).statistics := by
  apply List.foldlRecOn (motive := fun m : Metering => CountsAllFrames m.statistics) readings
    Metering.update (countsAllFrames_of_zero rfl rfl)
  intro m h r _
  apply countsAllFrames_of_zero
  · simp only [Metering.update, updateStatistics, h.initialTotalFrames, ite_self]
  · simp only [Metering.update, updateStatistics, h.initialDroppedFrames, ite_self]

end Metering

end SrcLink.EgressLinkOutput
