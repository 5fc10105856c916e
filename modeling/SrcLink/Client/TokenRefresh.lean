import Mathlib.Algebra.Ring.Nat
import SrcLink.Client.ApiClient

/-! # Scheduling the next token refresh

`tokenRefreshTimer` is to fire one minute before the token expires. Its delay is
computed in `int`, of which the product with 1000 and the clock in milliseconds have
long left the range; the difference comes out right as long as it fits an `int`.
-/

namespace SrcLink.ApiClient

set_option autoImplicit false

/-- `QDateTime::currentSecsSinceEpoch` at the time of a clock in milliseconds. -/
def currentSecsSinceEpoch (now : Int64) : Int := now.toInt / 1000

def tokenExpired (expires : Int32) (now : Int64) : Bool :=
  (expires - 60).toInt ≤ currentSecsSinceEpoch now

def refreshDelay (expires : Int32) (now : Int64) : Int32 := expires * 1000 - 60000 - now.toInt32

/-- The constructor, and the delay that it starts `tokenRefreshTimer` with. -/
def constructTimer (uuid : String) (settings : Settings) (linked refreshToken : Bool)
    (expires : Int32) (now : Int64) : State × Option Int32 :=
  let expired := tokenExpired expires now
  (construct uuid settings linked refreshToken expired,
    if expired then none else some (refreshDelay expires now))

def onO2RefreshFinished (refreshToken : Bool) (error : NetworkError) (expires : Int32)
    (now : Int64) : Option Int32 :=
  if error ≠ .noError then none
  else if !refreshToken then none
  else some (refreshDelay expires now)

/-- The milliseconds until one minute before the token expires. -/
def untilRefresh (expires : Int32) (now : Int64) : Int :=
  expires.toInt * 1000 - 60000 - now.toInt

/-- Both places start the timer with the exact delay. -/
structure ScheduledExactly (expires : Int32) (now : Int64) : Prop where
  constructed : ∀ uuid settings linked refreshToken, ∃ delay,
    (constructTimer uuid settings linked refreshToken expires now).2 = some delay ∧
      delay.toInt = untilRefresh expires now
  refreshed : ∃ delay, onO2RefreshFinished true .noError expires now = some delay ∧
    delay.toInt = untilRefresh expires now

section Delay

variable {expires : Int32} {now : Int64}

/-- However often the steps wrap around, the result is the exact one up to one wrap-around. -/
theorem refreshDelay_toInt (expires : Int32) (now : Int64) :
    (refreshDelay expires now).toInt = (untilRefresh expires now).bmod (2 ^ 32) := by
  have hThousand : (1000 : Int32).toInt = 1000 := by decide
  have hMinute : (60000 : Int32).toInt = 60000 := by decide
  rw [refreshDelay, Int32.toInt_sub, Int32.toInt_sub, Int32.toInt_mul, Int64.toInt_toInt32,
    hThousand, hMinute, Int.bmod_sub_bmod, Int.sub_bmod_bmod, Int.sub_sub, Int.bmod_sub_bmod,
    ← Int.sub_sub, untilRefresh]

theorem sub_sixty_le (expires : Int32) : expires.toInt - 60 ≤ (expires - 60).toInt := by
  have hSixty : (60 : Int32).toInt = 60 := by decide
  have hHigh := expires.toInt_lt
  rw [Int32.toInt_sub, hSixty]
  -- a wrap-around only makes the expiry later
  by_cases hLow : -2 ^ 31 ≤ expires.toInt - 60
  · rw [Int.bmod_eq_of_le_mul_two (by omega) (by omega)]
  · have hBound := (expires - 60).le_toInt
    rw [Int32.toInt_sub, hSixty] at hBound
    omega

theorem not_expired (hLater : currentSecsSinceEpoch now < expires.toInt - 60) :
    tokenExpired expires now = false := by
  rw [tokenExpired, decide_eq_false_iff_not]
  exact not_le_of_gt (lt_of_lt_of_le hLater (sub_sixty_le expires))

theorem untilRefresh_pos (hLater : currentSecsSinceEpoch now < expires.toInt - 60) :
    0 < untilRefresh expires now := by
  rw [currentSecsSinceEpoch] at hLater
  rw [untilRefresh]
  omega

theorem refreshDelay_exact_iff (hLater : currentSecsSinceEpoch now < expires.toInt - 60) :
    (refreshDelay expires now).toInt = untilRefresh expires now ↔
      untilRefresh expires now < 2 ^ 31 := by
  constructor
  · intro hExact
    exact hExact ▸ (refreshDelay expires now).toInt_lt
  · intro hFits
    have hPos := untilRefresh_pos hLater
    rw [refreshDelay_toInt]
    exact Int.bmod_eq_of_le_mul_two (by omega) (by omega)

/-- While the token is valid for more than a minute, the delay is right exactly if it fits an
`int`, which is up to almost 25 days. -/
theorem scheduledExactly_iff (hLater : currentSecsSinceEpoch now < expires.toInt - 60) :
    ScheduledExactly expires now ↔ untilRefresh expires now < 2 ^ 31 := by
  rw [← refreshDelay_exact_iff hLater]
  constructor
  · intro hScheduled
    obtain ⟨delay, hDelay, hExact⟩ := hScheduled.refreshed
    obtain rfl : refreshDelay expires now = delay := Option.some.inj hDelay
    exact hExact
  · intro hExact
    constructor
    · intro uuid settings linked refreshToken
      refine ⟨refreshDelay expires now, ?_, hExact⟩
      simp only [constructTimer, not_expired hLater, Bool.false_eq_true, if_false]
    · exact ⟨refreshDelay expires now, rfl, hExact⟩

end Delay

theorem scheduledExactly_iff_hour :
    ScheduledExactly 1700003600 1700000000000 ↔ untilRefresh 1700003600 1700000000000 < 2 ^ 31 :=
  scheduledExactly_iff (by decide)

theorem thirtyDays_not_scheduledExactly :
    ¬∀ (expires : Int32) (now : Int64), currentSecsSinceEpoch now < expires.toInt - 60 →
      ScheduledExactly expires now := by
  intro hAll
  obtain ⟨delay, hDelay, hExact⟩ := (hAll 1702592000 1700000000000 (by decide)).refreshed
  obtain rfl : refreshDelay 1702592000 1700000000000 = delay := Option.some.inj hDelay
  exact absurd hExact (by decide)

end SrcLink.ApiClient
