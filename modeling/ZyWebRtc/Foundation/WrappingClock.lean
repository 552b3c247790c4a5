import Mathlib.Tactic

namespace ZyWebRtc.WrappingClock

/-! A clock that shows the time in 32 bits, and deadlines that are looked for on it. -/

/-- What the clock shows at a time. -/
def reading (time : Nat) : UInt32 := UInt32.ofNat time

/-- How often the clock has wrapped by a time. -/
def wraps (time : Nat) : Nat := time / 4294967296

variable {start now : Nat} {delay : UInt32}

/-- The deadline seems to have passed. -/
theorem reading_add_lt_iff :
    reading start + delay < reading now ↔
      (start + delay.toNat) % 4294967296 < now % 4294967296 := by
  rw [UInt32.lt_iff_toNat_lt, UInt32.toNat_add, reading, reading, UInt32.toNat_ofNat',
    UInt32.toNat_ofNat']
  omega

/-- A deadline up to the next wrap of the clock has passed where it seems to have. -/
theorem passed_of_reading (near : wraps (start + delay.toNat) ≤ wraps now)
    (seems : reading start + delay < reading now) : start + delay.toNat < now := by
  rw [reading_add_lt_iff] at seems
  rw [wraps, wraps] at near
  omega

/-- A deadline beyond the next wrap of the clock seems to have passed. -/
theorem reading_of_wraps (past : start ≤ now) (short : delay.toNat ≤ 2147483648)
    (beyond : wraps now < wraps (start + delay.toNat)) :
    reading start + delay < reading now := by
  rw [reading_add_lt_iff]
  rw [wraps, wraps] at beyond
  omega

end ZyWebRtc.WrappingClock
