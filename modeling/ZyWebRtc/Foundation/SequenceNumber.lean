import Mathlib.Data.UInt

namespace ZyWebRtc

/-! Sequence numbers of 16 bits, which wrap, and the unbounded numbers behind
them. -/

/-- Newer on the half of the circle in front of the previous number. -/
def isNewerSequenceNumber (sequenceNumber prevSequenceNumber : UInt16) : Bool :=
  sequenceNumber ≠ prevSequenceNumber && sequenceNumber - prevSequenceNumber < 0x8000

def latestSequenceNumber (first second : UInt16) : UInt16 :=
  if isNewerSequenceNumber first second then first else second

/-- Newer on the half of the circle of timestamps. -/
def isNewerTimestamp (timestamp prevTimestamp : UInt32) : Bool :=
  timestamp ≠ prevTimestamp && timestamp - prevTimestamp < 0x80000000

example : isNewerSequenceNumber 2 65530 = true := by decide

theorem toNat_ofInt16 (number : Int) :
    ((UInt16.ofInt number).toNat : Int) = number % 65536 := by
  rw [UInt16.ofInt, UInt16.toNat_ofNat']
  omega

theorem toNat_ofInt16_natCast (number : Nat) : (UInt16.ofInt number).toNat = number % 65536 := by
  have cast := toNat_ofInt16 number
  omega

theorem ofInt16_toNat (number : UInt16) : UInt16.ofInt number.toNat = number := by
  apply UInt16.toNat_inj.mp
  have back := toNat_ofInt16 number.toNat
  have bound := number.toNat_lt
  omega

theorem ofInt16_inj {first second : Int} :
    UInt16.ofInt first = UInt16.ofInt second ↔ first % 65536 = second % 65536 := by
  rw [← UInt16.toNat_inj, ← Int.natCast_inj, toNat_ofInt16, toNat_ofInt16]

theorem ofInt16_sub (first second : Int) :
    UInt16.ofInt first - UInt16.ofInt second = UInt16.ofInt (first - second) := by
  rw [sub_eq_add_neg, ← UInt16.ofInt_neg, ← UInt16.ofInt_add, sub_eq_add_neg]

/-- The comparison on the unbounded numbers. -/
theorem isNewerSequenceNumber_ofInt {first second : Int} :
    isNewerSequenceNumber (UInt16.ofInt first) (UInt16.ofInt second) = true ↔
      (first - second) % 65536 ≠ 0 ∧ (first - second) % 65536 < 32768 := by
  rw [isNewerSequenceNumber, ofInt16_sub, Bool.and_eq_true, decide_eq_true_eq, decide_eq_true_eq,
    UInt16.lt_iff_toNat_lt, show (0x8000 : UInt16).toNat = 32768 from rfl, ne_eq, ofInt16_inj]
  have difference := toNat_ofInt16 (first - second)
  omega

end ZyWebRtc
