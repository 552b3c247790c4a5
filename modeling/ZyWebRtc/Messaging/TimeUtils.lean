import Mathlib.Data.UInt
import Mathlib.Tactic

namespace ZyWebRtc.Messaging

/-! Milliseconds of 32 bits, which wrap, and the unbounded times behind them. -/

open UInt32

def HALF : UInt32 := 0x80000000

def timeAfter (time : UInt32) (elapsed : Int32) : UInt32 := time + elapsed.toUInt32

def timeIsLater (earlier later : UInt32) : Bool :=
  let diff := (later - earlier).toInt32
  0 < diff && diff.toUInt32 < HALF

def timeDiff (later earlier : UInt32) : Int32 := (later - earlier).toInt32

def timeUntil (time later : UInt32) : Int32 := timeDiff later time

example : timeIsLater 0xffffffff 1 = true := by decide

theorem toNat_ofInt (time : Int) : ((UInt32.ofInt time).toNat : Int) = time % 4294967296 := by
  rw [UInt32.ofInt, toNat_ofNat']
  omega

theorem ofInt_inj {first second : Int} :
    UInt32.ofInt first = UInt32.ofInt second ↔ first % 4294967296 = second % 4294967296 := by
  rw [← UInt32.toNat_inj, ← Int.natCast_inj, toNat_ofInt, toNat_ofInt]

theorem ofInt_sub (first second : Int) :
    UInt32.ofInt first - UInt32.ofInt second = UInt32.ofInt (first - second) := by
  rw [sub_eq_add_neg, ← UInt32.ofInt_neg, ← ofInt_add, sub_eq_add_neg]

theorem toInt_toInt32 (number : UInt32) : number.toInt32.toInt = (number.toNat : Int).bmod (2 ^ 32) := by
  change number.toBitVec.toInt = _
  rw [BitVec.toInt_eq_toNat_bmod]
  rfl

theorem toUInt32_eq (number : Int32) : number.toUInt32 = UInt32.ofInt number.toInt := by
  rw [← toUInt32_toInt32 (UInt32.ofInt number.toInt)]
  congr 1
  rw [← Int32.toInt_inj, toInt_toInt32, toNat_ofInt]
  have lower := number.le_toInt
  have upper := number.toInt_lt
  rw [Int.bmod_def]
  split_ifs <;> omega

theorem timeAfter_ofInt (time : Int) (elapsed : Int32) :
    timeAfter (UInt32.ofInt time) elapsed = UInt32.ofInt (time + elapsed.toInt) := by
  rw [timeAfter, toUInt32_eq, ← ofInt_add]

theorem ofInt_timeUntil (time : Int) (later : UInt32) :
    UInt32.ofInt (time + (timeUntil (UInt32.ofInt time) later).toInt) = later := by
  rw [ofInt_add, ← toUInt32_eq, timeUntil, timeDiff, toUInt32_toInt32]
  exact add_sub_cancel _ _

/-- Times that are compared rightly. -/
def InWindow (current trigger : Int) : Prop :=
  trigger < current + 2147483648 ∧ current ≤ trigger + 2147483648

theorem timeIsLater_ofInt {current trigger : Int} (window : InWindow current trigger) :
    timeIsLater (UInt32.ofInt current) (UInt32.ofInt trigger) = true ↔ current < trigger := by
  rcases window with ⟨ahead, behind⟩
  have difference : ((UInt32.ofInt trigger - UInt32.ofInt current).toInt32).toInt =
      (trigger - current).bmod (2 ^ 32) := by
    rw [ofInt_sub, toInt_toInt32, toNat_ofInt]
    exact Int.emod_bmod _ _
  rw [Int.bmod_def] at difference
  rw [timeIsLater, toUInt32_toInt32, Bool.and_eq_true, decide_eq_true_eq,
    decide_eq_true_eq, Int32.lt_iff_toInt_lt, difference, lt_iff_toNat_lt, ofInt_sub]
  have number := toNat_ofInt (trigger - current)
  change _ ∧ (UInt32.ofInt (trigger - current)).toNat < 2147483648 ↔ _
  change (0 : Int) < _ ∧ _ ↔ _
  split_ifs <;> omega

theorem ofInt_lt_ofInt {first second : Int} (sameEra : first / 4294967296 = second / 4294967296) :
    UInt32.ofInt first < UInt32.ofInt second ↔ first < second := by
  have firstNumber := toNat_ofInt first
  have secondNumber := toNat_ofInt second
  rw [lt_iff_toNat_lt]
  omega

theorem ofInt_eq_ofInt {first second : Int} (sameEra : first / 4294967296 = second / 4294967296) :
    UInt32.ofInt first = UInt32.ofInt second ↔ first = second := by
  rw [ofInt_inj]
  omega

end ZyWebRtc.Messaging
