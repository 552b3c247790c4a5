import ZyWebRtc.Fec.Generator

namespace ZyWebRtc.Fec

/-! What the columns of a mask row hold while `InsertZerosInBitMasks` widens it. -/

theorem testBit_shiftLeft (byte : UInt8) {count : Nat} (small : count < 8) (bit : Nat) :
    (byte <<< UInt8.ofNat count).toNat.testBit bit =
      (decide (bit < 8) && (decide (count ≤ bit) && byte.toNat.testBit (bit - count))) := by
  rw [UInt8.toNat_shiftLeft, UInt8.toNat_ofNat', Nat.mod_eq_of_lt (by omega : count < 2 ^ 8),
    Nat.mod_eq_of_lt small, Nat.testBit_mod_two_pow, Nat.testBit_shiftLeft]

theorem testBit_highestBit (byte : UInt8) (bit : Nat) :
    ((byte &&& 0x80) >>> 7).toNat.testBit bit = (decide (bit = 0) && byte.toNat.testBit 7) := by
  rw [UInt8.toNat_shiftRight, Nat.testBit_shiftRight, UInt8.toNat_and, Nat.testBit_and,
    show (0x80 : UInt8).toNat = 2 ^ 7 from rfl, Nat.testBit_two_pow]
  change (_ && decide (7 = 7 + bit)) = _
  by_cases first : bit = 0
  · rw [first, Nat.add_zero, decide_eq_true rfl, decide_eq_true rfl, Bool.and_true, Bool.true_and]
    rfl
  · rw [decide_eq_false first, decide_eq_false (by omega), Bool.and_false, Bool.false_and]

def rowBit (row : Bytes) (column : Nat) : Bool :=
  (row.byteValue (column / 8)).toNat.testBit (7 - column % 8)

theorem byteValue_modify (row : Bytes) (change : UInt8 → UInt8) {position index : Nat}
    (inside : index < row.length) :
    Bytes.byteValue (row.modify position change) index =
      if position = index then change (row.byteValue index) else row.byteValue index := by
  rw [Bytes.byteValue, Bytes.byteValue, Bytes.byteAt, Bytes.byteAt, List.getElem?_modify,
    List.getElem?_eq_getElem inside]
  split_ifs <;> rfl

theorem changeColumn_inside {row : Bytes} {bitIndex : Nat} (inside : bitIndex < 8 * row.length)
    (change : UInt8 → UInt8) :
    changeColumn bitIndex change row = some (row.modify (bitIndex / 8) change) := if_pos (by omega)

/-! ## The new row -/

/-- The bits of a byte when the columns before `filled` are there. The byte that is being filled has
its last column in the bit above the lowest one. -/
def filledBit (content : Nat → Bool) (filled byteIndex bit : Nat) : Bool :=
  if byteIndex < filled / 8 then content (8 * byteIndex + (7 - bit))
  else if byteIndex = filled / 8 then
    decide (1 ≤ bit ∧ bit ≤ filled % 8) && content (8 * byteIndex + (filled % 8 - bit))
  else false

structure Filled (content : Nat → Bool) (numBytes filled : Nat) (row : Bytes) : Prop where
  length : row.length = numBytes
  bits : ∀ byteIndex < numBytes, ∀ bit < 8,
    (row.byteValue byteIndex).toNat.testBit bit = filledBit content filled byteIndex bit

namespace Filled

variable {content : Nat → Bool} {numBytes filled : Nat} {row : Bytes}

theorem zeros (content : Nat → Bool) (numBytes : Nat) :
    Filled content numBytes 0 (List.replicate numBytes 0) := by
  refine ⟨List.length_replicate, fun byteIndex inside bit _ => ?_⟩
  rw [Bytes.byteValue, Bytes.byteAt, List.getElem?_replicate_of_lt inside, filledBit,
    if_neg (Nat.not_lt_zero _)]
  have none : decide (1 ≤ bit ∧ bit ≤ 0 % 8) = false := decide_eq_false (by omega)
  rw [none]
  split_ifs <;> exact Nat.zero_testBit bit

theorem change (holds : Filled content numBytes filled row) {filled' : Nat}
    {change : UInt8 → UInt8}
    (changed : ∀ bit < 8, (change (row.byteValue (filled / 8))).toNat.testBit bit =
      filledBit content filled' (filled / 8) bit)
    (others : ∀ byteIndex < numBytes, byteIndex ≠ filled / 8 → ∀ bit < 8,
      filledBit content filled byteIndex bit = filledBit content filled' byteIndex bit) :
    Filled content numBytes filled' (row.modify (filled / 8) change) := by
  refine ⟨by rw [List.length_modify, holds.length], fun byteIndex inside bit small => ?_⟩
  rw [byteValue_modify _ _ (holds.length ▸ inside)]
  split_ifs with here
  · rw [← here]
    exact changed bit small
  · rw [holds.bits byteIndex inside bit small]
    exact others byteIndex inside (fun same => here same.symm) bit small

theorem filledBit_last (content : Nat → Bool) (filled bit : Nat) :
    filledBit content filled (filled / 8) bit = (decide (1 ≤ bit ∧ bit ≤ filled % 8) &&
        content (8 * (filled / 8) + (filled % 8 - bit))) := by
  rw [filledBit, if_neg (Nat.lt_irrefl _), if_pos rfl]

theorem filledBit_of_zeros {numZeros byteIndex bit : Nat}
    (zeros : ∀ column, filled ≤ column → column < filled + numZeros → content column = false)
    (other : byteIndex ≠ filled / 8) (small : bit < 8) :
    filledBit content filled byteIndex bit = filledBit content (filled + numZeros) byteIndex bit := by
  rw [filledBit, filledBit, if_neg other]
  split_ifs with before full last
  · rfl
  · omega
  · omega
  · exact (zeros _ (by omega) (by omega)).symm
  · by_cases inside : 1 ≤ bit ∧ bit ≤ (filled + numZeros) % 8
    · rw [zeros _ (by omega) (by omega), Bool.and_false]
    · rw [decide_eq_false inside, Bool.false_and]
  · rfl

theorem insertZeros (holds : Filled content numBytes filled row) (inside : filled < 8 * numBytes)
    (numZeros : Nat)
    (zeros : ∀ column, filled ≤ column → column < filled + numZeros → content column = false) :
    Filled content numBytes (filled + numZeros) (row.modify (filled / 8)
      (· <<< UInt8.ofNat (min numZeros (7 - filled % 8)))) := by
  apply holds.change
  · intro bit small
    rw [testBit_shiftLeft _ (by omega), decide_eq_true small, Bool.true_and,
      holds.bits _ (by omega) _ (by omega), filledBit_last]
    by_cases sameByte : filled % 8 + numZeros ≤ 7
    · rw [Nat.min_eq_left (by omega), show filled / 8 = (filled + numZeros) / 8 by omega,
        filledBit_last]
      by_cases behind : numZeros < bit
      · rw [decide_eq_true behind.le, Bool.true_and]
        by_cases column : bit ≤ filled % 8 + numZeros
        · rw [decide_eq_true (by omega), decide_eq_true (by omega)]
          congr 2
          omega
        · rw [decide_eq_false (by omega), decide_eq_false (by omega), Bool.false_and,
            Bool.false_and]
      · rw [decide_eq_false (show ¬ (1 ≤ bit - numZeros ∧ _) by omega), Bool.false_and,
          Bool.and_false]
        by_cases column : 1 ≤ bit
        · rw [zeros _ (by omega) (by omega), Bool.and_false]
        · rw [decide_eq_false (by omega), Bool.false_and]
    · rw [Nat.min_eq_right (by omega), filledBit, if_pos (by omega)]
      by_cases behind : 7 - filled % 8 < bit
      · rw [decide_eq_true behind.le, Bool.true_and, decide_eq_true (by omega), Bool.true_and]
        congr 1
        omega
      · rw [decide_eq_false (show ¬ (1 ≤ bit - (7 - filled % 8) ∧ _) by omega), Bool.false_and,
          Bool.and_false, zeros _ (by omega) (by omega)]
  · exact fun byteIndex _ other bit small => filledBit_of_zeros zeros other small

theorem filledBit_succ {byteIndex bit : Nat} (other : byteIndex ≠ filled / 8) (small : bit < 8) :
    filledBit content filled byteIndex bit = filledBit content (filled + 1) byteIndex bit := by
  rw [filledBit, filledBit, if_neg other]
  split_ifs with before full last
  · rfl
  · omega
  · omega
  · omega
  · rw [decide_eq_false (by omega), Bool.false_and]
  · rfl

/-- A column is copied: its bit is put below the others, and moved up unless the byte is full. -/
theorem copy (holds : Filled content numBytes filled row) (inside : filled < 8 * numBytes)
    {oldByte : UInt8} (copied : oldByte.toNat.testBit 7 = content filled) :
    Filled content numBytes (filled + 1) (row.modify (filled / 8) fun byte =>
      if filled % 8 ≠ 7 then (byte ||| ((oldByte &&& 0x80) >>> 7)) <<< 1
      else byte ||| ((oldByte &&& 0x80) >>> 7)) := by
  apply holds.change
  · intro bit small
    have joined : ∀ bit < 8, (row.byteValue (filled / 8) |||
        ((oldByte &&& 0x80) >>> 7)).toNat.testBit bit =
        (decide (bit ≤ filled % 8) && content (8 * (filled / 8) + (filled % 8 - bit))) := by
      intro bit small
      rw [UInt8.toNat_or, Nat.testBit_or, testBit_highestBit, copied,
        holds.bits _ (by omega) _ small, filledBit_last]
      by_cases first : bit = 0
      · rw [first, decide_eq_false (by omega), Bool.false_and, Bool.false_or, decide_eq_true rfl,
          Bool.true_and, decide_eq_true (Nat.zero_le _), Bool.true_and]
        congr 1
        omega
      · rw [decide_eq_false first, Bool.false_and, Bool.or_false]
        by_cases column : bit ≤ filled % 8
        · rw [decide_eq_true column, decide_eq_true ⟨by omega, column⟩]
        · rw [decide_eq_false column, decide_eq_false (by omega)]
    by_cases last : filled % 8 = 7
    · rw [if_neg (Decidable.not_not.mpr last), joined bit small, filledBit, if_pos (by omega),
        decide_eq_true (by omega), Bool.true_and, last]
    · rw [if_pos last]
      have shifted := testBit_shiftLeft (row.byteValue (filled / 8) |||
        ((oldByte &&& 0x80) >>> 7)) (show 1 < 8 by decide) bit
      rw [show UInt8.ofNat 1 = 1 from rfl] at shifted
      rw [shifted, decide_eq_true small, Bool.true_and, joined _ (by omega),
        show filled / 8 = (filled + 1) / 8 by omega, filledBit_last]
      by_cases column : 1 ≤ bit ∧ bit ≤ (filled + 1) % 8
      · rw [decide_eq_true column, decide_eq_true column.1, decide_eq_true (by omega)]
        rw [Bool.true_and, Bool.true_and, Bool.true_and]
        congr 1
        omega
      · rw [decide_eq_false column, Bool.false_and]
        by_cases first : 1 ≤ bit
        · rw [decide_eq_false (show ¬ bit - 1 ≤ filled % 8 by omega), Bool.false_and,
            Bool.and_false]
        · rw [decide_eq_false first, Bool.false_and]
  · exact fun byteIndex _ other bit small => filledBit_succ other small

theorem finish (holds : Filled content numBytes filled row) (inside : filled < 8 * numBytes)
    (zeros : ∀ column, filled ≤ column → content column = false) :
    ∀ column < 8 * numBytes, rowBit (row.modify (filled / 8)
      (· <<< UInt8.ofNat (7 - filled % 8))) column = content column := by
  have full := holds.insertZeros inside (8 - filled % 8) fun column behind _ => zeros column behind
  rw [Nat.min_eq_right (by omega)] at full
  intro column small
  rw [rowBit, full.bits _ (by omega) _ (by omega), filledBit]
  split_ifs with before here
  · congr 1
    omega
  · rw [decide_eq_false (by omega), Bool.false_and, zeros column (by omega)]
  · rw [zeros column (by omega)]

theorem finish_full (holds : Filled content numBytes filled row) (last : filled % 8 = 0)
    (zeros : ∀ column, filled ≤ column → content column = false) :
    ∀ column < 8 * numBytes, rowBit row column = content column := by
  intro column small
  rw [rowBit, holds.bits _ (by omega) _ (by omega), filledBit]
  split_ifs with before here
  · congr 1
    omega
  · rw [decide_eq_false (by omega), Bool.false_and, zeros column (by omega)]
  · rw [zeros column (by omega)]

end Filled

/-- The columns from `shifted` on, the first of them in the highest bit of its byte. -/
structure ShiftedOut (original : Bytes) (shifted : Nat) (row : Bytes) : Prop where
  length : row.length = original.length
  bits : ∀ byteIndex < original.length, shifted / 8 ≤ byteIndex → ∀ bit < 8,
    (row.byteValue byteIndex).toNat.testBit bit = if byteIndex = shifted / 8 then
        decide (shifted % 8 ≤ bit) &&
          (original.byteValue byteIndex).toNat.testBit (bit - shifted % 8)
      else (original.byteValue byteIndex).toNat.testBit bit

namespace ShiftedOut

variable {original row : Bytes} {shifted : Nat}

theorem start (original : Bytes) : ShiftedOut original 0 original := by
  refine ⟨rfl, fun byteIndex _ _ bit _ => ?_⟩
  split_ifs
  · rw [decide_eq_true (Nat.zero_le bit), Bool.true_and]
    rfl
  · rfl

theorem highestBit (holds : ShiftedOut original shifted row)
    (inside : shifted < 8 * original.length) :
    (row.byteValue (shifted / 8)).toNat.testBit 7 = rowBit original shifted := by
  rw [holds.bits _ (by omega) (Nat.le_refl _) 7 (by decide), if_pos rfl,
    decide_eq_true (by omega), Bool.true_and, rowBit]

theorem shiftOut (holds : ShiftedOut original shifted row) :
    ShiftedOut original (shifted + 1) (row.modify (shifted / 8) (· <<< 1)) := by
  refine ⟨by rw [List.length_modify, holds.length], fun byteIndex small notPassed bit bitSmall => ?_⟩
  rw [byteValue_modify _ _ (holds.length ▸ small)]
  by_cases here : shifted / 8 = byteIndex
  · have shiftedByte := testBit_shiftLeft (row.byteValue byteIndex) (show 1 < 8 by decide) bit
    rw [show UInt8.ofNat 1 = 1 from rfl] at shiftedByte
    rw [if_pos here, shiftedByte, decide_eq_true bitSmall, Bool.true_and,
      holds.bits byteIndex small (by omega) (bit - 1) (by omega), if_pos here.symm,
      if_pos (by omega)]
    have remainder : (shifted + 1) % 8 = shifted % 8 + 1 := by omega
    rw [remainder]
    by_cases column : shifted % 8 + 1 ≤ bit
    · rw [decide_eq_true (show 1 ≤ bit by omega), decide_eq_true (by omega), decide_eq_true column]
      rw [Bool.true_and, Bool.true_and, Bool.true_and]
      congr 1
      omega
    · rw [decide_eq_false column, Bool.false_and]
      by_cases first : 1 ≤ bit
      · rw [decide_eq_false (show ¬ shifted % 8 ≤ bit - 1 by omega), Bool.false_and, Bool.and_false]
      · rw [decide_eq_false first, Bool.false_and]
  · rw [if_neg here, holds.bits byteIndex small (by omega) bit bitSmall,
      if_neg (fun same => here same.symm)]
    split_ifs with next
    · rw [show (shifted + 1) % 8 = 0 by omega, decide_eq_true (Nat.zero_le bit), Bool.true_and]
      rfl
    · rfl

end ShiftedOut

end ZyWebRtc.Fec
