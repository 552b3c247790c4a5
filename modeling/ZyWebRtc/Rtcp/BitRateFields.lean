import ZyWebRtc.Rtcp.Parser
import ZyWebRtc.Rtcp.SenderBlocks

namespace ZyWebRtc.Rtcp

/-! Bit rates on the wire, as a mantissa and an exponent: what the sender writes of a rate and
what the parser makes of any field. -/

open Bytes RTCPSender RTCPParserV2
open UInt32

def largestRembMantissa : UInt32 := 262143

def largestTmmbrMantissa : UInt32 := 131071

section Exponent

variable {bitRate largest : UInt32}

theorem exponentFor_lt : (exponentFor bitRate largest).toNat < 64 := by
  rw [exponentFor]
  cases found : ((List.range 64).map UInt32.ofNat).find? fun exponent =>
      bitRate ≤ largest <<< exponent with
  | none => decide
  | some exponent =>
    rcases List.mem_map.mp (List.mem_of_find?_eq_some found) with ⟨index, member, rfl⟩
    have bound := List.mem_range.mp member
    rw [Option.getD_some, toNat_ofNat', Nat.mod_eq_of_lt (by omega)]
    exact bound

theorem exponentFor_reaches {last : Nat} (inRange : last < 64)
    (exact : ∀ index ≤ last, (largest <<< UInt32.ofNat index).toNat = largest.toNat * 2 ^ index)
    (reached : bitRate.toNat ≤ largest.toNat * 2 ^ last) :
    (exponentFor bitRate largest).toNat ≤ last ∧
      bitRate.toNat ≤ largest.toNat * 2 ^ (exponentFor bitRate largest).toNat := by
  have reaches : ∀ index ≤ last,
      (bitRate ≤ largest <<< UInt32.ofNat index ↔ bitRate.toNat ≤ largest.toNat * 2 ^ index) := by
    intro index small
    rw [le_iff_toNat_le, exact index small]
  rw [exponentFor, List.find?_map]
  cases found : (List.range 64).find?
      ((fun exponent => decide (bitRate ≤ largest <<< exponent)) ∘ UInt32.ofNat) with
  | none =>
    have unreached := List.find?_eq_none.mp found last (List.mem_range.mpr inRange)
    exact absurd ((reaches last (Nat.le_refl _)).mpr reached) (by simpa using unreached)
  | some index =>
    rcases List.find?_range_eq_some.mp found with ⟨holds, member, before⟩
    have atMost : index ≤ last := by
      by_contra behind
      have unreached := before last (by omega)
      exact absurd ((reaches last (Nat.le_refl _)).mpr reached) (by simpa using unreached)
    have value : (UInt32.ofNat index).toNat = index := by
      rw [toNat_ofNat', Nat.mod_eq_of_lt (by omega)]
    rw [Option.map_some, Option.getD_some, value]
    exact ⟨atMost, (reaches index atMost).mp (by simpa using holds)⟩

theorem exponentFor_unreached
    (unreached : ∀ index < 64, (largest <<< UInt32.ofNat index).toNat < bitRate.toNat) :
    exponentFor bitRate largest = 0 := by
  have nothing : (((List.range 64).map UInt32.ofNat).find? fun exponent =>
      bitRate ≤ largest <<< exponent) = none := by
    rw [List.find?_eq_none]
    intro exponent member
    rcases List.mem_map.mp member with ⟨index, inside, rfl⟩
    rw [decide_eq_true_eq, le_iff_toNat_le]
    exact Nat.not_le.mpr (unreached index (List.mem_range.mp inside))
  rw [exponentFor, nothing, Option.getD_none]

end Exponent

theorem rembMantissa_shift : ∀ index ≤ 14,
    (largestRembMantissa <<< UInt32.ofNat index).toNat = largestRembMantissa.toNat * 2 ^ index := by
  decide

theorem tmmbrMantissa_shift : ∀ index ≤ 15, (largestTmmbrMantissa <<< UInt32.ofNat index).toNat =
      largestTmmbrMantissa.toNat * 2 ^ index := by
  decide

theorem rembMantissa_below : ∀ index < 64,
    (largestRembMantissa <<< UInt32.ofNat index).toNat ≤ 262143 * 2 ^ 14 := by
  decide

theorem tmmbrMantissa_below : ∀ index < 64,
    (largestTmmbrMantissa <<< UInt32.ofNat index).toNat ≤ 131071 * 2 ^ 15 := by
  decide

/-! ## The fields -/

def wireBitRate (mantissa exponent : Nat) : Nat := mantissa * 2 ^ exponent

theorem shiftLeft_toNat (mantissa exponent : UInt32) :
    (mantissa <<< exponent).toNat = mantissa.toNat * 2 ^ (exponent.toNat % 32) % 2 ^ 32 := by
  rw [UInt32.toNat_shiftLeft, Nat.shiftLeft_eq]

theorem shiftRight_toNat (bitRate exponent : UInt32) :
    (bitRate >>> exponent).toNat = bitRate.toNat / 2 ^ (exponent.toNat % 32) := by
  rw [UInt32.toNat_shiftRight, Nat.shiftRight_eq_div_pow]

theorem low_toNat (word mask : UInt32) {width : Nat} (isMask : mask.toNat = 2 ^ width - 1) :
    (word &&& mask).toNat = word.toNat % 2 ^ width := by
  rw [UInt32.toNat_and, isMask, Nat.and_two_pow_sub_one_eq_mod]

def rembBytes (bitrate : UInt32) : Bytes :=
  let brExp := exponentFor bitrate 262143
  let brMantissa := bitrate >>> brExp
  [((brExp <<< 2) + ((brMantissa >>> 16) &&& 0x03)).toUInt8, (brMantissa >>> 8).toUInt8,
    brMantissa.toUInt8]

section Remb

variable (rate : UInt32)

def rembExponent : Nat := rate.toNat / 2 ^ 18 % 2 ^ 6

def rembMantissa : Nat := rate.toNat % 2 ^ 18

/-- What the parser makes of the field. -/
def rembDecoded : UInt32 := (rate &&& 0x3FFFF) <<< ((rate >>> 18) &&& 0x3F)

theorem rembDecoded_toNat : (rembDecoded rate).toNat =
    rembMantissa rate * 2 ^ (rembExponent rate % 32) % 2 ^ 32 := by
  rw [rembDecoded, shiftLeft_toNat, low_toNat _ _ (show (0x3FFFF : UInt32).toNat = 2 ^ 18 - 1 from rfl),
    low_toNat _ _ (show (0x3F : UInt32).toNat = 2 ^ 6 - 1 from rfl), shiftRight_toNat]
  rfl

end Remb

theorem uint24At_rembBytes (bitrate : UInt32) (rest : Bytes) : ∃ rate,
    (rembBytes bitrate ++ rest).uint24At 0 = some rate ∧
      rembExponent rate = (exponentFor bitrate 262143).toNat ∧
      rembMantissa rate = (bitrate >>> exponentFor bitrate 262143).toNat % 2 ^ 18 := by
  have small : (exponentFor bitrate 262143).toNat < 64 := exponentFor_lt
  refine ⟨_, rfl, ?_⟩
  generalize exponentFor bitrate 262143 = exponent at small ⊢
  generalize bitrate >>> exponent = mantissa
  have bound := mantissa.toNat_lt
  have top : ((mantissa >>> 16) &&& 0x03).toNat = mantissa.toNat / 2 ^ 16 % 2 ^ 2 := by
    rw [low_toNat _ _ (show (0x03 : UInt32).toNat = 2 ^ 2 - 1 from rfl), shiftRight_toNat]
    rfl
  have word : ((((exponent <<< 2) + ((mantissa >>> 16) &&& 0x03)).toUInt8.toUInt32 <<< 16) +
      ((mantissa >>> 8).toUInt8.toUInt32 <<< 8) + mantissa.toUInt8.toUInt32).toNat =
        exponent.toNat * 2 ^ 18 + mantissa.toNat % 2 ^ 18 := by
    simp only [UInt32.toNat_add, shiftLeft_toNat, UInt8.toNat_toUInt32, toNat_toUInt8, top,
      shiftRight_toNat, UInt32.reduceToNat, Nat.reducePow, Nat.reduceMod]
    omega
  rw [rembExponent, rembMantissa, word]
  omega

section Tmmbr

variable (word : UInt32)

def tmmbrExponent : Nat := word.toNat / 2 ^ 26 % 2 ^ 6

def tmmbrMantissa : Nat := word.toNat / 2 ^ 9 % 2 ^ 17

/-- What the parser makes of the field, in bits. -/
def tmmbrDecoded : UInt32 := ((word >>> 9) &&& 0x1FFFF) <<< ((word >>> 26) &&& 0x3F)

theorem tmmbrDecoded_toNat : (tmmbrDecoded word).toNat =
    tmmbrMantissa word * 2 ^ (tmmbrExponent word % 32) % 2 ^ 32 := by
  rw [tmmbrDecoded, shiftLeft_toNat,
    low_toNat _ _ (show (0x1FFFF : UInt32).toNat = 2 ^ 17 - 1 from rfl),
    low_toNat _ _ (show (0x3F : UInt32).toNat = 2 ^ 6 - 1 from rfl), shiftRight_toNat,
    shiftRight_toNat]
  rfl

end Tmmbr

theorem uint32At_tmmbrBytes (tmmbr packetOH : UInt32) (rest : Bytes) : ∃ word,
    (tmmbrBytes tmmbr packetOH ++ rest).uint32At 0 = some word ∧
      tmmbrExponent word = (exponentFor (tmmbr * 1000) 131071).toNat ∧
      tmmbrMantissa word =
        ((tmmbr * 1000) >>> exponentFor (tmmbr * 1000) 131071).toNat % 2 ^ 17 := by
  have small : (exponentFor (tmmbr * 1000) 131071).toNat < 64 := exponentFor_lt
  refine ⟨_, rfl, ?_⟩
  generalize exponentFor (tmmbr * 1000) 131071 = exponent at small ⊢
  generalize (tmmbr * 1000) >>> exponent = mantissa
  have bound := mantissa.toNat_lt
  have overhead := packetOH.toNat_lt
  have top : ((mantissa >>> 15) &&& 0x03).toNat = mantissa.toNat / 2 ^ 15 % 2 ^ 2 := by
    rw [low_toNat _ _ (show (0x03 : UInt32).toNat = 2 ^ 2 - 1 from rfl), shiftRight_toNat]
    rfl
  have carry : ((packetOH >>> 8) &&& 0x01).toNat = packetOH.toNat / 2 ^ 8 % 2 ^ 1 := by
    rw [low_toNat _ _ (show (0x01 : UInt32).toNat = 2 ^ 1 - 1 from rfl), shiftRight_toNat]
    rfl
  have value : ((((exponent <<< 2) + ((mantissa >>> 15) &&& 0x03)).toUInt8.toUInt32 <<< 24) +
      (((mantissa >>> 7).toUInt8.toUInt32 <<< 16) +
        (((mantissa <<< 1) + ((packetOH >>> 8) &&& 0x01)).toUInt8.toUInt32 <<< 8) +
          packetOH.toUInt8.toUInt32)).toNat =
        exponent.toNat * 2 ^ 26 + mantissa.toNat % 2 ^ 17 * 2 ^ 9 + packetOH.toNat % 2 ^ 9 := by
    simp only [UInt32.toNat_add, shiftLeft_toNat, UInt8.toNat_toUInt32, toNat_toUInt8, top,
      carry, shiftRight_toNat, UInt32.reduceToNat, Nat.reducePow, Nat.reduceMod]
    omega
  rw [tmmbrExponent, tmmbrMantissa, value]
  omega

end ZyWebRtc.Rtcp
