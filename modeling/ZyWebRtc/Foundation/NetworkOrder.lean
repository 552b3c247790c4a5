import ZyWebRtc.Foundation.ByteString

namespace ZyWebRtc.Bytes

/-! Words written in network order, and that reading them gives them back. -/

open List

def uint16Bytes (word : UInt16) : Bytes := [(word >>> 8).toUInt8, word.toUInt8]

/-- The low 24 bits of a word. -/
def uint24Bytes (word : UInt32) : Bytes :=
  [(word >>> 16).toUInt8, (word >>> 8).toUInt8, word.toUInt8]

def uint32Bytes (word : UInt32) : Bytes := (word >>> 24).toUInt8 :: uint24Bytes word

@[simp] theorem uint16Bytes_length (word : UInt16) : (uint16Bytes word).length = 2 := rfl

@[simp] theorem uint24Bytes_length (word : UInt32) : (uint24Bytes word).length = 3 := rfl

@[simp] theorem uint32Bytes_length (word : UInt32) : (uint32Bytes word).length = 4 := rfl

theorem flatMap_uint32Bytes_length (words : List UInt32) :
    (words.flatMap uint32Bytes).length = 4 * words.length := by
  rw [length_flatMap]
  simp [Nat.mul_comm]

/-! ## Reads behind a front part -/

section Append

variable (front back : Bytes) (offset : Nat)

theorem byteAt_append : (front ++ back).byteAt (front.length + offset) = back.byteAt offset := by
  rw [byteAt, byteAt, List.getElem?_append_right (Nat.le_add_right _ _), Nat.add_sub_cancel_left]

theorem uint16At_append :
    (front ++ back).uint16At (front.length + offset) = back.uint16At offset := by
  simp only [uint16At, byteAt_append, Nat.add_assoc]

theorem uint24At_append :
    (front ++ back).uint24At (front.length + offset) = back.uint24At offset := by
  simp only [uint24At, byteAt_append, Nat.add_assoc]

theorem uint32At_append :
    (front ++ back).uint32At (front.length + offset) = back.uint32At offset := by
  simp only [uint32At, uint24At_append, byteAt_append, Nat.add_assoc]

theorem bytesAt_front : (front ++ back).bytesAt 0 front.length = some front := by
  rw [bytesAt_inside (by simp), drop_zero, take_left]

theorem bytesAt_append (count : Nat) :
    (front ++ back).bytesAt (front.length + offset) count = back.bytesAt offset count := by
  simp only [bytesAt, length_append, Nat.add_assoc, Nat.add_le_add_iff_left, drop_append,
    Nat.add_sub_cancel_left, drop_of_length_le (Nat.le_add_right front.length offset),
    nil_append]

theorem bytesAt_middle (middle : Bytes) :
    (front ++ (middle ++ back)).bytesAt front.length middle.length = some middle := by
  rw [bytesAt_inside (by simp), drop_left, take_left]

end Append

/-! ## Writes in place -/

/-- The string with `bytes` from `offset` on. A write that leaves the string has no value. -/
def writeAt (data : Bytes) (offset : Nat) (bytes : Bytes) : Option Bytes :=
  if offset + bytes.length ≤ data.length then
    some (data.take offset ++ (bytes ++ data.drop (offset + bytes.length)))
  else none

theorem writeAt_inside {data : Bytes} {offset : Nat} {bytes : Bytes}
    (inside : offset + bytes.length ≤ data.length) :
    data.writeAt offset bytes =
      some (data.take offset ++ (bytes ++ data.drop (offset + bytes.length))) := if_pos inside

theorem writeAt_middle (front old new back : Bytes) (sameLength : new.length = old.length) :
    (front ++ (old ++ back)).writeAt front.length new = some (front ++ (new ++ back)) := by
  rw [writeAt_inside (by simp [sameLength]), take_left, sameLength, ← drop_drop,
    drop_left, drop_left]

/-- The written bytes are read back. -/
theorem byteAt_writeAt {data result bytes : Bytes} {offset : Nat}
    (written : data.writeAt offset bytes = some result) {index : Nat}
    (inside : index < bytes.length) :
    result.byteAt (offset + index) = bytes.byteAt index := by
  rw [writeAt] at written
  split at written
  · rename_i fits
    cases written
    have front : (data.take offset).length = offset := length_take_of_le (by omega)
    conv => enter [1, 2]; rw [← front]
    rw [byteAt_append, byteAt, List.getElem?_append_left inside]
    rfl
  · cases written

example : writeAt [1, 2, 3, 4] 1 [7, 8] = some [1, 7, 8, 4] := by decide

/-! ## Reads of written words -/

theorem uint16_join (word : UInt16) :
    ((word >>> 8).toUInt8.toUInt16 <<< 8) + word.toUInt8.toUInt16 = word := by
  apply UInt16.toNat_inj.mp
  have bound := word.toNat_lt
  simp [UInt16.toNat_add, UInt16.toNat_shiftLeft, UInt16.toNat_shiftRight, Nat.shiftLeft_eq,
    Nat.shiftRight_eq_div_pow]
  omega

/-- What three bytes keep of a word. -/
def low24 (word : UInt32) : UInt32 := word &&& 0xFFFFFF

theorem low24_toNat (word : UInt32) : (low24 word).toNat = word.toNat % 2 ^ 24 := by
  rw [low24, UInt32.toNat_and, show (0xFFFFFF : UInt32).toNat = 2 ^ 24 - 1 from rfl,
    Nat.and_two_pow_sub_one_eq_mod]

theorem uint24_join (word : UInt32) :
    ((word >>> 16).toUInt8.toUInt32 <<< 16) + ((word >>> 8).toUInt8.toUInt32 <<< 8) +
      word.toUInt8.toUInt32 = low24 word := by
  apply UInt32.toNat_inj.mp
  have bound := word.toNat_lt
  rw [low24_toNat]
  simp [UInt32.toNat_add, UInt32.toNat_shiftLeft, UInt32.toNat_shiftRight, Nat.shiftLeft_eq,
    Nat.shiftRight_eq_div_pow]
  omega

theorem uint32_join (word : UInt32) :
    ((word >>> 24).toUInt8.toUInt32 <<< 24) + low24 word = word := by
  apply UInt32.toNat_inj.mp
  have bound := word.toNat_lt
  rw [UInt32.toNat_add, low24_toNat]
  simp [UInt32.toNat_shiftLeft, UInt32.toNat_shiftRight, Nat.shiftLeft_eq,
    Nat.shiftRight_eq_div_pow]
  omega

@[simp] theorem uint16At_uint16Bytes (word : UInt16) (rest : Bytes) :
    (uint16Bytes word ++ rest).uint16At 0 = some word :=
  congrArg some (uint16_join word)

@[simp] theorem uint32At_uint32Bytes (word : UInt32) (rest : Bytes) :
    (uint32Bytes word ++ rest).uint32At 0 = some word := by
  have tail : (uint32Bytes word ++ rest).uint24At (0 + 1) = some (low24 word) :=
    congrArg some (uint24_join word)
  have head : (uint32Bytes word ++ rest).byteAt 0 = some (word >>> 24).toUInt8 := rfl
  rw [uint32At, head, tail]
  exact congrArg some (uint32_join word)

example : (uint32Bytes 0x01020304).uint32At 0 = some 0x01020304 := by decide

end ZyWebRtc.Bytes
