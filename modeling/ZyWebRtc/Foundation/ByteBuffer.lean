import ZyWebRtc.Foundation.NetworkOrder

namespace ZyWebRtc.ByteBuffer

/-! A `ByteBuffer` in network order. A buffer that is read is the list of its bytes not
read yet: a read takes its bytes off the front, and has no value when there are too few.
A buffer that is written is the list of the bytes written so far.

Each read is characterised by one equivalence: it gives a value and a rest exactly when
the buffer is the written form of the value in front of the rest. -/

open Bytes

def readBytes (count : Nat) (buffer : Bytes) : Option (Bytes × Bytes) :=
  if buffer.length < count then none else some (buffer.take count, buffer.drop count)

def readUInt8 (buffer : Bytes) : Option (UInt8 × Bytes) := do
  let byte ← buffer.byteAt 0
  pure (byte, buffer.drop 1)

def readUInt16 (buffer : Bytes) : Option (UInt16 × Bytes) := do
  let word ← buffer.uint16At 0
  pure (word, buffer.drop 2)

def readUInt32 (buffer : Bytes) : Option (UInt32 × Bytes) := do
  let word ← buffer.uint32At 0
  pure (word, buffer.drop 4)

def readUInt64 (buffer : Bytes) : Option (UInt64 × Bytes) := do
  let high ← buffer.uint32At 0
  let low ← buffer.uint32At 4
  pure ((high.toUInt64 <<< 32) + low.toUInt64, buffer.drop 8)

/-- Leave out bytes. -/
def consume (count : Nat) (buffer : Bytes) : Option Bytes :=
  if buffer.length < count then none else some (buffer.drop count)

def uint64Bytes (word : UInt64) : Bytes :=
  uint32Bytes (word >>> 32).toUInt32 ++ uint32Bytes word.toUInt32

@[simp] theorem uint64Bytes_length (word : UInt64) : (uint64Bytes word).length = 8 := rfl

example : readUInt16 [1, 2, 3] = some (0x0102, [3]) := by decide

/-! ## Words and their bytes -/

theorem uint16Bytes_join (high low : UInt8) :
    uint16Bytes ((high.toUInt16 <<< 8) + low.toUInt16) = [high, low] := by
  have highBound := high.toNat_lt
  have lowBound := low.toNat_lt
  simp only [uint16Bytes, List.cons.injEq, and_true]
  constructor <;> apply UInt8.toNat_inj.mp
  all_goals
    simp [UInt16.toNat_add, UInt16.toNat_shiftLeft, UInt16.toNat_shiftRight,
      Nat.shiftLeft_eq, Nat.shiftRight_eq_div_pow]
  omega

theorem uint32Bytes_join (first second third fourth : UInt8) :
    uint32Bytes ((first.toUInt32 <<< 24) + ((second.toUInt32 <<< 16) +
      (third.toUInt32 <<< 8) + fourth.toUInt32)) = [first, second, third, fourth] := by
  have firstBound := first.toNat_lt
  have secondBound := second.toNat_lt
  have thirdBound := third.toNat_lt
  have fourthBound := fourth.toNat_lt
  simp only [uint32Bytes, uint24Bytes, List.cons.injEq, and_true]
  refine ⟨?_, ?_, ?_, ?_⟩ <;> apply UInt8.toNat_inj.mp
  all_goals
    simp [UInt32.toNat_add, UInt32.toNat_shiftLeft, UInt32.toNat_shiftRight,
      Nat.shiftLeft_eq, Nat.shiftRight_eq_div_pow]
    omega

theorem uint64_join (word : UInt64) :
    ((word >>> 32).toUInt32.toUInt64 <<< 32) + word.toUInt32.toUInt64 = word := by
  apply UInt64.toNat_inj.mp
  have bound := word.toNat_lt
  simp [UInt64.toNat_add, UInt64.toNat_shiftLeft, UInt64.toNat_shiftRight, Nat.shiftLeft_eq,
    Nat.shiftRight_eq_div_pow]
  omega

theorem uint64_high (high low : UInt32) :
    (((high.toUInt64 <<< 32) + low.toUInt64) >>> 32).toUInt32 = high := by
  apply UInt32.toNat_inj.mp
  have highBound := high.toNat_lt
  have lowBound := low.toNat_lt
  simp [UInt64.toNat_add, UInt64.toNat_shiftLeft, UInt64.toNat_shiftRight, Nat.shiftLeft_eq,
    Nat.shiftRight_eq_div_pow]
  omega

theorem uint64_low (high low : UInt32) :
    ((high.toUInt64 <<< 32) + low.toUInt64).toUInt32 = low := by
  apply UInt32.toNat_inj.mp
  have highBound := high.toNat_lt
  have lowBound := low.toNat_lt
  simp [UInt64.toNat_shiftLeft, Nat.shiftLeft_eq]

/-! ## Reads as equations on the buffer -/

theorem readBytes_eq_some {count : Nat} {buffer bytes rest : Bytes} :
    readBytes count buffer = some (bytes, rest) ↔
      buffer = bytes ++ rest ∧ bytes.length = count := by
  unfold readBytes
  constructor
  · intro read
    split at read
    · cases read
    · cases read
      exact ⟨(List.take_append_drop count buffer).symm, by simp; omega⟩
  · rintro ⟨rfl, rfl⟩
    simp

theorem consume_eq_some {count : Nat} {buffer rest : Bytes} :
    consume count buffer = some rest ↔
      ∃ skipped, buffer = skipped ++ rest ∧ skipped.length = count := by
  unfold consume
  constructor
  · intro consumed
    split at consumed
    · cases consumed
    · cases consumed
      exact ⟨buffer.take count, (List.take_append_drop count buffer).symm, by simp; omega⟩
  · rintro ⟨skipped, rfl, rfl⟩
    simp

theorem readUInt8_eq_some {buffer rest : Bytes} {byte : UInt8} :
    readUInt8 buffer = some (byte, rest) ↔ buffer = byte :: rest := by
  cases buffer with
  | nil => simp [readUInt8, byteAt]
  | cons head tail => simp [readUInt8, byteAt]

theorem readUInt16_eq_some {buffer rest : Bytes} {word : UInt16} :
    readUInt16 buffer = some (word, rest) ↔ buffer = uint16Bytes word ++ rest := by
  constructor
  · intro read
    match buffer, read with
    | high :: low :: tail, read =>
      simp only [readUInt16, uint16At, byteAt, List.getElem?_cons_zero, Option.bind_eq_bind,
        Option.bind_some, List.getElem?_cons_succ, Nat.zero_add, Option.pure_def,
        Option.some.injEq, Prod.mk.injEq, List.drop_succ_cons, List.drop_zero] at read
      rw [← read.1, uint16Bytes_join, ← read.2]
      rfl
    | [_], read => cases read
    | [], read => cases read
  · rintro rfl
    rw [readUInt16, uint16At_uint16Bytes]
    rfl

theorem uint32At_zero (first second third fourth : UInt8) (tail : Bytes) :
    uint32At (first :: second :: third :: fourth :: tail) 0 =
      some ((first.toUInt32 <<< 24) + ((second.toUInt32 <<< 16) +
        (third.toUInt32 <<< 8) + fourth.toUInt32)) := rfl

theorem uint32At_zero_eq_some {buffer : Bytes} {word : UInt32} :
    buffer.uint32At 0 = some word ↔ ∃ rest, buffer = uint32Bytes word ++ rest := by
  constructor
  · intro read
    match buffer, read with
    | first :: second :: third :: fourth :: tail, read =>
      rw [uint32At_zero, Option.some.injEq] at read
      exact ⟨tail, by rw [← read, uint32Bytes_join]; rfl⟩
    | [_, _, _], read => cases read
    | [_, _], read => cases read
    | [_], read => cases read
    | [], read => cases read
  · rintro ⟨rest, rfl⟩
    exact uint32At_uint32Bytes word rest

theorem readUInt32_eq_some {buffer rest : Bytes} {word : UInt32} :
    readUInt32 buffer = some (word, rest) ↔ buffer = uint32Bytes word ++ rest := by
  constructor
  · intro read
    cases wordAt : buffer.uint32At 0 with
    | none => rw [readUInt32, wordAt] at read; cases read
    | some found =>
      rw [readUInt32, wordAt] at read
      cases read
      rcases uint32At_zero_eq_some.mp wordAt with ⟨tail, rfl⟩
      rfl
  · rintro rfl
    rw [readUInt32, uint32At_uint32Bytes]
    rfl

theorem uint32At_four (word : UInt32) (rest : Bytes) :
    (uint32Bytes word ++ rest).uint32At 4 = rest.uint32At 0 :=
  uint32At_append (uint32Bytes word) rest 0

theorem readUInt64_eq_some {buffer rest : Bytes} {word : UInt64} :
    readUInt64 buffer = some (word, rest) ↔ buffer = uint64Bytes word ++ rest := by
  constructor
  · intro read
    cases highAt : buffer.uint32At 0 with
    | none => rw [readUInt64, highAt] at read; cases read
    | some high =>
      rcases uint32At_zero_eq_some.mp highAt with ⟨tail, rfl⟩
      cases lowAt : tail.uint32At 0 with
      | none => rw [readUInt64, highAt, uint32At_four, lowAt] at read; cases read
      | some low =>
        rcases uint32At_zero_eq_some.mp lowAt with ⟨last, rfl⟩
        rw [readUInt64, highAt, uint32At_four, lowAt] at read
        cases read
        rw [uint64Bytes, uint64_high, uint64_low, List.append_assoc]
        rfl
  · rintro rfl
    rw [readUInt64, uint64Bytes, List.append_assoc, uint32At_uint32Bytes, uint32At_four,
      uint32At_uint32Bytes]
    change some (_, rest) = _
    rw [uint64_join]

/-! ## Reading what was written -/

@[simp] theorem readUInt8_cons (byte : UInt8) (rest : Bytes) :
    readUInt8 (byte :: rest) = some (byte, rest) := readUInt8_eq_some.mpr rfl

@[simp] theorem readUInt16_append (word : UInt16) (rest : Bytes) :
    readUInt16 (uint16Bytes word ++ rest) = some (word, rest) := readUInt16_eq_some.mpr rfl

@[simp] theorem readUInt32_append (word : UInt32) (rest : Bytes) :
    readUInt32 (uint32Bytes word ++ rest) = some (word, rest) := readUInt32_eq_some.mpr rfl

@[simp] theorem readUInt64_append (word : UInt64) (rest : Bytes) :
    readUInt64 (uint64Bytes word ++ rest) = some (word, rest) := readUInt64_eq_some.mpr rfl

@[simp] theorem readBytes_append (bytes rest : Bytes) :
    readBytes bytes.length (bytes ++ rest) = some (bytes, rest) :=
  readBytes_eq_some.mpr ⟨rfl, rfl⟩

end ZyWebRtc.ByteBuffer
