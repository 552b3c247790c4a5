import Mathlib.Tactic

namespace ZyWebRtc

/-! Byte strings and checked reads from them. A read outside the string has no
value, so a parser written with these reads has a value exactly when every
byte it looks at belongs to the string. -/

abbrev Bytes := List UInt8

namespace Bytes

section

variable (data : Bytes) (offset : Nat)

def byteAt : Option UInt8 := data[offset]?

/-- Two bytes in network order. -/
def uint16At : Option UInt16 := do
  let high ← data.byteAt offset
  let low ← data.byteAt (offset + 1)
  pure ((high.toUInt16 <<< 8) + low.toUInt16)

/-- Three bytes in network order. -/
def uint24At : Option UInt32 := do
  let high ← data.byteAt offset
  let middle ← data.byteAt (offset + 1)
  let low ← data.byteAt (offset + 2)
  pure ((high.toUInt32 <<< 16) + (middle.toUInt32 <<< 8) + low.toUInt32)

/-- Four bytes in network order. -/
def uint32At : Option UInt32 := do
  let first ← data.byteAt offset
  let rest ← data.uint24At (offset + 1)
  pure ((first.toUInt32 <<< 24) + rest)

end

/-- `count` consecutive bytes, as `memcpy` reads them. -/
def bytesAt (data : Bytes) (offset count : Nat) : Option Bytes :=
  if offset + count ≤ data.length then some ((data.drop offset).take count) else none

/-- `count` consecutive four-byte words. -/
def uint32sAt (data : Bytes) (offset : Nat) : Nat → Option (List UInt32)
  | 0 => some []
  | count + 1 => do
    let word ← data.uint32At offset
    let words ← data.uint32sAt (offset + 4) count
    pure (word :: words)

example : Bytes.uint16At [0xBE, 0xDE] 0 = some 0xBEDE := by decide

example : Bytes.uint16At [0xBE, 0xDE] 1 = none := by decide

/-! ## Reads inside the string have a value -/

section

variable {data : Bytes} {offset : Nat}

theorem exists_byteAt (inside : offset < data.length) :
    ∃ byte, data.byteAt offset = some byte :=
  ⟨data[offset], List.getElem?_eq_getElem inside⟩

theorem byteAt_eq_none_iff : data.byteAt offset = none ↔ data.length ≤ offset :=
  List.getElem?_eq_none_iff

theorem lt_length_of_byteAt {byte : UInt8}
    (found : data.byteAt offset = some byte) : offset < data.length := by
  by_contra outside
  rw [byteAt_eq_none_iff.mpr (by omega)] at found
  cases found

theorem exists_uint16At (inside : offset + 2 ≤ data.length) :
    ∃ word, data.uint16At offset = some word := by
  obtain ⟨high, highAt⟩ := exists_byteAt (show offset < data.length by omega)
  obtain ⟨low, lowAt⟩ := exists_byteAt (show offset + 1 < data.length by omega)
  exact ⟨(high.toUInt16 <<< 8) + low.toUInt16, by simp [uint16At, highAt, lowAt]⟩

theorem exists_uint24At (inside : offset + 3 ≤ data.length) :
    ∃ word, data.uint24At offset = some word := by
  obtain ⟨high, highAt⟩ := exists_byteAt (show offset < data.length by omega)
  obtain ⟨middle, middleAt⟩ := exists_byteAt (show offset + 1 < data.length by omega)
  obtain ⟨low, lowAt⟩ := exists_byteAt (show offset + 2 < data.length by omega)
  exact ⟨(high.toUInt32 <<< 16) + (middle.toUInt32 <<< 8) + low.toUInt32,
    by simp [uint24At, highAt, middleAt, lowAt]⟩

theorem uint24At_eq_none (outside : data.length < offset + 3) : data.uint24At offset = none := by
  have lastOutside : data.byteAt (offset + 2) = none := byteAt_eq_none_iff.mpr (by omega)
  cases highAt : data.byteAt offset <;> cases middleAt : data.byteAt (offset + 1) <;>
    simp [uint24At, highAt, middleAt, lastOutside]

theorem exists_uint32At (inside : offset + 4 ≤ data.length) :
    ∃ word, data.uint32At offset = some word := by
  obtain ⟨first, firstAt⟩ := exists_byteAt (show offset < data.length by omega)
  obtain ⟨rest, restAt⟩ := exists_uint24At (show offset + 1 + 3 ≤ data.length by omega)
  exact ⟨(first.toUInt32 <<< 24) + rest, by simp [uint32At, firstAt, restAt]⟩

end

theorem exists_uint32sAt {data : Bytes} (count : Nat) :
    ∀ offset, offset + 4 * count ≤ data.length →
      ∃ words, data.uint32sAt offset count = some words := by
  induction count with
  | zero => exact fun _ _ => ⟨[], rfl⟩
  | succ count induction =>
    intro offset inside
    obtain ⟨word, wordAt⟩ := exists_uint32At (show offset + 4 ≤ data.length by omega)
    obtain ⟨words, wordsAt⟩ := induction (offset + 4) (by omega)
    exact ⟨word :: words, by simp [uint32sAt, wordAt, wordsAt]⟩

/-! ## Values of reads

The value of a read without its check. Inside the string a read can be rewritten
to its value, which leaves the checks as side conditions. -/

section

variable (data : Bytes) (offset : Nat)

def byteValue : UInt8 := (data.byteAt offset).getD 0

def uint16Value : UInt16 := (data.uint16At offset).getD 0

def uint24Value : UInt32 := (data.uint24At offset).getD 0

def uint32Value : UInt32 := (data.uint32At offset).getD 0

end

section

variable {data : Bytes} {offset : Nat}

theorem byteAt_inside (inside : offset < data.length) :
    data.byteAt offset = some (data.byteValue offset) := by
  obtain ⟨byte, byteAt⟩ := exists_byteAt inside
  rw [byteValue, byteAt, Option.getD_some]

theorem uint16At_inside (inside : offset + 2 ≤ data.length) :
    data.uint16At offset = some (data.uint16Value offset) := by
  obtain ⟨word, wordAt⟩ := exists_uint16At inside
  rw [uint16Value, wordAt, Option.getD_some]

theorem uint24At_inside (inside : offset + 3 ≤ data.length) :
    data.uint24At offset = some (data.uint24Value offset) := by
  obtain ⟨word, wordAt⟩ := exists_uint24At inside
  rw [uint24Value, wordAt, Option.getD_some]

theorem uint32At_inside (inside : offset + 4 ≤ data.length) :
    data.uint32At offset = some (data.uint32Value offset) := by
  obtain ⟨word, wordAt⟩ := exists_uint32At inside
  rw [uint32Value, wordAt, Option.getD_some]

end

theorem bytesAt_inside {data : Bytes} {offset count : Nat}
    (inside : offset + count ≤ data.length) :
    data.bytesAt offset count = some ((data.drop offset).take count) := if_pos inside

end Bytes

end ZyWebRtc
