import ZyWebRtc.Foundation.ByteString

namespace ZyWebRtc

/-! Byte buffers of a fixed capacity and checked copies into and out of them. A
copy that leaves the buffer has no value. -/

open List

/-- The bytes of a buffer by position. Positions from the capacity on are never
read by a checked copy. -/
abbrev Buffer := Nat → UInt8

namespace Buffer

def zeros : Buffer := fun _ => 0

variable (buffer : Buffer)

/-- `count` bytes from `offset` on. -/
def slice (offset count : Nat) : Bytes :=
  (List.range count).map fun index => buffer (offset + index)

/-- The buffer with `bytes` from `offset` on. -/
def overwrite (offset : Nat) (bytes : Bytes) : Buffer := fun position =>
  if offset ≤ position then (bytes[position - offset]?).getD (buffer position)
  else buffer position

/-- `count` bytes from `offset` on, as `memcpy` reads them. -/
def copyOut (capacity offset count : Nat) : Option Bytes :=
  if offset + count ≤ capacity then some (buffer.slice offset count) else none

/-- `bytes` to `offset`, as `memcpy` writes them. -/
def copyIn (capacity offset : Nat) (bytes : Bytes) : Option Buffer :=
  if offset + bytes.length ≤ capacity then some (buffer.overwrite offset bytes) else none

@[simp] theorem slice_length (offset count : Nat) :
    (buffer.slice offset count).length = count := by simp [slice]

variable {offset : Nat}

theorem slice_getElem? {count index : Nat} (inside : index < count) :
    (buffer.slice offset count)[index]? = some (buffer (offset + index)) := by
  simp [slice, inside]

theorem slice_append (offset front back : Nat) :
    buffer.slice offset (front + back) =
      buffer.slice offset front ++ buffer.slice (offset + front) back := by
  simp [slice, range_add, Nat.add_assoc]

theorem slice_congr {first second : Buffer} {count : Nat}
    (same : ∀ index < count, first (offset + index) = second (offset + index)) :
    first.slice offset count = second.slice offset count :=
  map_congr_left fun index member => same index (mem_range.mp member)

theorem slice_eq_iff {first second : Buffer} {other count : Nat} :
    first.slice offset count = second.slice other count ↔
      ∀ index < count, first (offset + index) = second (other + index) := by
  simp [slice]

theorem overwrite_nil (offset : Nat) : buffer.overwrite offset [] = buffer := by
  funext position
  simp [overwrite]

variable {bytes : Bytes}

theorem overwrite_inside {index : Nat} (inside : index < bytes.length) :
    buffer.overwrite offset bytes (offset + index) = bytes[index] := by
  simp [overwrite, inside]

theorem overwrite_outside {position : Nat}
    (outside : position < offset ∨ offset + bytes.length ≤ position) :
    buffer.overwrite offset bytes position = buffer position := by
  unfold overwrite
  split
  case isTrue after =>
    rw [List.getElem?_eq_none (by omega), Option.getD_none]
  case isFalse before => rfl

/-- What was written is read back. -/
@[simp] theorem slice_overwrite (offset : Nat) (bytes : Bytes) :
    (buffer.overwrite offset bytes).slice offset bytes.length = bytes := by
  apply ext_getElem (by simp)
  intro index _ inside
  have written : buffer.overwrite offset bytes (offset + index) = bytes[index] :=
    overwrite_inside buffer inside
  simp [slice, written]

/-- A write leaves the bytes on both sides as they were. -/
theorem slice_overwrite_outside {count start : Nat}
    (outside : start + count ≤ offset ∨ offset + bytes.length ≤ start) :
    (buffer.overwrite offset bytes).slice start count = buffer.slice start count :=
  slice_congr fun _ _ => overwrite_outside buffer (by omega)

/-- One byte written among those that are read. -/
theorem slice_overwrite_byte (start count index : Nat) (byte : UInt8) :
    (buffer.overwrite (start + index) [byte]).slice start count =
      (buffer.slice start count).set index byte := by
  apply ext_getElem (by simp)
  intro position inside _
  rw [getElem_set]
  by_cases same : index = position
  · simp [slice, overwrite, same]
  · rw [if_neg same]
    simp only [slice, getElem_map, getElem_range]
    apply overwrite_outside
    simp only [length_singleton]
    omega

theorem copyOut_inside {capacity count : Nat} (inside : offset + count ≤ capacity) :
    buffer.copyOut capacity offset count = some (buffer.slice offset count) := if_pos inside

theorem copyIn_inside {capacity : Nat} (inside : offset + bytes.length ≤ capacity) :
    buffer.copyIn capacity offset bytes = some (buffer.overwrite offset bytes) := if_pos inside

end Buffer

end ZyWebRtc
