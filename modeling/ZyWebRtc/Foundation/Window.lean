import ZyWebRtc.Foundation.ByteString

namespace ZyWebRtc.Bytes

/-! Byte strings with the same bytes in a window of positions. A read inside the window
has the same value in both. -/

/-- Both strings have the bytes from `start` to `stop`, and these are the same. -/
structure Agrees (data other : Bytes) (start stop : Nat) : Prop where
  inside : stop ≤ data.length
  otherInside : stop ≤ other.length
  same : ∀ position, start ≤ position → position < stop →
    other.byteAt position = data.byteAt position

namespace Agrees

/-- A string agrees with its part in front of the end of a window. -/
theorem take {data : Bytes} (start : Nat) {stop : Nat} (inside : stop ≤ data.length) :
    Agrees data (data.take stop) start stop where
  inside := inside
  otherInside := by rw [List.length_take]; omega
  same position _ before := by rw [byteAt, byteAt, List.getElem?_take_of_lt before]

variable {data other : Bytes} {start stop : Nat} (agrees : Agrees data other start stop)

include agrees

section

variable {offset : Nat} (after : start ≤ offset)

include after

theorem byteAt (before : offset < stop) :
    other.byteAt offset = data.byteAt offset :=
  agrees.same offset after before

theorem uint16At (before : offset + 2 ≤ stop) :
    other.uint16At offset = data.uint16At offset := by
  simp (disch := omega) only [Bytes.uint16At, agrees.byteAt]

theorem uint24At (before : offset + 3 ≤ stop) :
    other.uint24At offset = data.uint24At offset := by
  simp (disch := omega) only [Bytes.uint24At, agrees.byteAt]

theorem uint32At (before : offset + 4 ≤ stop) :
    other.uint32At offset = data.uint32At offset := by
  simp (disch := omega) only [Bytes.uint32At, agrees.byteAt, agrees.uint24At]

end

theorem bytesAt {offset count : Nat} (after : start ≤ offset) (before : offset + count ≤ stop) :
    other.bytesAt offset count = data.bytesAt offset count := by
  have inside := agrees.inside
  have otherInside := agrees.otherInside
  rw [bytesAt_inside (by omega), bytesAt_inside (by omega)]
  apply congrArg some
  apply List.ext_getElem?
  intro index
  by_cases counted : index < count
  · rw [List.getElem?_take_of_lt counted, List.getElem?_take_of_lt counted, List.getElem?_drop,
      List.getElem?_drop]
    exact agrees.byteAt (by omega) (by omega)
  · rw [List.getElem?_take, List.getElem?_take, if_neg counted, if_neg counted]

theorem uint32sAt (count : Nat) :
    ∀ {offset}, start ≤ offset → offset + 4 * count ≤ stop →
      other.uint32sAt offset count = data.uint32sAt offset count := by
  induction count with
  | zero => exact fun _ _ => rfl
  | succ count induction =>
    intro offset after before
    simp (disch := omega) only [Bytes.uint32sAt, agrees.uint32At, induction]

end Agrees

end ZyWebRtc.Bytes
