import ZyWebRtc.Video.SessionInfo

namespace ZyWebRtc.Video.VCMSessionInfo

/-! What `InsertBuffer` does to packets that lie end to end in the frame buffer. -/

open List VCMPacket Buffer

/-- A media packet as it is handed to `InsertPacket`, with the memory at its data pointer. -/
structure Insertion where
  packet : VCMPacket
  data : Buffer
  decodeErrorMode : VCMDecodeErrorMode
  frameData : FrameData

/-- The start code, if it is requested, and the payload. -/
def Insertion.contents (insertion : Insertion) : Bytes :=
  (if insertion.packet.insertStartCode then startCode else []) ++
    insertion.data.slice 0 insertion.packet.sizeBytes

/-- The contents of all packets, one behind the other. -/
def contentsOf (insertions : List Insertion) : Bytes := insertions.flatMap Insertion.contents

def Insertion.storedAt (offset : Nat) (insertion : Insertion) : VCMPacket :=
  { insertion.packet with dataPtr := some offset, sizeBytes := insertion.packet.bufferSize }

def storedFrom : Nat → List Insertion → List VCMPacket
  | _, [] => []
  | offset, insertion :: rest =>
    insertion.storedAt offset :: storedFrom (offset + insertion.contents.length) rest

section Stored

variable (offset : Nat) (insertion : Insertion) (front back : List Insertion)

@[simp] theorem contents_length : insertion.contents.length = insertion.packet.bufferSize := by
  rw [Insertion.contents, bufferSize, length_append, slice_length, Nat.add_comm]
  cases insertion.packet.insertStartCode <;> rfl

theorem contentsOf_append : contentsOf (front ++ back) = contentsOf front ++ contentsOf back :=
  flatMap_append

theorem contentsOf_cons : contentsOf (insertion :: back) = insertion.contents ++ contentsOf back :=
  flatMap_cons

theorem storedFrom_append :
    storedFrom offset (front ++ back) =
      storedFrom offset front ++ storedFrom (offset + (contentsOf front).length) back := by
  induction front generalizing offset with
  | nil => rfl
  | cons insertion rest induction =>
    rw [cons_append, storedFrom, storedFrom, induction, contentsOf_cons,
      length_append, Nat.add_assoc]
    rfl

theorem storedFrom_sessionLength :
    sessionLength (storedFrom offset front) = (contentsOf front).length := by
  induction front generalizing offset with
  | nil => rfl
  | cons insertion rest induction =>
    have rest := induction (offset + insertion.contents.length)
    rw [sessionLength] at rest ⊢
    rw [storedFrom, map_cons, sum_cons, rest, contentsOf_cons, length_append, contents_length]
    rfl

theorem storedFrom_shift (steps : Nat) :
    (storedFrom offset front).map (shiftPointer steps) = storedFrom (offset + steps) front := by
  induction front generalizing offset with
  | nil => rfl
  | cons insertion rest induction =>
    rw [storedFrom, storedFrom, map_cons, induction, Nat.add_right_comm]
    rfl

theorem storedFrom_seqNum :
    (storedFrom offset front).map VCMPacket.seqNum = front.map (·.packet.seqNum) := by
  induction front generalizing offset with
  | nil => rfl
  | cons insertion rest induction =>
    rw [storedFrom, map_cons, map_cons, induction]
    rfl

theorem storedFrom_sizeBytes :
    (storedFrom offset front).map VCMPacket.sizeBytes = front.map (·.contents.length) := by
  induction front generalizing offset with
  | nil => rfl
  | cons insertion rest induction =>
    rw [storedFrom, map_cons, map_cons, induction, contents_length]
    rfl

theorem storedFrom_dataPtr {packet : VCMPacket} {before after : List VCMPacket}
    (stored : storedFrom offset front = before ++ packet :: after) :
    packet.dataPtr = some (offset + sessionLength before) := by
  induction front generalizing offset before with
  | nil =>
    have length := congrArg List.length stored
    simp [storedFrom] at length
  | cons insertion rest induction =>
    rw [storedFrom] at stored
    cases before with
    | nil =>
      cases stored
      rfl
    | cons first others =>
      rw [cons_append, List.cons.injEq] at stored
      rcases stored with ⟨rfl, stored⟩
      rw [induction _ stored, sessionLength, sessionLength, map_cons, sum_cons,
        contents_length, Nat.add_assoc]
      rfl

end Stored

/-! ## The bytes -/

def insertedBuffer (frameBuffer : Buffer) (offset behind : Nat) (insertion : Insertion) : Buffer :=
  let moved := frameBuffer.overwrite (offset + insertion.packet.bufferSize)
    (frameBuffer.slice offset behind)
  let coded :=
    if insertion.packet.insertStartCode then moved.overwrite offset startCode else moved
  coded.overwrite (insertion.packet.payloadOffset offset)
    (insertion.data.slice 0 insertion.packet.bufferSize)

theorem shiftSubsequentPackets_storedFrom (frameBuffer : Buffer) (offset steps : Nat)
    (back : List Insertion) :
    shiftSubsequentPackets (storedFrom offset back) steps frameBuffer =
      some (storedFrom (offset + steps) back, frameBuffer.overwrite (offset + steps)
          (frameBuffer.slice offset (contentsOf back).length)) := by
  cases back with
  | nil => exact congrArg (fun buffer => some ([], buffer)) (frameBuffer.overwrite_nil _).symm
  | cons insertion rest =>
    rw [← storedFrom_shift, ← storedFrom_sessionLength offset]
    have pointer : ((offset : Int) + (steps : Int)).toNat = offset + steps := by omega
    rw [← pointer]
    rfl

theorem insertBuffer_storedFrom (frameBuffer : Buffer) (front back : List Insertion)
    (insertion : Insertion) :
    insertBuffer frameBuffer (storedFrom 0 front) insertion.packet insertion.data
        (storedFrom (contentsOf front).length back) =
      some (storedFrom 0 (front ++ insertion :: back),
        insertedBuffer frameBuffer (contentsOf front).length (contentsOf back).length
          insertion) := by
  rw [insertBuffer, shiftSubsequentPackets_storedFrom, storedFrom_sessionLength,
    storedFrom_append, Nat.zero_add, storedFrom, contents_length]
  rfl

section Bytes

variable (frameBuffer : Buffer) (offset behind : Nat) (insertion : Insertion)

theorem insertedBuffer_front :
    (insertedBuffer frameBuffer offset behind insertion).slice 0 offset =
      frameBuffer.slice 0 offset := by
  apply slice_congr
  intro index inside
  have before : 0 + index < offset := by omega
  have beforeMoved : 0 + index < offset + insertion.packet.bufferSize := by omega
  have beforePayload : 0 + index < insertion.packet.payloadOffset offset := by
    rw [payloadOffset]
    omega
  rw [insertedBuffer, overwrite_outside _ (.inl beforePayload)]
  split
  · rw [overwrite_outside _ (.inl before), overwrite_outside _ (.inl beforeMoved)]
  · rw [overwrite_outside _ (.inl beforeMoved)]

theorem insertedBuffer_contents :
    (insertedBuffer frameBuffer offset behind insertion).slice offset
      insertion.packet.bufferSize = insertion.contents := by
  cases coded : insertion.packet.insertStartCode with
  | false =>
    have size : insertion.packet.bufferSize = insertion.packet.sizeBytes := by
      simp [bufferSize, coded]
    have place : insertion.packet.payloadOffset offset = offset := by
      simp [payloadOffset, coded]
    have written := slice_overwrite
      (frameBuffer.overwrite (offset + insertion.packet.sizeBytes)
        (frameBuffer.slice offset behind)) offset
      (insertion.data.slice 0 insertion.packet.sizeBytes)
    rw [slice_length] at written
    simp only [insertedBuffer, Insertion.contents, coded, size, place, Bool.false_eq_true,
      if_false, nil_append, written]
  | true =>
    have size : insertion.packet.bufferSize = 4 + insertion.packet.sizeBytes := by
      simp [bufferSize, coded, kH264StartCodeLengthBytes, Nat.add_comm]
    have place : insertion.packet.payloadOffset offset = offset + 4 := by
      simp [payloadOffset, coded, kH264StartCodeLengthBytes]
    generalize movedIs : frameBuffer.overwrite (offset + insertion.packet.bufferSize)
      (frameBuffer.slice offset behind) = moved
    simp only [insertedBuffer, movedIs, Insertion.contents, coded, place, if_true]
    rw [size, slice_append]
    apply congrArg₂
    · rw [slice_overwrite_outside _ (.inl (Nat.le_refl _))]
      exact moved.slice_overwrite offset startCode
    · -- The first bytes of the copy, which is longer than the payload.
      have written := (moved.overwrite offset startCode).slice_overwrite (offset + 4)
        (insertion.data.slice 0 (insertion.packet.sizeBytes + 4))
      rw [slice_length, slice_append, slice_append] at written
      rw [Nat.add_comm 4, slice_append]
      exact (append_inj written (by simp)).1

/-- Behind a start code the payload is copied with four bytes too many. -/
theorem insertedBuffer_behind {index : Nat} (inside : index < behind) :
    insertedBuffer frameBuffer offset behind insertion
        (offset + insertion.packet.bufferSize + index) =
      if insertion.packet.insertStartCode ∧ index < 4 then
        insertion.data (insertion.packet.sizeBytes + index)
      else frameBuffer (offset + index) := by
  have moved : frameBuffer.overwrite (offset + insertion.packet.bufferSize)
      (frameBuffer.slice offset behind) (offset + insertion.packet.bufferSize + index) =
      frameBuffer (offset + index) := by
    rw [overwrite_inside _ (by rw [slice_length]; exact inside)]
    simp [slice]
  cases coded : insertion.packet.insertStartCode with
  | false =>
    have size : insertion.packet.bufferSize = insertion.packet.sizeBytes := by
      simp [bufferSize, coded]
    have place : insertion.packet.payloadOffset offset = offset := by
      simp [payloadOffset, coded]
    simp only [insertedBuffer, coded, place, Bool.false_eq_true, if_false, false_and]
    rw [overwrite_outside, moved]
    right
    rw [slice_length]
    omega
  | true =>
    have size : insertion.packet.bufferSize = insertion.packet.sizeBytes + 4 := by
      simp [bufferSize, coded, kH264StartCodeLengthBytes]
    have place : insertion.packet.payloadOffset offset = offset + 4 := by
      simp [payloadOffset, coded, kH264StartCodeLengthBytes]
    simp only [insertedBuffer, coded, place, if_true, true_and]
    by_cases copied : index < 4
    · have same : offset + insertion.packet.bufferSize + index =
          offset + 4 + (insertion.packet.sizeBytes + index) := by omega
      have short : insertion.packet.sizeBytes + index <
          (insertion.data.slice 0 insertion.packet.bufferSize).length := by
        rw [slice_length]
        omega
      rw [if_pos copied, same, overwrite_inside _ short]
      simp [slice]
    · rw [if_neg copied, overwrite_outside, overwrite_outside, moved]
      · right
        change offset + 4 ≤ _
        omega
      · right
        rw [slice_length]
        omega

end Bytes

/-- The contents stay in order behind an insertion exactly if the bytes that are copied too
many are already there. -/
theorem insertedBuffer_inOrder {frameBuffer : Buffer} {front back : List Insertion}
    (insertion : Insertion)
    (whole : frameBuffer.slice 0 (contentsOf (front ++ back)).length = contentsOf (front ++ back)) :
    (insertedBuffer frameBuffer (contentsOf front).length (contentsOf back).length insertion).slice 0
          (contentsOf (front ++ insertion :: back)).length =
        contentsOf (front ++ insertion :: back) ↔
      (insertion.packet.insertStartCode = true →
        ∀ index < 4, (contentsOf front).length + index < (contentsOf (front ++ back)).length →
          insertion.data (insertion.packet.sizeBytes + index) =
            frameBuffer ((contentsOf front).length + index)) := by
  rw [contentsOf_append, length_append, slice_append, Nat.zero_add] at whole
  rcases append_inj whole (by simp) with ⟨frontBytes, backBytes⟩
  rw [contentsOf_append, contentsOf_append, contentsOf_cons, length_append,
    length_append, length_append, slice_append, slice_append, Nat.zero_add,
    insertedBuffer_front, frontBytes, contents_length, insertedBuffer_contents,
    append_cancel_left_eq, append_cancel_left_eq]
  have behindSlice (bytes : Bytes) : bytes = contentsOf back ↔
      bytes = frameBuffer.slice (contentsOf front).length (contentsOf back).length := by
    rw [backBytes]
  rw [behindSlice, slice_eq_iff]
  constructor
  · intro same coded index small inside
    have behind : index < (contentsOf back).length := by omega
    have copied := same index behind
    rw [insertedBuffer_behind _ _ _ _ behind, if_pos ⟨coded, small⟩] at copied
    exact copied
  · intro seamless index inside
    rw [insertedBuffer_behind _ _ _ _ inside]
    split
    · rename_i copied
      exact seamless copied.1 index copied.2 (by omega)
    · rfl

end ZyWebRtc.Video.VCMSessionInfo
