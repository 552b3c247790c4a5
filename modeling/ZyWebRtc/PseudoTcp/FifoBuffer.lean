import Mathlib.Tactic

namespace ZyWebRtc.PseudoTcp

/-! `FifoBuffer`: the ring buffer that holds the bytes of either direction. Its
memory is a function of the index; the stream events and the lock are left out. -/

open List

structure FifoBuffer where
  buffer : Nat → UInt8
  bufferLength : Nat
  dataLength : Nat
  readPosition : Nat

def sizeSub (minuend subtrahend : Nat) : Nat :=
  if subtrahend ≤ minuend then minuend - subtrahend else minuend + 2 ^ 64 - subtrahend

theorem sizeSub_of_le {minuend subtrahend : Nat} (inside : subtrahend ≤ minuend) :
    sizeSub minuend subtrahend = minuend - subtrahend := if_pos inside

def memcpy (memory : Nat → UInt8) (destination : Nat) (source : Nat → UInt8) (count : Nat) :
    Nat → UInt8 := fun position =>
  if destination ≤ position ∧ position < destination + count then source (position - destination)
  else memory position

namespace FifoBuffer

def create (size : Nat) (memory : Nat → UInt8) : FifoBuffer where
  buffer := memory
  bufferLength := size
  dataLength := 0
  readPosition := 0

section

variable (fifo : FifoBuffer)

def getBuffered : Nat := fifo.dataLength

def getWriteRemaining : Nat := sizeSub fifo.bufferLength fifo.dataLength

def readOffset (bytes offset : Nat) : Option (List UInt8) :=
  if fifo.dataLength ≤ offset then none
  else
    let readPosition := (fifo.readPosition + offset) % fifo.bufferLength
    let copy := min bytes (fifo.dataLength - offset)
    let tailCopy := min copy (fifo.bufferLength - readPosition)
    some ((List.range tailCopy).map (fun index => fifo.buffer (readPosition + index)) ++
      (List.range (copy - tailCopy)).map fifo.buffer)

def read (bytes : Nat) : Option (List UInt8) × FifoBuffer :=
  match fifo.readOffset bytes 0 with
  | none => (none, fifo)
  | some copied => (some copied, { fifo with
      readPosition := (fifo.readPosition + copied.length) % fifo.bufferLength
      dataLength := fifo.dataLength - copied.length })

/-- `WriteOffsetLocked`: the number of bytes written, and none without room. -/
def writeOffset (source : Nat → UInt8) (bytes offset : Nat) :
    Option Nat × FifoBuffer :=
  if fifo.bufferLength ≤ fifo.dataLength + offset then (none, fifo)
  else
    let available := fifo.bufferLength - fifo.dataLength - offset
    let writePosition := (fifo.readPosition + fifo.dataLength + offset) % fifo.bufferLength
    let copy := min bytes available
    let tailCopy := min copy (fifo.bufferLength - writePosition)
    let tailWritten := memcpy fifo.buffer writePosition source tailCopy
    (some copy, { fifo with
      buffer := memcpy tailWritten 0 (fun index => source (tailCopy + index)) (copy - tailCopy) })

/-- The number of bytes written, which `Write` leaves at zero without room. -/
def write (source : Nat → UInt8) (bytes : Nat) : Nat × FifoBuffer :=
  match fifo.writeOffset source bytes 0 with
  | (none, _) => (0, fifo)
  | (some copy, written) => (copy, { written with dataLength := fifo.dataLength + copy })

def consumeReadData (size : Nat) : FifoBuffer :=
  { fifo with
    readPosition := (fifo.readPosition + size) % fifo.bufferLength
    dataLength := sizeSub fifo.dataLength size }

def consumeWriteBuffer (size : Nat) : FifoBuffer :=
  { fifo with dataLength := fifo.dataLength + size }

/-- `SetCapacity`: whether the buffered data fits, and the buffer after it. -/
def setCapacity (size : Nat) (memory : Nat → UInt8) : Bool × FifoBuffer :=
  if size < fifo.dataLength then (false, fifo)
  else if size = fifo.bufferLength then (true, fifo)
  else
    let tailCopy := min fifo.dataLength (fifo.bufferLength - fifo.readPosition)
    let tailCopied := memcpy memory 0 (fun index => fifo.buffer (fifo.readPosition + index)) tailCopy
    (true, {
      buffer := memcpy tailCopied tailCopy fifo.buffer (fifo.dataLength - tailCopy)
      bufferLength := size
      dataLength := fifo.dataLength
      readPosition := 0 })

/-! ## The ring -/

/-- What keeps the positions of the ring inside its memory. -/
structure Valid (fifo : FifoBuffer) : Prop where
  positive : 0 < fifo.bufferLength
  dataLength_le : fifo.dataLength ≤ fifo.bufferLength
  readPosition_lt : fifo.readPosition < fifo.bufferLength

/-- The byte `offset` behind the oldest one, buffered or written ahead. -/
def byteAt (offset : Nat) : UInt8 :=
  fifo.buffer ((fifo.readPosition + offset) % fifo.bufferLength)

/-- The buffered bytes, the oldest one first. -/
def contents : List UInt8 := (List.range fifo.dataLength).map fifo.byteAt

@[simp] theorem length_contents : fifo.contents.length = fifo.dataLength := by
  simp [contents]

theorem getWriteRemaining_eq {fifo : FifoBuffer} (valid : Valid fifo) :
    fifo.getWriteRemaining = fifo.bufferLength - fifo.dataLength :=
  sizeSub_of_le valid.dataLength_le

theorem valid_create {size : Nat} (positive : 0 < size) (memory : Nat → UInt8) :
    Valid (create size memory) := ⟨positive, Nat.zero_le _, positive⟩

theorem ring_mod {length position distance : Nat} (inside : position < length)
    (short : distance ≤ length) :
    (position + distance) % length = if position + distance < length then position + distance
      else position + distance - length := by
  split
  · exact Nat.mod_eq_of_lt ‹_›
  · rw [Nat.mod_eq_sub_mod (by omega)]
    by_cases full : position + distance - length < length
    · exact Nat.mod_eq_of_lt full
    · omega

theorem readOffset_eq {fifo : FifoBuffer} (valid : Valid fifo) {bytes offset : Nat}
    (inside : offset < fifo.dataLength) :
    fifo.readOffset bytes offset = some ((List.range (min bytes (fifo.dataLength - offset))).map
        fun index => fifo.byteAt (offset + index)) := by
  rcases valid with ⟨positive, dataLength_le, readPosition_lt⟩
  rw [readOffset, if_neg (by omega)]
  have position : (fifo.readPosition + offset) % fifo.bufferLength < fifo.bufferLength :=
    Nat.mod_lt _ positive
  dsimp only
  generalize tailEq : min (min bytes (fifo.dataLength - offset))
    (fifo.bufferLength - (fifo.readPosition + offset) % fifo.bufferLength) = tailCopy
  rw [Option.some.injEq]
  apply ext_getElem
  · simp only [length_append, length_map, length_range]
    omega
  intro index indexFront indexBack
  simp only [length_map, length_range] at indexBack
  have shift : (fifo.readPosition + (offset + index)) % fifo.bufferLength =
      ((fifo.readPosition + offset) % fifo.bufferLength + index) % fifo.bufferLength := by
    rw [Nat.mod_add_mod, Nat.add_assoc]
  rw [getElem_append]
  simp only [length_map, length_range, getElem_map, getElem_range, byteAt]
  rw [shift, ring_mod position (by omega)]
  split <;> split <;> first | rfl | omega | (congr 1; omega)

theorem readOffset_eq_contents {fifo : FifoBuffer} (valid : Valid fifo) {bytes offset : Nat}
    (inside : offset < fifo.dataLength) :
    fifo.readOffset bytes offset = some ((fifo.contents.drop offset).take bytes) := by
  rw [readOffset_eq valid inside, Option.some.injEq]
  apply ext_getElem
  · simp
  · intro index indexFront indexBack
    simp [contents]

end

theorem writeOffset_eq {fifo : FifoBuffer} (valid : Valid fifo) (source : Nat → UInt8)
    {bytes offset : Nat} (room : fifo.dataLength + offset + bytes ≤ fifo.bufferLength)
    (some_bytes : 0 < bytes) :
    ∃ written, fifo.writeOffset source bytes offset = (some bytes, written) ∧
      written.bufferLength = fifo.bufferLength ∧ written.dataLength = fifo.dataLength ∧
      written.readPosition = fifo.readPosition ∧
      ∀ index < fifo.bufferLength, written.byteAt index =
        if fifo.dataLength + offset ≤ index ∧ index < fifo.dataLength + offset + bytes then
          source (index - (fifo.dataLength + offset))
        else fifo.byteAt index := by
  rcases valid with ⟨positive, dataLength_le, readPosition_lt⟩
  rw [writeOffset, if_neg (by omega)]
  have copy : min bytes (fifo.bufferLength - fifo.dataLength - offset) = bytes := by omega
  simp only [copy]
  refine ⟨_, rfl, rfl, rfl, rfl, ?_⟩
  intro index inside
  simp only [byteAt, memcpy]
  rw [Nat.add_assoc fifo.readPosition, ring_mod readPosition_lt (by omega),
    ring_mod readPosition_lt (by omega)]
  split_ifs <;> first | rfl | omega | (congr 1; omega)

theorem contents_write {fifo : FifoBuffer} (valid : Valid fifo) (source : Nat → UInt8)
    {bytes : Nat} (room : fifo.dataLength + bytes ≤ fifo.bufferLength) :
    (fifo.write source bytes).1 = bytes ∧ (fifo.write source bytes).2.contents =
        fifo.contents ++ (List.range bytes).map source := by
  by_cases empty : bytes = 0
  · subst empty
    unfold write writeOffset
    split
    next result written =>
      exact ⟨rfl, by simp⟩
    next copy after written =>
      split at written
      · simp at written
      · rcases Prod.mk.inj written with ⟨copied, rfl⟩
        have none := Option.some.inj copied
        rw [Nat.zero_min] at none
        subst none
        refine ⟨rfl, ?_⟩
        simp only [range_zero, map_nil, append_nil]
        apply map_congr_left
        intro index _
        simp [byteAt, memcpy]
  · rcases writeOffset_eq valid source (show fifo.dataLength + 0 + bytes ≤ _ from room)
      (Nat.pos_of_ne_zero empty) with
      ⟨written, result, bufferLength, dataLength, readPosition, stored⟩
    rw [write, result]
    refine ⟨rfl, ?_⟩
    apply ext_getElem
    · simp
    · intro index indexFront indexBack
      simp only [length_contents] at indexFront
      have byte : byteAt { written with dataLength := fifo.dataLength + bytes } index = _ :=
        stored index (by omega)
      simp only [contents, getElem_map, getElem_range, byte, getElem_append,
        length_map, length_range]
      split <;> split <;> first | rfl | omega

end FifoBuffer

end ZyWebRtc.PseudoTcp
