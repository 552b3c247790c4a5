import ZyWebRtc.PseudoTcp.SequenceOrder

namespace ZyWebRtc.PseudoTcp

/-! What `process` makes of slices of a byte stream, in any order and overlapping as they may. -/

open List FifoBuffer UInt32

/-- A piece of a stream. -/
structure Slice where
  start : Nat
  length : Nat
deriving Repr, DecidableEq

namespace Slice

def stop (slice : Slice) : Nat := slice.start + slice.length

def Covers (slice : Slice) (position : Nat) : Prop :=
  slice.start ≤ position ∧ position < slice.stop

end Slice

/-- The first `count` bytes are covered, and the next one is not. -/
def CoveredPrefix (slices : List Slice) (count : Nat) : Prop :=
  (∀ position < count, ∃ slice ∈ slices, slice.Covers position) ∧
    ∀ slice ∈ slices, ¬slice.Covers count

/-- A data segment that carries a slice, of a stream that starts at a sequence number. -/
structure CarriesSlice (stream : Bytes) (first : UInt32) (slice : Slice) (seg : Segment) :
    Prop where
  plain : seg.flags &&& flagCtl = 0
  seq : seg.seq = first + UInt32.ofNat slice.start
  len : seg.len.toNat = slice.length
  data : ∀ index < slice.length, stream[slice.start + index]? = some (seg.data index)

/-- A position of the stream that a segment of the receive list holds. -/
def RSegment.Covers (held : RSegment) (first position : Nat) : Prop :=
  held.seq.toNat ≤ first + position ∧ first + position < held.seq.toNat + held.len.toNat

/-- How many bytes of the stream lie in the window and have room in the receive buffer. -/
def reach (stream : Bytes) (incoming : Incoming) : Nat :=
  min stream.length
    (min incoming.rcvWnd.toNat (incoming.rbuf.bufferLength - incoming.rbuf.dataLength))

theorem reach_le_room (stream : Bytes) (incoming : Incoming) :
    reach stream incoming ≤ incoming.rbuf.bufferLength - incoming.rbuf.dataLength :=
  (min_le_right _ _).trans (min_le_right _ _)

/-- While slices come in: `count` bytes are readable, and the others that came in are held. The
bytes of the stream have fixed places in the ring, behind those that it started with. -/
structure Gathered (stream : Bytes) (start : Incoming) (slices : List Slice) (count : Nat)
    (incoming : Incoming) : Prop where
  rcvNxt : incoming.rcvNxt.toNat = start.rcvNxt.toNat + count
  bufferLength : incoming.rbuf.bufferLength = start.rbuf.bufferLength
  readPosition : incoming.rbuf.readPosition = start.rbuf.readPosition
  dataLength : incoming.rbuf.dataLength = start.rbuf.dataLength + count
  count_le : count ≤ reach stream start
  front : ∀ position < start.rbuf.dataLength,
    incoming.rbuf.byteAt position = start.rbuf.byteAt position
  sorted : incoming.rlist.Pairwise fun earlier later => earlier.seq.toNat ≤ later.seq.toNat
  inside : ∀ held ∈ incoming.rlist,
    held.seq.toNat + held.len.toNat ≤ start.rcvNxt.toNat + reach stream start
  stored : ∀ position,
    (position < count ∨ ∃ held ∈ incoming.rlist, held.Covers start.rcvNxt.toNat position) →
      stream[position]? = some (incoming.rbuf.byteAt (start.rbuf.dataLength + position))
  covered : ∀ position,
    (position < count ∨ ∃ held ∈ incoming.rlist, held.Covers start.rcvNxt.toNat position) ↔
      ∃ slice ∈ slices, slice.Covers position

/-- All that is held starts behind the readable bytes. -/
def HeldBehind (incoming : Incoming) : Prop :=
  ∀ held ∈ incoming.rlist, incoming.rcvNxt.toNat < held.seq.toNat

section Gathering

variable {stream : Bytes} {start incoming : Incoming} {slices : List Slice} {count : Nat}

/-- No byte of the stream that has room stands behind the wrap of the sequence numbers. -/
def BeforeWrap (stream : Bytes) (start : Incoming) : Prop :=
  start.rcvNxt.toNat + reach stream start < 2 ^ 32

theorem Gathered.drop {rlist rest : List RSegment}
    (gathered : Gathered stream start slices count { incoming with rlist := rlist })
    (sublist : rest.Sublist rlist)
    (same : ∀ position, (position < count ∨
        ∃ held ∈ rest, held.Covers start.rcvNxt.toNat position) ↔
      (position < count ∨ ∃ held ∈ rlist, held.Covers start.rcvNxt.toNat position)) :
    Gathered stream start slices count { incoming with rlist := rest } :=
  { gathered with
    sorted := gathered.sorted.sublist sublist
    inside := fun held member => gathered.inside held (sublist.subset member)
    stored := fun position there => gathered.stored position ((same position).mp there)
    covered := fun position => (same position).trans (gathered.covered position) }

theorem Gathered.advance (beforeWrap : BeforeWrap stream start) {rlist : List RSegment}
    {more : UInt32}
    (gathered : Gathered stream start slices count { incoming with rlist := rlist })
    (fits : count + more.toNat ≤ reach stream start) {rest : List RSegment}
    (sublist : rest.Sublist rlist)
    (same : ∀ position, (position < count + more.toNat ∨
        ∃ held ∈ rest, held.Covers start.rcvNxt.toNat position) ↔
      (position < count ∨ ∃ held ∈ rlist, held.Covers start.rcvNxt.toNat position)) :
    Gathered stream start slices (count + more.toNat)
      { advanceRcvNxt more incoming with rlist := rest } where
  rcvNxt := by
    have number := gathered.rcvNxt
    rw [BeforeWrap] at beforeWrap
    change (incoming.rcvNxt + more).toNat = _
    change incoming.rcvNxt.toNat = _ at number
    rw [UInt32.toNat_add]
    omega
  bufferLength := gathered.bufferLength
  readPosition := gathered.readPosition
  dataLength := by
    have length := gathered.dataLength
    change incoming.rbuf.dataLength + more.toNat = _
    change incoming.rbuf.dataLength = _ at length
    omega
  count_le := fits
  front := gathered.front
  sorted := gathered.sorted.sublist sublist
  inside := fun held member => gathered.inside held (sublist.subset member)
  stored := fun position there => gathered.stored position ((same position).mp there)
  covered := fun position => (same position).trans (gathered.covered position)

/-- The loop takes over what has become readable, and leaves what is behind it. -/
theorem Gathered.recoverRlist (beforeWrap : BeforeWrap stream start) (rlist : List RSegment)
    (gathered : Gathered stream start slices count { incoming with rlist := rlist }) :
    ∃ readable, Gathered stream start slices readable (PseudoTcp.recoverRlist rlist incoming).2 ∧
      HeldBehind (PseudoTcp.recoverRlist rlist incoming).2 := by
  induction rlist generalizing incoming count with
  | nil => exact ⟨count, gathered, fun _ member => absurd member not_mem_nil⟩
  | cons head rest induction =>
    have number := gathered.rcvNxt
    have inside := gathered.inside head mem_cons_self
    change incoming.rcvNxt.toNat = _ at number
    rw [BeforeWrap] at beforeWrap
    have stop : (head.seq + head.len).toNat = head.seq.toNat + head.len.toNat := by
      rw [UInt32.toNat_add]
      omega
    rw [PseudoTcp.recoverRlist]
    split
    next reached =>
      rw [le_iff_toNat_le] at reached
      split
      next more =>
        have order := lt_iff_toNat_lt.mp more
        have adjust := UInt32.toNat_sub_of_le _ _ (UInt32.le_of_lt more)
        apply induction (gathered.advance beforeWrap (by omega)
          (sublist_cons_self head rest) _)
        intro position
        constructor
        · rintro (before | ⟨held, member, covers⟩)
          · by_cases readable : position < count
            · exact .inl readable
            · exact .inr ⟨head, mem_cons_self, by omega, by omega⟩
          · exact .inr ⟨held, mem_cons_of_mem _ member, covers⟩
        · rintro (before | ⟨held, member, covers⟩)
          · exact .inl (by omega)
          · rcases mem_cons.mp member with rfl | behind
            · rcases covers with ⟨_, before⟩
              exact .inl (by omega)
            · exact .inr ⟨held, behind, covers⟩
      next passed =>
        rw [UInt32.not_lt, le_iff_toNat_le] at passed
        apply induction (gathered.drop (sublist_cons_self head rest) _)
        intro position
        constructor
        · rintro (before | ⟨held, member, covers⟩)
          · exact .inl before
          · exact .inr ⟨held, mem_cons_of_mem _ member, covers⟩
        · rintro (before | ⟨held, member, covers⟩)
          · exact .inl before
          · rcases mem_cons.mp member with rfl | behind
            · rcases covers with ⟨_, before⟩
              exact .inl (by omega)
            · exact .inr ⟨held, behind, covers⟩
    next later =>
      rw [UInt32.not_le, lt_iff_toNat_lt] at later
      refine ⟨count, gathered, ?_⟩
      intro held member
      rcases mem_cons.mp member with rfl | behind
      · exact later
      · exact later.trans_le ((pairwise_cons.mp gathered.sorted).1 held behind)

theorem insertRlist_perm (seg : RSegment) (rlist : List RSegment) :
    (insertRlist seg rlist).Perm (seg :: rlist) := by
  induction rlist with
  | nil => exact List.Perm.refl _
  | cons head rest induction =>
    rw [insertRlist]
    split
    · exact (induction.cons head).trans (List.Perm.swap seg head rest)
    · exact List.Perm.refl _

theorem insertRlist_sorted {seg : RSegment} {rlist : List RSegment}
    (sorted : rlist.Pairwise fun earlier later => earlier.seq.toNat ≤ later.seq.toNat) :
    (insertRlist seg rlist).Pairwise fun earlier later => earlier.seq.toNat ≤ later.seq.toNat := by
  induction rlist with
  | nil => exact pairwise_singleton _ _
  | cons head rest induction =>
    rcases pairwise_cons.mp sorted with ⟨behind, sortedRest⟩
    rw [insertRlist]
    split
    next smaller =>
      have order := lt_iff_toNat_lt.mp smaller
      rw [pairwise_cons]
      refine ⟨fun held member => ?_, induction sortedRest⟩
      rcases mem_cons.mp ((insertRlist_perm seg rest).mem_iff.mp member) with rfl | inRest
      · exact order.le
      · exact behind held inRest
    next notSmaller =>
      rw [UInt32.not_lt, le_iff_toNat_le] at notSmaller
      rw [pairwise_cons]
      refine ⟨fun held member => ?_, sorted⟩
      rcases mem_cons.mp member with rfl | inRest
      · exact notSmaller
      · exact notSmaller.trans (behind held inRest)

theorem Gathered.cons_of_covered (gathered : Gathered stream start slices count incoming)
    {slice : Slice} (there : ∀ position, slice.Covers position → position < count) :
    Gathered stream start (slice :: slices) count incoming :=
  { gathered with
    covered := by
      intro position
      rw [gathered.covered position]
      constructor
      · rintro ⟨other, member, covers⟩
        exact ⟨other, mem_cons_of_mem _ member, covers⟩
      · rintro ⟨other, member, covers⟩
        rcases mem_cons.mp member with rfl | inSlices
        · exact (gathered.covered position).mp (.inl (there position covers))
        · exact ⟨other, inSlices, covers⟩ }

theorem Gathered.valid (valid : start.rbuf.Valid)
    (gathered : Gathered stream start slices count incoming) : incoming.rbuf.Valid where
  positive := gathered.bufferLength ▸ valid.positive
  dataLength_le := by
    have room := gathered.count_le.trans (reach_le_room _ _)
    have filled := valid.dataLength_le
    rw [gathered.dataLength, gathered.bufferLength]
    omega
  readPosition_lt := by
    rw [gathered.readPosition, gathered.bufferLength]
    exact valid.readPosition_lt

variable {seg : Segment}

/-- Bytes of the stream are written at their places, and held. -/
theorem Gathered.hold (buffer : ReceiveBuffer start)
    (gathered : Gathered stream start slices count incoming) {slice : Slice}
    {position : Nat} (seq : seg.seq.toNat = start.rcvNxt.toNat + position)
    (some_data : 0 < seg.len.toNat) (after : count ≤ position)
    (fits : position + seg.len.toNat ≤ reach stream start)
    (data : ∀ index < seg.len.toNat, stream[position + index]? = some (seg.data index))
    (before : slice.start ≤ position) (stop : slice.stop = position + seg.len.toNat)
    (old : ∀ other, slice.start ≤ other → other < position → other < count) :
    ∃ written, incoming.rbuf.writeOffset seg.data seg.len.toNat
        (seg.seq - incoming.rcvNxt).toNat = (some seg.len.toNat, written) ∧
      ∀ rlist : List RSegment, rlist.Perm (⟨seg.seq, seg.len⟩ :: incoming.rlist) →
        (rlist.Pairwise fun earlier later => earlier.seq.toNat ≤ later.seq.toNat) →
        Gathered stream start (slice :: slices) count
          { incoming with rbuf := written, rlist := rlist } := by
  have number := gathered.rcvNxt
  have length := gathered.dataLength
  have capacity := gathered.bufferLength
  have room := fits.trans (reach_le_room _ _)
  have filled := buffer.valid.dataLength_le
  have offset : (seg.seq - incoming.rcvNxt).toNat = position - count := by
    rw [UInt32.toNat_sub_of_le _ _ (le_iff_toNat_le.mpr (by omega))]
    omega
  rcases writeOffset_eq (gathered.valid buffer.valid) seg.data
    (show incoming.rbuf.dataLength + (position - count) + seg.len.toNat ≤ _ by omega) some_data with
    ⟨written, result, bufferLength, dataLength, readPosition, bytes⟩
  refine ⟨written, by rw [offset]; exact result, fun rlist perm sorted => ?_⟩
  have covers : ∀ place, RSegment.Covers ⟨seg.seq, seg.len⟩ start.rcvNxt.toNat place ↔
      position ≤ place ∧ place < position + seg.len.toNat := by
    intro place
    change seg.seq.toNat ≤ _ ∧ _ < seg.seq.toNat + seg.len.toNat ↔ _
    omega
  have held : ∀ place, (∃ held ∈ rlist, held.Covers start.rcvNxt.toNat place) ↔
      (position ≤ place ∧ place < position + seg.len.toNat) ∨
        ∃ held ∈ incoming.rlist, held.Covers start.rcvNxt.toNat place := by
    intro place
    rw [← covers place]
    constructor
    · rintro ⟨other, member, within⟩
      rcases mem_cons.mp (perm.mem_iff.mp member) with rfl | inList
      · exact .inl within
      · exact .inr ⟨other, inList, within⟩
    · rintro (within | ⟨other, member, within⟩)
      · exact ⟨_, perm.mem_iff.mpr mem_cons_self, within⟩
      · exact ⟨other, perm.mem_iff.mpr (mem_cons_of_mem _ member), within⟩
  have place_lt : ∀ place, (place < count ∨ ∃ held ∈ incoming.rlist,
      held.Covers start.rcvNxt.toNat place) → place < reach stream start := by
    rintro place (readable | ⟨other, member, _, within⟩)
    · exact readable.trans_le gathered.count_le
    · have inside := gathered.inside other member
      omega
  have reach_le := reach_le_room stream start
  refine ⟨number, bufferLength.trans capacity, readPosition.trans gathered.readPosition,
    dataLength.trans length, gathered.count_le, ?_, sorted, ?_, ?_, ?_⟩
  · intro place inFront
    change written.byteAt place = _
    rw [bytes place (by omega), if_neg (by omega)]
    exact gathered.front place inFront
  · intro other member
    rcases mem_cons.mp (perm.mem_iff.mp member) with rfl | inList
    · change seg.seq.toNat + seg.len.toNat ≤ _
      omega
    · exact gathered.inside other inList
  · intro place there
    change stream[place]? = some (written.byteAt _)
    rw [held place, or_left_comm] at there
    by_cases new : position ≤ place ∧ place < position + seg.len.toNat
    · have byte := data (place - position) (by omega)
      rw [Nat.add_sub_cancel' new.1] at byte
      rw [bytes _ (by omega), if_pos (by omega), byte]
      congr 2
      omega
    · have known := there.resolve_left new
      have inside := place_lt place known
      rw [bytes _ (by omega), if_neg (by omega)]
      exact gathered.stored place known
  · intro place
    rw [held place, or_left_comm, gathered.covered place]
    constructor
    · rintro (new | ⟨other, member, within⟩)
      · exact ⟨slice, mem_cons_self, by omega, by omega⟩
      · exact ⟨other, mem_cons_of_mem _ member, within⟩
    · rintro ⟨other, member, within⟩
      rcases mem_cons.mp member with rfl | inSlices
      · rcases within with ⟨low, high⟩
        by_cases new : position ≤ place
        · exact .inl ⟨new, by omega⟩
        · exact .inr ((gathered.covered place).mp (.inl (old place low (by omega))))
      · exact .inr ⟨other, inSlices, within⟩

theorem adjustBack_of_empty (rcvNxt available : UInt32) (empty : seg.len = 0) :
    (adjustBack rcvNxt available seg).len = 0 := by
  unfold adjustBack
  dsimp only
  split
  · split
    next fewer => exact absurd (empty ▸ fewer) UInt32.not_lt_zero
    next => rfl
  · exact empty

theorem adjustBack_of_fits {rcvNxt available : UInt32}
    (fits : (seg.seq - rcvNxt).toNat + seg.len.toNat ≤ available.toNat) :
    adjustBack rcvNxt available seg = seg := by
  have stop : (seg.seq + seg.len - rcvNxt).toNat = (seg.seq - rcvNxt).toNat + seg.len.toNat := by
    have small := available.toNat_lt
    rw [← sub_add_eq_add_sub, UInt32.toNat_add]
    omega
  unfold adjustBack
  dsimp only
  rw [if_neg (by rw [UInt32.not_lt, le_iff_toNat_le, stop]; exact fits)]

theorem takeData_of_empty (empty : seg.len = 0) :
    (takeData false seg incoming).2 = incoming := by
  rw [takeData, if_pos empty]

theorem adjustFront_new {slice : Slice} (carries : CarriesSlice stream start.rcvNxt slice seg)
    (seq : seg.seq.toNat = start.rcvNxt.toNat + slice.start)
    (number : incoming.rcvNxt.toNat = start.rcvNxt.toNat + count)
    (new : count < slice.stop) :
    (adjustFront incoming.rcvNxt seg).seq.toNat = start.rcvNxt.toNat + max slice.start count ∧
      (adjustFront incoming.rcvNxt seg).len.toNat = slice.stop - max slice.start count ∧
      ∀ index < slice.stop - max slice.start count, stream[max slice.start count + index]? =
          some ((adjustFront incoming.rcvNxt seg).data index) := by
  have len := carries.len
  rw [Slice.stop] at new ⊢
  rw [adjustFront]
  by_cases older : slice.start < count
  · have less : seg.seq < incoming.rcvNxt := lt_iff_toNat_lt.mpr (by omega)
    have adjust := UInt32.toNat_sub_of_le _ _ (UInt32.le_of_lt less)
    have fewer : incoming.rcvNxt - seg.seq < seg.len := lt_iff_toNat_lt.mpr (by omega)
    have shorter := UInt32.toNat_sub_of_le _ _ (UInt32.le_of_lt fewer)
    rw [if_pos less]
    dsimp only
    rw [if_pos fewer, max_eq_right older.le]
    dsimp only
    refine ⟨?_, by omega, fun index before => ?_⟩
    · rw [show seg.seq + (incoming.rcvNxt - seg.seq) = incoming.rcvNxt from add_sub_cancel _ _]
      exact number
    · have byte := carries.data (index + (incoming.rcvNxt - seg.seq).toNat) (by omega)
      rw [← byte]
      congr 1
      omega
  · have notLess : ¬seg.seq < incoming.rcvNxt := by
      rw [UInt32.not_lt, le_iff_toNat_le]
      omega
    rw [if_neg notLess, max_eq_left (by omega)]
    exact ⟨seq, by omega, fun index before => carries.data index (by omega)⟩

/-- One more slice comes in. -/
theorem Gathered.takeData (buffer : ReceiveBuffer start) (beforeWrap : BeforeWrap stream start)
    (gathered : Gathered stream start slices count incoming) (behind : HeldBehind incoming)
    {slice : Slice} {seg : Segment} (carries : CarriesSlice stream start.rcvNxt slice seg)
    (fits : slice.stop ≤ reach stream start) :
    ∃ readable, Gathered stream start (slice :: slices) readable
        (PseudoTcp.takeData false (adjustSegment seg incoming) incoming).2 ∧
      HeldBehind (PseudoTcp.takeData false (adjustSegment seg incoming) incoming).2 := by
  have number := gathered.rcvNxt
  have len := carries.len
  have limit := beforeWrap
  rw [BeforeWrap] at limit
  have seq : seg.seq.toNat = start.rcvNxt.toNat + slice.start := by
    have first := start.rcvNxt.toNat_lt
    rw [Slice.stop] at fits
    rw [carries.seq, UInt32.toNat_add, toNat_ofNat']
    omega
  have remaining := getWriteRemaining_eq (gathered.valid buffer.valid)
  have length := gathered.dataLength
  have capacity := gathered.bufferLength
  have bounded := buffer.capacity
  have room := fits.trans (reach_le_room _ _)
  have filled := buffer.valid.dataLength_le
  have available : (UInt32.ofNat incoming.rbuf.getWriteRemaining).toNat =
      start.rbuf.bufferLength - start.rbuf.dataLength - count := by
    rw [toNat_ofNat', remaining]
    omega
  rw [adjustSegment]
  by_cases old : slice.stop ≤ count ∨ slice.length = 0
  · have empty : (adjustBack incoming.rcvNxt (UInt32.ofNat incoming.rbuf.getWriteRemaining)
        (adjustFront incoming.rcvNxt seg)).len = 0 := by
      apply adjustBack_of_empty
      unfold adjustFront
      rw [Slice.stop] at old
      split
      next less =>
        have adjust := UInt32.toNat_sub_of_le _ _ (UInt32.le_of_lt less)
        have order := lt_iff_toNat_lt.mp less
        dsimp only
        rw [if_neg (by rw [UInt32.not_lt, le_iff_toNat_le]; omega)]
      next notLess =>
        rw [UInt32.not_lt, le_iff_toNat_le] at notLess
        apply UInt32.toNat_inj.mp
        change _ = 0
        omega
    rw [takeData_of_empty empty]
    refine ⟨count, gathered.cons_of_covered ?_, behind⟩
    rintro position ⟨low, high⟩
    rw [Slice.stop] at old high
    omega
  · rcases adjustFront_new carries seq number (by omega) with ⟨seqNew, lenNew, dataNew⟩
    generalize adjustFront incoming.rcvNxt seg = new at *
    have some_data : 0 < new.len.toNat := by
      rw [Slice.stop] at *
      omega
    have offset : (new.seq - incoming.rcvNxt).toNat = max slice.start count - count := by
      rw [UInt32.toNat_sub_of_le _ _ (le_iff_toNat_le.mpr (by omega))]
      omega
    rw [adjustBack_of_fits (by rw [available, offset]; omega)]
    have nonzero : new.len ≠ 0 := by
      rintro zero
      rw [zero] at some_data
      exact absurd some_data (lt_irrefl 0)
    have startBefore : slice.start ≤ slice.stop := Nat.le_add_right _ _
    rcases gathered.hold buffer seqNew some_data (le_max_right _ _) (by omega)
      (by rw [lenNew]; exact dataNew) (le_max_left _ _) (by omega)
      (by intro other low high; omega) with ⟨written, result, held⟩
    by_cases inOrder : new.seq = incoming.rcvNxt
    · have start_eq : max slice.start count = count := by
        have same := congrArg UInt32.toNat inOrder
        omega
      rw [takeData_inOrder nonzero inOrder]
      rw [inOrder, sub_self] at result
      change incoming.rbuf.writeOffset new.data new.len.toNat 0 = _ at result
      rw [result]
      have first := held (⟨new.seq, new.len⟩ :: incoming.rlist) (List.Perm.refl _) (by
        rw [pairwise_cons]
        refine ⟨fun other member => ?_, gathered.sorted⟩
        have later := behind other member
        change new.seq.toNat ≤ other.seq.toNat
        omega)
      have same : ∀ position, (position < count + new.len.toNat ∨
          ∃ other ∈ incoming.rlist, other.Covers start.rcvNxt.toNat position) ↔
            (position < count ∨ ∃ other ∈ RSegment.mk new.seq new.len :: incoming.rlist,
              other.Covers start.rcvNxt.toNat position) := by
        intro position
        constructor
        · rintro (before | ⟨other, member, covers⟩)
          · by_cases readable : position < count
            · exact .inl readable
            · refine .inr ⟨_, mem_cons_self, ?_, ?_⟩
              · change new.seq.toNat ≤ _
                omega
              · change _ < new.seq.toNat + new.len.toNat
                omega
          · exact .inr ⟨other, mem_cons_of_mem _ member, covers⟩
        · rintro (before | ⟨other, member, covers⟩)
          · exact .inl (by omega)
          · rcases mem_cons.mp member with rfl | inList
            · rcases covers with ⟨_, before⟩
              change _ < new.seq.toNat + new.len.toNat at before
              exact .inl (by omega)
            · exact .inr ⟨other, inList, covers⟩
      have more : count + new.len.toNat ≤ reach stream start := by omega
      have advanced := @Gathered.advance stream start { incoming with rbuf := written } _ _
        beforeWrap _ _ first more _ (sublist_cons_self _ _) same
      exact advanced.recoverRlist beforeWrap
    · rw [takeData_ahead nonzero inOrder, result]
      refine ⟨count, held _ (insertRlist_perm _ _) (insertRlist_sorted gathered.sorted), ?_⟩
      intro other member
      rcases mem_cons.mp ((insertRlist_perm _ _).mem_iff.mp member) with rfl | inList
      · change incoming.rcvNxt.toNat < new.seq.toNat
        have different : new.seq.toNat ≠ incoming.rcvNxt.toNat := fun same =>
          inOrder (UInt32.toNat_inj.mp same)
        omega
      · exact behind other inList

end Gathering

/-! ## Segments that `process` gets -/

section Processing

variable (env : Environment)

variable {seg : Segment}

/-- A plain segment is accepted, and its data taken, or it leaves the data as they are. -/
theorem process_plain {tcp : PseudoTcp} (plain : seg.flags &&& flagCtl = 0)
    (notShut : tcp.shutdown = .none) :
    (process env seg tcp).2.shutdown = .none ∧
      ((process env seg tcp).1 = true → ∃ lastrecv, (process env seg tcp).2.toIncoming =
        (takeData false (adjustSegment seg { tcp.toIncoming with lastrecv })
          { tcp.toIncoming with lastrecv }).2) ∧
      ((process env seg tcp).1 = false → ∃ lastrecv, (process env seg tcp).2.toIncoming =
        { tcp.toIncoming with lastrecv }) := by
  unfold process
  split
  · exact ⟨notShut, nofun, fun _ => ⟨tcp.lastrecv, rfl⟩⟩
  dsimp only
  split
  · exact ⟨notShut, nofun, fun _ => ⟨tcp.now env, rfl⟩⟩
  split
  · exact ⟨notShut, nofun, fun _ => ⟨tcp.now env, rfl⟩⟩
  have control : processControl seg (noteTraffic env tcp) = (some false, noteTraffic env tcp) := by
    rw [processControl, if_pos plain]
  rw [control]
  dsimp only
  have stamped : SameReceiver (noteTraffic env tcp)
      (updateTimestamp seg (noteTraffic env tcp)) := by
    unfold updateTimestamp
    split <;> exact ⟨rfl, rfl, rfl⟩
  have acked := processAck_receiver env (tcp.now env) seg
    (updateTimestamp seg (noteTraffic env tcp))
  have shutdown := acked.shutdown.trans (stamped.shutdown.trans notShut)
  have incoming := acked.toIncoming.trans stamped.toIncoming
  revert shutdown incoming
  generalize processAck env (tcp.now env) seg (updateTimestamp seg (noteTraffic env tcp)) = outcome
  rcases outcome with ⟨_ | _, acknowledged⟩
  · exact fun shutdown incoming => ⟨shutdown, nofun, fun _ => ⟨tcp.now env, incoming⟩⟩
  · intro shutdown incoming
    dsimp only at shutdown incoming ⊢
    have confirmed := confirm_sameReceiver false acknowledged
    have data := processData_receiver env seg (notifyWriteable (confirmConnect false acknowledged))
    have still := confirmed.shutdown.trans shutdown
    refine ⟨data.shutdown.trans still, fun _ => ⟨tcp.now env, ?_⟩, nofun⟩
    rw [data.toIncoming]
    dsimp only
    rw [still, plain, confirmed.toIncoming, incoming]
    rfl

/-- The state after segments that carry slices, and the slices that were accepted. -/
def feed (tcp : PseudoTcp) : List (Slice × Segment) → PseudoTcp × List Slice
  | [] => (tcp, [])
  | (slice, seg) :: rest =>
    let outcome := process env seg tcp
    let fed := feed outcome.2 rest
    (fed.1, if outcome.1 then slice :: fed.2 else fed.2)

/-- The readable bytes are the longest prefix of the stream that the accepted slices cover, and
`rcvNxt` is its end. -/
def Reassembles (stream : Bytes) (tcp : PseudoTcp) (fed : List (Slice × Segment)) : Prop :=
  ∃ count, CoveredPrefix (feed env tcp fed).2 count ∧
    (feed env tcp fed).1.rbuf.contents = tcp.rbuf.contents ++ stream.take count ∧
    (feed env tcp fed).1.rcvNxt = tcp.rcvNxt + UInt32.ofNat count

/-- Segments that carry slices for which there is room. -/
def InReach (stream : Bytes) (tcp : PseudoTcp) (fed : List (Slice × Segment)) : Prop :=
  ∀ piece ∈ fed, CarriesSlice stream tcp.rcvNxt piece.1 piece.2 ∧
    piece.1.stop ≤ reach stream tcp.toIncoming

variable {env} {stream : Bytes}

section

variable {start incoming : Incoming} {slices : List Slice} {count : Nat}
  (gathered : Gathered stream start slices count incoming)

include gathered

theorem Gathered.coveredPrefix (behind : HeldBehind incoming) :
    CoveredPrefix slices count := by
  constructor
  · exact fun position before => (gathered.covered position).mp (.inl before)
  · intro slice member covers
    rcases (gathered.covered count).mpr ⟨slice, member, covers⟩ with before | ⟨held, inList, low, _⟩
    · exact lt_irrefl count before
    · have later := behind held inList
      have number := gathered.rcvNxt
      omega

theorem Gathered.contents : incoming.rbuf.contents = start.rbuf.contents ++ stream.take count := by
  have length := gathered.dataLength
  have streamed : count ≤ stream.length := gathered.count_le.trans (min_le_left _ _)
  apply ext_getElem?
  intro position
  by_cases front : position < start.rbuf.dataLength
  · rw [List.getElem?_append_left (by rwa [FifoBuffer.length_contents]), FifoBuffer.contents,
      FifoBuffer.contents, List.getElem?_map, List.getElem?_map, List.getElem?_range (by omega),
      List.getElem?_range front, Option.map_some, Option.map_some, gathered.front position front]
  · rw [List.getElem?_append_right (by rw [FifoBuffer.length_contents]; omega),
      FifoBuffer.length_contents]
    by_cases before : position < start.rbuf.dataLength + count
    · have stored := gathered.stored (position - start.rbuf.dataLength) (.inl (by omega))
      rw [List.getElem?_take_of_lt (by omega), stored, FifoBuffer.contents, List.getElem?_map,
        List.getElem?_range (by omega), Option.map_some,
        Nat.add_sub_cancel' (Nat.le_of_not_lt front)]
    · rw [List.getElem?_eq_none (by rw [FifoBuffer.length_contents]; omega),
        List.getElem?_eq_none (by rw [length_take]; omega)]

end

/-! ## Without a wrap -/

theorem Gathered.of_mem_iff {start incoming : Incoming} {slices others : List Slice} {count : Nat}
    (gathered : Gathered stream start slices count incoming)
    (same : ∀ slice, slice ∈ slices ↔ slice ∈ others) :
    Gathered stream start others count incoming :=
  { gathered with
    covered := by
      intro position
      rw [gathered.covered position]
      simp only [same] }

theorem Gathered.refl {start : Incoming} (none_held : start.rlist = []) :
    Gathered stream start [] 0 start where
  rcvNxt := rfl
  bufferLength := rfl
  readPosition := rfl
  dataLength := rfl
  count_le := Nat.zero_le _
  front := fun _ _ => rfl
  sorted := by
    rw [none_held]
    exact List.Pairwise.nil
  inside := by
    rw [none_held]
    exact nofun
  stored := by
    rintro position (before | ⟨held, member, _⟩)
    · exact absurd before (Nat.not_lt_zero _)
    · rw [none_held] at member
      exact absurd member not_mem_nil
  covered := by
    intro position
    constructor
    · rintro (before | ⟨held, member, _⟩)
      · exact absurd before (Nat.not_lt_zero _)
      · rw [none_held] at member
        exact absurd member not_mem_nil
    · rintro ⟨slice, member, _⟩
      exact absurd member not_mem_nil

/-- What the data of each segment preserve, a run preserves. Refused segments leave the data as
they are. -/
theorem feed_invariant {holds : List Slice → Incoming → Prop}
    (noted : ∀ slices incoming lastrecv, holds slices incoming →
      holds slices { incoming with lastrecv })
    (congruent : ∀ slices others incoming, (∀ slice, slice ∈ slices ↔ slice ∈ others) →
      holds slices incoming → holds others incoming)
    (fed : List (Slice × Segment)) (plain : ∀ piece ∈ fed, piece.2.flags &&& flagCtl = 0)
    (taken : ∀ piece ∈ fed, ∀ slices incoming, holds slices incoming →
      holds (piece.1 :: slices) (takeData false (adjustSegment piece.2 incoming) incoming).2)
    {tcp : PseudoTcp} {slices : List Slice} (notShut : tcp.shutdown = .none)
    (start : holds slices tcp.toIncoming) :
    holds ((feed env tcp fed).2 ++ slices) (feed env tcp fed).1.toIncoming := by
  induction fed generalizing tcp slices with
  | nil => exact start
  | cons piece rest induction =>
    rcases piece with ⟨slice, seg⟩
    have run := fun start => @induction
      (fun piece member => plain piece (mem_cons_of_mem _ member))
      (fun piece member => taken piece (mem_cons_of_mem _ member))
      (process env seg tcp).2 start
    rcases process_plain env (plain _ mem_cons_self) notShut with
      ⟨stillNotShut, accepted, refused⟩
    rw [feed]
    dsimp only
    cases outcome : (process env seg tcp).1 with
    | false =>
      rcases refused outcome with ⟨lastrecv, same⟩
      rw [if_neg Bool.false_ne_true]
      apply run _ stillNotShut
      rw [same]
      exact noted _ _ _ start
    | true =>
      rcases accepted outcome with ⟨lastrecv, same⟩
      have more := taken _ mem_cons_self _ _ (noted _ _ lastrecv start)
      rw [← same] at more
      apply congruent _ _ _ _ (run _ stillNotShut more)
      intro other
      rw [if_pos rfl, mem_append, cons_append, mem_cons, mem_cons, mem_append]
      exact or_left_comm

theorem reassembles_of_beforeWrap {tcp : PseudoTcp} (notShut : tcp.shutdown = .none)
    (buffer : ReceiveBuffer tcp.toIncoming) (none_held : tcp.rlist = [])
    (beforeWrap : BeforeWrap stream tcp.toIncoming) {fed : List (Slice × Segment)}
    (inReach : InReach stream tcp fed) : Reassembles env stream tcp fed := by
  have none_behind : HeldBehind tcp.toIncoming := by
    rw [HeldBehind, none_held]
    exact nofun
  have run := @feed_invariant env (fun slices incoming => ∃ count,
      Gathered stream tcp.toIncoming slices count incoming ∧ HeldBehind incoming)
    (by
      rintro slices incoming lastrecv ⟨count, gathered, behind⟩
      exact ⟨count, { gathered with }, behind⟩)
    (by
      rintro slices others incoming same ⟨count, gathered, behind⟩
      exact ⟨count, gathered.of_mem_iff same, behind⟩)
    fed (fun piece member => (inReach piece member).1.plain)
    (by
      rintro piece member slices incoming ⟨count, gathered, behind⟩
      exact gathered.takeData buffer beforeWrap behind (inReach piece member).1
        (inReach piece member).2)
    tcp [] notShut ⟨0, Gathered.refl none_held, none_behind⟩
  rcases run with ⟨count, gathered, behind⟩
  rw [append_nil] at gathered
  refine ⟨count, gathered.coveredPrefix behind, gathered.contents, ?_⟩
  have number := gathered.rcvNxt
  have limit := beforeWrap
  have count_le := gathered.count_le
  rw [BeforeWrap] at limit
  apply UInt32.toNat_inj.mp
  rw [UInt32.toNat_add, toNat_ofNat']
  omega

/-! ## One byte with the last sequence number -/

theorem adjustSegment_of_empty (empty : seg.len = 0) (incoming : Incoming) :
    (adjustSegment seg incoming).len = 0 := by
  rw [adjustSegment]
  apply adjustBack_of_empty
  unfold adjustFront
  split
  · dsimp only
    split
    next fewer => exact absurd (empty ▸ fewer) UInt32.not_lt_zero
    next => rfl
  · exact empty

theorem takeData_rcvNxt_of_ne {incoming : Incoming} (different : seg.seq ≠ incoming.rcvNxt) :
    (takeData false seg incoming).2.rcvNxt = incoming.rcvNxt := by
  by_cases empty : seg.len = 0
  · rw [takeData_of_empty empty]
  · rw [takeData_ahead empty different]

theorem adjustSegment_inOrder {incoming : Incoming} (buffer : ReceiveBuffer incoming)
    (inOrder : seg.seq = incoming.rcvNxt)
    (fits : incoming.rbuf.dataLength + seg.len.toNat ≤ incoming.rbuf.bufferLength) :
    adjustSegment seg incoming = seg := by
  have available := toNat_available buffer
  have remaining := getWriteRemaining_eq buffer.valid
  rw [adjustSegment, adjustFront, if_neg (by rw [inOrder]; exact UInt32.lt_irrefl _)]
  apply adjustBack_of_fits
  rw [available, inOrder, sub_self]
  change 0 + _ ≤ _
  omega

theorem advance_eq_write {fifo : FifoBuffer} (valid : fifo.Valid) (source : Nat → UInt8)
    {bytes : Nat} (room : fifo.dataLength + bytes ≤ fifo.bufferLength) (some_bytes : 0 < bytes) :
    (fifo.writeOffset source bytes 0).2.consumeWriteBuffer bytes = (fifo.write source bytes).2 := by
  rcases writeOffset_eq valid source (show fifo.dataLength + 0 + bytes ≤ _ from room)
    some_bytes with ⟨written, result, _, dataLength, _⟩
  rw [FifoBuffer.write, result, consumeWriteBuffer, dataLength]

/-- One byte has room, and its sequence number is the last one. The rest of the program then
sees the number 0, and takes a copy of the byte for one that is far ahead. -/
structure AtLastNumber (stream : Bytes) (start : Incoming) (slices : List Slice)
    (incoming : Incoming) : Prop where
  slices_le : ∀ slice ∈ slices, slice.stop ≤ 1
  bufferLength : incoming.rbuf.bufferLength = start.rbuf.bufferLength
  progress : (∀ slice ∈ slices, slice.length = 0) ∧ incoming.rcvNxt = start.rcvNxt ∧
      incoming.rbuf = start.rbuf ∧ incoming.rlist = [] ∨
    (∃ slice ∈ slices, slice.Covers 0) ∧ incoming.rcvNxt = 0 ∧
      incoming.rbuf.dataLength = start.rbuf.dataLength + 1 ∧
      incoming.rbuf.contents = start.rbuf.contents ++ stream.take 1

theorem AtLastNumber.takeData {start incoming : Incoming} {slices : List Slice}
    (buffer : ReceiveBuffer start) (last : start.rcvNxt.toNat + 1 = 2 ^ 32)
    (some_room : start.rbuf.dataLength < start.rbuf.bufferLength)
    (holds : AtLastNumber stream start slices incoming) {slice : Slice} {seg : Segment}
    (carries : CarriesSlice stream start.rcvNxt slice seg) (fits : slice.stop ≤ 1) :
    AtLastNumber stream start (slice :: slices)
      (PseudoTcp.takeData false (adjustSegment seg incoming) incoming).2 := by
  have len := carries.len
  have slices_le : ∀ other ∈ slice :: slices, other.stop ≤ 1 := by
    intro other member
    rcases mem_cons.mp member with rfl | inSlices
    · exact fits
    · exact holds.slices_le other inSlices
  by_cases empty : slice.length = 0
  · have nothing : seg.len = 0 := UInt32.toNat_inj.mp (len.trans empty)
    rw [takeData_of_empty (adjustSegment_of_empty nothing incoming)]
    refine ⟨slices_le, holds.bufferLength, ?_⟩
    rcases holds.progress with ⟨allEmpty, rest⟩ | ⟨⟨other, member, covers⟩, rest⟩
    · refine .inl ⟨?_, rest⟩
      intro other member
      rcases mem_cons.mp member with rfl | inSlices
      · exact empty
      · exact allEmpty other inSlices
    · exact .inr ⟨⟨other, mem_cons_of_mem _ member, covers⟩, rest⟩
  · rw [Slice.stop] at fits
    have first : slice.start = 0 := by omega
    have one : seg.len.toNat = 1 := by omega
    have seq : seg.seq = start.rcvNxt := by
      rw [carries.seq, first]
      exact add_zero _
    have covered : ∃ other ∈ slice :: slices, other.Covers 0 :=
      ⟨slice, mem_cons_self, by omega, by rw [Slice.stop]; omega⟩
    rcases holds.progress with ⟨-, rcvNxt, rbuf, rlist⟩ | ⟨-, rcvNxt, dataLength, contents⟩
    · have inOrder : seg.seq = incoming.rcvNxt := seq.trans rcvNxt.symm
      have sameBuffer : ReceiveBuffer incoming := ⟨rbuf ▸ buffer.valid, rbuf ▸ buffer.capacity⟩
      have nonzero : seg.len ≠ 0 := by
        rintro zero
        rw [zero] at one
        exact absurd one (by decide)
      have byte := carries.data 0 (by omega)
      rw [first] at byte
      rw [adjustSegment_inOrder sameBuffer inOrder (by rw [rbuf]; omega),
        takeData_inOrder nonzero inOrder, rlist, PseudoTcp.recoverRlist, advanceRcvNxt]
      dsimp only
      rw [one, advance_eq_write sameBuffer.valid _ (by rw [rbuf]; omega) Nat.one_pos, rbuf]
      have written := contents_write buffer.valid seg.data
        (show start.rbuf.dataLength + 1 ≤ _ from some_room)
      have readable : (start.rbuf.write seg.data 1).2.contents =
          start.rbuf.contents ++ stream.take 1 := by
        rw [written.2]
        congr 1
        cases stream with
        | nil => cases byte
        | cons head tail => exact congrArg (fun byte => [byte]) (Option.some.inj byte).symm
      refine ⟨slices_le, ?_, .inr ⟨covered, ?_, ?_, readable⟩⟩
      · rw [← advance_eq_write buffer.valid _ some_room Nat.one_pos]
        rcases writeOffset_eq buffer.valid seg.data
          (show start.rbuf.dataLength + 0 + 1 ≤ _ from some_room) Nat.one_pos with
          ⟨_, result, bufferLength, _⟩
        rw [result]
        exact bufferLength
      · apply UInt32.toNat_inj.mp
        rw [UInt32.toNat_add, rcvNxt, one, last]
        rfl
      · have length := congrArg List.length written.2
        rw [length_append, FifoBuffer.length_contents, FifoBuffer.length_contents,
          length_map, length_range] at length
        exact length
    · have far : (seg.seq - incoming.rcvNxt).toNat = start.rcvNxt.toNat := by
        rw [seq, rcvNxt, sub_zero]
      have different : seg.seq ≠ incoming.rcvNxt := by
        rintro same
        rw [seq, rcvNxt] at same
        rw [same] at last
        exact absurd last (by decide)
      have unmoved : (adjustSegment seg incoming).seq = seg.seq := by
        rw [adjustSegment, adjustBack_seq, adjustFront, rcvNxt, if_neg UInt32.not_lt_zero]
      rw [← unmoved] at far different
      have capacity := buffer.capacity
      have sameBuffer := takeData_rbuf_of_far (by rw [far, holds.bufferLength]; omega) different
      refine ⟨slices_le, ?_, .inr ⟨covered, ?_, ?_, ?_⟩⟩
      · rw [sameBuffer]
        exact holds.bufferLength
      · rw [takeData_rcvNxt_of_ne different]
        exact rcvNxt
      · rw [sameBuffer]
        exact dataLength
      · rw [sameBuffer]
        exact contents

theorem reassembles_of_reach_eq_one {tcp : PseudoTcp} (notShut : tcp.shutdown = .none)
    (buffer : ReceiveBuffer tcp.toIncoming) (none_held : tcp.rlist = [])
    (last : tcp.rcvNxt.toNat + 1 = 2 ^ 32) (one : reach stream tcp.toIncoming = 1)
    {fed : List (Slice × Segment)} (inReach : InReach stream tcp fed) :
    Reassembles env stream tcp fed := by
  have room := reach_le_room stream tcp.toIncoming
  have run := @feed_invariant env (AtLastNumber stream tcp.toIncoming)
    (fun _ _ _ holds => { holds with })
    (fun slices others incoming same holds =>
      { holds with
        slices_le := fun slice member => holds.slices_le slice ((same slice).mpr member)
        progress := by
          have progress := holds.progress
          simp only [same] at progress
          exact progress })
    fed (fun piece member => (inReach piece member).1.plain)
    (fun piece member slices incoming holds => holds.takeData buffer last (by omega)
      (inReach piece member).1 ((inReach piece member).2.trans one.le))
    tcp [] notShut ⟨nofun, rfl, .inl ⟨nofun, rfl, rfl, none_held⟩⟩
  rw [append_nil] at run
  rcases run.progress with ⟨empty, rcvNxt, rbuf, -⟩ | ⟨covered, rcvNxt, -, contents⟩
  · refine ⟨0, ⟨nofun, ?_⟩, ?_, ?_⟩
    · rintro slice member ⟨low, high⟩
      have none := empty slice member
      rw [Slice.stop] at high
      omega
    · rw [rbuf, take_zero, append_nil]
    · rw [rcvNxt]
      exact (add_zero _).symm
  · refine ⟨1, ⟨?_, ?_⟩, contents, ?_⟩
    · intro position before
      rw [Nat.lt_one_iff.mp before]
      exact covered
    · rintro slice member ⟨_, high⟩
      exact absurd (run.slices_le slice member) (not_le.mpr high)
    · rw [rcvNxt]
      apply UInt32.toNat_inj.mp
      rw [UInt32.toNat_add, toNat_ofNat', Nat.mod_eq_of_lt (show 1 < 2 ^ 32 by decide), last]
      rfl

/-! ## Across the wrap -/

/-- What sending leaves alone. -/
structure SameConnection (before after : PseudoTcp) : Prop where
  state : after.state = before.state
  conv : after.conv = before.conv
  swndScale : after.swndScale = before.swndScale

theorem SameConnection.trans {first second third : PseudoTcp} (front : SameConnection first second)
    (back : SameConnection second third) : SameConnection first third :=
  ⟨back.state.trans front.state, back.conv.trans front.conv, back.swndScale.trans front.swndScale⟩

theorem SameStream.sameConnection {before after : PseudoTcp} (same : SameStream before after) :
    SameConnection before after := ⟨same.state, same.conv, same.swndScale⟩

variable (env) in
theorem transmit_connection (index : Nat) (now : UInt32) (tcp : PseudoTcp) :
    SameConnection tcp (transmit env index now tcp).2 := by
  rcases Nat.lt_or_ge index tcp.slist.length with inside | outside
  · have slist := (take_append_drop index tcp.slist).symm
    rw [drop_eq_getElem_cons inside] at slist
    have position : (tcp.slist.take index).length = index := length_take_of_le inside.le
    rcases transmit_cases env slist now with ⟨-, same, -⟩ | ⟨sent, -, -, -, -, same, -⟩
    all_goals
      rw [position] at same
      exact ⟨same.state, same.conv, same.swndScale⟩
  · rw [transmit, List.getElem?_eq_none outside]
    exact ⟨rfl, rfl, rfl⟩

variable (env) in
theorem attemptSend_connection (sflags : SendFlags) (tcp : PseudoTcp) :
    SameConnection tcp (attemptSend env sflags tcp) := by
  apply @attemptSend_induction env (SameConnection tcp) _ _ _ sflags tcp ⟨rfl, rfl, rfl⟩
  · exact fun before after same _ held => held.trans same.sameConnection
  · exact fun sflags middle held => held.trans (sendAck_spec env sflags middle).1.sameConnection
  · intro now middle held _
    have prepared : SameConnection middle middle.prepareNext := ⟨rfl, rfl, rfl⟩
    exact (held.trans prepared).trans (transmit_connection env _ now middle.prepareNext)

theorem processAck_of_same (now : UInt32) {seg : Segment} {tcp : PseudoTcp}
    (ack : seg.ack = tcp.sndUna) (some_data : 0 < seg.len) :
    processAck env now seg tcp =
      (true, { tcp with sndWnd := seg.wnd.toUInt32 <<< tcp.swndScale.toUInt32 }) := by
  rw [processAck, if_neg (by rw [ack]; exact fun new => UInt32.lt_irrefl _ new.1), if_pos ack,
    duplicateAck]
  dsimp only
  rw [if_pos some_data]

/-- Data of the conversation that acknowledge nothing new are accepted, and the connection stays
as it is. -/
theorem process_accepts {tcp : PseudoTcp} {seg : Segment} (open_ : tcp.state ≠ .closed)
    (conv : seg.conv = tcp.conv) (flags : seg.flags = 0) (ack : seg.ack = tcp.sndUna)
    (some_data : 0 < seg.len) :
    (process env seg tcp).1 = true ∧ (process env seg tcp).2.state ≠ .closed ∧
      (process env seg tcp).2.conv = tcp.conv ∧ (process env seg tcp).2.sndUna = tcp.sndUna := by
  have control : processControl seg (noteTraffic env tcp) = (some false, noteTraffic env tcp) := by
    rw [processControl, flags, if_pos (by decide)]
  have stamped : (updateTimestamp seg (noteTraffic env tcp)).state ≠ .closed ∧
      (updateTimestamp seg (noteTraffic env tcp)).conv = tcp.conv ∧
      (updateTimestamp seg (noteTraffic env tcp)).sndUna = tcp.sndUna := by
    unfold updateTimestamp
    split <;> exact ⟨open_, rfl, rfl⟩
  revert stamped
  generalize stampedEq : updateTimestamp seg (noteTraffic env tcp) = stampedTcp
  intro stamped
  have acked := @processAck_of_same env (tcp.now env) _ _ (ack.trans stamped.2.2.symm) some_data
  generalize readiedEq : { stampedTcp with
    sndWnd := seg.wnd.toUInt32 <<< stampedTcp.swndScale.toUInt32 } = readied at acked
  have before : readied.state ≠ .closed ∧ readied.conv = tcp.conv ∧
      readied.sndUna = tcp.sndUna := by
    rw [← readiedEq]
    exact stamped
  have processed : process env seg tcp =
      (true, processData env seg (notifyWriteable (confirmConnect false readied))) := by
    rw [process, if_neg (not_not.mpr conv)]
    dsimp only
    rw [if_neg (show (noteTraffic env tcp).state ≠ .closed from open_), flags,
      if_neg (by decide), control]
    dsimp only
    rw [stampedEq, acked]
  rw [processed]
  have confirmed : (notifyWriteable (confirmConnect false readied)).state ≠ .closed ∧
      (notifyWriteable (confirmConnect false readied)).conv = readied.conv := by
    unfold notifyWriteable confirmConnect
    dsimp only
    split <;> split <;> first | exact ⟨before.1, rfl⟩ | exact ⟨nofun, rfl⟩
  have same := confirm_sameReceiver false readied
  have data := processData_receiver env seg (notifyWriteable (confirmConnect false readied))
  refine ⟨rfl, ?_, ?_, data.sndUna.trans (same.sndUna.trans before.2.2)⟩
  all_goals
    unfold processData
    dsimp only
    generalize takeData _ _ (notifyWriteable (confirmConnect false readied)).toIncoming = outcome
    rcases outcome with ⟨taken, incoming⟩
    dsimp only
    generalize (if taken = .inOrder true then SendFlags.immediateAck
      else ackFlags seg (notifyWriteable (confirmConnect false readied))) = sflags
    have sent := attemptSend_connection env sflags
      { notifyWriteable (confirmConnect false readied) with toIncoming := incoming }
    generalize attemptSend env sflags
      { notifyWriteable (confirmConnect false readied) with toIncoming := incoming } = after at sent
  · have still : after.state ≠ .closed := sent.state ▸ confirmed.1
    split
    · unfold notifyReadable
      split <;> exact still
    · exact still
  · have still : after.conv = tcp.conv := sent.conv.trans (confirmed.2.trans before.2.1)
    split
    · unfold notifyReadable
      split <;> exact still
    · exact still

theorem recoverRlist_rbuf_of_wrapped (rlist : List RSegment) (incoming : Incoming)
    (wrapped : ∀ held ∈ rlist, held.seq + held.len = 0) :
    (recoverRlist rlist incoming).2.rbuf = incoming.rbuf := by
  induction rlist generalizing incoming with
  | nil => rfl
  | cons head rest induction =>
    rw [recoverRlist]
    split
    · rw [if_neg (by rw [wrapped head mem_cons_self]; exact UInt32.not_lt_zero)]
      exact induction incoming fun held member => wrapped held (mem_cons_of_mem _ member)
    · rfl

/-- The segment of a connection that carries a slice, and acknowledges nothing new. -/
def sliceSegment (tcp : PseudoTcp) (stream : Bytes) (slice : Slice) : Segment where
  conv := tcp.conv
  seq := tcp.rcvNxt + UInt32.ofNat slice.start
  ack := tcp.sndUna
  flags := 0
  wnd := 0
  data := fun index => stream.getD (slice.start + index) 0
  len := UInt32.ofNat slice.length
  tsval := 0
  tsecr := 0

theorem carries_sliceSegment {tcp : PseudoTcp} {slice : Slice} (inside : slice.stop ≤ stream.length)
    (short : slice.length < 2 ^ 32) :
    CarriesSlice stream tcp.rcvNxt slice (sliceSegment tcp stream slice) where
  plain := by
    change (0 : UInt8) &&& flagCtl = 0
    decide
  seq := rfl
  len := by
    change (UInt32.ofNat slice.length).toNat = _
    rw [toNat_ofNat', Nat.mod_eq_of_lt short]
  data := by
    intro index before
    rw [Slice.stop] at inside
    have within : slice.start + index < stream.length := by omega
    change _ = some (stream.getD (slice.start + index) 0)
    rw [getD_eq_getElem?_getD, List.getElem?_eq_getElem within, Option.getD_some]

/-- The bytes from the second one up to the wrap, before the first one. -/
theorem takeData_upToWrap {incoming : Incoming} (buffer : ReceiveBuffer incoming)
    (none_held : incoming.rlist = []) (seq : seg.seq = incoming.rcvNxt + 1)
    (stop : incoming.rcvNxt.toNat + 1 + seg.len.toNat = max (2 ^ 32) (incoming.rcvNxt.toNat + 2))
    (fits : 1 + seg.len.toNat ≤ incoming.rbuf.getWriteRemaining) :
    (takeData false (adjustSegment seg incoming) incoming).2.rcvNxt = incoming.rcvNxt ∧
      (takeData false (adjustSegment seg incoming) incoming).2.rbuf.Valid ∧
      (takeData false (adjustSegment seg incoming) incoming).2.rbuf.dataLength =
        incoming.rbuf.dataLength ∧
      (takeData false (adjustSegment seg incoming) incoming).2.rbuf.bufferLength =
        incoming.rbuf.bufferLength ∧
      ∀ held ∈ (takeData false (adjustSegment seg incoming) incoming).2.rlist,
        held.seq + held.len = 0 := by
  have number := incoming.rcvNxt.toNat_lt
  have some_data : 0 < seg.len.toNat := by omega
  have seqNumber : seg.seq.toNat = (incoming.rcvNxt.toNat + 1) % 2 ^ 32 := by
    rw [seq, UInt32.toNat_add]
    rfl
  by_cases last : incoming.rcvNxt.toNat + 1 = 2 ^ 32
  · -- The second byte has the number 0, and counts as received before.
    have less : seg.seq < incoming.rcvNxt := lt_iff_toNat_lt.mpr (by omega)
    have adjust := UInt32.toNat_sub_of_le _ _ (UInt32.le_of_lt less)
    have empty : (adjustSegment seg incoming).len = 0 := by
      rw [adjustSegment]
      apply adjustBack_of_empty
      rw [adjustFront, if_pos less]
      dsimp only
      rw [if_neg (by rw [UInt32.not_lt, le_iff_toNat_le]; omega)]
    rw [takeData_of_empty empty, none_held]
    refine ⟨rfl, buffer.valid, rfl, rfl, ?_⟩
    rintro held ⟨⟩
  · have offset : (seg.seq - incoming.rcvNxt).toNat = 1 := by
      rw [seq, add_sub_cancel_left]
      rfl
    have different : seg.seq ≠ incoming.rcvNxt := by
      rintro same
      rw [same, sub_self] at offset
      exact absurd offset (by decide)
    have remaining := getWriteRemaining_eq buffer.valid
    have filled := buffer.valid.dataLength_le
    have available := toNat_available buffer
    have nonzero : seg.len ≠ 0 := by
      rintro zero
      rw [zero] at some_data
      exact absurd some_data (lt_irrefl 0)
    rw [adjustSegment, adjustFront, if_neg (by rw [UInt32.not_lt, le_iff_toNat_le]; omega),
      adjustBack_of_fits (by rw [available, offset]; exact fits),
      takeData_ahead nonzero different, none_held, offset]
    rcases writeOffset_eq buffer.valid seg.data
      (show incoming.rbuf.dataLength + 1 + seg.len.toNat ≤ _ by omega) some_data with
      ⟨written, result, bufferLength, dataLength, readPosition, _⟩
    rw [result]
    refine ⟨rfl, ⟨?_, ?_, ?_⟩, dataLength, bufferLength, ?_⟩
    · exact bufferLength ▸ buffer.valid.positive
    · change written.dataLength ≤ written.bufferLength
      rw [dataLength, bufferLength]
      exact filled
    · change written.readPosition < written.bufferLength
      rw [readPosition, bufferLength]
      exact buffer.valid.readPosition_lt
    · intro held member
      rcases mem_singleton.mp member
      apply UInt32.toNat_inj.mp
      change (seg.seq + seg.len).toNat = 0
      rw [UInt32.toNat_add]
      omega

/-- Two slices that are not put together: all from the second byte up to the wrap, and then the
first one. -/
def acrossWrap (tcp : PseudoTcp) : List Slice :=
  [⟨1, max 2 (2 ^ 32 - tcp.rcvNxt.toNat) - 1⟩, ⟨0, 1⟩]

def carrying (tcp : PseudoTcp) (stream : Bytes) (slices : List Slice) : List (Slice × Segment) :=
  slices.map fun slice => (slice, sliceSegment tcp stream slice)

/-- After the first of the two slices: nothing more is readable, and what is held ends at the
wrap. -/
structure UpToWrap (tcp after : PseudoTcp) : Prop where
  stillOpen : after.state ≠ .closed
  notShut : after.shutdown = .none
  conv : after.conv = tcp.conv
  sndUna : after.sndUna = tcp.sndUna
  rcvNxt : after.rcvNxt = tcp.rcvNxt
  valid : after.rbuf.Valid
  dataLength : after.rbuf.dataLength = tcp.rbuf.dataLength
  bufferLength : after.rbuf.bufferLength = tcp.rbuf.bufferLength
  wrapped : ∀ held ∈ after.rlist, held.seq + held.len = 0

theorem process_upToWrap {tcp : PseudoTcp} (open_ : tcp.state ≠ .closed)
    (notShut : tcp.shutdown = .none) (buffer : ReceiveBuffer tcp.toIncoming)
    (none_held : tcp.rlist = []) {many : Slice} (start : many.start = 1)
    (length : many.length = max 2 (2 ^ 32 - tcp.rcvNxt.toNat) - 1)
    (fits : many.stop ≤ tcp.rbuf.bufferLength - tcp.rbuf.dataLength)
    (carries : CarriesSlice stream tcp.rcvNxt many (sliceSegment tcp stream many)) :
    (process env (sliceSegment tcp stream many) tcp).1 = true ∧
      UpToWrap tcp (process env (sliceSegment tcp stream many) tcp).2 := by
  have number := tcp.rcvNxt.toNat_lt
  have remaining := getWriteRemaining_eq buffer.valid
  have len := carries.len
  rw [Slice.stop] at fits
  have some_data : 0 < (sliceSegment tcp stream many).len :=
    lt_iff_toNat_lt.mpr (by change 0 < _; omega)
  rcases @process_accepts env _ _ open_ rfl rfl rfl some_data with
    ⟨accepted, stillOpen, conv, sndUna⟩
  rcases process_plain env carries.plain notShut with ⟨stillNotShut, taken, -⟩
  rcases taken accepted with ⟨lastrecv, incoming⟩
  have noted : ReceiveBuffer { tcp.toIncoming with lastrecv } := ⟨buffer.valid, buffer.capacity⟩
  have seq : (sliceSegment tcp stream many).seq = tcp.rcvNxt + 1 := by
    rw [carries.seq, start]
    rfl
  have stop : tcp.rcvNxt.toNat + 1 + (sliceSegment tcp stream many).len.toNat =
      max (2 ^ 32) (tcp.rcvNxt.toNat + 2) := by omega
  rcases takeData_upToWrap noted none_held seq stop
    (show _ ≤ tcp.rbuf.getWriteRemaining by omega) with
    ⟨rcvNxt, valid, dataLength, bufferLength, wrapped⟩
  rw [← incoming] at rcvNxt valid dataLength bufferLength wrapped
  exact ⟨accepted, stillOpen, stillNotShut, conv, sndUna, rcvNxt, valid, dataLength, bufferLength,
    wrapped⟩

theorem UpToWrap.process_first {tcp after : PseudoTcp} (upToWrap : UpToWrap tcp after)
    (capacity : tcp.rbuf.bufferLength < 2 ^ 31)
    (room : tcp.rbuf.dataLength + 1 ≤ tcp.rbuf.bufferLength) :
    (process env (sliceSegment tcp stream ⟨0, 1⟩) after).1 = true ∧
      (process env (sliceSegment tcp stream ⟨0, 1⟩) after).2.rbuf.dataLength =
        tcp.rbuf.dataLength + 1 := by
  rcases @process_accepts env _ (sliceSegment tcp stream ⟨0, 1⟩) upToWrap.stillOpen
    upToWrap.conv.symm rfl upToWrap.sndUna.symm (show (0 : UInt32) < 1 by decide) with
    ⟨accepted, -⟩
  rcases (process_plain env (show (0 : UInt8) &&& flagCtl = 0 by decide)
    upToWrap.notShut).2.1 accepted with ⟨lastrecv, incoming⟩
  have sameBuffer : ReceiveBuffer { after.toIncoming with lastrecv } :=
    ⟨upToWrap.valid, upToWrap.bufferLength.trans_lt capacity⟩
  have inOrder : (sliceSegment tcp stream ⟨0, 1⟩).seq = after.rcvNxt := by
    rw [upToWrap.rcvNxt]
    exact add_zero _
  have fits : after.rbuf.dataLength + 1 ≤ after.rbuf.bufferLength := by
    rw [upToWrap.dataLength, upToWrap.bufferLength]
    exact room
  have taken := @takeData_inOrder { after.toIncoming with lastrecv }
    (sliceSegment tcp stream ⟨0, 1⟩) (show (1 : UInt32) ≠ 0 by decide) inOrder
  rw [adjustSegment_inOrder sameBuffer inOrder fits, taken] at incoming
  have rbuf := congrArg Incoming.rbuf incoming
  rw [recoverRlist_rbuf_of_wrapped _ _ upToWrap.wrapped] at rbuf
  have length := congrArg FifoBuffer.dataLength rbuf
  change _ = (after.rbuf.writeOffset _ 1 0).2.dataLength + 1 at length
  rcases writeOffset_eq upToWrap.valid (sliceSegment tcp stream ⟨0, 1⟩).data
    (show after.rbuf.dataLength + 0 + 1 ≤ _ from fits) Nat.one_pos with
    ⟨written, result, _, kept, _⟩
  rw [result, kept, upToWrap.dataLength] at length
  exact ⟨accepted, length⟩

theorem not_reassembles_acrossWrap {tcp : PseudoTcp} (open_ : tcp.state ≠ .closed)
    (notShut : tcp.shutdown = .none) (buffer : ReceiveBuffer tcp.toIncoming)
    (none_held : tcp.rlist = []) (several : 2 ≤ reach stream tcp.toIncoming)
    (wraps : ¬BeforeWrap stream tcp.toIncoming) :
    InReach stream tcp (carrying tcp stream (acrossWrap tcp)) ∧
      ¬Reassembles env stream tcp (carrying tcp stream (acrossWrap tcp)) := by
  have room := reach_le_room stream tcp.toIncoming
  have streamed : reach stream tcp.toIncoming ≤ stream.length := min_le_left _ _
  have capacity := buffer.capacity
  rw [BeforeWrap, not_lt] at wraps
  rw [acrossWrap]
  generalize manyEq : (⟨1, max 2 (2 ^ 32 - tcp.rcvNxt.toNat) - 1⟩ : Slice) = many
  have manyStart : many.start = 1 := by rw [← manyEq]
  have manyLength : many.length = max 2 (2 ^ 32 - tcp.rcvNxt.toNat) - 1 := by rw [← manyEq]
  have manyStop : many.stop ≤ reach stream tcp.toIncoming := by
    rw [Slice.stop]
    omega
  have oneStop : (⟨0, 1⟩ : Slice).stop ≤ reach stream tcp.toIncoming := Nat.one_le_of_lt several
  have short : many.length < 2 ^ 32 := by omega
  have carriesMany := @carries_sliceSegment stream tcp many (manyStop.trans streamed) short
  have carriesOne := @carries_sliceSegment stream tcp ⟨0, 1⟩ (oneStop.trans streamed) (by decide)
  constructor
  · intro piece member
    rcases mem_pair.mp member with rfl | rfl
    · exact ⟨carriesMany, manyStop⟩
    · exact ⟨carriesOne, oneStop⟩
  · rintro ⟨count, covered, contents, -⟩
    rcases process_upToWrap open_ notShut buffer none_held manyStart manyLength
      (manyStop.trans room) carriesMany with ⟨accepted, upToWrap⟩
    rcases @UpToWrap.process_first env stream _ _ upToWrap capacity (by omega) with
      ⟨acceptedOne, length⟩
    have slices : (feed env tcp (carrying tcp stream [many, ⟨0, 1⟩])).2 = [many, ⟨0, 1⟩] := by
      change (if _ then many :: (if _ then _ else _) else _) = _
      rw [if_pos accepted, if_pos acceptedOne]
      rfl
    rw [slices] at covered
    have beyondOne : 2 ≤ count := by
      by_contra few
      rcases Nat.eq_zero_or_pos count with rfl | positive
      · exact covered.2 ⟨0, 1⟩ (mem_cons_of_mem _ mem_cons_self)
          ⟨le_refl 0, Nat.one_pos⟩
      · refine covered.2 many mem_cons_self ⟨by omega, ?_⟩
        rw [Slice.stop]
        omega
    have lengths := congrArg List.length contents
    rw [length_append, FifoBuffer.length_contents, FifoBuffer.length_contents,
      length_take] at lengths
    change (process env (sliceSegment tcp stream ⟨0, 1⟩) _).2.rbuf.dataLength = _ at lengths
    rw [length] at lengths
    omega

/-- The slices are put together, however they come, exactly when at most one byte lies in the
window, or no number in it wraps. -/
theorem reassembles_iff_beforeWrap (env : Environment) (stream : Bytes) {tcp : PseudoTcp}
    (open_ : tcp.state ≠ .closed) (notShut : tcp.shutdown = .none)
    (buffer : ReceiveBuffer tcp.toIncoming) (none_held : tcp.rlist = []) :
    (∀ fed, InReach stream tcp fed → Reassembles env stream tcp fed) ↔
      reach stream tcp.toIncoming ≤ 1 ∨ BeforeWrap stream tcp.toIncoming := by
  constructor
  · intro always
    by_contra neither
    rcases not_or.mp neither with ⟨several, wraps⟩
    rcases @not_reassembles_acrossWrap env stream tcp open_ notShut buffer none_held
      (by omega) wraps with ⟨inReach, lost⟩
    exact lost (always _ inReach)
  · rintro condition fed inReach
    by_cases beforeWrap : BeforeWrap stream tcp.toIncoming
    · exact reassembles_of_beforeWrap notShut buffer none_held beforeWrap inReach
    · have few := condition.resolve_right beforeWrap
      have number := tcp.rcvNxt.toNat_lt
      rw [BeforeWrap, not_lt] at beforeWrap
      exact reassembles_of_reach_eq_one notShut buffer none_held (by omega) (by omega) inReach

/-- An established connection that expects a number next, with an empty receive buffer. -/
def expecting (rcvNxt : UInt32) : PseudoTcp :=
  { create 0 0 fun _ => 0 with
    state := .established
    rcvNxt := rcvNxt }

theorem receiveBuffer_expecting (rcvNxt : UInt32) : ReceiveBuffer (expecting rcvNxt).toIncoming :=
  ⟨valid_create (by decide) _, show (61440 : UInt32).toNat < 2 ^ 31 by decide⟩

theorem inReach_carrying {tcp : PseudoTcp} {slices : List Slice}
    (inside : ∀ slice ∈ slices, slice.stop ≤ reach stream tcp.toIncoming ∧ slice.length < 2 ^ 32) :
    InReach stream tcp (carrying tcp stream slices) := by
  intro piece member
  rcases List.mem_map.mp member with ⟨slice, inSlices, rfl⟩
  rcases inside slice inSlices with ⟨fits, short⟩
  exact ⟨carries_sliceSegment (fits.trans (min_le_left _ _)) short, fits⟩

/-- Far from the wrap, the second half of a stream and then the first half are put together. -/
theorem reassembles_halves : Reassembles stillWorld [1, 2, 3, 4] (expecting 8)
    (carrying (expecting 8) [1, 2, 3, 4] [⟨2, 2⟩, ⟨0, 2⟩]) :=
  (reassembles_iff_beforeWrap stillWorld [1, 2, 3, 4]
    (show (expecting 8).state ≠ .closed by decide) rfl (receiveBuffer_expecting 8)
    rfl).mpr (.inr (by unfold BeforeWrap; decide)) _ (inReach_carrying (by decide))

/-- When the second half starts at the wrap, it is lost, though both halves are accepted. -/
theorem not_reassembles_halves :
    InReach [1, 2, 3, 4] (expecting 0xFFFFFFFE)
        (carrying (expecting 0xFFFFFFFE) [1, 2, 3, 4] [⟨2, 2⟩, ⟨0, 2⟩]) ∧
      ¬Reassembles stillWorld [1, 2, 3, 4] (expecting 0xFFFFFFFE)
        (carrying (expecting 0xFFFFFFFE) [1, 2, 3, 4] [⟨2, 2⟩, ⟨0, 2⟩]) := by
  refine ⟨inReach_carrying (by decide), ?_⟩
  rintro ⟨count, covered, contents, -⟩
  have slices : (feed stillWorld (expecting 0xFFFFFFFE)
      (carrying (expecting 0xFFFFFFFE) [1, 2, 3, 4] [⟨2, 2⟩, ⟨0, 2⟩])).2 =
        [⟨2, 2⟩, ⟨0, 2⟩] := by decide +kernel
  have readable : (feed stillWorld (expecting 0xFFFFFFFE)
      (carrying (expecting 0xFFFFFFFE) [1, 2, 3, 4] [⟨2, 2⟩, ⟨0, 2⟩])).1.rbuf.contents =
        [1, 2] := by decide +kernel
  rw [slices] at covered
  rw [readable] at contents
  have lengths := congrArg List.length contents
  rw [length_append, FifoBuffer.length_contents, length_take] at lengths
  change 2 = 0 + min count 4 at lengths
  exact covered.2 ⟨2, 2⟩ mem_cons_self ⟨by change 2 ≤ count; omega, by change count < 4; omega⟩

end Processing

end ZyWebRtc.PseudoTcp
