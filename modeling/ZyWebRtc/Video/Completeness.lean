import ZyWebRtc.Video.RefusedPackets

namespace ZyWebRtc.Video.VCMSessionInfo

/-! What `complete` says about the packets of a session, over all orders of insertion. -/

open List Option

def numbersFrom (first : UInt16) : Nat → List UInt16
  | 0 => []
  | count + 1 => first :: numbersFrom (first + 1) count

example : numbersFrom 65535 3 = [65535, 0, 1] := by decide

/-- The stored packets are those from the packet flagged as the first one to the packet with
the marker bit, in order. -/
structure WholeRun (session : VCMSessionInfo) (first last : UInt16) : Prop where
  firstPacketSeqNum : session.firstPacketSeqNum = some first
  lastPacketSeqNum : session.lastPacketSeqNum = some last
  numbers : session.packets.map VCMPacket.seqNum = numbersFrom first (distance first last + 1)
  firstFlagged : ∃ packet ∈ session.packets.head?, packet.isFirstPacket = true
  lastFlagged : ∃ packet ∈ session.packets.getLast?, packet.markerBit = true

/-- A session that says that it is complete is. -/
def CompleteSound (session : VCMSessionInfo) : Prop :=
  session.complete = true → ∃ first last, WholeRun session first last

section

variable {head : VCMPacket} {tail : List VCMPacket}

theorem inSequence_tail (sequence : inSequence (head :: tail) = true) : inSequence tail = true := by
  cases tail with
  | nil => rfl
  | cons second rest =>
    rw [inSequence, Bool.and_eq_true] at sequence
    exact sequence.2

theorem inSequence_neighbours {front back : List VCMPacket} {packet next : VCMPacket}
    (sequence : inSequence (front ++ packet :: next :: back) = true) :
    packet.seqNum + 1 = next.seqNum := by
  induction front with
  | nil =>
    rw [nil_append, inSequence, Bool.and_eq_true, beq_iff_eq] at sequence
    exact sequence.1
  | cons head tail induction => exact induction (inSequence_tail sequence)

theorem inSequence_numbers (sequence : inSequence (head :: tail) = true) :
    (head :: tail).map VCMPacket.seqNum = numbersFrom head.seqNum (tail.length + 1) := by
  induction tail generalizing head with
  | nil => rfl
  | cons second rest induction =>
    have next : head.seqNum + 1 = second.seqNum := @inSequence_neighbours [] _ _ _ sequence
    rw [map_cons, induction (inSequence_tail sequence), length_cons,
      numbersFrom.eq_2 head.seqNum, next]

theorem inSequence_getLast (sequence : inSequence (head :: tail) = true) :
    ∀ last ∈ (head :: tail).getLast?, last.seqNum = head.seqNum + UInt16.ofNat tail.length := by
  induction tail generalizing head with
  | nil =>
    intro last final
    cases final
    exact (UInt16.add_zero _).symm
  | cons second rest induction =>
    intro last final
    rw [List.getLast?_cons_cons] at final
    have next : head.seqNum + 1 = second.seqNum := @inSequence_neighbours [] _ _ _ sequence
    rw [induction (inSequence_tail sequence) last final, ← next, length_cons,
      UInt16.ofNat_add, UInt16.add_assoc, UInt16.add_comm 1]
    rfl

end

theorem distance_add_ofNat (first : UInt16) {steps : Nat} (short : steps < 65536) :
    distance first (first + UInt16.ofNat steps) = steps := by
  have bound := first.toNat_lt
  rw [distance, UInt16.toNat_sub, UInt16.toNat_add, UInt16.toNat_ofNat']
  omega

/-! ## The invariant -/

/-- Both ends of the frame are stored when they are known, and no packet is stored right in
front of the first one or right behind the last one. -/
structure Bounded (session : VCMSessionInfo) : Prop where
  dataPtrs : ∀ packet ∈ session.packets, packet.dataPtr ≠ none
  length : session.packets.length ≤ kMaxPacketsInSession
  first : ∀ first ∈ session.firstPacketSeqNum,
    (∃ packet ∈ session.packets, packet.seqNum = first ∧ packet.isFirstPacket = true) ∧
      ¬ ∃ packet ∈ session.packets, packet.seqNum = first - 1
  last : ∀ last ∈ session.lastPacketSeqNum,
    (∃ packet ∈ session.packets, packet.seqNum = last ∧ packet.markerBit = true) ∧
      ¬ ∃ packet ∈ session.packets, packet.seqNum = last + 1
  complete : session.complete = true → session.firstPacketSeqNum ≠ none ∧
    session.lastPacketSeqNum ≠ none ∧ inSequence session.packets = true

theorem new_bounded : Bounded new where
  dataPtrs _ member := (not_mem_nil member).elim
  length := Nat.zero_le _
  first _ known := nomatch known
  last _ known := nomatch known
  complete claimed := nomatch claimed

section

variable {front back : List VCMPacket} {packet : VCMPacket}
  (sequence : inSequence (front ++ packet :: back) = true)

include sequence

theorem inSequence_front_eq_nil
    (noneBefore : ¬ ∃ stored ∈ front ++ packet :: back, stored.seqNum = packet.seqNum - 1) :
    front = [] := by
  rcases front.eq_nil_or_concat' with empty | ⟨others, previous, rfl⟩
  · exact empty
  · rw [append_assoc, singleton_append] at sequence
    have next := inSequence_neighbours sequence
    exfalso
    apply noneBefore
    refine ⟨previous, by simp, ?_⟩
    rw [← next, UInt16.add_sub_cancel]

theorem inSequence_back_eq_nil
    (noneBehind : ¬ ∃ stored ∈ front ++ packet :: back, stored.seqNum = packet.seqNum + 1) :
    back = [] := by
  cases back with
  | nil => rfl
  | cons next rest =>
    exfalso
    apply noneBehind
    exact ⟨next, by simp, (inSequence_neighbours sequence).symm⟩

end

theorem Bounded.completeSound {session : VCMSessionInfo} (bounded : Bounded session) :
    CompleteSound session := by
  intro claimed
  rcases bounded.complete claimed with ⟨firstKnown, lastKnown, sequence⟩
  rcases Option.ne_none_iff_exists'.mp firstKnown with ⟨first, firstIs⟩
  rcases Option.ne_none_iff_exists'.mp lastKnown with ⟨last, lastIs⟩
  rcases bounded.first first firstIs with ⟨⟨opening, openingStored, rfl, flagged⟩, noneBefore⟩
  rcases bounded.last last lastIs with ⟨⟨closing, closingStored, rfl, marked⟩, noneBehind⟩
  have short := bounded.length
  rcases append_of_mem openingStored with ⟨front, back, split⟩
  have noFront : front = [] := by
    rw [split] at sequence noneBefore
    exact inSequence_front_eq_nil sequence noneBefore
  rw [noFront, nil_append] at split
  rcases append_of_mem closingStored with ⟨others, behind, splitBack⟩
  have noBack : behind = [] := by
    rw [splitBack] at sequence noneBehind
    exact inSequence_back_eq_nil sequence noneBehind
  rw [noBack] at splitBack
  have final : (opening :: back).getLast? = some closing := by
    rw [← split, splitBack, List.getLast?_concat]
  have ends : closing.seqNum = opening.seqNum + UInt16.ofNat back.length := by
    rw [split] at sequence
    exact inSequence_getLast sequence closing final
  have count : back.length < 65536 := by
    rw [split, length_cons, kMaxPacketsInSession] at short
    omega
  refine ⟨opening.seqNum, closing.seqNum, firstIs, lastIs, ?_, ?_, ?_⟩
  · rw [ends, distance_add_ofNat _ count, split]
    rw [split] at sequence
    exact inSequence_numbers sequence
  · rw [split]
    exact ⟨opening, rfl, flagged⟩
  · rw [split]
    exact ⟨closing, final, marked⟩

/-! ## Insertion -/

/-- The list with a new packet, whose data pointer and size are those of its place. -/
def placed (before : List VCMPacket) (packet : VCMPacket) (after : List VCMPacket) :
    List VCMPacket :=
  before ++
    { packet with dataPtr := some (sessionLength before), sizeBytes := packet.bufferSize } ::
    after.map (shiftPointer packet.bufferSize)

theorem exists_placed_iff {holds : VCMPacket → Prop}
    (placeless : ∀ packet dataPtr sizeBytes,
      holds { packet with dataPtr, sizeBytes } ↔ holds packet)
    (before : List VCMPacket) (packet : VCMPacket) (after : List VCMPacket) :
    (∃ stored ∈ placed before packet after, holds stored) ↔
      holds packet ∨ ∃ stored ∈ before ++ after, holds stored := by
  have shifted (stored : VCMPacket) :
      holds (shiftPointer packet.bufferSize stored) ↔ holds stored :=
    placeless stored _ stored.sizeBytes
  constructor
  · rintro ⟨stored, member, held⟩
    rcases mem_append.mp member with front | rest
    · exact .inr ⟨stored, mem_append_left _ front, held⟩
    rcases mem_cons.mp rest with rfl | back
    · exact .inl ((placeless packet _ _).mp held)
    · rcases List.mem_map.mp back with ⟨original, behind, rfl⟩
      exact .inr ⟨original, mem_append_right _ behind, (shifted original).mp held⟩
  · rintro (held | ⟨stored, member, held⟩)
    · exact ⟨_, mem_append_right _ mem_cons_self, (placeless packet _ _).mpr held⟩
    rcases mem_append.mp member with front | back
    · exact ⟨stored, mem_append_left _ front, held⟩
    · refine ⟨_, mem_append_right _ (mem_cons_of_mem _ ?_), (shifted stored).mpr held⟩
      exact List.mem_map_of_mem back

theorem insertBuffer_placed (frameBuffer : Buffer) (before : List VCMPacket) (packet : VCMPacket)
    (data : Buffer) {after : List VCMPacket}
    (dataPtrs : ∀ stored ∈ after, stored.dataPtr ≠ none) :
    ∃ buffer, insertBuffer frameBuffer before packet data after =
      some (placed before packet after, buffer) := by
  have shifts : ∃ moved, shiftSubsequentPackets after packet.bufferSize frameBuffer =
      some (after.map (shiftPointer packet.bufferSize), moved) := by
    cases after with
    | nil => exact ⟨frameBuffer, rfl⟩
    | cons first rest =>
      rcases Option.ne_none_iff_exists'.mp (dataPtrs first mem_cons_self) with ⟨pointer, known⟩
      rw [shiftSubsequentPackets, known]
      exact ⟨_, rfl⟩
  rcases shifts with ⟨moved, shifted⟩
  rw [insertBuffer, shifted]
  exact ⟨_, rfl⟩

section Noted

variable {session noted : VCMSessionInfo} {packet : VCMPacket}

theorem noteFirst_firstPacketSeqNum (notedFirst : session.noteFirst packet = some noted) :
    noted.firstPacketSeqNum = some packet.seqNum ∧ packet.isFirstPacket = true ∧
        session.firstPacketSeqNum = none ∨
      noted.firstPacketSeqNum = session.firstPacketSeqNum ∧
        ∀ first ∈ session.firstPacketSeqNum, isNewerSequenceNumber packet.seqNum first = true := by
  rw [noteFirst] at notedFirst
  split at notedFirst
  case isTrue flagged =>
    rw [Bool.and_eq_true, isNone_iff_eq_none] at flagged
    cases notedFirst
    exact .inl ⟨rfl, flagged⟩
  split at notedFirst
  · cases notedFirst
  rename_i inside
  have newer : ∀ first ∈ session.firstPacketSeqNum,
      isNewerSequenceNumber packet.seqNum first = true := by
    intro first known
    rw [mem_def] at known
    rw [known] at inside
    simpa using inside
  split at notedFirst
  · cases notedFirst
    exact .inr ⟨rfl, newer⟩
  · cases notedFirst
    exact .inr ⟨rfl, newer⟩

theorem noteLast_lastPacketSeqNum (notedLast : session.noteLast packet = some noted) :
    noted = { session with lastPacketSeqNum := noted.lastPacketSeqNum } ∧
      (noted.lastPacketSeqNum = some packet.seqNum ∧ packet.markerBit = true ∧
          session.lastPacketSeqNum = none ∨
        noted.lastPacketSeqNum = session.lastPacketSeqNum ∧ ∀ last ∈ session.lastPacketSeqNum,
            isNewerSequenceNumber packet.seqNum last = false) := by
  rw [noteLast] at notedLast
  split at notedLast
  case isTrue marked =>
    rw [Bool.and_eq_true, isNone_iff_eq_none] at marked
    cases notedLast
    exact ⟨rfl, .inl ⟨rfl, marked⟩⟩
  split at notedLast
  · cases notedLast
  rename_i inside
  cases notedLast
  refine ⟨rfl, .inr ⟨rfl, fun last known => ?_⟩⟩
  rw [mem_def] at known
  rw [known] at inside
  simpa using inside

theorem isNewerSequenceNumber_sub_one (first : UInt16) :
    isNewerSequenceNumber (first - 1) first = false := by
  have difference : first - 1 - first = 65535 := by
    rw [UInt16.sub_eq_add_neg, UInt16.sub_eq_add_neg, UInt16.add_assoc, UInt16.add_comm,
      UInt16.add_assoc, UInt16.add_left_neg]
    rfl
  rw [isNewerSequenceNumber, difference, Bool.and_eq_false_iff]
  exact .inr (by decide)

theorem isNewerSequenceNumber_add_one (last : UInt16) :
    isNewerSequenceNumber (last + 1) last = true := by
  have difference : last + 1 - last = 1 := by
    rw [UInt16.add_comm, UInt16.add_sub_cancel]
  have different : last + 1 ≠ last := by
    intro same
    rw [same, UInt16.sub_self] at difference
    exact absurd difference (by decide)
  rw [isNewerSequenceNumber, difference, decide_eq_true different]
  rfl

end Noted

section Update

variable (decodeErrorMode : VCMDecodeErrorMode) (frameData : FrameData) (session : VCMSessionInfo)

theorem updateCompleteSession_eq :
    session.updateCompleteSession = { session with
      complete := if session.haveFirstPacket && session.haveLastPacket then
        inSequence session.packets else session.complete } := by
  rw [updateCompleteSession]
  split <;> rfl

theorem updateDecodableSession_eq :
    session.updateDecodableSession frameData =
      { session with decodable := (session.updateDecodableSession frameData).decodable } := by
  rw [updateDecodableSession]
  split
  · rfl
  split <;> rfl

theorem updateState_eq :
    session.updateState decodeErrorMode frameData = { session with
      complete := if session.haveFirstPacket && session.haveLastPacket then
        inSequence session.packets else session.complete
      decodable := (session.updateState decodeErrorMode frameData).decodable } := by
  cases decodeErrorMode with
  | kNoErrors =>
    rw [updateState, updateCompleteSession_eq]
  | kSelectiveErrors =>
    rw [updateState, updateDecodableSession_eq, updateCompleteSession_eq]
  | kWithErrors =>
    rw [updateState, updateCompleteSession_eq]

end Update

/-! ## Runs -/

/-- A packet that is noted as an end of the frame has no stored packet right outside of it, and
is not refused afterwards. -/
def EndsFit (assembly : Assembly) (insertion : Insertion) : Prop :=
  Checked assembly.session insertion.packet →
    (assembly.session.noteFirst insertion.packet).isSome = true →
    (insertion.packet.isFirstPacket = true → assembly.session.firstPacketSeqNum = none →
      ¬ BehindLast assembly.session insertion.packet ∧
        ¬ ∃ stored ∈ assembly.session.packets, stored.seqNum = insertion.packet.seqNum - 1) ∧
    (insertion.packet.markerBit = true → assembly.session.lastPacketSeqNum = none →
      ¬ ∃ stored ∈ assembly.session.packets, stored.seqNum = insertion.packet.seqNum + 1)

theorem Bounded.of_eq {session next : VCMSessionInfo} (bounded : Bounded session)
    (packets : next.packets = session.packets)
    (first : next.firstPacketSeqNum = session.firstPacketSeqNum)
    (last : next.lastPacketSeqNum = session.lastPacketSeqNum)
    (complete : next.complete = session.complete) : Bounded next := by
  constructor
  · rw [packets]
    exact bounded.dataPtrs
  · rw [packets]
    exact bounded.length
  · rw [first, packets]
    exact bounded.first
  · rw [last, packets]
    exact bounded.last
  · rw [complete, first, last, packets]
    exact bounded.complete

section Step

variable {session noted : VCMSessionInfo} {packet : VCMPacket}

theorem exists_flagged_placed_iff {flag : VCMPacket → Prop}
    (placeless : ∀ packet dataPtr sizeBytes,
      flag { packet with dataPtr, sizeBytes } ↔ flag packet) (number : UInt16) :
    (∃ stored ∈ placed (packetsBefore packet.seqNum session.packets) packet
        (packetsAfter packet.seqNum session.packets), stored.seqNum = number ∧ flag stored) ↔
      (packet.seqNum = number ∧ flag packet) ∨
        ∃ stored ∈ session.packets, stored.seqNum = number ∧ flag stored := by
  have split : packetsBefore packet.seqNum session.packets ++
      packetsAfter packet.seqNum session.packets = session.packets :=
    rdropWhile_append_rtakeWhile
  have flagged := @exists_placed_iff (fun stored => stored.seqNum = number ∧ flag stored)
    (fun packet dataPtr sizeBytes => and_congr_right fun _ => placeless packet dataPtr sizeBytes)
    (packetsBefore packet.seqNum session.packets) packet
    (packetsAfter packet.seqNum session.packets)
  rw [split] at flagged
  exact flagged

theorem exists_seqNum_placed_iff (number : UInt16) :
    (∃ stored ∈ placed (packetsBefore packet.seqNum session.packets) packet
        (packetsAfter packet.seqNum session.packets), stored.seqNum = number) ↔
      packet.seqNum = number ∨ ∃ stored ∈ session.packets, stored.seqNum = number := by
  have numbered := @exists_flagged_placed_iff session packet (fun _ => True)
    (fun _ _ _ => Iff.rfl) number
  simpa only [and_true] using numbered

/-- An inserted packet that may be noted keeps the ends of the frame. -/
theorem Bounded.insert (bounded : Bounded session)
    (room : session.packets.length ≠ kMaxPacketsInSession)
    (first : noted.firstPacketSeqNum = some packet.seqNum ∧ packet.isFirstPacket = true ∧
        (¬ ∃ stored ∈ session.packets, stored.seqNum = packet.seqNum - 1) ∨
      noted.firstPacketSeqNum = session.firstPacketSeqNum ∧
        ∀ first ∈ session.firstPacketSeqNum, isNewerSequenceNumber packet.seqNum first = true)
    (last : noted.lastPacketSeqNum = some packet.seqNum ∧ packet.markerBit = true ∧
        (¬ ∃ stored ∈ session.packets, stored.seqNum = packet.seqNum + 1) ∨
      noted.lastPacketSeqNum = session.lastPacketSeqNum ∧
        ∀ last ∈ session.lastPacketSeqNum, isNewerSequenceNumber packet.seqNum last = false)
    (packets : noted.packets = placed (packetsBefore packet.seqNum session.packets) packet
      (packetsAfter packet.seqNum session.packets))
    (complete : noted.complete =
      if noted.haveFirstPacket && noted.haveLastPacket then inSequence noted.packets
      else session.complete) :
    Bounded noted := by
  have split : packetsBefore packet.seqNum session.packets ++
      packetsAfter packet.seqNum session.packets = session.packets :=
    rdropWhile_append_rtakeWhile
  constructor
  case dataPtrs =>
    intro stored member
    rw [packets] at member
    rcases mem_append.mp member with front | rest
    · apply bounded.dataPtrs
      rw [← split]
      exact mem_append_left _ front
    rcases mem_cons.mp rest with rfl | back
    · exact some_ne_none _
    · rcases List.mem_map.mp back with ⟨original, behind, rfl⟩
      have known := bounded.dataPtrs original
        (by rw [← split]; exact mem_append_right _ behind)
      rcases Option.ne_none_iff_exists'.mp known with ⟨pointer, is⟩
      rw [shiftPointer, is]
      exact some_ne_none _
  case length =>
    have small := bounded.length
    have count : noted.packets.length = session.packets.length + 1 := by
      rw [packets, placed, length_append, length_cons, length_map, ← split, length_append, split]
      rfl
    omega
  case first =>
    intro number known
    rw [packets, exists_flagged_placed_iff fun _ _ _ => Iff.rfl, exists_seqNum_placed_iff]
    rcases first with ⟨recorded, flagged, noneBefore⟩ | ⟨kept, newer⟩
    · rw [mem_def, recorded, Option.some.injEq] at known
      cases known
      refine ⟨.inl ⟨rfl, flagged⟩, not_or.mpr ⟨?_, noneBefore⟩⟩
      intro same
      exact absurd (sub_eq_self.mp same.symm) (by decide)
    · rw [kept] at known
      rcases bounded.first number known with ⟨stored, noneBefore⟩
      refine ⟨.inr stored, not_or.mpr ⟨?_, noneBefore⟩⟩
      intro same
      have later := newer number known
      rw [same, isNewerSequenceNumber_sub_one] at later
      cases later
  case last =>
    intro number known
    rw [packets, exists_flagged_placed_iff fun _ _ _ => Iff.rfl, exists_seqNum_placed_iff]
    rcases last with ⟨recorded, marked, noneBehind⟩ | ⟨kept, older⟩
    · rw [mem_def, recorded, Option.some.injEq] at known
      cases known
      refine ⟨.inl ⟨rfl, marked⟩, not_or.mpr ⟨?_, noneBehind⟩⟩
      intro same
      exact absurd (left_eq_add.mp same) (by decide)
    · rw [kept] at known
      rcases bounded.last number known with ⟨stored, noneBehind⟩
      refine ⟨.inr stored, not_or.mpr ⟨?_, noneBehind⟩⟩
      intro same
      have earlier := older number known
      rw [same, isNewerSequenceNumber_add_one] at earlier
      cases earlier
  case complete =>
    intro claimed
    have stored : noted.packets.isEmpty = false := by
      rw [packets, placed]
      simp
    have firstKept : session.firstPacketSeqNum ≠ none → noted.firstPacketSeqNum ≠ none := by
      rcases first with ⟨recorded, -⟩ | ⟨kept, -⟩
      · rw [recorded]
        exact fun _ => some_ne_none _
      · rw [kept]
        exact id
    have lastKept : session.lastPacketSeqNum ≠ none → noted.lastPacketSeqNum ≠ none := by
      rcases last with ⟨recorded, -⟩ | ⟨kept, -⟩
      · rw [recorded]
        exact fun _ => some_ne_none _
      · rw [kept]
        exact id
    have ends : (noted.haveFirstPacket && noted.haveLastPacket) = true ↔
        noted.firstPacketSeqNum ≠ none ∧ noted.lastPacketSeqNum ≠ none := by
      rw [haveFirstPacket, haveLastPacket, stored]
      simp [isSome_iff_ne_none]
    rw [complete] at claimed
    split at claimed
    · rename_i both
      rcases ends.mp both with ⟨firstKnown, lastKnown⟩
      exact ⟨firstKnown, lastKnown, claimed⟩
    · rename_i missing
      rcases bounded.complete claimed with ⟨firstKnown, lastKnown, -⟩
      exact absurd (ends.mpr ⟨firstKept firstKnown, lastKept lastKnown⟩) missing

theorem insertPacket_noted (data : Buffer) (decodeErrorMode : VCMDecodeErrorMode)
    (frameData : FrameData) (frameBuffer : Buffer) (checked : Checked session packet)
    {middle : VCMSessionInfo} (notedFirst : session.noteFirst packet = some middle)
    (notedLast : middle.noteLast packet = some noted)
    (dataPtrs : ∀ stored ∈ session.packets, stored.dataPtr ≠ none) :
    ∃ buffer, insertPacket packet data decodeErrorMode frameData session frameBuffer =
      some ((packet.bufferSize : Int), updateState decodeErrorMode frameData { noted with
        packets := placed (packetsBefore packet.seqNum session.packets) packet
          (packetsAfter packet.seqNum session.packets) }, buffer) := by
  rcases checked with ⟨media, room, unknown⟩
  have same : noted.packets = session.packets :=
    (noteLast_packets noted notedLast).trans (noteFirst_packets middle notedFirst)
  have behindPtrs : ∀ stored ∈ packetsAfter packet.seqNum session.packets,
      stored.dataPtr ≠ none := by
    intro stored member
    exact dataPtrs stored ((rtakeWhile_suffix _ _).subset member)
  rcases insertBuffer_placed frameBuffer (packetsBefore packet.seqNum session.packets) packet data
    behindPtrs with ⟨buffer, stored⟩
  refine ⟨buffer, ?_⟩
  rw [insertPacket, if_neg media, if_neg room, unknown, notedFirst]
  simp only [Bool.false_eq_true, if_false, notedLast, same, stored]
  rfl

end Step

variable {assembly : Assembly} {insertion : Insertion}

theorem step_bounded (bounded : Bounded assembly.session) (fits : EndsFit assembly insertion) :
    ∃ next, Assembly.step assembly insertion = some next ∧ Bounded next.session := by
  rcases assembly with ⟨session, frameBuffer, accepted⟩
  rcases insertion with ⟨packet, data, decodeErrorMode, frameData⟩
  suffices inserted : ∃ returned next buffer,
      insertPacket packet data decodeErrorMode frameData session frameBuffer =
        some (returned, next, buffer) ∧ Bounded next by
    rcases inserted with ⟨returned, next, buffer, inserted, kept⟩
    exact ⟨_, Assembly.step_inserted inserted, kept⟩
  by_cases checked : Checked session packet
  case neg =>
    rw [insertPacket]
    split
    · exact ⟨0, _, frameBuffer, rfl, bounded.of_eq rfl rfl rfl rfl⟩
    rename_i media
    split
    · exact ⟨-1, session, frameBuffer, rfl, bounded⟩
    rename_i room
    split
    · exact ⟨-2, session, frameBuffer, rfl, bounded⟩
    rename_i unknown
    exact absurd ⟨media, room, Bool.eq_false_iff.mpr unknown⟩ checked
  cases notedFirst : session.noteFirst packet with
  | none =>
    refine ⟨-3, session, frameBuffer, ?_, bounded⟩
    rw [insertPacket, if_neg checked.1, if_neg checked.2.1, checked.2.2, notedFirst]
    rfl
  | some middle =>
    have onlyFirst := noteFirst_eq notedFirst
    have firstCases := noteFirst_firstPacketSeqNum notedFirst
    have passes : (session.noteFirst packet).isSome = true := by
      rw [notedFirst]
      rfl
    have fit := fits checked passes
    cases notedLast : middle.noteLast packet with
    | none =>
      have behind : BehindLast session packet := by
        rw [noteLast_eq_none_iff, onlyFirst] at notedLast
        exact notedLast
      refine ⟨-3, middle, frameBuffer, insertPacket_checked packet data decodeErrorMode
        frameData session frameBuffer checked notedFirst behind, ?_⟩
      rcases firstCases with ⟨-, flagged, unknown⟩ | ⟨kept, -⟩
      · exact absurd behind (fit.1 flagged unknown).1
      · rw [onlyFirst, kept]
        exact bounded.of_eq rfl rfl rfl rfl
    | some noted =>
      rcases insertPacket_noted data decodeErrorMode frameData frameBuffer checked notedFirst
        notedLast bounded.dataPtrs with ⟨buffer, inserted⟩
      refine ⟨_, _, buffer, inserted, ?_⟩
      rcases noteLast_lastPacketSeqNum notedLast with ⟨onlyLast, lastCases⟩
      have firstKept : noted.firstPacketSeqNum = middle.firstPacketSeqNum := by rw [onlyLast]
      have lastKept : middle.lastPacketSeqNum = session.lastPacketSeqNum := by rw [onlyFirst]
      have completeKept : noted.complete = session.complete := by rw [onlyLast, onlyFirst]
      rw [lastKept] at lastCases
      rw [updateState_eq]
      apply @Bounded.insert session _ packet bounded checked.2.1
      · change noted.firstPacketSeqNum = _ ∧ _ ∨ noted.firstPacketSeqNum = _ ∧ _
        rw [firstKept]
        exact firstCases.imp_left fun first =>
          ⟨first.1, first.2.1, (fit.1 first.2.1 first.2.2).2⟩
      · exact lastCases.imp_left fun last => ⟨last.1, last.2.1, fit.2 last.2.1 last.2.2⟩
      · rfl
      · rw [← completeKept]
        rfl

/-- In every run in which the ends of the frame fit the stored packets when they are noted, a
session that says that it is complete holds the packets from the first to the last one. -/
theorem completeSound_of_endsFit {insertions : List Insertion} (frameBuffer : Buffer)
    (fits : Run.Permitted Assembly.step EndsFit (Assembly.new frameBuffer) insertions)
    (count : Nat) :
    ∃ last, Run.reached Assembly.step (Assembly.new frameBuffer) (insertions.take count) =
        some last ∧ CompleteSound last.session := by
  have initial : Bounded (Assembly.new frameBuffer).session := new_bounded
  rcases Run.invariant_reached Assembly.step (fun _ _ => step_bounded) initial
    (Run.permitted_take Assembly.step fits count) with ⟨last, run, bounded⟩
  exact ⟨last, run, bounded.completeSound⟩

instance : Decidable (Checked assembly.session insertion.packet) :=
  inferInstanceAs (Decidable (_ ∧ _))

instance : Decidable (BehindLast assembly.session insertion.packet) :=
  inferInstanceAs (Decidable (∃ last ∈ assembly.session.lastPacketSeqNum, _))

instance : Decidable (EndsFit assembly insertion) := inferInstanceAs (Decidable (_ → _ → _ ∧ _))

def insertionFor (packet : VCMPacket) : Insertion where
  packet := packet
  data := Buffer.zeros
  decodeErrorMode := .kNoErrors
  frameData := quietFrame

/-- The packet in the middle comes last. -/
def wrappingInsertions : List Insertion :=
  [insertionFor (flaggedPacket 65535 true false), insertionFor (flaggedPacket 1 false true),
    insertionFor (flaggedPacket 0 false false)]

theorem completeSound_wrappingInsertions :
    ∃ last, Run.reached Assembly.step (Assembly.new Buffer.zeros) (wrappingInsertions.take 3) =
        some last ∧ CompleteSound last.session :=
  completeSound_of_endsFit Buffer.zeros (by decide +kernel) 3

/-- A packet of the frame before arrives in front of the first one. -/
def earlyInsertions : List Insertion :=
  [insertionFor (flaggedPacket 3 false false), insertionFor (flaggedPacket 4 true false),
    insertionFor (flaggedPacket 5 false true)]

/-- It is stored, and the frame is complete with it. -/
theorem not_completeSound_earlyInsertions :
    ¬ ∀ (frameBuffer : Buffer) (insertions : List Insertion) (last : Assembly),
        Run.reached Assembly.step (Assembly.new frameBuffer) insertions = some last →
          CompleteSound last.session := by
  intro every
  have observed : (Run.reached Assembly.step (Assembly.new Buffer.zeros) earlyInsertions).map
      (fun last => (last.session.complete, last.session.firstPacketSeqNum,
        last.session.lastPacketSeqNum, last.session.packets.map VCMPacket.seqNum)) =
      some (true, some 4, some 5, [3, 4, 5]) := by decide +kernel
  rcases Option.map_eq_some_iff.mp observed with ⟨last, run, state⟩
  simp only [Prod.mk.injEq] at state
  rcases state with ⟨complete, firstIs, lastIs, numbers⟩
  rcases every Buffer.zeros earlyInsertions last run complete with ⟨first, final, whole⟩
  rw [whole.firstPacketSeqNum, Option.some.injEq] at firstIs
  rw [whole.lastPacketSeqNum, Option.some.injEq] at lastIs
  rw [whole.numbers, firstIs, lastIs] at numbers
  exact absurd numbers (by decide)

end ZyWebRtc.Video.VCMSessionInfo
