import ZyWebRtc.Video.Decodable

namespace ZyWebRtc.Video.VCMSessionInfo

/-! NAL units that are completely received, and when `MakeDecodable` deletes the packets of all
others. -/

open List

/-- The packets of a NAL unit, none of which is lost. -/
def IsNalu (unit : List VCMPacket) : Prop :=
  inSequence unit = true ∧ (unit.map VCMPacket.completeNALU = [.kNaluComplete] ∨
      ∃ fragments, unit.map VCMPacket.completeNALU =
        .kNaluStart :: List.replicate fragments .kNaluIncomplete ++ [.kNaluEnd])

/-- The packet between `front` and `back` belongs to a NAL unit that is completely received. -/
def Received (front : List VCMPacket) (packet : VCMPacket) (back : List VCMPacket) : Prop :=
  ∃ before opening closing after, front = before ++ opening ∧ back = closing ++ after ∧
    IsNalu (opening ++ packet :: closing)

/-- Exactly the packets of NAL units that are not completely received are deleted; the bytes of
the others lie one behind the other where their data pointers point. -/
structure RemovesUnreceived (packets : List VCMPacket) (frameBuffer : Buffer) (returned : Nat)
    (next : List VCMPacket) (nextBuffer : Buffer) : Prop where
  length : next.length = packets.length
  deleted : ∀ front packet back, packets = front ++ packet :: back →
    ¬ Received front packet back → next[front.length]? = some (cleared packet)
  kept : ∀ front packet back, packets = front ++ packet :: back → Received front packet back →
    ∃ stored, next[front.length]? = some stored ∧
      stored = { packet with dataPtr := some (sessionLength (next.take front.length)) } ∧
      bytesOf nextBuffer stored = bytesOf frameBuffer packet
  returned : returned + sessionLength next = sessionLength packets

/-! ## The packets behind a deletion -/

section Deletion

variable {front back : List VCMPacket} {packet : VCMPacket}

theorem deletionMarks_append (nearest : List VCMPacket) :
    deletionMarks nearest (front ++ back) =
      deletionMarks nearest front ++ deletionMarks (front.reverse ++ nearest) back := by
  induction front generalizing nearest with
  | nil => rfl
  | cons head tail induction =>
    rw [cons_append, deletionMarks, induction, deletionMarks, reverse_cons, append_assoc]
    rfl

theorem afterDeletion_split {frontMarks : List Bool} (backMarks : List Bool) (offset : Nat)
    (lengths : frontMarks.length = front.length) :
    afterDeletion offset (front ++ back) (frontMarks ++ backMarks) =
      afterDeletion offset front frontMarks ++
        afterDeletion (offset + sessionLength (afterDeletion offset front frontMarks)) back
          backMarks := by
  induction front generalizing offset frontMarks with
  | nil =>
    cases eq_nil_of_length_eq_zero lengths
    rfl
  | cons head tail induction =>
    cases frontMarks with
    | nil => cases lengths
    | cons mark marks =>
      have shorter := Nat.succ.inj lengths
      rw [cons_append, cons_append, afterDeletion, afterDeletion, induction _ shorter,
        induction _ shorter]
      cases mark with
      | true =>
        rw [if_pos rfl, if_pos rfl, cons_append, sessionLength_cons]
        change _ = _ :: (_ ++ afterDeletion (offset + (0 + _)) _ _)
        rw [Nat.zero_add]
      | false =>
        rw [if_neg Bool.false_ne_true, if_neg Bool.false_ne_true, cons_append,
          sessionLength_cons, Nat.add_assoc]

theorem afterDeletion_length {marks : List Bool} (offset : Nat)
    (lengths : marks.length = front.length) :
    (afterDeletion offset front marks).length = front.length := by
  induction front generalizing offset marks with
  | nil =>
    cases eq_nil_of_length_eq_zero lengths
    rfl
  | cons head tail induction =>
    cases marks with
    | nil => cases lengths
    | cons mark marks =>
      rw [afterDeletion]
      cases mark with
      | true => exact congrArg (· + 1) (induction _ (Nat.succ.inj lengths))
      | false => exact congrArg (· + 1) (induction _ (Nat.succ.inj lengths))

theorem deletedLength_add {marks : List Bool} (offset : Nat)
    (lengths : marks.length = front.length) :
    deletedLength front marks + sessionLength (afterDeletion offset front marks) =
      sessionLength front := by
  induction front generalizing offset marks with
  | nil =>
    cases eq_nil_of_length_eq_zero lengths
    rfl
  | cons head tail induction =>
    cases marks with
    | nil => cases lengths
    | cons mark marks =>
      have shorter := Nat.succ.inj lengths
      rw [deletedLength, afterDeletion, sessionLength_cons]
      cases mark with
      | true =>
        rw [if_pos rfl, if_pos rfl, sessionLength_cons, ← induction offset shorter]
        change _ + (0 + _) = _
        omega
      | false =>
        rw [if_neg Bool.false_ne_true, if_neg Bool.false_ne_true, sessionLength_cons,
          ← induction (offset + head.sizeBytes) shorter]
        change 0 + _ + (head.sizeBytes + _) = _
        omega

theorem remainingBytes_split (frameBuffer : Buffer) {frontMarks : List Bool}
    (backMarks : List Bool) (lengths : frontMarks.length = front.length) :
    remainingBytes frameBuffer (front ++ back) (frontMarks ++ backMarks) =
      remainingBytes frameBuffer front frontMarks ++ remainingBytes frameBuffer back backMarks := by
  induction front generalizing frontMarks with
  | nil =>
    cases eq_nil_of_length_eq_zero lengths
    rfl
  | cons head tail induction =>
    cases frontMarks with
    | nil => cases lengths
    | cons mark marks =>
      rw [cons_append, cons_append, remainingBytes, remainingBytes,
        induction (Nat.succ.inj lengths), append_assoc]

theorem bytesOf_length {frameBuffer : Buffer} (pointer : packet.dataPtr ≠ none) :
    (bytesOf frameBuffer packet).length = packet.sizeBytes := by
  rcases Option.ne_none_iff_exists'.mp pointer with ⟨offset, is⟩
  rw [bytesOf, is, Buffer.slice_length]

theorem remainingBytes_length (frameBuffer : Buffer) {marks : List Bool} {offset : Nat}
    (place : Nat) (laid : Laid place front) :
    (remainingBytes frameBuffer front marks).length =
      sessionLength (afterDeletion offset front marks) := by
  induction front generalizing offset place marks with
  | nil => rfl
  | cons head tail induction =>
    cases marks with
    | nil => rfl
    | cons mark marks =>
      have pointer : head.dataPtr ≠ none := laid.dataPtr_ne_none head mem_cons_self
      rw [remainingBytes, afterDeletion, length_append]
      cases mark with
      | true =>
        rw [if_pos rfl, if_pos rfl, sessionLength_cons]
        exact congrArg (0 + ·) (induction _ laid.2)
      | false =>
        rw [if_neg Bool.false_ne_true, if_neg Bool.false_ne_true, sessionLength_cons,
          bytesOf_length pointer]
        exact congrArg (head.sizeBytes + ·) (induction _ laid.2)

/-- What has become of a packet, by the decision of the walk. -/
theorem makeDecodable_packet {packets next : List VCMPacket} {frameBuffer nextBuffer : Buffer}
    (laid : Laid 0 packets)
    (nextIs : next = afterDeletion 0 packets (deletionMarks [] packets))
    (bytes : nextBuffer.slice 0
        (remainingBytes frameBuffer packets (deletionMarks [] packets)).length =
      remainingBytes frameBuffer packets (deletionMarks [] packets))
    (split : packets = front ++ packet :: back) :
    (deletes front.reverse packet = true → next[front.length]? = some (cleared packet)) ∧
      (deletes front.reverse packet = false → ∃ stored, next[front.length]? = some stored ∧
          stored = { packet with dataPtr := some (sessionLength (next.take front.length)) } ∧
          bytesOf nextBuffer stored = bytesOf frameBuffer packet) := by
  have marks : deletionMarks [] packets = deletionMarks [] front ++
      deletes front.reverse packet :: deletionMarks (packet :: front.reverse) back := by
    rw [split, deletionMarks_append, append_nil, deletionMarks]
  have lengths : (deletionMarks [] front).length = front.length := deletionMarks_length
  have placeLength := @afterDeletion_length front (deletionMarks [] front) 0 lengths
  rw [marks, split, afterDeletion_split _ _ lengths, Nat.zero_add] at nextIs
  generalize frontIs : afterDeletion 0 front (deletionMarks [] front) = placed
    at nextIs placeLength
  rw [← placeLength]
  constructor
  · intro deleted
    rw [nextIs, deleted, afterDeletion, if_pos rfl]
    simp
  · intro kept
    rw [kept, afterDeletion, if_neg Bool.false_ne_true] at nextIs
    rw [split] at laid
    rcases laid_append.mp laid with ⟨frontLaid, packetLaid⟩
    have pointer : packet.dataPtr ≠ none := packetLaid.dataPtr_ne_none packet mem_cons_self
    have placeIs := @remainingBytes_length front frameBuffer (deletionMarks [] front) 0 0 frontLaid
    rw [frontIs] at placeIs
    refine ⟨{ packet with dataPtr := some (sessionLength placed) }, ?_, ?_, ?_⟩
    · rw [nextIs]
      simp
    · rw [nextIs, take_left]
    · rw [marks, split, remainingBytes_split _ _ lengths, kept, remainingBytes,
        if_neg Bool.false_ne_true, length_append, length_append, Buffer.slice_append,
        Buffer.slice_append, Nat.zero_add] at bytes
      have behind := (append_inj bytes (by simp)).2
      have here := (append_inj behind (by simp)).1
      rw [bytesOf_length pointer, placeIs] at here
      exact here

end Deletion

theorem makeDecodable_removes_iff {packets : List VCMPacket} (laid : Laid 0 packets)
    (frameBuffer : Buffer) :
    (∃ returned next nextBuffer,
        makeDecodable packets frameBuffer = some (returned, next, nextBuffer) ∧
          RemovesUnreceived packets frameBuffer returned next nextBuffer) ↔
      ∀ front packet back, packets = front ++ packet :: back →
        (deletes front.reverse packet = true ↔ ¬ Received front packet back) := by
  rcases makeDecodable_eq laid frameBuffer with ⟨buffer, made, bytes⟩
  have lengths : (deletionMarks [] packets).length = packets.length := deletionMarks_length
  constructor
  · rintro ⟨returned, next, nextBuffer, result, removes⟩ front packet back split
    rw [made] at result
    cases result
    rcases makeDecodable_packet laid rfl bytes split with ⟨deleted, kept⟩
    constructor
    · intro walk received
      rcases removes.kept front packet back split received with ⟨stored, place, is, -⟩
      rw [deleted walk, is] at place
      exact absurd (congrArg VCMPacket.dataPtr (Option.some.inj place)) (by simp [cleared])
    · intro unreceived
      cases walk : deletes front.reverse packet with
      | true => rfl
      | false =>
        rcases kept walk with ⟨stored, place, is, -⟩
        rw [removes.deleted front packet back split unreceived, is] at place
        exact absurd (congrArg VCMPacket.dataPtr (Option.some.inj place)) (by simp [cleared])
  · intro decides
    refine ⟨_, _, _, made, afterDeletion_length 0 lengths, ?_, ?_, deletedLength_add 0 lengths⟩
    · intro front packet back split unreceived
      exact (makeDecodable_packet laid rfl bytes split).1
        ((decides front packet back split).mpr unreceived)
    · intro front packet back split received
      apply (makeDecodable_packet laid rfl bytes split).2
      cases walk : deletes front.reverse packet with
      | false => rfl
      | true => exact absurd received ((decides front packet back split).mp walk)

/-! ## Completely received NAL units -/

section Units

variable {front back : List VCMPacket} {packet prev next : VCMPacket}

theorem received_of_complete (complete : packet.completeNALU = .kNaluComplete) :
    Received front packet back := by
  refine ⟨front, [], [], back, (append_nil front).symm, rfl, rfl, .inl ?_⟩
  rw [nil_append, map_singleton, complete]

theorem IsNalu.neighbours (unit : IsNalu (front ++ packet :: next :: back)) :
    packet.seqNum + 1 = next.seqNum ∧
      (packet.completeNALU = .kNaluStart ∨ packet.completeNALU = .kNaluIncomplete) ∧
      (next.completeNALU = .kNaluIncomplete ∨ next.completeNALU = .kNaluEnd) := by
  rcases unit with ⟨sequence, flags⟩
  refine ⟨inSequence_neighbours sequence, ?_⟩
  rw [map_append, map_cons, map_cons] at flags
  rcases flags with single | ⟨fragments, flags⟩
  · have length := congrArg List.length single
    rw [length_append, length_cons, length_cons, length_singleton] at length
    omega
  constructor
  · have member : packet.completeNALU ∈
        (VCMNaluCompleteness.kNaluStart ::
          List.replicate fragments VCMNaluCompleteness.kNaluIncomplete) := by
      have dropped := congrArg List.dropLast flags
      rw [dropLast_concat] at dropped
      rw [← dropped, dropLast_append_cons, dropLast_cons_of_ne_nil (cons_ne_nil _ _)]
      exact mem_append_right _ mem_cons_self
    rcases mem_cons.mp member with start | fragment
    · exact .inl start
    · exact .inr (eq_of_mem_replicate fragment)
  · have member : next.completeNALU ∈
        List.replicate fragments VCMNaluCompleteness.kNaluIncomplete ++ [.kNaluEnd] := by
      have tail := congrArg List.tail flags
      rw [cons_append, tail_cons] at tail
      rw [← tail]
      cases front with
      | nil => exact mem_cons_self
      | cons head rest => simp
    rcases mem_append.mp member with fragment | ends
    · exact .inl (eq_of_mem_replicate fragment)
    · exact .inr (mem_singleton.mp ends)

theorem IsNalu.head (unit : IsNalu (packet :: back)) :
    packet.completeNALU = .kNaluStart ∨ packet.completeNALU = .kNaluComplete := by
  rcases unit.2 with single | ⟨fragments, flags⟩
  · rw [map_cons, List.cons.injEq] at single
    exact .inr single.1
  · rw [map_cons, cons_append, List.cons.injEq] at flags
    exact .inl flags.1

theorem IsNalu.last (unit : IsNalu (front ++ [packet])) :
    packet.completeNALU = .kNaluEnd ∨ packet.completeNALU = .kNaluComplete := by
  rcases unit.2 with single | ⟨fragments, flags⟩
  · have final := congrArg List.getLast? single
    rw [map_append, map_singleton, List.getLast?_concat] at final
    exact .inr (Option.some.inj final)
  · have final := congrArg List.getLast? flags
    rw [map_append, map_singleton, List.getLast?_concat, List.getLast?_concat] at final
    exact .inl (Option.some.inj final)

variable (received : Received front packet back)

include received

theorem Received.behind
    (unfinished : packet.completeNALU = .kNaluStart ∨ packet.completeNALU = .kNaluIncomplete) :
    ∃ next rest, back = next :: rest ∧ packet.seqNum + 1 = next.seqNum ∧
      (next.completeNALU = .kNaluIncomplete ∨ next.completeNALU = .kNaluEnd) ∧
      Received (front ++ [packet]) next rest := by
  rcases received with ⟨before, opening, closing, after, rfl, rfl, unit⟩
  cases closing with
  | nil =>
    rcases unit.last with ends | complete
    · rw [ends] at unfinished
      rcases unfinished with is | is <;> cases is
    · rw [complete] at unfinished
      rcases unfinished with is | is <;> cases is
  | cons next closing =>
    rcases unit.neighbours with ⟨sequence, -, flag⟩
    refine ⟨next, closing ++ after, rfl, sequence, flag, before, opening ++ [packet], closing,
      after, append_assoc _ _ _, rfl, ?_⟩
    rw [append_assoc]
    exact unit

theorem Received.before
    (fragment : packet.completeNALU = .kNaluIncomplete ∨ packet.completeNALU = .kNaluEnd) :
    ∃ others prev, front = others ++ [prev] ∧ prev.seqNum + 1 = packet.seqNum ∧
      (prev.completeNALU = .kNaluStart ∨ prev.completeNALU = .kNaluIncomplete) ∧
      Received others prev (packet :: back) := by
  rcases received with ⟨before, opening, closing, after, rfl, rfl, unit⟩
  rcases eq_nil_or_concat' opening with rfl | ⟨others, prev, rfl⟩
  · rcases unit.head with start | complete
    · rw [start] at fragment
      rcases fragment with is | is <;> cases is
    · rw [complete] at fragment
      rcases fragment with is | is <;> cases is
  · rw [append_assoc, singleton_append] at unit
    rcases unit.neighbours with ⟨sequence, flag, -⟩
    exact ⟨before ++ others, prev, (append_assoc _ _ _).symm, sequence, flag, before, others,
      packet :: closing, after, rfl, rfl, unit⟩

theorem Received.flag_ne_unset : packet.completeNALU ≠ .kNaluUnset := by
  intro unset
  rcases received with ⟨before, opening, closing, after, rfl, rfl, unit⟩
  rcases eq_nil_or_concat' opening with rfl | ⟨others, prev, rfl⟩
  · rcases unit.head with is | is
    · rw [unset] at is
      cases is
    · rw [unset] at is
      cases is
  · rw [append_assoc, singleton_append] at unit
    rcases unit.neighbours.2.2 with is | is
    · rw [unset] at is
      cases is
    · rw [unset] at is
      cases is

theorem Received.of_start (start : packet.completeNALU = .kNaluStart) :
    ∃ closing after, back = closing ++ after ∧ IsNalu (packet :: closing) := by
  rcases received with ⟨before, opening, closing, after, rfl, rfl, unit⟩
  rcases eq_nil_or_concat' opening with rfl | ⟨others, prev, rfl⟩
  · exact ⟨closing, after, rfl, unit⟩
  · rw [append_assoc, singleton_append] at unit
    rcases unit.neighbours.2.2 with is | is
    · rw [start] at is
      cases is
    · rw [start] at is
      cases is

end Units

/-! ## When exactly those of other units are deleted -/

/-- Every NAL unit whose start is received is received to its end, no fragment follows a NAL
unit that has ended, the first packet has its flags, and no empty packet that is a NAL unit of
its own stands behind a fragment or a packet without flags. -/
structure OnlyStartsLost (packets : List VCMPacket) : Prop where
  whole : ∀ front packet back, packets = front ++ packet :: back →
    packet.completeNALU = .kNaluStart →
      ∃ closing after, back = closing ++ after ∧ IsNalu (packet :: closing)
  fragments : ∀ front prev packet back, packets = front ++ prev :: packet :: back →
    startOfNalu packet = false → prev.seqNum + 1 = packet.seqNum →
      prev.completeNALU ≠ .kNaluEnd ∧ prev.completeNALU ≠ .kNaluComplete
  first : ∀ packet ∈ packets.head?, packet.completeNALU ≠ .kNaluUnset
  empty : ∀ front prev packet back, packets = front ++ prev :: packet :: back →
    packet.completeNALU = .kNaluComplete → packet.sizeBytes = 0 →
      prev.completeNALU ≠ .kNaluIncomplete ∧ prev.completeNALU ≠ .kNaluUnset

section Decisions

variable {front : List VCMPacket} {packet prev : VCMPacket}

theorem deletes_nil_iff : deletes [] packet = true ↔
    packet.completeNALU = .kNaluIncomplete ∨ packet.completeNALU = .kNaluEnd := by
  rw [deletes, Bool.or_eq_true, decide_eq_true_eq, decide_eq_true_eq]

/-- Behind a packet that is deleted and does not end its NAL unit the walk deletes what does
not open the next one; otherwise it deletes fragments behind a gap. -/
theorem deletes_cons_iff : deletes (prev :: front) packet = true ↔
    (deletes front prev = true ∧ prev.completeNALU ≠ .kNaluEnd) ∧ opensNalu packet = false ∨
      ¬ (deletes front prev = true ∧ prev.completeNALU ≠ .kNaluEnd) ∧
        startOfNalu packet = false ∧ prev.seqNum + 1 ≠ packet.seqNum := by
  rw [deletes]
  split
  · rename_i deleting
    rw [Bool.and_eq_true, decide_eq_true_eq] at deleting
    simp [deleting]
  · rename_i idle
    rw [Bool.and_eq_true, decide_eq_true_eq] at idle
    simp [idle]

theorem deletes_start (start : packet.completeNALU = .kNaluStart) :
    deletes front packet = false := by
  have starts : startOfNalu packet = true := by rw [startOfNalu, start]; rfl
  have opens : opensNalu packet = true := by rw [opensNalu, start]; simp
  rw [← Bool.not_eq_true]
  cases front with
  | nil =>
    rw [deletes_nil_iff, start]
    rintro (is | is) <;> cases is
  | cons prev front =>
    rw [deletes_cons_iff, starts, opens]
    simp

theorem not_starts (notStart : packet.completeNALU ≠ .kNaluStart)
    (notComplete : packet.completeNALU ≠ .kNaluComplete) :
    startOfNalu packet = false ∧ opensNalu packet = false := by
  rw [startOfNalu, opensNalu, decide_eq_false notStart, decide_eq_false notComplete]
  exact ⟨rfl, rfl⟩

theorem deletes_fragment_iff (notStart : packet.completeNALU ≠ .kNaluStart)
    (notComplete : packet.completeNALU ≠ .kNaluComplete) :
    deletes (prev :: front) packet = true ↔
      (deletes front prev = true ∧ prev.completeNALU ≠ .kNaluEnd) ∨
        prev.seqNum + 1 ≠ packet.seqNum := by
  rcases not_starts notStart notComplete with ⟨inside, unopened⟩
  rw [deletes_cons_iff, inside, unopened]
  simp only [and_true, true_and]
  tauto

end Decisions

section Exactness

variable {packets : List VCMPacket}

theorem OnlyStartsLost.deletes_iff (only : OnlyStartsLost packets) {front : List VCMPacket}
    {packet : VCMPacket} {back : List VCMPacket} (split : packets = front ++ packet :: back) :
    deletes front.reverse packet = true ↔ ¬ Received front packet back := by
  by_cases start : packet.completeNALU = .kNaluStart
  · rcases only.whole front packet back split start with ⟨closing, after, behind, unit⟩
    have received : Received front packet back :=
      ⟨front, [], closing, after, (append_nil front).symm, behind, unit⟩
    rw [deletes_start start]
    exact iff_of_false Bool.false_ne_true (not_not.mpr received)
  induction front using List.reverseRecOn generalizing packet back with
  | nil =>
    rw [reverse_nil, deletes_nil_iff]
    constructor
    · intro fragment received
      rcases received.before fragment with ⟨others, prev, front, -⟩
      exact absurd front (by simp)
    · intro unreceived
      cases flag : packet.completeNALU with
      | kNaluUnset => exact absurd flag (only.first packet (by rw [split]; rfl))
      | kNaluComplete => exact absurd (received_of_complete flag) unreceived
      | kNaluStart => exact absurd flag start
      | kNaluIncomplete => exact .inl rfl
      | kNaluEnd => exact .inr rfl
  | append_singleton front prev induction =>
    rw [append_assoc, singleton_append] at split
    have before : prev.completeNALU ≠ .kNaluStart →
        (deletes front.reverse prev = true ↔ ¬ Received front prev (packet :: back)) :=
      induction split
    rw [reverse_append, reverse_singleton, singleton_append]
    by_cases complete : packet.completeNALU = .kNaluComplete
    · have received : Received (front ++ [prev]) packet back := received_of_complete complete
      refine iff_of_false ?_ (not_not.mpr received)
      rw [deletes_cons_iff]
      rintro (⟨⟨deleted, unended⟩, unopened⟩ | ⟨-, inside, -⟩)
      · have small : packet.sizeBytes = 0 := by
          rw [opensNalu, complete] at unopened
          simpa using unopened
        have flags := only.empty front prev packet back split complete small
        cases flag : prev.completeNALU with
        | kNaluUnset => exact flags.2 flag
        | kNaluComplete =>
          have unstarted : prev.completeNALU ≠ .kNaluStart := by rw [flag]; decide
          exact (before unstarted).mp deleted (received_of_complete flag)
        | kNaluStart =>
          rw [deletes_start flag] at deleted
          cases deleted
        | kNaluIncomplete => exact flags.1 flag
        | kNaluEnd => exact unended flag
      · rw [startOfNalu, complete] at inside
        cases inside
    rw [deletes_fragment_iff start complete]
    constructor
    · intro reason received
      have fragment : packet.completeNALU = .kNaluIncomplete ∨ packet.completeNALU = .kNaluEnd := by
        have set := received.flag_ne_unset
        cases flag : packet.completeNALU with
        | kNaluUnset => exact absurd flag set
        | kNaluComplete => exact absurd flag complete
        | kNaluStart => exact absurd flag start
        | kNaluIncomplete => exact .inl rfl
        | kNaluEnd => exact .inr rfl
      rcases received.before fragment with ⟨others, nearest, same, sequence, -, nearestReceived⟩
      rcases append_inj' same rfl with ⟨rfl, nearestIs⟩
      cases nearestIs
      rcases reason with ⟨deleted, -⟩ | gap
      · by_cases prevStart : prev.completeNALU = .kNaluStart
        · rw [deletes_start prevStart] at deleted
          cases deleted
        · exact (before prevStart).mp deleted nearestReceived
      · exact gap sequence
    · intro unreceived
      by_contra kept
      rcases not_or.mp kept with ⟨idle, noGap⟩
      have sequence := not_not.mp noGap
      rcases only.fragments front prev packet back split (not_starts start complete).1 sequence
        with ⟨unended, incomplete⟩
      have prevReceived : Received front prev (packet :: back) := by
        by_cases prevStart : prev.completeNALU = .kNaluStart
        · rcases only.whole front prev (packet :: back) split prevStart with
            ⟨closing, after, behind, unit⟩
          exact ⟨front, [], closing, after, (append_nil front).symm, behind, unit⟩
        · by_contra lost
          exact idle ⟨(before prevStart).mpr lost, unended⟩
      have fragment : prev.completeNALU = .kNaluStart ∨ prev.completeNALU = .kNaluIncomplete := by
        have set := prevReceived.flag_ne_unset
        cases flag : prev.completeNALU with
        | kNaluUnset => exact absurd flag set
        | kNaluComplete => exact absurd flag incomplete
        | kNaluStart => exact .inl rfl
        | kNaluIncomplete => exact .inr rfl
        | kNaluEnd => exact absurd flag unended
      rcases prevReceived.behind fragment with ⟨next, rest, same, -, -, nextReceived⟩
      cases same
      exact unreceived nextReceived

theorem onlyStartsLost_of_deletes_iff
    (decides : ∀ front packet back, packets = front ++ packet :: back →
      (deletes front.reverse packet = true ↔ ¬ Received front packet back)) :
    OnlyStartsLost packets := by
  have behind {front : List VCMPacket} {prev packet : VCMPacket} {back : List VCMPacket}
      (split : packets = front ++ prev :: packet :: back) :
      deletes (prev :: front.reverse) packet = true ↔ ¬ Received (front ++ [prev]) packet back := by
    have decision := decides (front ++ [prev]) packet back
      (by rw [split, append_assoc, singleton_append])
    rw [reverse_append, reverse_singleton, singleton_append] at decision
    exact decision
  constructor
  case whole =>
    intro front packet back split start
    have kept := @deletes_start front.reverse packet start
    have received : Received front packet back := by
      by_contra unreceived
      rw [(decides front packet back split).mpr unreceived] at kept
      cases kept
    exact received.of_start start
  case fragments =>
    intro front prev packet back split inside sequence
    rw [← not_or]
    intro flag
    have idle : ¬ (deletes front.reverse prev = true ∧ prev.completeNALU ≠ .kNaluEnd) := by
      rintro ⟨deleted, unended⟩
      rcases flag with ends | complete
      · exact unended ends
      · exact (decides front prev (packet :: back) split).mp deleted (received_of_complete complete)
    have received : Received (front ++ [prev]) packet back := by
      by_contra unreceived
      rcases deletes_cons_iff.mp ((behind split).mpr unreceived) with ⟨deleting, -⟩ | ⟨-, -, gap⟩
      · exact idle deleting
      · exact gap sequence
    rw [startOfNalu, Bool.or_eq_false_iff, decide_eq_false_iff_not, decide_eq_false_iff_not]
      at inside
    have fragment : packet.completeNALU = .kNaluIncomplete ∨ packet.completeNALU = .kNaluEnd := by
      have set := received.flag_ne_unset
      cases is : packet.completeNALU with
      | kNaluUnset => exact absurd is set
      | kNaluComplete => exact absurd is inside.2
      | kNaluStart => exact absurd is inside.1
      | kNaluIncomplete => exact .inl rfl
      | kNaluEnd => exact .inr rfl
    rcases received.before fragment with ⟨others, nearest, same, -, nearestFlag, -⟩
    cases (append_inj' same rfl).2
    rcases flag with ends | complete
    · rw [ends] at nearestFlag
      rcases nearestFlag with is | is <;> cases is
    · rw [complete] at nearestFlag
      rcases nearestFlag with is | is <;> cases is
  case first =>
    intro packet head unset
    cases packets with
    | nil => cases head
    | cons first rest =>
      cases head
      have received : Received [] packet rest := by
        by_contra unreceived
        rcases deletes_nil_iff.mp ((decides [] packet rest rfl).mpr unreceived) with is | is
        · rw [unset] at is
          cases is
        · rw [unset] at is
          cases is
      exact received.flag_ne_unset unset
  case empty =>
    intro front prev packet back split complete small
    rw [← not_or]
    intro flag
    have unended : prev.completeNALU ≠ .kNaluEnd := by
      rcases flag with is | is
      · rw [is]
        decide
      · rw [is]
        decide
    have unopened : opensNalu packet = false := by
      rw [opensNalu, complete, small]
      rfl
    cases deleted : deletes front.reverse prev with
    | true =>
      exact (behind split).mp (deletes_cons_iff.mpr (.inl ⟨⟨deleted, unended⟩, unopened⟩))
        (received_of_complete complete)
    | false =>
      have received : Received front prev (packet :: back) := by
        by_contra unreceived
        rw [(decides front prev (packet :: back) split).mpr unreceived] at deleted
        cases deleted
      rcases flag with fragment | unset
      · rcases received.behind (.inr fragment) with ⟨next, rest, same, -, is, -⟩
        cases same
        rw [complete] at is
        rcases is with is | is <;> cases is
      · exact received.flag_ne_unset unset

/-- `MakeDecodable` deletes exactly the packets of NAL units that are not completely received,
as it says, if they have all lost their starts. -/
theorem makeDecodable_removesUnreceived_iff (laid : Laid 0 packets) (frameBuffer : Buffer) :
    (∃ returned next nextBuffer,
        makeDecodable packets frameBuffer = some (returned, next, nextBuffer) ∧
          RemovesUnreceived packets frameBuffer returned next nextBuffer) ↔
      OnlyStartsLost packets := by
  rw [makeDecodable_removes_iff laid frameBuffer]
  exact ⟨onlyStartsLost_of_deletes_iff, fun only _ _ _ split => only.deletes_iff split⟩

end Exactness

/-- A packet of one byte at an offset in the frame buffer. -/
def fragmentAt (offset : Nat) (seqNum : UInt16) (completeNALU : VCMNaluCompleteness) :
    VCMPacket where
  seqNum := seqNum
  dataPtr := some offset
  sizeBytes := 1
  markerBit := false
  frameType := .kVideoFrameDelta
  isFirstPacket := false
  completeNALU := completeNALU
  insertStartCode := false

def startLost : List VCMPacket :=
  [fragmentAt 0 65535 .kNaluComplete, fragmentAt 1 1 .kNaluIncomplete, fragmentAt 2 2 .kNaluEnd,
    fragmentAt 3 3 .kNaluComplete]

theorem startLost_laid : Laid 0 startLost := ⟨rfl, rfl, rfl, rfl, trivial⟩

theorem makeDecodable_startLost :
    (∃ returned next nextBuffer,
        makeDecodable startLost Buffer.zeros = some (returned, next, nextBuffer) ∧
          RemovesUnreceived startLost Buffer.zeros returned next nextBuffer) ↔
      OnlyStartsLost startLost :=
  makeDecodable_removesUnreceived_iff startLost_laid Buffer.zeros

/-- The end of a NAL unit is lost, and the next one is received. -/
def endLost : List VCMPacket :=
  [fragmentAt 0 1 .kNaluStart, fragmentAt 1 3 .kNaluComplete]

/-- Nothing is deleted. -/
theorem not_removesUnreceived_endLost :
    ¬ ∀ (packets : List VCMPacket) (frameBuffer : Buffer), Laid 0 packets →
        ∃ returned next nextBuffer,
          makeDecodable packets frameBuffer = some (returned, next, nextBuffer) ∧
            RemovesUnreceived packets frameBuffer returned next nextBuffer := by
  intro every
  rcases every endLost Buffer.zeros ⟨rfl, rfl, trivial⟩ with
    ⟨returned, next, nextBuffer, made, removes⟩
  have unchanged : makeDecodable endLost Buffer.zeros = some (0, endLost, Buffer.zeros) := rfl
  rw [unchanged] at made
  cases made
  have unreceived : ¬ Received [] (fragmentAt 0 1 .kNaluStart)
      [fragmentAt 1 3 .kNaluComplete] := by
    intro received
    rcases received.behind (.inl rfl) with ⟨next, rest, same, -, flag, -⟩
    cases same
    rcases flag with is | is <;> cases is
  have deleted := removes.deleted [] _ _ rfl unreceived
  exact absurd (congrArg (Option.map VCMPacket.sizeBytes) deleted) (by decide)

end ZyWebRtc.Video.VCMSessionInfo
