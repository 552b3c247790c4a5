import ZyWebRtc.Video.Completeness

namespace ZyWebRtc.Video.VCMSessionInfo

/-! `MakeDecodable`, and which packets its walk over a frame deletes. -/

open List Option Buffer

def startOfNalu (packet : VCMPacket) : Bool :=
  packet.completeNALU = .kNaluStart || packet.completeNALU = .kNaluComplete

/-- A packet in front of which the search for the end of a NAL unit stops. -/
def opensNalu (packet : VCMPacket) : Bool :=
  packet.completeNALU = .kNaluComplete && 0 < packet.sizeBytes || packet.completeNALU = .kNaluStart

def scanNaluEnd : List VCMPacket → Nat
  | [] => 0
  | packet :: rest =>
    if opensNalu packet then 0
    else if packet.completeNALU = .kNaluEnd then 1
    else scanNaluEnd rest + 1

def findNaluEnd : List VCMPacket → Nat
  | [] => 0
  | packet :: rest =>
    if packet.completeNALU = .kNaluEnd || packet.completeNALU = .kNaluComplete then 1
    else scanNaluEnd (packet :: rest)

def cleared (packet : VCMPacket) : VCMPacket := { packet with sizeBytes := 0, dataPtr := none }

def deletePacketData (packets subsequent : List VCMPacket) (frameBuffer : Buffer) :
    Option (Nat × List VCMPacket × List VCMPacket × Buffer) := do
  let bytesToDelete := sessionLength packets
  let (subsequent, frameBuffer) ←
    if 0 < bytesToDelete then
      shiftSubsequentPackets subsequent (-(bytesToDelete : Int)) frameBuffer
    else some (subsequent, frameBuffer)
  pure (bytesToDelete, packets.map cleared, subsequent, frameBuffer)

/-- The walk of `MakeDecodable`; `prevSeqNum` is that of the packet behind which it is. -/
structure Walk where
  walked : List VCMPacket
  prevSeqNum : Option UInt16
  rest : List VCMPacket
  returnLength : Nat
  frameBuffer : Buffer

namespace Walk

def start (packets : List VCMPacket) (frameBuffer : Buffer) : Walk where
  walked := []
  prevSeqNum := none
  rest := packets
  returnLength := 0
  frameBuffer := frameBuffer

/-- The packet from here to the end of its NAL unit are deleted. -/
def deleteNalu (walk : Walk) : Option Walk := do
  let count := findNaluEnd walk.rest
  let unit := walk.rest.take count
  let (bytesDeleted, unit, rest, frameBuffer) ←
    deletePacketData unit (walk.rest.drop count) walk.frameBuffer
  pure {
    walked := walk.walked ++ unit
    prevSeqNum := unit.getLast?.map VCMPacket.seqNum
    rest
    returnLength := walk.returnLength + bytesDeleted
    frameBuffer }

/-- A packet in sequence with the one behind which the walk is; the first packet is. -/
def inSequence (prevSeqNum : Option UInt16) (packet : VCMPacket) : Bool :=
  prevSeqNum.all fun prev => prev + 1 = packet.seqNum

def loop : Nat → Walk → Option Walk
  | fuel, walk =>
    match fuel, walk.rest with
    | _, [] => some walk
    | 0, _ :: _ => none
    | fuel + 1, packet :: rest =>
      if !startOfNalu packet && !inSequence walk.prevSeqNum packet then do
        loop fuel (← walk.deleteNalu)
      else
        loop fuel { walk with
          walked := walk.walked ++ [packet], prevSeqNum := some packet.seqNum, rest }

end Walk

/-- `MakeDecodable` on the packets of a session: the number of bytes that it deletes, the
packets and the frame buffer. -/
def makeDecodable (packets : List VCMPacket) (frameBuffer : Buffer) :
    Option (Nat × List VCMPacket × Buffer) := do
  let walk := Walk.start packets frameBuffer
  let walk ←
    if packets.head?.any fun packet =>
        packet.completeNALU = .kNaluIncomplete || packet.completeNALU = .kNaluEnd then
      walk.deleteNalu
    else some walk
  let walk ← walk.loop packets.length
  pure (walk.returnLength, walk.walked, walk.frameBuffer)

/-! ## Packets one behind the other -/

/-- The packets lie one behind the other in the frame buffer. -/
def Laid : Nat → List VCMPacket → Prop
  | _, [] => True
  | offset, packet :: rest => packet.dataPtr = some offset ∧ Laid (offset + packet.sizeBytes) rest

theorem laid_append {offset : Nat} {front back : List VCMPacket} :
    Laid offset (front ++ back) ↔ Laid offset front ∧ Laid (offset + sessionLength front) back := by
  induction front generalizing offset with
  | nil => simp [Laid, sessionLength]
  | cons packet rest induction =>
    rw [cons_append, Laid, Laid, induction, sessionLength, sessionLength, map_cons,
      sum_cons, Nat.add_assoc, and_assoc]

@[simp] theorem sessionLength_cons (packet : VCMPacket) (rest : List VCMPacket) :
    sessionLength (packet :: rest) = packet.sizeBytes + sessionLength rest := rfl

theorem Laid.dataPtr_ne_none {offset : Nat} {packets : List VCMPacket}
    (laid : Laid offset packets) : ∀ packet ∈ packets, packet.dataPtr ≠ none := by
  intro packet member
  rcases append_of_mem member with ⟨front, back, rfl⟩
  rw [(laid_append.mp laid).2.1]
  exact some_ne_none _

theorem Laid.shift {offset moved : Nat} {steps : Int} {packets : List VCMPacket}
    (laid : Laid offset packets) (moves : (offset : Int) + steps = moved) :
    Laid moved (packets.map (shiftPointer steps)) := by
  induction packets generalizing offset moved with
  | nil => trivial
  | cons packet rest induction =>
    rcases laid with ⟨pointer, behind⟩
    refine ⟨?_, induction behind ?_⟩
    · rw [shiftPointer, pointer]
      change some ((offset : Int) + steps).toNat = some moved
      rw [moves, Int.toNat_natCast]
    · change _ = (((moved + packet.sizeBytes : Nat)) : Int)
      omega

/-! ## The packets that the walk deletes -/

/-- Whether the walk deletes a packet behind those of `front`, of which the nearest comes
first. -/
def deletes : List VCMPacket → VCMPacket → Bool
  | [], packet => packet.completeNALU = .kNaluIncomplete || packet.completeNALU = .kNaluEnd
  | prev :: front, packet =>
    if deletes front prev && prev.completeNALU ≠ .kNaluEnd then !opensNalu packet
    else !startOfNalu packet && prev.seqNum + 1 ≠ packet.seqNum

/-- The marks of the packets that are deleted, behind those of `front`. -/
def deletionMarks : List VCMPacket → List VCMPacket → List Bool
  | _, [] => []
  | front, packet :: rest => deletes front packet :: deletionMarks (packet :: front) rest

def afterDeletion : Nat → List VCMPacket → List Bool → List VCMPacket
  | offset, packet :: rest, mark :: marks =>
    if mark then cleared packet :: afterDeletion offset rest marks
    else { packet with dataPtr := some offset } ::
      afterDeletion (offset + packet.sizeBytes) rest marks
  | _, _, _ => []

def bytesOf (frameBuffer : Buffer) (packet : VCMPacket) : Bytes :=
  match packet.dataPtr with
  | none => []
  | some pointer => frameBuffer.slice pointer packet.sizeBytes

def remainingBytes (frameBuffer : Buffer) : List VCMPacket → List Bool → Bytes
  | packet :: rest, mark :: marks =>
    (if mark then [] else bytesOf frameBuffer packet) ++ remainingBytes frameBuffer rest marks
  | _, _ => []

def deletedLength : List VCMPacket → List Bool → Nat
  | packet :: rest, mark :: marks =>
    (if mark then packet.sizeBytes else 0) + deletedLength rest marks
  | _, _ => 0

section Marks

variable {front stretch rest : List VCMPacket} {packet prev : VCMPacket}

/-- The walk decides on the next packet as the marks say. -/
def Agrees (front rest : List VCMPacket) : Prop :=
  ∀ packet ∈ rest.head?, deletes front packet = (!startOfNalu packet &&
      !Walk.inSequence (front.head?.map VCMPacket.seqNum) packet)

theorem startOfNalu_of_opensNalu (opens : opensNalu packet = true) :
    startOfNalu packet = true := by
  rw [opensNalu, Bool.or_eq_true, Bool.and_eq_true] at opens
  rw [startOfNalu, Bool.or_eq_true]
  exact opens.elim (fun complete => .inr complete.1) .inl

theorem agrees_cons (idle : (deletes front prev && prev.completeNALU ≠ .kNaluEnd) = false) :
    Agrees (prev :: front) rest := by
  intro packet _
  rw [deletes, if_neg (by rw [idle]; exact Bool.false_ne_true)]
  simp [Walk.inSequence]

theorem deletionMarks_scan
    (deleting : (deletes front prev && prev.completeNALU ≠ .kNaluEnd) = true) :
    deletionMarks (prev :: front) rest = List.replicate (scanNaluEnd rest) true ++
        deletionMarks ((rest.take (scanNaluEnd rest)).reverse ++ prev :: front)
          (rest.drop (scanNaluEnd rest)) ∧
      Agrees ((rest.take (scanNaluEnd rest)).reverse ++ prev :: front)
        (rest.drop (scanNaluEnd rest)) := by
  induction rest generalizing front prev with
  | nil => exact ⟨rfl, fun _ none => nomatch none⟩
  | cons packet tail induction =>
    have decision : deletes (prev :: front) packet = !opensNalu packet := by
      rw [deletes, if_pos deleting]
    rw [scanNaluEnd]
    cases opens : opensNalu packet with
    | true =>
      rw [if_pos rfl]
      refine ⟨rfl, fun head is => ?_⟩
      cases is
      rw [take_zero, reverse_nil, nil_append, decision, opens, startOfNalu_of_opensNalu opens]
      rfl
    | false =>
      rw [if_neg Bool.false_ne_true]
      rw [opens, Bool.not_false] at decision
      by_cases ends : packet.completeNALU = .kNaluEnd
      · rw [if_pos ends]
        refine ⟨?_, ?_⟩
        · rw [deletionMarks, decision]
          rfl
        · apply agrees_cons
          rw [ends]
          exact Bool.and_false _
      · rw [if_neg ends]
        have onwards := @induction (prev :: front) packet
          (by rw [decision, decide_eq_true ends]; rfl)
        rw [deletionMarks, decision, replicate_succ, take_succ_cons,
          drop_succ_cons, reverse_cons, append_assoc, singleton_append,
          cons_append, onwards.1]
        exact ⟨rfl, onwards.2⟩

theorem deletionMarks_findNaluEnd (deleted : deletes front packet = true)
    (inside : startOfNalu packet = false) {count : Nat}
    (countIs : findNaluEnd (packet :: rest) = count) :
    deletionMarks front (packet :: rest) = List.replicate count true ++
        deletionMarks (((packet :: rest).take count).reverse ++ front)
          ((packet :: rest).drop count) ∧
      Agrees (((packet :: rest).take count).reverse ++ front) ((packet :: rest).drop count) ∧
      0 < count := by
  rw [startOfNalu, Bool.or_eq_false_iff, decide_eq_false_iff_not, decide_eq_false_iff_not] at inside
  by_cases ends : packet.completeNALU = .kNaluEnd
  · rw [findNaluEnd, decide_eq_true ends, Bool.true_or, if_pos rfl] at countIs
    cases countIs
    refine ⟨?_, ?_, Nat.one_pos⟩
    · rw [deletionMarks, deleted]
      rfl
    · apply agrees_cons
      rw [ends]
      exact Bool.and_false _
  · have behind : opensNalu packet = false := by
      rw [opensNalu, decide_eq_false inside.2, decide_eq_false inside.1]
      rfl
    rw [findNaluEnd, decide_eq_false ends, decide_eq_false inside.2, Bool.or_self,
      if_neg Bool.false_ne_true, scanNaluEnd, behind, if_neg Bool.false_ne_true, if_neg ends]
      at countIs
    have onwards := @deletionMarks_scan front rest packet
      (by rw [deleted, decide_eq_true ends]; rfl)
    cases countIs
    rw [deletionMarks, deleted, replicate_succ, take_succ_cons, drop_succ_cons,
      reverse_cons, append_assoc, singleton_append, cons_append, onwards.1]
    exact ⟨rfl, onwards.2, Nat.succ_pos _⟩

theorem deletes_shift (steps : Int) (packet : VCMPacket) :
    deletes front (shiftPointer steps packet) = deletes front packet := by
  cases front <;> rfl

theorem deletionMarks_shift {other : List VCMPacket} (steps : Int)
    (same : ∀ packet, deletes front packet = deletes other packet) :
    deletionMarks front (rest.map (shiftPointer steps)) = deletionMarks other rest := by
  induction rest generalizing front other with
  | nil => rfl
  | cons packet tail induction =>
    have decision : deletes front (shiftPointer steps packet) = deletes other packet := by
      rw [deletes_shift, same]
    rw [map_cons, deletionMarks, deletionMarks, decision]
    apply congrArg
    apply induction
    intro next
    rw [deletes, deletes, decision]
    rfl

theorem Agrees.shift (agrees : Agrees front rest) (steps : Int) :
    Agrees front (rest.map (shiftPointer steps)) := by
  cases rest with
  | nil => exact fun _ none => nomatch none
  | cons packet tail =>
    intro head is
    cases is
    rw [deletes_shift]
    exact agrees packet rfl

theorem deletionMarks_length : (deletionMarks front rest).length = rest.length := by
  induction rest generalizing front with
  | nil => rfl
  | cons packet tail induction => exact congrArg (· + 1) induction

end Marks

/-! ## What a deletion leaves -/

section Deletion

variable {stretch rest : List VCMPacket} {marks : List Bool} {offset moved : Nat}

theorem afterDeletion_shift (steps : Int) :
    afterDeletion offset (rest.map (shiftPointer steps)) marks =
      afterDeletion offset rest marks := by
  induction rest generalizing offset marks with
  | nil => rfl
  | cons packet tail induction =>
    cases marks with
    | nil => rfl
    | cons mark marks =>
      rw [map_cons, afterDeletion, afterDeletion, induction, induction]
      rfl

theorem deletedLength_shift (steps : Int) :
    deletedLength (rest.map (shiftPointer steps)) marks = deletedLength rest marks := by
  induction rest generalizing marks with
  | nil => rfl
  | cons packet tail induction =>
    cases marks with
    | nil => rfl
    | cons mark marks =>
      rw [map_cons, deletedLength, deletedLength, induction]
      rfl

theorem afterDeletion_append :
    afterDeletion offset (stretch ++ rest) (List.replicate stretch.length true ++ marks) =
      stretch.map cleared ++ afterDeletion offset rest marks := by
  induction stretch with
  | nil => rfl
  | cons packet tail induction =>
    rw [length_cons, replicate_succ, cons_append, cons_append, afterDeletion, if_pos rfl, induction]
    rfl

theorem deletedLength_append :
    deletedLength (stretch ++ rest) (List.replicate stretch.length true ++ marks) =
      sessionLength stretch + deletedLength rest marks := by
  induction stretch with
  | nil => exact (Nat.zero_add _).symm
  | cons packet tail induction =>
    rw [length_cons, replicate_succ, cons_append, cons_append, deletedLength,
      if_pos rfl, induction, sessionLength_cons, Nat.add_assoc]

theorem remainingBytes_append (frameBuffer : Buffer) :
    remainingBytes frameBuffer (stretch ++ rest)
        (List.replicate stretch.length true ++ marks) =
      remainingBytes frameBuffer rest marks := by
  induction stretch with
  | nil => rfl
  | cons packet tail induction =>
    rw [length_cons, replicate_succ, cons_append, cons_append,
      remainingBytes, if_pos rfl, nil_append, induction]

theorem remainingBytes_shift {frameBuffer nextBuffer : Buffer} {steps : Int}
    (laid : Laid offset rest) (moves : (offset : Int) + steps = moved)
    (same : ∀ index < sessionLength rest,
      nextBuffer (moved + index) = frameBuffer (offset + index)) :
    remainingBytes nextBuffer (rest.map (shiftPointer steps)) marks =
      remainingBytes frameBuffer rest marks := by
  induction rest generalizing offset moved marks with
  | nil => rfl
  | cons packet tail induction =>
    cases marks with
    | nil => rfl
    | cons mark marks =>
      have shifted := laid.shift moves
      rw [sessionLength_cons] at same
      have bytes : bytesOf nextBuffer (shiftPointer steps packet) = bytesOf frameBuffer packet := by
        rw [bytesOf, bytesOf, shifted.1, laid.1]
        apply slice_eq_iff.mpr
        intro index inside
        exact same index (Nat.lt_of_lt_of_le inside (Nat.le_add_right _ _))
      rw [map_cons, remainingBytes, remainingBytes, bytes]
      apply congrArg
      apply @induction marks (offset + packet.sizeBytes) (moved + packet.sizeBytes)
      · exact laid.2
      · omega
      · intro index inside
        rw [Nat.add_assoc, Nat.add_assoc]
        exact same _ (Nat.add_lt_add_left inside _)

theorem shiftPointer_zero (packet : VCMPacket) : shiftPointer 0 packet = packet := by
  rcases packet with ⟨seqNum, dataPtr, sizeBytes⟩
  cases dataPtr <;> rfl

theorem deletePacketData_laid (laid : Laid offset (stretch ++ rest)) (frameBuffer : Buffer) :
    ∃ nextBuffer, deletePacketData stretch rest frameBuffer =
        some (sessionLength stretch, stretch.map cleared,
          rest.map (shiftPointer (-(sessionLength stretch : Int))), nextBuffer) ∧
      (∀ index < offset, nextBuffer index = frameBuffer index) ∧
      ∀ index < sessionLength rest,
        nextBuffer (offset + index) = frameBuffer (offset + sessionLength stretch + index) := by
  rw [deletePacketData]
  by_cases holdsBytes : 0 < sessionLength stretch
  case neg =>
    have none : sessionLength stretch = 0 := by omega
    have unmoved : rest.map (shiftPointer (-(0 : Nat))) = rest := by
      rw [Int.natCast_zero, Int.neg_zero]
      exact (map_congr_left fun packet _ => shiftPointer_zero packet).trans (List.map_id rest)
    refine ⟨frameBuffer, ?_, fun _ _ => rfl, fun _ _ => by rw [none, Nat.add_zero]⟩
    rw [if_neg holdsBytes, none, unmoved]
    rfl
  rw [if_pos holdsBytes]
  cases rest with
  | nil => exact ⟨frameBuffer, rfl, fun _ _ => rfl, fun _ none => absurd none (Nat.not_lt_zero _)⟩
  | cons packet tail =>
    have pointer : packet.dataPtr = some (offset + sessionLength stretch) :=
      (laid_append.mp laid).2.1
    have target : (((offset + sessionLength stretch : Nat) : Int) +
        -(sessionLength stretch : Int)).toNat = offset := by omega
    refine ⟨frameBuffer.overwrite offset (frameBuffer.slice (offset + sessionLength stretch)
      (sessionLength (packet :: tail))), ?_, ?_, ?_⟩
    · rw [shiftSubsequentPackets, pointer]
      change some (_, _, _, overwrite _ (Int.toNat _) _) = _
      rw [target]
    · intro index before
      exact overwrite_outside _ (.inl before)
    · intro index inside
      rw [overwrite_inside _ (by rw [slice_length]; exact inside)]
      simp [slice]

end Deletion

/-! ## The walk -/

namespace Walk

/-- What the walk has done when it has deleted the marked packets of those in front of it, of
which the first one lies at `offset`. -/
structure Finishes (offset : Nat) (walk : Walk) (marks : List Bool) (last : Walk) : Prop where
  returnLength : last.returnLength = walk.returnLength + deletedLength walk.rest marks
  walked : last.walked = walk.walked ++ afterDeletion offset walk.rest marks
  before : ∀ index < offset, last.frameBuffer index = walk.frameBuffer index
  behind : last.frameBuffer.slice offset (remainingBytes walk.frameBuffer walk.rest marks).length =
    remainingBytes walk.frameBuffer walk.rest marks

variable {walk last : Walk} {front : List VCMPacket} {offset : Nat}

section

variable {packet : VCMPacket} {rest : List VCMPacket} (here : walk.rest = packet :: rest)
  (laid : Laid offset walk.rest)

include here laid

theorem deleteNalu_finishes (deleted : deletes front packet = true)
    (inside : startOfNalu packet = false) :
    ∃ next nextFront, walk.deleteNalu = some next ∧ next.rest.length < walk.rest.length ∧
      Laid offset next.rest ∧ Agrees nextFront next.rest ∧
      next.prevSeqNum = nextFront.head?.map VCMPacket.seqNum ∧
      ∀ last, Finishes offset next (deletionMarks nextFront next.rest) last →
        Finishes offset walk (deletionMarks front walk.rest) last := by
  generalize countIs : findNaluEnd (packet :: rest) = count
  rcases deletionMarks_findNaluEnd deleted inside countIs with ⟨marks, agrees, positive⟩
  rw [← here] at countIs marks agrees
  generalize stretchIs : walk.rest.take count = stretch at marks agrees
  generalize behindIs : walk.rest.drop count = behind at marks agrees
  have split : stretch ++ behind = walk.rest := by
    rw [← stretchIs, ← behindIs, take_append_drop]
  have lengths := congrArg List.length marks
  rw [deletionMarks_length, length_append, deletionMarks_length, length_replicate,
    ← split, length_append, Nat.add_right_cancel_iff] at lengths
  rw [← lengths] at marks positive
  rw [← split] at laid
  rcases deletePacketData_laid laid walk.frameBuffer with ⟨buffer, removed, before, moved⟩
  have steps : (((offset + sessionLength stretch : Nat) : Int) + -(sessionLength stretch : Int)) =
      (offset : Int) := by omega
  have nextMarks : deletionMarks (stretch.reverse ++ front)
        (behind.map (shiftPointer (-(sessionLength stretch : Int)))) =
      deletionMarks (stretch.reverse ++ front) behind :=
    deletionMarks_shift _ fun _ => rfl
  refine ⟨{
      walked := walk.walked ++ stretch.map cleared
      prevSeqNum := (stretch.map cleared).getLast?.map VCMPacket.seqNum
      rest := behind.map (shiftPointer (-(sessionLength stretch : Int)))
      returnLength := walk.returnLength + sessionLength stretch
      frameBuffer := buffer }, stretch.reverse ++ front, ?_, ?_, ?_, agrees.shift _, ?_, ?_⟩
  · rw [deleteNalu]
    simp only [countIs, stretchIs, behindIs, removed]
    rfl
  · rw [← split, length_append, length_map]
    omega
  · exact (laid_append.mp laid).2.shift steps
  · rcases eq_nil_or_concat' stretch with rfl | ⟨others, final, rfl⟩
    · exact absurd positive (Nat.lt_irrefl 0)
    · rw [map_append, reverse_append]
      simp [cleared]
  · intro last finishes
    rcases finishes with ⟨returnLength, walked, kept, bytes⟩
    rw [nextMarks] at returnLength walked bytes
    rw [remainingBytes_shift (laid_append.mp laid).2 steps moved] at bytes
    rw [marks]
    constructor
    · rw [returnLength, ← split, deletedLength_append, deletedLength_shift, Nat.add_assoc]
    · rw [walked, ← split, afterDeletion_append, afterDeletion_shift, append_assoc]
    · intro index inside
      exact (kept index inside).trans (before index inside)
    · rw [← split, remainingBytes_append]
      exact bytes

theorem keep_finishes (kept : deletes front packet = false)
    (finishes : Finishes (offset + packet.sizeBytes)
      { walk with walked := walk.walked ++ [packet], prevSeqNum := some packet.seqNum, rest }
      (deletionMarks (packet :: front) rest) last) :
    Finishes offset walk (deletionMarks front walk.rest) last := by
  rcases finishes with ⟨returnLength, walked, before, behind⟩
  rw [here] at laid ⊢
  have bytes : last.frameBuffer.slice offset packet.sizeBytes =
      bytesOf walk.frameBuffer packet := by
    rw [bytesOf, laid.1]
    apply slice_congr
    intro index inside
    exact before _ (Nat.add_lt_add_left inside offset)
  have same : { packet with dataPtr := some offset } = packet := by
    rw [← laid.1]
  constructor
  · rw [here, deletionMarks, kept, deletedLength, if_neg Bool.false_ne_true, Nat.zero_add]
    exact returnLength
  · rw [here, deletionMarks, kept, afterDeletion, if_neg Bool.false_ne_true, same]
    rw [walked, append_assoc]
    rfl
  · intro index inside
    exact before index (Nat.lt_of_lt_of_le inside (Nat.le_add_right _ _))
  · rw [here, deletionMarks, kept, remainingBytes, if_neg Bool.false_ne_true, length_append,
      slice_append]
    have size : (bytesOf walk.frameBuffer packet).length = packet.sizeBytes := by
      rw [← bytes, slice_length]
    rw [size, bytes]
    exact congrArg (bytesOf walk.frameBuffer packet ++ ·) behind

end

theorem Finishes.nil (here : walk.rest = []) (offset : Nat) (marks : List Bool) :
    Finishes offset walk marks walk := by
  constructor
  · rw [here]
    rfl
  · rw [here]
    exact (append_nil _).symm
  · exact fun _ _ => rfl
  · rw [here]
    rfl

theorem loop_nil (here : walk.rest = []) (fuel : Nat) : walk.loop fuel = some walk := by
  rw [loop]
  exact here

theorem loop_cons {packet : VCMPacket} {rest : List VCMPacket}
    (here : walk.rest = packet :: rest) (fuel : Nat) :
    walk.loop (fuel + 1) =
      if (!startOfNalu packet && !inSequence walk.prevSeqNum packet) = true then
        walk.deleteNalu.bind (loop fuel)
      else
        loop fuel { walk with
          walked := walk.walked ++ [packet], prevSeqNum := some packet.seqNum, rest } := by
  rw [loop.eq_3 walk fuel packet rest here]
  rfl

/-- The loop deletes the marked packets. -/
theorem loop_finishes {fuel : Nat} (enough : walk.rest.length ≤ fuel)
    (laid : Laid offset walk.rest) (agrees : Agrees front walk.rest)
    (prevSeqNum : walk.prevSeqNum = front.head?.map VCMPacket.seqNum) :
    ∃ last, walk.loop fuel = some last ∧
      Finishes offset walk (deletionMarks front walk.rest) last := by
  induction fuel generalizing walk front offset with
  | zero =>
    have here : walk.rest = [] := eq_nil_of_length_eq_zero (Nat.le_zero.mp enough)
    exact ⟨walk, loop_nil here 0, Finishes.nil here _ _⟩
  | succ fuel induction =>
    cases here : walk.rest with
    | nil => exact ⟨walk, loop_nil here _, Finishes.nil here _ _⟩
    | cons packet rest =>
      have decision := agrees packet (by rw [here]; rfl)
      rw [← prevSeqNum] at decision
      rw [loop_cons here, ← decision]
      cases deleted : deletes front packet with
      | true =>
        rw [deleted] at decision
        have inside : startOfNalu packet = false := by
          cases starts : startOfNalu packet with
          | false => rfl
          | true =>
            rw [starts] at decision
            cases decision
        rcases deleteNalu_finishes here laid deleted inside with
          ⟨next, nextFront, deletes, shorter, nextLaid, nextAgrees, nextSeqNum, onwards⟩
        rcases induction (by omega) nextLaid nextAgrees nextSeqNum with ⟨last, run, finishes⟩
        refine ⟨last, ?_, here ▸ onwards last finishes⟩
        rw [if_pos rfl, deletes]
        exact run
      | false =>
        rw [deleted] at decision
        have idle : (deletes front packet && packet.completeNALU ≠ .kNaluEnd) = false := by
          rw [deleted]
          rfl
        rw [here, length_cons] at enough
        rw [here] at laid
        have shorter : rest.length ≤ fuel := Nat.le_of_succ_le_succ enough
        rcases @induction
          { walk with
            walked := walk.walked ++ [packet], prevSeqNum := some packet.seqNum, rest }
          (packet :: front) (offset + packet.sizeBytes) shorter laid.2 (agrees_cons idle) rfl
          with ⟨last, run, finishes⟩
        refine ⟨last, ?_, here ▸ keep_finishes here (here ▸ laid) deleted finishes⟩
        rw [if_neg Bool.false_ne_true]
        exact run

end Walk

/-- `MakeDecodable` deletes the marked packets, and moves the bytes of the others together. -/
theorem makeDecodable_eq {packets : List VCMPacket} (laid : Laid 0 packets)
    (frameBuffer : Buffer) :
    ∃ nextBuffer, makeDecodable packets frameBuffer =
        some (deletedLength packets (deletionMarks [] packets),
          afterDeletion 0 packets (deletionMarks [] packets), nextBuffer) ∧
      nextBuffer.slice 0 (remainingBytes frameBuffer packets (deletionMarks [] packets)).length =
        remainingBytes frameBuffer packets (deletionMarks [] packets) := by
  suffices walks : ∃ last, Walk.Finishes 0 (Walk.start packets frameBuffer)
      (deletionMarks [] packets) last ∧ makeDecodable packets frameBuffer =
        some (last.returnLength, last.walked, last.frameBuffer) by
    rcases walks with ⟨last, ⟨returnLength, walked, -, behind⟩, result⟩
    refine ⟨last.frameBuffer, ?_, behind⟩
    rw [result, returnLength, walked]
    rw [Walk.start, Nat.zero_add, nil_append]
  cases packets with
  | nil => exact ⟨_, Walk.Finishes.nil rfl _ _, rfl⟩
  | cons packet rest =>
    cases deleted : deletes [] packet with
    | true =>
      have inside : startOfNalu packet = false := by
        rw [deletes, Bool.or_eq_true, decide_eq_true_eq, decide_eq_true_eq] at deleted
        rw [startOfNalu]
        rcases deleted with is | is
        · rw [is]
          rfl
        · rw [is]
          rfl
      rcases @Walk.deleteNalu_finishes (Walk.start (packet :: rest) frameBuffer) [] 0 packet
        rest rfl laid deleted inside with
        ⟨next, nextFront, removed, shorter, nextLaid, nextAgrees, nextSeqNum, onwards⟩
      have enough : next.rest.length ≤ (packet :: rest).length := Nat.le_of_lt shorter
      rcases Walk.loop_finishes enough nextLaid nextAgrees nextSeqNum with ⟨last, run, finishes⟩
      refine ⟨last, onwards last finishes, ?_⟩
      rw [deletes] at deleted
      simp only [makeDecodable, List.head?_cons, any_some, deleted, if_true, removed,
        bind_eq_bind, bind_some, run]
      rfl
    | false =>
      have agrees : Agrees [] (packet :: rest) := by
        intro head is
        cases is
        rw [deleted]
        exact (Bool.and_false _).symm
      rcases @Walk.loop_finishes (Walk.start (packet :: rest) frameBuffer) [] 0 _
        (Nat.le_refl _) laid agrees rfl with ⟨last, run, finishes⟩
      refine ⟨last, finishes, ?_⟩
      rw [deletes] at deleted
      simp only [makeDecodable, List.head?_cons, any_some, deleted, Bool.false_eq_true,
        if_false, bind_eq_bind, bind_some]
      rw [Walk.start] at run
      simp only [Walk.start, run]
      rfl

theorem Laid.placed {before after : List VCMPacket} (packet : VCMPacket)
    (laid : Laid 0 (before ++ after)) : Laid 0 (placed before packet after) := by
  rw [laid_append, Nat.zero_add] at laid
  refine laid_append.mpr ⟨laid.1, ?_, ?_⟩
  · rw [Nat.zero_add]
  · apply laid.2.shift
    change _ = ((0 + sessionLength before + packet.bufferSize : Nat) : Int)
    omega

/-- In every run of insertions, with those that are refused, the packets lie one behind the other
in the frame buffer. -/
theorem reached_laid {frameBuffer : Buffer} {insertions : List Insertion} {last : Assembly}
    (run : Run.reached Assembly.step (Assembly.new frameBuffer) insertions = some last) :
    Laid 0 last.session.packets := by
  suffices keeps : ∀ (assembly : Assembly) (insertion : Insertion) (next : Assembly),
      Laid 0 assembly.session.packets → True →
      Assembly.step assembly insertion = some next → Laid 0 next.session.packets from
    @Run.invariant_of_reached _ _ Assembly.step (fun _ _ => True)
      (fun assembly => Laid 0 assembly.session.packets) keeps (Assembly.new frameBuffer) _ _ trivial
      (Run.permitted_of_forall _ (fun _ _ _ => trivial) _) run
  intro assembly insertion next laid _ stepped
  by_cases accepts : Accepts assembly.session insertion.packet
  case neg =>
    rcases Assembly.step_refused accepts with ⟨same, refused, -, packets, -⟩
    rw [stepped] at refused
    cases refused
    rw [packets]
    exact laid
  rcases insertPacket_accepted insertion.data assembly.frameBuffer insertion.decodeErrorMode
    insertion.frameData accepts with ⟨noted, inserted⟩
  have split : packetsBefore insertion.packet.seqNum assembly.session.packets ++
      packetsAfter insertion.packet.seqNum assembly.session.packets = assembly.session.packets :=
    rdropWhile_append_rtakeWhile
  rw [← split] at laid
  rcases insertBuffer_placed assembly.frameBuffer
    (packetsBefore insertion.packet.seqNum assembly.session.packets) insertion.packet
    insertion.data (laid_append.mp laid).2.dataPtr_ne_none with ⟨buffer, placedIs⟩
  rw [placedIs] at inserted
  rw [Assembly.step_inserted inserted] at stepped
  cases stepped
  rw [updateState_packets]
  exact laid.placed insertion.packet

theorem reached_laid_wrappingInsertions :
    Laid 0 ((Run.reached Assembly.step (Assembly.new Buffer.zeros) wrappingInsertions).get
      (by decide +kernel)).session.packets :=
  reached_laid (Option.some_get _).symm

end ZyWebRtc.Video.VCMSessionInfo
