import ZyWebRtc.NetEq.BufferOrder

namespace ZyWebRtc.NetEq.PacketBuffer

/-! The packet buffer in all runs: its order, its bounds and its count of bytes. -/

open Rtp (RTPHeader)

theorem toInt32_of_bounds {number : Int} (below : 0 ≤ number) (above : number < 2 ^ 31) :
    toInt32 number = number := by
  rw [toInt32]
  apply Int.bmod_eq_of_le <;> omega

theorem toInt32_bounds {number : Int} (below : 0 ≤ number) :
    toInt32 number ≤ number ∧ toInt32 number < 2 ^ 31 := by
  rw [toInt32, Int.bmod_def]
  split <;> omega

@[simp] theorem memoryBytes_cons (packet : Packet) (packets : List Packet) :
    memoryBytes (packet :: packets) = packet.payloadLength + memoryBytes packets := by
  rw [memoryBytes, memoryBytes, List.map_cons, List.sum_cons]

theorem memoryBytes_insert (packet : Packet) (packets : List Packet) :
    memoryBytes (insertFromBack Packet.isBefore packet packets) =
      packet.payloadLength + memoryBytes packets := by
  rw [← memoryBytes_cons, memoryBytes, memoryBytes]
  exact (insertFromBack_perm.map _).sum_eq

/-! ## The invariant -/

/-- The `int` that the memory is compared with, when it allows anything. -/
def memoryLimit (packetBuffer : PacketBuffer) : Int := max (toInt32 packetBuffer.maxMemoryBytes) 0

structure Kept (window : Window) (packetBuffer : PacketBuffer) : Prop where
  ordered : Ordered window packetBuffer.buffer
  room : packetBuffer.buffer.length ≤ packetBuffer.maxNumberOfPackets
  memory : packetBuffer.currentMemoryBytes = memoryBytes packetBuffer.buffer
  memoryRoom : memoryBytes packetBuffer.buffer ≤ packetBuffer.memoryLimit

theorem memoryLimit_bounds (packetBuffer : PacketBuffer) :
    0 ≤ packetBuffer.memoryLimit ∧ packetBuffer.memoryLimit ≤ packetBuffer.maxMemoryBytes ∧
      packetBuffer.memoryLimit < 2 ^ 31 := by
  have bounds := toInt32_bounds (Int.natCast_nonneg packetBuffer.maxMemoryBytes)
  rw [memoryLimit]
  omega

section

variable {window : Window} {packetBuffer : PacketBuffer}

theorem Kept.empty (packetBuffer : PacketBuffer) : Kept window packetBuffer.flush where
  ordered := .nil
  room := Nat.zero_le _
  memory := rfl
  memoryRoom := packetBuffer.flush.memoryLimit_bounds.1

theorem Kept.place (kept : Kept window packetBuffer) {packet : Packet}
    (packetIn : packet.InWindow window)
    (free : ∀ other ∈ packetBuffer.buffer, ¬ packet.SyncClash other)
    (counted : packetBuffer.currentMemoryBytes + packet.payloadLength < 2 ^ 31)
    (fits : packetBuffer.isFull packet = false) : Kept window (packetBuffer.place packet) := by
  rw [isFull, Bool.or_eq_false_iff, decide_eq_false_iff_not, decide_eq_false_iff_not] at fits
  have total : toInt32 (packetBuffer.currentMemoryBytes + packet.payloadLength) =
      packetBuffer.currentMemoryBytes + packet.payloadLength := by
    apply toInt32_of_bounds _ counted
    rw [kept.memory]
    omega
  rw [total] at fits
  have memory := kept.memory
  refine ⟨kept.ordered.insert packetIn free, ?_, ?_, ?_⟩
  · change (insertFromBack _ _ _).length ≤ packetBuffer.maxNumberOfPackets
    rw [insertFromBack_perm.length_eq, List.length_cons]
    omega
  · change toInt32 _ = ((memoryBytes (insertFromBack _ _ _) : Nat) : Int)
    rw [total, memoryBytes_insert]
    omega
  · change ((memoryBytes (insertFromBack _ _ _) : Nat) : Int) ≤ packetBuffer.memoryLimit
    rw [memoryBytes_insert, memoryLimit]
    omega

theorem Kept.insertPacket (kept : Kept window packetBuffer) {packet : Option Packet}
    (packetIn : ∀ complete ∈ packet, complete.InWindow window)
    (accepts : ∀ complete ∈ packet, packetBuffer.Accepts complete) :
    Kept window (packetBuffer.insertPacket packet).2 := by
  cases packet with
  | none => exact kept
  | some packet =>
    rcases accepts packet rfl with ⟨free, counted⟩
    have inside := packetIn packet rfl
    rw [PacketBuffer.insertPacket]
    by_cases full : packetBuffer.isFull packet = true
    · rw [if_pos full]
      by_cases oversize : packetBuffer.flush.isFull packet = true
      · rw [if_pos oversize]
        exact .empty packetBuffer
      · rw [if_neg oversize]
        apply (Kept.empty packetBuffer).place inside
          (fun _ member => (List.not_mem_nil member).elim) _ (Bool.eq_false_iff.mpr oversize)
        have memory := kept.memory
        change 0 + (packet.payloadLength : Int) < 2 ^ 31
        omega
    · rw [if_neg full]
      exact kept.place inside (free.resolve_left full) counted (Bool.eq_false_iff.mpr full)

theorem Kept.insertPacketsFrom (database : DecoderDatabase) {packetList : List ListedPacket}
    {types : CurrentTypes} (flushed : Bool) (kept : Kept window packetBuffer)
    (packetsIn : ∀ packet ∈ packetList.filterMap ListedPacket.packet?, packet.InWindow window)
    (accepts : AcceptsPackets database packetList types packetBuffer) :
    Kept window (PacketBuffer.insertPacketsFrom database packetList flushed types
      packetBuffer).2.2 := by
  induction packetList generalizing flushed types packetBuffer with
  | nil => exact kept
  | cons packet packetList induction =>
    rcases accepts with ⟨now, later⟩
    have met : Kept window (flushWhen
        (updateTypes database types packet.header.payloadType).1 packetBuffer) := by
      rw [flushWhen]
      split
      · exact .empty packetBuffer
      · exact kept
    have inside : ∀ complete ∈ packet.packet?, complete.InWindow window := by
      intro complete same
      apply packetsIn complete
      exact List.mem_filterMap.mpr ⟨packet, List.mem_cons_self, same⟩
    have rest : ∀ complete ∈ packetList.filterMap ListedPacket.packet?,
        complete.InWindow window := by
      intro complete member
      rcases List.mem_filterMap.mp member with ⟨other, otherIn, same⟩
      exact packetsIn complete
        (List.mem_filterMap.mpr ⟨other, List.mem_cons_of_mem _ otherIn, same⟩)
    have inserted := met.insertPacket inside now
    rw [PacketBuffer.insertPacketsFrom]
    split
    · rename_i code
      exact induction true inserted rest (later (.inr code))
    · rename_i code
      exact induction _ inserted rest (later (.inl code))
    · exact inserted

theorem Kept.popFront (kept : Kept window packetBuffer) {front : Packet} {rest : List Packet}
    (found : packetBuffer.buffer = front :: rest) :
    Kept window (packetBuffer.popFront front rest) := by
  have room := kept.room
  have memory := kept.memory
  have memoryRoom := kept.memoryRoom
  have limit := packetBuffer.memoryLimit_bounds
  rw [found, memoryBytes_cons] at memory memoryRoom
  rw [found, List.length_cons] at room
  refine ⟨kept.ordered.sublist ?_, ?_, ?_, ?_⟩
  · rw [found]
    exact List.sublist_cons_self front rest
  · change rest.length ≤ packetBuffer.maxNumberOfPackets
    omega
  · change toInt32 (packetBuffer.currentMemoryBytes - front.payloadLength) = _
    rw [memory, toInt32_of_bounds (by omega) (by omega)]
    change _ = ((memoryBytes rest : Nat) : Int)
    omega
  · change ((memoryBytes rest : Nat) : Int) ≤ packetBuffer.memoryLimit
    omega

theorem Kept.discardNextPacket (kept : Kept window packetBuffer) :
    Kept window packetBuffer.discardNextPacket.2 := by
  rw [PacketBuffer.discardNextPacket]
  cases found : packetBuffer.buffer with
  | nil => exact kept
  | cons front rest => exact kept.popFront found

theorem Kept.discardWhile (discarded : UInt32 → Bool) (remaining : Nat)
    (kept : Kept window packetBuffer) :
    Kept window (PacketBuffer.discardWhile discarded remaining packetBuffer).2 := by
  induction remaining generalizing packetBuffer with
  | zero => exact kept
  | succ remaining induction =>
    rw [PacketBuffer.discardWhile]
    split
    · exact kept
    split
    · exact induction kept.discardNextPacket
    · exact kept

theorem Kept.getNextPacket (kept : Kept window packetBuffer) :
    Kept window packetBuffer.getNextPacket.2 := by
  rw [PacketBuffer.getNextPacket]
  cases found : packetBuffer.buffer with
  | nil => exact kept
  | cons packet rest => exact (kept.popFront found).discardWhile _ _

theorem Kept.step (kept : Kept window packetBuffer) {operation : Operation}
    (packetsIn : ∀ packet ∈ operation.packets, packet.InWindow window)
    (accepts : packetBuffer.AcceptsOperation operation) :
    Kept window (packetBuffer.step operation) := by
  cases operation with
  | insertPacket packet =>
    apply kept.insertPacket _ accepts
    intro complete same
    exact packetsIn complete (Option.mem_toList.mpr same)
  | insertPacketList packetList database types =>
    exact kept.insertPacketsFrom database false packetsIn accepts
  | getNextPacket => exact kept.getNextPacket
  | discardNextPacket => exact kept.discardNextPacket
  | discardOldPackets timestampLimit => exact kept.discardWhile _ _
  | flush => exact .empty packetBuffer

end

/-- What holds of the buffer in every state. -/
structure Holds (window : Window) (packetBuffer : PacketBuffer) : Prop where
  sorted : packetBuffer.Sorted
  room : packetBuffer.buffer.length ≤ packetBuffer.maxNumberOfPackets
  memory : packetBuffer.currentMemoryBytes = memoryBytes packetBuffer.buffer
  memoryRoom : memoryBytes packetBuffer.buffer ≤ packetBuffer.maxMemoryBytes
  orderIndependent : ∀ first second, packetBuffer.Reordered window first second →
    ((packetBuffer.buffer ++ first).Pairwise fun packet other => ¬ packet.SyncClash other) →
    packetBuffer.SamePackets first second
  nextHigher : ∀ timestamp,
    packetBuffer.AnswersNextHigher timestamp ↔ packetBuffer.ComparesAlike timestamp

theorem Kept.holds {window : Window} {packetBuffer : PacketBuffer}
    (kept : Kept window packetBuffer) : Holds window packetBuffer where
  sorted := kept.ordered.not_isBefore
  room := kept.room
  memory := kept.memory
  memoryRoom := by
    have memoryRoom := kept.memoryRoom
    have limit := packetBuffer.memoryLimit_bounds
    omega
  orderIndependent _ _ reordered apart := samePackets_of_reordered kept.ordered reordered apart
  nextHigher := answersNextHigher_iff kept.ordered

/-- Runs on packets of a window that put no two sync packets of one place beside each other. -/
theorem holds_throughout (window : Window) (maxNumberOfPackets maxMemoryBytes : Nat)
    {operations : List Operation}
    (packetsIn : ∀ operation ∈ operations, ∀ packet ∈ operation.packets, packet.InWindow window)
    (accepts : Run.Allowed step AcceptsOperation (new maxNumberOfPackets maxMemoryBytes) operations)
    (count : Nat) :
    Holds window
      (Run.final step (new maxNumberOfPackets maxMemoryBytes) (operations.take count)) := by
  apply Kept.holds
  apply Run.invariant_final step _ (Kept.empty (new maxNumberOfPackets maxMemoryBytes))
    (Run.allowed_take step (Run.allowed_and step packetsIn accepts) count)
  rintro packetBuffer operation kept ⟨inside, accepted⟩
  exact kept.step inside accepted

def samplePacket (timestamp : UInt32) (sequenceNumber : UInt16) (payload : Bytes)
    (syncPacket : Bool) : Packet where
  header := {
    markerBit := false, payloadType := 0, sequenceNumber, timestamp, ssrc := 7, numCSRCs := 0
    arrOfCSRCs := Vector.replicate _ 0, paddingLength := 0, headerLength := 12
    extension := { transmissionTimeOffset := 0, absoluteSendTime := 0 } }
  payload
  primary := true
  waitingTime := 0
  syncPacket

def sampleWindow : Window where
  timestampBase := 0xFFFFFFF0
  sequenceBase _ := 0

/-- A sync packet, the packet it stands for, and one after the wrap of the timestamps. -/
def wrappingOperations : List Operation :=
  [.insertPacket (some (samplePacket 0x10 2 [1, 2] false)),
    .insertPacket (some (samplePacket 0xFFFFFFF0 1 [] true)),
    .insertPacketList [.complete (samplePacket 0xFFFFFFF0 1 [3] false)] { decoders := [] }
      { rtp := 0, cngRtp := 0xFF },
    .getNextPacket]

theorem holds_throughout_wrapping :
    Holds sampleWindow (Run.final step (new 3 100) (wrappingOperations.take 3)) :=
  holds_throughout sampleWindow 3 100 (by decide) (by decide) 3

/-- The packet after the wrap is not found from a timestamp before it. -/
theorem not_expected_wrapped :
    ¬ ∀ (window : Window) (maxNumberOfPackets maxMemoryBytes : Nat) (operations : List Operation),
      (∀ operation ∈ operations, ∀ packet ∈ operation.packets, packet.InWindow window) →
      ∀ count, Expected window
        (Run.final step (new maxNumberOfPackets maxMemoryBytes) (operations.take count)) := by
  intro always
  have expected := always sampleWindow 3 100
    [.insertPacket (some (samplePacket 0xFFFFFFF0 1 [3] false)),
      .insertPacket (some (samplePacket 0x10 2 [1, 2] false))] (by decide) 2
  have answers := expected.nextHigher 0xFFFFFFF8
  have missed : isOlder 0xFFFFFFF8 0x10 = true :=
    answers (samplePacket 0x10 2 [1, 2] false) (by decide)
  exact absurd missed (by decide)

end ZyWebRtc.NetEq.PacketBuffer
