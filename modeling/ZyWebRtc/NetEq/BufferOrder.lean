import ZyWebRtc.Foundation.Run
import ZyWebRtc.NetEq.PacketOrder

namespace ZyWebRtc.NetEq.PacketBuffer

/-! What holds of the packet buffer in every run of its operations. -/

open List Packet

open Rtp (RTPHeader)

/-! ## Runs -/

inductive Operation
  | insertPacket (packet : Option Packet)
  | insertPacketList (packetList : List ListedPacket) (database : DecoderDatabase)
      (types : CurrentTypes)
  | getNextPacket
  | discardNextPacket
  | discardOldPackets (timestampLimit : UInt32)
  | flush
  deriving DecidableEq, Repr

def Operation.packets : Operation → List Packet
  | .insertPacket packet => packet.toList
  | .insertPacketList packetList _ _ => packetList.filterMap ListedPacket.packet?
  | _ => []

section

variable (packetBuffer : PacketBuffer)

def step : Operation → PacketBuffer
  | .insertPacket packet => (packetBuffer.insertPacket packet).2
  | .insertPacketList packetList database types =>
    (packetBuffer.insertPacketList packetList database types).2.2
  | .getNextPacket => packetBuffer.getNextPacket.2
  | .discardNextPacket => packetBuffer.discardNextPacket.2
  | .discardOldPackets timestampLimit => packetBuffer.discardOldPackets timestampLimit
  | .flush => packetBuffer.flush

/-- The packets are inserted one after the other, all of them without a flush. -/
def insertKept (packet : Packet) : Option PacketBuffer :=
  match packetBuffer.insertPacket (some packet) with
  | (.ok, next) => some next
  | _ => none

def nextPackets : (calls : Nat) → PacketBuffer → List (Option (Packet × Nat))
  | 0, _ => []
  | calls + 1, packetBuffer =>
    packetBuffer.getNextPacket.1 :: nextPackets calls packetBuffer.getNextPacket.2

def memoryBytes (packets : List Packet) : Nat := (packets.map Packet.payloadLength).sum

def Sorted : Prop :=
  packetBuffer.buffer.Pairwise fun earlier later => ¬ later.isBefore earlier = true

/-- The oldest timestamp of the buffer that is not older than the argument. -/
def IsNextHigher (timestamp : UInt32) : Option UInt32 → Prop
  | some answer =>
    (∃ packet ∈ packetBuffer.buffer, packet.header.timestamp = answer) ∧
      isOlder timestamp answer = false ∧
      ∀ packet ∈ packetBuffer.buffer, isOlder timestamp packet.header.timestamp = false →
        isOlder answer packet.header.timestamp = false
  | none => ∀ packet ∈ packetBuffer.buffer, isOlder timestamp packet.header.timestamp = true

def AnswersNextHigher (timestamp : UInt32) : Prop :=
  packetBuffer.IsNextHigher timestamp (packetBuffer.nextHigherTimestamp timestamp).2

/-- Two orders in which packets of the window may be inserted without a flush. -/
structure Reordered (window : Window) (packetBuffer : PacketBuffer) (first second : List Packet) :
    Prop where
  perm : first.Perm second
  inWindow : ∀ packet ∈ first, packet.InWindow window
  distinct : (packetBuffer.buffer ++ first).Pairwise fun packet other => packet.isSame other = false

/-- `GetNextPacket` returns the same after both orders. -/
def SamePackets (first second : List Packet) : Prop :=
  ∀ firstLast, Run.reached insertKept packetBuffer first = some firstLast →
    ∀ secondLast, Run.reached insertKept packetBuffer second = some secondLast →
      ∀ calls, nextPackets calls firstLast = nextPackets calls secondLast

/-- What is expected of the buffer in every state. -/
structure Expected (window : Window) (packetBuffer : PacketBuffer) : Prop where
  sorted : packetBuffer.Sorted
  room : packetBuffer.buffer.length ≤ packetBuffer.maxNumberOfPackets
  memory : packetBuffer.currentMemoryBytes = memoryBytes packetBuffer.buffer
  memoryRoom : memoryBytes packetBuffer.buffer ≤ packetBuffer.maxMemoryBytes
  orderIndependent : ∀ first second, packetBuffer.Reordered window first second →
    packetBuffer.SamePackets first second
  nextHigher : ∀ timestamp, packetBuffer.AnswersNextHigher timestamp

/-- No sync packet is put beside one of its place, and the bytes can be counted. -/
def Accepts (packet : Packet) : Prop :=
  (packetBuffer.isFull packet = true ∨ ∀ other ∈ packetBuffer.buffer, ¬ packet.SyncClash other) ∧
    packetBuffer.currentMemoryBytes + packet.payloadLength < 2 ^ 31

instance (packetBuffer : PacketBuffer) (packet : Packet) :
    Decidable (packetBuffer.Accepts packet) :=
  inferInstanceAs (Decidable ((_ ∨ _) ∧ _))

/-- This holds of all packets of a list that are inserted. -/
def AcceptsPackets (database : DecoderDatabase) :
    List ListedPacket → CurrentTypes → PacketBuffer → Prop
  | [], _, _ => True
  | packet :: packetList, types, packetBuffer =>
    let updated := updateTypes database types packet.header.payloadType
    let met := flushWhen updated.1 packetBuffer
    let inserted := met.insertPacket packet.packet?
    (∀ complete ∈ packet.packet?, met.Accepts complete) ∧
      (inserted.1 = .ok ∨ inserted.1 = .flushed →
        AcceptsPackets database packetList updated.2 inserted.2)

def decideAcceptsPackets (database : DecoderDatabase) :
    ∀ packetList types packetBuffer,
      Decidable (AcceptsPackets database packetList types packetBuffer)
  | [], _, _ => .isTrue trivial
  | _ :: packetList, _, _ =>
    have := decideAcceptsPackets database packetList
    inferInstanceAs (Decidable (_ ∧ (_ → _)))

instance (database : DecoderDatabase) (packetList : List ListedPacket) (types : CurrentTypes)
    (packetBuffer : PacketBuffer) :
    Decidable (AcceptsPackets database packetList types packetBuffer) :=
  decideAcceptsPackets database packetList types packetBuffer

def AcceptsOperation : Operation → Prop
  | .insertPacket packet => ∀ complete ∈ packet, packetBuffer.Accepts complete
  | .insertPacketList packetList database types =>
    AcceptsPackets database packetList types packetBuffer
  | _ => True

instance (packetBuffer : PacketBuffer) :
    ∀ operation, Decidable (packetBuffer.AcceptsOperation operation)
  | .insertPacket packet =>
    inferInstanceAs (Decidable (∀ complete ∈ packet, packetBuffer.Accepts complete))
  | .insertPacketList packetList database types =>
    inferInstanceAs (Decidable (AcceptsPackets database packetList types packetBuffer))
  | .getNextPacket | .discardNextPacket | .discardOldPackets _ | .flush => .isTrue trivial

/-- The first packet that is not older than the timestamp, or has no smaller timestamp, is
both. -/
def ComparesAlike (timestamp : UInt32) : Prop :=
  ∀ packet, (packetBuffer.buffer.find? fun packet =>
      packet.header.timestamp ≥ timestamp || !isOlder timestamp packet.header.timestamp) =
        some packet →
    packet.header.timestamp ≥ timestamp ∧ isOlder timestamp packet.header.timestamp = false

theorem discardNextPacket_buffer :
    packetBuffer.discardNextPacket.2.buffer = packetBuffer.buffer.tail := by
  rw [discardNextPacket]
  cases found : packetBuffer.buffer with
  | nil => exact found
  | cons front rest => rfl

theorem nextTimestamp_eq : packetBuffer.nextTimestamp.2 =
      packetBuffer.buffer.head?.map fun packet => packet.header.timestamp := by
  rw [nextTimestamp]
  cases packetBuffer.buffer <;> rfl

end

theorem discardWhile_spec (discarded : UInt32 → Bool) {remaining : Nat}
    {packetBuffer : PacketBuffer} (enough : packetBuffer.buffer.length ≤ remaining) :
    (discardWhile discarded remaining packetBuffer).1 =
        (packetBuffer.buffer.takeWhile fun packet => discarded packet.header.timestamp).length ∧
      (discardWhile discarded remaining packetBuffer).2.buffer =
        packetBuffer.buffer.dropWhile fun packet => discarded packet.header.timestamp := by
  induction remaining generalizing packetBuffer with
  | zero =>
    have empty : packetBuffer.buffer = [] := length_eq_zero_iff.mp (Nat.le_zero.mp enough)
    rw [discardWhile, empty]
    exact ⟨rfl, rfl⟩
  | succ remaining induction =>
    have tail := discardNextPacket_buffer packetBuffer
    rw [discardWhile, nextTimestamp_eq]
    cases found : packetBuffer.buffer with
    | nil => exact ⟨rfl, found⟩
    | cons front rest =>
      rw [found] at enough tail
      rw [List.head?_cons, Option.map_some]
      dsimp only
      by_cases old : discarded front.header.timestamp = true
      · have later := @induction packetBuffer.discardNextPacket.2
          (by rw [tail]; exact Nat.le_of_succ_le_succ enough)
        rw [tail, tail_cons] at later
        rw [if_pos old, takeWhile_cons, dropWhile_cons, if_pos old, if_pos old]
        exact ⟨congrArg Nat.succ later.1, later.2⟩
      · rw [if_neg old, takeWhile_cons, dropWhile_cons, if_neg old, if_neg old]
        exact ⟨rfl, found⟩

theorem getNextPacket_cons {packetBuffer : PacketBuffer} {packet : Packet} {rest : List Packet}
    (found : packetBuffer.buffer = packet :: rest) :
    packetBuffer.getNextPacket.1 = some (packet, (rest.takeWhile fun other =>
        other.header.timestamp = packet.header.timestamp).length) ∧
      packetBuffer.getNextPacket.2.buffer = rest.dropWhile fun other =>
        other.header.timestamp = packet.header.timestamp := by
  have discarded := discardWhile_spec (fun timestamp => timestamp = packet.header.timestamp)
    (show (packetBuffer.popFront packet rest).buffer.length ≤ rest.length from le_rfl)
  rw [getNextPacket, found]
  exact ⟨congrArg some (congrArg (Prod.mk packet) discarded.1), discarded.2⟩

theorem getNextPacket_nil {packetBuffer : PacketBuffer} (empty : packetBuffer.buffer = []) :
    packetBuffer.getNextPacket = (none, packetBuffer) := by
  rw [getNextPacket, empty]

theorem nextPackets_congr {first second : PacketBuffer} (same : first.buffer = second.buffer)
    (calls : Nat) : nextPackets calls first = nextPackets calls second := by
  induction calls generalizing first second with
  | zero => rfl
  | succ calls induction =>
    rw [nextPackets, nextPackets]
    cases found : first.buffer with
    | nil =>
      rw [getNextPacket_nil found, getNextPacket_nil (same.symm.trans found)]
      exact congrArg _ (induction same)
    | cons packet rest =>
      have one := getNextPacket_cons found
      have other := getNextPacket_cons (same.symm.trans found)
      rw [one.1, other.1, induction (one.2.trans other.2.symm)]

/-- Packets of the window in their order. -/
structure Ordered (window : Window) (packets : List Packet) : Prop where
  inWindow : ∀ packet ∈ packets, packet.InWindow window
  sorted : packets.Pairwise fun earlier later => earlier.position window ≤ later.position window
  apart : packets.Pairwise fun packet other => ¬ packet.SyncClash other

section

variable {window : Window} {packets : List Packet}

theorem Ordered.nil : Ordered window [] :=
  ⟨fun _ member => (not_mem_nil member).elim, List.Pairwise.nil, List.Pairwise.nil⟩

theorem Ordered.sublist (ordered : Ordered window packets) {rest : List Packet}
    (sublist : rest.Sublist packets) : Ordered window rest where
  inWindow packet member := ordered.inWindow packet (sublist.mem member)
  sorted := ordered.sorted.sublist sublist
  apart := ordered.apart.sublist sublist

theorem not_syncClash_symm {packet other : Packet} (apart : ¬ packet.SyncClash other) :
    ¬ other.SyncClash packet :=
  fun clash => apart clash.symm

instance : Std.Symm fun packet other : Packet => ¬ packet.SyncClash other :=
  ⟨fun _ _ => not_syncClash_symm⟩

theorem Ordered.insert (ordered : Ordered window packets) {packet : Packet}
    (packetIn : packet.InWindow window) (free : ∀ other ∈ packets, ¬ packet.SyncClash other) :
    Ordered window (insertFromBack isBefore packet packets) where
  inWindow other member := by
    rcases mem_insertFromBack.mp member with rfl | old
    · exact packetIn
    · exact ordered.inWindow other old
  sorted := by
    apply insertFromBack_sorted _ ordered.sorted
    intro other member
    exact isBefore_iff_position packetIn (ordered.inWindow other member) (free other member)
  apart := by
    apply (insertFromBack_perm.pairwise_iff not_syncClash_symm).mpr
    exact pairwise_cons.mpr ⟨free, ordered.apart⟩

theorem Ordered.not_isBefore (ordered : Ordered window packets) :
    packets.Pairwise fun earlier later => ¬ later.isBefore earlier = true := by
  apply (pairwise_and_iff.mpr ⟨ordered.sorted, ordered.apart⟩).imp_of_mem
  rintro earlier later earlierIn laterIn ⟨inOrder, apart⟩ before
  have byPosition := isBefore_iff_position (ordered.inWindow later laterIn)
    (ordered.inWindow earlier earlierIn) (not_syncClash_symm apart)
  exact absurd (byPosition.mp before) (Nat.not_lt.mpr inOrder)

theorem isOlder_of_position {earlier later : Packet} (earlierIn : earlier.InWindow window)
    (laterIn : later.InWindow window)
    (inOrder : earlier.position window ≤ later.position window) :
    isOlder earlier.header.timestamp later.header.timestamp = false ∧
      (earlier.header.timestamp ≠ later.header.timestamp →
        isOlder later.header.timestamp earlier.header.timestamp = true) := by
  have ranks := And.intro earlier.rank_lt later.rank_lt
  have bounds := And.intro
    (earlier.header.sequenceNumber - window.sequenceBase earlier.header.timestamp).toNat_lt
    (later.header.sequenceNumber - window.sequenceBase later.header.timestamp).toNat_lt
  rw [Packet.position, Packet.position] at inOrder
  by_cases same : earlier.header.timestamp = later.header.timestamp
  · refine ⟨?_, fun different => absurd same different⟩
    rw [isOlder, same]
    simp
  · have offsets := timestamp_before_iff earlierIn.1 laterIn.1 same
    have reverse := timestamp_before_iff laterIn.1 earlierIn.1 (Ne.symm same)
    have differ := offset_ne window.timestampBase same
    constructor
    · rw [isOlder, Bool.and_eq_false_iff, decide_eq_false_iff_not, decide_eq_false_iff_not, reverse]
      omega
    · intro _
      rw [isOlder, Bool.and_eq_true, decide_eq_true_eq, decide_eq_true_eq, offsets]
      refine ⟨Ne.symm same, ?_⟩
      omega

end

/-! ## The next higher timestamp -/

section

variable {window : Window} {packetBuffer : PacketBuffer}

theorem nextHigherTimestamp_eq (packetBuffer : PacketBuffer) (timestamp : UInt32) :
    (packetBuffer.nextHigherTimestamp timestamp).2 =
      (packetBuffer.buffer.find? fun packet => packet.header.timestamp ≥ timestamp).map fun packet =>
        packet.header.timestamp := by
  rw [nextHigherTimestamp]
  cases found : packetBuffer.buffer with
  | nil => rfl
  | cons front rest =>
    rw [if_neg (by simp)]
    cases (front :: rest).find? fun packet => packet.header.timestamp ≥ timestamp <;> rfl

/-- The numeric comparison finds the right timestamp exactly when it agrees with the age on
the first packet that either of them finds. -/
theorem answersNextHigher_iff (ordered : Ordered window packetBuffer.buffer) (timestamp : UInt32) :
    packetBuffer.AnswersNextHigher timestamp ↔ packetBuffer.ComparesAlike timestamp := by
  rw [AnswersNextHigher, nextHigherTimestamp_eq, ComparesAlike]
  cases first : packetBuffer.buffer.find? fun packet =>
      packet.header.timestamp ≥ timestamp || !isOlder timestamp packet.header.timestamp with
  | none =>
    rw [List.find?_eq_none] at first
    have missing : (packetBuffer.buffer.find? fun packet =>
        packet.header.timestamp ≥ timestamp) = none := by
      rw [List.find?_eq_none]
      intro packet member larger
      exact first packet member (by rw [larger]; rfl)
    rw [missing]
    apply iff_of_true
    · intro packet member
      have neither := first packet member
      rw [Bool.or_eq_true, not_or] at neither
      simpa using neither.2
    · intro packet absent
      cases absent
  | some packet =>
    rcases List.find?_eq_some_iff_append.mp first with ⟨either, before, after, parts, earlier⟩
    have smaller : ∀ other ∈ before, ¬ other.header.timestamp ≥ timestamp ∧
        isOlder timestamp other.header.timestamp = true := by
      intro other member
      have neither := earlier other member
      rw [Bool.not_eq_true', Bool.or_eq_false_iff] at neither
      exact ⟨by simpa using neither.1, by simpa using neither.2⟩
    have packetIn : packet ∈ packetBuffer.buffer := by
      rw [parts]
      exact mem_append_right _ mem_cons_self
    have behind : ∀ other ∈ after, other ∈ packetBuffer.buffer ∧
        packet.position window ≤ other.position window := by
      intro other member
      have sorted := ordered.sorted
      rw [parts, pairwise_append, pairwise_cons] at sorted
      refine ⟨?_, sorted.2.1.1 other member⟩
      rw [parts]
      exact mem_append_right _ (mem_cons_of_mem _ member)
    constructor
    · intro answers same samePacket
      cases samePacket
      by_cases larger : packet.header.timestamp ≥ timestamp
      · have found : (packetBuffer.buffer.find? fun packet =>
            packet.header.timestamp ≥ timestamp) = some packet := by
          rw [List.find?_eq_some_iff_append]
          refine ⟨by simpa using larger, before, after, parts, fun other member => ?_⟩
          simpa using (smaller other member).1
        rw [found] at answers
        exact ⟨larger, answers.2.1⟩
      · -- the code passes over a packet that is not older
        have recent : isOlder timestamp packet.header.timestamp = false := by
          simpa [larger] using either
        cases found : packetBuffer.buffer.find? fun packet =>
            packet.header.timestamp ≥ timestamp with
        | none =>
          rw [found] at answers
          have old : isOlder timestamp packet.header.timestamp = true := answers packet packetIn
          rw [recent] at old
          cases old
        | some other =>
          rw [found] at answers
          have otherLarger : other.header.timestamp ≥ timestamp := by
            simpa using List.find?_some found
          have notOlder := answers.2.2 packet packetIn recent
          have different : packet.header.timestamp ≠ other.header.timestamp := by
            intro sameTimestamp
            exact larger (sameTimestamp ▸ otherLarger)
          have member := List.mem_of_find?_eq_some found
          rw [parts, mem_append, mem_cons] at member
          rcases member with inFront | rfl | later
          · exact absurd otherLarger (smaller other inFront).1
          · exact absurd rfl different
          · have older := (isOlder_of_position (ordered.inWindow packet packetIn)
              (ordered.inWindow other (behind other later).1) (behind other later).2).2 different
            rw [older] at notOlder
            cases notOlder
    · intro alike
      rcases alike packet rfl with ⟨larger, recent⟩
      have found : (packetBuffer.buffer.find? fun packet =>
          packet.header.timestamp ≥ timestamp) = some packet := by
        rw [List.find?_eq_some_iff_append]
        refine ⟨by simpa using larger, before, after, parts, fun other member => ?_⟩
        simpa using (smaller other member).1
      rw [found]
      refine ⟨⟨packet, packetIn, rfl⟩, recent, fun other member otherRecent => ?_⟩
      rw [parts, mem_append, mem_cons] at member
      rcases member with inFront | rfl | later
      · rw [(smaller other inFront).2] at otherRecent
        cases otherRecent
      · exact (isOlder_of_position (ordered.inWindow other packetIn)
          (ordered.inWindow other packetIn) le_rfl).1
      · exact (isOlder_of_position (ordered.inWindow packet packetIn)
          (ordered.inWindow other (behind other later).1) (behind other later).2).1

end

/-! ## The order of the insertions -/

section

variable {window : Window}

theorem insertKept_buffer {packetBuffer next : PacketBuffer} {packet : Packet}
    (kept : insertKept packetBuffer packet = some next) :
    next.buffer = insertFromBack isBefore packet packetBuffer.buffer := by
  rw [insertKept, insertPacket] at kept
  by_cases full : packetBuffer.isFull packet = true
  · rw [if_pos full] at kept
    split at kept
    · rename_i inserted
      split at inserted
      · cases inserted
      · cases inserted
    · cases kept
  · rw [if_neg full] at kept
    cases kept
    rfl

theorem reached_insertKept {packetBuffer last : PacketBuffer} {packets : List Packet}
    (run : Run.reached insertKept packetBuffer packets = some last)
    (ordered : Ordered window packetBuffer.buffer)
    (inWindow : ∀ packet ∈ packets, packet.InWindow window)
    (apart : (packetBuffer.buffer ++ packets).Pairwise fun packet other =>
      ¬ packet.SyncClash other) :
    last.buffer.Perm (packetBuffer.buffer ++ packets) ∧ Ordered window last.buffer := by
  induction packets generalizing packetBuffer with
  | nil =>
    cases run
    rw [append_nil]
    exact ⟨List.Perm.refl _, ordered⟩
  | cons packet rest induction =>
    simp only [Run.reached, Option.bind_eq_bind, Option.bind_eq_some_iff] at run
    rcases run with ⟨next, kept, onwards⟩
    have inserted := insertKept_buffer kept
    have moved : (next.buffer ++ rest).Perm (packetBuffer.buffer ++ packet :: rest) := by
      rw [inserted]
      exact (insertFromBack_perm.append_right rest).trans perm_middle.symm
    have free : ∀ other ∈ packetBuffer.buffer, ¬ packet.SyncClash other := by
      intro other member
      rw [pairwise_append] at apart
      exact not_syncClash_symm (apart.2.2 other member packet mem_cons_self)
    have nextOrdered := ordered.insert (inWindow packet mem_cons_self) free
    rw [← inserted] at nextOrdered
    rcases induction onwards nextOrdered
      (fun other member => inWindow other (mem_cons_of_mem _ member))
      ((moved.pairwise_iff not_syncClash_symm).mpr apart) with ⟨perm, lastOrdered⟩
    exact ⟨perm.trans moved, lastOrdered⟩

theorem isSame_symm {packet other : Packet} (different : packet.isSame other = false) :
    other.isSame packet = false := by
  rw [isSame, decide_eq_false_iff_not] at different ⊢
  rintro ⟨timestamp, sequence, primary, sync⟩
  exact different ⟨timestamp.symm, sequence.symm, primary.symm, sync.symm⟩

instance : Std.Symm fun packet other : Packet => packet.isSame other = false :=
  ⟨fun _ _ => isSame_symm⟩

theorem samePackets_of_reordered {packetBuffer : PacketBuffer} {first second : List Packet}
    (ordered : Ordered window packetBuffer.buffer)
    (reordered : packetBuffer.Reordered window first second)
    (apart : (packetBuffer.buffer ++ first).Pairwise fun packet other =>
      ¬ packet.SyncClash other) : packetBuffer.SamePackets first second := by
  intro firstLast firstRun secondLast secondRun calls
  have perm := reordered.perm.append_left packetBuffer.buffer
  rcases reached_insertKept firstRun ordered reordered.inWindow apart with ⟨firstPerm, firstOrdered⟩
  rcases reached_insertKept secondRun ordered
    (fun packet member => reordered.inWindow packet (reordered.perm.mem_iff.mpr member))
    ((perm.pairwise_iff not_syncClash_symm).mp apart) with ⟨secondPerm, secondOrdered⟩
  apply nextPackets_congr
  apply eq_of_perm_of_sorted ((firstPerm.trans perm).trans secondPerm.symm) firstOrdered.sorted
    secondOrdered.sorted
  intro one oneIn other otherIn samePosition
  by_contra different
  have distinct := (firstPerm.pairwise_iff isSame_symm).mpr reordered.distinct
  have oneApart := firstOrdered.apart.forall oneIn otherIn different
  have oneDistinct := distinct.forall oneIn otherIn different
  rw [isSame_of_position oneApart samePosition] at oneDistinct
  cases oneDistinct

end

end ZyWebRtc.NetEq.PacketBuffer
