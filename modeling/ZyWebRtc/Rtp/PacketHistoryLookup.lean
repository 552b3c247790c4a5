import ZyWebRtc.Foundation.Run
import ZyWebRtc.Rtp.PacketHistory
import ZyWebRtc.Rtp.RtxPacket

namespace ZyWebRtc.Rtp

/-! A packet history against the list of all packets that were stored: a lookup finds the packet
with the number among the last ones, as many as there are slots. -/

open List RTPPacketHistory

/-- A stored packet, with the time of its last retransmission. -/
structure StoredPacket where
  packet : HistoryPacket
  time : Int
  resendTime : Int
  type : StorageType
  deriving DecidableEq, Repr

/-- All packets that were stored, the last one first, and the largest size that was announced. -/
structure StoredPackets where
  maxPacketLength : UInt16
  packets : List StoredPacket
  deriving DecidableEq, Repr

namespace StoredPackets

def empty : StoredPackets where
  maxPacketLength := 0
  packets := []

def resent (sequenceNumber : UInt16) (now : Int) (entry : StoredPacket) : StoredPacket :=
  if entry.packet.seqNum = sequenceNumber then { entry with resendTime := now } else entry

@[simp] theorem resent_packet (sequenceNumber : UInt16) (now : Int) (entry : StoredPacket) :
    (resent sequenceNumber now entry).packet = entry.packet := by
  rw [resent]
  split <;> rfl

def announce (maxPacketLength : UInt16) (stored : StoredPackets) : StoredPackets :=
  if maxPacketLength ≤ stored.maxPacketLength then stored
  else { stored with maxPacketLength }

def step (stored : StoredPackets) : HistoryEvent → StoredPackets
  | .put packet maxPacketLength captureTime now type =>
    if type = .kDontStore then stored
    else
      let stored := stored.announce maxPacketLength
      if stored.maxPacketLength < packet.length then stored
      else
        { stored with
          packets :=
            { packet, time := if 0 < captureTime then captureTime else now, resendTime := 0,
              type } :: stored.packets }
  | .updateResendTime sequenceNumber now =>
    { stored with packets := stored.packets.map (resent sequenceNumber now) }

/-- The last packet with the number, if it is one of the last ones. -/
def lookup (numberToStore : Nat) (sequenceNumber : UInt16) (stored : StoredPackets) :
    Option StoredPacket :=
  (stored.packets.take numberToStore).find? fun entry => entry.packet.seqNum = sequenceNumber

def Fresh (numberToStore : Nat) (stored : StoredPackets) : HistoryEvent → Prop
  | .put packet _ _ _ _ =>
    packet.seqNum ∉ (stored.packets.take (numberToStore - 1)).map fun entry => entry.packet.seqNum
  | .updateResendTime _ _ => True

instance (numberToStore : Nat) (stored : StoredPackets) :
    (event : HistoryEvent) → Decidable (Fresh numberToStore stored event)
  | .put _ _ _ _ _ => inferInstanceAs (Decidable (_ ∉ _))
  | .updateResendTime _ _ => inferInstanceAs (Decidable True)

end StoredPackets

/-- The packet with its bytes and its length, when the buffer has room for it and it was not
resent too recently. -/
def StoredPacket.retrieved (minElapsedTime : UInt32) (packetLength : UInt16) (now : Int)
    (entry : StoredPacket) : Retrieved :=
  if packetLength < entry.packet.length then .failed
  else if 0 < minElapsedTime ∧ now - entry.resendTime < minElapsedTime.toNat then
    .recentlyResent
  else .copied entry.packet.bytes entry.time entry.type

/-! ## The slots of the last packets -/

section Slots

variable {numberToStore : Nat}

def RTPPacketHistory.slotOf (history : RTPPacketHistory numberToStore) (age : Nat) :
    Fin numberToStore :=
  ⟨if age < history.prevIndex.val then history.prevIndex.val - 1 - age
    else history.prevIndex.val + numberToStore - 1 - age, by
    have inside := history.prevIndex.isLt
    split <;> omega⟩

/-- The slot holds the packet. -/
structure HistorySlot.Holds (slot : HistorySlot) (entry : StoredPacket) : Prop where
  packet : slot.storedPacket.take entry.packet.bytes.length = entry.packet.bytes
  seqNum : slot.storedSeqNum = entry.packet.seqNum
  length : slot.storedLength = entry.packet.length
  time : slot.storedTime = entry.time
  resendTime : slot.storedResendTime = entry.resendTime
  type : slot.storedType = entry.type

/-- No packet was written to the slot. -/
def HistorySlot.Unwritten (slot : HistorySlot) : Prop :=
  slot.storedLength = 0 ∧ slot.storedSeqNum = 0

/-- The slots of a history hold the last packets. -/
structure Represents (history : RTPPacketHistory numberToStore) (stored : StoredPackets) :
    Prop where
  limit : history.maxPacketLength = stored.maxPacketLength
  fits : ∀ entry ∈ stored.packets, entry.packet.length ≤ stored.maxPacketLength
  written : ∀ age entry, age < numberToStore → stored.packets[age]? = some entry →
    (history.slots (history.slotOf age)).Holds entry
  unwritten : ∀ index : Fin numberToStore, stored.packets.length ≤ index.val →
    (history.slots index).Unwritten
  prevIndex : stored.packets.length < numberToStore → history.prevIndex.val = stored.packets.length
  distinct : ((stored.packets.take numberToStore).map fun entry => entry.packet.seqNum).Nodup

variable {history : RTPPacketHistory numberToStore} {stored : StoredPackets}
  {sequenceNumber : UInt16}

theorem represents_allocate [NeZero numberToStore] :
    Represents (RTPPacketHistory.allocate : RTPPacketHistory numberToStore) .empty where
  limit := rfl
  fits := nofun
  written := nofun
  unwritten := fun _ _ => ⟨rfl, rfl⟩
  prevIndex := fun _ => rfl
  distinct := by
    rw [StoredPackets.empty, take_nil]
    exact nodup_nil

theorem RTPPacketHistory.exists_slotOf (history : RTPPacketHistory numberToStore)
    (index : Fin numberToStore) :
    ∃ age < numberToStore, history.slotOf age = index ∧
      (index.val < history.prevIndex.val → age < history.prevIndex.val) := by
  have nextInside := history.prevIndex.isLt
  have inside := index.isLt
  by_cases before : index.val < history.prevIndex.val
  · refine ⟨history.prevIndex.val - 1 - index.val, by omega, Fin.ext ?_, fun _ => by omega⟩
    rw [slotOf]
    simp only
    split <;> omega
  · refine ⟨history.prevIndex.val + numberToStore - 1 - index.val, by omega, Fin.ext ?_,
      fun isBefore => absurd isBefore before⟩
    rw [slotOf]
    simp only
    split <;> omega

variable (represents : Represents history stored)

include represents

theorem Represents.slot_cases (index : Fin numberToStore) :
    (∃ age entry, age < numberToStore ∧ stored.packets[age]? = some entry ∧
      history.slotOf age = index) ∨ stored.packets.length ≤ index.val := by
  by_cases outside : stored.packets.length ≤ index.val
  · exact .inr outside
  · rcases history.exists_slotOf index with ⟨age, recent, same, before⟩
    have counted : age < stored.packets.length := by
      have next := represents.prevIndex
      omega
    exact .inl ⟨age, _, recent, List.getElem?_eq_getElem counted, same⟩

theorem Represents.same_of_number {first second : StoredPacket} {firstAge secondAge : Nat}
    (firstRecent : firstAge < numberToStore)
    (secondRecent : secondAge < numberToStore)
    (firstThere : stored.packets[firstAge]? = some first)
    (secondThere : stored.packets[secondAge]? = some second)
    (same : first.packet.seqNum = second.packet.seqNum) : firstAge = secondAge := by
  have number {age : Nat} {entry : StoredPacket} (recent : age < numberToStore)
      (there : stored.packets[age]? = some entry) :
      ((stored.packets.take numberToStore).map fun entry => entry.packet.seqNum)[age]? =
        some entry.packet.seqNum := by
    rw [List.getElem?_map, List.getElem?_take_of_lt recent, there]
    rfl
  have firstNumber := number firstRecent firstThere
  have secondNumber := number secondRecent secondThere
  rw [← same, ← firstNumber] at secondNumber
  exact (List.getElem?_inj (List.getElem?_eq_some_iff.mp firstNumber).1
    represents.distinct).mp secondNumber.symm

theorem Represents.found_eq {entry : StoredPacket}
    {age : Nat} (recent : age < numberToStore) (there : stored.packets[age]? = some entry)
    {found : Fin numberToStore}
    (number : (history.slots found).storedSeqNum = entry.packet.seqNum)
    (result : history.findSeqNum entry.packet.seqNum = some found ∨
      history.searchAll entry.packet.seqNum = some found) :
    found = history.slotOf age := by
  rcases represents.slot_cases found with ⟨other, held, otherRecent, otherThere, same⟩ | behind
  · have holds := represents.written other held otherRecent otherThere
    rw [same] at holds
    have ages := represents.same_of_number otherRecent recent otherThere there
      (holds.seqNum.symm.trans number)
    rw [← same, ages]
  · exfalso
    have zero : entry.packet.seqNum = 0 :=
      number.symm.trans (represents.unwritten found behind).2
    have holds := represents.written age entry recent there
    have counted := (List.getElem?_eq_some_iff.mp there).1
    have next := represents.prevIndex (by have inside := found.isLt; omega)
    have before : (history.slotOf age).val < history.prevIndex.val := by
      rw [RTPPacketHistory.slotOf]
      simp only
      split <;> omega
    rw [zero] at result
    have foundBefore := findSeqNum_zero_lt before (holds.seqNum.trans zero) result
    omega

theorem Represents.find_recent {entry : StoredPacket}
    {age : Nat} (recent : age < numberToStore) (there : stored.packets[age]? = some entry) :
    history.findSeqNum entry.packet.seqNum = some (history.slotOf age) ∧
      history.searchAll entry.packet.seqNum = some (history.slotOf age) := by
  have number := (represents.written age entry recent there).seqNum
  rcases exists_findSeqNum number with ⟨found, result⟩
  rcases exists_searchAll number with ⟨searched, resultAll⟩
  rw [result, resultAll, represents.found_eq recent there (findSeqNum_number result) (.inl result),
    represents.found_eq recent there (searchAll_eq_some_iff.mp resultAll).1
      (.inr resultAll)]
  exact ⟨rfl, rfl⟩

theorem Represents.unwritten_of_number (none : stored.lookup numberToStore sequenceNumber = none)
    {found : Fin numberToStore}
    (number : (history.slots found).storedSeqNum = sequenceNumber) :
    (history.slots found).Unwritten := by
  rcases represents.slot_cases found with ⟨age, entry, recent, there, same⟩ | behind
  · have holds := represents.written age entry recent there
    rw [same] at holds
    have member : entry ∈ stored.packets.take numberToStore := by
      apply mem_of_getElem?
      rw [List.getElem?_take_of_lt recent, there]
    have missed := List.find?_eq_none.mp none entry member
    exact absurd (decide_eq_true (holds.seqNum.symm.trans number)) missed
  · exact represents.unwritten found behind

end Slots

/-! ## Steps -/

section Steps

variable {numberToStore : Nat} {history : RTPPacketHistory numberToStore}
  {stored : StoredPackets} {sequenceNumber : UInt16}

theorem HistorySlot.Holds.resize {slot : HistorySlot} {entry : StoredPacket}
    (holds : slot.Holds entry) {packetLength : Nat}
    (larger : entry.packet.bytes.length ≤ packetLength) :
    (slot.resize packetLength).Holds entry :=
  { holds with
    packet := by
      have packet := holds.packet
      have inside : entry.packet.bytes.length ≤ slot.storedPacket.length := by
        have lengths := congrArg List.length packet
        rw [length_take] at lengths
        omega
      change (slot.storedPacket.take packetLength ++ _).take _ = _
      rw [take_append_of_le_length (by rw [length_take]; omega), take_take, min_eq_left larger]
      exact packet }

theorem Represents.verifyAndAllocatePacketLength (represents : Represents history stored)
    (packetLength : UInt16) :
    Represents (history.verifyAndAllocatePacketLength packetLength)
      (stored.announce packetLength) := by
  rw [RTPPacketHistory.verifyAndAllocatePacketLength, StoredPackets.announce, represents.limit]
  split
  · exact represents
  · next larger =>
      have fits : ∀ entry ∈ stored.packets, entry.packet.length ≤ packetLength :=
        fun entry member => UInt16.le_trans (represents.fits entry member)
          (UInt16.le_of_lt (UInt16.not_le.mp larger))
      exact { represents with
        limit := rfl
        fits := fits
        written := fun age entry recent there => by
          apply (represents.written age entry recent there).resize
          rw [← entry.packet.length_toNat, ← UInt16.le_iff_toNat_le]
          exact fits entry (mem_of_getElem? there) }

theorem slotOf_store_zero (packet : HistoryPacket) (time : Int) (type : StorageType) :
    (history.store packet time type).slotOf 0 = history.prevIndex := by
  have inside := history.prevIndex.isLt
  apply Fin.ext
  rw [RTPPacketHistory.slotOf, RTPPacketHistory.store, nextIndex]
  simp only
  split <;> split at * <;> omega

theorem slotOf_store_succ (packet : HistoryPacket) (time : Int) (type : StorageType) {age : Nat}
    (recent : age + 1 < numberToStore) :
    (history.store packet time type).slotOf (age + 1) = history.slotOf age ∧
      history.slotOf age ≠ history.prevIndex := by
  have inside := history.prevIndex.isLt
  constructor
  · apply Fin.ext
    rw [RTPPacketHistory.slotOf, RTPPacketHistory.store, nextIndex, RTPPacketHistory.slotOf]
    simp only
    split <;> split at * <;> split <;> omega
  · intro same
    have values := congrArg Fin.val same
    rw [RTPPacketHistory.slotOf] at values
    simp only at values
    split at values <;> omega

theorem Represents.store (represents : Represents history stored) {packet : HistoryPacket}
    (fits : packet.length ≤ stored.maxPacketLength)
    (fresh : packet.seqNum ∉ (stored.packets.take (numberToStore - 1)).map fun entry =>
      entry.packet.seqNum) (time : Int) (type : StorageType) :
    Represents (history.store packet time type)
      { stored with packets := { packet, time, resendTime := 0, type } :: stored.packets } := by
  have inside := history.prevIndex.isLt
  have next := represents.prevIndex
  exact {
    limit := represents.limit
    fits := by
      intro entry member
      rcases mem_cons.mp member with same | earlier
      · rw [same]
        exact fits
      · exact represents.fits entry earlier
    written := by
      intro age entry recent there
      cases age with
      | zero =>
        cases there
        rw [slotOf_store_zero]
        change (Function.update history.slots history.prevIndex _ history.prevIndex).Holds _
        rw [Function.update_self]
        exact ⟨take_left, rfl, rfl, rfl, rfl, rfl⟩
      | succ age =>
        rcases slotOf_store_succ packet time type recent with ⟨same, different⟩
        rw [same]
        change (Function.update history.slots history.prevIndex _ (history.slotOf age)).Holds _
        rw [Function.update_of_ne different]
        exact represents.written age entry (Nat.lt_of_succ_lt recent) there
    unwritten := by
      intro index behind
      rw [length_cons] at behind
      have different : index ≠ history.prevIndex := by
        rintro rfl
        omega
      change (Function.update history.slots history.prevIndex _ index).Unwritten
      rw [Function.update_of_ne different]
      exact represents.unwritten index (by omega)
    prevIndex := by
      intro fewer
      rw [length_cons] at fewer ⊢
      rw [RTPPacketHistory.store, nextIndex]
      simp only
      split <;> omega
    distinct := by
      obtain ⟨fewer, same⟩ : ∃ fewer, numberToStore = fewer + 1 :=
        ⟨numberToStore - 1, by omega⟩
      subst same
      rw [take_succ_cons, map_cons, nodup_cons]
      refine ⟨fresh, represents.distinct.sublist ?_⟩
      exact ((take_prefix_take_left (by omega)).sublist).map _ }

theorem Represents.put (represents : Represents history stored) {packet : HistoryPacket}
    {maxPacketLength : UInt16} {captureTime now : Int} {type : StorageType}
    (fresh : stored.Fresh numberToStore (.put packet maxPacketLength captureTime now type)) :
    Represents (history.step (.put packet maxPacketLength captureTime now type))
      (stored.step (.put packet maxPacketLength captureTime now type)) := by
  rw [RTPPacketHistory.step, RTPPacketHistory.putRTPPacket, StoredPackets.step]
  by_cases notStored : type = .kDontStore
  · rw [if_pos notStored, if_pos notStored]
    exact represents
  · rw [if_neg notStored, if_neg notStored]
    have enlarged := represents.verifyAndAllocatePacketLength maxPacketLength
    have same : (stored.announce maxPacketLength).packets = stored.packets := by
      rw [StoredPackets.announce]
      split <;> rfl
    rw [StoredPackets.Fresh, ← same] at fresh
    simp only [enlarged.limit]
    split
    · exact enlarged
    · next fits => exact enlarged.store (UInt16.not_lt.mp fits) fresh _ type

theorem updateResendTime_slots (now : Int) (index : Fin numberToStore) :
    (history.updateResendTime sequenceNumber now).slots index =
      if history.findSeqNum sequenceNumber = some index then
        { history.slots index with storedResendTime := now }
      else history.slots index := by
  rw [RTPPacketHistory.updateResendTime]
  cases history.findSeqNum sequenceNumber with
  | none => simp
  | some found =>
    by_cases same : index = found
    · simp [same]
    · simp [same, Ne.symm same]

theorem updateResendTime_prevIndex (history : RTPPacketHistory numberToStore)
    (sequenceNumber : UInt16) (now : Int) :
    (history.updateResendTime sequenceNumber now).prevIndex = history.prevIndex ∧
      (history.updateResendTime sequenceNumber now).maxPacketLength = history.maxPacketLength := by
  rw [RTPPacketHistory.updateResendTime]
  split <;> exact ⟨rfl, rfl⟩

/-- The new time of a retransmission is that of the packet with the number, if there is one. -/
theorem Represents.updateResendTime (represents : Represents history stored) (now : Int) :
    Represents (history.step (.updateResendTime sequenceNumber now))
      (stored.step (.updateResendTime sequenceNumber now)) := by
  rw [RTPPacketHistory.step, StoredPackets.step]
  rcases updateResendTime_prevIndex history sequenceNumber now with ⟨next, limit⟩
  have slotOf (age : Nat) :
      (history.updateResendTime sequenceNumber now).slotOf age = history.slotOf age := by
    apply Fin.ext
    simp only [RTPPacketHistory.slotOf, next]
  exact {
    limit := limit.trans represents.limit
    fits := by
      intro entry member
      rcases List.mem_map.mp member with ⟨earlier, earlierMember, same⟩
      rw [← same, StoredPackets.resent_packet]
      exact represents.fits earlier earlierMember
    written := by
      intro age entry recent there
      rw [List.getElem?_map, Option.map_eq_some_iff] at there
      rcases there with ⟨earlier, there, same⟩
      have holds := represents.written age earlier recent there
      rw [slotOf, updateResendTime_slots, ← same, StoredPackets.resent]
      by_cases named : earlier.packet.seqNum = sequenceNumber
      · have found := (represents.find_recent recent there).1
        rw [named] at found
        rw [if_pos found, if_pos named]
        exact { holds with resendTime := rfl }
      · rw [if_neg named, if_neg]
        · exact holds
        · intro found
          exact named (holds.seqNum.symm.trans (findSeqNum_number found))
    unwritten := by
      intro index behind
      rw [length_map] at behind
      have unwritten := represents.unwritten index behind
      rw [updateResendTime_slots]
      split
      · exact unwritten
      · exact unwritten
    prevIndex := by
      intro fewer
      rw [length_map] at fewer ⊢
      rw [next]
      exact represents.prevIndex fewer
    distinct := by
      rw [← map_take, List.map_map]
      have same : (fun entry : StoredPacket => entry.packet.seqNum) ∘
          StoredPackets.resent sequenceNumber now = fun entry => entry.packet.seqNum := by
        funext entry
        rw [Function.comp_apply, StoredPackets.resent_packet]
      rw [same]
      exact represents.distinct }

theorem Represents.step (represents : Represents history stored) (event : HistoryEvent)
    (fresh : stored.Fresh numberToStore event) :
    Represents (history.step event) (stored.step event) := by
  cases event with
  | put packet maxPacketLength captureTime now type => exact represents.put fresh
  | updateResendTime sequenceNumber now => exact represents.updateResendTime now

theorem Represents.run {events : List HistoryEvent} (represents : Represents history stored)
    (fresh : Run.Allowed StoredPackets.step (StoredPackets.Fresh numberToStore) stored events) :
    Represents (Run.final RTPPacketHistory.step history events)
      (Run.final StoredPackets.step stored events) := by
  induction events generalizing history stored with
  | nil => exact represents
  | cons event rest induction => exact induction (represents.step event fresh.1) fresh.2

end Steps

/-! ## Lookups -/

section Lookups

variable {numberToStore : Nat} {history : RTPPacketHistory numberToStore}
  {stored : StoredPackets} {sequenceNumber : UInt16}

theorem exists_of_lookup {entry : StoredPacket}
    (found : stored.lookup numberToStore sequenceNumber = some entry) :
    entry.packet.seqNum = sequenceNumber ∧
      ∃ age < numberToStore, stored.packets[age]? = some entry := by
  have number := List.find?_some found
  rcases mem_iff_getElem?.mp (List.mem_of_find?_eq_some found) with ⟨age, there⟩
  have recent : age < numberToStore := by
    have counted := (List.getElem?_eq_some_iff.mp there).1
    rw [length_take] at counted
    omega
  rw [List.getElem?_take_of_lt recent] at there
  exact ⟨of_decide_eq_true number, age, recent, there⟩

theorem Represents.retrieve_of_holds (represents : Represents history stored)
    {entry : StoredPacket} (member : entry ∈ stored.packets) {index : Fin numberToStore}
    (holds : (history.slots index).Holds entry) (minElapsedTime : UInt32) (packetLength : UInt16)
    (now : Int) :
    history.retrieve (some index) minElapsedTime packetLength now =
      entry.retrieved minElapsedTime packetLength now := by
  have positive : entry.packet.length ≠ 0 := by
    intro zero
    have lengths := entry.packet.length_toNat
    have long := entry.packet.long
    rw [zero] at lengths
    change 0 = _ at lengths
    omega
  have fits := represents.fits entry member
  rw [← represents.limit] at fits
  rw [retrieve, StoredPacket.retrieved]
  simp only [holds.length, holds.resendTime, holds.time, holds.type]
  rw [if_neg (not_or.mpr ⟨positive, UInt16.not_lt.mpr fits⟩), entry.packet.length_toNat,
    holds.packet]

theorem retrieve_of_unwritten {index : Fin numberToStore}
    (unwritten : (history.slots index).Unwritten) (minElapsedTime : UInt32)
    (packetLength : UInt16) (now : Int) :
    history.retrieve (some index) minElapsedTime packetLength now = .failed := by
  rw [retrieve]
  exact if_pos (.inl unwritten.1)

theorem Represents.retrieve_eq (represents : Represents history stored)
    (sequenceNumber : UInt16) {index : Option (Fin numberToStore)}
    (result : index = history.findSeqNum sequenceNumber ∨ index = history.searchAll sequenceNumber)
    (minElapsedTime : UInt32) (packetLength : UInt16) (now : Int) :
    history.retrieve index minElapsedTime packetLength now =
      match stored.lookup numberToStore sequenceNumber with
      | none => .failed
      | some entry => entry.retrieved minElapsedTime packetLength now := by
  cases found : stored.lookup numberToStore sequenceNumber with
  | some entry =>
    rcases exists_of_lookup found with ⟨number, age, recent, there⟩
    have both := represents.find_recent recent there
    rw [number] at both
    have same : index = some (history.slotOf age) := by
      rcases result with computed | all
      · exact computed.trans both.1
      · exact all.trans both.2
    rw [same]
    exact represents.retrieve_of_holds (mem_of_getElem? there)
      (represents.written age entry recent there) _ _ _
  | none =>
    cases index with
    | none => rfl
    | some index =>
      apply retrieve_of_unwritten
      apply represents.unwritten_of_number found
      rcases result with computed | all
      · exact findSeqNum_number computed.symm
      · exact (searchAll_eq_some_iff.mp all.symm).1

end Lookups

/-- After every run in which the packets of the history have different numbers, a lookup gives
the last packet with the number, if it is one of the last ones that were stored, and fails
otherwise; the computed index and the loop over all slots come to the same. -/
theorem getRTPPacket_lookup {numberToStore : Nat} [NeZero numberToStore]
    {events : List HistoryEvent}
    (fresh : Run.Allowed StoredPackets.step (StoredPackets.Fresh numberToStore) .empty events)
    (sequenceNumber : UInt16) (minElapsedTime : UInt32) (packetLength : UInt16) (now : Int) :
    let history : RTPPacketHistory numberToStore := Run.final RTPPacketHistory.step .allocate events
    let stored := Run.final StoredPackets.step .empty events
    (history.getRTPPacket sequenceNumber minElapsedTime packetLength now =
      match stored.lookup numberToStore sequenceNumber with
      | none => .failed
      | some entry => entry.retrieved minElapsedTime packetLength now) ∧
    history.retrieve (history.searchAll sequenceNumber) minElapsedTime packetLength now =
      history.getRTPPacket sequenceNumber minElapsedTime packetLength now ∧
    ∀ entry, stored.lookup numberToStore sequenceNumber = some entry →
      history.findSeqNum sequenceNumber = history.searchAll sequenceNumber := by
  intro history stored
  have represents : Represents history stored := represents_allocate.run fresh
  have computed := represents.retrieve_eq sequenceNumber (.inl rfl) minElapsedTime packetLength now
  have all := represents.retrieve_eq sequenceNumber (.inr rfl) minElapsedTime packetLength now
  refine ⟨computed, all.trans computed.symm, fun entry found => ?_⟩
  rcases exists_of_lookup found with ⟨number, age, recent, there⟩
  have both := represents.find_recent recent there
  rw [number] at both
  exact both.1.trans both.2.symm

def shortPacket (high low : UInt8) : HistoryPacket where
  bytes := [0x80, 96, high, low, 7]
  long := (by decide : 3 < 5)
  short := (by decide : 5 < 65536)

/-- Five packets around the wrap of the numbers, not in their order, in a history of three. -/
def wrappedPackets : List HistoryEvent :=
  [.put (shortPacket 255 253) 100 5 6 .kAllowRetransmission,
    .put (shortPacket 255 255) 100 7 8 .kAllowRetransmission,
    .put (shortPacket 255 254) 100 9 9 .kAllowRetransmission,
    .put (shortPacket 0 1) 100 0 11 .kAllowRetransmission,
    .updateResendTime 1 12,
    .put (shortPacket 0 0) 100 13 13 .kDontRetransmit]

theorem getRTPPacket_wrappedPackets :
    (Run.final RTPPacketHistory.step (.allocate : RTPPacketHistory 3)
      wrappedPackets).getRTPPacket 65534 0 100 20 =
        .copied [0x80, 96, 255, 254, 7] 9 .kAllowRetransmission := by
  have lookup := @getRTPPacket_lookup 3 _ wrappedPackets (by decide +kernel) 65534 0 100 20
  exact lookup.1

/-- A buffer of four bytes has no room for the packet that is stored. -/
theorem not_copied_shortBuffer :
    ¬ (∀ entry, (Run.final StoredPackets.step .empty wrappedPackets).lookup 3 65534 = some entry →
      (Run.final RTPPacketHistory.step (.allocate : RTPPacketHistory 3)
        wrappedPackets).getRTPPacket 65534 0 4 20 =
          .copied entry.packet.bytes entry.time entry.type) := by
  intro copies
  have copied := copies
    { packet := shortPacket 255 254, time := 9, resendTime := 0, type := .kAllowRetransmission }
    (by decide +kernel)
  revert copied
  decide +kernel

/-! ## Retransmissions -/

section Retransmissions

variable {numberToStore : Nat} {stored : StoredPackets} {packetId : UInt16} {resendTime : Int}

/-- What `RTPSender::ReSendPacket` sends again, or builds an RTX packet of, and the history. -/
def RTPPacketHistory.reSendPacket (packetId : UInt16) (minResendTime : UInt32)
    (now resendTime : Int) (history : RTPPacketHistory numberToStore) :
    Option Bytes × RTPPacketHistory numberToStore :=
  match history.getRTPPacket packetId minResendTime (UInt16.ofNat IP_PACKET_SIZE) now with
  | .copied packet _ type =>
    if type = .kDontRetransmit then (none, history)
    else (some packet, history.updateResendTime packetId resendTime)
  | .failed | .recentlyResent => (none, history)

/-- The packet is not stored anew, and the clock does not go back. -/
def KeepsResendTime (packetId : UInt16) (resendTime : Int) : HistoryEvent → Prop
  | .put packet .. => packet.seqNum ≠ packetId
  | .updateResendTime sequenceNumber now => sequenceNumber = packetId → resendTime ≤ now

def StoredPackets.ResentSince (packetId : UInt16) (resendTime : Int) (stored : StoredPackets) :
    Prop :=
  ∀ entry ∈ stored.packets, entry.packet.seqNum = packetId → resendTime ≤ entry.resendTime

theorem resentSince_updateResendTime :
    (stored.step (.updateResendTime packetId resendTime)).ResentSince packetId resendTime := by
  intro entry member named
  rcases List.mem_map.mp member with ⟨earlier, -, rfl⟩
  rw [StoredPackets.resent_packet] at named
  rw [StoredPackets.resent, if_pos named]

theorem StoredPackets.ResentSince.step (since : stored.ResentSince packetId resendTime)
    {event : HistoryEvent} (keeps : KeepsResendTime packetId resendTime event) :
    (stored.step event).ResentSince packetId resendTime := by
  cases event with
  | put packet maxPacketLength captureTime now type =>
    have same : (stored.announce maxPacketLength).packets = stored.packets := by
      rw [StoredPackets.announce]
      split <;> rfl
    intro entry member named
    simp only [StoredPackets.step] at member
    split_ifs at member
    · exact since entry member named
    · exact since entry (same ▸ member) named
    all_goals
      rcases mem_cons.mp member with rfl | earlier
      · exact absurd named keeps
      · exact since entry (same ▸ earlier) named
  | updateResendTime sequenceNumber now =>
    intro entry member named
    rcases List.mem_map.mp member with ⟨earlier, there, rfl⟩
    rw [StoredPackets.resent_packet] at named
    rw [StoredPackets.resent]
    split
    · next updated => exact keeps (updated.symm.trans named)
    · exact since earlier there named

theorem copied_of_sent {history : RTPPacketHistory numberToStore} {minResendTime : UInt32}
    {now : Int} (sent : (history.reSendPacket packetId minResendTime now resendTime).1.isSome) :
    (history.reSendPacket packetId minResendTime now resendTime).2 =
        history.step (.updateResendTime packetId resendTime) ∧
      ∃ bytes time type, history.getRTPPacket packetId minResendTime
        (UInt16.ofNat IP_PACKET_SIZE) now = .copied bytes time type := by
  rw [reSendPacket] at sent ⊢
  cases retrieved : history.getRTPPacket packetId minResendTime
      (UInt16.ofNat IP_PACKET_SIZE) now with
  | failed | recentlyResent =>
    rw [retrieved] at sent
    cases sent
  | copied bytes time type =>
    rw [retrieved] at sent
    dsimp only at sent ⊢
    by_cases refused : type = .kDontRetransmit
    · rw [if_pos refused] at sent
      cases sent
    · rw [if_neg refused]
      exact ⟨rfl, bytes, time, type, rfl⟩

theorem resendTime_le_of_sent {history : RTPPacketHistory numberToStore} {minResendTime : UInt32}
    {now next : Int} (represents : Represents history stored)
    (since : stored.ResentSince packetId resendTime) (positive : 0 < minResendTime)
    (sent : (history.reSendPacket packetId minResendTime now next).1.isSome) :
    minResendTime.toNat ≤ now - resendTime := by
  rcases (copied_of_sent sent).2 with ⟨bytes, time, type, copied⟩
  rw [getRTPPacket, represents.retrieve_eq packetId (.inl rfl)] at copied
  cases found : stored.lookup numberToStore packetId with
  | none =>
    rw [found] at copied
    cases copied
  | some entry =>
    rcases exists_of_lookup found with ⟨named, age, -, there⟩
    have stamped := since entry (mem_of_getElem? there) named
    rw [found] at copied
    simp only [StoredPacket.retrieved] at copied
    split at copied
    · cases copied
    split at copied
    · cases copied
    rename_i late
    have elapsed := not_lt.mp (not_and.mp late positive)
    omega

end Retransmissions

end ZyWebRtc.Rtp
