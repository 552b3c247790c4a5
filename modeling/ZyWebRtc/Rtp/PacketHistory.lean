import ZyWebRtc.Foundation.ByteString

namespace ZyWebRtc.Rtp

/-! `RTPPacketHistory`: the packets that are kept for retransmission, in a ring of slots. The
slots are parallel vectors in the source. -/

inductive StorageType
  | kDontStore
  | kDontRetransmit
  | kAllowRetransmission
  deriving DecidableEq, Repr

/-- A packet whose length is a `uint16_t` and, as is asserted, more than 3. -/
structure HistoryPacket where
  bytes : Bytes
  long : 3 < bytes.length
  short : bytes.length < 65536
  deriving DecidableEq, Repr

namespace HistoryPacket

def length (packet : HistoryPacket) : UInt16 := UInt16.ofNat packet.bytes.length

def seqNum (packet : HistoryPacket) : UInt16 :=
  ((packet.bytes.get ⟨2, Nat.lt_of_succ_lt packet.long⟩).toUInt16 <<< 8) +
    (packet.bytes.get ⟨3, packet.long⟩).toUInt16

theorem length_toNat (packet : HistoryPacket) : packet.length.toNat = packet.bytes.length := by
  rw [length, UInt16.toNat_ofNat']
  exact Nat.mod_eq_of_lt packet.short

end HistoryPacket

/-- A slot of the history. The array of bytes may be longer than the packet in it. -/
structure HistorySlot where
  storedPacket : Bytes
  storedSeqNum : UInt16
  storedLength : UInt16
  storedTime : Int
  storedResendTime : Int
  storedType : StorageType
  deriving DecidableEq, Repr

namespace HistorySlot

def unwritten : HistorySlot where
  storedPacket := []
  storedSeqNum := 0
  storedLength := 0
  storedTime := 0
  storedResendTime := 0
  storedType := .kDontStore

def resize (packetLength : Nat) (slot : HistorySlot) : HistorySlot :=
  { slot with
    storedPacket := slot.storedPacket.take packetLength ++
      List.replicate (packetLength - slot.storedPacket.length) 0 }

end HistorySlot

/-- What `GetRTPPacket` leaves to its caller: false, or no bytes of a packet that was resent
recently, or a packet with its time and its type. -/
inductive Retrieved
  | failed
  | recentlyResent
  | copied (packet : Bytes) (storedTime : Int) (type : StorageType)
  deriving DecidableEq, Repr

/-- A history that stores packets. Their number is not zero, as is asserted. -/
structure RTPPacketHistory (numberToStore : Nat) where
  prevIndex : Fin numberToStore
  maxPacketLength : UInt16
  slots : Fin numberToStore → HistorySlot

namespace RTPPacketHistory

variable {numberToStore : Nat}

def allocate [NeZero numberToStore] : RTPPacketHistory numberToStore where
  prevIndex := 0
  maxPacketLength := 0
  slots := fun _ => .unwritten

/-- The slots are enlarged when larger packets are announced. -/
def verifyAndAllocatePacketLength (packetLength : UInt16)
    (history : RTPPacketHistory numberToStore) : RTPPacketHistory numberToStore :=
  if packetLength ≤ history.maxPacketLength then history
  else
    { history with
      maxPacketLength := packetLength
      slots := fun index => (history.slots index).resize packetLength.toNat }

def nextIndex (index : Fin numberToStore) : Fin numberToStore :=
  ⟨if index.val + 1 < numberToStore then index.val + 1 else 0, by
    have inside := index.isLt
    split <;> omega⟩

/-- The packet in the slot `prevIndex`, and the next slot. -/
def store (packet : HistoryPacket) (time : Int) (type : StorageType)
    (history : RTPPacketHistory numberToStore) : RTPPacketHistory numberToStore :=
  { history with
    prevIndex := nextIndex history.prevIndex
    slots := Function.update history.slots history.prevIndex
      { storedPacket := packet.bytes ++
          (history.slots history.prevIndex).storedPacket.drop packet.bytes.length
        storedSeqNum := packet.seqNum
        storedLength := packet.length
        storedTime := time
        storedResendTime := 0
        storedType := type } }

/-- The status that is returned, and the history. -/
def putRTPPacket (packet : HistoryPacket) (maxPacketLength : UInt16) (captureTime now : Int)
    (type : StorageType) (history : RTPPacketHistory numberToStore) :
    Int × RTPPacketHistory numberToStore :=
  if type = .kDontStore then (0, history)
  else
    let history := history.verifyAndAllocatePacketLength maxPacketLength
    if history.maxPacketLength < packet.length then (-1, history)
    else (0, history.store packet (if 0 < captureTime then captureTime else now) type)

/-- The slot in front of the next one, around the end of the vectors. -/
def latestIndex (history : RTPPacketHistory numberToStore) : Fin numberToStore :=
  ⟨if 0 < history.prevIndex.val then history.prevIndex.val - 1 else numberToStore - 1, by
    have inside := history.prevIndex.isLt
    split <;> omega⟩

section

variable (sequenceNumber : UInt16) (history : RTPPacketHistory numberToStore)

/-- Where the number is if the slots up to the latest one have consecutive numbers. It does not
wrap around: outside of the vectors the latest slot is looked at. -/
def computedIndex : Fin numberToStore :=
  let latest := history.latestIndex
  let index : Int := (history.prevIndex.val - 1) -
    ((history.slots latest).storedSeqNum.toNat - sequenceNumber.toNat)
  if inside : 0 ≤ index ∧ index < numberToStore then
    ⟨index.toNat, by omega⟩
  else latest

/-- The loop over all slots. -/
def searchAll : Option (Fin numberToStore) :=
  Fin.find? fun index => (history.slots index).storedSeqNum = sequenceNumber

def findSeqNum : Option (Fin numberToStore) :=
  let index := history.computedIndex sequenceNumber
  if (history.slots index).storedSeqNum = sequenceNumber then some index
  else history.searchAll sequenceNumber

end

/-- What is given of the slot that was found. The buffer of the caller has room for
`packetLength` bytes. -/
def retrieve (index : Option (Fin numberToStore)) (minElapsedTime : UInt32)
    (packetLength : UInt16) (now : Int) (history : RTPPacketHistory numberToStore) :
    Retrieved :=
  match index with
  | none => .failed
  | some index =>
    let slot := history.slots index
    if slot.storedLength = 0 ∨ history.maxPacketLength < slot.storedLength then .failed
    else if packetLength < slot.storedLength then .failed
    else if 0 < minElapsedTime ∧ now - slot.storedResendTime < minElapsedTime.toNat then
      .recentlyResent
    else
      .copied (slot.storedPacket.take slot.storedLength.toNat) slot.storedTime slot.storedType

def getRTPPacket (sequenceNumber : UInt16) (minElapsedTime : UInt32) (packetLength : UInt16)
    (now : Int) (history : RTPPacketHistory numberToStore) : Retrieved :=
  history.retrieve (history.findSeqNum sequenceNumber) minElapsedTime packetLength now

def updateResendTime (sequenceNumber : UInt16) (now : Int)
    (history : RTPPacketHistory numberToStore) : RTPPacketHistory numberToStore :=
  match history.findSeqNum sequenceNumber with
  | none => history
  | some index =>
    { history with
      slots := Function.update history.slots index
        { history.slots index with storedResendTime := now } }

end RTPPacketHistory

/-- The calls that change a history. `GetRTPPacket` changes nothing. -/
inductive HistoryEvent
  | put (packet : HistoryPacket) (maxPacketLength : UInt16) (captureTime now : Int)
      (type : StorageType)
  | updateResendTime (sequenceNumber : UInt16) (now : Int)
  deriving DecidableEq, Repr

def RTPPacketHistory.step {numberToStore : Nat} (history : RTPPacketHistory numberToStore) :
    HistoryEvent → RTPPacketHistory numberToStore
  | .put packet maxPacketLength captureTime now type =>
    (history.putRTPPacket packet maxPacketLength captureTime now type).2
  | .updateResendTime sequenceNumber now => history.updateResendTime sequenceNumber now

namespace RTPPacketHistory

variable {numberToStore : Nat} {history : RTPPacketHistory numberToStore}
  {sequenceNumber : UInt16} {index : Fin numberToStore}

theorem searchAll_eq_some_iff :
    history.searchAll sequenceNumber = some index ↔
      (history.slots index).storedSeqNum = sequenceNumber ∧
        ∀ before < index, (history.slots before).storedSeqNum ≠ sequenceNumber := by
  rw [searchAll, Fin.find?_eq_some_iff]
  simp

theorem searchAll_eq_none_iff :
    history.searchAll sequenceNumber = none ↔
      ∀ index, (history.slots index).storedSeqNum ≠ sequenceNumber := by
  rw [searchAll, Fin.find?_eq_none_iff]
  simp

theorem findSeqNum_number (found : history.findSeqNum sequenceNumber = some index) :
    (history.slots index).storedSeqNum = sequenceNumber := by
  rw [findSeqNum] at found
  split at found
  · next same =>
      cases found
      exact same
  · exact (searchAll_eq_some_iff.mp found).1

theorem exists_findSeqNum (here : (history.slots index).storedSeqNum = sequenceNumber) :
    ∃ found, history.findSeqNum sequenceNumber = some found := by
  rw [findSeqNum]
  split
  · exact ⟨_, rfl⟩
  · cases all : history.searchAll sequenceNumber with
    | none => exact absurd here (searchAll_eq_none_iff.mp all index)
    | some found => exact ⟨found, rfl⟩

theorem exists_searchAll (here : (history.slots index).storedSeqNum = sequenceNumber) :
    ∃ found, history.searchAll sequenceNumber = some found := by
  cases all : history.searchAll sequenceNumber with
  | none => exact absurd here (searchAll_eq_none_iff.mp all index)
  | some found => exact ⟨found, rfl⟩

theorem computedIndex_zero_lt (positive : 0 < history.prevIndex.val) :
    (history.computedIndex 0).val < history.prevIndex.val := by
  rw [computedIndex]
  split
  · change Int.toNat _ < _
    have zero : (0 : UInt16).toNat = 0 := rfl
    omega
  · rw [latestIndex]
    simp only [positive, if_true]
    omega

/-- The number 0 is found in front of the next slot, if it is there: the numbers of slots
behind, which are 0 in the beginning, are not met. -/
theorem findSeqNum_zero_lt (before : index.val < history.prevIndex.val)
    (here : (history.slots index).storedSeqNum = 0) {found : Fin numberToStore}
    (result : history.findSeqNum 0 = some found ∨ history.searchAll 0 = some found) :
    found.val < history.prevIndex.val := by
  have searched (all : history.searchAll 0 = some found) : found.val < history.prevIndex.val := by
    by_contra behind
    exact (searchAll_eq_some_iff.mp all).2 index (by rw [Fin.lt_def]; omega) here
  rcases result with computed | all
  · rw [findSeqNum] at computed
    split at computed
    · cases computed
      exact computedIndex_zero_lt (by omega)
    · exact searched computed
  · exact searched all

end RTPPacketHistory

end ZyWebRtc.Rtp
