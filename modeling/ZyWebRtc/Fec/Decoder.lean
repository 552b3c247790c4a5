import Mathlib.Data.List.Sort
import ZyWebRtc.Foundation.SequenceNumber
import ZyWebRtc.Fec.Recovery

namespace ZyWebRtc.Fec

/-! `ForwardErrorCorrection::DecodeFEC`. Stored packets are never changed, so a packet that
the source shares by reference is a copy here. -/

/-- `kMaxMediaPackets`, and also `kMaxFecPackets`. -/
def kMaxMediaPackets : Nat := 48

/-- `SortablePacket::LessThan` on the sequence numbers. -/
def lessThan (first second : UInt16) : Bool := isNewerSequenceNumber second first

/-- `list::sort` by `LessThan`. -/
def sortBySeqNum {Element : Type} (seqNum : Element → UInt16) (list : List Element) :
    List Element :=
  list.insertionSort fun first second => lessThan (seqNum second) (seqNum first) = false

/-- The lists that decoding works on. -/
structure Decoder where
  fecPacketList : List FecPacket
  recoveredPacketList : List RecoveredPacket

namespace Decoder

def new : Decoder where
  fecPacketList := []
  recoveredPacketList := []

end Decoder

def discardOldPackets (recoveredPacketList : List RecoveredPacket) : List RecoveredPacket :=
  recoveredPacketList.drop (recoveredPacketList.length - kMaxMediaPackets)

/-- The packet at the place that `lower_bound` finds for it, if it is protected there. -/
def assignCovered (packet : RecoveredPacket) : List ProtectedPacket → List ProtectedPacket
  | [] => []
  | protectedPacket :: rest =>
    if lessThan protectedPacket.seqNum packet.seqNum then
      protectedPacket :: assignCovered packet rest
    else if protectedPacket.seqNum = packet.seqNum then
      { protectedPacket with pkt := some packet.pkt } :: rest
    else protectedPacket :: rest

def updateCoveringFecPackets (packet : RecoveredPacket) (fecPacketList : List FecPacket) :
    List FecPacket :=
  fecPacketList.map fun fecPacket =>
    { fecPacket with protectedPktList := assignCovered packet fecPacket.protectedPktList }

def receivedMedia (rxPacket : ReceivedPacket) : RecoveredPacket where
  seqNum := rxPacket.seqNum
  wasRecovered := false
  returned := true
  pkt := rxPacket.pkt

section

variable (rxPacket : ReceivedPacket) (decoder : Decoder)

def insertMediaPacket : Decoder :=
  if decoder.recoveredPacketList.any (·.seqNum = rxPacket.seqNum) then decoder
  else {
    fecPacketList := updateCoveringFecPackets (receivedMedia rxPacket) decoder.fecPacketList
    recoveredPacketList := sortBySeqNum RecoveredPacket.seqNum
      (decoder.recoveredPacketList ++ [receivedMedia rxPacket]) }

/-- One bit of the packet mask, the most significant bit of a byte first. -/
def maskBit (pkt : Packet) (index : Nat) : Bool :=
  (pkt.data (12 + index / 8)).toNat.testBit (7 - index % 8)

def protectedPackets (pkt : Packet) : List ProtectedPacket :=
  ((List.range (8 * pkt.maskSizeBytes)).filter (maskBit pkt)).map fun index =>
    { seqNum := pkt.word 2 + UInt16.ofNat index, pkt := none }

def alreadyRecovered : List RecoveredPacket → List ProtectedPacket → List RecoveredPacket
  | [], _ => []
  | recovered :: more, notRecovered =>
    match notRecovered.dropWhile fun protectedPacket =>
        !lessThan recovered.seqNum protectedPacket.seqNum &&
          lessThan protectedPacket.seqNum recovered.seqNum with
    | [] => []
    | protectedPacket :: rest =>
      if lessThan recovered.seqNum protectedPacket.seqNum then
        alreadyRecovered more (protectedPacket :: rest)
      else recovered :: alreadyRecovered more rest

def assignEach : List RecoveredPacket → List ProtectedPacket → Option (List ProtectedPacket)
  | [], notRecovered => some notRecovered
  | recovered :: more, notRecovered =>
    match notRecovered.dropWhile (·.seqNum ≠ recovered.seqNum) with
    | [] => none
    | found :: behind => do
      let assigned ← assignEach more ({ found with pkt := some recovered.pkt } :: behind)
      pure (notRecovered.takeWhile (·.seqNum ≠ recovered.seqNum) ++ assigned)

def assignRecoveredPackets (fecPacket : FecPacket) (recoveredPackets : List RecoveredPacket) :
    Option FecPacket := do
  let assigned ← assignEach
    (alreadyRecovered recoveredPackets fecPacket.protectedPktList) fecPacket.protectedPktList
  pure { fecPacket with protectedPktList := assigned }

def insertFecPacket : Option Decoder :=
  if decoder.fecPacketList.any (·.seqNum = rxPacket.seqNum) then some decoder
  else if protectedPackets rxPacket.pkt = [] then some decoder
  else do
    let fecPacket ← assignRecoveredPackets
      { seqNum := rxPacket.seqNum, ssrc := rxPacket.ssrc
        protectedPktList := protectedPackets rxPacket.pkt, pkt := rxPacket.pkt }
      decoder.recoveredPacketList
    let fecPacketList := sortBySeqNum FecPacket.seqNum (decoder.fecPacketList ++ [fecPacket])
    pure { decoder with
      fecPacketList :=
        if kMaxMediaPackets < fecPacketList.length then fecPacketList.drop 1 else fecPacketList }

def insertPacket : Option Decoder :=
  if rxPacket.isFec then insertFecPacket rxPacket decoder
  else some (insertMediaPacket rxPacket decoder)

end

def insertEach : List ReceivedPacket → Decoder → Option Decoder
  | [], decoder => some decoder
  | rxPacket :: rest, decoder => do
    let decoder ← insertPacket rxPacket decoder
    insertEach rest decoder

variable (receivedPacketList : List ReceivedPacket) (decoder : Decoder)

def insertPackets : Option Decoder := do
  let decoder ← insertEach receivedPacketList decoder
  pure { decoder with
    recoveredPacketList := discardOldPackets decoder.recoveredPacketList }

/-- `NumCoveredPacketsMissing`, which counts no further than two. -/
def numCoveredPacketsMissing (fecPacket : FecPacket) : Nat :=
  min 2 (fecPacket.protectedPktList.countP (·.pkt.isNone))

/-- The search of `AttemptRecover`: FEC packets that miss no packet are discarded until one
is found that misses a single one. It is returned with all the others. -/
def findRecoverable : List FecPacket → List FecPacket × Option FecPacket
  | [] => ([], none)
  | fecPacket :: rest =>
    match numCoveredPacketsMissing fecPacket with
    | 0 => findRecoverable rest
    | 1 => (rest, some fecPacket)
    | _ => ((fecPacket :: (findRecoverable rest).1), (findRecoverable rest).2)

/-- The lists after `packet` was recovered; `others` are the FEC packets that are left. -/
def insertRecovered (packet : RecoveredPacket) (others : List FecPacket) (decoder : Decoder) :
    Decoder where
  fecPacketList := updateCoveringFecPackets packet others
  recoveredPacketList := discardOldPackets
    (sortBySeqNum RecoveredPacket.seqNum (decoder.recoveredPacketList ++ [packet]))

/-- `AttemptRecover`, with the packets that it recovered. Each turn uses up an FEC packet, so
there are at most as many turns as FEC packets. -/
def attemptRecover : (turns : Nat) → Decoder → Option (Decoder × List RecoveredPacket)
  | 0, decoder => some (decoder, [])
  | turns + 1, decoder =>
    match findRecoverable decoder.fecPacketList with
    | (others, none) => some ({ decoder with fecPacketList := others }, [])
    | (others, some fecPacket) => do
      let packet ← recoverPacket fecPacket
      let (decoder, packets) ← attemptRecover turns (insertRecovered packet others decoder)
      pure (decoder, packet :: packets)

def seqNumDiff (first second : UInt16) : Nat := ((first.toNat : Int) - second.toNat).natAbs

/-- The lists are emptied at a gap. The front of the received list is looked at when the
recovered list is full. -/
def resetAtGap : Option Decoder :=
  if decoder.recoveredPacketList.length = kMaxMediaPackets then do
    let front ← receivedPacketList.head?
    let back ← decoder.recoveredPacketList.getLast?
    if kMaxMediaPackets < seqNumDiff front.seqNum back.seqNum then pure Decoder.new
    else pure decoder
  else some decoder

/-- `DecodeFEC`, with the packets that were recovered. -/
def decodeFec : Option (Decoder × List RecoveredPacket) := do
  let decoder ← resetAtGap receivedPacketList decoder
  let decoder ← insertPackets receivedPacketList decoder
  attemptRecover decoder.fecPacketList.length decoder

end ZyWebRtc.Fec
