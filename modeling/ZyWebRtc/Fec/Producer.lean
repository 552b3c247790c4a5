import ZyWebRtc.Fec.Generator
import ZyWebRtc.Fec.RedPacket

namespace ZyWebRtc.Fec

/-! `ProducerFec`: the media packets that are protected together, and the FEC packets that are made
of them. A step has no value when an assertion fails or a copy leaves a buffer. -/

def kMaxExcessOverhead : Int := 50

def kMinimumMediaPackets : Nat := 4

def kHighProtectionThreshold : UInt8 := 80

def kRtpMarkerBitMask : UInt8 := 0x80

namespace RedPacket

def setSeqNum (packet : RedPacket) (seqNum : UInt16) : Option RedPacket := do
  let data ← packet.data.copyIn packet.length 2 (Bytes.uint16Bytes seqNum)
  pure { packet with data := data }

def clearMarkerBit (packet : RedPacket) : Option RedPacket := do
  let data ← packet.data.copyIn packet.length 1 [packet.data 1 &&& 0x7f]
  pure { packet with data := data }

end RedPacket

/-- The rate is asserted to be below 256. -/
structure FecProtectionParams where
  fecRate : UInt8
  useUepProtection : Bool
  maxFecFrames : Int
  fecMaskType : FecMaskType

structure ProducerFec where
  mediaPacketsFec : List Packet
  fecPackets : List Packet
  numFrames : Nat
  incompleteFrame : Bool
  numFirstPartition : Int
  minimumMediaPacketsFec : Nat
  params : FecProtectionParams
  newParams : FecProtectionParams

namespace ProducerFec

def new : ProducerFec where
  mediaPacketsFec := []
  fecPackets := []
  numFrames := 0
  incompleteFrame := false
  numFirstPartition := 0
  minimumMediaPacketsFec := 1
  params := ⟨0, false, 0, .kFecMaskRandom⟩
  newParams := ⟨0, false, 0, .kFecMaskRandom⟩

/-- The parameters are for the next set of FEC packets, the number of first partition packets and the
least number of media packets hold at once. -/
def setFecParameters (params : FecProtectionParams) (numFirstPartition : Int)
    (producer : ProducerFec) : ProducerFec :=
  { producer with
    newParams := params
    numFirstPartition := min numFirstPartition kMaxMediaPackets
    minimumMediaPacketsFec :=
      if kHighProtectionThreshold < params.fecRate then kMinimumMediaPackets else 1 }

section

variable (producer : ProducerFec)

def deletePackets : ProducerFec := { producer with mediaPacketsFec := [] }

/-- In Q8, relative to the number of media packets. It asserts that there are some. -/
def overhead : Int :=
  let numFecPackets :=
    getNumberOfFecPackets producer.mediaPacketsFec.length producer.params.fecRate
  (numFecPackets <<< 8 / producer.mediaPacketsFec.length : Nat)

def excessOverheadBelowMax : Bool :=
  producer.overhead - producer.params.fecRate.toNat < kMaxExcessOverhead

/-- The average number of packets in a frame is compared with 2. -/
def minimumMediaPacketsReached : Bool :=
  if producer.mediaPacketsFec.length < 2 * producer.numFrames then
    producer.minimumMediaPacketsFec ≤ producer.mediaPacketsFec.length
  else producer.minimumMediaPacketsFec + 1 ≤ producer.mediaPacketsFec.length

/-- A media packet of so many bytes, if they fit in its buffer. -/
def mediaPacket (dataBuffer : Bytes) (length : UInt16) : Option Packet := do
  let bytes ← dataBuffer.bytesAt 0 length.toNat
  let data ← Buffer.zeros.copyIn ipPacketSize 0 bytes
  pure { length := length, data := data }

def pushMediaPacket (dataBuffer : Bytes) (length : UInt16) (producer : ProducerFec) :
    Option ProducerFec :=
  if producer.mediaPacketsFec.length < kMaxMediaPackets then do
    let packet ← mediaPacket dataBuffer length
    pure { producer with mediaPacketsFec := producer.mediaPacketsFec ++ [packet] }
  else some producer

def addRtpPacket (dataBuffer : Bytes) (payloadLength rtpHeaderLength : Nat)
    (producer : ProducerFec) : Option ProducerFec := do
  if producer.fecPackets ≠ [] then none
  let params := if producer.mediaPacketsFec = [] then producer.newParams else producer.params
  let second ← dataBuffer.byteAt 1
  let markerBit : Bool := second &&& kRtpMarkerBitMask ≠ 0
  let producer ← pushMediaPacket dataBuffer (UInt16.ofNat (payloadLength + rtpHeaderLength))
    { producer with params := params }
  pure { producer with
    numFrames := if markerBit then producer.numFrames + 1 else producer.numFrames
    incompleteFrame := !markerBit }

/-- Whether FEC is produced over the packets that are there. -/
def generates : Bool :=
  !producer.incompleteFrame &&
    (producer.numFrames = producer.params.maxFecFrames ||
      producer.excessOverheadBelowMax && producer.minimumMediaPacketsReached)

end

section

variable (generatePacketMasks : FecMaskType → (numMediaPackets numFecPackets : Nat) →
  (numImportantPackets : Int) → (useUnequalProtection : Bool) → Buffer)

def generate (producer : ProducerFec) : Option (Int × ProducerFec) := do
  if (kMaxMediaPackets : Int) < producer.numFirstPartition then none
  let (ret, fecPackets) ← generateFec generatePacketMasks producer.mediaPacketsFec
    producer.params.fecRate producer.numFirstPartition producer.params.useUepProtection
    producer.params.fecMaskType producer.fecPackets
  let producer := { producer with fecPackets := fecPackets }
  pure (ret, if fecPackets = [] then { producer with numFrames := 0 }.deletePackets else producer)

def addRtpPacketAndGenerateFec (dataBuffer : Bytes) (payloadLength rtpHeaderLength : Nat)
    (producer : ProducerFec) : Option (Int × ProducerFec) := do
  let producer ← producer.addRtpPacket dataBuffer payloadLength rtpHeaderLength
  if producer.generates then producer.generate generatePacketMasks else pure (0, producer)

end

def fecAvailable (producer : ProducerFec) : Bool := producer.fecPackets ≠ []

def buildFecPacket (memory : Buffer) (packetToSend lastMediaPacket : Packet)
    (redPlType fecPlType : UInt8) (seqNum : UInt16) (rtpHeaderLength : Nat) : Option RedPacket := do
  let returnPacket := RedPacket.new memory
    (packetToSend.length.toNat + kREDForFECHeaderLength + rtpHeaderLength)
  let returnPacket ← returnPacket.createHeader (lastMediaPacket.data.slice 0 ipPacketSize)
    rtpHeaderLength redPlType fecPlType
  let returnPacket ← returnPacket.setSeqNum seqNum
  let returnPacket ← returnPacket.clearMarkerBit
  returnPacket.assignPayload (packetToSend.data.slice 0 ipPacketSize) packetToSend.length.toNat

/-- The first FEC packet is taken; after the last one everything is reset. -/
def getFecPacket (memory : Buffer) (redPlType fecPlType : UInt8) (seqNum : UInt16)
    (rtpHeaderLength : Nat) (producer : ProducerFec) : Option (Option RedPacket × ProducerFec) :=
  match producer.fecPackets with
  | [] => some (none, producer)
  | packetToSend :: fecPackets => do
    let lastMediaPacket ← producer.mediaPacketsFec.getLast?
    let returnPacket ← buildFecPacket memory packetToSend lastMediaPacket redPlType fecPlType
      seqNum rtpHeaderLength
    let producer := { producer with fecPackets := fecPackets }
    pure (some returnPacket,
      if fecPackets = [] then { producer.deletePackets with numFrames := 0 } else producer)

end ProducerFec

end ZyWebRtc.Fec
