import ZyWebRtc.Foundation.NetworkOrder
import ZyWebRtc.Fec.Packet

namespace ZyWebRtc.Fec

/-! `ForwardErrorCorrection::RecoverPacket` and its parts: one missing packet is
recovered from an FEC packet and the other packets that it protects. A step has no
value when a copy or a XOR leaves the buffer of a packet. -/

def kRtpHeaderSize : Nat := 12

def kFecHeaderSize : Nat := 10

/-- A media packet that an FEC packet protects, without its contents while it is missing. -/
structure ProtectedPacket where
  seqNum : UInt16
  pkt : Option Packet

structure FecPacket where
  seqNum : UInt16
  ssrc : UInt32
  protectedPktList : List ProtectedPacket
  pkt : Packet

structure RecoveredPacket where
  seqNum : UInt16
  wasRecovered : Bool
  returned : Bool
  pkt : Packet

namespace Packet

variable (packet : Packet)

/-- Two bytes of the buffer in network order. -/
def word (offset : Nat) : UInt16 :=
  ((packet.data offset).toUInt16 <<< 8) + (packet.data (offset + 1)).toUInt16

def longMask : Bool := packet.data 0 &&& 0x40 ≠ 0

def maskSizeBytes : Nat := if packet.longMask then 6 else 2

def ulpHeaderSize : Nat := 2 + packet.maskSizeBytes

def protectionLength : UInt16 := packet.word 10

def lengthRecovery : UInt16 := packet.word 8

/-- The size of the payload of a media packet, as it is protected. -/
def mediaPayloadLength : UInt16 := packet.length - 12

end Packet

/-- A packet while it is being recovered. -/
structure Recovery where
  data : Buffer
  lengthRecovery : UInt16

/-- The header fields of a recovery over the protected bytes. -/
def Recovery.start (fecPacket : FecPacket) (data : Buffer) : Recovery where
  data := ((data.overwrite 0 (fecPacket.pkt.data.slice 0 2)).overwrite 4
    (fecPacket.pkt.data.slice 4 4)).overwrite 8 (Bytes.uint32Bytes fecPacket.ssrc)
  lengthRecovery := fecPacket.pkt.lengthRecovery

def initRecovery (fecPacket : FecPacket) : Option Recovery := do
  let payload ← fecPacket.pkt.data.copyOut ipPacketSize
    (kFecHeaderSize + fecPacket.pkt.ulpHeaderSize) fecPacket.pkt.protectionLength.toNat
  let data ← Buffer.zeros.copyIn ipPacketSize kRtpHeaderSize payload
  pure (Recovery.start fecPacket data)

def xorsAt (length position : Nat) : Bool :=
  position < 2 || (4 ≤ position && position < 8) || (kRtpHeaderSize ≤ position && position < length)

def Recovery.xor (recovered : Recovery) (packet : Packet) : Recovery where
  data := fun position =>
    if xorsAt packet.length.toNat position then recovered.data position ^^^ packet.data position
    else recovered.data position
  lengthRecovery := recovered.lengthRecovery ^^^ packet.mediaPayloadLength

def xorPackets (srcPacket : Packet) (dstPacket : Recovery) : Option Recovery :=
  if ipPacketSize < srcPacket.length.toNat then none else some (dstPacket.xor srcPacket)

def finishRecovery (recovered : Recovery) (seqNum : UInt16) : RecoveredPacket where
  seqNum := seqNum
  wasRecovered := true
  returned := false
  pkt := {
    length := recovered.lengthRecovery + 12
    data := (recovered.data.overwrite 0 [(recovered.data 0 ||| 0x80) &&& 0xbf]).overwrite 2
      (Bytes.uint16Bytes seqNum) }

/-- The loop of `RecoverPacket`: the sequence number of the missing packet, and the XOR with
all others. -/
def xorProtected : List ProtectedPacket → Option UInt16 → Recovery →
    Option (Option UInt16 × Recovery)
  | [], seqNum, recovered => some (seqNum, recovered)
  | protectedPacket :: rest, seqNum, recovered =>
    match protectedPacket.pkt with
    | none => xorProtected rest (some protectedPacket.seqNum) recovered
    | some pkt => do
      let recovered ← xorPackets pkt recovered
      xorProtected rest seqNum recovered

/-- It has no value either when no packet is missing, since nothing sets the sequence
number then. -/
def recoverPacket (fecPacket : FecPacket) : Option RecoveredPacket := do
  let recovered ← initRecovery fecPacket
  let (seqNum, recovered) ← xorProtected fecPacket.protectedPktList none recovered
  pure (finishRecovery recovered (← seqNum))

end ZyWebRtc.Fec
