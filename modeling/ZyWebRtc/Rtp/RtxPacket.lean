import ZyWebRtc.Foundation.Buffer
import ZyWebRtc.Rtp.HeaderBuilder

namespace ZyWebRtc.Rtp

/-! Retransmission with RTX: `RTPSender::BuildRtxPacket` and
`RTPPayloadRegistry::RestoreOriginalPacket`. Both write into a buffer of the caller; there is
no value when they write behind its end. What the buffers and the header hold before is given
by parameters. -/

def IP_PACKET_SIZE : Nat := 1500

def kRtxHeaderSize : Nat := 2

/-- The members of `RTPSender` that are used for RTX. -/
structure RtxSender where
  maxPayloadLength : Nat
  payloadTypeRtx : Int
  sequenceNumberRtx : UInt16
  ssrcRtx : UInt32
  deriving DecidableEq, Repr

namespace RtxSender

def setMaxPayloadLength (maxPayloadLength : UInt16) (sender : RtxSender) : Int × RtxSender :=
  if maxPayloadLength < 100 ∨ IP_PACKET_SIZE < maxPayloadLength.toNat then (-1, sender)
  else (0, { sender with maxPayloadLength := maxPayloadLength.toNat })

/-- The status of `RTPPacketHistory::PutRTPPacket` for a packet that may be sent again, where
packets of up to `stored` bytes had room before. A packet that is refused is not sent. -/
def putRTPPacket (storePackets : Bool) (stored : Nat) (packet : Bytes) (sender : RtxSender) :
    Int :=
  if storePackets = false then 0
  else if max stored sender.maxPayloadLength < packet.length then -1
  else 0

def typeByte (payloadType : Int) (markerBit : Bool) : UInt8 :=
  let payloadType := UInt8.ofInt payloadType
  if markerBit then payloadType ||| kRtpMarkerBitMask else payloadType

/-- The packet that is built in `dataBufferRtx`, and the sender afterwards. -/
def buildRtxPacket (unsetHeader : RTPHeader) (dataBufferRtx : Buffer) (buffer : Bytes)
    (sender : RtxSender) : Option (Bytes × RtxSender) := do
  let (_, rtpHeader) ← parse buffer none unsetHeader
  let headerLength := rtpHeader.headerLength.toNat
  let dataBufferRtx ← dataBufferRtx.copyIn IP_PACKET_SIZE 0 (← buffer.bytesAt 0 headerLength)
  let dataBufferRtx ←
    if sender.payloadTypeRtx ≠ -1 then
      dataBufferRtx.copyIn IP_PACKET_SIZE 1 [typeByte sender.payloadTypeRtx rtpHeader.markerBit]
    else pure dataBufferRtx
  let dataBufferRtx ←
    dataBufferRtx.copyIn IP_PACKET_SIZE 2 (Bytes.uint16Bytes sender.sequenceNumberRtx)
  let dataBufferRtx ← dataBufferRtx.copyIn IP_PACKET_SIZE 8 (Bytes.uint32Bytes sender.ssrcRtx)
  let dataBufferRtx ← dataBufferRtx.copyIn IP_PACKET_SIZE headerLength
    (Bytes.uint16Bytes rtpHeader.sequenceNumber)
  let dataBufferRtx ← dataBufferRtx.copyIn IP_PACKET_SIZE (headerLength + 2)
    (← buffer.bytesAt headerLength (buffer.length - headerLength))
  pure (dataBufferRtx.slice 0 (buffer.length + 2),
    { sender with sequenceNumberRtx := sender.sequenceNumberRtx + 1 })

end RtxSender

/-- The members of `RTPPayloadRegistry` that are used for RTX. -/
structure RtxRegistry where
  payloadTypeRtx : Int
  incomingPayloadType : Int
  deriving DecidableEq, Repr

/-- The returned flag, the restored buffer and the length afterwards. -/
def RtxRegistry.restoreOriginalPacket (registry : RtxRegistry)
    (restoredPacket : Buffer) (packet : Bytes) (originalSsrc : UInt32) (header : RTPHeader) :
    Option (Bool × Buffer × Nat) := do
  let headerLength := header.headerLength.toNat
  if packet.length < kRtxHeaderSize + headerLength then
    return (false, restoredPacket, packet.length)
  let originalSequenceNumber ← packet.uint16At headerLength
  let restoredPacket ←
    restoredPacket.copyIn IP_PACKET_SIZE 0 (← packet.bytesAt 0 headerLength)
  let packetLength := packet.length - kRtxHeaderSize
  let restoredPacket ← restoredPacket.copyIn IP_PACKET_SIZE headerLength
    (← packet.bytesAt (headerLength + kRtxHeaderSize) (packetLength - headerLength))
  let restoredPacket ←
    restoredPacket.copyIn IP_PACKET_SIZE 2 (Bytes.uint16Bytes originalSequenceNumber)
  let restoredPacket ← restoredPacket.copyIn IP_PACKET_SIZE 8 (Bytes.uint32Bytes originalSsrc)
  if registry.payloadTypeRtx ≠ -1 then
    if (header.payloadType.toNat : Int) = registry.payloadTypeRtx ∧
        registry.incomingPayloadType ≠ -1 then
      let restoredPacket ← restoredPacket.copyIn IP_PACKET_SIZE 1
        [RtxSender.typeByte registry.incomingPayloadType header.markerBit]
      return (true, restoredPacket, packetLength)
    return (false, restoredPacket, packetLength)
  return (true, restoredPacket, packetLength)

end ZyWebRtc.Rtp
