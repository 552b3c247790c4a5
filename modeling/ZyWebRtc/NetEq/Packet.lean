import ZyWebRtc.Rtp.HeaderParser

namespace ZyWebRtc.NetEq

/-! The packets of NetEq and their order. -/

open Rtp (RTPHeader)

structure Packet where
  header : RTPHeader
  payload : Bytes
  primary : Bool
  waitingTime : Int
  syncPacket : Bool
  deriving DecidableEq, Repr

namespace Packet

def payloadLength (packet : Packet) : Nat := packet.payload.length

/-- `operator==`, which does not look at the payload. -/
def isSame (packet rhs : Packet) : Bool :=
  packet.header.timestamp = rhs.header.timestamp ∧
    packet.header.sequenceNumber = rhs.header.sequenceNumber ∧
    packet.primary = rhs.primary ∧ packet.syncPacket = rhs.syncPacket

/-- `operator<`. -/
def isBefore (packet rhs : Packet) : Bool :=
  if packet.header.timestamp = rhs.header.timestamp then
    if packet.header.sequenceNumber = rhs.header.sequenceNumber then
      if rhs.syncPacket then true
      else if packet.syncPacket then false
      else packet.primary && !rhs.primary
    else rhs.header.sequenceNumber - packet.header.sequenceNumber < 0xFFFF / 2
  else rhs.header.timestamp - packet.header.timestamp < 0xFFFFFFFF / 2

end Packet

end ZyWebRtc.NetEq
