import ZyWebRtc.Fec.Packet
import ZyWebRtc.Rtp.HeaderParser

namespace ZyWebRtc.Fec

/-! `FecReceiverImpl::AddReceivedRedPacket`. It has no value when it reads outside
the incoming packet, copies a negative number of bytes, or leaves the buffer of a
packet. -/

open Rtp (RTPHeader)

/-- What the RED headers say. -/
structure RedHeader where
  redHeaderLength : Nat
  blockLength : UInt16
  deriving DecidableEq, Repr

/-- The RED headers from `offset` on; without a header inside when they are corrupt. -/
def readRedHeader (incoming : Bytes) (offset : Nat) (payloadDataLength : UInt16) :
    Option (Option RedHeader) := do
  let first ← incoming.byteAt offset
  if first &&& 0x80 = 0 then pure (some { redHeaderLength := 1, blockLength := 0 })
  else do
    let timestamp ← incoming.uint16At (offset + 1)
    if timestamp >>> 2 ≠ 0 then pure none
    else do
      let third ← incoming.byteAt (offset + 2)
      let fourth ← incoming.byteAt (offset + 3)
      let blockLength := ((0x03 &&& third).toUInt16 <<< 8) + fourth.toUInt16
      let second ← incoming.byteAt (offset + 4)
      if second &&& 0x80 ≠ 0 then pure none
      else if (payloadDataLength.toNat : Int) - 4 < blockLength.toNat then pure none
      else pure (some { redHeaderLength := 4, blockLength := blockLength })

def payloadBehind (payloadDataLength : UInt16) (skipped : Nat) : Option Nat :=
  if skipped ≤ payloadDataLength.toNat then some (payloadDataLength.toNat - skipped) else none

/-- The buffer of a media packet: the RTP header with the payload type of the block, and
`count` bytes of the incoming packet behind it. -/
def copyMedia (incoming : Bytes) (headerLength : Nat) (payloadType : UInt8) (offset count : Nat) :
    Option Buffer := do
  let rtpHeader ← incoming.bytesAt 0 headerLength
  let data ← copyHeader Packet.new.data ipPacketSize rtpHeader payloadType
  let payload ← incoming.bytesAt offset count
  data.copyIn ipPacketSize headerLength payload

def copyFec (incoming : Bytes) (offset count : Nat) : Option Buffer := do
  let payload ← incoming.bytesAt offset count
  Packet.new.data.copyIn ipPacketSize 0 payload

section

variable (unset : UInt32) (header : RTPHeader) (incoming : Bytes) (payloadDataLength : UInt16)

def splitBlocks (payloadType : UInt8) (isFec : Bool) (blockLength : UInt16) :
    Option (ReceivedPacket × Option ReceivedPacket) := do
  let headerLength := header.headerLength.toNat
  let data ← copyMedia incoming headerLength payloadType (headerLength + 5) blockLength.toNat
  let count ← payloadBehind payloadDataLength (5 + blockLength.toNat)
  let fec ← copyFec incoming (headerLength + 5 + blockLength.toNat) count
  pure ({ seqNum := header.sequenceNumber, ssrc := unset, isFec := isFec,
          pkt := { length := blockLength, data := data } },
    some { seqNum := header.sequenceNumber, ssrc := unset, isFec := true,
           pkt := { length := payloadDataLength - 5 - blockLength, data := fec } })

def fecBlock (header : RTPHeader) (incoming : Bytes) (payloadDataLength : UInt16)
    (redHeaderLength : Nat) : Option ReceivedPacket := do
  let count ← payloadBehind payloadDataLength redHeaderLength
  let fec ← copyFec incoming (header.headerLength.toNat + redHeaderLength) count
  let ssrc ← incoming.uint32At 8
  pure { seqNum := header.sequenceNumber, ssrc := ssrc, isFec := true,
         pkt := { length := payloadDataLength - UInt16.ofNat redHeaderLength, data := fec } }

def mediaBlock (redHeaderLength : Nat) (payloadType : UInt8) :
    Option ReceivedPacket := do
  let headerLength := header.headerLength.toNat
  let count ← payloadBehind payloadDataLength redHeaderLength
  let data ← copyMedia incoming headerLength payloadType (headerLength + redHeaderLength) count
  pure { seqNum := header.sequenceNumber, ssrc := unset, isFec := false,
         pkt := { length := header.headerLength + payloadDataLength - UInt16.ofNat redHeaderLength,
                  data := data } }

def redBlocks (payloadType : UInt8) (isFec : Bool) (red : RedHeader) :
    Option (ReceivedPacket × Option ReceivedPacket) :=
  if 0 < red.blockLength then
    splitBlocks unset header incoming payloadDataLength payloadType isFec red.blockLength
  else if isFec then
    (fecBlock header incoming payloadDataLength red.redHeaderLength).map (·, none)
  else
    (mediaBlock unset header incoming payloadDataLength red.redHeaderLength payloadType).map (·, none)

end

/-- The returned code and the received list. The constructor of `ReceivedPacket` does not
set the SSRC: `unset` is what its memory holds. -/
def addReceivedRedPacket (unset : UInt32) (header : RTPHeader) (incoming : Bytes)
    (ulpfecPayloadType : UInt8) (receivedPacketList : List ReceivedPacket) :
    Option (Int × List ReceivedPacket) := do
  let payloadDataLength := UInt16.ofNat incoming.length - header.headerLength
  let first ← incoming.byteAt header.headerLength.toNat
  let payloadType := first &&& 0x7f
  let isFec : Bool := payloadType = ulpfecPayloadType
  match ← readRedHeader incoming header.headerLength.toNat payloadDataLength with
  | none => pure (-1, receivedPacketList)
  | some red => do
    let (received, second) ← redBlocks unset header incoming payloadDataLength payloadType isFec red
    if received.pkt.length = 0 then pure (0, receivedPacketList)
    else pure (0, receivedPacketList ++ received :: second.toList)

end ZyWebRtc.Fec
