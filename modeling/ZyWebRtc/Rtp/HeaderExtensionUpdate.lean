import ZyWebRtc.Rtp.HeaderBuilder

namespace ZyWebRtc.Rtp

/-! `RTPSender::UpdateTransmissionTimeOffset` and `UpdateAbsoluteSendTime`, which put a new value
into the header extension of a finished packet. They take the place of the element from the
extensions registered now and from the parsed header of the packet. -/

def kRtpOneByteHeaderLength : Nat := 4

namespace RtpHeaderExtensionMap

/-- The bytes of an element, as `HeaderExtension` counts them. -/
def extensionLength : RTPExtensionType → Nat
  | .transmissionTimeOffset => 4
  | .audioLevel => 0
  | .absoluteSendTime => 4
  | .none => 0

def getLengthUntilBlockStartInBytes (map : RtpHeaderExtensionMap) (type : RTPExtensionType) : Int :=
  match map.getId type with
  | Option.none => -1
  | some _ =>
    (kRtpOneByteHeaderLength +
      (((map.inOrder.map Prod.snd).takeWhile (· ≠ type)).map extensionLength).sum : Nat)

/-- The common part of the two updates: the returned flag, and the packet. -/
def updateExtension (map : RtpHeaderExtensionMap) (type : RTPExtensionType) (value : UInt32)
    (rtpPacket : Bytes) (rtpPacketLength : UInt16) (rtpHeader : RTPHeader) :
    Option (Bool × Bytes) :=
  let extensionBlockPos := map.getLengthUntilBlockStartInBytes type
  if extensionBlockPos < 0 then some (false, rtpPacket)
  else
    -- The sources are counted as one byte each.
    let blockPos := 12 + rtpHeader.numCSRCs.toNat + extensionBlockPos.toNat
    if rtpPacketLength.toNat < blockPos + extensionLength type ∨
        rtpHeader.headerLength.toNat < blockPos + extensionLength type then
      some (false, rtpPacket)
    else do
      let first ← rtpPacket.byteAt (12 + rtpHeader.numCSRCs.toNat)
      let second ← rtpPacket.byteAt (12 + rtpHeader.numCSRCs.toNat + 1)
      if first ≠ 0xBE ∨ second ≠ 0xDE then pure (false, rtpPacket)
      else
        match map.getId type with
        | Option.none => pure (false, rtpPacket)
        | some id => do
          let firstBlockByte ← rtpPacket.byteAt blockPos
          if firstBlockByte ≠ (id <<< 4) + 2 then pure (false, rtpPacket)
          else do
            let updated ← rtpPacket.writeAt (blockPos + 1) (Bytes.uint24Bytes value)
            pure (true, updated)

/-- Milliseconds as a timestamp of 90 kHz. -/
def transmissionTimeOffset (timeDiffMs : Int64) : UInt32 := (timeDiffMs * 90).toUInt64.toUInt32

/-- Seconds with 18 bits behind the point. -/
def absoluteSendTime (nowMs : Int64) : UInt32 :=
  (((nowMs <<< 18) / 1000) &&& 0x00ffffff).toUInt64.toUInt32

variable (map : RtpHeaderExtensionMap) (rtpPacket : Bytes) (rtpPacketLength : UInt16)
  (rtpHeader : RTPHeader)

def updateTransmissionTimeOffset (timeDiffMs : Int64) :
    Option (Bool × Bytes) :=
  map.updateExtension .transmissionTimeOffset (transmissionTimeOffset timeDiffMs) rtpPacket
    rtpPacketLength rtpHeader

def updateAbsoluteSendTime (nowMs : Int64) :
    Option (Bool × Bytes) :=
  map.updateExtension .absoluteSendTime (absoluteSendTime nowMs) rtpPacket rtpPacketLength
    rtpHeader

end RtpHeaderExtensionMap

example : RtpHeaderExtensionMap.transmissionTimeOffset 100 = 9000 := by decide

example : RtpHeaderExtensionMap.absoluteSendTime 500 = 131072 := by decide

end ZyWebRtc.Rtp
