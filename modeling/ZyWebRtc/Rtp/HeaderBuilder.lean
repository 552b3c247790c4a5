import ZyWebRtc.Foundation.NetworkOrder
import ZyWebRtc.Rtp.HeaderExtensionWalk
import ZyWebRtc.Rtp.HeaderParser

namespace ZyWebRtc.Rtp

/-! `RTPSender::CreateRTPHeader`. The header is the list of the bytes written
into the caller's buffer. The iteration over the registered extensions has no
bound in the source; it is followed for a number of steps, and without a value
when it has not ended then. -/

open Bytes

def kRtpMarkerBitMask : UInt8 := 0x80

/-- The part of the sender that the header is made from. The time offset is
signed, kept here in two's complement. -/
structure RTPSender where
  rtpHeaderExtensionMap : RtpHeaderExtensionMap
  transmissionTimeOffset : UInt32
  absoluteSendTime : UInt32

namespace RTPSender

variable (sender : RTPSender)

def threeByteElement (id : UInt8) (value : UInt32) : Bytes :=
  ((id <<< 4) + 2) :: uint24Bytes value

def buildTransmissionTimeOffsetExtension : Bytes :=
  match sender.rtpHeaderExtensionMap.getId .transmissionTimeOffset with
  | none => []
  | some id => threeByteElement id sender.transmissionTimeOffset

def buildAbsoluteSendTimeExtension : Bytes :=
  match sender.rtpHeaderExtensionMap.getId .absoluteSendTime with
  | none => []
  | some id => threeByteElement id sender.absoluteSendTime

/-- The branches of the loop in `BuildRTPHeaderExtension`. Audio levels are left
to `RTPSenderAudio`. -/
def buildExtension : RTPExtensionType → Bytes
  | .transmissionTimeOffset => sender.buildTransmissionTimeOffsetExtension
  | .audioLevel | .none => []
  | .absoluteSendTime => sender.buildAbsoluteSendTimeExtension

def buildExtensions : (fuel : Nat) → RTPExtensionType → Option Bytes
  | 0, _ => none
  | fuel + 1, type =>
    if type = .none then some []
    else do
      let rest ← buildExtensions fuel (sender.rtpHeaderExtensionMap.next type)
      pure (sender.buildExtension type ++ rest)

/-- What is added behind the contributing sources. -/
def buildRTPHeaderExtension (fuel : Nat) : Option Bytes :=
  if sender.rtpHeaderExtensionMap.size = 0 then some []
  else do
    let blocks ← sender.buildExtensions fuel sender.rtpHeaderExtensionMap.first
    let totalBlockLength := UInt16.ofNat blocks.length
    if totalBlockLength = 0 then pure []
    else
      pure (uint16Bytes kRtpOneByteHeaderExtensionId ++
        uint16Bytes (totalBlockLength / 4) ++ blocks)

/-- The returned length, and the bytes written. -/
def createRTPHeader (fuel : Nat) (payloadType : UInt8) (ssrc : UInt32) (markerBit : Bool)
    (timestamp : UInt32) (sequenceNumber : UInt16) (csrcs : List UInt32) :
    Option (Int × Bytes) :=
  let second := if markerBit then payloadType ||| kRtpMarkerBitMask else payloadType
  let fixed := second :: (uint16Bytes sequenceNumber ++ uint32Bytes timestamp ++ uint32Bytes ssrc)
  if kRtpCsrcSize < csrcs.length then some (-1, 0x80 :: fixed)
  else do
    let first : UInt8 :=
      if csrcs.length = 0 then 0x80 else (0x80 &&& 0xf0) ||| UInt8.ofNat csrcs.length
    let extension ← sender.buildRTPHeaderExtension fuel
    let first := if extension.length = 0 then first else first ||| 0x10
    pure (12 + 4 * csrcs.length + extension.length,
      first :: (fixed ++ csrcs.flatMap uint32Bytes ++ extension))

end RTPSender

end ZyWebRtc.Rtp
