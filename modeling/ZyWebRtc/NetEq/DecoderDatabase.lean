import ZyWebRtc.Foundation.SortedMap
import ZyWebRtc.NetEq.Packet

namespace ZyWebRtc.NetEq

/-! The decoders that are registered for the payload types. -/

inductive NetEqDecoder
  | pcmu | pcma | pcmu2ch | pcma2ch | ilbc | isac | isacSwb | isacFb
  | pcm16B | pcm16BWb | pcm16BSwb32kHz | pcm16BSwb48kHz
  | pcm16B2ch | pcm16BWb2ch | pcm16BSwb32kHz2ch | pcm16BSwb48kHz2ch | pcm16B5ch
  | g722 | g7222ch | red | avt | cngNb | cngWb | cngSwb32kHz | cngSwb48kHz
  | arbitrary | opus | opus2ch | celt32 | celt322ch
  deriving DecidableEq, Repr

structure AudioDecoder where
  codecType : NetEqDecoder
  channels : Nat
  deriving DecidableEq, Repr

/-- `decoder` is there from the first use on. -/
structure DecoderInfo where
  codecType : NetEqDecoder
  fsHz : Int
  decoder : Option AudioDecoder
  external : Bool
  deriving DecidableEq, Repr

structure DecoderDatabase where
  decoders : List (UInt8 × DecoderInfo)
  deriving DecidableEq, Repr

namespace DecoderDatabase

section

variable (database : DecoderDatabase) (rtpPayloadType : UInt8)

def getDecoderInfo : Option DecoderInfo :=
  SortedMap.find rtpPayloadType database.decoders

def isType (codecType : NetEqDecoder) :
    Bool :=
  match database.getDecoderInfo rtpPayloadType with
  | none => false
  | some info => info.codecType = codecType

def isComfortNoise : Bool :=
  database.isType rtpPayloadType .cngNb || database.isType rtpPayloadType .cngWb ||
    database.isType rtpPayloadType .cngSwb32kHz || database.isType rtpPayloadType .cngSwb48kHz

def isDtmf : Bool :=
  database.isType rtpPayloadType .avt

end

end DecoderDatabase

end ZyWebRtc.NetEq
