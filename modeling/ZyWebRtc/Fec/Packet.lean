import Mathlib.Data.Nat.Bitwise
import ZyWebRtc.Foundation.Buffer

namespace ZyWebRtc.Fec

/-! The packets that the forward error correction stores. A packet is a buffer of
`IP_PACKET_SIZE` bytes and the number of bytes in use. -/

open Buffer

def ipPacketSize : Nat := 1500

structure Packet where
  length : UInt16
  data : Buffer

namespace Packet

def bytes (packet : Packet) : Bytes := packet.data.slice 0 packet.length.toNat

def new : Packet where
  length := 0
  data := Buffer.zeros

@[simp] theorem bytes_length (packet : Packet) : packet.bytes.length = packet.length.toNat :=
  slice_length _ _ _

end Packet

/-- An element of the received list. -/
structure ReceivedPacket where
  seqNum : UInt16
  ssrc : UInt32
  isFec : Bool
  pkt : Packet

/-! ## RTP headers with another payload type -/

def setPayloadType (byte payloadType : UInt8) : UInt8 := (byte &&& 0x80) + payloadType

def copyHeader (data : Buffer) (capacity : Nat) (rtpHeader : Bytes) (payloadType : UInt8) :
    Option Buffer := do
  let data ← data.copyIn capacity 0 rtpHeader
  data.copyIn capacity 1 [setPayloadType (data 1) payloadType]

def withPayloadType (header : Bytes) (payloadType : UInt8) : Bytes :=
  header.modify 1 (setPayloadType · payloadType)

@[simp] theorem withPayloadType_length (header : Bytes) (payloadType : UInt8) :
    (withPayloadType header payloadType).length = header.length := by
  simp [withPayloadType]

theorem copyHeader_inside (data : Buffer) {capacity : Nat} {header : Bytes} (payloadType : UInt8)
    (fixed : 2 ≤ header.length) (inside : header.length ≤ capacity) :
    ∃ written, copyHeader data capacity header payloadType = some written ∧
      written.slice 0 header.length = withPayloadType header payloadType := by
  have second : (data.overwrite 0 header) (0 + 1) = header[1] :=
    overwrite_inside data fixed
  have copied : copyHeader data capacity header payloadType =
      some ((data.overwrite 0 header).overwrite (0 + 1) [setPayloadType header[1] payloadType]) := by
    rw [copyHeader, copyIn_inside data (by omega), Option.bind_eq_bind, Option.bind_some,
      copyIn_inside _ (by simp only [List.length_singleton]; omega), ← second]
  refine ⟨_, copied, ?_⟩
  rw [slice_overwrite_byte, slice_overwrite]
  match header, fixed with
  | _ :: _ :: _, _ => rfl

theorem markerBit_toNat (byte : UInt8) : (byte &&& 0x80).toNat = byte.toNat / 128 * 128 := by
  have bound := byte.toNat_lt
  rw [UInt8.toNat_and, show (0x80 : UInt8).toNat = 2 ^ 7 from rfl, Nat.and_two_pow,
    Nat.testBit_eq_decide_div_mod_eq]
  by_cases marked : byte.toNat / 2 ^ 7 % 2 = 1
  · rw [decide_eq_true marked, Bool.toNat_true]
    omega
  · rw [decide_eq_false marked, Bool.toNat_false]
    omega

theorem markerBit_setPayloadType (byte : UInt8) {payloadType : UInt8}
    (valid : payloadType < 0x80) :
    setPayloadType byte payloadType &&& 0x80 = byte &&& 0x80 := by
  apply UInt8.toNat_inj.mp
  have bound := byte.toNat_lt
  have small : payloadType.toNat < 128 := UInt8.lt_iff_toNat_lt.mp valid
  rw [markerBit_toNat, setPayloadType, UInt8.toNat_add, markerBit_toNat]
  omega

theorem setPayloadType_self (byte : UInt8) : setPayloadType byte (byte &&& 0x7f) = byte := by
  apply UInt8.toNat_inj.mp
  have bound := byte.toNat_lt
  rw [setPayloadType, UInt8.toNat_add, markerBit_toNat, UInt8.toNat_and,
    show (0x7f : UInt8).toNat = 2 ^ 7 - 1 from rfl, Nat.and_two_pow_sub_one_eq_mod]
  omega

theorem withPayloadType_withPayloadType (header : Bytes) {first : UInt8} (valid : first < 0x80)
    (second : UInt8) :
    withPayloadType (withPayloadType header first) second = withPayloadType header second := by
  match header with
  | [] => rfl
  | [_] => rfl
  | version :: byte :: rest =>
    change version :: setPayloadType (setPayloadType byte first) second :: rest =
      version :: setPayloadType byte second :: rest
    rw [setPayloadType, markerBit_setPayloadType byte valid, ← setPayloadType]

def payloadTypeOf (rtpHeader : Bytes) : UInt8 := (rtpHeader.byteAt 1).getD 0 &&& 0x7f

theorem payloadTypeOf_lt (rtpHeader : Bytes) : payloadTypeOf rtpHeader < 0x80 := by
  rw [UInt8.lt_iff_toNat_lt, payloadTypeOf, UInt8.toNat_and]
  exact Nat.lt_of_le_of_lt Nat.and_le_right (by decide)

theorem withPayloadType_payloadTypeOf (rtpHeader : Bytes) :
    withPayloadType rtpHeader (payloadTypeOf rtpHeader) = rtpHeader := by
  match rtpHeader with
  | [] => rfl
  | [_] => rfl
  | version :: byte :: rest =>
    change version :: setPayloadType byte (byte &&& 0x7f) :: rest = _
    rw [setPayloadType_self]

end ZyWebRtc.Fec
