import ZyWebRtc.Fec.Packet

namespace ZyWebRtc.Fec

/-! `RedPacket` and `ProducerFec::BuildRedPacket`. A step has no value when an
assertion fails or a copy leaves a buffer. -/

open Option Buffer

def kREDForFECHeaderLength : Nat := 1

structure RedPacket where
  data : Buffer
  length : Nat
  headerLength : Nat

namespace RedPacket

def new (memory : Buffer) (length : Nat) : RedPacket where
  data := memory
  length := length
  headerLength := 0

def createHeader (packet : RedPacket) (rtpHeader : Bytes) (headerLength : Nat)
    (redPlType plType : UInt8) : Option RedPacket := do
  if packet.length < headerLength + kREDForFECHeaderLength then none
  let header ← rtpHeader.bytesAt 0 headerLength
  let data ← copyHeader packet.data packet.length header redPlType
  let data ← data.copyIn packet.length headerLength [plType]
  pure { packet with data := data, headerLength := headerLength + kREDForFECHeaderLength }

def assignPayload (packet : RedPacket) (payload : Bytes) (length : Nat) : Option RedPacket := do
  if packet.length < packet.headerLength + length then none
  let bytes ← payload.bytesAt 0 length
  let data ← packet.data.copyIn packet.length packet.headerLength bytes
  pure { packet with data := data }

def bytes (packet : RedPacket) : Bytes := packet.data.slice 0 packet.length

end RedPacket

/-- `ProducerFec::BuildRedPacket`. -/
def buildRedPacket (memory : Buffer) (dataBuffer : Bytes) (payloadLength rtpHeaderLength : Nat)
    (redPlType : UInt8) : Option RedPacket := do
  let redPacket := RedPacket.new memory (payloadLength + kREDForFECHeaderLength + rtpHeaderLength)
  let second ← dataBuffer.byteAt 1
  let redPacket ← redPacket.createHeader dataBuffer rtpHeaderLength redPlType (second &&& 0x7f)
  redPacket.assignPayload (dataBuffer.drop rtpHeaderLength) payloadLength

def oneBlockPacket (header : Bytes) (redPlType plType : UInt8) (payload : Bytes) : Bytes :=
  withPayloadType header redPlType ++ plType :: payload

theorem createHeader_written (packet : RedPacket) {header : Bytes} (rest : Bytes)
    (redPlType plType : UInt8) (fixed : 2 ≤ header.length)
    (room : header.length + 1 ≤ packet.length) :
    ∃ data, packet.createHeader (header ++ rest) header.length redPlType plType =
        some { packet with data := data, headerLength := header.length + 1 } ∧
      data.slice 0 (header.length + 1) = withPayloadType header redPlType ++ [plType] := by
  have copied : (header ++ rest).bytesAt 0 header.length = some header := by
    rw [Bytes.bytesAt_inside (by simp)]
    simp
  have inside : header.length ≤ packet.length := by omega
  rcases copyHeader_inside packet.data redPlType fixed inside with
    ⟨headerData, headerCopied, headerSlice⟩
  refine ⟨headerData.overwrite header.length [plType], ?_, ?_⟩
  · unfold RedPacket.createHeader
    rw [if_neg (by simp only [kREDForFECHeaderLength]; omega), copied]
    simp only [bind_eq_bind, bind_some, headerCopied]
    rw [copyIn_inside _ (by simpa using room)]
    rfl
  · have typeSlice := slice_overwrite headerData header.length [plType]
    rw [slice_append, slice_overwrite_outside _ (by simp), headerSlice, Nat.zero_add]
    exact congrArg _ typeSlice

theorem assignPayload_written (packet : RedPacket) (payload : Bytes) {front : Bytes}
    (headerLength : packet.headerLength = front.length)
    (written : packet.data.slice 0 front.length = front)
    (room : packet.length = front.length + payload.length) :
    ∃ result, packet.assignPayload payload payload.length = some result ∧
      result.bytes = front ++ payload := by
  refine ⟨{ packet with data := packet.data.overwrite packet.headerLength payload }, ?_, ?_⟩
  · unfold RedPacket.assignPayload
    rw [if_neg (by omega), Bytes.bytesAt_inside (by simp), List.drop_zero, List.take_length]
    simp only [bind_eq_bind, bind_some]
    rw [copyIn_inside _ (by omega)]
    rfl
  · have payloadSlice := slice_overwrite packet.data front.length payload
    rw [← headerLength] at payloadSlice room written
    rw [RedPacket.bytes, room, slice_append, slice_overwrite_outside _ (by omega),
      written, Nat.zero_add]
    exact congrArg _ payloadSlice

theorem buildRedPacket_written (memory : Buffer) {header : Bytes} (payload : Bytes)
    (redPlType : UInt8) (fixed : 2 ≤ header.length) :
    ∃ redPacket, buildRedPacket memory (header ++ payload) payload.length header.length redPlType =
        some redPacket ∧
      redPacket.bytes = oneBlockPacket header redPlType (payloadTypeOf header) payload := by
  have second : (header ++ payload).byteAt 1 = some ((header.byteAt 1).getD 0) := by
    rw [Bytes.byteAt, List.getElem?_append_left (by omega)]
    exact Bytes.byteAt_inside (by omega)
  rcases createHeader_written
      (RedPacket.new memory (payload.length + kREDForFECHeaderLength + header.length)) payload
      redPlType ((header.byteAt 1).getD 0 &&& 0x7f) fixed
      (by simp only [RedPacket.new, kREDForFECHeaderLength]; omega) with
    ⟨data, created, headerSlice⟩
  have front : (withPayloadType header redPlType ++
      [(header.byteAt 1).getD 0 &&& 0x7f]).length = header.length + 1 := by simp
  rcases assignPayload_written { RedPacket.new memory
        (payload.length + kREDForFECHeaderLength + header.length) with
        data := data, headerLength := header.length + 1 } payload front.symm
      (front ▸ headerSlice)
      (by rw [front]; simp only [RedPacket.new, kREDForFECHeaderLength]; omega) with
    ⟨result, assigned, resultBytes⟩
  refine ⟨result, ?_, ?_⟩
  · simp only [buildRedPacket, second, bind_eq_bind, bind_some, created, List.drop_left, assigned]
  · rw [resultBytes, oneBlockPacket, List.append_assoc, List.singleton_append, payloadTypeOf]

end ZyWebRtc.Fec
