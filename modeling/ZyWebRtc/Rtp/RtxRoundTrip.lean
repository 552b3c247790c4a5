import ZyWebRtc.Foundation.ByteBuffer
import ZyWebRtc.Rtp.AcceptedPackets
import ZyWebRtc.Rtp.HeaderRoundTrip
import ZyWebRtc.Rtp.RtxPacket

namespace ZyWebRtc.Rtp

/-! When a packet that is sent again with RTX is restored as it was. -/

open Option Bytes Buffer List

/-! ## The packet that is built -/

namespace RtxSender

variable (sender : RtxSender) (header : RTPHeader) (buffer : Bytes)

/-- The copied header in its buffer, with the type, the number and the source of the RTX
stream. -/
def rewrittenHeader (dataBufferRtx : Buffer) : Buffer :=
  let copied := dataBufferRtx.overwrite 0 (buffer.take header.headerLength.toNat)
  let typed := if sender.payloadTypeRtx ≠ -1 then
      copied.overwrite 1 [typeByte sender.payloadTypeRtx header.markerBit]
    else copied
  (typed.overwrite 2 (uint16Bytes sender.sequenceNumberRtx)).overwrite 8
    (uint32Bytes sender.ssrcRtx)

def rewritten (dataBufferRtx : Buffer) : Buffer :=
  ((sender.rewrittenHeader header buffer dataBufferRtx).overwrite header.headerLength.toNat
    (uint16Bytes header.sequenceNumber)).overwrite (header.headerLength.toNat + 2)
      (buffer.drop header.headerLength.toNat)

variable {sender header buffer}

theorem copyIn_fixedHeader (target : Buffer) (byte : UInt8) (number : UInt16) (ssrc : UInt32) :
    target.copyIn IP_PACKET_SIZE 1 [byte] = some (target.overwrite 1 [byte]) ∧
      target.copyIn IP_PACKET_SIZE 2 (uint16Bytes number) =
        some (target.overwrite 2 (uint16Bytes number)) ∧
      target.copyIn IP_PACKET_SIZE 8 (uint32Bytes ssrc) =
        some (target.overwrite 8 (uint32Bytes ssrc)) :=
  ⟨rfl, rfl, rfl⟩

/-- The packet is built exactly when it has room for two more bytes. -/
theorem buildRtxPacket_eq {unsetHeader : RTPHeader} (dataBufferRtx : Buffer)
    (parsed : parse buffer none unsetHeader = some (true, header))
    (inside : header.headerLength.toNat ≤ buffer.length) :
    sender.buildRtxPacket unsetHeader dataBufferRtx buffer =
      if buffer.length + 2 ≤ IP_PACKET_SIZE then
        some ((sender.rewritten header buffer dataBufferRtx).slice 0 (buffer.length + 2),
          { sender with sequenceNumberRtx := sender.sequenceNumberRtx + 1 })
      else none := by
  have front : buffer.bytesAt 0 header.headerLength.toNat =
      some (buffer.take header.headerLength.toNat) := by
    rw [bytesAt_inside (by omega), drop_zero]
  have back : buffer.bytesAt header.headerLength.toNat (buffer.length - header.headerLength.toNat) =
      some (buffer.drop header.headerLength.toNat) := by
    rw [bytesAt_inside (by omega), take_of_length_le (by simp)]
  have room : header.headerLength.toNat + 2 + (buffer.drop header.headerLength.toNat).length =
      buffer.length + 2 := by
    rw [length_drop]
    omega
  rw [buildRtxPacket, parsed]
  simp only [bind_eq_bind, bind_some, front, back]
  by_cases fits : buffer.length + 2 ≤ IP_PACKET_SIZE
  · have size : IP_PACKET_SIZE = 1500 := rfl
    have copied : 0 + (buffer.take header.headerLength.toNat).length ≤ IP_PACKET_SIZE := by
      rw [length_take]
      omega
    have numbered : header.headerLength.toNat +
        (uint16Bytes header.sequenceNumber).length ≤ IP_PACKET_SIZE := by
      rw [uint16Bytes_length]
      omega
    rw [if_pos fits, copyIn_inside _ copied, rewritten, rewrittenHeader]
    have type (target : Buffer) (byte : UInt8) := (copyIn_fixedHeader target byte 0 0).1
    have number (target : Buffer) (number : UInt16) := (copyIn_fixedHeader target 0 number 0).2.1
    have source (target : Buffer) (ssrc : UInt32) := (copyIn_fixedHeader target 0 0 ssrc).2.2
    by_cases typed : sender.payloadTypeRtx ≠ -1
    · simp only [if_pos typed, bind_some, type, number, source,
        copyIn_inside _ numbered, copyIn_inside _ (room.trans_le fits),
        Option.pure_def]
    · simp only [if_neg typed, bind_some, number, source,
        copyIn_inside _ numbered, copyIn_inside _ (room.trans_le fits),
        Option.pure_def]
  · have last (target : Buffer) : target.copyIn IP_PACKET_SIZE (header.headerLength.toNat + 2)
        (buffer.drop header.headerLength.toNat) = none := by
      rw [copyIn, room, if_neg fits]
    simp only [last, if_neg fits, bind_none, bind_fun_none, ite_self]

theorem rewritten_slice (dataBufferRtx : Buffer)
    (inside : header.headerLength.toNat ≤ buffer.length) :
    (sender.rewritten header buffer dataBufferRtx).slice 0 (buffer.length + 2) =
      (sender.rewrittenHeader header buffer dataBufferRtx).slice 0 header.headerLength.toNat ++
        (uint16Bytes header.sequenceNumber ++ buffer.drop header.headerLength.toNat) := by
  have payload : (buffer.drop header.headerLength.toNat).length =
      buffer.length - header.headerLength.toNat := length_drop
  rw [rewritten, show buffer.length + 2 = header.headerLength.toNat +
    (2 + (buffer.length - header.headerLength.toNat)) by omega, slice_append,
    slice_append, Nat.zero_add]
  have number := slice_overwrite (sender.rewrittenHeader header buffer dataBufferRtx)
    header.headerLength.toNat (uint16Bytes header.sequenceNumber)
  rw [uint16Bytes_length] at number
  rw [slice_overwrite_outside _ (by omega), slice_overwrite_outside _ (by omega),
    slice_overwrite_outside _ (Or.inl (Nat.le_refl _)), number, ← payload,
    slice_overwrite]

section

variable (dataBufferRtx : Buffer) {position : Nat} (before : position < header.headerLength.toNat)
  (inside : header.headerLength.toNat ≤ buffer.length)

include before inside

theorem copied_byteAt : buffer.byteAt position = some
      (dataBufferRtx.overwrite 0 (buffer.take header.headerLength.toNat) position) := by
  have taken : position < (buffer.take header.headerLength.toNat).length := by
    rw [length_take]
    omega
  have copied : dataBufferRtx.overwrite 0 (buffer.take header.headerLength.toNat) (0 + position) =
      (buffer.take header.headerLength.toNat)[position] := overwrite_inside _ taken
  rw [Nat.zero_add, getElem_take] at copied
  rw [copied, Bytes.byteAt, List.getElem?_eq_getElem]

theorem rewrittenHeader_kept (type : position ≠ 1 ∨ sender.payloadTypeRtx = -1)
    (fields : position < 2 ∨ 4 ≤ position ∧ position < 8 ∨ 12 ≤ position) :
    buffer.byteAt position =
      some (sender.rewrittenHeader header buffer dataBufferRtx position) := by
  rw [rewrittenHeader, overwrite_outside _ (by rw [uint32Bytes_length]; omega),
    overwrite_outside _ (by rw [uint16Bytes_length]; omega)]
  have copied := copied_byteAt dataBufferRtx before inside
  split
  case isTrue typed =>
    rw [overwrite_outside _ (by rw [length_singleton]; omega)]
    exact copied
  case isFalse untyped => exact copied

end

theorem rewrittenHeader_type (dataBufferRtx : Buffer) (typed : sender.payloadTypeRtx ≠ -1) :
    sender.rewrittenHeader header buffer dataBufferRtx 1 =
      typeByte sender.payloadTypeRtx header.markerBit := by
  rw [rewrittenHeader, overwrite_outside _ (Or.inl (by decide)),
    overwrite_outside _ (Or.inl (by decide)), if_pos typed]
  exact overwrite_inside _ (show 0 < [typeByte _ _].length from Nat.one_pos)

/-- What is said of the packet that is built: its header is the original one up to the type,
the number and the source, and the original number follows. -/
structure IsRtxPacket (sender : RtxSender) (header : RTPHeader) (buffer rtx : Bytes) : Prop where
  length : rtx.length = buffer.length + 2
  kept : ∀ position < header.headerLength.toNat, position ≠ 1 ∨ sender.payloadTypeRtx = -1 →
      position < 2 ∨ 4 ≤ position ∧ position < 8 ∨ 12 ≤ position →
        rtx.byteAt position = buffer.byteAt position
  type : sender.payloadTypeRtx ≠ -1 →
    rtx.byteAt 1 = some (typeByte sender.payloadTypeRtx header.markerBit)
  number : rtx.uint16At header.headerLength.toNat = some header.sequenceNumber
  payload : rtx.bytesAt (header.headerLength.toNat + 2)
      (buffer.length - header.headerLength.toNat) =
    some (buffer.drop header.headerLength.toNat)

theorem isRtxPacket_rewritten (dataBufferRtx : Buffer) (long : 12 ≤ header.headerLength.toNat)
    (inside : header.headerLength.toNat ≤ buffer.length) :
    IsRtxPacket sender header buffer
      ((sender.rewritten header buffer dataBufferRtx).slice 0 (buffer.length + 2)) := by
  rw [rewritten_slice dataBufferRtx inside]
  generalize frontEq : (sender.rewrittenHeader header buffer dataBufferRtx).slice 0
    header.headerLength.toNat = front
  have frontLength : front.length = header.headerLength.toNat := by
    rw [← frontEq, slice_length]
  have frontByte (position : Nat) (before : position < header.headerLength.toNat)
      (rest : Bytes) : (front ++ rest).byteAt position =
        some (sender.rewrittenHeader header buffer dataBufferRtx position) := by
    rw [Bytes.byteAt, List.getElem?_append_left (by omega), ← frontEq,
      Buffer.slice_getElem? _ before, Nat.zero_add]
  exact {
    length := by
      simp only [length_append, frontLength, uint16Bytes_length, length_drop]
      omega
    kept := fun position before type fields => by
      rw [frontByte position before, rewrittenHeader_kept dataBufferRtx before inside type fields]
    type := fun typed => by
      rw [frontByte 1 (by omega), rewrittenHeader_type dataBufferRtx typed]
    number := by
      have read := uint16At_append front
        (uint16Bytes header.sequenceNumber ++ buffer.drop header.headerLength.toNat) 0
      rw [Nat.add_zero, frontLength, uint16At_uint16Bytes] at read
      exact read
    payload := by
      have read := bytesAt_middle
        (front ++ uint16Bytes header.sequenceNumber) []
        (buffer.drop header.headerLength.toNat)
      rw [append_nil, append_assoc, length_append, frontLength,
        uint16Bytes_length, length_drop] at read
      exact read }

end RtxSender

/-! ## The packet that is restored -/

theorem bytesAt_of_uint16At {data : Bytes} {offset : Nat} {word : UInt16}
    (read : data.uint16At offset = some word) :
    data.bytesAt offset 2 = some (uint16Bytes word) := by
  rw [Bytes.uint16At] at read
  simp only [bind_eq_bind, bind_eq_some_iff, Option.pure_def, Option.some.injEq]
    at read
  rcases read with ⟨high, highAt, low, lowAt, rfl⟩
  have inside := lt_length_of_byteAt lowAt
  rw [bytesAt_inside (by omega), ByteBuffer.uint16Bytes_join]
  rw [Bytes.byteAt, List.getElem?_eq_some_iff] at highAt lowAt
  rcases highAt with ⟨highInside, rfl⟩
  rcases lowAt with ⟨lowInside, rfl⟩
  rw [drop_eq_getElem_cons highInside, drop_eq_getElem_cons lowInside]
  rfl

theorem bytesAt_of_uint32At {data : Bytes} {offset : Nat} {word : UInt32}
    (read : data.uint32At offset = some word) :
    data.bytesAt offset 4 = some (uint32Bytes word) := by
  rw [Bytes.uint32At, Bytes.uint24At] at read
  simp only [bind_eq_bind, bind_eq_some_iff, Option.pure_def, Option.some.injEq]
    at read
  rcases read with ⟨first, firstAt, -, ⟨second, secondAt, third, thirdAt, fourth, fourthAt, rfl⟩,
    rfl⟩
  have inside := lt_length_of_byteAt fourthAt
  rw [bytesAt_inside (by omega), ByteBuffer.uint32Bytes_join]
  rw [Bytes.byteAt, List.getElem?_eq_some_iff] at firstAt secondAt thirdAt fourthAt
  rcases firstAt with ⟨firstInside, rfl⟩
  rcases secondAt with ⟨secondInside, rfl⟩
  rcases thirdAt with ⟨thirdInside, rfl⟩
  rcases fourthAt with ⟨fourthInside, rfl⟩
  rw [drop_eq_getElem_cons firstInside, drop_eq_getElem_cons secondInside,
    drop_eq_getElem_cons thirdInside, drop_eq_getElem_cons fourthInside]
  rfl

theorem byteAt_overwrite_own {data bytes : Bytes} {target : Buffer} {offset position : Nat}
    (own : data.bytesAt offset bytes.length = some bytes)
    (kept : position < offset ∨ offset + bytes.length ≤ position →
      data.byteAt position = some (target position)) :
    data.byteAt position = some (target.overwrite offset bytes position) := by
  by_cases outside : position < offset ∨ offset + bytes.length ≤ position
  · rw [overwrite_outside _ outside]
    exact kept outside
  rcases Nat.exists_eq_add_of_le (show offset ≤ position by omega) with ⟨index, rfl⟩
  have inside : index < bytes.length := by omega
  rw [overwrite_inside _ inside, ← List.getElem?_eq_getElem]
  rw [Bytes.bytesAt] at own
  split at own
  case isTrue fits =>
    have same := congrArg (·[index]?) (Option.some.inj own)
    simp only [List.getElem?_take_of_lt inside, List.getElem?_drop] at same
    exact same
  case isFalse => cases own

theorem slice_eq_of_byteAt {data : Bytes} {target : Buffer}
    (found : ∀ position < data.length, data.byteAt position = some (target position)) :
    target.slice 0 data.length = data := by
  apply ext_getElem (slice_length target 0 data.length)
  intro position _ inside
  have same := found position inside
  rw [Bytes.byteAt, List.getElem?_eq_getElem inside, Option.some.injEq] at same
  rw [same]
  simp [slice]

namespace RtxRegistry

variable {registry : RtxRegistry} {header : RTPHeader} {buffer rtx : Bytes} {ssrc : UInt32}

/-- The restored buffer before the type is written. -/
def restored (header : RTPHeader) (rtx payload : Bytes) (number : UInt16) (ssrc : UInt32)
    (restoredPacket : Buffer) : Buffer :=
  (((restoredPacket.overwrite 0 (rtx.take header.headerLength.toNat)).overwrite
    header.headerLength.toNat payload).overwrite 2 (uint16Bytes number)).overwrite 8
      (uint32Bytes ssrc)

theorem restoreOriginalPacket_eq {payload : Bytes} {number : UInt16} (restoredPacket : Buffer)
    (long : 2 + header.headerLength.toNat ≤ rtx.length) (fits : rtx.length ≤ IP_PACKET_SIZE + 2)
    (numberAt : rtx.uint16At header.headerLength.toNat = some number)
    (payloadAt : rtx.bytesAt (header.headerLength.toNat + 2)
      (rtx.length - 2 - header.headerLength.toNat) = some payload) :
    registry.restoreOriginalPacket restoredPacket rtx ssrc header =
      if registry.payloadTypeRtx = -1 then
        some (true, restored header rtx payload number ssrc restoredPacket, rtx.length - 2)
      else if (header.payloadType.toNat : Int) = registry.payloadTypeRtx ∧
          registry.incomingPayloadType ≠ -1 then
        some (true, (restored header rtx payload number ssrc restoredPacket).overwrite 1
          [RtxSender.typeByte registry.incomingPayloadType header.markerBit], rtx.length - 2)
      else some (false, restored header rtx payload number ssrc restoredPacket, rtx.length - 2) := by
  have front : rtx.bytesAt 0 header.headerLength.toNat =
      some (rtx.take header.headerLength.toNat) := by
    rw [bytesAt_inside (by omega), drop_zero]
  have payloadLength : payload.length = rtx.length - 2 - header.headerLength.toNat := by
    rw [bytesAt_inside (by omega), Option.some.injEq] at payloadAt
    rw [← payloadAt, length_take, length_drop]
    omega
  have copied : 0 + (rtx.take header.headerLength.toNat).length ≤ IP_PACKET_SIZE := by
    rw [length_take]
    omega
  have room : header.headerLength.toNat + payload.length ≤ IP_PACKET_SIZE := by omega
  have type (target : Buffer) (byte : UInt8) :=
    (RtxSender.copyIn_fixedHeader target byte 0 0).1
  have word (target : Buffer) (number : UInt16) :=
    (RtxSender.copyIn_fixedHeader target 0 number 0).2.1
  have source (target : Buffer) (ssrc : UInt32) :=
    (RtxSender.copyIn_fixedHeader target 0 0 ssrc).2.2
  rw [restoreOriginalPacket, kRtxHeaderSize, if_neg (by omega)]
  simp only [bind_eq_bind, bind_some, front, numberAt, payloadAt, type, word, source,
    copyIn_inside _ copied, copyIn_inside _ room, Option.pure_def]
  by_cases untyped : registry.payloadTypeRtx = -1
  · rw [if_neg (not_not.mpr untyped), if_pos untyped]
    rfl
  · rw [if_pos untyped, if_neg untyped]
    rfl

end RtxRegistry

/-! ## The round trip -/

theorem typeByte_fields (payloadType : Int) (valid : 0 ≤ payloadType ∧ payloadType ≤ 127)
    (markerBit : Bool) :
    ((RtxSender.typeByte payloadType markerBit &&& 0x7f).toNat : Int) = payloadType ∧
      decide (RtxSender.typeByte payloadType markerBit &&& 0x80 ≠ 0) = markerBit := by
  rcases Int.eq_ofNat_of_zero_le valid.1 with ⟨value, rfl⟩
  have fits : UInt8.ofNat value < 0x80 := by
    rw [UInt8.lt_iff_toNat_lt, UInt8.toNat_ofNat', show (0x80 : UInt8).toNat = 128 from rfl]
    omega
  have fields := secondByte_fields (UInt8.ofNat value) fits markerBit
  have same : RtxSender.typeByte value markerBit = secondByte (UInt8.ofNat value) markerBit := by
    rw [RtxSender.typeByte, secondByte, UInt8.ofInt,
      show Int.toNat ((value : Int) % 2 ^ 8) = value by omega]
  rw [same, fields.1, UInt8.toNat_ofNat']
  refine ⟨by omega, ?_⟩
  cases markerBit with
  | true => exact decide_eq_true (fields.2.mpr rfl)
  | false => exact decide_eq_false fun set => Bool.false_ne_true (fields.2.mp set)

theorem typeByte_restored : ∀ byte : UInt8,
    RtxSender.typeByte ((byte &&& 0x7f).toNat : Int) (decide (byte &&& 0x80 ≠ 0)) = byte := by
  intro byte
  cases byte with
  | ofBitVec bits =>
    cases bits with
    | ofFin value =>
      revert value
      decide +kernel

/-- The packet built for `packet` stays inside its buffer, and with the header that is read
from it the registry restores `packet`. -/
def RtxRoundTrips (sender : RtxSender) (registry : RtxRegistry)
    (extensionMap : Option RtpHeaderExtensionMap) (unsetHeader : RTPHeader)
    (dataBufferRtx restoredPacket : Buffer) (packet : Bytes) (originalSsrc : UInt32) : Prop :=
  ∃ rtx next, sender.buildRtxPacket unsetHeader dataBufferRtx packet = some (rtx, next) ∧
    rtx.length ≤ IP_PACKET_SIZE ∧
    ∃ header, parse rtx extensionMap unsetHeader = some (true, header) ∧
      ∃ restored, registry.restoreOriginalPacket restoredPacket rtx originalSsrc header =
          some (true, restored, packet.length) ∧
        restored.slice 0 packet.length = packet

section RoundTrip

variable {sender : RtxSender} {registry : RtxRegistry}
  {extensionMap : Option RtpHeaderExtensionMap} {unsetHeader initial header : RTPHeader}
  {dataBufferRtx restoredPacket : Buffer} {packet : Bytes}

section

variable (parsed : parse packet extensionMap initial = some (true, header))

include parsed

theorem exists_parse_plain (unsetHeader : RTPHeader) :
    ∃ plain, parse packet none unsetHeader = some (true, plain) ∧
      plain.headerLength = header.headerLength ∧ plain.markerBit = header.markerBit ∧
      plain.sequenceNumber = header.sequenceNumber := by
  have accepted := accepted_of_parse parsed
  have plainAccepted : Accepted packet none :=
    ⟨accepted.1.minLength, accepted.1.version, accepted.1.inside, fun _ _ _ member => by
      cases member⟩
  rcases plainAccepted.exists_parse unsetHeader with ⟨plain, plainParsed⟩
  have fields := fixedFields_of_parse parsed
  have plainFields := fixedFields_of_parse plainParsed
  refine ⟨plain, plainParsed, ?_, ?_, ?_⟩
  · apply UInt16.toNat_inj.mp
    rw [(accepted_of_parse plainParsed).2, accepted.2]
  · rw [plainFields.markerBit, fields.markerBit]
  · exact Option.some.inj (plainFields.sequenceNumber.symm.trans fields.sequenceNumber)

theorem fits_of_rtxRoundTrips {ssrc : UInt32}
    (roundTrips : RtxRoundTrips sender registry extensionMap unsetHeader
      dataBufferRtx restoredPacket packet ssrc) : packet.length + 2 ≤ IP_PACKET_SIZE := by
  rcases roundTrips with ⟨rtx, next, built, -⟩
  rcases exists_parse_plain parsed unsetHeader with ⟨plain, plainParsed, -⟩
  rw [RtxSender.buildRtxPacket_eq dataBufferRtx plainParsed
    (headerLength_le_of_accepted plainParsed)] at built
  by_contra long
  rw [if_neg long] at built
  cases built

end

section Built

variable {rtx : Bytes} {plain : RTPHeader}

theorem RtxSender.IsRtxPacket.sameHeader (accepted : Accepted packet extensionMap)
    (length : header.headerLength.toNat = parsedLength packet)
    (built : sender.IsRtxPacket header packet rtx) : SameHeader packet rtx := by
  have after := twelve_le_extensionOffset packet
  have later := extensionOffset_le_parsedLength packet
  have longer := built.length
  have inside := accepted.inside
  exact {
    first := built.kept 0 (by omega) (Or.inl Nat.zero_ne_one) (Or.inl Nat.two_pos)
    rest := ⟨inside, by omega, fun position behind before =>
      built.kept position (by omega) (Or.inl (by omega)) (Or.inr (Or.inr behind))⟩
    longer := by omega }

theorem RtxSender.IsRtxPacket.payloadType {rtxHeader : RTPHeader}
    (built : sender.IsRtxPacket plain packet rtx) (fields : FixedFields rtx rtxHeader)
    (typed : sender.payloadTypeRtx ≠ -1) (valid : 0 ≤ sender.payloadTypeRtx ∧
      sender.payloadTypeRtx ≤ 127) :
    (rtxHeader.payloadType.toNat : Int) = sender.payloadTypeRtx ∧
      rtxHeader.markerBit = plain.markerBit := by
  have second : (rtx.byteAt 1).getD 0 =
      RtxSender.typeByte sender.payloadTypeRtx plain.markerBit := by
    rw [built.type typed, getD_some]
  rw [fields.payloadType, fields.markerBit, second]
  exact typeByte_fields sender.payloadTypeRtx valid plain.markerBit

theorem byteAt_restored (built : sender.IsRtxPacket plain packet rtx)
    (fields : FixedFields packet plain) (inside : plain.headerLength.toNat ≤ packet.length)
    (length : header.headerLength = plain.headerLength) (restoredPacket : Buffer)
    {position : Nat} (before : position < packet.length)
    (type : position ≠ 1 ∨ sender.payloadTypeRtx = -1) :
    packet.byteAt position = some (RtxRegistry.restored header rtx
      (packet.drop plain.headerLength.toNat) plain.sequenceNumber plain.ssrc restoredPacket
      position) := by
  rw [RtxRegistry.restored, length]
  apply byteAt_overwrite_own (bytesAt_of_uint32At fields.ssrc)
  intro source
  apply byteAt_overwrite_own (bytesAt_of_uint16At fields.sequenceNumber)
  intro number
  rw [uint16Bytes_length] at number
  rw [uint32Bytes_length] at source
  apply byteAt_overwrite_own
  · rw [bytesAt_inside (by rw [length_drop]; omega), take_length]
  intro header
  rw [length_drop] at header
  have copied := RtxSender.copied_byteAt restoredPacket
    (show position < plain.headerLength.toNat by omega)
    (show plain.headerLength.toNat ≤ rtx.length by rw [built.length]; omega)
  rw [← built.kept position (by omega) type (by omega)]
  exact copied

end Built

/-- With the type of seven bits, and room for two more bytes, the packet is restored. -/
theorem rtxRoundTrips_of_valid (parsed : parse packet extensionMap initial = some (true, header))
    (incoming : registry.incomingPayloadType = header.payloadType.toNat)
    (configured : registry.payloadTypeRtx = sender.payloadTypeRtx)
    (valid : sender.payloadTypeRtx = -1 ∨ 0 ≤ sender.payloadTypeRtx ∧ sender.payloadTypeRtx ≤ 127)
    (fits : packet.length + 2 ≤ IP_PACKET_SIZE) :
    RtxRoundTrips sender registry extensionMap unsetHeader dataBufferRtx restoredPacket packet
      header.ssrc := by
  have size : IP_PACKET_SIZE = 1500 := rfl
  rcases accepted_of_parse parsed with ⟨accepted, length⟩
  have fields := fixedFields_of_parse parsed
  have inside := accepted.inside
  have after := twelve_le_extensionOffset packet
  have later := extensionOffset_le_parsedLength packet
  rw [Nat.mod_eq_of_lt (by omega)] at length
  rcases exists_parse_plain parsed unsetHeader with
    ⟨plain, plainParsed, plainLength, plainMarker, plainNumber⟩
  have plainFields := fixedFields_of_parse plainParsed
  have plainSsrc : plain.ssrc = header.ssrc :=
    Option.some.inj (plainFields.ssrc.symm.trans fields.ssrc)
  have plainInside : plain.headerLength.toNat ≤ packet.length := by
    rw [plainLength, length]
    exact inside
  have built : sender.IsRtxPacket plain packet _ := RtxSender.isRtxPacket_rewritten dataBufferRtx
    (show 12 ≤ plain.headerLength.toNat by rw [plainLength]; omega) plainInside
  generalize rtxEq : (sender.rewritten plain packet dataBufferRtx).slice 0 (packet.length + 2) =
    rtx at built
  have same : SameHeader packet rtx := built.sameHeader accepted (by rw [plainLength, length])
  rcases (same.accepted accepted).exists_parse unsetHeader with ⟨rtxHeader, rtxParsed⟩
  have rtxFields := fixedFields_of_parse rtxParsed
  have rtxLength : rtxHeader.headerLength = plain.headerLength := by
    apply UInt16.toNat_inj.mp
    rw [(accepted_of_parse rtxParsed).2, same.parsedLength_eq, Nat.mod_eq_of_lt (by omega),
      plainLength, length]
  have total := built.length
  refine ⟨rtx, { sender with sequenceNumberRtx := sender.sequenceNumberRtx + 1 }, ?_, by omega,
    rtxHeader, rtxParsed, ?_⟩
  · rw [RtxSender.buildRtxPacket_eq dataBufferRtx plainParsed plainInside, if_pos fits, rtxEq]
  have restoring : registry.restoreOriginalPacket restoredPacket rtx header.ssrc rtxHeader = _ :=
    RtxRegistry.restoreOriginalPacket_eq restoredPacket
    (show 2 + rtxHeader.headerLength.toNat ≤ rtx.length by rw [rtxLength]; omega)
    (show rtx.length ≤ IP_PACKET_SIZE + 2 by omega)
    (by rw [rtxLength]; exact built.number)
    (by
      rw [rtxLength, total, Nat.add_sub_cancel]
      exact built.payload)
  rw [restoring, configured, total, Nat.add_sub_cancel, ← plainSsrc]
  have own {position : Nat} (before : position < packet.length)
      (type : position ≠ 1 ∨ sender.payloadTypeRtx = -1) :=
    byteAt_restored built plainFields plainInside rtxLength restoredPacket before type
  by_cases untyped : sender.payloadTypeRtx = -1
  · rw [if_pos untyped]
    exact ⟨_, rfl, slice_eq_of_byteAt fun position before => own before (Or.inr untyped)⟩
  have range := valid.resolve_left untyped
  have typed := built.payloadType rtxFields untyped range
  have known : registry.incomingPayloadType ≠ -1 := by
    rw [incoming]
    omega
  rw [if_neg untyped, if_pos ⟨typed.1, known⟩]
  refine ⟨_, rfl, slice_eq_of_byteAt fun position before => ?_⟩
  apply byteAt_overwrite_own
  · rcases exists_byteAt (show 1 < packet.length by omega) with ⟨second, secondAt⟩
    have value : (packet.byteAt 1).getD 0 = second := by rw [secondAt, getD_some]
    rw [incoming, typed.2, plainMarker, fields.payloadType, fields.markerBit, value,
      typeByte_restored, bytesAt_inside (by simp; omega)]
    rw [Bytes.byteAt, List.getElem?_eq_some_iff] at secondAt
    rcases secondAt with ⟨secondInside, rfl⟩
    rw [drop_eq_getElem_cons secondInside]
    rfl
  · intro outside
    rw [length_singleton] at outside
    exact own before (Or.inl (by omega))

theorem RtxRegistry.configured_of_restored {rtx : Bytes} {restored : Buffer}
    {length : Nat} {ssrc : UInt32}
    (success : registry.restoreOriginalPacket restoredPacket rtx ssrc header =
      some (true, restored, length)) :
    registry.payloadTypeRtx = -1 ∨ (header.payloadType.toNat : Int) = registry.payloadTypeRtx := by
  rw [restoreOriginalPacket] at success
  by_cases untyped : registry.payloadTypeRtx = -1
  · exact Or.inl untyped
  by_cases same : (header.payloadType.toNat : Int) = registry.payloadTypeRtx
  · exact Or.inr same
  dsimp only at success
  split at success
  · cases success
  simp only [same, false_and, if_false, bind_eq_bind, bind_eq_some_iff] at success
  rcases success with ⟨_, -, _, -, _, -, _, -, _, -, _, -, _, -, last⟩
  cases last

theorem payloadType_of_rtxRoundTrips {ssrc : UInt32}
    (configured : registry.payloadTypeRtx = sender.payloadTypeRtx)
    (roundTrips : RtxRoundTrips sender registry extensionMap unsetHeader dataBufferRtx
      restoredPacket packet ssrc) :
    sender.payloadTypeRtx = -1 ∨ 0 ≤ sender.payloadTypeRtx ∧ sender.payloadTypeRtx ≤ 127 := by
  rcases roundTrips with ⟨rtx, next, -, -, rtxHeader, rtxParsed, restored, success, -⟩
  rw [← configured]
  apply (RtxRegistry.configured_of_restored success).imp_right
  intro same
  have seven : rtxHeader.payloadType.toNat ≤ 127 := by
    rw [(fixedFields_of_parse rtxParsed).payloadType, UInt8.toNat_and]
    exact Nat.and_le_right
  omega

end RoundTrip

/-- A packet with the marker, one contributing source and an extension of one word. -/
def markedPacket : Bytes :=
  [0x91, 0xE2, 0, 5, 0, 0, 0, 1, 0, 0, 0, 7, 0, 0, 0, 9, 0xBE, 0xDE, 0, 1, 0x22, 1, 2, 3, 40, 41]

def markedHeader : RTPHeader where
  markerBit := true
  payloadType := 0x62
  sequenceNumber := 5
  timestamp := 1
  ssrc := 7
  numCSRCs := 1
  arrOfCSRCs := (Vector.replicate kRtpCsrcSize 0).setIfInBounds 0 9
  paddingLength := 0
  headerLength := 24
  extension := { transmissionTimeOffset := 0x010203, absoluteSendTime := 0 }

/-- The receiver knows the time offset. -/
def offsetMap : RtpHeaderExtensionMap :=
  (RtpHeaderExtensionMap.empty.register .transmissionTimeOffset 2).2

theorem parse_markedPacket :
    parse markedPacket (some offsetMap) unsetHeader = some (true, markedHeader) := by decide

def rtxSender : RtxSender where
  maxPayloadLength := IP_PACKET_SIZE - 28
  payloadTypeRtx := 96
  sequenceNumberRtx := 7
  ssrcRtx := 0x12345678

def fullPacket : Bytes := [0x80, 0x62, 0, 5, 0, 0, 0, 1, 0, 0, 0, 7] ++ List.replicate 1488 0

theorem fullPacket_length : fullPacket.length = 1500 := by
  rw [fullPacket, length_append, length_replicate]
  rfl

end ZyWebRtc.Rtp
