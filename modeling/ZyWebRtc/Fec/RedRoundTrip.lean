import ZyWebRtc.Foundation.NetworkOrder
import ZyWebRtc.Fec.RedPacket
import ZyWebRtc.Fec.RedReceiver

namespace ZyWebRtc.Fec

/-! RED packets that are received give back the packets they were built from. -/

open Option Buffer Bytes UInt16 Nat

open Rtp (RTPHeader)

/-- The parsed header describes the RTP header of a packet. -/
structure Describes (header : RTPHeader) (rtpHeader : Bytes) : Prop where
  fixed : Rtp.kRtpMinParseLength ≤ rtpHeader.length
  headerLength : header.headerLength.toNat = rtpHeader.length
  sequenceNumber : rtpHeader.uint16At 2 = some header.sequenceNumber
  ssrc : rtpHeader.uint32At 8 = some header.ssrc

/-- What the received list is to hold of a packet. -/
structure Tagged where
  bytes : Bytes
  seqNum : UInt16
  ssrc : UInt32
  isFec : Bool
  deriving DecidableEq

def ReceivedPacket.tagged (packet : ReceivedPacket) : Tagged where
  bytes := packet.pkt.bytes
  seqNum := packet.seqNum
  ssrc := packet.ssrc
  isFec := packet.isFec

def twoBlockHeaders (mediaPlType fecPlType : UInt8) (blockLength : UInt16) : Bytes :=
  [0x80 ||| mediaPlType, 0, (blockLength >>> 8).toUInt8, blockLength.toUInt8, fecPlType]

def twoBlockPacket (rtpHeader : Bytes) (redPlType mediaPlType fecPlType : UInt8)
    (media fec : Bytes) : Bytes :=
  withPayloadType rtpHeader redPlType ++
    (twoBlockHeaders mediaPlType fecPlType (UInt16.ofNat media.length) ++ (media ++ fec))

theorem copyMedia_written {header payload incoming : Bytes} (payloadType : UInt8) {offset : Nat}
    (fixed : 2 ≤ header.length) (fits : header.length + payload.length ≤ ipPacketSize)
    (headerRead : incoming.bytesAt 0 header.length = some header)
    (payloadRead : incoming.bytesAt offset payload.length = some payload) :
    ∃ data, copyMedia incoming header.length payloadType offset payload.length = some data ∧
      data.slice 0 (header.length + payload.length) =
        withPayloadType header payloadType ++ payload := by
  have headerFits : header.length ≤ ipPacketSize := by omega
  rcases copyHeader_inside Packet.new.data payloadType fixed headerFits with
    ⟨data, copied, headerSlice⟩
  refine ⟨data.overwrite header.length payload, ?_, ?_⟩
  · simp only [copyMedia, headerRead, payloadRead, copied, bind_eq_bind, bind_some]
    exact copyIn_inside data fits
  · have payloadSlice := slice_overwrite data header.length payload
    rw [slice_append, slice_overwrite_outside _ (by omega), headerSlice, Nat.zero_add, payloadSlice]

theorem copyFec_written {payload incoming : Bytes} {offset : Nat}
    (fits : payload.length ≤ ipPacketSize)
    (payloadRead : incoming.bytesAt offset payload.length = some payload) :
    ∃ data, copyFec incoming offset payload.length = some data ∧
      data.slice 0 payload.length = payload := by
  refine ⟨Packet.new.data.overwrite 0 payload, ?_, slice_overwrite _ 0 payload⟩
  simp only [copyFec, payloadRead, bind_eq_bind, bind_some]
  exact copyIn_inside _ (by omega)

theorem payloadType_and {plType : UInt8} (valid : plType < 0x80) : plType &&& 0x7f = plType := by
  apply UInt8.toNat_inj.mp
  have small : plType.toNat < 128 := UInt8.lt_iff_toNat_lt.mp valid
  rw [UInt8.toNat_and, show (0x7f : UInt8).toNat = 2 ^ 7 - 1 from rfl,
    and_two_pow_sub_one_eq_mod, mod_eq_of_lt (by omega)]

theorem lastBlock_and {plType : UInt8} (valid : plType < 0x80) : plType &&& 0x80 = 0 := by
  apply UInt8.toNat_inj.mp
  have small : plType.toNat < 128 := UInt8.lt_iff_toNat_lt.mp valid
  rw [markerBit_toNat, div_eq_of_lt small]
  rfl

theorem readRedHeader_oneBlock {incoming : Bytes} {offset : Nat} {plType : UInt8}
    (payloadDataLength : UInt16) (valid : plType < 0x80)
    (first : incoming.byteAt offset = some plType) :
    readRedHeader incoming offset payloadDataLength =
      some (some { redHeaderLength := 1, blockLength := 0 }) := by
  simp [readRedHeader, first, lastBlock_and valid]

theorem payloadDataLength_eq {header : RTPHeader} {front : Bytes} (rest : Bytes)
    (headerLength : header.headerLength.toNat = front.length) :
    UInt16.ofNat (front ++ rest).length - header.headerLength = UInt16.ofNat rest.length := by
  have offset : header.headerLength = UInt16.ofNat front.length := by
    rw [← headerLength, UInt16.ofNat_toNat]
  rw [List.length_append, offset, ofNat_add, UInt16.add_comm, UInt16.add_sub_cancel]

theorem payloadBehind_eq {length skipped count : Nat} (split : length = skipped + count)
    (small : length < 65536) : payloadBehind (UInt16.ofNat length) skipped = some count := by
  have kept : (UInt16.ofNat length).toNat = length := by
    rw [toNat_ofNat', mod_eq_of_lt small]
  rw [payloadBehind, kept, if_pos (by omega), split, Nat.add_sub_cancel_left]

/-! ## One block -/

section OneBlock

variable (unset : UInt32) {header : RTPHeader} {rtpHeader : Bytes}
  (redPlType plType : UInt8) (payload : Bytes)

section

variable (describes : Describes header rtpHeader)

include describes

theorem ssrc_oneBlockPacket :
    (oneBlockPacket rtpHeader redPlType plType payload).uint32At 8 = some header.ssrc := by
  have fixed : 12 ≤ rtpHeader.length := describes.fixed
  have kept : ∀ index, 2 ≤ index → index < 12 →
      (oneBlockPacket rtpHeader redPlType plType payload).byteAt index =
        rtpHeader.byteAt index := by
    intro index behind inside
    have different : ¬ 1 = index := by omega
    rw [oneBlockPacket, Bytes.byteAt, Bytes.byteAt,
      List.getElem?_append_left (by rw [withPayloadType_length]; omega), withPayloadType,
      List.getElem?_modify]
    simp only [different, if_false, id_map']
  rw [← describes.ssrc]
  simp only [Bytes.uint32At, Bytes.uint24At]
  rw [kept 8 (by omega) (by omega), kept 9 (by omega) (by omega), kept 10 (by omega) (by omega),
    kept 11 (by omega) (by omega)]

theorem mediaBlock_oneBlockPacket (fits : rtpHeader.length + payload.length ≤ ipPacketSize) :
    ∃ received, mediaBlock unset header (oneBlockPacket rtpHeader redPlType plType payload)
        (UInt16.ofNat (payload.length + 1)) 1 plType = some received ∧
      received.tagged =
        { bytes := withPayloadType (withPayloadType rtpHeader redPlType) plType ++ payload
          seqNum := header.sequenceNumber, ssrc := unset, isFec := false } := by
  have front := withPayloadType_length rtpHeader redPlType
  have headerLength := describes.headerLength.trans front.symm
  have fixed : 12 ≤ rtpHeader.length := describes.fixed
  have small : rtpHeader.length + payload.length ≤ 1500 := fits
  have payloadRead : (oneBlockPacket rtpHeader redPlType plType payload).bytesAt
      (header.headerLength.toNat + 1) payload.length = some payload := by
    rw [oneBlockPacket, headerLength, bytesAt_append]
    simpa using bytesAt_middle [plType] [] payload
  rcases copyMedia_written plType (by omega) (front ▸ fits)
      (bytesAt_front (withPayloadType rtpHeader redPlType) (plType :: payload))
      payloadRead with ⟨data, copied, dataSlice⟩
  have length : (header.headerLength + UInt16.ofNat (payload.length + 1) -
      UInt16.ofNat 1).toNat = rtpHeader.length + payload.length := by
    rw [ofNat_add, ← UInt16.add_assoc, UInt16.add_sub_cancel, UInt16.toNat_add,
      toNat_ofNat', describes.headerLength]
    omega
  have block : mediaBlock unset header (oneBlockPacket rtpHeader redPlType plType payload)
      (UInt16.ofNat (payload.length + 1)) 1 plType =
      some { seqNum := header.sequenceNumber, ssrc := unset, isFec := false,
             pkt := { length := header.headerLength + UInt16.ofNat (payload.length + 1) -
                        UInt16.ofNat 1,
                      data := data } } := by
    rw [← headerLength] at copied
    simp only [mediaBlock, payloadBehind_eq (Nat.add_comm payload.length 1) (by omega),
      bind_eq_bind, bind_some, oneBlockPacket, copied]
    rfl
  refine ⟨_, block, ?_⟩
  rw [front] at dataSlice
  rw [ReceivedPacket.tagged, Packet.bytes, length, dataSlice]

theorem fecBlock_oneBlockPacket (fits : payload.length ≤ ipPacketSize) :
    ∃ received, fecBlock header (oneBlockPacket rtpHeader redPlType plType payload)
        (UInt16.ofNat (payload.length + 1)) 1 = some received ∧
      received.tagged =
        { bytes := payload, seqNum := header.sequenceNumber, ssrc := header.ssrc, isFec := true } := by
  have front := withPayloadType_length rtpHeader redPlType
  have headerLength := describes.headerLength.trans front.symm
  have small : payload.length ≤ 1500 := fits
  have payloadRead : (oneBlockPacket rtpHeader redPlType plType payload).bytesAt
      (header.headerLength.toNat + 1) payload.length = some payload := by
    rw [oneBlockPacket, headerLength, bytesAt_append]
    simpa using bytesAt_middle [plType] [] payload
  rcases copyFec_written fits payloadRead with ⟨data, copied, dataSlice⟩
  have length : (UInt16.ofNat (payload.length + 1) - UInt16.ofNat 1).toNat = payload.length := by
    rw [ofNat_add, UInt16.add_sub_cancel, toNat_ofNat', mod_eq_of_lt (by omega)]
  have ssrcRead := ssrc_oneBlockPacket redPlType plType payload describes
  have block : fecBlock header (oneBlockPacket rtpHeader redPlType plType payload)
      (UInt16.ofNat (payload.length + 1)) 1 =
      some { seqNum := header.sequenceNumber, ssrc := header.ssrc, isFec := true,
             pkt := { length := UInt16.ofNat (payload.length + 1) - UInt16.ofNat 1,
                      data := data } } := by
    simp only [fecBlock, payloadBehind_eq (Nat.add_comm payload.length 1) (by omega),
      bind_eq_bind, bind_some, copied, ssrcRead]
    rfl
  refine ⟨_, block, ?_⟩
  rw [ReceivedPacket.tagged, Packet.bytes, length, dataSlice]

theorem plType_oneBlockPacket :
    (oneBlockPacket rtpHeader redPlType plType payload).byteAt header.headerLength.toNat =
      some plType := by
  rw [describes.headerLength, ← withPayloadType_length rtpHeader redPlType]
  exact byteAt_append _ (plType :: payload) 0

end

theorem addReceivedRedPacket_oneBlockPacket (ulpfecPayloadType : UInt8)
    (receivedPacketList : List ReceivedPacket) (describes : Describes header rtpHeader)
    (valid : plType < 0x80) :
    addReceivedRedPacket unset header (oneBlockPacket rtpHeader redPlType plType payload)
        ulpfecPayloadType receivedPacketList =
      (if plType = ulpfecPayloadType then
        fecBlock header (oneBlockPacket rtpHeader redPlType plType payload)
          (UInt16.ofNat (payload.length + 1)) 1
      else mediaBlock unset header (oneBlockPacket rtpHeader redPlType plType payload)
          (UInt16.ofNat (payload.length + 1)) 1 plType).map fun received =>
        (0, if received.pkt.length = 0 then receivedPacketList
            else receivedPacketList ++ [received]) := by
  have headerLength :=
    describes.headerLength.trans (withPayloadType_length rtpHeader redPlType).symm
  have first := plType_oneBlockPacket redPlType plType payload describes
  have payloadDataLength :
      UInt16.ofNat (oneBlockPacket rtpHeader redPlType plType payload).length -
        header.headerLength = UInt16.ofNat (payload.length + 1) :=
    payloadDataLength_eq (plType :: payload) headerLength
  simp only [addReceivedRedPacket, first, payloadDataLength, payloadType_and valid,
    readRedHeader_oneBlock _ valid first, bind_eq_bind, bind_some, redBlocks]
  rw [if_neg (by decide)]
  by_cases fec : plType = ulpfecPayloadType
  · simp only [fec, decide_true, if_true]
    cases fecBlock header (oneBlockPacket rtpHeader redPlType ulpfecPayloadType payload)
        (UInt16.ofNat (payload.length + 1)) 1 with
    | none => rfl
    | some received => 
      by_cases empty : received.pkt.length = 0 <;> simp [empty]
  · simp only [fec, decide_false, if_false]
    cases mediaBlock unset header (oneBlockPacket rtpHeader redPlType plType payload)
        (UInt16.ofNat (payload.length + 1)) 1 plType with
    | none => rfl
    | some received => 
      by_cases empty : received.pkt.length = 0 <;> simp [empty]

theorem addReceivedRedPacket_mediaBlock {ulpfecPayloadType : UInt8} {redPlType plType : UInt8}
    {payload : Bytes} (redValid : redPlType < 0x80) (receivedPacketList : List ReceivedPacket)
    (describes : Describes header rtpHeader) (valid : plType < 0x80)
    (different : plType ≠ ulpfecPayloadType)
    (fits : rtpHeader.length + payload.length ≤ ipPacketSize) :
    ∃ received,
      addReceivedRedPacket unset header (oneBlockPacket rtpHeader redPlType plType payload)
          ulpfecPayloadType receivedPacketList = some (0, receivedPacketList ++ [received]) ∧
      received.tagged =
        { bytes := withPayloadType rtpHeader plType ++ payload
          seqNum := header.sequenceNumber, ssrc := unset, isFec := false } := by
  have fixed : 12 ≤ rtpHeader.length := describes.fixed
  rcases mediaBlock_oneBlockPacket unset redPlType plType payload describes fits with
    ⟨received, block, tagged⟩
  rw [withPayloadType_withPayloadType rtpHeader redValid] at tagged
  refine ⟨received, ?_, tagged⟩
  have bytes := congrArg (List.length ∘ Tagged.bytes) tagged
  simp [ReceivedPacket.tagged] at bytes
  rw [addReceivedRedPacket_oneBlockPacket _ _ _ _ _ _ describes valid, if_neg different, block,
    map_some, if_neg]
  intro empty
  rw [empty, show (0 : UInt16).toNat = 0 from rfl] at bytes
  omega

end OneBlock

/-! ## Two blocks -/

theorem firstBlock_toNat {plType : UInt8} (valid : plType < 0x80) :
    (0x80 ||| plType).toNat = 128 + plType.toNat := by
  have small : plType.toNat < 2 ^ 7 := UInt8.lt_iff_toNat_lt.mp valid
  have joined := two_pow_add_eq_or_of_lt small 1
  rw [UInt8.toNat_or, show (0x80 : UInt8).toNat = 2 ^ 7 * 1 from rfl, ← joined]

theorem firstBlock_payloadType {plType : UInt8} (valid : plType < 0x80) :
    (0x80 ||| plType) &&& 0x7f = plType := by
  apply UInt8.toNat_inj.mp
  have small : plType.toNat < 128 := UInt8.lt_iff_toNat_lt.mp valid
  rw [UInt8.toNat_and, firstBlock_toNat valid, show (0x7f : UInt8).toNat = 2 ^ 7 - 1 from rfl,
    and_two_pow_sub_one_eq_mod]
  omega

theorem firstBlock_followed {plType : UInt8} (valid : plType < 0x80) :
    (0x80 ||| plType) &&& 0x80 ≠ 0 := by
  intro zero
  have small : plType.toNat < 128 := UInt8.lt_iff_toNat_lt.mp valid
  have zeroNat := congrArg UInt8.toNat zero
  rw [markerBit_toNat, firstBlock_toNat valid, show (0 : UInt8).toNat = 0 from rfl] at zeroNat
  omega

section BlockLength

variable {blockLength : UInt16} (short : blockLength.toNat < 1024)
include short

theorem blockLength_high : (blockLength >>> 8).toUInt8.toNat = blockLength.toNat / 256 := by
  simp [UInt16.toNat_shiftRight, shiftRight_eq_div_pow]
  omega

theorem blockLength_read :
    (((0x03 : UInt8) &&& (blockLength >>> 8).toUInt8).toUInt16 <<< 8) + blockLength.toUInt8.toUInt16 =
      blockLength := by
  have kept : (0x03 : UInt8) &&& (blockLength >>> 8).toUInt8 = (blockLength >>> 8).toUInt8 := by
    apply UInt8.toNat_inj.mp
    rw [UInt8.toNat_and, land_comm, show (0x03 : UInt8).toNat = 2 ^ 2 - 1 from rfl,
      and_two_pow_sub_one_eq_mod, blockLength_high short]
    omega
  rw [kept, uint16_join]

theorem timestampOffset_zero :
    (((0 : UInt8).toUInt16 <<< 8) + (blockLength >>> 8).toUInt8.toUInt16) >>> 2 = 0 := by
  apply UInt16.toNat_inj.mp
  have high := blockLength_high short
  rw [UInt16.toNat_shiftRight, show (0 : UInt8).toUInt16 <<< 8 = 0 from rfl, UInt16.zero_add,
    UInt8.toNat_toUInt16, high, shiftRight_eq_div_pow]
  simp
  omega

end BlockLength

theorem readRedHeader_twoBlocks (front payload : Bytes) {mediaPlType fecPlType : UInt8}
    {blockLength payloadDataLength : UInt16} (mediaValid : mediaPlType < 0x80)
    (fecValid : fecPlType < 0x80) (short : blockLength.toNat < 1024)
    (inside : 5 + blockLength.toNat ≤ payloadDataLength.toNat) :
    readRedHeader (front ++ (twoBlockHeaders mediaPlType fecPlType blockLength ++ payload))
        front.length payloadDataLength =
      some (some { redHeaderLength := 4, blockLength := blockLength }) := by
  have first := byteAt_append front
    (twoBlockHeaders mediaPlType fecPlType blockLength ++ payload) 0
  have timestamp := uint16At_append front
    (twoBlockHeaders mediaPlType fecPlType blockLength ++ payload) 1
  have third := byteAt_append front
    (twoBlockHeaders mediaPlType fecPlType blockLength ++ payload) 2
  have fourth := byteAt_append front
    (twoBlockHeaders mediaPlType fecPlType blockLength ++ payload) 3
  have second := byteAt_append front
    (twoBlockHeaders mediaPlType fecPlType blockLength ++ payload) 4
  change _ = some (0x80 ||| mediaPlType) at first
  change _ = some (((0 : UInt8).toUInt16 <<< 8) + (blockLength >>> 8).toUInt8.toUInt16) at timestamp
  change _ = some (blockLength >>> 8).toUInt8 at third
  change _ = some blockLength.toUInt8 at fourth
  change _ = some fecPlType at second
  rw [Nat.add_zero] at first
  simp only [readRedHeader, first, timestamp, third, fourth, second, bind_eq_bind, bind_some]
  rw [if_neg (firstBlock_followed mediaValid), if_neg (not_not.mpr (timestampOffset_zero short)),
    if_neg (not_not.mpr (lastBlock_and fecValid)), blockLength_read short, if_neg (by omega)]
  rfl

/-- What is queued of a media block in front of an FEC block. The length of its packet and
the SSRC of the FEC packet are left open. -/
structure QueuedBlocks (header : RTPHeader) (media fec : Bytes)
    (received second : ReceivedPacket) : Prop where
  mediaBytes : received.pkt.data.slice 0 media.length = media
  mediaLength : received.pkt.length ≠ 0
  mediaSeqNum : received.seqNum = header.sequenceNumber
  mediaIsFec : received.isFec = false
  fecBytes : second.pkt.bytes = fec
  fecSeqNum : second.seqNum = header.sequenceNumber
  fecIsFec : second.isFec = true

section TwoBlocks

variable (unset : UInt32) {header : RTPHeader} {rtpHeader media fec : Bytes}
  (redPlType mediaPlType fecPlType : UInt8)

theorem splitBlocks_twoBlockPacket (describes : Describes header rtpHeader)
    (nonempty : media ≠ []) (short : media.length < 1024)
    (mediaFits : rtpHeader.length + media.length ≤ ipPacketSize)
    (fecFits : fec.length ≤ ipPacketSize) :
    ∃ received second, splitBlocks unset header
          (twoBlockPacket rtpHeader redPlType mediaPlType fecPlType media fec)
          (UInt16.ofNat (5 + (media.length + fec.length))) mediaPlType false
          (UInt16.ofNat media.length) = some (received, some second) ∧
        QueuedBlocks header
          (withPayloadType (withPayloadType rtpHeader redPlType) mediaPlType ++ media) fec
          received second := by
  have front := withPayloadType_length rtpHeader redPlType
  have headerLength := describes.headerLength.trans front.symm
  have fixed : 12 ≤ rtpHeader.length := describes.fixed
  have fecSmall : fec.length ≤ 1500 := fecFits
  have blockLength : (UInt16.ofNat media.length).toNat = media.length := by
    rw [toNat_ofNat', mod_eq_of_lt (by omega)]
  have headers : (twoBlockHeaders mediaPlType fecPlType (UInt16.ofNat media.length)).length = 5 :=
    rfl
  have mediaRead : (twoBlockPacket rtpHeader redPlType mediaPlType fecPlType media fec).bytesAt
      (header.headerLength.toNat + 5) media.length = some media := by
    rw [twoBlockPacket, headerLength, bytesAt_append, ← headers]
    exact bytesAt_middle _ fec media
  have fecRead : (twoBlockPacket rtpHeader redPlType mediaPlType fecPlType media fec).bytesAt
      (header.headerLength.toNat + 5 + media.length) fec.length = some fec := by
    rw [twoBlockPacket, headerLength, Nat.add_assoc, bytesAt_append, ← headers, bytesAt_append]
    simpa using bytesAt_middle media [] fec
  rcases copyMedia_written mediaPlType (by omega) (front ▸ mediaFits)
      (bytesAt_front (withPayloadType rtpHeader redPlType) _) mediaRead with
    ⟨data, copied, dataSlice⟩
  rcases copyFec_written fecFits fecRead with ⟨fecData, fecCopied, fecSlice⟩
  rw [← headerLength] at copied
  have fecLength : (UInt16.ofNat (5 + (media.length + fec.length)) - 5 -
      UInt16.ofNat media.length).toNat = fec.length := by
    rw [ofNat_add, UInt16.add_comm, ← show UInt16.ofNat 5 = 5 from rfl,
      UInt16.add_sub_cancel, ofNat_add, UInt16.add_comm, UInt16.add_sub_cancel,
      toNat_ofNat', mod_eq_of_lt (by omega)]
  refine ⟨{ seqNum := header.sequenceNumber, ssrc := unset, isFec := false,
            pkt := { length := UInt16.ofNat media.length, data := data } },
    { seqNum := header.sequenceNumber, ssrc := unset, isFec := true,
      pkt := { length := UInt16.ofNat (5 + (media.length + fec.length)) - 5 -
                 UInt16.ofNat media.length,
               data := fecData } }, ?_, ?_⟩
  · have behind : payloadBehind (UInt16.ofNat (5 + (media.length + fec.length)))
        (5 + media.length) = some fec.length := payloadBehind_eq (by omega) (by omega)
    rw [twoBlockPacket] at fecCopied
    simp only [splitBlocks, blockLength, twoBlockPacket, copied, behind, fecCopied,
      bind_eq_bind, bind_some]
    rfl
  · constructor
    · rw [List.length_append, withPayloadType_length, dataSlice]
    · intro zero
      have lengthZero := congrArg UInt16.toNat zero
      rw [blockLength] at lengthZero
      exact nonempty (List.length_eq_zero_iff.mp lengthZero)
    · rfl
    · rfl
    · rw [Packet.bytes, fecLength, fecSlice]
    · rfl
    · rfl

theorem addReceivedRedPacket_twoBlockPacket (ulpfecPayloadType : UInt8)
    (receivedPacketList : List ReceivedPacket) (describes : Describes header rtpHeader)
    (mediaValid : mediaPlType < 0x80) (fecValid : fecPlType < 0x80)
    (different : mediaPlType ≠ ulpfecPayloadType)
    (nonempty : media ≠ []) (short : media.length < 1024)
    (mediaFits : rtpHeader.length + media.length ≤ ipPacketSize)
    (fecFits : fec.length ≤ ipPacketSize) :
    ∃ received second, addReceivedRedPacket unset header
          (twoBlockPacket rtpHeader redPlType mediaPlType fecPlType media fec)
          ulpfecPayloadType receivedPacketList =
        some (0, receivedPacketList ++ [received, second]) ∧
        QueuedBlocks header
          (withPayloadType (withPayloadType rtpHeader redPlType) mediaPlType ++ media) fec
          received second := by
  have headerLength :=
    describes.headerLength.trans (withPayloadType_length rtpHeader redPlType).symm
  have fecSmall : fec.length ≤ 1500 := fecFits
  have blockLength : (UInt16.ofNat media.length).toNat = media.length := by
    rw [toNat_ofNat', mod_eq_of_lt (by omega)]
  have first : (twoBlockPacket rtpHeader redPlType mediaPlType fecPlType media fec).byteAt
      header.headerLength.toNat = some (0x80 ||| mediaPlType) := by
    rw [headerLength]
    exact byteAt_append _ (twoBlockHeaders mediaPlType fecPlType _ ++ (media ++ fec)) 0
  have payloadDataLength :
      UInt16.ofNat (twoBlockPacket rtpHeader redPlType mediaPlType fecPlType media fec).length -
        header.headerLength = UInt16.ofNat (5 + (media.length + fec.length)) := by
    rw [twoBlockPacket, payloadDataLength_eq _ headerLength, List.length_append, List.length_append]
    rfl
  have inside : 5 + (UInt16.ofNat media.length).toNat ≤
      (UInt16.ofNat (5 + (media.length + fec.length))).toNat := by
    rw [blockLength, toNat_ofNat']
    omega
  have red : readRedHeader (twoBlockPacket rtpHeader redPlType mediaPlType fecPlType media fec)
      header.headerLength.toNat (UInt16.ofNat (5 + (media.length + fec.length))) =
      some (some { redHeaderLength := 4, blockLength := UInt16.ofNat media.length }) := by
    rw [headerLength, twoBlockPacket]
    exact readRedHeader_twoBlocks _ _ mediaValid fecValid (by omega) inside
  have positive : 0 < UInt16.ofNat media.length := by
    rw [lt_iff_toNat_lt, blockLength]
    exact List.length_pos_iff.mpr nonempty
  rcases splitBlocks_twoBlockPacket unset redPlType mediaPlType fecPlType describes nonempty short
      mediaFits fecFits with
    ⟨received, second, split, queued⟩
  refine ⟨received, second, ?_, queued⟩
  have notFec : decide (mediaPlType = ulpfecPayloadType) = false := decide_eq_false different
  simp only [addReceivedRedPacket, first, payloadDataLength, firstBlock_payloadType mediaValid,
    red, bind_eq_bind, bind_some, redBlocks, if_pos positive, notFec, split,
    if_neg queued.mediaLength]
  rfl

end TwoBlocks

/-! ## Round trips -/

/-- What is queued of the RED packets of an RTP header. -/
structure RoundTrips (unset : UInt32) (header : RTPHeader) (rtpHeader : Bytes)
    (redPlType ulpfecPayloadType : UInt8) (receivedPacketList : List ReceivedPacket) : Prop where
  /-- A media packet that was built by `BuildRedPacket`. -/
  built : payloadTypeOf rtpHeader ≠ ulpfecPayloadType → ∀ memory payload,
    rtpHeader.length + payload.length ≤ ipPacketSize →
    ∃ redPacket received,
      buildRedPacket memory (rtpHeader ++ payload) payload.length rtpHeader.length redPlType =
        some redPacket ∧
      addReceivedRedPacket unset header redPacket.bytes ulpfecPayloadType receivedPacketList =
        some (0, receivedPacketList ++ [received]) ∧
      received.tagged =
        { bytes := rtpHeader ++ payload
          seqNum := header.sequenceNumber, ssrc := unset, isFec := false }
  /-- One media block of any payload type. -/
  mediaBlock : ∀ plType payload, plType < 0x80 → plType ≠ ulpfecPayloadType →
    rtpHeader.length + payload.length ≤ ipPacketSize →
    ∃ received,
      addReceivedRedPacket unset header (oneBlockPacket rtpHeader redPlType plType payload)
          ulpfecPayloadType receivedPacketList = some (0, receivedPacketList ++ [received]) ∧
      received.tagged =
        { bytes := withPayloadType rtpHeader plType ++ payload
          seqNum := header.sequenceNumber, ssrc := unset, isFec := false }
  /-- One FEC block that is not empty. -/
  fecBlock : ulpfecPayloadType < 0x80 → ∀ payload, payload ≠ [] → payload.length ≤ ipPacketSize →
    ∃ received, addReceivedRedPacket unset header
          (oneBlockPacket rtpHeader redPlType ulpfecPayloadType payload)
          ulpfecPayloadType receivedPacketList = some (0, receivedPacketList ++ [received]) ∧
      received.tagged =
        { bytes := payload
          seqNum := header.sequenceNumber, ssrc := header.ssrc, isFec := true }
  /-- Nothing is queued of an empty FEC block. -/
  emptyFecBlock : ulpfecPayloadType < 0x80 →
    addReceivedRedPacket unset header (oneBlockPacket rtpHeader redPlType ulpfecPayloadType [])
      ulpfecPayloadType receivedPacketList = some (0, receivedPacketList)
  /-- A media block and an FEC block. -/
  twoBlocks : ulpfecPayloadType < 0x80 → ∀ mediaPlType media fec, mediaPlType < 0x80 →
    mediaPlType ≠ ulpfecPayloadType → media ≠ [] → media.length < 1024 →
    rtpHeader.length + media.length ≤ ipPacketSize → fec.length ≤ ipPacketSize →
    ∃ received second, addReceivedRedPacket unset header
          (twoBlockPacket rtpHeader redPlType mediaPlType ulpfecPayloadType media fec)
          ulpfecPayloadType receivedPacketList =
        some (0, receivedPacketList ++ [received, second]) ∧
      QueuedBlocks header (withPayloadType rtpHeader mediaPlType ++ media) fec received second

theorem addReceivedRedPacket_roundTrips (unset : UInt32) {header : RTPHeader} {rtpHeader : Bytes}
    {redPlType : UInt8} (ulpfecPayloadType : UInt8) (receivedPacketList : List ReceivedPacket)
    (describes : Describes header rtpHeader) (redValid : redPlType < 0x80) :
    RoundTrips unset header rtpHeader redPlType ulpfecPayloadType receivedPacketList := by
  have fixed : 12 ≤ rtpHeader.length := describes.fixed
  constructor
  case built =>
    intro different memory payload fits
    have wide : 2 ≤ rtpHeader.length := by omega
    rcases buildRedPacket_written memory payload redPlType wide with ⟨redPacket, built, bytes⟩
    rcases addReceivedRedPacket_mediaBlock unset redValid receivedPacketList describes
        (payloadTypeOf_lt rtpHeader) different fits with ⟨received, added, tagged⟩
    refine ⟨redPacket, received, built, ?_, ?_⟩
    · rw [bytes]
      exact added
    · rw [tagged, withPayloadType_payloadTypeOf]
  case mediaBlock =>
    intro plType payload valid different fits
    exact addReceivedRedPacket_mediaBlock unset redValid receivedPacketList describes valid
      different fits
  case fecBlock =>
    intro valid payload nonempty fits
    rcases fecBlock_oneBlockPacket redPlType ulpfecPayloadType payload describes fits with
      ⟨received, block, tagged⟩
    refine ⟨received, ?_, tagged⟩
    rw [addReceivedRedPacket_oneBlockPacket _ _ _ _ _ _ describes valid, if_pos rfl, block,
      map_some, if_neg]
    intro empty
    have bytes := congrArg (List.length ∘ Tagged.bytes) tagged
    simp [ReceivedPacket.tagged, empty] at bytes
    exact nonempty (List.length_eq_zero_iff.mp bytes.symm)
  case emptyFecBlock =>
    intro valid
    rcases fecBlock_oneBlockPacket redPlType ulpfecPayloadType [] describes (Nat.zero_le _) with
      ⟨received, block, tagged⟩
    have bytes := congrArg (List.length ∘ Tagged.bytes) tagged
    simp [ReceivedPacket.tagged] at bytes
    rw [addReceivedRedPacket_oneBlockPacket _ _ _ _ _ _ describes valid, if_pos rfl, block,
      map_some, if_pos (UInt16.toNat_inj.mp bytes)]
  case twoBlocks =>
    intro fecValid mediaPlType media fec mediaValid different nonempty short mediaFits fecFits
    rcases addReceivedRedPacket_twoBlockPacket unset redPlType mediaPlType ulpfecPayloadType
        ulpfecPayloadType receivedPacketList describes mediaValid fecValid different nonempty short
        mediaFits fecFits with ⟨received, second, added, queued⟩
    rw [withPayloadType_withPayloadType rtpHeader redValid] at queued
    exact ⟨received, second, added, queued⟩

def exampleRtpHeader : Bytes := [0x80, 96, 0, 5, 0, 0, 0, 0, 0, 0, 0, 7]

def exampleHeader : RTPHeader where
  markerBit := false
  payloadType := 116
  sequenceNumber := 5
  timestamp := 0
  ssrc := 7
  numCSRCs := 0
  arrOfCSRCs := Vector.replicate _ 0
  paddingLength := 0
  headerLength := 12
  extension := { transmissionTimeOffset := 0, absoluteSendTime := 0 }

theorem describes_example : Describes exampleHeader exampleRtpHeader where
  fixed := by decide
  headerLength := by decide
  sequenceNumber := by decide
  ssrc := by decide

/-- The received packet of a media packet need not carry its SSRC. -/
theorem not_queuesSsrc :
    ¬ ∀ (unset : UInt32) (header : RTPHeader) (rtpHeader payload : Bytes)
        (redPlType ulpfecPayloadType : UInt8) (memory : Buffer),
      Describes header rtpHeader → redPlType < 0x80 →
      payloadTypeOf rtpHeader ≠ ulpfecPayloadType →
      rtpHeader.length + payload.length ≤ ipPacketSize →
      ∃ redPacket received,
        buildRedPacket memory (rtpHeader ++ payload) payload.length rtpHeader.length redPlType =
          some redPacket ∧
        addReceivedRedPacket unset header redPacket.bytes ulpfecPayloadType [] =
          some (0, [received]) ∧
        received.tagged =
          { bytes := rtpHeader ++ payload
            seqNum := header.sequenceNumber, ssrc := header.ssrc, isFec := false } := by
  intro queues
  rcases queues 0 exampleHeader exampleRtpHeader [1] 116 97 Buffer.zeros describes_example
      (by decide) (by decide) (by decide) with ⟨redPacket, received, built, added, tagged⟩
  have media : (buildRedPacket Buffer.zeros (exampleRtpHeader ++ [1]) 1 12 116).bind
      (fun redPacket => (addReceivedRedPacket 0 exampleHeader redPacket.bytes 97 []).map
        fun result => result.2.map (·.ssrc)) = some [0] := by
    decide +kernel
  have length : exampleRtpHeader.length = 12 := rfl
  rw [length] at built
  change buildRedPacket Buffer.zeros (exampleRtpHeader ++ [1]) 1 12 116 = some redPacket at built
  rw [built, bind_some, added] at media
  have ssrc : received.ssrc = 7 := congrArg Tagged.ssrc tagged
  simp [ssrc] at media

theorem addReceivedRedPacket_roundTrips_example :
    RoundTrips 0 exampleHeader exampleRtpHeader 116 97 [] :=
  addReceivedRedPacket_roundTrips 0 97 [] describes_example (by decide)

end ZyWebRtc.Fec
