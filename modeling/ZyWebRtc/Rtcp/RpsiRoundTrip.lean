import ZyWebRtc.Rtcp.RpsiFeedback

namespace ZyWebRtc.Rtcp

/-! The round trip of a reference picture selection through a compound packet. An item moves the
parser by two bytes only, so that the parser takes what follows in the block for another item
as long as that has four bytes. -/

open List RTCPSender Bytes

/-! ## The block behind -/

namespace RTCPParserV2

/-- An outcome without the members that do not tell which blocks are found. -/
def outline (outcome : Bool × RTCPParserV2) : Bool × RTCPParserV2 :=
  (outcome.1, { outcome.2 with numberOfBlocks := 0, packet := .bye 0 })

section Outlines

variable (data : Bytes) (header : RTCPCommonHeader) (parser : RTCPParserV2) (count : UInt8)
  (packet : RTCPPacket)

theorem bind_map_congr {α β γ : Type} (read : Option α) {first second : α → Option β} (f : β → γ)
    (same : ∀ value, (first value).map f = (second value).map f) :
    (read.bind first).map f = (read.bind second).map f := by
  cases read with
  | none => rfl
  | some value => exact same value

theorem parseFBCommon_outline :
    (parseFBCommon data header { parser with numberOfBlocks := count, packet }).map outline =
      (parseFBCommon data header parser).map outline := by
  rw [parseFBCommon, parseFBCommon]
  change Option.map outline (if parser.length < 12 then _ else _) = _
  split
  · rfl
  · apply bind_map_congr
    intro senderSSRC
    apply bind_map_congr
    intro mediaSSRC
    dsimp only
    split
    · simp only [rtpfbMessage]
      split_ifs <;> rfl
    · split
      · simp only [psfbMessage]
        split_ifs <;> rfl
      · rfl

theorem parseAPP_outline :
    (parseAPP data header { parser with numberOfBlocks := count, packet }).map outline =
      (parseAPP data header parser).map outline := by
  rw [parseAPP, parseAPP]
  change Option.map outline (if parser.length < 12 then _ else _) = _
  split
  · rfl
  · apply bind_map_congr
    intro unread
    apply bind_map_congr
    intro name
    rfl

theorem parseXR_outline :
    (parseXR data { parser with numberOfBlocks := count, packet }).map outline =
      (parseXR data parser).map outline := by
  rw [parseXR, parseXR]
  change Option.map outline (if parser.length < 8 then _ else _) = _
  split
  · rfl
  · apply bind_map_congr
    intro originatorSSRC
    rfl
theorem parseSR_outline :
    (parseSR data { parser with packet }).map outline = (parseSR data parser).map outline := by
  rw [parseSR, parseSR]
  change Option.map outline (if parser.length < 28 then _ else _) = _
  split
  · rfl
  · iterate 6
      apply bind_map_congr
      intro _
    rfl

theorem parseRR_outline :
    (parseRR data { parser with packet }).map outline = (parseRR data parser).map outline := by
  rw [parseRR, parseRR]
  change Option.map outline (if parser.length < 8 then _ else _) = _
  split
  · rfl
  · apply bind_map_congr
    intro senderSSRC
    rfl

theorem parseSDES_outline :
    (parseSDES { parser with packet }).map outline = (parseSDES parser).map outline := by
  rw [parseSDES, parseSDES]
  change Option.map outline (if parser.length < 8 then _ else _) = _
  split <;> rfl

theorem parseBYEItem_outline :
    (parseBYEItem data { parser with packet }).map outline =
      (parseBYEItem data parser).map outline := by
  rw [parseBYEItem, parseBYEItem]
  change Option.map outline (if parser.length < 4 ∨ parser.numberOfBlocks = 0 then _ else _) = _
  split
  · rfl
  · apply bind_map_congr
    intro senderSSRC
    rfl

theorem parseIJ_outline :
    (parseIJ { parser with packet }).map outline = (parseIJ parser).map outline := by
  rw [parseIJ, parseIJ]
  change Option.map outline (if parser.length < 4 then _ else _) = _
  split <;> rfl

theorem returned_outline {first second : Outcome}
    (same : first.map outline = second.map outline) :
    (first.bind fun outcome => some (true, outcome.2)).map outline =
      (second.bind fun outcome => some (true, outcome.2)).map outline := by
  cases first with
  | none =>
    cases second with
    | none => rfl
    | some other => cases same
  | some outcome =>
    cases second with
    | none => cases same
    | some other =>
      have seconds := congrArg Prod.snd (Option.some.inj same)
      exact congrArg (fun next => some (true, next)) seconds

theorem parseBlock_outline :
    (parseBlock data header { parser with numberOfBlocks := count, packet }).map outline =
      (parseBlock data header parser).map outline := by
  rw [parseBlock, parseBlock]
  dsimp only
  split_ifs
  · exact returned_outline (parseSR_outline data { parser with numberOfBlocks := header.ic } packet)
  · exact returned_outline (parseRR_outline data { parser with numberOfBlocks := header.ic } packet)
  · exact parseSDES_outline { parser with numberOfBlocks := header.ic } packet
  · exact parseBYEItem_outline data
      { parser with numberOfBlocks := header.ic, ptr := parser.ptr + 4, state := .byeItem } packet
  · exact returned_outline (parseIJ_outline { parser with numberOfBlocks := header.ic } packet)
  · exact parseFBCommon_outline data header parser count packet
  · exact parseAPP_outline data header parser count packet
  · exact parseXR_outline data parser count packet
  · rfl

end Outlines

/-- Which block is found depends on the bytes and the place only. -/
theorem iterateTopLevel_packetType (data : Bytes) (fuel : Nat) :
    ∀ (parser : RTCPParserV2) (blockEnd : Nat) (numberOfBlocks : UInt8) (packet : RTCPPacket),
      (iterateTopLevel data fuel { parser with blockEnd, numberOfBlocks, packet }).map
          packetType = (iterateTopLevel data fuel parser).map packetType := by
  induction fuel with
  | zero => exact fun _ _ _ _ => rfl
  | succ fuel induction =>
    intro parser blockEnd numberOfBlocks packet
    rw [iterateTopLevel, iterateTopLevel]
    apply bind_map_congr
    intro found
    cases found with
    | none => rfl
    | some header =>
      dsimp only
      split
      · rfl
      · have same := parseBlock_outline data header
          { parser with blockEnd := parser.ptr + header.lengthInOctets.toNat } numberOfBlocks
          packet
        dsimp only at same
        revert same
        generalize parseBlock data header { parser with
          blockEnd := parser.ptr + header.lengthInOctets.toNat, numberOfBlocks, packet } = first
        generalize parseBlock data header { parser with
          blockEnd := parser.ptr + header.lengthInOctets.toNat } = second
        intro same
        cases first with
        | none =>
          cases second with
          | none => rfl
          | some other => cases same
        | some outcome =>
          cases second with
          | none => cases same
          | some other =>
            have both := Option.some.inj same
            rcases outcome with ⟨returns, next⟩
            rcases other with ⟨otherReturns, otherNext⟩
            have flags : returns = otherReturns := congrArg Prod.fst both
            have nexts := congrArg Prod.snd both
            have renamed : next = { otherNext with
                blockEnd := next.blockEnd
                numberOfBlocks := next.numberOfBlocks
                packet := next.packet } := by
              cases next
              cases otherNext
              cases nexts
              rfl
            change Option.map packetType (if returns = true then _ else _) =
              Option.map packetType (if otherReturns = true then _ else _)
            rw [flags]
            split
            · rw [renamed]
              rfl
            · rw [renamed]
              exact induction otherNext _ _ _
/-- The type of the block that the parser finds from a place on. -/
def typeBehind (data : Bytes) (offset : Nat) : Option RTCPPacketTypes :=
  (iterate data {
    validPacket := true, ptr := offset, blockEnd := offset, state := .topLevel,
    numberOfBlocks := 0, packetType := .kRtcpNotValidCode, packet := .bye 0 }).map packetType

variable {data : Bytes} {parser : RTCPParserV2} (valid : parser.validPacket = true)
  (top : parser.state = .topLevel)

include valid top

theorem iterate_topLevel :
    parser.iterate data = iterateTopLevel data (data.length + 1) parser.resetPacketType := by
  rw [iterate, iterateFrom, if_neg (by rw [valid]; decide), if_pos top]

theorem iterate_packetType : (parser.iterate data).map packetType = typeBehind data parser.ptr := by
  have same := iterateTopLevel_packetType data (data.length + 1) {
    validPacket := true, ptr := parser.ptr, blockEnd := parser.ptr, state := .topLevel,
    numberOfBlocks := 0, packetType := .kRtcpNotValidCode, packet := .bye 0 }
    parser.blockEnd parser.numberOfBlocks parser.packet
  rw [typeBehind, iterate_topLevel valid top, iterate_topLevel rfl rfl, resetPacketType, valid,
    top, same]
  rfl

end RTCPParserV2

/-! ## Items -/

/-- The parser stands at an item, which ends with its block. -/
structure AtRpsi (data item : Bytes) (parser : RTCPParserV2) : Prop where
  valid : parser.validPacket = true
  state : parser.state = .psfbRpsiItem
  stops : parser.blockEnd = parser.ptr + item.length
  reads : ∃ front back, data = front ++ (item ++ back) ∧ parser.ptr = front.length

section Items

variable {data item bits : Bytes} {parser : RTCPParserV2} {paddingBits payloadType : UInt8}

theorem AtRpsi.length (stands : AtRpsi data item parser) : parser.length = item.length := by
  rw [RTCPParserV2.length, stands.stops, Nat.add_sub_cancel_left]

def rpsiItem (paddingBits payloadType : UInt8) (bits : Bytes) (parser : RTCPParserV2) :
    RTCPParserV2 :=
  { parser with
    ptr := parser.ptr + 2
    packetType := .kRtcpPsfbRpsiCode
    packet := .rpsi { parser.packet.rpsiMember with
      payloadType
      nativeBitString := bits
      numberOfValidBits := UInt16.ofNat bits.length * 8 - paddingBits.toUInt16 } }

section

variable (stands : AtRpsi data (paddingBits :: payloadType :: bits) parser) (long : 2 ≤ bits.length)
  (short : bits.length ≤ 30)

include stands long short

theorem AtRpsi.parseRPSIItem :
    parser.parseRPSIItem data = some (true, rpsiItem paddingBits payloadType bits parser) := by
  have length : parser.length = bits.length + 2 := stands.length
  rcases stands.reads with ⟨front, back, bytes, ptr⟩
  have padding : data.byteAt parser.ptr = some paddingBits := by
    rw [bytes, ptr]
    exact byteAt_append front _ 0
  have type : data.byteAt (parser.ptr + 1) = some payloadType := by
    rw [bytes, ptr]
    exact byteAt_append front _ 1
  have read : data.bytesAt (parser.ptr + 2) (parser.length - 2) = some bits := by
    rw [bytes, ptr, length, Nat.add_sub_cancel, bytesAt_append]
    exact bytesAt_middle [paddingBits, payloadType] back bits
  rw [RTCPParserV2.parseRPSIItem, if_neg (by omega), if_neg (by rw [RTCP_RPSI_DATA_SIZE]; omega),
    padding]
  change (data.byteAt (parser.ptr + 1)).bind _ = _
  rw [type]
  change (data.bytesAt (parser.ptr + 2) (parser.length - 2)).bind _ = _
  rw [read, length]
  rfl

theorem AtRpsi.iterate_item :
    parser.iterate data = some (rpsiItem paddingBits payloadType bits parser) ∧
      AtRpsi data bits (rpsiItem paddingBits payloadType bits parser) := by
  have reset : AtRpsi data (paddingBits :: payloadType :: bits) parser.resetPacketType :=
    ⟨stands.valid, stands.state, stands.stops, stands.reads⟩
  have parsed := reset.parseRPSIItem long short
  constructor
  · have atItem : parser.resetPacketType.state = .psfbRpsiItem := stands.state
    rw [RTCPParserV2.iterate, RTCPParserV2.iterateFrom, if_neg (by rw [stands.valid]; decide),
      if_neg (by rw [stands.state]; decide), RTCPParserV2.parseItem, atItem]
    change (parser.resetPacketType.parseRPSIItem data).bind _ = _
    rw [parsed]
    rfl
  · rcases stands.reads with ⟨front, back, bytes, ptr⟩
    refine ⟨stands.valid, stands.state, ?_, front ++ [paddingBits, payloadType], back, ?_, ?_⟩
    · change parser.blockEnd = parser.ptr + 2 + bits.length
      rw [stands.stops, length_cons, length_cons]
      omega
    · rw [bytes, append_assoc]
      rfl
    · change parser.ptr + 2 = _
      rw [ptr, length_append]
      rfl

end

theorem AtRpsi.iterate_behind (stands : AtRpsi data item parser) (short : item.length < 4) :
    parser.iterate data =
      RTCPParserV2.iterate data { parser with state := .topLevel, ptr := parser.blockEnd } := by
  have atItem : parser.resetPacketType.state = .psfbRpsiItem := stands.state
  have few : parser.resetPacketType.length < 4 := by
    change parser.length < 4
    rw [stands.length]
    exact short
  have left : parser.resetPacketType.leaveBlock.validPacket = true := stands.valid
  have leftState : parser.resetPacketType.leaveBlock.state = .topLevel := rfl
  have behind := @RTCPParserV2.iterate_topLevel data
    { parser with state := .topLevel, ptr := parser.blockEnd } stands.valid rfl
  rw [behind, RTCPParserV2.iterate, RTCPParserV2.iterateFrom, if_neg (by rw [stands.valid]; decide),
    if_neg (by rw [stands.state]; decide), RTCPParserV2.parseItem, atItem]
  change (parser.resetPacketType.parseRPSIItem data).bind _ = _
  rw [RTCPParserV2.parseRPSIItem, if_pos few]
  change RTCPParserV2.iterateFrom data 2 parser.resetPacketType.leaveBlock = _
  rw [RTCPParserV2.iterateFrom, left, if_neg (by decide), if_pos leftState]
  rfl

end Items

/-! ## Rounds -/

section Rounds

variable {data : Bytes} {parser next : RTCPParserV2}

theorem handleRPSI_reports (iterated : parser.iterate data = some next)
    (type : next.packetType = .kRtcpPsfbRpsiCode) {after : RTCPParserV2}
    {reports : List RpsiReport} (handled : handleRPSI data parser = some (after, reports)) :
    reports ≠ [] := by
  rw [handleRPSI, iterated] at handled
  change (if next.packetType = .kRtcpPsfbRpsiCode then _ else _) = _ at handled
  rw [if_pos type] at handled
  rcases Option.bind_eq_some_iff.mp handled with ⟨report, _, handled⟩
  cases report with
  | unknown =>
    rcases Option.bind_eq_some_iff.mp handled with ⟨skipped, _, handled⟩
    cases handled
    exact cons_ne_nil _ _
  | picture pictureId =>
    cases handled
    exact cons_ne_nil _ _

theorem handleRPSI_picture (iterated : parser.iterate data = some next)
    (type : next.packetType = .kRtcpPsfbRpsiCode) {pictureId : UInt64}
    (read : readRPSI next.packet.rpsiMember = some (.picture pictureId)) :
    handleRPSI data parser = some (next, [.picture pictureId]) := by
  rw [handleRPSI, iterated]
  change (if next.packetType = .kRtcpPsfbRpsiCode then _ else _) = _
  rw [if_pos type, read]
  rfl

theorem handleRPSI_nothing (iterated : parser.iterate data = some next)
    (type : next.packetType ≠ .kRtcpPsfbRpsiCode) : handleRPSI data parser = some (next, []) := by
  rw [handleRPSI, iterated]
  change (if next.packetType = .kRtcpPsfbRpsiCode then _ else _) = _
  rw [if_neg type]
  rfl

theorem incomingRound_rpsi (type : parser.packetType = .kRtcpPsfbRpsiCode) :
    incomingRound data parser = handleRPSI data parser := if_pos type

end Rounds

/-! ## The block of an identifier -/

def rpsiFci (pictureID : UInt64) (payloadType : UInt8) (count : Nat) : Bytes :=
  UInt8.ofNat (rpsiPaddingBytes count * 8) :: payloadType ::
    (pictureIDBytes pictureID count ++ List.replicate (rpsiPaddingBytes count) 0)

section Identifier

variable {data : Bytes} {parser header : RTCPParserV2} {pictureID : UInt64}
  {payloadType : UInt8} {count : Nat} (positive : 1 ≤ count) (bound : count ≤ 9)
  (holds : pictureID.toNat < 2 ^ (7 * count))
include positive bound

theorem readRPSI_whole {item : RTCPPacketPSFBRPSI}
    (valid : item.numberOfValidBits = UInt16.ofNat (8 * count))
    (read : readPictureId item.nativeBitString (UInt8.ofNat count) = some pictureID) :
    readRPSI item = some (.picture pictureID) := by
  have whole : ¬ UInt16.ofNat (8 * count) % 8 ≠ 0 := by
    interval_cases count <;> decide
  have bytes : (UInt16.ofNat (8 * count) / 8).toUInt8 = UInt8.ofNat count := by
    interval_cases count <;> rfl
  rw [readRPSI, valid, if_neg whole, bytes, read]
  rfl

theorem rpsiBits_length :
    (pictureIDBytes pictureID count ++ List.replicate (rpsiPaddingBytes count) 0).length =
      if count ≤ 2 then 2 else if count ≤ 6 then 6 else 10 := by
  rw [length_append, pictureIDBytes_length, length_replicate]
  interval_cases count <;> rfl

include holds

theorem readRPSI_rpsiItem :
    readRPSI (rpsiItem (UInt8.ofNat (rpsiPaddingBytes count * 8)) payloadType
      (pictureIDBytes pictureID count ++ List.replicate (rpsiPaddingBytes count) 0)
      parser).packet.rpsiMember = some (.picture pictureID) := by
  have valid : UInt16.ofNat (if count ≤ 2 then 2 else if count ≤ 6 then 6 else 10) * 8 -
      (UInt8.ofNat (rpsiPaddingBytes count * 8)).toUInt16 = UInt16.ofNat (8 * count) := by
    interval_cases count <;> decide
  apply readRPSI_whole positive bound
  · have length : (pictureIDBytes pictureID count ++
        List.replicate (rpsiPaddingBytes count) 0).length = _ := rpsiBits_length positive bound
    rw [← valid, ← length]
    rfl
  · exact readPictureId_pictureIDBytes _ positive bound holds

theorem incomingRound_identifier (type : header.packetType = .kRtcpPsfbRpsiCode)
    (stands : AtRpsi data (rpsiFci pictureID payloadType count) header) :
    ∃ item, incomingRound data header = some (item, [.picture pictureID]) ∧
      item.packetType = .kRtcpPsfbRpsiCode ∧ item.blockEnd = header.blockEnd ∧
      AtRpsi data (pictureIDBytes pictureID count ++
        List.replicate (rpsiPaddingBytes count) 0) item := by
  have length : (pictureIDBytes pictureID count ++
      List.replicate (rpsiPaddingBytes count) 0).length = _ := rpsiBits_length positive bound
  rcases stands.iterate_item (by rw [length]; split_ifs <;> decide)
    (by rw [length]; split_ifs <;> decide) with ⟨found, within⟩
  refine ⟨rpsiItem (UInt8.ofNat (rpsiPaddingBytes count * 8)) payloadType _ header, ?_, rfl, rfl,
    within⟩
  rw [incomingRound_rpsi type]
  exact handleRPSI_picture found rfl (readRPSI_rpsiItem positive bound holds)

/-- Only an identifier of one or two bytes leaves less than another item in its block. -/
theorem reportedOnce_iff_count (iterated : parser.iterate data = some header)
    (type : header.packetType = .kRtcpPsfbRpsiCode)
    (stands : AtRpsi data (rpsiFci pictureID payloadType count) header) :
    ReportedOnce data pictureID header.blockEnd parser ↔ count ≤ 2 ∧
      ∃ behind, RTCPParserV2.typeBehind data header.blockEnd = some behind ∧
        behind ≠ .kRtcpPsfbRpsiCode := by
  rcases incomingRound_identifier positive bound holds type stands with
    ⟨item, first, itemType, ends, within⟩
  have length : (pictureIDBytes pictureID count ++
      List.replicate (rpsiPaddingBytes count) 0).length = _ := rpsiBits_length positive bound
  -- The rounds of the block are determined, so what is left is the second one.
  have second : ReportedOnce data pictureID header.blockEnd parser ↔
      ∃ next, handleRPSI data item = some (next, []) ∧
        RTCPParserV2.iterate data { item with state := .topLevel, ptr := header.blockEnd } =
          some next := by
    constructor
    · rintro ⟨otherHeader, otherItem, next, otherIterated, otherFirst, rounded, behind⟩
      rw [iterated] at otherIterated
      cases otherIterated
      rw [first] at otherFirst
      cases otherFirst
      rw [incomingRound_rpsi itemType] at rounded
      exact ⟨next, rounded, behind⟩
    · rintro ⟨next, handled, behind⟩
      refine ⟨header, item, next, iterated, first, ?_, behind⟩
      rw [incomingRound_rpsi itemType]
      exact handled
  rw [second]
  by_cases few : count ≤ 2
  · have left : item.iterate data = RTCPParserV2.iterate data
        { item with state := .topLevel, ptr := header.blockEnd } := by
      rw [← ends]
      exact within.iterate_behind (by rw [length, if_pos few]; decide)
    have typeBehind := @RTCPParserV2.iterate_packetType data
      { item with state := .topLevel, ptr := header.blockEnd } within.valid rfl
    constructor
    · rintro ⟨next, handled, behind⟩
      refine ⟨few, next.packetType, ?_, fun same => ?_⟩
      · rw [← typeBehind, behind]
        rfl
      · exact handleRPSI_reports (left.trans behind) same handled rfl
    · rintro ⟨-, behind, found, other⟩
      rw [← typeBehind] at found
      rcases Option.map_eq_some_iff.mp found with ⟨next, stepped, same⟩
      rw [← same] at other
      exact ⟨next, handleRPSI_nothing (left.trans stepped) other, stepped⟩
  · apply iff_of_false
    · rintro ⟨next, handled, -⟩
      have size : 6 ≤ (pictureIDBytes pictureID count ++
          List.replicate (rpsiPaddingBytes count) 0).length ∧
          (pictureIDBytes pictureID count ++
            List.replicate (rpsiPaddingBytes count) 0).length ≤ 10 := by
        rw [length, if_neg few]
        split_ifs <;> decide
      match bits : pictureIDBytes pictureID count ++ List.replicate (rpsiPaddingBytes count) 0 with
      | [] =>
        rw [bits] at size
        exact absurd size.1 (by decide)
      | [only] =>
        rw [bits] at size
        exact absurd size.1 (by rw [length_singleton]; decide)
      | paddingBits :: payloadType :: rest =>
        rw [bits] at size within
        rw [length_cons, length_cons] at size
        rcases within.iterate_item (by omega) (by omega) with ⟨found, -⟩
        exact handleRPSI_reports found rfl handled rfl
    · exact fun both => few both.1

end Identifier

/-! ## The message -/

def rpsiMessage (ssrc remoteSSRC : UInt32) (words : UInt8) (item : Bytes) : Bytes :=
  [0x80 + 3, 206, 0, words] ++ uint32Bytes ssrc ++ uint32Bytes remoteSSRC ++ item

theorem rpsiMessage_length (ssrc remoteSSRC : UInt32) (words : UInt8) (item : Bytes) :
    (rpsiMessage ssrc remoteSSRC words item).length = 12 + item.length := by
  rw [rpsiMessage, length_append]
  rfl

theorem iterate_rpsiMessage {front back item : Bytes} {parser : RTCPParserV2}
    (ssrc remoteSSRC : UInt32) {words : UInt8} (counted : 4 * words.toNat = 8 + item.length)
    (valid : parser.validPacket = true) (top : parser.state = .topLevel)
    (stands : parser.ptr = front.length) :
    ∃ header, parser.iterate (front ++ (rpsiMessage ssrc remoteSSRC words item ++ back)) =
        some header ∧ header.packetType = .kRtcpPsfbRpsiCode ∧
      header.blockEnd = front.length + (rpsiMessage ssrc remoteSSRC words item).length ∧
      AtRpsi (front ++ (rpsiMessage ssrc remoteSSRC words item ++ back)) item header := by
  have bound := words.toNat_lt
  have size : (octetsOfLength (UInt16.ofNat words.toNat)).toNat = 12 + item.length := by
    rw [octetsOfLength_toNat (by omega)]
    omega
  have nonzero : octetsOfLength (UInt16.ofNat words.toNat) ≠ 0 := by
    intro zero
    rw [zero, show (0 : UInt16).toNat = 0 from rfl] at size
    omega
  have layout : rpsiMessage ssrc remoteSSRC words item ++ back =
      0x83 :: 206 :: (uint16Bytes (UInt16.ofNat words.toNat) ++
        (uint32Bytes ssrc ++ (uint32Bytes remoteSSRC ++ (item ++ back)))) := by
    rw [uint16Bytes_short, rpsiMessage]
    simp only [append_assoc]
    rfl
  have message := rpsiMessage_length ssrc remoteSSRC words item
  have total : (front ++ (rpsiMessage ssrc remoteSSRC words item ++ back)).length =
      front.length + (12 + item.length + back.length) := by
    rw [length_append, length_append, message]
  have sender : (front ++ (rpsiMessage ssrc remoteSSRC words item ++ back)).uint32At
      (parser.ptr + 4) = some ssrc := by
    rw [stands, uint32At_append, layout]
    exact (uint32At_append (0x83 :: 206 :: uint16Bytes _) _ 0).trans (uint32At_uint32Bytes _ _)
  have media : (front ++ (rpsiMessage ssrc remoteSSRC words item ++ back)).uint32At
      (parser.ptr + 8) = some remoteSSRC := by
    rw [stands, uint32At_append, layout]
    exact (uint32At_append (0x83 :: 206 :: (uint16Bytes _ ++ uint32Bytes ssrc)) _ 0).trans
      (uint32At_uint32Bytes _ _)
  have common : rtcpParseCommonHeader (front ++ (rpsiMessage ssrc remoteSSRC words item ++ back))
      parser.resetPacketType.ptr = some (some {
        v := 2, p := false, ic := 3, pt := 206,
        lengthInOctets := octetsOfLength (UInt16.ofNat words.toNat) }) := by
    change rtcpParseCommonHeader _ parser.ptr = _
    rw [stands]
    apply (rtcpParseCommonHeader_append front _ 0).trans
    rw [layout, rtcpParseCommonHeader_cons, if_neg nonzero, if_neg (by decide)]
    rfl
  have reads : ∃ start rest, front ++ (rpsiMessage ssrc remoteSSRC words item ++ back) =
      start ++ (item ++ rest) ∧ parser.ptr + 12 = start.length := by
    refine ⟨front ++ ([0x80 + 3, 206, 0, words] ++ uint32Bytes ssrc ++ uint32Bytes remoteSSRC),
      back, ?_, ?_⟩
    · rw [rpsiMessage]
      simp only [append_assoc]
    · rw [length_append, stands]
      rfl
  generalize front ++ (rpsiMessage ssrc remoteSSRC words item ++ back) = data at *
  have ends : parser.ptr + (12 + item.length) = front.length + (12 + item.length) := by
    rw [stands]
  have handled : RTCPParserV2.parseFBCommon data {
        v := 2, p := false, ic := 3, pt := 206,
        lengthInOctets := octetsOfLength (UInt16.ofNat words.toNat) }
      { parser.resetPacketType with blockEnd := parser.ptr + (12 + item.length) } =
        some (true, { parser with
          ptr := parser.ptr + 12
          blockEnd := parser.ptr + (12 + item.length)
          packetType := .kRtcpPsfbRpsiCode
          packet := .rpsi { parser.packet.rpsiMember with
            senderSSRC := ssrc, mediaSSRC := remoteSSRC }
          state := .psfbRpsiItem }) := by
    have long : ¬ RTCPParserV2.length
        { parser.resetPacketType with blockEnd := parser.ptr + (12 + item.length) } < 12 := by
      change ¬ parser.ptr + (12 + item.length) - parser.ptr < 12
      omega
    rw [RTCPParserV2.parseFBCommon, if_neg long]
    change (data.uint32At (parser.ptr + 4)).bind _ = _
    rw [sender]
    change (data.uint32At (parser.ptr + 8)).bind _ = _
    rw [media]
    rfl
  refine ⟨{ parser with
      ptr := parser.ptr + 12
      blockEnd := parser.ptr + (12 + item.length)
      packetType := .kRtcpPsfbRpsiCode
      packet := .rpsi { parser.packet.rpsiMember with senderSSRC := ssrc, mediaSSRC := remoteSSRC }
      state := .psfbRpsiItem }, ?_, rfl, ends.trans (by rw [message]),
    ⟨valid, rfl, (Nat.add_assoc _ _ _).symm, reads⟩⟩
  rw [RTCPParserV2.iterate_topLevel valid top, RTCPParserV2.iterateTopLevel]
  change (rtcpParseCommonHeader data parser.resetPacketType.ptr).bind _ = _
  rw [common]
  change (if data.length < parser.ptr + (octetsOfLength (UInt16.ofNat words.toNat)).toNat then _
    else _) = _
  rw [if_neg (by rw [size]; omega)]
  change (RTCPParserV2.parseFBCommon data _ { parser.resetPacketType with
    blockEnd := parser.ptr + (octetsOfLength (UInt16.ofNat words.toNat)).toNat }).bind _ = _
  rw [size, handled]
  rfl

/-! ## The round trip -/

theorem buildRPSI_bytes {sender : RTCPSender} {pictureID : UInt64} {payloadType : UInt8}
    {buffer : RtcpBuffer} {count : Nat} (counted : bytesRequired pictureID = some count)
    (room : buffer.full 24 = false) :
    ∃ built, sender.buildRPSI pictureID payloadType buffer = some built ∧ built.value = 0 ∧
      built.buffer.bytes = buffer.bytes ++ rpsiMessage sender.ssrc sender.remoteSSRC
        (rpsiSize count) (rpsiFci pictureID payloadType count) := by
  rw [buildRPSI, if_neg (by rw [room]; decide), counted]
  refine ⟨_, rfl, ?_, ?_⟩
  · rw [writeBlock, if_neg (by rw [room]; decide)]
  · rw [writeBlock, if_neg (by rw [room]; decide)]
    change buffer.bytes ++ _ = _
    rw [rpsiMessage, rpsiFci]
    simp only [append_assoc]
    rfl

/-- The identifier of a picture survives a compound packet exactly if it has at most 14 bits and
no other block of its kind is next. -/
theorem buildRPSI_reportedOnce_iff (sender : RTCPSender) {pictureID : UInt64}
    (payloadType : UInt8) {buffer : RtcpBuffer} (back : Bytes) {parser : RTCPParserV2}
    (small : pictureID.toNat < 2 ^ 63) (room : buffer.full 24 = false)
    (valid : parser.validPacket = true) (top : parser.state = .topLevel)
    (stands : parser.ptr = buffer.position) :
    ∃ built, sender.buildRPSI pictureID payloadType buffer = some built ∧ built.value = 0 ∧
      (ReportedOnce (built.buffer.bytes ++ back) pictureID built.buffer.position parser ↔
        pictureID.toNat < 2 ^ 14 ∧ ∃ behind, RTCPParserV2.typeBehind (built.buffer.bytes ++ back)
            built.buffer.position = some behind ∧ behind ≠ .kRtcpPsfbRpsiCode) := by
  rcases bytesRequired_eq_some small with ⟨count, counted, holds, needed⟩
  rcases bytesRequired_le counted with ⟨positive, bound⟩
  rcases @buildRPSI_bytes sender pictureID payloadType buffer count counted room with
    ⟨built, written, value, bytes⟩
  refine ⟨built, written, value, ?_⟩
  have words : 4 * (rpsiSize count).toNat = 8 + (rpsiFci pictureID payloadType count).length := by
    rw [rpsiSize_words positive bound, rpsiFci]
    simp only [length_cons, length_append, pictureIDBytes_length, length_replicate]
    omega
  rcases @iterate_rpsiMessage buffer.bytes back _ parser sender.ssrc sender.remoteSSRC _ words valid
    top stands with ⟨header, iterated, type, ends, atItem⟩
  have position : built.buffer.position = header.blockEnd := by
    rw [ends, RtcpBuffer.position, bytes, length_append]
  have few : count ≤ 2 ↔ pictureID.toNat < 2 ^ 14 := by
    constructor
    · intro two
      exact holds.trans_le (Nat.pow_le_pow_right (by decide) (Nat.mul_le_mul_left 7 two))
    · intro fits
      by_contra more
      have least := needed (by omega)
      have larger : 2 ^ 14 ≤ 2 ^ (7 * (count - 1)) :=
        Nat.pow_le_pow_right (by decide) (by omega)
      omega
  rw [bytes, position, append_assoc, ← few]
  exact reportedOnce_iff_count positive bound holds iterated type atItem

def rpsiItemParser : RTCPParserV2 := { beginningParser with state := .psfbRpsiItem, blockEnd := 4 }

end ZyWebRtc.Rtcp
