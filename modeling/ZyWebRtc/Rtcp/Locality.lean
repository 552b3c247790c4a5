import ZyWebRtc.Foundation.Window
import ZyWebRtc.Rtcp.ParserSafety

namespace ZyWebRtc.Rtcp

/-! What the parsers of `RTCPParserV2` read: on any packet with the same bytes in the
current block they do the same. -/

open Option

open Bytes (Agrees)

theorem rtcpParseCommonHeader_local {data other : Bytes} {offset stop : Nat}
    (agrees : Agrees data other offset stop) (header : offset + 4 ≤ stop) :
    rtcpParseCommonHeader other offset = rtcpParseCommonHeader data offset := by
  have inside := agrees.inside
  have otherInside := agrees.otherInside
  have long : ¬ data.length < offset + 4 := by omega
  have otherLong : ¬ other.length < offset + 4 := by omega
  simp (disch := omega) only [rtcpParseCommonHeader, long, otherLong, if_false, agrees.byteAt,
    agrees.uint16At]

namespace RTCPParserV2

section Items

variable {data other : Bytes} {start : Nat} {parser : RTCPParserV2}
  (agrees : Agrees data other start parser.blockEnd) (after : start ≤ parser.ptr)

include agrees after

theorem parseReportBlockItem_local :
    parseReportBlockItem other parser = parseReportBlockItem data parser := by
  by_cases short : parser.length < 24 ∨ parser.numberOfBlocks = 0
  · rw [parseReportBlockItem, parseReportBlockItem, if_pos short, if_pos short]
  unfold length at short
  simp (disch := omega) only [parseReportBlockItem, length, short, if_false, agrees.byteAt,
    agrees.uint24At, agrees.uint32At]

theorem parseIJItem_local : parseIJItem other parser = parseIJItem data parser := by
  by_cases short : parser.length < 4 ∨ parser.numberOfBlocks = 0
  · rw [parseIJItem, parseIJItem, if_pos short, if_pos short]
  unfold length at short
  simp (disch := omega) only [parseIJItem, length, short, if_false, agrees.uint32At]

theorem parseBYEItem_local : parseBYEItem other parser = parseBYEItem data parser := by
  by_cases short : parser.length < 4 ∨ parser.numberOfBlocks = 0
  · rw [parseBYEItem, parseBYEItem, if_pos short, if_pos short]
  unfold length at short
  simp (disch := omega) only [parseBYEItem, length, short, if_false, agrees.uint32At]

theorem parseRPSIItem_local : parseRPSIItem other parser = parseRPSIItem data parser := by
  by_cases short : parser.length < 4
  · rw [parseRPSIItem, parseRPSIItem, if_pos short, if_pos short]
  by_cases long : 2 + RTCP_RPSI_DATA_SIZE < parser.length
  · rw [parseRPSIItem, parseRPSIItem, if_neg short, if_neg short, if_pos long, if_pos long]
  unfold length at short long
  simp (disch := omega) only [parseRPSIItem, length, short, long, if_false, agrees.byteAt,
    agrees.bytesAt]

theorem parseNACKItem_local : parseNACKItem other parser = parseNACKItem data parser := by
  by_cases short : parser.length < 4
  · rw [parseNACKItem, parseNACKItem, if_pos short, if_pos short]
  unfold length at short
  simp (disch := omega) only [parseNACKItem, length, short, if_false, agrees.uint16At]

theorem parseBitRateItem_local (packetType : RTCPPacketTypes) (member : BitRateItem → RTCPPacket) :
    parseBitRateItem other packetType member parser =
      parseBitRateItem data packetType member parser := by
  by_cases short : parser.length < 8
  · rw [parseBitRateItem, parseBitRateItem, if_pos short, if_pos short]
  unfold length at short
  simp (disch := omega) only [parseBitRateItem, length, short, if_false, agrees.uint32At]

theorem parseSLIItem_local : parseSLIItem other parser = parseSLIItem data parser := by
  by_cases short : parser.length < 4
  · rw [parseSLIItem, parseSLIItem, if_pos short, if_pos short]
  unfold length at short
  simp (disch := omega) only [parseSLIItem, length, short, if_false, agrees.uint32At]

theorem parseFIRItem_local : parseFIRItem other parser = parseFIRItem data parser := by
  by_cases short : parser.length < 8
  · rw [parseFIRItem, parseFIRItem, if_pos short, if_pos short]
  unfold length at short
  simp (disch := omega) only [parseFIRItem, length, short, if_false, agrees.uint32At, agrees.byteAt]

omit after in
theorem matchesAt_local (expected : Bytes) :
    ∀ {offset}, start ≤ offset → offset + expected.length ≤ parser.blockEnd →
      matchesAt other expected offset = matchesAt data expected offset := by
  induction expected with
  | nil => exact fun _ _ => rfl
  | cons head rest induction =>
    intro offset after before
    rw [List.length_cons] at before
    simp (disch := omega) only [matchesAt, agrees.byteAt, induction]

theorem parsePsfbAppItem_local : parsePsfbAppItem other parser = parsePsfbAppItem data parser := by
  by_cases short : parser.length < 4
  · rw [parsePsfbAppItem, parsePsfbAppItem, if_pos short, if_pos short]
  unfold length at short
  have identified : matchesAt other [0x52, 0x45, 0x4D, 0x42] parser.ptr =
      matchesAt data [0x52, 0x45, 0x4D, 0x42] parser.ptr :=
    matchesAt_local agrees _ after (by simp only [List.length_cons, List.length_nil]; omega)
  simp only [parsePsfbAppItem, length, short, if_false, identified]

theorem parsePsfbREMBItem_local :
    parsePsfbREMBItem other parser = parsePsfbREMBItem data parser := by
  by_cases short : parser.length < 4
  · rw [parsePsfbREMBItem, parsePsfbREMBItem, if_pos short, if_pos short]
  unfold length at short
  have inside := agrees.inside
  simp (disch := omega) only [parsePsfbREMBItem, length, short, if_false, agrees.byteAt,
    agrees.uint24At, Bytes.byteAt_inside, Bytes.uint24At_inside, bind_eq_bind,
    bind_some]
  by_cases few :
      parser.blockEnd - (parser.ptr + 4) < 4 * (data.byteValue parser.ptr).toNat
  · simp only [few, if_true]
  · simp only [few, if_false]
    rw [agrees.uint32sAt _ (by omega) (by omega)]

theorem parseAPPItem_local : parseAPPItem other parser = parseAPPItem data parser := by
  by_cases short : parser.length < 4
  · rw [parseAPPItem, parseAPPItem, if_pos short, if_pos short]
  unfold length at short
  simp (disch := omega) only [parseAPPItem, length, short, if_false, agrees.bytesAt]

theorem parseXRReceiverReferenceTimeItem_local :
    parseXRReceiverReferenceTimeItem other parser =
      parseXRReceiverReferenceTimeItem data parser := by
  by_cases short : parser.length < 8
  · rw [parseXRReceiverReferenceTimeItem, parseXRReceiverReferenceTimeItem, if_pos short,
      if_pos short]
  unfold length at short
  simp (disch := omega) only [parseXRReceiverReferenceTimeItem, length, short, if_false,
    agrees.uint32At]

theorem parseXRDLRRReportBlockItem_local :
    parseXRDLRRReportBlockItem other parser = parseXRDLRRReportBlockItem data parser := by
  by_cases finished : parser.numberOfBlocks = 0
  · rw [parseXRDLRRReportBlockItem, parseXRDLRRReportBlockItem, if_pos finished, if_pos finished]
  by_cases short : parser.length < 12
  · rw [parseXRDLRRReportBlockItem, parseXRDLRRReportBlockItem, if_neg finished,
      if_neg finished, if_pos short, if_pos short]
  unfold length at short
  simp (disch := omega) only [parseXRDLRRReportBlockItem, finished, length, short, if_false,
    agrees.uint32At]

theorem parseXRVOIPMetricItem_local (uncut : parser.length < 28 ∨ 32 ≤ parser.length) :
    parseXRVOIPMetricItem other parser = parseXRVOIPMetricItem data parser := by
  by_cases short : parser.length < 28
  · rw [parseXRVOIPMetricItem, parseXRVOIPMetricItem, if_pos short, if_pos short]
  unfold length at short uncut
  simp (disch := omega) only [parseXRVOIPMetricItem, length, short, if_false, agrees.byteAt,
    agrees.uint16At, agrees.uint32At]

theorem parseXRItem_local (uncut : ¬ CutOffVoipMetric data parser) :
    parseXRItem other parser = parseXRItem data parser := by
  by_cases short : parser.length < 4
  · rw [parseXRItem, parseXRItem, if_pos short, if_pos short]
  have inside := agrees.inside
  unfold CutOffVoipMetric at uncut
  unfold length at short uncut
  rw [Bytes.byteAt_inside (by omega), Bytes.byteAt_inside (by omega)] at uncut
  have item : Agrees data other start
      (blockEnd { parser with ptr := parser.ptr + 4 }) := agrees
  have itemAfter : start ≤ ptr { parser with ptr := parser.ptr + 4 } := by
    change start ≤ parser.ptr + 4
    omega
  simp (disch := omega) only [parseXRItem, length, short, if_false, agrees.byteAt,
    Bytes.byteAt_inside, bind_eq_bind, bind_some]
  rw [parseXRReceiverReferenceTimeItem_local item itemAfter]
  by_cases voip : data.byteValue parser.ptr = 7 ∧ data.byteValue (parser.ptr + 3) = 8
  · rw [parseXRVOIPMetricItem_local item itemAfter (by
      simp only [voip.1, voip.2, and_true] at uncut
      simp only [length]
      omega)]
  · simp only [voip, if_false]

end Items

/-! ## Source descriptions -/

section Chunks

variable {data other : Bytes} {start : Nat}

theorem copyCName_local {stop : Nat} (agrees : Agrees data other start stop) (count : Nat) :
    ∀ {offset}, start ≤ offset → offset + count ≤ stop →
      copyCName other count offset = copyCName data count offset := by
  induction count with
  | zero => exact fun _ _ => rfl
  | succ count induction =>
    intro offset after before
    simp (disch := omega) only [copyCName, agrees.byteAt, induction]

theorem parseSDESItemLoop_local (fuel : Nat) :
    ∀ {itemOctetsRead foundCName parser}, Agrees data other start (blockEnd parser) →
      start ≤ parser.ptr →
      parseSDESItemLoop other fuel itemOctetsRead foundCName parser =
        parseSDESItemLoop data fuel itemOctetsRead foundCName parser := by
  induction fuel with
  | zero => exact fun _ _ => rfl
  | succ fuel induction =>
    intro itemOctetsRead foundCName parser agrees after
    have inside := agrees.inside
    by_cases ended : parser.ptr < parser.blockEnd
    case neg => simp only [parseSDESItemLoop, ended, if_false]
    simp (disch := omega) only [parseSDESItemLoop, ended, if_true, agrees.byteAt,
      Bytes.byteAt_inside, bind_eq_bind, bind_some]
    by_cases endTag : data.byteValue parser.ptr = 0
    · simp only [endTag, if_true]
    by_cases lengthInside : parser.ptr + 1 < parser.blockEnd
    case neg => simp only [endTag, lengthInside, if_false]
    simp only [endTag, lengthInside, if_false, if_true]
    by_cases cNameTag : data.byteValue parser.ptr = 1
    case neg =>
      simp only [cNameTag, if_false]
      exact induction agrees (by simp only; omega)
    simp only [cNameTag, if_true]
    by_cases long :
        parser.blockEnd ≤ parser.ptr + 2 + (data.byteValue (parser.ptr + 1)).toNat
    · simp only [long, if_true]
    simp only [long, if_false]
    rw [copyCName_local agrees _ (by omega) (by omega)]
    apply congrArg
    funext copied
    rcases copied with ⟨legal, name⟩
    cases legal with
    | true =>
      simp only [if_true]
      exact induction agrees (by simp only; omega)
    | false => simp only [Bool.false_eq_true, if_false]

theorem parseSDESItemLoop_keeps (fuel : Nat) :
    ∀ {itemOctetsRead foundCName parser}, start ≤ parser.ptr → start ≤ parser.blockEnd →
      ∀ outcome ∈ parseSDESItemLoop data fuel itemOctetsRead foundCName parser,
        outcome.2.blockEnd = parser.blockEnd ∧ start ≤ outcome.2.ptr := by
  induction fuel with
  | zero => exact fun _ _ outcome member => nomatch member
  | succ fuel induction =>
    intro itemOctetsRead foundCName parser after before
    rw [parseSDESItemLoop]
    split
    case isFalse => rintro _ ⟨⟩; exact ⟨rfl, before⟩
    apply forall_mem_bind
    intro tag
    split
    · rintro _ ⟨⟩
      exact ⟨rfl, by simp only [skipToAlignment]; omega⟩
    split
    case isFalse => rintro _ ⟨⟩; exact ⟨rfl, before⟩
    apply forall_mem_bind
    intro len
    split
    case isFalse => exact induction (by simp only; omega) before
    simp only
    split
    · rintro _ ⟨⟩
      exact ⟨rfl, before⟩
    apply forall_mem_bind
    rintro ⟨legal, name⟩
    cases legal with
    | true => exact induction (by simp only; omega) before
    | false => rintro _ ⟨⟩; exact ⟨rfl, before⟩

theorem parseSDESItem_local {parser : RTCPParserV2}
    (agrees : Agrees data other start parser.blockEnd) (after : start ≤ parser.ptr) :
    parseSDESItem other parser = parseSDESItem data parser := by
  rw [parseSDESItem, parseSDESItem, parseSDESItemLoop_local _ agrees after]

theorem parseSDESItem_keeps {parser : RTCPParserV2} (after : start ≤ parser.ptr)
    (before : start ≤ parser.blockEnd) {foundCName : Bool} {chunk : RTCPParserV2}
    (parsed : parseSDESItem data parser = some (foundCName, chunk)) :
    chunk.blockEnd = parser.blockEnd ∧ start ≤ chunk.ptr := by
  rw [parseSDESItem] at parsed
  exact parseSDESItemLoop_keeps _ after before _ parsed

theorem parseSDESChunkLoop_local (fuel : Nat) :
    ∀ {parser}, Agrees data other start (blockEnd parser) → start ≤ parser.ptr →
      parseSDESChunkLoop other fuel parser = parseSDESChunkLoop data fuel parser := by
  induction fuel with
  | zero => exact fun _ _ => rfl
  | succ fuel induction =>
    intro parser agrees after
    by_cases inside : parser.ptr < parser.blockEnd
    case neg => simp only [parseSDESChunkLoop, inside, if_false]
    by_cases short : parser.length < 4
    · simp only [parseSDESChunkLoop, inside, short, if_true]
    have item : parseSDESItem other { parser with ptr := parser.ptr + 4 } =
        parseSDESItem data { parser with ptr := parser.ptr + 4 } :=
      parseSDESItem_local agrees (by simp only; omega)
    unfold length at short
    simp (disch := omega) only [parseSDESChunkLoop, inside, length, short, if_true, if_false,
      agrees.uint32At, item, bind_eq_bind]
    apply congrArg
    funext ssrc
    cases parsed : parseSDESItem data { parser with ptr := parser.ptr + 4 } with
    | none => rw [bind_none, bind_none]
    | some outcome =>
      rcases outcome with ⟨foundCName, chunk⟩
      have skipped : start ≤ ptr { parser with ptr := parser.ptr + 4 } := by
        change start ≤ parser.ptr + 4
        omega
      have before : start ≤ parser.blockEnd := by omega
      rcases parseSDESItem_keeps skipped before parsed with ⟨blockEnd, chunkAfter⟩
      simp only [bind_some]
      cases foundCName with
      | true => simp only [if_true]
      | false =>
        simp only [Bool.false_eq_true, if_false]
        apply induction
        · rw [blockEnd]
          exact agrees
        · exact chunkAfter

theorem parseSDESChunk_local {parser : RTCPParserV2}
    (agrees : Agrees data other start parser.blockEnd) (after : start ≤ parser.ptr) :
    parseSDESChunk other parser = parseSDESChunk data parser := by
  by_cases finished : parser.numberOfBlocks = 0
  · rw [parseSDESChunk, parseSDESChunk, if_pos finished, if_pos finished]
  · rw [parseSDESChunk, parseSDESChunk, if_neg finished, if_neg finished]
    apply parseSDESChunkLoop_local
    · exact agrees
    · exact after

end Chunks

/-! ## Blocks -/

section Blocks

variable {data other : Bytes} {start : Nat} {parser : RTCPParserV2}
  (agrees : Agrees data other start parser.blockEnd) (after : start ≤ parser.ptr)

include agrees after

theorem parseSR_local : parseSR other parser = parseSR data parser := by
  by_cases short : parser.length < 28
  · rw [parseSR, parseSR, if_pos short, if_pos short]
  unfold length at short
  simp (disch := omega) only [parseSR, length, short, if_false, agrees.uint32At]

theorem parseRR_local : parseRR other parser = parseRR data parser := by
  by_cases short : parser.length < 8
  · rw [parseRR, parseRR, if_pos short, if_pos short]
  unfold length at short
  simp (disch := omega) only [parseRR, length, short, if_false, agrees.uint32At]

theorem parseBYE_local : parseBYE other parser = parseBYE data parser := by
  apply parseBYEItem_local
  · exact agrees
  · change start ≤ parser.ptr + 4
    omega

theorem parseXR_local : parseXR other parser = parseXR data parser := by
  by_cases short : parser.length < 8
  · rw [parseXR, parseXR, if_pos short, if_pos short]
  unfold length at short
  simp (disch := omega) only [parseXR, length, short, if_false, agrees.uint32At]

theorem parseFBCommon_local (header : RTCPCommonHeader) :
    parseFBCommon other header parser = parseFBCommon data header parser := by
  by_cases short : parser.length < 12
  · rw [parseFBCommon, parseFBCommon, if_pos short, if_pos short]
  unfold length at short
  simp (disch := omega) only [parseFBCommon, length, short, if_false, agrees.uint32At]

theorem parseAPP_local (header : RTCPCommonHeader) :
    parseAPP other header parser = parseAPP data header parser := by
  by_cases short : parser.length < 12
  · rw [parseAPP, parseAPP, if_pos short, if_pos short]
  unfold length at short
  simp (disch := omega) only [parseAPP, length, short, if_false, agrees.uint32At]

theorem parseBlock_local (header : RTCPCommonHeader) :
    parseBlock other header parser = parseBlock data header parser := by
  have counted : Agrees data other start (blockEnd { parser with numberOfBlocks := header.ic }) :=
    agrees
  unfold parseBlock
  simp only
  rw [parseSR_local counted after, parseRR_local counted after, parseBYE_local counted after,
    parseXR_local agrees after, parseFBCommon_local agrees after, parseAPP_local agrees after]

theorem parseItem_local (uncut : parser.state = .xrItem → ¬ CutOffVoipMetric data parser) :
    parseItem other parser = parseItem data parser := by
  unfold parseItem
  cases state : parser.state with
  | topLevel => rfl
  | reportBlockItem => exact parseReportBlockItem_local agrees after
  | sdesChunk => exact parseSDESChunk_local agrees after
  | byeItem => exact parseBYEItem_local agrees after
  | extendedJitterItem => exact parseIJItem_local agrees after
  | rtpfbNackItem => exact parseNACKItem_local agrees after
  | rtpfbTmmbrItem => exact parseBitRateItem_local agrees after _ _
  | rtpfbTmmbnItem => exact parseBitRateItem_local agrees after _ _
  | psfbSliItem => exact parseSLIItem_local agrees after
  | psfbRpsiItem => exact parseRPSIItem_local agrees after
  | psfbFirItem => exact parseFIRItem_local agrees after
  | psfbAppItem => exact parsePsfbAppItem_local agrees after
  | psfbRembItem => exact parsePsfbREMBItem_local agrees after
  | xrItem => exact parseXRItem_local agrees after (uncut state)
  | xrDlrrItem => exact parseXRDLRRReportBlockItem_local agrees after
  | appItem => exact parseAPPItem_local agrees after

end Blocks

theorem parseXRItem_cutOff {data : Bytes} {parser : RTCPParserV2}
    (ended : data.length ≤ parser.blockEnd) (cut : CutOffVoipMetric data parser) :
    parseXRItem data parser = none := by
  rcases cut with ⟨enough, seven, blockType, blockLength⟩
  have short : ¬ parser.length < 4 := by omega
  have long : ¬ length { parser with ptr := parser.ptr + 4 } < 28 := by
    unfold length at enough ⊢
    simp only
    omega
  rw [eq_none_iff_forall_not_mem]
  rw [parseXRItem, if_neg short, blockType, blockLength]
  simp only [bind_eq_bind, bind_some]
  refine forall_mem_bind fun _ => ?_
  change ∀ outcome ∈ parseXRVOIPMetricItem data { parser with ptr := parser.ptr + 4 }, False
  rw [parseXRVOIPMetricItem, if_neg long]
  iterate 20 refine forall_mem_bind fun _ => ?_
  unfold length at enough seven
  have outside : data.byteAt (parser.ptr + 4 + 30 + 1) = none :=
    Bytes.byteAt_eq_none_iff.mpr (by omega)
  cases lastHigh : data.byteAt (parser.ptr + 4 + 30) <;>
    simp [Bytes.uint16At, lastHigh, outside]

end RTCPParserV2

end ZyWebRtc.Rtcp
