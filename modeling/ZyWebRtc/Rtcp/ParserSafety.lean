import ZyWebRtc.Rtcp.Parser

namespace ZyWebRtc.Rtcp.RTCPParserV2

/-! Where `RTCPParserV2` reads, how its pointers are ordered, and why its
iteration ends. -/

open Option Bytes

/-- The current block lies inside the packet, and the pointer in the block. -/
structure InBlock (data : Bytes) (parser : RTCPParserV2) : Prop where
  ptr_le : parser.ptr ≤ parser.blockEnd
  end_le : parser.blockEnd ≤ data.length

/-- Blocks and chunks begin at multiples of four octets. -/
def Aligned (parser : RTCPParserV2) : Prop :=
  parser.state = .topLevel ∨ parser.state = .sdesChunk → 4 ∣ parser.ptr

/-- Parsing found something: the pointer moved forward within the block. -/
structure Found (parser next : RTCPParserV2) : Prop where
  validPacket : next.validPacket = parser.validPacket
  blockEnd : next.blockEnd = parser.blockEnd
  forward : parser.ptr < next.ptr
  inside : next.ptr ≤ parser.blockEnd
  valid : next.packetType ≠ .kRtcpNotValidCode
  aligned : Aligned next

/-- Parsing ended the block. -/
structure Left (parser next : RTCPParserV2) : Prop where
  validPacket : next.validPacket = parser.validPacket
  blockEnd : next.blockEnd = parser.blockEnd
  ptr : next.ptr = parser.blockEnd
  state : next.state = .topLevel

def ItemOutcome (parser : RTCPParserV2) : Bool × RTCPParserV2 → Prop
  | (true, next) => Found parser next
  | (false, next) => Left parser next

variable {outcome : Bool × RTCPParserV2}

theorem ItemOutcome.of_later {parser later : RTCPParserV2} (fromLater : ItemOutcome later outcome)
    (validPacket : later.validPacket = parser.validPacket)
    (blockEnd : later.blockEnd = parser.blockEnd) (forward : parser.ptr ≤ later.ptr) :
    ItemOutcome parser outcome := by
  rcases outcome with ⟨_ | _, next⟩
  · exact ⟨fromLater.validPacket.trans validPacket, fromLater.blockEnd.trans blockEnd,
      fromLater.ptr.trans blockEnd, fromLater.state⟩
  · exact ⟨fromLater.validPacket.trans validPacket, fromLater.blockEnd.trans blockEnd,
      Nat.lt_of_le_of_lt forward fromLater.forward, blockEnd ▸ fromLater.inside,
      fromLater.valid, fromLater.aligned⟩

theorem left_leaveBlock (parser : RTCPParserV2) : Left parser parser.leaveBlock :=
  ⟨rfl, rfl, rfl, rfl⟩

section Items

variable {data : Bytes} {parser : RTCPParserV2}

/-! ## Items of a fixed size -/

section

variable (inside : InBlock data parser)

include inside

theorem parseReportBlockItem_outcome (state : parser.state = .reportBlockItem) :
    ∃ outcome, parseReportBlockItem data parser = some outcome ∧ ItemOutcome parser outcome := by
  have ptr_le := inside.ptr_le
  have end_le := inside.end_le
  by_cases short : parser.length < 24 ∨ parser.numberOfBlocks = 0
  · exact ⟨_, if_pos short, left_leaveBlock parser⟩
  unfold length at short
  simp (disch := omega) only [parseReportBlockItem, length, short, if_false,
    byteAt_inside, uint24At_inside, uint32At_inside,
    bind_eq_bind, bind_some, pure_def]
  refine ⟨_, rfl, rfl, rfl, ?_, ?_, by simp, by simp [Aligned, state]⟩ <;> simp only <;> omega

theorem parseIJItem_outcome (state : parser.state = .extendedJitterItem) :
    ∃ outcome, parseIJItem data parser = some outcome ∧ ItemOutcome parser outcome := by
  have ptr_le := inside.ptr_le
  have end_le := inside.end_le
  by_cases short : parser.length < 4 ∨ parser.numberOfBlocks = 0
  · exact ⟨_, if_pos short, left_leaveBlock parser⟩
  unfold length at short
  simp (disch := omega) only [parseIJItem, length, short, if_false, uint32At_inside,
    bind_eq_bind, bind_some, pure_def]
  refine ⟨_, rfl, rfl, rfl, ?_, ?_, by simp, by simp [Aligned, state]⟩ <;> simp only <;> omega

theorem parseBYEItem_outcome (state : parser.state = .byeItem) :
    ∃ outcome, parseBYEItem data parser = some outcome ∧ ItemOutcome parser outcome := by
  have ptr_le := inside.ptr_le
  have end_le := inside.end_le
  by_cases short : parser.length < 4 ∨ parser.numberOfBlocks = 0
  · exact ⟨_, if_pos short, left_leaveBlock parser⟩
  have some_blocks : parser.numberOfBlocks.toNat ≠ 0 := by
    intro zero
    exact short (.inr (UInt8.toNat_inj.mp zero))
  unfold length at short
  simp (disch := omega) only [parseBYEItem, length, short, if_false, uint32At_inside,
    bind_eq_bind, bind_some, pure_def]
  by_cases others : 4 * parser.numberOfBlocks.toNat ≤ parser.blockEnd - parser.ptr <;>
    simp only [others, if_true, if_false] <;>
    refine ⟨_, rfl, rfl, rfl, ?_, ?_, by simp, by simp [Aligned, state]⟩ <;> simp only <;> omega

theorem parseRPSIItem_outcome (state : parser.state = .psfbRpsiItem) :
    ∃ outcome, parseRPSIItem data parser = some outcome ∧ ItemOutcome parser outcome := by
  have ptr_le := inside.ptr_le
  have end_le := inside.end_le
  by_cases short : parser.length < 4
  · exact ⟨_, if_pos short, left_leaveBlock parser⟩
  by_cases long : 2 + RTCP_RPSI_DATA_SIZE < parser.length
  · rw [parseRPSIItem, if_neg short, if_pos long]
    exact ⟨_, rfl, left_leaveBlock parser⟩
  unfold length at short long
  simp (disch := omega) only [parseRPSIItem, length, short, long, if_false,
    byteAt_inside, bytesAt_inside,
    bind_eq_bind, bind_some, pure_def]
  refine ⟨_, rfl, rfl, rfl, ?_, ?_, by simp, by simp [Aligned, state]⟩ <;> simp only <;> omega

theorem parseNACKItem_outcome (state : parser.state = .rtpfbNackItem) :
    ∃ outcome, parseNACKItem data parser = some outcome ∧ ItemOutcome parser outcome := by
  have ptr_le := inside.ptr_le
  have end_le := inside.end_le
  by_cases short : parser.length < 4
  · exact ⟨_, if_pos short, left_leaveBlock parser⟩
  unfold length at short
  simp (disch := omega) only [parseNACKItem, length, short, if_false, uint16At_inside,
    bind_eq_bind, bind_some, pure_def]
  refine ⟨_, rfl, rfl, rfl, ?_, ?_, by simp, by simp [Aligned, state]⟩ <;> simp only <;> omega

theorem parseBitRateItem_outcome {packetType : RTCPPacketTypes} {member : BitRateItem → RTCPPacket}
    (valid : packetType ≠ .kRtcpNotValidCode)
    (state : parser.state = .rtpfbTmmbrItem ∨ parser.state = .rtpfbTmmbnItem) :
    ∃ outcome, parseBitRateItem data packetType member parser = some outcome ∧
      ItemOutcome parser outcome := by
  have ptr_le := inside.ptr_le
  have end_le := inside.end_le
  by_cases short : parser.length < 8
  · exact ⟨_, if_pos short, left_leaveBlock parser⟩
  unfold length at short
  simp (disch := omega) only [parseBitRateItem, length, short, if_false, uint32At_inside,
    bind_eq_bind, bind_some, pure_def]
  refine ⟨_, rfl, rfl, rfl, ?_, ?_, valid, ?_⟩
  · simp only; omega
  · simp only; omega
  · rcases state with state | state <;> simp [Aligned, state]

theorem parseSLIItem_outcome (state : parser.state = .psfbSliItem) :
    ∃ outcome, parseSLIItem data parser = some outcome ∧ ItemOutcome parser outcome := by
  have ptr_le := inside.ptr_le
  have end_le := inside.end_le
  by_cases short : parser.length < 4
  · exact ⟨_, if_pos short, left_leaveBlock parser⟩
  unfold length at short
  simp (disch := omega) only [parseSLIItem, length, short, if_false, uint32At_inside,
    bind_eq_bind, bind_some, pure_def]
  refine ⟨_, rfl, rfl, rfl, ?_, ?_, by simp, by simp [Aligned, state]⟩ <;> simp only <;> omega

theorem parseFIRItem_outcome (state : parser.state = .psfbFirItem) :
    ∃ outcome, parseFIRItem data parser = some outcome ∧ ItemOutcome parser outcome := by
  have ptr_le := inside.ptr_le
  have end_le := inside.end_le
  by_cases short : parser.length < 8
  · exact ⟨_, if_pos short, left_leaveBlock parser⟩
  unfold length at short
  simp (disch := omega) only [parseFIRItem, length, short, if_false, uint32At_inside,
    byteAt_inside, bind_eq_bind, bind_some, pure_def]
  refine ⟨_, rfl, rfl, rfl, ?_, ?_, by simp, by simp [Aligned, state]⟩ <;> simp only <;> omega

end

theorem exists_matchesAt (data expected : Bytes) :
    ∀ offset, offset + expected.length ≤ data.length →
      ∃ identified, matchesAt data expected offset = some identified := by
  induction expected with
  | nil => exact fun _ _ => ⟨true, rfl⟩
  | cons head rest induction =>
    intro offset inside
    simp only [List.length_cons] at inside
    simp only [matchesAt, byteAt_inside (show offset < data.length by omega),
      bind_eq_bind, bind_some, pure_def]
    split
    · exact ⟨false, rfl⟩
    · exact induction _ (by omega)

section

variable (inside : InBlock data parser)

include inside

theorem parsePsfbAppItem_outcome :
    ∃ outcome, parsePsfbAppItem data parser = some outcome ∧ ItemOutcome parser outcome := by
  have ptr_le := inside.ptr_le
  have end_le := inside.end_le
  by_cases short : parser.length < 4
  · exact ⟨_, if_pos short, left_leaveBlock parser⟩
  unfold length at short
  obtain ⟨identified, matched⟩ := exists_matchesAt data [0x52, 0x45, 0x4D, 0x42]
    parser.ptr (by simp only [List.length_cons, List.length_nil]; omega)
  simp only [parsePsfbAppItem, length, short, if_false, matched,
    bind_eq_bind, bind_some, pure_def]
  cases identified with
  | true =>
    refine ⟨_, rfl, rfl, rfl, ?_, ?_, by simp, by simp [Aligned]⟩ <;> simp only <;> omega
  | false => exact ⟨_, rfl, left_leaveBlock parser⟩

theorem parsePsfbREMBItem_outcome (state : parser.state = .psfbRembItem) :
    ∃ outcome, parsePsfbREMBItem data parser = some outcome ∧ ItemOutcome parser outcome := by
  have ptr_le := inside.ptr_le
  have end_le := inside.end_le
  by_cases short : parser.length < 4
  · exact ⟨_, if_pos short, left_leaveBlock parser⟩
  unfold length at short
  simp (disch := omega) only [parsePsfbREMBItem, length, short, if_false, byteAt_inside,
    uint24At_inside, bind_eq_bind, bind_some, pure_def]
  by_cases few :
      parser.blockEnd - (parser.ptr + 4) < 4 * (data.byteValue parser.ptr).toNat
  · simp only [few, if_true]
    exact ⟨_, rfl, rfl, rfl, rfl, rfl⟩
  · obtain ⟨ssrcs, ssrcsAt⟩ := exists_uint32sAt (data.byteValue parser.ptr).toNat
      (parser.ptr + 4) (show _ ≤ data.length by omega)
    simp only [few, if_false, ssrcsAt, bind_some]
    refine ⟨_, rfl, rfl, rfl, ?_, ?_, by simp, by simp [Aligned, state]⟩ <;> simp only <;> omega

theorem parseAPPItem_outcome (state : parser.state = .appItem) :
    ∃ outcome, parseAPPItem data parser = some outcome ∧ ItemOutcome parser outcome := by
  have ptr_le := inside.ptr_le
  have end_le := inside.end_le
  by_cases short : parser.length < 4
  · exact ⟨_, if_pos short, left_leaveBlock parser⟩
  unfold length at short
  have size : kRtcpAppCode_DATA_SIZE = 128 := rfl
  simp (disch := omega) only [parseAPPItem, length, short, if_false, bytesAt_inside,
    bind_eq_bind, bind_some, pure_def]
  refine ⟨_, rfl, rfl, rfl, ?_, ?_, by simp, by simp [Aligned, state]⟩ <;> simp only <;> omega

/-! ## Items of an extended report -/

theorem parseXRReceiverReferenceTimeItem_outcome :
    ∃ outcome, parseXRReceiverReferenceTimeItem data parser = some outcome ∧
      ItemOutcome parser outcome := by
  have ptr_le := inside.ptr_le
  have end_le := inside.end_le
  by_cases short : parser.length < 8
  · exact ⟨_, if_pos short, left_leaveBlock parser⟩
  unfold length at short
  simp (disch := omega) only [parseXRReceiverReferenceTimeItem, length, short, if_false,
    uint32At_inside, bind_eq_bind, bind_some, pure_def]
  refine ⟨_, rfl, rfl, rfl, ?_, ?_, by simp, by simp [Aligned]⟩ <;> simp only <;> omega

theorem parseXRVOIPMetricItem_outcome (uncut : parser.length < 28 ∨ 32 ≤ parser.length) :
    ∃ outcome, parseXRVOIPMetricItem data parser = some outcome ∧ ItemOutcome parser outcome := by
  have ptr_le := inside.ptr_le
  have end_le := inside.end_le
  by_cases short : parser.length < 28
  · exact ⟨_, if_pos short, left_leaveBlock parser⟩
  unfold length at short uncut
  simp (disch := omega) only [parseXRVOIPMetricItem, length, short, if_false,
    byteAt_inside, uint16At_inside, uint32At_inside,
    bind_eq_bind, bind_some, pure_def]
  refine ⟨_, rfl, rfl, rfl, ?_, ?_, by simp, by simp [Aligned]⟩ <;> simp only <;> omega

end

/-- A report block of the extended report has the type and the length of VoIP
metrics, but only seven of its eight words are left in the block. -/
def CutOffVoipMetric (data : Bytes) (parser : RTCPParserV2) : Prop :=
  32 ≤ parser.length ∧ parser.length < 36 ∧
    data.byteAt parser.ptr = some 7 ∧ data.byteAt (parser.ptr + 3) = some 8

theorem parseXRItem_outcome (inside : InBlock data parser)
    (uncut : ¬ CutOffVoipMetric data parser) :
    ∃ outcome, parseXRItem data parser = some outcome ∧ ItemOutcome parser outcome := by
  have ptr_le := inside.ptr_le
  have end_le := inside.end_le
  by_cases short : parser.length < 4
  · exact ⟨_, if_pos short, left_leaveBlock parser⟩
  unfold CutOffVoipMetric at uncut
  unfold length at short uncut
  rw [byteAt_inside (show parser.ptr < data.length by omega),
    byteAt_inside (show parser.ptr + 3 < data.length by omega)] at uncut
  simp (disch := omega) only [parseXRItem, length, short, if_false, byteAt_inside,
    bind_eq_bind, bind_some, pure_def]
  have itemInside : InBlock data { parser with ptr := parser.ptr + 4 } :=
    ⟨by simp only; omega, end_le⟩
  have header : parser.ptr ≤ parser.ptr + 4 := by omega
  split
  · obtain ⟨outcome, parsed, outcomeSpec⟩ :=
      parseXRReceiverReferenceTimeItem_outcome itemInside
    exact ⟨outcome, parsed, outcomeSpec.of_later rfl rfl header⟩
  split
  · refine ⟨_, rfl, rfl, rfl, ?_, ?_, by simp, by simp [Aligned]⟩ <;> simp only <;> omega
  split
  · rename_i voip
    obtain ⟨outcome, parsed, outcomeSpec⟩ := parseXRVOIPMetricItem_outcome itemInside (by
      simp only [voip.1, voip.2, and_true] at uncut
      simp only [length]
      omega)
    exact ⟨outcome, parsed, outcomeSpec.of_later rfl rfl header⟩
  · exact ⟨_, rfl, rfl, rfl, rfl, rfl⟩

theorem parseXRDLRRReportBlockItem_outcome (inside : InBlock data parser)
    (some_blocks : parser.numberOfBlocks ≠ 0) :
    ∃ outcome, parseXRDLRRReportBlockItem data parser = some outcome ∧
      ItemOutcome parser outcome := by
  have ptr_le := inside.ptr_le
  have end_le := inside.end_le
  rw [parseXRDLRRReportBlockItem, if_neg some_blocks]
  by_cases short : parser.length < 12
  · exact ⟨_, if_pos short, left_leaveBlock parser⟩
  unfold length at short
  simp (disch := omega) only [length, short, if_false, uint32At_inside,
    bind_eq_bind, bind_some, pure_def]
  refine ⟨_, rfl, rfl, rfl, ?_, ?_, by simp, by simp [Aligned]⟩ <;> simp only <;> omega

end Items

/-! ## Source descriptions -/

theorem exists_copyCName (data : Bytes) (count : Nat) :
    ∀ offset, offset + count ≤ data.length →
      ∃ legal name, copyCName data count offset = some (legal, name) := by
  induction count with
  | zero => exact fun _ _ => ⟨true, [], rfl⟩
  | succ count induction =>
    intro offset inside
    obtain ⟨legal, name, copied⟩ := induction (offset + 1) (by omega)
    simp only [copyCName, byteAt_inside (show offset < data.length by omega), copied,
      bind_eq_bind, bind_some, pure_def]
    split
    · exact ⟨legal, _, rfl⟩
    · exact ⟨false, [], rfl⟩

/-- The outcomes of parsing the items of one chunk: a name was found, or the end
of a chunk without one, or the block was left. -/
def ChunkOutcome (parser : RTCPParserV2) (ptr : Nat) : Bool × RTCPParserV2 → Prop
  | (true, next) => Found { parser with ptr } next
  | (false, next) => Left parser next ∨
      (next.validPacket = parser.validPacket ∧ next.blockEnd = parser.blockEnd ∧
        next.state = .sdesChunk ∧ ptr < next.ptr ∧ next.ptr ≤ parser.blockEnd ∧ 4 ∣ next.ptr)

theorem ChunkOutcome.of_item {parser item : RTCPParserV2} {ptr : Nat}
    (fromItem : ChunkOutcome item ptr outcome)
    (validPacket : item.validPacket = parser.validPacket)
    (blockEnd : item.blockEnd = parser.blockEnd) : ChunkOutcome parser ptr outcome := by
  rcases outcome with ⟨_ | _, next⟩
  · rw [ChunkOutcome, ← validPacket, ← blockEnd]
    exact fromItem.imp_left fun left =>
      ⟨left.validPacket.trans validPacket, left.blockEnd.trans blockEnd,
        left.ptr.trans blockEnd, left.state⟩
  · exact ⟨fromItem.validPacket.trans validPacket, fromItem.blockEnd.trans blockEnd,
      fromItem.forward, blockEnd ▸ fromItem.inside, fromItem.valid, fromItem.aligned⟩

/-- The loop reads the items of the chunk that began `itemOctetsRead` octets ago.
An item can be announced beyond the block; the loop then ends without a read. -/
theorem parseSDESItemLoop_outcome (data : Bytes) (fuel : Nat) :
    ∀ (itemOctetsRead : Nat) (foundCName : Bool) (parser : RTCPParserV2) (start : Nat),
      parser.blockEnd ≤ data.length → parser.state = .sdesChunk →
      4 ∣ parser.blockEnd → 4 ∣ start → parser.ptr = start + itemOctetsRead →
      (foundCName = true → parser.packetType ≠ .kRtcpNotValidCode) →
      parser.blockEnd - parser.ptr < fuel →
      ∃ outcome, parseSDESItemLoop data fuel itemOctetsRead foundCName parser = some outcome ∧
        ChunkOutcome parser start outcome := by
  induction fuel with
  | zero => intro _ _ _ _ _ _ _ _ _ _ enough; omega
  | succ fuel induction =>
    intro itemOctetsRead foundCName parser start end_le state endAligned startAligned ptr
      valid enough
    have leaves : ChunkOutcome parser start (false, parser.leaveBlock) :=
      .inl (left_leaveBlock parser)
    by_cases inside : parser.ptr < parser.blockEnd
    case neg =>
      simp only [parseSDESItemLoop, inside, if_false]
      exact ⟨_, rfl, leaves⟩
    simp (disch := omega) only [parseSDESItemLoop, inside, if_true, byteAt_inside,
      bind_eq_bind, bind_some, pure_def]
    by_cases endTag : data.byteValue parser.ptr = 0
    · simp only [endTag, if_true]
      refine ⟨_, rfl, ?_⟩
      have skipped : 4 ∣ parser.ptr + 1 + (4 - (itemOctetsRead + 1) % 4) % 4 := by omega
      cases foundCName with
      | true =>
        refine ⟨rfl, rfl, ?_, ?_, valid rfl, fun _ => skipped⟩ <;>
          simp only [skipToAlignment] <;> omega
      | false =>
        refine .inr ⟨rfl, rfl, state, ?_, ?_, skipped⟩ <;>
          simp only [skipToAlignment] <;> omega
    by_cases lengthInside : parser.ptr + 1 < parser.blockEnd
    case neg =>
      simp only [endTag, lengthInside, if_false]
      exact ⟨_, rfl, leaves⟩
    simp only [endTag, lengthInside, if_false, if_true]
    by_cases cNameTag : data.byteValue parser.ptr = 1
    case neg =>
      simp only [cNameTag, if_false]
      obtain ⟨outcome, rest, outcomeSpec⟩ :=
        induction (itemOctetsRead + 2 + (data.byteValue (parser.ptr + 1)).toNat) foundCName
          { parser with ptr := parser.ptr + 2 + (data.byteValue (parser.ptr + 1)).toNat }
          start end_le state endAligned startAligned (by simp only; omega) valid
          (by simp only; omega)
      exact ⟨outcome, rest, outcomeSpec.of_item rfl rfl⟩
    simp only [cNameTag, if_true]
    by_cases long :
        parser.blockEnd ≤ parser.ptr + 2 + (data.byteValue (parser.ptr + 1)).toNat
    · simp only [long, if_true]
      exact ⟨_, rfl, .inl ⟨rfl, rfl, rfl, rfl⟩⟩
    obtain ⟨legal, name, copied⟩ := exists_copyCName data
      (data.byteValue (parser.ptr + 1)).toNat (parser.ptr + 2) (by omega)
    simp only [long, if_false, copied, bind_some]
    cases legal with
    | true =>
      obtain ⟨outcome, rest, outcomeSpec⟩ :=
        induction (itemOctetsRead + 2 + (data.byteValue (parser.ptr + 1)).toNat) true
          { parser with
            ptr := parser.ptr + 2 + (data.byteValue (parser.ptr + 1)).toNat
            packetType := .kRtcpSdesChunkCode
            packet := .cName { parser.packet.cNameMember with cName := name } }
          start end_le state endAligned startAligned (by simp only; omega) (by simp)
          (by simp only; omega)
      exact ⟨outcome, rest, outcomeSpec.of_item rfl rfl⟩
    | false => exact ⟨_, rfl, .inl ⟨rfl, rfl, rfl, rfl⟩⟩

theorem parseSDESChunkLoop_outcome (data : Bytes) (fuel : Nat) :
    ∀ parser : RTCPParserV2, parser.blockEnd ≤ data.length → parser.state = .sdesChunk →
      4 ∣ parser.blockEnd → 4 ∣ parser.ptr → parser.blockEnd - parser.ptr < fuel →
      ∃ outcome, parseSDESChunkLoop data fuel parser = some outcome ∧
        ItemOutcome parser outcome := by
  induction fuel with
  | zero => intro _ _ _ _ _ enough; omega
  | succ fuel induction =>
    intro parser end_le state endAligned aligned enough
    by_cases inside : parser.ptr < parser.blockEnd
    case neg =>
      simp only [parseSDESChunkLoop, inside, if_false]
      exact ⟨_, rfl, left_leaveBlock parser⟩
    have enoughForSsrc : ¬ parser.blockEnd - parser.ptr < 4 := by omega
    obtain ⟨⟨found, chunk⟩, items, chunkOutcome⟩ :=
      parseSDESItemLoop_outcome data (parser.blockEnd - (parser.ptr + 4) + 1) 0 false
        { parser with ptr := parser.ptr + 4 } (parser.ptr + 4)
        end_le state endAligned (by omega) rfl (by simp) (by simp)
    simp (disch := omega) only [parseSDESChunkLoop, inside, if_true, length, enoughForSsrc,
      if_false, uint32At_inside, parseSDESItem, items,
      bind_eq_bind, bind_some, pure_def]
    cases found with
    | true =>
      have forward := chunkOutcome.forward
      have inside := chunkOutcome.inside
      simp only at forward inside
      exact ⟨_, rfl, chunkOutcome.validPacket, chunkOutcome.blockEnd, by simp only; omega,
        inside, chunkOutcome.valid, chunkOutcome.aligned⟩
    | false =>
      rcases chunkOutcome with left | ⟨validPacket, blockEnd, chunkState, forward, inside, chunkAligned⟩
      · obtain ⟨fuel, rfl⟩ : ∃ rest, fuel = rest + 1 := ⟨fuel - 1, by omega⟩
        have ended : ¬ chunk.ptr < chunk.blockEnd := by
          rw [left.ptr, left.blockEnd]
          exact lt_irrefl _
        simp only [Bool.false_eq_true, if_false, parseSDESChunkLoop, ended]
        exact ⟨_, rfl, left.validPacket, left.blockEnd, left.blockEnd, rfl⟩
      · simp only at blockEnd forward inside
        obtain ⟨outcome, rest, outcomeSpec⟩ := induction chunk
          (by omega) chunkState (by omega) chunkAligned (by omega)
        exact ⟨outcome, rest, outcomeSpec.of_later validPacket blockEnd (by omega)⟩

theorem parseSDESChunk_outcome {data : Bytes} {parser : RTCPParserV2}
    (inside : InBlock data parser) (state : parser.state = .sdesChunk)
    (endAligned : 4 ∣ parser.blockEnd) (aligned : 4 ∣ parser.ptr) :
    ∃ outcome, parseSDESChunk data parser = some outcome ∧ ItemOutcome parser outcome := by
  by_cases noBlocks : parser.numberOfBlocks = 0
  · exact ⟨_, if_pos noBlocks, left_leaveBlock parser⟩
  rw [parseSDESChunk, if_neg noBlocks]
  obtain ⟨outcome, parsed, outcomeSpec⟩ := parseSDESChunkLoop_outcome data (parser.length + 1)
    { parser with numberOfBlocks := parser.numberOfBlocks - 1 }
    inside.end_le state endAligned aligned (by simp [length])
  exact ⟨outcome, parsed, outcomeSpec.of_later rfl rfl (Nat.le_refl _)⟩

/-! ## Blocks -/

/-- The top level returns without a packet and without an error: a sender or
receiver report too short for its type. -/
structure Stays (parser next : RTCPParserV2) : Prop where
  validPacket : next.validPacket = parser.validPacket
  blockEnd : next.blockEnd = parser.blockEnd
  state : next.state = .topLevel
  packetType : next.packetType = parser.packetType
  ptr_le : parser.ptr ≤ next.ptr
  inside : next.ptr ≤ parser.blockEnd
  aligned : 4 ∣ next.ptr

def BlockOutcome (parser : RTCPParserV2) : Bool × RTCPParserV2 → Prop
  | (true, next) => Found parser next ∨ Stays parser next
  | (false, next) => Left parser next ∧ next.packetType = parser.packetType

/-- The pointer is at the header of a block that lies inside the packet. -/
structure AtBlock (data : Bytes) (parser : RTCPParserV2) : Prop where
  end_le : parser.blockEnd ≤ data.length
  state : parser.state = .topLevel
  aligned : 4 ∣ parser.ptr
  endAligned : 4 ∣ parser.blockEnd
  header : parser.ptr + 4 ≤ parser.blockEnd

theorem BlockOutcome.of_counted {parser : RTCPParserV2} {ic : UInt8}
    (fromCounted : BlockOutcome { parser with numberOfBlocks := ic } outcome) :
    BlockOutcome parser outcome := by
  rcases outcome with ⟨_ | _, next⟩
  · rcases fromCounted with ⟨left, packetType⟩
    exact ⟨⟨left.validPacket, left.blockEnd, left.ptr, left.state⟩, packetType⟩
  · rcases fromCounted with found | stays
    · exact .inl ⟨found.validPacket, found.blockEnd, found.forward, found.inside, found.valid,
        found.aligned⟩
    · exact .inr ⟨stays.validPacket, stays.blockEnd, stays.state, stays.packetType, stays.ptr_le,
        stays.inside, stays.aligned⟩

section Blocks

variable {data : Bytes} {parser : RTCPParserV2}

section

variable (block : AtBlock data parser)

include block

theorem left_endCurrentBlock : Left parser parser.endCurrentBlock := ⟨rfl, rfl, rfl, block.state⟩

theorem parseSR_outcome : ∃ flag next, parseSR data parser = some (flag, next) ∧
      BlockOutcome parser (true, next) := by
  rcases block with ⟨end_le, state, aligned, endAligned, header⟩
  by_cases short : parser.length < 28
  · exact ⟨_, _, if_pos short, .inr ⟨rfl, rfl, state, rfl, by simp only [endCurrentBlock]; omega,
      Nat.le_refl _, endAligned⟩⟩
  unfold length at short
  simp (disch := omega) only [parseSR, length, short, if_false, uint32At_inside,
    bind_eq_bind, bind_some, pure_def]
  by_cases reports : parser.numberOfBlocks ≠ 0
  · simp only [reports, if_true, ne_eq, not_false_eq_true]
    refine ⟨_, _, rfl, .inl ⟨rfl, rfl, ?_, ?_, by simp, by simp [Aligned]⟩⟩ <;> simp only <;> omega
  · simp only [reports, if_false]
    refine ⟨_, _, rfl, .inl ⟨rfl, rfl, ?_, Nat.le_refl _, by simp [leaveBlock],
      fun _ => endAligned⟩⟩
    simp only [leaveBlock]
    omega

theorem parseRR_outcome : ∃ flag next, parseRR data parser = some (flag, next) ∧
      BlockOutcome parser (true, next) := by
  rcases block with ⟨end_le, state, aligned, endAligned, header⟩
  by_cases short : parser.length < 8
  · exact ⟨_, _, if_pos short, .inr ⟨rfl, rfl, state, rfl, Nat.le_refl _, by omega, aligned⟩⟩
  unfold length at short
  simp (disch := omega) only [parseRR, length, short, if_false, uint32At_inside,
    bind_eq_bind, bind_some, pure_def]
  refine ⟨_, _, rfl, .inl ⟨rfl, rfl, ?_, ?_, by simp, by simp [Aligned]⟩⟩ <;> simp only <;> omega

theorem parseIJ_outcome :
    ∃ flag next, parseIJ parser = some (flag, next) ∧ BlockOutcome parser (true, next) := by
  rcases block with ⟨end_le, state, aligned, endAligned, header⟩
  have long : ¬ parser.length < 4 := by unfold length; omega
  refine ⟨_, _, if_neg long, .inl ⟨rfl, rfl, ?_, ?_, by simp, by simp [Aligned]⟩⟩ <;>
    simp only <;> omega

theorem parseSDES_outcome :
    ∃ outcome, parseSDES parser = some outcome ∧ BlockOutcome parser outcome := by
  rcases block with ⟨end_le, state, aligned, endAligned, header⟩
  by_cases short : parser.length < 8
  · exact ⟨_, if_pos short, left_leaveBlock parser, rfl⟩
  unfold length at short
  refine ⟨_, if_neg short, .inl ⟨rfl, rfl, ?_, ?_, by simp, fun _ => ?_⟩⟩ <;> simp only <;> omega

theorem parseBYE_outcome :
    ∃ outcome, parseBYE data parser = some outcome ∧ BlockOutcome parser outcome := by
  rcases block with ⟨end_le, state, aligned, endAligned, header⟩
  have inside : InBlock data { parser with ptr := parser.ptr + 4, state := .byeItem } :=
    ⟨header, end_le⟩
  by_cases short :
      length { parser with ptr := parser.ptr + 4, state := .byeItem } < 4 ∨
        parser.numberOfBlocks = 0
  · exact ⟨_, if_pos short, ⟨rfl, rfl, rfl, rfl⟩, rfl⟩
  obtain ⟨⟨flag, next⟩, parsed, outcome⟩ := parseBYEItem_outcome inside rfl
  refine ⟨_, parsed, ?_⟩
  cases flag with
  | true =>
    have found : Found parser next := outcome.of_later rfl rfl (by simp only; omega)
    exact .inl found
  | false =>
    -- With four octets and a source left, the item is found.
    rw [parseBYEItem, if_neg short] at parsed
    rw [uint32At_inside (by unfold length at short; simp only at short ⊢; omega)] at parsed
    cases parsed

theorem parseXR_outcome :
    ∃ outcome, parseXR data parser = some outcome ∧ BlockOutcome parser outcome := by
  by_cases short : parser.length < 8
  · exact ⟨_, if_pos short, left_endCurrentBlock block, rfl⟩
  rcases block with ⟨end_le, state, aligned, endAligned, header⟩
  unfold length at short
  simp (disch := omega) only [parseXR, length, short, if_false, uint32At_inside,
    bind_eq_bind, bind_some, pure_def]
  refine ⟨_, rfl, .inl ⟨rfl, rfl, ?_, ?_, by simp, by simp [Aligned]⟩⟩ <;> simp only <;> omega

end

theorem parseAPP_outcome (header : RTCPCommonHeader) (block : AtBlock data parser) :
    ∃ outcome, parseAPP data header parser = some outcome ∧ BlockOutcome parser outcome := by
  by_cases short : parser.length < 12
  · exact ⟨_, if_pos short, left_endCurrentBlock block, rfl⟩
  rcases block with ⟨end_le, state, aligned, endAligned, header⟩
  unfold length at short
  simp (disch := omega) only [parseAPP, length, short, if_false, uint32At_inside,
    bind_eq_bind, bind_some, pure_def]
  refine ⟨_, rfl, .inl ⟨rfl, rfl, ?_, ?_, by simp, by simp [Aligned]⟩⟩ <;> simp only <;> omega

/-- What the two kinds of feedback have in common: a known format begins a message
behind its sources, an unknown one ends the block. -/
theorem feedbackMessage_outcome (block : AtBlock data parser)
    (sourcesInside : parser.ptr + 12 ≤ parser.blockEnd)
    (ic : UInt8) (sources : FeedbackSources) :
    BlockOutcome parser (rtpfbMessage ic sources { parser with ptr := parser.ptr + 12 }) ∧
    BlockOutcome parser (psfbMessage ic sources { parser with ptr := parser.ptr + 12 }) := by
  rcases block with ⟨end_le, state, aligned, endAligned, header⟩
  have forward : parser.ptr < parser.ptr + 12 := by omega
  have messageAligned : 4 ∣ parser.ptr + 12 := by omega
  constructor
  · unfold rtpfbMessage
    split_ifs
    all_goals first
      | exact .inl ⟨rfl, rfl, forward, sourcesInside, by simp, fun _ => messageAligned⟩
      | exact ⟨⟨rfl, rfl, rfl, state⟩, rfl⟩
  · unfold psfbMessage
    split_ifs
    all_goals first
      | exact .inl ⟨rfl, rfl, forward, sourcesInside, by simp, fun _ => messageAligned⟩
      | exact ⟨⟨rfl, rfl, rfl, state⟩, rfl⟩

theorem parseFBCommon_outcome (header : RTCPCommonHeader) (block : AtBlock data parser) :
    ∃ outcome, parseFBCommon data header parser = some outcome ∧ BlockOutcome parser outcome := by
  have end_le := block.end_le
  by_cases short : parser.length < 12
  · exact ⟨_, if_pos short, left_endCurrentBlock block, rfl⟩
  unfold length at short
  have message := feedbackMessage_outcome block (by omega) header.ic
    { senderSSRC := data.uint32Value (parser.ptr + 4)
      mediaSSRC := data.uint32Value (parser.ptr + 8) }
  simp (disch := omega) only [parseFBCommon, length, short, if_false, uint32At_inside,
    bind_eq_bind, bind_some, pure_def]
  split
  · exact ⟨_, rfl, message.1⟩
  split
  · exact ⟨_, rfl, message.2⟩
  · exact ⟨_, rfl, ⟨rfl, rfl, rfl, block.state⟩, rfl⟩

theorem parseBlock_outcome (header : RTCPCommonHeader) (block : AtBlock data parser) :
    ∃ outcome, parseBlock data header parser = some outcome ∧ BlockOutcome parser outcome := by
  have counted : AtBlock data { parser with numberOfBlocks := header.ic } :=
    ⟨block.end_le, block.state, block.aligned, block.endAligned, block.header⟩
  unfold parseBlock
  split
  · obtain ⟨flag, next, parsed, outcome⟩ := parseSR_outcome counted
    exact ⟨(true, next), by simp [parsed], outcome.of_counted⟩
  split
  · obtain ⟨flag, next, parsed, outcome⟩ := parseRR_outcome counted
    exact ⟨(true, next), by simp [parsed], outcome.of_counted⟩
  split
  · obtain ⟨outcome, parsed, outcomeSpec⟩ := parseSDES_outcome counted
    exact ⟨outcome, parsed, outcomeSpec.of_counted⟩
  split
  · obtain ⟨outcome, parsed, outcomeSpec⟩ := parseBYE_outcome counted
    exact ⟨outcome, parsed, outcomeSpec.of_counted⟩
  split
  · obtain ⟨flag, next, parsed, outcome⟩ := parseIJ_outcome counted
    exact ⟨(true, next), by simp [parsed], outcome.of_counted⟩
  split
  · exact parseFBCommon_outcome header block
  split
  · exact parseAPP_outcome header block
  split
  · exact parseXR_outcome block
  · exact ⟨_, rfl, left_endCurrentBlock block, rfl⟩

end Blocks

/-! ## Iteration -/

/-- What holds of the parser between two calls of `Iterate`. -/
structure Invariant (data : Bytes) (parser : RTCPParserV2) : Prop where
  ptr_le : parser.ptr ≤ parser.blockEnd
  inside : parser.ptr ≤ data.length
  aligned : Aligned parser
  endAligned : 4 ∣ parser.blockEnd
  block : parser.state ≠ .topLevel → parser.blockEnd ≤ data.length
  valid : parser.state ≠ .topLevel → parser.validPacket = true
  unvalidated : parser.validPacket = false → parser.blockEnd ≤ data.length

def HeaderAt (data : Bytes) (offset : Nat) : Prop :=
  ∃ header, rtcpParseCommonHeader data offset = some (some header)

/-- The block end is inside the packet, or the next call sets it again. -/
def Bounded (data : Bytes) (parser : RTCPParserV2) : Prop :=
  parser.blockEnd ≤ data.length ∨ HeaderAt data parser.ptr

/-- The last call has refused the block at `ptr`, whose header announces an end
behind the packet, and has returned `kRtcpNotValidCode`. -/
def Refused (data : Bytes) (parser : RTCPParserV2) : Prop :=
  parser.packetType = .kRtcpNotValidCode ∧
    ∃ header, rtcpParseCommonHeader data parser.ptr = some (some header) ∧
      parser.blockEnd = parser.ptr + header.lengthInOctets.toNat

/-- What one call of `Iterate` does to the pointers: a packet type other than
`kRtcpNotValidCode` tells that the parser moved forward in a block of the packet. -/
structure Iterated (data : Bytes) (parser next : RTCPParserV2) : Prop where
  validPacket : next.validPacket = parser.validPacket
  invariant : Invariant data next
  block : Bounded data parser → next.blockEnd ≤ data.length ∨ Refused data next
  forward : next.packetType ≠ .kRtcpNotValidCode → parser.ptr < next.ptr

theorem Iterated.of_later {data : Bytes} {parser later next : RTCPParserV2}
    (iterated : Iterated data later next) (validPacket : later.validPacket = parser.validPacket)
    (forward : parser.ptr ≤ later.ptr) (bounded : Bounded data parser → Bounded data later) :
    Iterated data parser next where
  validPacket := iterated.validPacket.trans validPacket
  invariant := iterated.invariant
  block parserBounded := iterated.block (bounded parserBounded)
  forward found := Nat.lt_of_le_of_lt forward (iterated.forward found)

theorem Found.iterated {data : Bytes} {parser next : RTCPParserV2}
    (found : Found parser next) (valid : parser.validPacket = true)
    (end_le : parser.blockEnd ≤ data.length) (endAligned : 4 ∣ parser.blockEnd) :
    Iterated data parser next := by
  have inside := found.inside
  have blockEnd := found.blockEnd
  exact {
    validPacket := found.validPacket
    invariant := {
      ptr_le := by omega
      inside := by omega
      aligned := found.aligned
      endAligned := by omega
      block := fun _ => by omega
      valid := fun _ => found.validPacket.trans valid
      unvalidated := fun _ => by omega }
    block := fun _ => .inl (by omega)
    forward := fun _ => found.forward }

theorem Stays.iterated {data : Bytes} {parser next : RTCPParserV2}
    (stays : Stays parser next) (reset : parser.packetType = .kRtcpNotValidCode)
    (end_le : parser.blockEnd ≤ data.length) (endAligned : 4 ∣ parser.blockEnd) :
    Iterated data parser next := by
  have inside := stays.inside
  have blockEnd := stays.blockEnd
  have packetType := stays.packetType.trans reset
  exact {
    validPacket := stays.validPacket
    invariant := {
      ptr_le := by omega
      inside := by omega
      aligned := fun _ => stays.aligned
      endAligned := by omega
      block := fun item => absurd stays.state item
      valid := fun item => absurd stays.state item
      unvalidated := fun _ => by omega }
    block := fun _ => .inl (by omega)
    forward := fun found => absurd packetType found }

/-- Every round of the loop passes at least one header, so the fuel is the number of
octets that are left. -/
theorem iterateTopLevel_iterated {data : Bytes} (fuel : Nat) :
    ∀ parser : RTCPParserV2, Invariant data parser → parser.state = .topLevel →
      parser.validPacket = true → parser.packetType = .kRtcpNotValidCode →
      data.length - parser.ptr < fuel →
      ∃ next, iterateTopLevel data fuel parser = some next ∧ Iterated data parser next := by
  induction fuel with
  | zero => intro _ _ _ _ _ enough; omega
  | succ fuel induction =>
    intro parser invariant state valid reset enough
    obtain ⟨result, parsed, headerInside⟩ := rtcpParseCommonHeader_inside data parser.ptr
    cases result with
    | none =>
      refine ⟨parser, by simp [iterateTopLevel, parsed], rfl, invariant, ?_, absurd reset⟩
      rintro (inside | ⟨header, headerAt⟩)
      · exact .inl inside
      · rw [parsed] at headerAt
        cases headerAt
    | some header =>
      obtain ⟨headerEnd, words, positive⟩ := headerInside header rfl
      have aligned := invariant.aligned (.inl state)
      simp only [iterateTopLevel, parsed, bind_eq_bind, bind_some, pure_def]
      by_cases bad : data.length < parser.ptr + header.lengthInOctets.toNat
      · simp only [bad, if_true]
        refine ⟨_, rfl, rfl, ?_, fun _ => .inr ⟨reset, header, parsed, rfl⟩, absurd reset⟩
        exact {
          ptr_le := by simp only; omega
          inside := invariant.inside
          aligned := invariant.aligned
          endAligned := by simp only; omega
          block := fun item => absurd state item
          valid := fun item => absurd state item
          unvalidated := fun invalid => by simp [valid] at invalid }
      simp only [bad, if_false]
      have block : AtBlock data
          { parser with blockEnd := parser.ptr + header.lengthInOctets.toNat } :=
        ⟨by simp only; omega, state, aligned, by simp only; omega, by simp only; omega⟩
      obtain ⟨⟨returns, next⟩, blockParsed, outcome⟩ := parseBlock_outcome header block
      simp only [blockParsed, bind_some]
      cases returns with
      | true =>
        refine ⟨next, rfl, ?_⟩
        rcases outcome with found | stays
        · exact (found.iterated valid block.end_le block.endAligned).of_later rfl
            (Nat.le_refl _) (fun _ => .inl block.end_le)
        · exact (stays.iterated reset block.end_le block.endAligned).of_later rfl
            (Nat.le_refl _) (fun _ => .inl block.end_le)
      | false =>
        rcases outcome with ⟨left, packetType⟩
        have ptr := left.ptr
        have blockEnd := left.blockEnd
        simp only at ptr blockEnd
        obtain ⟨final, rest, iterated⟩ := induction next {
            ptr_le := by omega
            inside := by omega
            aligned := fun _ => by omega
            endAligned := by omega
            block := fun item => absurd left.state item
            valid := fun item => absurd left.state item
            unvalidated := fun _ => by omega }
          left.state (left.validPacket.trans valid) (packetType.trans reset) (by omega)
        exact ⟨final, rest, iterated.of_later left.validPacket (by omega)
          (fun _ => .inl (by omega))⟩

/-- `Iterate` calls the parser of an item in an extended report. -/
def AtXRItem (parser : RTCPParserV2) : Prop :=
  parser.state = .xrItem ∨ parser.state = .xrDlrrItem ∧ parser.numberOfBlocks = 0

theorem parseItem_outcome {data : Bytes} {parser : RTCPParserV2}
    (invariant : Invariant data parser) (item : parser.state ≠ .topLevel)
    (blocks : parser.state = .xrDlrrItem → parser.numberOfBlocks ≠ 0)
    (uncut : parser.state = .xrItem → ¬ CutOffVoipMetric data parser) :
    ∃ outcome, parseItem data parser = some outcome ∧ ItemOutcome parser outcome := by
  have inside : InBlock data parser := ⟨invariant.ptr_le, invariant.block item⟩
  unfold parseItem
  cases state : parser.state with
  | topLevel => exact absurd state item
  | reportBlockItem => exact parseReportBlockItem_outcome inside state
  | sdesChunk =>
    exact parseSDESChunk_outcome inside state invariant.endAligned
      (invariant.aligned (.inr state))
  | byeItem => exact parseBYEItem_outcome inside state
  | extendedJitterItem => exact parseIJItem_outcome inside state
  | rtpfbNackItem => exact parseNACKItem_outcome inside state
  | rtpfbTmmbrItem => exact parseBitRateItem_outcome inside (by simp) (.inl state)
  | rtpfbTmmbnItem => exact parseBitRateItem_outcome inside (by simp) (.inr state)
  | psfbSliItem => exact parseSLIItem_outcome inside state
  | psfbRpsiItem => exact parseRPSIItem_outcome inside state
  | psfbFirItem => exact parseFIRItem_outcome inside state
  | psfbAppItem => exact parsePsfbAppItem_outcome inside
  | psfbRembItem => exact parsePsfbREMBItem_outcome inside state
  | xrItem => exact parseXRItem_outcome inside (uncut state)
  | xrDlrrItem => exact parseXRDLRRReportBlockItem_outcome inside (blocks state)
  | appItem => exact parseAPPItem_outcome inside state

theorem Invariant.reset {data : Bytes} {parser : RTCPParserV2}
    (invariant : Invariant data parser) : Invariant data parser.resetPacketType :=
  ⟨invariant.ptr_le, invariant.inside, invariant.aligned, invariant.endAligned,
    invariant.block, invariant.valid, invariant.unvalidated⟩

section Iterate

variable {data : Bytes} {parser : RTCPParserV2}

theorem iterateFrom_topLevel (calls : Nat) (invariant : Invariant data parser)
    (state : parser.state = .topLevel) :
    ∃ next, iterateFrom data (calls + 1) parser = some next ∧ Iterated data parser next := by
  by_cases valid : parser.validPacket = true
  · obtain ⟨next, iterates, iterated⟩ := iterateTopLevel_iterated (data.length + 1)
      parser.resetPacketType invariant.reset state valid rfl (by omega)
    refine ⟨next, ?_, iterated.of_later rfl (Nat.le_refl _) id⟩
    simpa [iterateFrom, valid, state] using iterates
  · refine ⟨parser.resetPacketType, by simp [iterateFrom, valid], ?_⟩
    exact ⟨rfl, invariant.reset,
      fun _ => .inl (invariant.unvalidated (Bool.eq_false_iff.mpr valid)), absurd rfl⟩

theorem iterateFrom_item (calls : Nat) (invariant : Invariant data parser)
    (item : parser.state ≠ .topLevel)
    (blocks : parser.state = .xrDlrrItem → parser.numberOfBlocks ≠ 0)
    (uncut : parser.state = .xrItem → ¬ CutOffVoipMetric data parser) :
    ∃ next, iterateFrom data (calls + 2) parser = some next ∧ Iterated data parser next := by
  have valid := invariant.valid item
  have end_le := invariant.block item
  have endAligned := invariant.endAligned
  obtain ⟨⟨success, next⟩, parsed, outcome⟩ :=
    parseItem_outcome invariant.reset item blocks uncut
  rw [iterateFrom]
  simp only [valid, item, parsed, Bool.not_true, Bool.false_eq_true, if_false,
    bind_eq_bind, bind_some, pure_def]
  cases success with
  | true =>
    have found : Found parser.resetPacketType next := outcome
    exact ⟨next, rfl, (found.iterated valid end_le endAligned).of_later rfl (Nat.le_refl _) id⟩
  | false =>
    have left : Left parser.resetPacketType next := outcome
    have ptr : next.ptr = parser.blockEnd := left.ptr
    have blockEnd : next.blockEnd = parser.blockEnd := left.blockEnd
    have ptr_le := invariant.ptr_le
    have nextInvariant : Invariant data next := {
      ptr_le := by omega
      inside := by omega
      aligned := fun _ => by omega
      endAligned := by omega
      block := fun other => absurd left.state other
      valid := fun other => absurd left.state other
      unvalidated := fun _ => by omega }
    obtain ⟨final, iterates, iterated⟩ := iterateFrom_topLevel calls nextInvariant left.state
    have validPacket : next.validPacket = parser.validPacket := left.validPacket
    exact ⟨final, iterates, iterated.of_later validPacket (by omega)
      (fun _ => .inl (by omega))⟩

/-- `Iterate` reads inside the packet and returns, unless it comes to a cut off VoIP
metric. -/
theorem iterate_iterated (invariant : Invariant data parser)
    (uncut : AtXRItem parser → ¬ CutOffVoipMetric data parser) :
    ∃ next, iterate data parser = some next ∧ Iterated data parser next := by
  by_cases topLevel : parser.state = .topLevel
  · exact iterateFrom_topLevel 2 invariant topLevel
  by_cases noBlocks : parser.state = .xrDlrrItem ∧ parser.numberOfBlocks = 0
  · -- A finished DLRR block: the next item of the extended report is parsed.
    rcases noBlocks with ⟨state, zero⟩
    have valid := invariant.valid topLevel
    have xrInvariant : Invariant data { parser.resetPacketType with state := .xrItem } := {
      ptr_le := invariant.ptr_le
      inside := invariant.inside
      aligned := by simp [Aligned]
      endAligned := invariant.endAligned
      block := fun _ => invariant.block topLevel
      valid := fun _ => valid
      unvalidated := invariant.unvalidated }
    obtain ⟨next, iterates, iterated⟩ := iterateFrom_item 0 xrInvariant (by simp) (by simp)
      (fun _ => uncut (.inr ⟨state, zero⟩))
    refine ⟨next, ?_, iterated.of_later rfl (Nat.le_refl _) id⟩
    have noItem : parseItem data parser.resetPacketType =
        some (false, { parser.resetPacketType with state := .xrItem }) := by
      simp [parseItem, parseXRDLRRReportBlockItem, resetPacketType, state, zero]
    rw [iterate, iterateFrom]
    simpa only [valid, topLevel, noItem, Bool.not_true, Bool.false_eq_true, if_false,
      bind_eq_bind, bind_some, pure_def] using iterates
  · exact iterateFrom_item 1 invariant topLevel (fun state zero => noBlocks ⟨state, zero⟩)
      (fun state => uncut (.inl state))

end Iterate

/-! ## Whole iterations -/

/-- The parsers on which `Iterate` is called. `Begin` moves the pointer back to the
first byte and then calls it. -/
inductive Called (data : Bytes) (rtcpReducedSizeEnable : Bool) (packet : RTCPPacket) :
    RTCPParserV2 → Prop
  | create {parser} :
      create data rtcpReducedSizeEnable packet = some parser →
      Called data rtcpReducedSizeEnable packet parser
  | iterate {parser next} :
      Called data rtcpReducedSizeEnable packet parser →
      iterate data parser = some next →
      Called data rtcpReducedSizeEnable packet next
  | begin {parser} :
      Called data rtcpReducedSizeEnable packet parser →
      Called data rtcpReducedSizeEnable packet { parser with ptr := 0 }

def iterateTimes (data : Bytes) : Nat → RTCPParserV2 → Option RTCPParserV2
  | 0, parser => some parser
  | count + 1, parser => do iterateTimes data count (← iterate data parser)

/-- The order of the pointers after a call. The end of a refused block is not
inside the packet; no block has begun in a packet that is not valid. -/
structure Ordered (data : Bytes) (parser : RTCPParserV2) : Prop where
  inside : parser.ptr ≤ data.length
  ptr_le : parser.validPacket = true → parser.ptr ≤ parser.blockEnd
  end_le : parser.blockEnd ≤ data.length ∨ Refused data parser

/-- The parser reads bytes of the packet only, keeps its pointers in order, and
returns `kRtcpNotValidCode` after finitely many calls. -/
structure ParsesSafely (data : Bytes) (rtcpReducedSizeEnable : Bool) (packet : RTCPPacket) :
    Prop where
  constructed : ∃ parser, create data rtcpReducedSizeEnable packet = some parser
  reads : ∀ parser, Called data rtcpReducedSizeEnable packet parser →
    ∃ next, iterate data parser = some next
  ordered : ∀ parser next, Called data rtcpReducedSizeEnable packet parser →
    iterate data parser = some next → Ordered data next
  ends : ∀ parser, Called data rtcpReducedSizeEnable packet parser →
    ∃ count ≤ data.length, ∃ last, iterateTimes data (count + 1) parser = some last ∧
      last.packetType = .kRtcpNotValidCode

/-- `Iterate` is about to parse a report block that is a cut off VoIP metric. -/
def ReachesCutOffVoipMetric (data : Bytes) (parser : RTCPParserV2) : Prop :=
  parser.validPacket = true ∧ AtXRItem parser ∧ CutOffVoipMetric data parser

section Runs

variable {data : Bytes} {rtcpReducedSizeEnable : Bool} {packet : RTCPPacket}

theorem exists_create (data : Bytes) (rtcpReducedSizeEnable : Bool) (packet : RTCPPacket) :
    ∃ parser, create data rtcpReducedSizeEnable packet = some parser ∧
      Invariant data parser ∧ Bounded data parser ∧
      (parser.validPacket = true → HeaderAt data 0) := by
  obtain ⟨result, parsed, _⟩ := rtcpParseCommonHeader_inside data 0
  have invariant (validPacket : Bool) : Invariant data
      { validPacket, ptr := 0, blockEnd := 0, state := .topLevel, numberOfBlocks := 0,
        packetType := .kRtcpNotValidCode, packet } := by
    constructor <;> simp [Aligned]
  cases result with
  | none =>
    exact ⟨_, by simp only [create, validate, parsed, bind_eq_bind, bind_some,
      pure_def], invariant false, .inl (Nat.zero_le _), by simp⟩
  | some header =>
    exact ⟨_, by simp only [create, validate, parsed, bind_eq_bind, bind_some,
      pure_def]; rfl, invariant _, .inl (Nat.zero_le _), fun _ => ⟨header, parsed⟩⟩

section

variable {parser : RTCPParserV2}
  (uncut : ∀ parser, Called data rtcpReducedSizeEnable packet parser →
    ¬ ReachesCutOffVoipMetric data parser)
  (called : Called data rtcpReducedSizeEnable packet parser)

include uncut called

/-- The invariant holds in every parser that `Iterate` is called on, as long as no
call comes to a cut off VoIP metric. -/
theorem invariant_of_called : Invariant data parser ∧ Bounded data parser ∧
      (parser.validPacket = true → HeaderAt data 0) := by
  induction called with
  | @create parser created =>
    obtain ⟨other, otherCreated, facts⟩ := exists_create data rtcpReducedSizeEnable packet
    rw [created] at otherCreated
    cases otherCreated
    exact facts
  | @iterate parser next called iterates induction =>
    rcases induction with ⟨invariant, bounded, validated⟩
    have itemUncut (item : AtXRItem parser) : ¬ CutOffVoipMetric data parser := by
      intro cut
      have valid : parser.validPacket = true := invariant.valid (by
        rcases item with state | ⟨state, _⟩ <;> simp [state])
      exact uncut parser called ⟨valid, item, cut⟩
    obtain ⟨other, otherIterates, iterated⟩ := iterate_iterated invariant itemUncut
    rw [iterates] at otherIterates
    cases otherIterates
    refine ⟨iterated.invariant, ?_, fun valid => validated (iterated.validPacket ▸ valid)⟩
    rcases iterated.block bounded with inside | ⟨_, header, headerAt, _⟩
    · exact .inl inside
    · exact .inr ⟨header, headerAt⟩
  | @begin parser called induction =>
    rcases induction with ⟨invariant, _, validated⟩
    refine ⟨?_, ?_, validated⟩
    · exact ⟨Nat.zero_le _, Nat.zero_le _, fun _ => Nat.dvd_zero 4, invariant.endAligned,
        invariant.block, invariant.valid, invariant.unvalidated⟩
    · by_cases valid : parser.validPacket = true
      · exact .inr (validated valid)
      · exact .inl (invariant.unvalidated (Bool.eq_false_iff.mpr valid))

theorem iterated_of_called :
    ∃ next, iterate data parser = some next ∧ Iterated data parser next := by
  have invariant := (invariant_of_called uncut called).1
  refine iterate_iterated invariant (fun item cut => ?_)
  have valid : parser.validPacket = true := invariant.valid (by
    rcases item with state | ⟨state, _⟩ <;> simp [state])
  exact uncut parser called ⟨valid, item, cut⟩

end

/-- Every call with another packet type than `kRtcpNotValidCode` moves the pointer
forward, so there are at most as many of them as octets left. -/
theorem ends_of_called (uncut : ∀ parser, Called data rtcpReducedSizeEnable packet parser →
      ¬ ReachesCutOffVoipMetric data parser) (left : Nat) :
    ∀ parser, Called data rtcpReducedSizeEnable packet parser → data.length - parser.ptr ≤ left →
      ∃ count ≤ left, ∃ last, iterateTimes data (count + 1) parser = some last ∧
        last.packetType = .kRtcpNotValidCode := by
  induction left with
  | zero =>
    intro parser called bound
    obtain ⟨next, iterates, iterated⟩ := iterated_of_called uncut called
    refine ⟨0, Nat.le_refl _, next, by simp [iterateTimes, iterates], ?_⟩
    by_contra found
    have forward := iterated.forward found
    have inside := iterated.invariant.inside
    omega
  | succ left induction =>
    intro parser called bound
    obtain ⟨next, iterates, iterated⟩ := iterated_of_called uncut called
    by_cases found : next.packetType = .kRtcpNotValidCode
    · exact ⟨0, Nat.zero_le _, next, by simp [iterateTimes, iterates], found⟩
    have forward := iterated.forward found
    obtain ⟨count, countBound, last, rest, ended⟩ :=
      induction next (called.iterate iterates) (by omega)
    refine ⟨count + 1, by omega, last, ?_, ended⟩
    rw [iterateTimes, iterates]
    exact rest

theorem forall_mem_bind {α β : Type} {first : Option α} {rest : α → Option β} {goal : β → Prop}
    (each : ∀ value, ∀ result ∈ rest value, goal result) :
    ∀ result ∈ first >>= rest, goal result := by
  intro result member
  cases first with
  | none => cases member
  | some value => exact each value result member

/-- A cut off VoIP metric is read to the end of its eighth word, behind the end of
its block. -/
theorem parseXRVOIPMetricItem_over {parser : RTCPParserV2} (long : 28 ≤ parser.length) :
    ∀ outcome ∈ parseXRVOIPMetricItem data parser,
      outcome.1 = true ∧ outcome.2.ptr = parser.ptr + 32 ∧
      outcome.2.blockEnd = parser.blockEnd ∧ outcome.2.validPacket = parser.validPacket := by
  rw [parseXRVOIPMetricItem, if_neg (by omega)]
  iterate 21 refine forall_mem_bind fun _ => ?_
  intro outcome member
  cases member
  exact ⟨rfl, rfl, rfl, rfl⟩

theorem parseXRItem_over {parser : RTCPParserV2} (cut : CutOffVoipMetric data parser) :
    ∀ outcome ∈ parseXRItem data parser, outcome.1 = true ∧ outcome.2.ptr = parser.ptr + 36 ∧
      outcome.2.blockEnd = parser.blockEnd ∧ outcome.2.validPacket = parser.validPacket := by
  rcases cut with ⟨enough, _, blockType, blockLength⟩
  have short : ¬ parser.length < 4 := by omega
  rw [parseXRItem, if_neg short, blockType, blockLength]
  simp only [bind_eq_bind, bind_some]
  refine forall_mem_bind fun _ => ?_
  have long : 28 ≤ length { parser with ptr := parser.ptr + 4 } := by
    unfold length at enough ⊢
    simp only
    omega
  exact parseXRVOIPMetricItem_over long

theorem iterate_over {parser next : RTCPParserV2} (cut : ReachesCutOffVoipMetric data parser)
    (iterates : iterate data parser = some next) :
    next.ptr = parser.ptr + 36 ∧ next.blockEnd = parser.blockEnd ∧
      next.validPacket = parser.validPacket := by
  rcases cut with ⟨valid, atItem, cut⟩
  -- Both ways to the item end in the same call, on a parser with these pointers.
  have itemOver (calls : Nat) (item : RTCPParserV2) (state : item.state = .xrItem)
      (itemValid : item.validPacket = true) (ptr : item.ptr = parser.ptr)
      (blockEnd : item.blockEnd = parser.blockEnd)
      (itemIterates : iterateFrom data (calls + 1) item = some next) :
      next.ptr = parser.ptr + 36 ∧ next.blockEnd = parser.blockEnd ∧
        next.validPacket = parser.validPacket := by
    have itemCut : CutOffVoipMetric data item.resetPacketType := by
      unfold CutOffVoipMetric length resetPacketType at *
      simpa only [ptr, blockEnd] using cut
    have notTopLevel : item.state ≠ .topLevel := by simp [state]
    have parses : parseItem data item.resetPacketType = parseXRItem data item.resetPacketType := by
      simp [parseItem, resetPacketType, state]
    rw [iterateFrom] at itemIterates
    simp only [itemValid, notTopLevel, parses, Bool.not_true, Bool.false_eq_true, if_false,
      bind_eq_bind, pure_def] at itemIterates
    obtain ⟨outcome, parsed, returned⟩ := bind_eq_some_iff.mp itemIterates
    obtain ⟨success, moved, sameEnd, sameValid⟩ := parseXRItem_over itemCut outcome parsed
    rw [if_pos success] at returned
    cases returned
    exact ⟨moved.trans (by rw [← ptr]; rfl), sameEnd.trans blockEnd,
      sameValid.trans (itemValid.trans valid.symm)⟩
  rcases atItem with state | ⟨state, zero⟩
  · exact itemOver 2 parser state valid rfl rfl iterates
  · refine itemOver 1 { parser.resetPacketType with state := .xrItem } rfl valid rfl rfl ?_
    have notTopLevel : parser.state ≠ .topLevel := by simp [state]
    have noItem : parseItem data parser.resetPacketType =
        some (false, { parser.resetPacketType with state := .xrItem }) := by
      simp [parseItem, parseXRDLRRReportBlockItem, resetPacketType, state, zero]
    rw [iterate, iterateFrom] at iterates
    simpa only [valid, notTopLevel, noItem, Bool.not_true, Bool.false_eq_true, if_false,
      bind_eq_bind, bind_some, pure_def] using iterates

/-- The parser is safe on exactly the packets on which no call comes to a VoIP metric
with seven of its eight words left in the block. -/
theorem parsesSafely_iff_uncut (data : Bytes) (rtcpReducedSizeEnable : Bool) (packet : RTCPPacket) :
    ParsesSafely data rtcpReducedSizeEnable packet ↔
      ∀ parser, Called data rtcpReducedSizeEnable packet parser →
        ¬ ReachesCutOffVoipMetric data parser := by
  constructor
  · intro safe parser called cut
    obtain ⟨next, iterates⟩ := safe.reads parser called
    obtain ⟨ptr, blockEnd, validPacket⟩ := iterate_over cut iterates
    have ordered := (safe.ordered parser next called iterates).ptr_le (validPacket.trans cut.1)
    rcases cut with ⟨_, _, enough, seven, _⟩
    unfold length at enough seven
    omega
  · intro uncut
    obtain ⟨parser, created, _⟩ := exists_create data rtcpReducedSizeEnable packet
    refine ⟨⟨parser, created⟩, fun parser called => ?_, fun parser next called iterates => ?_,
      fun parser called => ?_⟩
    · obtain ⟨next, iterates, _⟩ := iterated_of_called uncut called
      exact ⟨next, iterates⟩
    · obtain ⟨other, otherIterates, iterated⟩ := iterated_of_called uncut called
      rw [iterates] at otherIterates
      cases otherIterates
      exact ⟨iterated.invariant.inside, fun _ => iterated.invariant.ptr_le,
        iterated.block (invariant_of_called uncut called).2.1⟩
    · exact ends_of_called uncut data.length parser called (Nat.sub_le _ _)

end Runs

/-- A receiver report, and an extended report that ends with seven of the eight words
of a VoIP metric. -/
def cutOffVoipMetricPacket : Bytes :=
  [0x80, 201, 0, 1, 0, 0, 0, 1, 0x80, 207, 0, 9, 0, 0, 0, 1, 7, 0, 0, 8] ++ List.replicate 28 0

theorem not_parsesSafely_cutOffVoipMetric :
    ¬ ParsesSafely cutOffVoipMetricPacket false (.bye 0) := by
  intro safe
  obtain ⟨fresh, created⟩ := safe.constructed
  have freshCalled := Called.create created
  obtain ⟨report, reported⟩ := safe.reads fresh freshCalled
  have reportCalled := freshCalled.iterate reported
  obtain ⟨extended, extendedReported⟩ := safe.reads report reportCalled
  obtain ⟨item, itemParsed⟩ := safe.reads extended (reportCalled.iterate extendedReported)
  have outside : ((create cutOffVoipMetricPacket false (.bye 0)).bind
      (iterateTimes cutOffVoipMetricPacket 3)).isNone = true := by decide
  rw [created, bind_some, iterateTimes, reported] at outside
  simp only [bind_eq_bind, bind_some, iterateTimes, extendedReported, itemParsed] at outside
  cases outside

end ZyWebRtc.Rtcp.RTCPParserV2
