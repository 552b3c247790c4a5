import ZyWebRtc.Rtcp.ParserSafety

namespace ZyWebRtc.Rtcp.RTCPParserV2

/-! How `RTCPParserV2` leaves a block: at which header it goes on, from the head of a block
and from its items. -/

/-! ## How blocks are left -/

section

variable (header : RTCPCommonHeader)

/-- A sender or receiver report too short for its type, at which `Iterate` returns
`kRtcpNotValidCode`. -/
def ShortReport : Prop :=
  header.pt = ptSR ∧ header.lengthInOctets.toNat < 28 ∨
    header.pt = ptRR ∧ header.lengthInOctets.toNat < 8

/-- A picture loss indication or a request for a sender report that has words behind
its sources. Nothing moves the pointer over them. -/
def LeavesWords : Prop :=
  (header.pt = ptRTPFB ∧ header.ic = 5 ∨ header.pt = ptPSFB ∧ header.ic = 1) ∧
    12 < header.lengthInOctets.toNat

instance (header : RTCPCommonHeader) : Decidable (ShortReport header) :=
  inferInstanceAs (Decidable (_ ∨ _))

instance (header : RTCPCommonHeader) : Decidable (LeavesWords header) :=
  inferInstanceAs (Decidable (_ ∧ _))

def passedOctets : Nat :=
  if LeavesWords header then 12 else header.lengthInOctets.toNat

/-- Where the next header is looked for. -/
def resumeAt (parser : RTCPParserV2) : Nat :=
  if parser.state = .topLevel then parser.ptr else parser.blockEnd

theorem resumeAt_topLevel {parser : RTCPParserV2} (state : parser.state = .topLevel) :
    resumeAt parser = parser.ptr := if_pos state

theorem resumeAt_item {parser : RTCPParserV2} (item : parser.state ≠ .topLevel) :
    resumeAt parser = parser.blockEnd := if_neg item

/-- What holds when the top level has returned from a block. -/
def Returned (parser next : RTCPParserV2) : Prop :=
  if ShortReport header then next.packetType = parser.packetType
  else next.packetType ≠ .kRtcpNotValidCode ∧ resumeAt next = parser.ptr + passedOctets header

/-- The two ways on from the head of a block. -/
def HeadOutcome (parser : RTCPParserV2) :
    Bool × RTCPParserV2 → Prop
  | (true, next) => Returned header parser next
  | (false, _) => ¬ ShortReport header ∧ ¬ LeavesWords header

end

section Heads

variable {data : Bytes} {header : RTCPCommonHeader} {parser : RTCPParserV2}
  (blockEnd : parser.blockEnd = parser.ptr + header.lengthInOctets.toNat)

theorem returned_of_ended {next : RTCPParserV2} (long : ¬ ShortReport header)
    (last : ¬ LeavesWords header) (valid : next.packetType ≠ .kRtcpNotValidCode)
    (resume : resumeAt next = parser.ptr + header.lengthInOctets.toNat) :
    Returned header parser next := by
  rw [Returned, if_neg long, passedOctets, if_neg last]
  exact ⟨valid, resume⟩

include blockEnd

theorem parseSR_returned (type : header.pt = ptSR) :
    ∀ outcome ∈ parseSR data parser, Returned header parser outcome.2 := by
  have last : ¬ LeavesWords header := by simp [LeavesWords, type, ptSR, ptRTPFB, ptPSFB]
  by_cases short : parser.length < 28
  · rw [parseSR, if_pos short]
    rintro _ ⟨⟩
    have shortReport : ShortReport header := .inl ⟨type, by unfold length at short; omega⟩
    rw [Returned, if_pos shortReport]
    rfl
  have long : ¬ ShortReport header := by
    unfold length at short
    simp only [ShortReport, type, ptSR, ptRR, true_and]
    rintro (other | ⟨other, _⟩)
    · omega
    · cases other
  rw [parseSR, if_neg short]
  iterate 6 refine forall_mem_bind fun _ => ?_
  split
  · rintro _ ⟨⟩
    exact returned_of_ended long last (by simp) blockEnd
  · rintro _ ⟨⟩
    exact returned_of_ended long last (by simp [leaveBlock]) blockEnd

theorem parseRR_returned (type : header.pt = ptRR) :
    ∀ outcome ∈ parseRR data parser, Returned header parser outcome.2 := by
  have last : ¬ LeavesWords header := by simp [LeavesWords, type, ptRR, ptRTPFB, ptPSFB]
  by_cases short : parser.length < 8
  · rw [parseRR, if_pos short]
    rintro _ ⟨⟩
    have shortReport : ShortReport header := .inr ⟨type, by unfold length at short; omega⟩
    rw [Returned, if_pos shortReport]
  have long : ¬ ShortReport header := by
    unfold length at short
    simp only [ShortReport, type, ptSR, ptRR, true_and]
    rintro (⟨other, _⟩ | other)
    · cases other
    · omega
  rw [parseRR, if_neg short]
  refine forall_mem_bind fun _ => ?_
  rintro _ ⟨⟩
  exact returned_of_ended long last (by simp) blockEnd

section Plain

variable (long : ¬ ShortReport header) (last : ¬ LeavesWords header)

include long last

theorem parseSDES_head : ∀ outcome ∈ parseSDES parser, HeadOutcome header parser outcome := by
  rw [parseSDES]
  split
  · rintro _ ⟨⟩
    exact ⟨long, last⟩
  · rintro _ ⟨⟩
    exact returned_of_ended long last (by simp) blockEnd

theorem parseBYE_head : ∀ outcome ∈ parseBYE data parser, HeadOutcome header parser outcome := by
  rw [parseBYE, parseBYEItem]
  split
  · rintro _ ⟨⟩
    exact ⟨long, last⟩
  · refine forall_mem_bind fun _ => ?_
    rintro _ ⟨⟩
    exact returned_of_ended long last (by simp) blockEnd

theorem parseIJ_head (positive : 4 ≤ header.lengthInOctets.toNat) :
    ∀ outcome ∈ parseIJ parser, Returned header parser outcome.2 := by
  have enough : ¬ parser.length < 4 := by unfold length; omega
  rw [parseIJ, if_neg enough]
  rintro _ ⟨⟩
  exact returned_of_ended long last (by simp) blockEnd

theorem parseAPP_head : ∀ outcome ∈ parseAPP data header parser,
    HeadOutcome header parser outcome := by
  rw [parseAPP]
  split
  · rintro _ ⟨⟩
    exact ⟨long, last⟩
  · iterate 2 refine forall_mem_bind fun _ => ?_
    rintro _ ⟨⟩
    exact returned_of_ended long last (by simp) blockEnd

theorem parseXR_head : ∀ outcome ∈ parseXR data parser, HeadOutcome header parser outcome := by
  rw [parseXR]
  split
  · rintro _ ⟨⟩
    exact ⟨long, last⟩
  · refine forall_mem_bind fun _ => ?_
    rintro _ ⟨⟩
    exact returned_of_ended long last (by simp) blockEnd

end Plain

theorem returned_of_sourcesOnly {next : RTCPParserV2} (long : ¬ ShortReport header)
    (sourcesOnly : header.pt = ptRTPFB ∧ header.ic = 5 ∨ header.pt = ptPSFB ∧ header.ic = 1)
    (enough : ¬ parser.length < 12) (valid : next.packetType ≠ .kRtcpNotValidCode)
    (state : next.state = .topLevel) (ptr : next.ptr = parser.ptr + 12) :
    Returned header parser next := by
  rw [Returned, if_neg long, resumeAt_topLevel state, ptr]
  refine ⟨valid, ?_⟩
  unfold length at enough
  by_cases words : 12 < header.lengthInOctets.toNat
  · rw [passedOctets, if_pos ⟨sourcesOnly, words⟩]
  · rw [passedOctets, if_neg fun leaves => words leaves.2]
    omega

theorem parseFBCommon_head (type : header.pt = ptRTPFB ∨ header.pt = ptPSFB)
    (state : parser.state = .topLevel) :
    ∀ outcome ∈ parseFBCommon data header parser, HeadOutcome header parser outcome := by
  have long : ¬ ShortReport header := by
    rcases type with type | type <;>
      simp [ShortReport, type, ptSR, ptRR, ptRTPFB, ptPSFB]
  by_cases short : parser.length < 12
  · rw [parseFBCommon, if_pos short]
    rintro _ ⟨⟩
    refine ⟨long, fun leaves => ?_⟩
    have words := leaves.2
    unfold length at short
    omega
  rw [parseFBCommon, if_neg short]
  iterate 2 refine forall_mem_bind fun _ => ?_
  have last (format : ¬ (header.pt = ptRTPFB ∧ header.ic = 5 ∨ header.pt = ptPSFB ∧ header.ic = 1)) :
      ¬ LeavesWords header := fun leaves => format leaves.1
  rcases type with type | type
  · rw [if_pos type]
    have last (format : header.ic ≠ 5) : ¬ LeavesWords header := by
      apply last
      rw [type]
      simp [format, ptRTPFB, ptPSFB]
    rintro _ ⟨⟩
    rw [rtpfbMessage]
    split_ifs with nack tmmbr tmmbn request
    · exact returned_of_ended long (last (by simp [nack])) (by simp) blockEnd
    · exact returned_of_ended long (last (by simp [tmmbr])) (by simp) blockEnd
    · exact returned_of_ended long (last (by simp [tmmbn])) (by simp) blockEnd
    · exact returned_of_sourcesOnly blockEnd long (.inl ⟨type, request⟩) short (by simp) state rfl
    · exact ⟨long, last request⟩
  · have other : header.pt ≠ ptRTPFB := by simp [type, ptRTPFB, ptPSFB]
    rw [if_neg other, if_pos type]
    have last (format : header.ic ≠ 1) : ¬ LeavesWords header := by
      apply last
      rw [type]
      simp [format, ptRTPFB, ptPSFB]
    rintro _ ⟨⟩
    rw [psfbMessage]
    split_ifs with loss slice reference intra application
    · exact returned_of_sourcesOnly blockEnd long (.inr ⟨type, loss⟩) short (by simp) state rfl
    · exact returned_of_ended long (last loss) (by simp) blockEnd
    · exact returned_of_ended long (last loss) (by simp) blockEnd
    · exact returned_of_ended long (last loss) (by simp) blockEnd
    · exact returned_of_ended long (last loss) (by simp) blockEnd
    · exact ⟨long, last loss⟩

/-- A block is passed up to its declared end, unless it is a report that is too short or
a message with words left over. -/
theorem parseBlock_head (state : parser.state = .topLevel)
    (positive : 4 ≤ header.lengthInOctets.toNat) :
    ∀ outcome ∈ parseBlock data header parser, HeadOutcome header parser outcome := by
  have of_types (notSR : header.pt ≠ ptSR) (notRR : header.pt ≠ ptRR)
      (notRTPFB : header.pt ≠ ptRTPFB) (notPSFB : header.pt ≠ ptPSFB) :
      ¬ ShortReport header ∧ ¬ LeavesWords header := by
    simp [ShortReport, LeavesWords, notSR, notRR, notRTPFB, notPSFB]
  have counted : RTCPParserV2.blockEnd { parser with numberOfBlocks := header.ic } =
      parser.ptr + header.lengthInOctets.toNat := blockEnd
  rw [parseBlock]
  simp only
  split_ifs with sr rr sdes bye ij feedback app xr
  · intro outcome member
    rcases Option.bind_eq_some_iff.mp member with ⟨report, parsed, returned⟩
    cases returned
    exact parseSR_returned counted sr report parsed
  · intro outcome member
    rcases Option.bind_eq_some_iff.mp member with ⟨report, parsed, returned⟩
    cases returned
    exact parseRR_returned counted rr report parsed
  · rcases of_types sr rr (by simp [sdes, ptSDES, ptRTPFB]) (by simp [sdes, ptSDES, ptPSFB]) with
      ⟨long, last⟩
    exact parseSDES_head counted long last
  · rcases of_types sr rr (by simp [bye, ptBYE, ptRTPFB]) (by simp [bye, ptBYE, ptPSFB]) with
      ⟨long, last⟩
    exact parseBYE_head counted long last
  · rcases of_types sr rr (by simp [ij, ptIJ, ptRTPFB]) (by simp [ij, ptIJ, ptPSFB]) with
      ⟨long, last⟩
    intro outcome member
    rcases Option.bind_eq_some_iff.mp member with ⟨report, parsed, returned⟩
    cases returned
    exact parseIJ_head counted long last positive report parsed
  · exact parseFBCommon_head blockEnd feedback state
  all_goals
    rcases of_types sr rr (fun type => feedback (.inl type)) (fun type => feedback (.inr type)) with
      ⟨long, last⟩
  · exact parseAPP_head blockEnd long last
  · exact parseXR_head blockEnd long last
  · rintro _ ⟨⟩
    exact ⟨long, last⟩

end Heads

/-! ## Items keep the parser in their block -/

/-- An item that is found leaves the parser at the items of the block. -/
def StaysInBlock (outcome : Bool × RTCPParserV2) : Prop :=
  outcome.1 = true → outcome.2.state ≠ .topLevel

theorem staysInBlock_nothing (next : RTCPParserV2) : StaysInBlock (false, next) :=
  fun found => nomatch found

theorem staysInBlock_unless {short : Prop} [Decidable short] {next : RTCPParserV2}
    {parsed : Outcome} (stays : ∀ outcome ∈ parsed, StaysInBlock outcome) :
    ∀ outcome ∈ if short then some (false, next) else parsed, StaysInBlock outcome := by
  split
  · rintro _ ⟨⟩
    exact staysInBlock_nothing next
  · exact stays

section Items

variable {data : Bytes} {parser : RTCPParserV2}

theorem parseSDESItemLoop_staysInBlock (fuel : Nat) :
    ∀ {itemOctetsRead foundCName parser}, RTCPParserV2.state parser ≠ .topLevel →
      ∀ outcome ∈ parseSDESItemLoop data fuel itemOctetsRead foundCName parser,
        outcome.2.state ≠ .topLevel ∨ outcome.1 = false ∧ outcome.2.ptr = outcome.2.blockEnd := by
  induction fuel with
  | zero => exact fun _ outcome member => nomatch member
  | succ fuel induction =>
    intro itemOctetsRead foundCName parser item
    rw [parseSDESItemLoop]
    split
    case isFalse => rintro _ ⟨⟩; exact .inr ⟨rfl, rfl⟩
    apply forall_mem_bind
    intro tag
    split
    · rintro _ ⟨⟩
      exact .inl item
    split
    case isFalse => rintro _ ⟨⟩; exact .inr ⟨rfl, rfl⟩
    apply forall_mem_bind
    intro len
    split
    case isFalse => exact induction item
    simp only
    split
    · rintro _ ⟨⟩
      exact .inr ⟨rfl, rfl⟩
    apply forall_mem_bind
    rintro ⟨legal, name⟩
    cases legal with
    | true => exact induction item
    | false => rintro _ ⟨⟩; exact .inr ⟨rfl, rfl⟩

theorem parseSDESChunkLoop_staysInBlock (fuel : Nat) :
    ∀ {parser}, RTCPParserV2.state parser ≠ .topLevel ∨
        RTCPParserV2.ptr parser = RTCPParserV2.blockEnd parser →
      ∀ outcome ∈ parseSDESChunkLoop data fuel parser, StaysInBlock outcome := by
  induction fuel with
  | zero => exact fun _ outcome member => nomatch member
  | succ fuel induction =>
    intro parser item
    rw [parseSDESChunkLoop]
    split
    case isFalse => rintro _ ⟨⟩; exact staysInBlock_nothing _
    rename_i before
    apply staysInBlock_unless
    apply forall_mem_bind
    intro ssrc outcome member
    rcases Option.bind_eq_some_iff.mp member with ⟨⟨foundCName, chunk⟩, parsed, found⟩
    have atItem : RTCPParserV2.state { parser with ptr := parser.ptr + 4 } ≠ .topLevel :=
      item.resolve_right (by omega)
    rw [parseSDESItem] at parsed
    have chunkItem := parseSDESItemLoop_staysInBlock _ atItem _ parsed
    cases foundCName with
    | true =>
      cases found
      exact fun _ => chunkItem.resolve_right fun left => Bool.noConfusion left.1
    | false => exact induction (chunkItem.imp_right And.right) outcome found

theorem parseXRItem_staysInBlock : ∀ outcome ∈ parseXRItem data parser, StaysInBlock outcome := by
  rw [parseXRItem]
  apply staysInBlock_unless
  iterate 3 refine forall_mem_bind fun _ => ?_
  simp only
  split
  · rw [parseXRReceiverReferenceTimeItem]
    apply staysInBlock_unless
    iterate 2 refine forall_mem_bind fun _ => ?_
    rintro _ ⟨⟩ _
    simp
  split
  · rintro _ ⟨⟩ _
    simp
  split
  · rw [parseXRVOIPMetricItem]
    apply staysInBlock_unless
    iterate 21 refine forall_mem_bind fun _ => ?_
    rintro _ ⟨⟩ _
    simp
  · rintro _ ⟨⟩
    exact staysInBlock_nothing _

theorem parseBitRateItem_staysInBlock (item : parser.state ≠ .topLevel)
    (packetType : RTCPPacketTypes) (member : BitRateItem → RTCPPacket) :
    ∀ outcome ∈ parseBitRateItem data packetType member parser, StaysInBlock outcome := by
  rw [parseBitRateItem]
  apply staysInBlock_unless
  iterate 2 refine forall_mem_bind fun _ => ?_
  rintro _ ⟨⟩ _
  exact item

theorem parsePsfbREMBItem_staysInBlock (item : parser.state ≠ .topLevel) :
    ∀ outcome ∈ parsePsfbREMBItem data parser, StaysInBlock outcome := by
  rw [parsePsfbREMBItem]
  apply staysInBlock_unless
  iterate 2 refine forall_mem_bind fun _ => ?_
  apply staysInBlock_unless
  refine forall_mem_bind fun _ => ?_
  rintro _ ⟨⟩ _
  exact item

theorem parsePsfbAppItem_staysInBlock :
    ∀ outcome ∈ parsePsfbAppItem data parser, StaysInBlock outcome := by
  rw [parsePsfbAppItem]
  apply staysInBlock_unless
  refine forall_mem_bind fun _ => ?_
  split
  · rintro _ ⟨⟩ _
    simp
  · rintro _ ⟨⟩
    exact staysInBlock_nothing _

theorem parseItem_staysInBlock (item : parser.state ≠ .topLevel) :
    ∀ outcome ∈ parseItem data parser, StaysInBlock outcome := by
  unfold parseItem
  cases state : parser.state with
  | topLevel => exact absurd state item
  | reportBlockItem =>
    apply staysInBlock_unless
    iterate 7 refine forall_mem_bind fun _ => ?_
    rintro _ ⟨⟩ _
    exact item
  | sdesChunk =>
    apply staysInBlock_unless
    exact parseSDESChunkLoop_staysInBlock _ (.inl item)
  | byeItem | extendedJitterItem | psfbSliItem =>
    apply staysInBlock_unless
    refine forall_mem_bind fun _ => ?_
    rintro _ ⟨⟩ _
    exact item
  | rtpfbNackItem | psfbFirItem =>
    apply staysInBlock_unless
    iterate 2 refine forall_mem_bind fun _ => ?_
    rintro _ ⟨⟩ _
    exact item
  | rtpfbTmmbrItem => exact parseBitRateItem_staysInBlock item _ _
  | rtpfbTmmbnItem => exact parseBitRateItem_staysInBlock item _ _
  | psfbRpsiItem =>
    apply staysInBlock_unless
    apply staysInBlock_unless
    iterate 3 refine forall_mem_bind fun _ => ?_
    rintro _ ⟨⟩ _
    exact item
  | psfbAppItem => exact parsePsfbAppItem_staysInBlock
  | psfbRembItem => exact parsePsfbREMBItem_staysInBlock item
  | xrItem => exact parseXRItem_staysInBlock
  | xrDlrrItem =>
    apply staysInBlock_unless
    apply staysInBlock_unless
    iterate 3 refine forall_mem_bind fun _ => ?_
    rintro _ ⟨⟩ _
    simp
  | appItem =>
    apply staysInBlock_unless
    refine forall_mem_bind fun _ => ?_
    rintro _ ⟨⟩ _
    exact item

end Items

end ZyWebRtc.Rtcp.RTCPParserV2
