import ZyWebRtc.Rtcp.Locality
import ZyWebRtc.Rtcp.Visits

namespace ZyWebRtc.Rtcp.RTCPParserV2

/-! When `RTCPParserV2` keeps to the frames of the blocks: it visits the blocks that
`RTCPPacketIterator` visits, and takes every item from the bytes of its block. -/

open List

open Bytes (Agrees)

def handledTypes : List UInt8 :=
  [ptSR, ptRR, ptSDES, ptBYE, ptIJ, ptRTPFB, ptPSFB, ptAPP, ptXR]

def handled (data : Bytes) (offset : Nat) : Bool :=
  (blockAt data offset).any fun header => header.pt ∈ handledTypes

/-- A block begins at the declared end of the one before. -/
def Follows (data : Bytes) (offset later : Nat) : Prop :=
  ∃ header ∈ blockAt data offset, later = offset + header.lengthInOctets.toNat

/-- The item that a call parses is determined by the bytes of its block. -/
def ItemFromBlock (data : Bytes) (parser : RTCPParserV2) : Prop :=
  ∃ offset header, blockAt data offset = some header ∧ offset ≤ parser.ptr ∧
    parser.blockEnd = offset + header.lengthInOctets.toNat ∧
    ∃ outcome, ∀ other, Agrees data other offset parser.blockEnd →
      parseItem other parser.itemParser = some outcome

/-- What is parsed at the head of a block is determined by the bytes of the block. -/
def HeadFromBlock (data : Bytes) (offset : Nat) : Prop :=
  ∃ header, blockAt data offset = some header ∧
    ∀ other, Agrees data other offset (offset + header.lengthInOctets.toNat) →
      rtcpParseCommonHeader other offset = some (some header) ∧
      ∀ parser : RTCPParserV2, parser.ptr = offset →
        parser.blockEnd = offset + header.lengthInOctets.toNat →
        parseBlock other header parser = parseBlock data header parser

/-- The parser visits the blocks of the packet, and the items it finds come from the
block that they are found in. -/
structure Framed (data : Bytes) (rtcpReducedSizeEnable : Bool) (packet : RTCPPacket) : Prop where
  visits : ∃ visited, visitedBlocks data rtcpReducedSizeEnable packet = some visited ∧
    visited.IsChain (Follows data) ∧ (∀ offset ∈ visited, HeadFromBlock data offset) ∧
    ∀ iterator : RTCPPacketIterator, ∃ iterated, iterator.visited data = some iterated ∧
      visited.filter (handled data) = iterated.filter (handled data)
  items : ∀ parser, Running data rtcpReducedSizeEnable packet parser →
    parser.state ≠ .topLevel → ItemFromBlock data parser

/-- Every block that is followed by another one of a handled type is passed to its end,
and no block begins in the words that a message leaves over. -/
structure EndsProperly (data : Bytes) (list : List Nat) : Prop where
  followed : list.Pairwise fun offset later => handled data later = true →
    ∀ header ∈ blockAt data offset, ¬ ShortReport header ∧ ¬ LeavesWords header
  trailing : ∀ offset ∈ list, ∀ header ∈ blockAt data offset, LeavesWords header →
    blockAt data (offset + 12) = none

/-! ## Items -/

section Items

variable {data : Bytes} {parser : RTCPParserV2}

theorem itemParser_ptr : parser.itemParser.ptr = parser.ptr := by
  rw [itemParser]
  split <;> rfl

theorem itemParser_blockEnd : parser.itemParser.blockEnd = parser.blockEnd := by
  rw [itemParser]
  split <;> rfl

theorem itemParser_cutOff :
    CutOffVoipMetric data parser.itemParser ↔ CutOffVoipMetric data parser := by
  rw [CutOffVoipMetric, CutOffVoipMetric, length, length, itemParser_ptr, itemParser_blockEnd]

theorem itemParser_xrItem : parser.itemParser.state = .xrItem ↔ AtXRItem parser := by
  rw [itemParser, AtXRItem]
  split
  case isTrue finished => simp [finished]
  case isFalse unfinished => simp [unfinished, resetPacketType]

theorem itemParser_invariant (running : RunInvariant data parser)
    (item : parser.state ≠ .topLevel) : Invariant data parser.itemParser := by
  have invariant := running.invariant
  rw [itemParser]
  split
  · exact {
      ptr_le := invariant.ptr_le
      inside := invariant.inside
      aligned := by simp [Aligned]
      endAligned := invariant.endAligned
      block := fun _ => invariant.block item
      valid := fun _ => running.valid
      unvalidated := invariant.unvalidated }
  · exact invariant.reset

theorem itemFromBlock_of_uncut (running : RunInvariant data parser)
    (item : parser.state ≠ .topLevel) (uncut : ¬ ReachesCutOffVoipMetric data parser) :
    ItemFromBlock data parser := by
  rcases running.inside item with ⟨offset, header, block, before, blockEnd⟩
  have itemUncut (state : parser.itemParser.state = .xrItem) :
      ¬ CutOffVoipMetric data parser.itemParser := fun cut =>
    uncut ⟨running.valid, itemParser_xrItem.mp state, itemParser_cutOff.mp cut⟩
  have itemState : parser.itemParser.state ≠ .topLevel := by
    rw [itemParser]
    split
    · simp
    · exact item
  have unfinished (state : parser.itemParser.state = .xrDlrrItem) :
      parser.itemParser.numberOfBlocks ≠ 0 := by
    rw [itemParser] at state ⊢
    split at state
    · cases state
    · rename_i unfinished
      rw [if_neg unfinished]
      exact fun zero => unfinished ⟨state, zero⟩
  rcases parseItem_outcome (itemParser_invariant running item) itemState unfinished itemUncut with
    ⟨outcome, parsed, _⟩
  refine ⟨offset, header, block, before, blockEnd, outcome, fun other agrees => ?_⟩
  have itemAgrees : Agrees data other offset parser.itemParser.blockEnd := by
    rw [itemParser_blockEnd]
    exact agrees
  have itemBefore : offset ≤ parser.itemParser.ptr := by
    rw [itemParser_ptr]
    exact before
  rw [parseItem_local itemAgrees itemBefore itemUncut]
  exact parsed

theorem not_itemFromBlock_of_cutOff (cut : ReachesCutOffVoipMetric data parser) :
    ¬ ItemFromBlock data parser := by
  rintro ⟨offset, header, block, before, blockEnd, outcome, fromBlock⟩
  rcases cut with ⟨_, atItem, cut⟩
  rcases blockAt_inside block with ⟨_, inside, _⟩
  have agrees : Agrees data (data.take parser.blockEnd) offset parser.blockEnd :=
    .take offset (by omega)
  have parsed := fromBlock _ agrees
  have cutHere : CutOffVoipMetric (data.take parser.blockEnd) parser.itemParser := by
    apply itemParser_cutOff.mpr
    rcases cut with ⟨enough, seven, blockType, blockLength⟩
    refine ⟨enough, seven, ?_, ?_⟩
    · rw [agrees.byteAt before (by unfold length at enough; omega), blockType]
    · rw [agrees.byteAt (by omega) (by unfold length at enough; omega), blockLength]
  have ended : (data.take parser.blockEnd).length ≤ parser.itemParser.blockEnd := by
    rw [itemParser_blockEnd, length_take]
    omega
  have state := itemParser_xrItem.mpr atItem
  simp only [parseItem, state, parseXRItem_cutOff ended cutHere] at parsed
  cases parsed

end Items

/-! ## Blocks -/

section Blocks

variable {data : Bytes}

section

variable {offset : Nat} {header : RTCPCommonHeader}

theorem headFromBlock_of_block (block : blockAt data offset = some header) :
    HeadFromBlock data offset := by
  rcases blockAt_inside block with ⟨parsed, inside, positive⟩
  refine ⟨header, block, fun other agrees => ⟨?_, ?_⟩⟩
  · rw [rtcpParseCommonHeader_local agrees (by omega), parsed]
  · rintro parser rfl blockEnd
    exact parseBlock_local (blockEnd ▸ agrees) (Nat.le_refl _) header

theorem Walk.heads {offset : Nat} {visited : List Nat} (walk : Walk data offset visited) :
    ∀ block ∈ visited, HeadFromBlock data block := by
  induction walk with
  | none => simp
  | short block => simpa using headFromBlock_of_block block
  | block block _ _ induction =>
    intro other member
    rcases mem_cons.mp member with rfl | later
    · exact headFromBlock_of_block block
    · exact induction other later

theorem Walk.head {offset first : Nat} {rest : List Nat}
    (walk : Walk data offset (first :: rest)) : first = offset := by
  cases walk <;> rfl

theorem Walk.absent {offset : Nat} (walk : Walk data offset []) :
    blockAt data offset = Option.none := by
  cases walk
  assumption

theorem endsProperly_unhandled {list : List Nat} (unhandled : list.filter (handled data) = []) :
    EndsProperly data list := by
  have none (offset : Nat) (member : offset ∈ list) : ¬ handled data offset = true := by
    intro isHandled
    have filtered := mem_filter.mpr ⟨member, isHandled⟩
    rw [unhandled] at filtered
    cases filtered
  constructor
  · apply pairwise_of_forall_mem_list
    intro offset _ later member isHandled
    exact absurd isHandled (none later member)
  · intro offset member header block leaves
    have isHandled : handled data offset = true := by
      rw [handled, Option.mem_def.mp block]
      rcases leaves.1 with ⟨type, _⟩ | ⟨type, _⟩ <;> simp [handledTypes, type]
    exact absurd isHandled (none offset member)

theorem not_leavesWords_of_shortReport {header : RTCPCommonHeader} (short : ShortReport header) :
    ¬ LeavesWords header := by
  rintro ⟨⟨type, _⟩ | ⟨type, _⟩, _⟩ <;> rcases short with ⟨other, _⟩ | ⟨other, _⟩ <;>
    rw [type] at other <;> cases other

theorem endsProperly_cons {rest : List Nat}
    (block : blockAt data offset = some header)
    (followed : rest.filter (handled data) ≠ [] → ¬ ShortReport header ∧ ¬ LeavesWords header)
    (trailing : LeavesWords header → blockAt data (offset + 12) = none)
    (restProper : EndsProperly data rest) : EndsProperly data (offset :: rest) where
  followed := by
    apply pairwise_cons.mpr
    refine ⟨fun later member isHandled other otherBlock => ?_, restProper.followed⟩
    rw [Option.mem_def, block] at otherBlock
    cases otherBlock
    apply followed
    intro none
    have filtered := mem_filter.mpr ⟨member, isHandled⟩
    rw [none] at filtered
    cases filtered
  trailing := by
    intro other member otherHeader otherBlock leaves
    rcases mem_cons.mp member with rfl | later
    · rw [Option.mem_def, block] at otherBlock
      cases otherBlock
      exact trailing leaves
    · exact restProper.trailing other later otherHeader otherBlock leaves

theorem EndsProperly.tail {offset : Nat} {rest : List Nat}
    (proper : EndsProperly data (offset :: rest)) : EndsProperly data rest where
  followed := (pairwise_cons.mp proper.followed).2
  trailing other member := proper.trailing other (mem_cons_of_mem _ member)

theorem EndsProperly.last {rest : List Nat}
    (proper : EndsProperly data (offset :: rest)) (block : blockAt data offset = some header)
    (improper : ShortReport header ∨ LeavesWords header) : rest.filter (handled data) = [] := by
  apply filter_eq_nil_iff.mpr
  intro later member isHandled
  have ends := (pairwise_cons.mp proper.followed).1 later member isHandled header block
  exact improper.elim ends.1 ends.2

end

variable {offset : Nat} {visited list : List Nat} (walk : Walk data offset visited)
  (blocks : Blocks data offset list)

include walk blocks

theorem Walk.framed (proper : EndsProperly data list) :
    visited.IsChain (Follows data) ∧
      visited.filter (handled data) = list.filter (handled data) := by
  induction walk generalizing list with
  | none absent =>
    rw [blocks.unique (.none absent)]
    exact ⟨.nil, rfl⟩
  | @short offset header block short =>
    cases blocks with
    | none absent => rw [block] at absent; cases absent
    | block _ _ =>
      refine ⟨.singleton _, ?_⟩
      rw [filter_cons, filter_cons, proper.last block (.inl short)]
      rfl
  | @block offset header visited block long walk induction =>
    cases blocks with
    | none absent => rw [block] at absent; cases absent
    | @block _ other rest otherBlock blocks =>
      rw [block] at otherBlock
      cases otherBlock
      by_cases leaves : LeavesWords header
      · -- The words left over begin no block, so the walk stops there.
        have absent := proper.trailing offset mem_cons_self header block leaves
        have ended : visited = [] := by
          rw [passedOctets, if_pos leaves] at walk
          cases walk with
          | none => rfl
          | short found => rw [absent] at found; cases found
          | block found => rw [absent] at found; cases found
        subst ended
        refine ⟨.singleton _, ?_⟩
        rw [filter_cons, filter_cons, proper.last block (.inr leaves)]
        rfl
      · rw [passedOctets, if_neg leaves] at walk induction
        rcases induction blocks proper.tail with ⟨chain, same⟩
        refine ⟨?_, by rw [filter_cons, filter_cons, same]⟩
        cases visited with
        | nil => exact .singleton _
        | cons first others =>
          apply isChain_cons_cons.mpr
          exact ⟨⟨header, block, walk.head⟩, chain⟩

/-- When the walk has the blocks of the packet, these end properly. -/
theorem Walk.endsProperly (chain : visited.IsChain (Follows data))
    (same : visited.filter (handled data) = list.filter (handled data)) :
    EndsProperly data list := by
  induction walk generalizing list with
  | none absent =>
    rw [blocks.unique (.none absent)]
    exact endsProperly_unhandled rfl
  | @short offset header block short =>
    cases blocks with
    | none absent => rw [block] at absent; cases absent
    | @block _ _ rest _ _ =>
      have unhandled : rest.filter (handled data) = [] := by
        change ([offset] ++ []).filter _ = ([offset] ++ rest).filter _ at same
        rw [filter_append, filter_append] at same
        exact (append_cancel_left same).symm
      exact endsProperly_cons block (absurd unhandled)
        (fun leaves => absurd leaves (not_leavesWords_of_shortReport short))
        (endsProperly_unhandled unhandled)
  | @block offset header visited block long walk induction =>
    cases blocks with
    | none absent => rw [block] at absent; cases absent
    | @block _ other rest otherBlock blocks =>
      rw [block] at otherBlock
      cases otherBlock
      have sameRest : visited.filter (handled data) = rest.filter (handled data) := by
        change ([offset] ++ visited).filter _ = ([offset] ++ rest).filter _ at same
        rw [filter_append, filter_append] at same
        exact append_cancel_left same
      by_cases leaves : LeavesWords header
      · rw [passedOctets, if_pos leaves] at walk
        -- A further block would begin before the declared end.
        cases visited with
        | nil =>
          exact endsProperly_cons block (absurd sameRest.symm) (fun _ => walk.absent)
            (endsProperly_unhandled sameRest.symm)
        | cons first others =>
          rcases (isChain_cons_cons.mp chain).1 with ⟨found, foundBlock, follows⟩
          rw [Option.mem_def, block] at foundBlock
          cases foundBlock
          have head := walk.head
          have words := leaves.2
          omega
      · rw [passedOctets, if_neg leaves] at induction
        exact endsProperly_cons block (fun _ => ⟨long, leaves⟩)
          (fun contrary => absurd contrary leaves) (induction blocks chain.tail sameRest)

end Blocks

/-- The parser keeps to the frames of exactly the packets whose blocks end properly and in
which it comes to no cut off VoIP metric. -/
theorem framed_iff_endsProperly {data : Bytes} {rtcpReducedSizeEnable : Bool}
    (packet : RTCPPacket) (accepted : validate data rtcpReducedSizeEnable = some true) :
    Framed data rtcpReducedSizeEnable packet ↔ EndsProperly data (blocks data) ∧
        ∀ parser, Running data rtcpReducedSizeEnable packet parser →
          ¬ ReachesCutOffVoipMetric data parser := by
  constructor
  · intro framed
    have uncut : ∀ parser, Running data rtcpReducedSizeEnable packet parser →
        ¬ ReachesCutOffVoipMetric data parser := by
      intro parser running cut
      have item : parser.state ≠ .topLevel := by
        rcases cut.2.1 with state | ⟨state, _⟩ <;> simp [state]
      exact not_itemFromBlock_of_cutOff cut (framed.items parser running item)
    refine ⟨?_, uncut⟩
    rcases visitedBlocks_walk accepted uncut with ⟨visited, visits, walk⟩
    rcases framed.visits with ⟨other, otherVisits, chain, _, iterates⟩
    rw [visits] at otherVisits
    cases otherVisits
    rcases iterates ⟨none, ⟨0, false, 0, 0, 0⟩⟩ with ⟨iterated, run, same⟩
    rw [RTCPPacketIterator.visited_blocks] at run
    cases run
    exact walk.endsProperly (blocks_blocks data) chain same
  · rintro ⟨proper, uncut⟩
    rcases visitedBlocks_walk accepted uncut with ⟨visited, visits, walk⟩
    rcases walk.framed (blocks_blocks data) proper with ⟨chain, same⟩
    refine ⟨⟨visited, visits, chain, walk.heads, fun iterator => ?_⟩, fun parser running item => ?_⟩
    · exact ⟨blocks data, iterator.visited_blocks data, same⟩
    · exact itemFromBlock_of_uncut (runInvariant_of_running accepted uncut running) item
        (uncut parser running)

/-- A receiver report, a picture loss indication with a further word, and a goodbye. -/
def trailingWordPacket : Bytes :=
  [0x80, 201, 0, 1, 0, 0, 0, 1, 0x81, 206, 0, 3, 0, 0, 0, 1, 0, 0, 0, 2, 0, 0, 0, 0,
   0x81, 203, 0, 1, 0, 0, 0, 1]

example : blocks trailingWordPacket = [0, 8, 24] := by decide

/-- The goodbye is not visited. -/
theorem not_framed_trailingWord :
    ¬ ∀ (data : Bytes) (rtcpReducedSizeEnable : Bool) (packet : RTCPPacket),
        validate data rtcpReducedSizeEnable = some true →
        Framed data rtcpReducedSizeEnable packet := by
  intro framed
  have visited : visitedBlocks trailingWordPacket false (.bye 0) = some [0, 8] := by
    decide +kernel
  have iterated : blocks trailingWordPacket = [0, 8, 24] := by decide +kernel
  rcases (framed trailingWordPacket false (.bye 0) (by decide)).visits with
    ⟨other, visits, _, _, iterates⟩
  rw [visited] at visits
  cases visits
  rcases iterates ⟨none, ⟨0, false, 0, 0, 0⟩⟩ with ⟨listed, run, same⟩
  rw [RTCPPacketIterator.visited_blocks, iterated] at run
  cases run
  have different : [0, 8].filter (handled trailingWordPacket) ≠
      [0, 8, 24].filter (handled trailingWordPacket) := by decide +kernel
  exact different same

/-- A receiver report and a picture loss indication without further words. -/
def framedPacket : Bytes :=
  [0x80, 201, 0, 1, 0, 0, 0, 1, 0x81, 206, 0, 2, 0, 0, 0, 1, 0, 0, 0, 2]

theorem framed_iff_endsProperly_example :
    Framed framedPacket false (.bye 0) ↔ EndsProperly framedPacket (blocks framedPacket) ∧
        ∀ parser, Running framedPacket false (.bye 0) parser →
          ¬ ReachesCutOffVoipMetric framedPacket parser :=
  framed_iff_endsProperly (.bye 0) (by decide)

end ZyWebRtc.Rtcp.RTCPParserV2
