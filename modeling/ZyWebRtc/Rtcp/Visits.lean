import ZyWebRtc.Rtcp.BlockEnds
import ZyWebRtc.Rtcp.Blocks

namespace ZyWebRtc.Rtcp.RTCPParserV2

/-! Which blocks `RTCPParserV2` visits: a walk along the headers of the packet. -/

open Option

/-! ## The blocks that are visited

Iteration as in `Iterate`, with the offsets of the blocks that are entered on the way. -/

section Traced

variable (data : Bytes)

def tracedTopLevel : (fuel : Nat) → RTCPParserV2 → Option (List Nat × RTCPParserV2)
  | 0, _ => none
  | fuel + 1, parser => do
    match ← rtcpParseCommonHeader data parser.ptr with
    | none => pure ([], parser)
    | some header =>
      let block := { parser with blockEnd := parser.ptr + header.lengthInOctets.toNat }
      if data.length < block.blockEnd then pure ([], block)
      else do
        let (returns, next) ← parseBlock data header block
        if returns then pure ([parser.ptr], next)
        else do
          let (entered, last) ← tracedTopLevel fuel next
          pure (parser.ptr :: entered, last)

def tracedFrom : (calls : Nat) → RTCPParserV2 → Option (List Nat × RTCPParserV2)
  | 0, _ => none
  | calls + 1, parser =>
    if !parser.validPacket then some ([], parser.resetPacketType)
    else if parser.state = .topLevel then
      tracedTopLevel data (data.length + 1) parser.resetPacketType
    else do
      let (success, next) ← parseItem data parser.resetPacketType
      if success then pure ([], next) else tracedFrom calls next

def traced (parser : RTCPParserV2) : Option (List Nat × RTCPParserV2) := tracedFrom data 3 parser

theorem tracedTopLevel_iterates (fuel : Nat) :
    ∀ parser, (tracedTopLevel data fuel parser).map Prod.snd = iterateTopLevel data fuel parser := by
  induction fuel with
  | zero => exact fun _ => rfl
  | succ fuel induction =>
    intro parser
    rw [tracedTopLevel, iterateTopLevel]
    cases rtcpParseCommonHeader data parser.ptr with
    | none => rfl
    | some result =>
      cases result with
      | none => rfl
      | some header =>
        simp only [bind_eq_bind, bind_some, pure_def]
        split
        · rfl
        · cases parseBlock data header
              { parser with blockEnd := parser.ptr + header.lengthInOctets.toNat } with
          | none => rfl
          | some outcome =>
            rcases outcome with ⟨returns, next⟩
            simp only [bind_some]
            cases returns with
            | true => rfl
            | false =>
              simp only [Bool.false_eq_true, if_false]
              rw [← induction next]
              cases tracedTopLevel data fuel next <;> rfl

theorem tracedFrom_iterates (calls : Nat) :
    ∀ parser, (tracedFrom data calls parser).map Prod.snd = iterateFrom data calls parser := by
  induction calls with
  | zero => exact fun _ => rfl
  | succ calls induction =>
    intro parser
    rw [tracedFrom, iterateFrom]
    split
    · rfl
    split
    · exact tracedTopLevel_iterates data _ _
    cases parseItem data parser.resetPacketType with
    | none => rfl
    | some outcome =>
      rcases outcome with ⟨success, next⟩
      simp only [bind_eq_bind, bind_some, pure_def]
      cases success with
      | true => rfl
      | false =>
        simp only [Bool.false_eq_true, if_false]
        exact induction next

theorem traced_iterates (parser : RTCPParserV2) :
    (traced data parser).map Prod.snd = iterate data parser :=
  tracedFrom_iterates data 3 parser

/-- The blocks of all calls, up to the one that returns `kRtcpNotValidCode`. Every other
call moves forward, so the length of the packet is enough fuel. -/
def visitedFrom : (fuel : Nat) → RTCPParserV2 → Option (List Nat)
  | 0, _ => none
  | fuel + 1, parser => do
    let (entered, next) ← traced data parser
    if next.packetType = .kRtcpNotValidCode then pure entered
    else do
      let later ← visitedFrom fuel next
      pure (entered ++ later)

def visitedBlocks (rtcpReducedSizeEnable : Bool) (packet : RTCPPacket) : Option (List Nat) := do
  let parser ← create data rtcpReducedSizeEnable packet
  visitedFrom data (data.length + 1) { parser with ptr := 0 }

end Traced

/-! ## The walk along the headers -/

/-- The blocks that are visited from a header on. -/
inductive Walk (data : Bytes) : Nat → List Nat → Prop
  | none {offset} : blockAt data offset = none → Walk data offset []
  | short {offset header} : blockAt data offset = some header → ShortReport header →
      Walk data offset [offset]
  | block {offset header rest} : blockAt data offset = some header → ¬ ShortReport header →
      Walk data (offset + passedOctets header) rest → Walk data offset (offset :: rest)

/-- The parser is at the items of a block. -/
def InsideBlock (data : Bytes) (parser : RTCPParserV2) : Prop :=
  ∃ offset header, blockAt data offset = some header ∧ offset ≤ parser.ptr ∧
    parser.blockEnd = offset + header.lengthInOctets.toNat

/-- What one call does: it ends the walk, or goes on with it. -/
structure Walked (data : Bytes) (parser : RTCPParserV2) (entered : List Nat)
    (next : RTCPParserV2) : Prop where
  ends : next.packetType = .kRtcpNotValidCode → Walk data (resumeAt parser) entered
  item : next.packetType ≠ .kRtcpNotValidCode → next.state ≠ .topLevel → InsideBlock data next
  continues : next.packetType ≠ .kRtcpNotValidCode → ∀ rest, Walk data (resumeAt next) rest →
    Walk data (resumeAt parser) (entered ++ rest)

theorem Walked.of_resumeAt {data : Bytes} {parser later next : RTCPParserV2}
    {entered : List Nat} (walked : Walked data later entered next)
    (resume : resumeAt later = resumeAt parser) : Walked data parser entered next where
  ends := resume ▸ walked.ends
  item := walked.item
  continues := resume ▸ walked.continues

theorem AtBlock.left_invariant {data : Bytes} {parser next : RTCPParserV2}
    (block : AtBlock data parser) (left : Left parser next) : Invariant data next := by
  have ptr := left.ptr
  have blockEnd := left.blockEnd
  have end_le := block.end_le
  have endAligned := block.endAligned
  exact {
    ptr_le := by omega
    inside := by omega
    aligned := fun _ => by omega
    endAligned := by omega
    block := fun item => absurd left.state item
    valid := fun item => absurd left.state item
    unvalidated := fun _ => by omega }

/-- The top level walks over the blocks without items, up to the first block with one. -/
theorem tracedTopLevel_walked {data : Bytes} (fuel : Nat) :
    ∀ parser : RTCPParserV2, Invariant data parser → parser.state = .topLevel →
      parser.validPacket = true → parser.packetType = .kRtcpNotValidCode →
      data.length - parser.ptr < fuel →
      ∃ entered next, tracedTopLevel data fuel parser = some (entered, next) ∧
        Walked data parser entered next := by
  induction fuel with
  | zero => intro _ _ _ _ _ enough; omega
  | succ fuel induction =>
    intro parser invariant state valid reset enough
    have resume := resumeAt_topLevel state
    rcases rtcpParseCommonHeader_inside data parser.ptr with ⟨result, parsed, headerInside⟩
    cases result with
    | none =>
      refine ⟨[], parser, by simp [tracedTopLevel, parsed], fun _ => ?_, absurd reset, absurd reset⟩
      rw [resume]
      exact .none (blockAt_refused parsed)
    | some header =>
      rcases headerInside header rfl with ⟨headerEnd, words, positive⟩
      have aligned := invariant.aligned (.inl state)
      have block := blockAt_header parsed
      simp only [tracedTopLevel, parsed, bind_eq_bind, bind_some, pure_def]
      by_cases bad : data.length < parser.ptr + header.lengthInOctets.toNat
      · simp only [bad, if_true] at block ⊢
        refine ⟨[], _, rfl, fun _ => ?_, absurd reset, absurd reset⟩
        rw [resume]
        exact .none block
      simp only [bad, if_false] at block ⊢
      have atBlock : AtBlock data
          { parser with blockEnd := parser.ptr + header.lengthInOctets.toNat } :=
        ⟨by simp only; omega, state, aligned, by simp only; omega, by simp only; omega⟩
      rcases parseBlock_outcome header atBlock with ⟨⟨returns, next⟩, blockParsed, outcome⟩
      have head := parseBlock_head rfl atBlock.state positive _ blockParsed
      simp only [blockParsed, bind_some]
      cases returns with
      | true =>
        refine ⟨[parser.ptr], next, rfl, ?_⟩
        unfold HeadOutcome at head
        by_cases short : ShortReport header
        · have ended : next.packetType = .kRtcpNotValidCode := by
            simp only [Returned, short, if_true] at head
            exact head.trans reset
          refine ⟨fun _ => ?_, absurd ended, absurd ended⟩
          rw [resume]
          exact .short block short
        · simp only [Returned, short, if_false] at head
          rcases head with ⟨found, resumes⟩
          refine ⟨fun ended => absurd ended found, fun _ _ => ?_, fun _ rest walk => ?_⟩
          · rcases outcome with inside | stays
            · exact ⟨parser.ptr, header, block, Nat.le_of_lt inside.forward, inside.blockEnd⟩
            · exact absurd (stays.packetType.trans reset) found
          · rw [resumes] at walk
            rw [resume]
            exact .block block short walk
      | false =>
        rcases outcome with ⟨left, packetType⟩
        rcases head with ⟨long, last⟩
        have ptr : next.ptr = parser.ptr + header.lengthInOctets.toNat := left.ptr
        have nextResume : resumeAt next = parser.ptr + passedOctets header := by
          rw [resumeAt_topLevel left.state, passedOctets, if_neg last, ptr]
        rcases induction next (atBlock.left_invariant left) left.state
          (left.validPacket.trans valid) (packetType.trans reset) (by omega) with
          ⟨entered, final, rest, walked⟩
        refine ⟨parser.ptr :: entered, final, by simp [rest], fun ended => ?_, walked.item,
          fun found others walk => ?_⟩
        · rw [resume]
          exact .block block long (nextResume ▸ walked.ends ended)
        · rw [resume]
          exact .block block long (nextResume ▸ walked.continues found others walk)

/-! ## Calls -/

section Calls

variable {data : Bytes} {parser : RTCPParserV2}

theorem tracedFrom_topLevel (calls : Nat) (invariant : Invariant data parser)
    (state : parser.state = .topLevel) (valid : parser.validPacket = true) :
    ∃ entered next, tracedFrom data (calls + 1) parser = some (entered, next) ∧
      Walked data parser entered next := by
  rcases tracedTopLevel_walked (data.length + 1) parser.resetPacketType invariant.reset state valid
    rfl (by omega) with ⟨entered, next, traced, walked⟩
  refine ⟨entered, next, ?_, walked.of_resumeAt rfl⟩
  simpa [tracedFrom, valid, state] using traced

theorem tracedFrom_item (calls : Nat) (invariant : Invariant data parser)
    (item : parser.state ≠ .topLevel) (inside : InsideBlock data parser)
    (blocks : parser.state = .xrDlrrItem → parser.numberOfBlocks ≠ 0)
    (uncut : parser.state = .xrItem → ¬ CutOffVoipMetric data parser) :
    ∃ entered next, tracedFrom data (calls + 2) parser = some (entered, next) ∧
      Walked data parser entered next := by
  have valid := invariant.valid item
  have end_le := invariant.block item
  have endAligned := invariant.endAligned
  rcases parseItem_outcome invariant.reset item blocks uncut with ⟨⟨success, next⟩, parsed, outcome⟩
  rw [tracedFrom]
  simp only [valid, item, parsed, Bool.not_true, Bool.false_eq_true, if_false,
    bind_eq_bind, bind_some, pure_def]
  cases success with
  | true =>
    have found : Found parser.resetPacketType next := outcome
    have reset : parser.resetPacketType.state ≠ .topLevel := item
    have stays : next.state ≠ .topLevel := parseItem_staysInBlock reset _ parsed rfl
    have blockEnd : next.blockEnd = parser.blockEnd := found.blockEnd
    have resume : resumeAt next = resumeAt parser := by
      rw [resumeAt_item stays, resumeAt_item item, blockEnd]
    refine ⟨[], next, rfl, fun ended => absurd ended found.valid, fun _ _ => ?_,
      fun _ rest walk => resume ▸ walk⟩
    rcases inside with ⟨offset, header, block, before, ends⟩
    exact ⟨offset, header, block, before.trans (Nat.le_of_lt found.forward), blockEnd.trans ends⟩
  | false =>
    have left : Left parser.resetPacketType next := outcome
    have ptr : next.ptr = parser.blockEnd := left.ptr
    have blockEnd : next.blockEnd = parser.blockEnd := left.blockEnd
    have nextInvariant : Invariant data next := {
      ptr_le := by omega
      inside := by omega
      aligned := fun _ => by omega
      endAligned := by omega
      block := fun other => absurd left.state other
      valid := fun other => absurd left.state other
      unvalidated := fun _ => by omega }
    rcases tracedFrom_topLevel calls nextInvariant left.state (left.validPacket.trans valid) with
      ⟨entered, final, traced, walked⟩
    refine ⟨entered, final, traced, walked.of_resumeAt ?_⟩
    rw [resumeAt_topLevel left.state, resumeAt_item item, ptr]

/-- The parser whose item a call parses: behind a finished DLRR block that of the next
report block. -/
def itemParser (parser : RTCPParserV2) : RTCPParserV2 :=
  if parser.state = .xrDlrrItem ∧ parser.numberOfBlocks = 0 then
    { parser.resetPacketType with state := .xrItem }
  else parser.resetPacketType

theorem traced_walked (invariant : Invariant data parser) (valid : parser.validPacket = true)
    (inside : parser.state ≠ .topLevel → InsideBlock data parser)
    (uncut : AtXRItem parser → ¬ CutOffVoipMetric data parser) :
    ∃ entered next, traced data parser = some (entered, next) ∧
      Walked data parser entered next := by
  by_cases topLevel : parser.state = .topLevel
  · exact tracedFrom_topLevel 2 invariant topLevel valid
  by_cases noBlocks : parser.state = .xrDlrrItem ∧ parser.numberOfBlocks = 0
  · rcases noBlocks with ⟨state, zero⟩
    have xrInvariant : Invariant data { parser.resetPacketType with state := .xrItem } := {
      ptr_le := invariant.ptr_le
      inside := invariant.inside
      aligned := by simp [Aligned]
      endAligned := invariant.endAligned
      block := fun _ => invariant.block topLevel
      valid := fun _ => valid
      unvalidated := invariant.unvalidated }
    rcases tracedFrom_item 0 xrInvariant (by simp) (inside topLevel) (by simp)
      (fun _ => uncut (.inr ⟨state, zero⟩)) with ⟨entered, next, traced, walked⟩
    refine ⟨entered, next, ?_, walked.of_resumeAt ?_⟩
    · have noItem : parseItem data parser.resetPacketType =
          some (false, { parser.resetPacketType with state := .xrItem }) := by
        simp [parseItem, parseXRDLRRReportBlockItem, resetPacketType, state, zero]
      rw [RTCPParserV2.traced, tracedFrom]
      simpa only [valid, topLevel, noItem, Bool.not_true, Bool.false_eq_true, if_false,
        bind_eq_bind, bind_some, pure_def] using traced
    · rw [resumeAt_item topLevel, resumeAt_item (by simp)]
      rfl
  · exact tracedFrom_item 1 invariant topLevel (inside topLevel)
      (fun state zero => noBlocks ⟨state, zero⟩) (fun state => uncut (.inl state))

end Calls

/-! ## Runs -/

/-- The parsers of a run: `Iterate` is called up to the first `kRtcpNotValidCode`. -/
inductive Running (data : Bytes) (rtcpReducedSizeEnable : Bool) (packet : RTCPPacket) :
    RTCPParserV2 → Prop
  | begin {parser} :
      create data rtcpReducedSizeEnable packet = some parser →
      Running data rtcpReducedSizeEnable packet { parser with ptr := 0 }
  | iterate {parser next} :
      Running data rtcpReducedSizeEnable packet parser →
      iterate data parser = some next → next.packetType ≠ .kRtcpNotValidCode →
      Running data rtcpReducedSizeEnable packet next

section Runs

variable {data : Bytes} {rtcpReducedSizeEnable : Bool} {packet : RTCPPacket}

/-- What holds of every parser of a run. -/
structure RunInvariant (data : Bytes) (parser : RTCPParserV2) : Prop where
  invariant : Invariant data parser
  valid : parser.validPacket = true
  inside : parser.state ≠ .topLevel → InsideBlock data parser

theorem create_accepted (packet : RTCPPacket)
    (accepted : validate data rtcpReducedSizeEnable = some true) :
    create data rtcpReducedSizeEnable packet = some {
      validPacket := true, ptr := 0, blockEnd := 0, state := .topLevel, numberOfBlocks := 0,
      packetType := .kRtcpNotValidCode, packet } := by
  rw [create, accepted]
  rfl

theorem runInvariant_begin {parser : RTCPParserV2}
    (accepted : validate data rtcpReducedSizeEnable = some true)
    (created : create data rtcpReducedSizeEnable packet = some parser) :
    RunInvariant data { parser with ptr := 0 } ∧ parser.state = .topLevel := by
  rw [create_accepted packet accepted] at created
  cases created
  refine ⟨⟨?_, rfl, fun item => absurd rfl item⟩, rfl⟩
  constructor <;> simp [Aligned]

theorem RunInvariant.step {parser : RTCPParserV2} (running : RunInvariant data parser)
    (uncut : ¬ ReachesCutOffVoipMetric data parser) :
    ∃ entered next, traced data parser = some (entered, next) ∧
      iterate data parser = some next ∧ Walked data parser entered next ∧
      (next.packetType ≠ .kRtcpNotValidCode → parser.ptr < next.ptr ∧ RunInvariant data next) := by
  have itemUncut (item : AtXRItem parser) : ¬ CutOffVoipMetric data parser :=
    fun cut => uncut ⟨running.valid, item, cut⟩
  rcases traced_walked running.invariant running.valid running.inside itemUncut with
    ⟨entered, next, traced, walked⟩
  rcases iterate_iterated running.invariant itemUncut with ⟨other, iterates, iterated⟩
  have same := traced_iterates data parser
  rw [traced, iterates] at same
  cases same
  exact ⟨entered, next, traced, iterates, walked, fun found => ⟨iterated.forward found,
    iterated.invariant, iterated.validPacket.trans running.valid, walked.item found⟩⟩

theorem runInvariant_of_running {parser : RTCPParserV2}
    (accepted : validate data rtcpReducedSizeEnable = some true)
    (uncut : ∀ parser, Running data rtcpReducedSizeEnable packet parser →
      ¬ ReachesCutOffVoipMetric data parser)
    (running : Running data rtcpReducedSizeEnable packet parser) : RunInvariant data parser := by
  induction running with
  | begin created => exact (runInvariant_begin accepted created).1
  | iterate running iterates found induction =>
    rcases induction.step (uncut _ running) with ⟨entered, next, _, stepped, _, continued⟩
    rw [iterates] at stepped
    cases stepped
    exact (continued found).2

variable (accepted : validate data rtcpReducedSizeEnable = some true)
  (uncut : ∀ parser, Running data rtcpReducedSizeEnable packet parser →
    ¬ ReachesCutOffVoipMetric data parser)

include accepted uncut

theorem visitedFrom_walk (left : Nat) :
    ∀ parser, Running data rtcpReducedSizeEnable packet parser → data.length - parser.ptr ≤ left →
      ∃ visited, visitedFrom data (left + 1) parser = some visited ∧
        Walk data (resumeAt parser) visited := by
  induction left with
  | zero =>
    intro parser running bound
    rcases (runInvariant_of_running accepted uncut running).step (uncut parser running) with
      ⟨entered, next, traced, _, walked, continued⟩
    have ended : next.packetType = .kRtcpNotValidCode := by
      by_contra found
      rcases continued found with ⟨forward, invariant⟩
      have inside := invariant.invariant.inside
      omega
    exact ⟨entered, by simp [visitedFrom, traced, ended], walked.ends ended⟩
  | succ left induction =>
    intro parser running bound
    rcases (runInvariant_of_running accepted uncut running).step (uncut parser running) with
      ⟨entered, next, traced, iterates, walked, continued⟩
    by_cases ended : next.packetType = .kRtcpNotValidCode
    · exact ⟨entered, by simp [visitedFrom, traced, ended], walked.ends ended⟩
    rcases continued ended with ⟨forward, _⟩
    rcases induction next (running.iterate iterates ended) (by omega) with ⟨later, visited, walk⟩
    refine ⟨entered ++ later, ?_, walked.continues ended later walk⟩
    rw [visitedFrom, traced]
    simp only [bind_eq_bind, bind_some, ended, if_false, visited, pure_def]

theorem visitedBlocks_walk :
    ∃ visited, visitedBlocks data rtcpReducedSizeEnable packet = some visited ∧
      Walk data 0 visited := by
  have created := create_accepted packet accepted
  rcases visitedFrom_walk accepted uncut data.length _ (.begin created) (by simp) with
    ⟨visited, run, walk⟩
  refine ⟨visited, ?_, walk⟩
  rw [visitedBlocks, created]
  exact run

end Runs

end ZyWebRtc.Rtcp.RTCPParserV2
