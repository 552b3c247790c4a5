import ZyWebRtc.Foundation.Window
import ZyWebRtc.Rtcp.ParserSafety
import ZyWebRtc.Rtcp.RpsiRoundTrip

namespace ZyWebRtc.Rtcp

/-! The walk of `RTCPParserV2` along the report blocks of an extended report.

Three kinds of blocks are known by their type and length. At the first block of another kind the
parser leaves the packet. -/

open List Option Bytes

/-! ## Extended reports -/

/-- A report block: its header, and as many words as the header says. -/
structure XRBlock where
  blockType : UInt8
  typeSpecific : UInt8
  blockLength : UInt16
  contents : Bytes
  counted : contents.length = 4 * blockLength.toNat

namespace XRBlock

variable (block : XRBlock)

def bytes : Bytes :=
  block.blockType :: block.typeSpecific :: (uint16Bytes block.blockLength ++ block.contents)

@[simp] theorem bytes_length : block.bytes.length = 4 + 4 * block.blockLength.toNat := by
  simp only [bytes, length_cons, length_append, uint16Bytes_length, block.counted]
  omega

def isVoipMetric : Bool := block.blockType = 7 ∧ block.blockLength = 8

/-- A receiver reference time, reports of delay since the last receiver report, or metrics. -/
def supported : Bool :=
  (block.blockType = 4 ∧ block.blockLength = 2) ∨
    (block.blockType = 5 ∧ block.blockLength % 3 = 0) ∨ block.isVoipMetric

/-- A block of a known type is shorter than 256 words. -/
def ReadRight : Prop :=
  block.blockType = 4 ∨ block.blockType = 5 ∨ block.blockType = 7 → block.blockLength < 256

instance (block : XRBlock) : Decidable block.ReadRight :=
  inferInstanceAs (Decidable (_ → _))

def voipMetricAt (data : Bytes) (offset : Nat) : Option RTCPPacketXRVOIPMetricItem := do
  let ssrc ← data.uint32At offset
  let lossRate ← data.byteAt (offset + 4)
  let discardRate ← data.byteAt (offset + 5)
  let burstDensity ← data.byteAt (offset + 6)
  let gapDensity ← data.byteAt (offset + 7)
  let burstDuration ← data.uint16At (offset + 8)
  let gapDuration ← data.uint16At (offset + 10)
  let roundTripDelay ← data.uint16At (offset + 12)
  let endSystemDelay ← data.uint16At (offset + 14)
  let signalLevel ← data.byteAt (offset + 16)
  let noiseLevel ← data.byteAt (offset + 17)
  let rerl ← data.byteAt (offset + 18)
  let gmin ← data.byteAt (offset + 19)
  let rFactor ← data.byteAt (offset + 20)
  let extRfactor ← data.byteAt (offset + 21)
  let moslq ← data.byteAt (offset + 22)
  let moscq ← data.byteAt (offset + 23)
  let rxConfig ← data.byteAt (offset + 24)
  let jbNominal ← data.uint16At (offset + 26)
  let jbMax ← data.uint16At (offset + 28)
  let jbAbsMax ← data.uint16At (offset + 30)
  pure {
    ssrc, lossRate, discardRate, burstDensity, gapDensity, burstDuration, gapDuration,
    roundTripDelay, endSystemDelay, signalLevel, noiseLevel, rerl, gmin, rFactor,
    extRfactor, moslq, moscq, rxConfig, jbNominal, jbMax, jbAbsMax }

def voipMetric : Option RTCPPacketXRVOIPMetricItem :=
  if block.isVoipMetric then voipMetricAt block.contents 0 else none

end XRBlock

/-- An extended report that fits in a datagram. -/
structure XRPacket where
  first : UInt8
  length : UInt16
  originatorSSRC : UInt32
  blocks : List XRBlock
  version : first >>> 6 = 2
  counted : 8 + (blocks.flatMap XRBlock.bytes).length = 4 * (length.toNat + 1)
  datagram : 8 + (blocks.flatMap XRBlock.bytes).length < 2 ^ 16

namespace XRPacket

def bytes (xr : XRPacket) : Bytes :=
  xr.first :: 207 :: (uint16Bytes xr.length ++
    (uint32Bytes xr.originatorSSRC ++ xr.blocks.flatMap XRBlock.bytes))

theorem bytes_length (xr : XRPacket) :
    xr.bytes.length = 8 + (xr.blocks.flatMap XRBlock.bytes).length := by
  simp only [bytes, length_cons, length_append, uint16Bytes_length]
  change 2 + (4 + _) + 1 + 1 = _
  omega

end XRPacket

namespace RTCPParserV2

/-- The metrics that a call has reported, if it has. -/
def voipMetric (parser : RTCPParserV2) : Option RTCPPacketXRVOIPMetricItem :=
  match parser.packetType, parser.packet with
  | .kRtcpXrVoipMetricCode, .xrVOIPMetricItem item => some item
  | _, _ => none

def voipMetrics (data : Bytes) : (calls : Nat) → RTCPParserV2 →
    Option (List RTCPPacketXRVOIPMetricItem)
  | 0, _ => none
  | calls + 1, parser => do
    let next ← parser.iterate data
    if next.packetType = .kRtcpNotValidCode then pure []
    else do
      let later ← voipMetrics data calls next
      pure (next.voipMetric.toList ++ later)

/-- The parser is about to read the header of a block. -/
structure AtTopLevel (parser : RTCPParserV2) (offset : Nat) : Prop where
  valid : parser.validPacket = true
  state : parser.state = .topLevel
  ptr : parser.ptr = offset

/-- Wherever the report stands in a compound packet, the parser reports the metrics of the given
blocks and goes on behind the report. -/
def ReportsBlocks (xr : XRPacket) (reported : List XRBlock) : Prop :=
  ∀ front rest parser, AtTopLevel parser front.length → ∃ calls behind,
    AtTopLevel behind (front.length + xr.bytes.length) ∧ ∀ more,
      voipMetrics (front ++ (xr.bytes ++ rest)) (calls + more) parser =
        (voipMetrics (front ++ (xr.bytes ++ rest)) more behind).map
          (reported.filterMap XRBlock.voipMetric ++ ·)

/-! ## Calls -/

section Calls

variable {data : Bytes} {parser next : RTCPParserV2}

theorem voipMetrics_succ (iterated : parser.iterate data = some next)
    (found : next.packetType ≠ .kRtcpNotValidCode) (calls : Nat) :
    voipMetrics data (1 + calls) parser =
      (voipMetrics data calls next).map (next.voipMetric.toList ++ ·) := by
  rw [Nat.add_comm, voipMetrics, iterated]
  simp only [bind_eq_bind, bind_some, found, if_false]
  cases voipMetrics data calls next <;> rfl

theorem voipMetrics_quiet (iterated : parser.iterate data = some next)
    (found : next.packetType ≠ .kRtcpNotValidCode) (quiet : next.voipMetric = none)
    (calls : Nat) : voipMetrics data (1 + calls) parser = voipMetrics data calls next := by
  rw [voipMetrics_succ iterated found, quiet]
  exact Option.map_id'

theorem voipMetrics_congr (same : parser.iterate data = next.iterate data) (calls : Nat) :
    voipMetrics data calls parser = voipMetrics data calls next := by
  cases calls with
  | zero => rfl
  | succ calls => rw [voipMetrics, voipMetrics, same]

theorem iterate_of_parseItem (valid : parser.validPacket = true)
    (item : parser.state ≠ .topLevel)
    (parsed : parseItem data parser.resetPacketType = some (true, next)) :
    parser.iterate data = some next := by
  rw [iterate, iterateFrom, if_neg (by rw [valid]; decide), if_neg item, parsed]
  rfl

/-- The parser is at the header of a report block, where the one before it has ended. -/
structure AtXRBlock (parser : RTCPParserV2) (offset stop : Nat) : Prop where
  valid : parser.validPacket = true
  item : AtXRItem parser
  ptr : parser.ptr = offset
  blockEnd : parser.blockEnd = stop

def toXRItem (parser : RTCPParserV2) : RTCPParserV2 :=
  { parser.resetPacketType with state := .xrItem }

theorem iterateFrom_topLevel_eq {calls : Nat} (valid : parser.validPacket = true)
    (top : parser.state = .topLevel) :
    iterateFrom data (calls + 1) parser = parser.iterate data := by
  rw [iterate_topLevel valid top, iterateFrom, if_neg (by rw [valid]; decide), if_pos top]

theorem AtXRBlock.iterate {offset stop : Nat} (stands : AtXRBlock parser offset stop)
    {success : Bool} (parsed : parseXRItem data (toXRItem parser) = some (success, next)) :
    (success = true → parser.iterate data = some next) ∧
      (success = false → next.validPacket = true → next.state = .topLevel →
        parser.iterate data = next.iterate data) := by
  have valid := stands.valid
  rcases stands.item with state | ⟨state, zero⟩
  · have same : toXRItem parser = parser.resetPacketType := by
      rw [toXRItem, ← state]
      rfl
    have atItem : parser.resetPacketType.state = .xrItem := state
    have item : parseItem data parser.resetPacketType = some (success, next) := by
      rw [parseItem, atItem, ← same]
      exact parsed
    constructor
    · rintro rfl
      exact iterate_of_parseItem valid (by rw [state]; decide) item
    · rintro rfl nextValid top
      rw [RTCPParserV2.iterate, iterateFrom, if_neg (by rw [valid]; decide),
        if_neg (by rw [state]; decide), item]
      exact iterateFrom_topLevel_eq nextValid top
  · have noItem : parseItem data parser.resetPacketType = some (false, toXRItem parser) := by
      simp [parseItem, parseXRDLRRReportBlockItem, resetPacketType, toXRItem, state, zero]
    have atItem : parseItem data (toXRItem parser).resetPacketType = some (success, next) := parsed
    have itemValid : (toXRItem parser).validPacket = true := valid
    have second : parser.iterate data = iterateFrom data 2 (toXRItem parser) := by
      rw [RTCPParserV2.iterate, iterateFrom, if_neg (by rw [valid]; decide),
        if_neg (by rw [state]; decide), noItem]
      rfl
    have itemState : (toXRItem parser).state = .xrItem := rfl
    rw [second, iterateFrom, if_neg (by rw [itemValid]; decide),
      if_neg (by rw [itemState]; decide), atItem]
    constructor
    · rintro rfl
      rfl
    · rintro rfl nextValid top
      exact iterateFrom_topLevel_eq nextValid top

end Calls

/-! ## Report blocks -/

section Blocks

variable {data : Bytes} {parser : RTCPParserV2} {offset stop : Nat}

theorem parseXRItem_header {blockType blockLength other : UInt8} (long : 4 ≤ parser.length)
    (typeAt : data.byteAt parser.ptr = some blockType)
    (otherAt : data.byteAt (parser.ptr + 2) = some other)
    (lengthAt : data.byteAt (parser.ptr + 3) = some blockLength) :
    parseXRItem data parser = if blockType = 4 ∧ blockLength = 2 then
        parseXRReceiverReferenceTimeItem data { parser with ptr := parser.ptr + 4 }
      else if blockType = 5 ∧ blockLength % 3 = 0 then
        some (true, { parser with
          ptr := parser.ptr + 4
          packetType := .kRtcpXrDlrrReportBlockCode
          state := .xrDlrrItem
          numberOfBlocks := blockLength / 3 })
      else if blockType = 7 ∧ blockLength = 8 then
        parseXRVOIPMetricItem data { parser with ptr := parser.ptr + 4 }
      else some (false, parser.leaveBlock) := by
  rw [parseXRItem, if_neg (by omega), typeAt]
  change (data.byteAt (parser.ptr + 2)).bind _ = _
  rw [otherAt]
  change (data.byteAt (parser.ptr + 3)).bind _ = _
  rw [lengthAt]
  rfl

theorem bind_eq_map_bind {α β γ : Type} (read : Option α) {first : α → Option γ}
    {second : α → Option β} (f : β → γ)
    (same : ∀ value, first value = (second value).map f) :
    read.bind first = (read.bind second).map f := by
  cases read with
  | none => rfl
  | some value => exact same value

theorem parseXRVOIPMetricItem_metric (long : 28 ≤ parser.length) :
    parseXRVOIPMetricItem data parser = (XRBlock.voipMetricAt data parser.ptr).map fun item =>
        (true, { parser with
          ptr := parser.ptr + 32
          packetType := .kRtcpXrVoipMetricCode
          packet := .xrVOIPMetricItem item
          state := .xrItem }) := by
  rw [parseXRVOIPMetricItem, if_neg (by omega), XRBlock.voipMetricAt]
  iterate 21
    apply bind_eq_map_bind
    intro read
  rfl

theorem voipMetricAt_append (front rest : Bytes) {contents : Bytes}
    (words : contents.length = 32) :
    XRBlock.voipMetricAt (front ++ (contents ++ rest)) front.length =
      XRBlock.voipMetricAt contents 0 := by
  have agrees : Agrees contents (contents ++ rest) 0 32 := by
    refine ⟨words.ge, by rw [length_append]; omega, fun position _ before => ?_⟩
    exact List.getElem?_append_left (by omega)
  have start : front.length = front.length + 0 := rfl
  simp (disch := omega) only [XRBlock.voipMetricAt, byteAt_append, uint16At_append,
    agrees.byteAt, agrees.uint16At, Nat.zero_add]
  rw [start, uint32At_append, agrees.uint32At (by omega) (by omega)]

theorem toUInt8_eq_iff {length : UInt16} (short : length < 256) (byte : UInt8) :
    length.toUInt8 = byte ↔ length = byte.toUInt16 := by
  have bound : length.toNat < 256 := UInt16.lt_iff_toNat_lt.mp short
  have low : length.toUInt8.toNat = length.toNat := by
    rw [UInt16.toNat_toUInt8]
    exact Nat.mod_eq_of_lt bound
  rw [← UInt8.toNat_inj, ← UInt16.toNat_inj, low, UInt8.toNat_toUInt16]

theorem toUInt8_mod_three_iff {length : UInt16} (short : length < 256) :
    length.toUInt8 % 3 = 0 ↔ length % 3 = 0 := by
  have bound : length.toNat < 256 := UInt16.lt_iff_toNat_lt.mp short
  rw [← UInt8.toNat_inj, ← UInt16.toNat_inj, UInt8.toNat_mod, UInt16.toNat_mod,
    UInt16.toNat_toUInt8]
  change length.toNat % 256 % 3 = 0 ↔ length.toNat % 3 = 0
  rw [Nat.mod_eq_of_lt bound]

/-- The parser is at the header of a block with other bytes behind it. -/
structure AtBlockBytes (data : Bytes) (parser : RTCPParserV2) (block : XRBlock) (stop : Nat) :
    Prop where
  stands : AtXRBlock parser parser.ptr stop
  reads : ∃ front rest, data = front ++ (block.bytes ++ rest) ∧ parser.ptr = front.length
  inside : parser.ptr + block.bytes.length ≤ stop
  stop_le : stop ≤ data.length

variable {block : XRBlock}

theorem AtBlockBytes.parseXRItem (here : AtBlockBytes data parser block stop) :
    parseXRItem data (toXRItem parser) = if block.blockType = 4 ∧ block.blockLength.toUInt8 = 2 then
        parseXRReceiverReferenceTimeItem data { toXRItem parser with ptr := parser.ptr + 4 }
      else if block.blockType = 5 ∧ block.blockLength.toUInt8 % 3 = 0 then
        some (true, { toXRItem parser with
          ptr := parser.ptr + 4
          packetType := .kRtcpXrDlrrReportBlockCode
          state := .xrDlrrItem
          numberOfBlocks := block.blockLength.toUInt8 / 3 })
      else if block.blockType = 7 ∧ block.blockLength.toUInt8 = 8 then
        parseXRVOIPMetricItem data { toXRItem parser with ptr := parser.ptr + 4 }
      else some (false, (toXRItem parser).leaveBlock) := by
  rcases here.reads with ⟨front, rest, bytes, ptr⟩
  have inside := here.inside
  have ends : parser.blockEnd = stop := here.stands.blockEnd
  rw [XRBlock.bytes_length] at inside
  have long : 4 ≤ (toXRItem parser).length := by
    change 4 ≤ parser.blockEnd - parser.ptr
    omega
  apply parseXRItem_header long
  · change data.byteAt parser.ptr = _
    rw [bytes, ptr]
    exact byteAt_append front _ 0
  · change data.byteAt (parser.ptr + 2) = _
    rw [bytes, ptr]
    exact byteAt_append front _ 2
  · change data.byteAt (parser.ptr + 3) = _
    rw [bytes, ptr]
    exact byteAt_append front _ 3

theorem AtBlockBytes.unsupported (here : AtBlockBytes data parser block stop)
    (right : XRBlock.ReadRight block) (other : block.supported = false) :
    parser.iterate data = (toXRItem parser).leaveBlock.iterate data := by
  have kinds : ¬ ((block.blockType = 4 ∧ block.blockLength = 2) ∨
      (block.blockType = 5 ∧ block.blockLength % 3 = 0) ∨
        (block.blockType = 7 ∧ block.blockLength = 8)) := by
    intro known
    simp [XRBlock.supported, XRBlock.isVoipMetric, known] at other
  have time : ¬ (block.blockType = 4 ∧ block.blockLength.toUInt8 = 2) := by
    rintro ⟨type, length⟩
    exact kinds (.inl ⟨type, (toUInt8_eq_iff (right (.inl type)) 2).mp length⟩)
  have delays : ¬ (block.blockType = 5 ∧ block.blockLength.toUInt8 % 3 = 0) := by
    rintro ⟨type, length⟩
    exact kinds (.inr (.inl ⟨type, (toUInt8_mod_three_iff (right (.inr (.inl type)))).mp length⟩))
  have metrics : ¬ (block.blockType = 7 ∧ block.blockLength.toUInt8 = 8) := by
    rintro ⟨type, length⟩
    exact kinds (.inr (.inr ⟨type, (toUInt8_eq_iff (right (.inr (.inr type))) 8).mp length⟩))
  have parsed := here.parseXRItem
  rw [if_neg time, if_neg delays, if_neg metrics] at parsed
  exact (here.stands.iterate parsed).2 rfl here.stands.valid rfl

/-- The reports of a DLRR block are passed one with each call. -/
theorem dlrrItems (count : Nat) :
    ∀ parser : RTCPParserV2, parser.validPacket = true → parser.state = .xrDlrrItem →
      parser.numberOfBlocks.toNat = count → parser.blockEnd = stop →
      parser.ptr + 12 * count ≤ stop → stop ≤ data.length →
      ∃ next, AtXRBlock next (parser.ptr + 12 * count) stop ∧
        ∀ more, voipMetrics data (count + more) parser = voipMetrics data more next := by
  induction count with
  | zero =>
    intro parser valid state none ends _ _
    exact ⟨parser, ⟨valid, .inr ⟨state, UInt8.toNat_inj.mp none⟩, rfl, ends⟩,
      fun more => by rw [Nat.zero_add]⟩
  | succ count induction =>
    intro parser valid state counted ends inside stop_le
    have someBlocks : parser.resetPacketType.numberOfBlocks ≠ 0 := by
      intro zero
      change parser.numberOfBlocks = 0 at zero
      rw [zero] at counted
      cases counted
    have long : ¬ parser.resetPacketType.length < 12 := by
      change ¬ parser.blockEnd - parser.ptr < 12
      omega
    have ptr : parser.resetPacketType.ptr = parser.ptr := rfl
    have atItem : parser.resetPacketType.state = .xrDlrrItem := state
    have parsed : ∃ item, parseItem data parser.resetPacketType = some (true, { parser with
        ptr := parser.ptr + 12
        packetType := .kRtcpXrDlrrReportBlockItemCode
        packet := .xrDLRRReportBlockItem item
        numberOfBlocks := parser.numberOfBlocks - 1
        state := .xrDlrrItem }) := by
      rw [parseItem, atItem]
      simp (disch := omega) only [parseXRDLRRReportBlockItem, someBlocks, long, if_false, ptr,
        uint32At_inside, bind_eq_bind, bind_some, Option.pure_def]
      exact ⟨_, rfl⟩
    rcases parsed with ⟨item, parsed⟩
    have iterated := iterate_of_parseItem valid (by rw [state]; decide) parsed
    have fewer : (parser.numberOfBlocks - 1).toNat = count := by
      rw [UInt8.toNat_sub, counted]
      have bound := parser.numberOfBlocks.toNat_lt
      change (2 ^ 8 - 1 + (count + 1)) % 2 ^ 8 = count
      omega
    have insideAfter : parser.ptr + 12 + 12 * count ≤ stop := by omega
    rcases induction { parser with
        ptr := parser.ptr + 12
        packetType := .kRtcpXrDlrrReportBlockItemCode
        packet := .xrDLRRReportBlockItem item
        numberOfBlocks := parser.numberOfBlocks - 1
        state := .xrDlrrItem } valid rfl fewer ends insideAfter stop_le with
      ⟨next, stands, same⟩
    refine ⟨next, ?_, fun more => ?_⟩
    · change AtXRBlock next (parser.ptr + 12 + 12 * count) stop at stands
      rw [Nat.add_assoc, Nat.add_comm 12] at stands
      exact stands
    · rw [Nat.add_comm count 1, Nat.add_assoc, voipMetrics_quiet iterated (by simp) rfl]
      exact same more

/-- The parser passes the block and reports it if it is one of metrics. -/
def PassesBlock (data : Bytes) (parser : RTCPParserV2) (block : XRBlock) (stop : Nat) : Prop :=
  ∃ calls next, AtXRBlock next (parser.ptr + block.bytes.length) stop ∧
    ∀ more, voipMetrics data (calls + more) parser =
      (voipMetrics data more next).map (block.voipMetric.toList ++ ·)

theorem passesBlock_of_iterate {next : RTCPParserV2} (iterated : parser.iterate data = some next)
    (found : next.packetType ≠ .kRtcpNotValidCode) (reported : next.voipMetric = block.voipMetric)
    (stands : AtXRBlock next (parser.ptr + block.bytes.length) stop) :
    PassesBlock data parser block stop :=
  ⟨1, next, stands, fun more => by rw [voipMetrics_succ iterated found, reported]⟩

section Known

variable (here : AtBlockBytes data parser block stop)

include here

theorem AtBlockBytes.receiverReferenceTime (type : block.blockType = 4)
    (length : block.blockLength = 2) : PassesBlock data parser block stop := by
  have inside := here.inside
  have stop_le := here.stop_le
  have ends : parser.blockEnd = stop := here.stands.blockEnd
  have time : block.blockType = 4 ∧ block.blockLength.toUInt8 = 2 := ⟨type, by rw [length]; rfl⟩
  have quiet : block.voipMetric = none := by
    simp [XRBlock.voipMetric, XRBlock.isVoipMetric, type]
  rw [XRBlock.bytes_length, length] at inside
  change parser.ptr + (4 + 4 * 2) ≤ stop at inside
  have long : ¬ RTCPParserV2.length { toXRItem parser with ptr := parser.ptr + 4 } < 8 := by
    change ¬ parser.blockEnd - (parser.ptr + 4) < 8
    omega
  have read : ∃ item, parseXRReceiverReferenceTimeItem data
      { toXRItem parser with ptr := parser.ptr + 4 } = some (true, { toXRItem parser with
        ptr := parser.ptr + 12
        packetType := .kRtcpXrReceiverReferenceTimeCode
        packet := .xrReceiverReferenceTimeItem item }) := by
    simp (disch := omega) only [parseXRReceiverReferenceTimeItem, long, if_false,
      uint32At_inside, bind_eq_bind, bind_some, Option.pure_def]
    exact ⟨_, rfl⟩
  rcases read with ⟨item, read⟩
  have parsed := here.parseXRItem
  rw [if_pos time, read] at parsed
  have iterated := (here.stands.iterate parsed).1 rfl
  apply passesBlock_of_iterate iterated (by simp) quiet.symm
  exact ⟨here.stands.valid, .inl rfl, by rw [XRBlock.bytes_length, length]; rfl, ends⟩

theorem AtBlockBytes.delays (type : block.blockType = 5) (short : block.blockLength < 256)
    (length : block.blockLength % 3 = 0) : PassesBlock data parser block stop := by
  have inside := here.inside
  have ends : parser.blockEnd = stop := here.stands.blockEnd
  have notTime : ¬ (block.blockType = 4 ∧ block.blockLength.toUInt8 = 2) := by
    rw [type]
    exact fun time => absurd time.1 (by decide)
  have delays : block.blockType = 5 ∧ block.blockLength.toUInt8 % 3 = 0 :=
    ⟨type, (toUInt8_mod_three_iff short).mpr length⟩
  have quiet : block.voipMetric = none := by
    simp [XRBlock.voipMetric, XRBlock.isVoipMetric, type]
  have bound : block.blockLength.toNat < 256 := UInt16.lt_iff_toNat_lt.mp short
  have words : 3 * (block.blockLength.toUInt8 / 3).toNat = block.blockLength.toNat := by
    have multiple := congrArg UInt16.toNat length
    rw [UInt16.toNat_mod] at multiple
    change block.blockLength.toNat % 3 = 0 at multiple
    rw [UInt8.toNat_div, UInt16.toNat_toUInt8]
    change 3 * (block.blockLength.toNat % 256 / 3) = _
    omega
  have place : parser.ptr + 4 + 12 * (block.blockLength.toUInt8 / 3).toNat =
      parser.ptr + block.bytes.length := by
    rw [XRBlock.bytes_length]
    omega
  have parsed := here.parseXRItem
  rw [if_neg notTime, if_pos delays] at parsed
  have iterated := (here.stands.iterate parsed).1 rfl
  rcases dlrrItems (block.blockLength.toUInt8 / 3).toNat { toXRItem parser with
      ptr := parser.ptr + 4
      packetType := .kRtcpXrDlrrReportBlockCode
      state := .xrDlrrItem
      numberOfBlocks := block.blockLength.toUInt8 / 3 } here.stands.valid rfl rfl ends
    (place.trans_le inside) here.stop_le with ⟨next, stands, same⟩
  change AtXRBlock next (parser.ptr + 4 + _) stop at stands
  rw [place] at stands
  refine ⟨1 + (block.blockLength.toUInt8 / 3).toNat, next, stands, fun more => ?_⟩
  have first := voipMetrics_quiet iterated (by simp) rfl
    ((block.blockLength.toUInt8 / 3).toNat + more)
  rw [Nat.add_assoc, first, same more, quiet]
  exact Option.map_id'.symm

theorem AtBlockBytes.metrics (type : block.blockType = 7) (length : block.blockLength = 8) :
    PassesBlock data parser block stop := by
  have inside := here.inside
  have stop_le := here.stop_le
  have ends : parser.blockEnd = stop := here.stands.blockEnd
  have notTime : ¬ (block.blockType = 4 ∧ block.blockLength.toUInt8 = 2) := by
    rw [type]
    exact fun time => absurd time.1 (by decide)
  have notDelays : ¬ (block.blockType = 5 ∧ block.blockLength.toUInt8 % 3 = 0) := by
    rw [type]
    exact fun delays => absurd delays.1 (by decide)
  have metrics : block.blockType = 7 ∧ block.blockLength.toUInt8 = 8 :=
    ⟨type, by rw [length]; rfl⟩
  have words : block.contents.length = 32 := by rw [block.counted, length]; rfl
  rw [XRBlock.bytes_length, length] at inside
  change parser.ptr + (4 + 4 * 8) ≤ stop at inside
  have long : 28 ≤ RTCPParserV2.length { toXRItem parser with ptr := parser.ptr + 4 } := by
    change 28 ≤ parser.blockEnd - (parser.ptr + 4)
    omega
  have read : XRBlock.voipMetricAt data (parser.ptr + 4) = block.voipMetric := by
    rcases here.reads with ⟨front, rest, bytes, ptr⟩
    have layout : data = (front ++ (block.blockType :: block.typeSpecific ::
        uint16Bytes block.blockLength)) ++ (block.contents ++ rest) := by
      rw [bytes, XRBlock.bytes]
      simp only [append_assoc, cons_append]
    have place : parser.ptr + 4 = (front ++ (block.blockType :: block.typeSpecific ::
        uint16Bytes block.blockLength)).length := by
      rw [length_append, ptr]
      rfl
    rw [layout, place, voipMetricAt_append _ _ words, XRBlock.voipMetric, if_pos]
    simp [XRBlock.isVoipMetric, type, length]
  have found : ∃ item, block.voipMetric = some item := by
    rw [← read]
    simp (disch := omega) only [XRBlock.voipMetricAt, uint32At_inside, byteAt_inside,
      uint16At_inside, bind_eq_bind, bind_some, Option.pure_def]
    exact ⟨_, rfl⟩
  rcases found with ⟨item, found⟩
  have metric := @parseXRVOIPMetricItem_metric data _ long
  have place : XRBlock.voipMetricAt data
      (RTCPParserV2.ptr { toXRItem parser with ptr := parser.ptr + 4 }) = some item :=
    read.trans found
  have parsed := here.parseXRItem
  rw [place, map_some] at metric
  rw [if_neg notTime, if_neg notDelays, if_pos metrics, metric] at parsed
  have iterated := (here.stands.iterate parsed).1 rfl
  apply passesBlock_of_iterate iterated (by simp) found.symm
  exact ⟨here.stands.valid, .inl rfl, by rw [XRBlock.bytes_length, length]; rfl, ends⟩

theorem AtBlockBytes.supported (right : XRBlock.ReadRight block)
    (known : block.supported = true) : PassesBlock data parser block stop := by
  simp only [XRBlock.supported, XRBlock.isVoipMetric, decide_eq_true_eq] at known
  rcases known with ⟨type, length⟩ | ⟨type, length⟩ | ⟨type, length⟩
  · exact here.receiverReferenceTime type length
  · exact here.delays type (right (.inr (.inl type))) length
  · exact here.metrics type length

end Known

/-- From the first block on, the parser reports the metrics in front of the first block of another
kind, and goes on behind the report. -/
theorem walksBlocks (blocks : List XRBlock) :
    ∀ (parser : RTCPParserV2) (front rest : Bytes),
      data = front ++ (blocks.flatMap XRBlock.bytes ++ rest) →
      AtXRBlock parser front.length stop →
      stop = front.length + (blocks.flatMap XRBlock.bytes).length →
      (∀ block ∈ blocks, block.ReadRight) →
      ∃ calls behind, AtTopLevel behind stop ∧ ∀ more, voipMetrics data (calls + more) parser =
        (voipMetrics data more behind).map
          ((blocks.takeWhile XRBlock.supported).filterMap XRBlock.voipMetric ++ ·) := by
  induction blocks with
  | nil =>
    intro parser front rest _ stands ends _
    rw [flatMap_nil, length_nil, Nat.add_zero] at ends
    have few : (toXRItem parser).length < 4 := by
      change parser.blockEnd - parser.ptr < 4
      rw [stands.blockEnd, stands.ptr, ends]
      omega
    have parsed : parseXRItem data (toXRItem parser) =
        some (false, (toXRItem parser).leaveBlock) := by
      rw [parseXRItem, if_pos few]
    refine ⟨0, (toXRItem parser).leaveBlock, ⟨stands.valid, rfl, stands.blockEnd⟩, fun more => ?_⟩
    rw [Nat.zero_add, voipMetrics_congr ((stands.iterate parsed).2 rfl stands.valid rfl)]
    exact Option.map_id'.symm
  | cons block blocks induction =>
    intro parser front rest bytes stands ends right
    rw [flatMap_cons, append_assoc] at bytes
    rw [flatMap_cons, length_append] at ends
    have here : AtBlockBytes data parser block stop := {
      stands := stands.ptr ▸ stands
      reads := ⟨front, _, bytes, stands.ptr⟩
      inside := by rw [stands.ptr]; omega
      stop_le := by
        rw [bytes, length_append, length_append, length_append]
        omega }
    have rightHere := right block mem_cons_self
    cases known : block.supported with
    | false =>
      refine ⟨0, (toXRItem parser).leaveBlock, ⟨stands.valid, rfl, stands.blockEnd⟩, fun more => ?_⟩
      rw [Nat.zero_add, voipMetrics_congr (here.unsupported rightHere known),
        takeWhile_cons_of_neg (by rw [known]; decide)]
      exact Option.map_id'.symm
    | true =>
      rcases here.supported rightHere known with ⟨calls, next, nextStands, first⟩
      rw [stands.ptr, ← length_append] at nextStands
      rcases induction next (front ++ block.bytes) rest (by rw [bytes, append_assoc])
        nextStands (by rw [ends, length_append]; omega)
        (fun other member => right other (mem_cons_of_mem _ member)) with
        ⟨later, behind, behindStands, others⟩
      refine ⟨calls + later, behind, behindStands, fun more => ?_⟩
      rw [Nat.add_assoc, first, others, takeWhile_cons_of_pos known, Option.map_map]
      congr 1
      funext list
      cases metric : block.voipMetric with
      | none => rw [filterMap_cons_none metric]; rfl
      | some item => rw [filterMap_cons_some metric]; rfl

/-- The parser reads the header of an extended report. -/
theorem iterate_xrHeader (xr : XRPacket) (front rest : Bytes)
    (top : AtTopLevel parser front.length) :
    ∃ next, parser.iterate (front ++ (xr.bytes ++ rest)) = some next ∧
      next.packetType = .kRtcpXrHeaderCode ∧
      AtXRBlock next (front.length + 8) (front.length + xr.bytes.length) := by
  have total := xr.bytes_length
  have size : (octetsOfLength xr.length).toNat = xr.bytes.length := by
    have counted := xr.counted
    have datagram := xr.datagram
    rw [octetsOfLength, UInt16.toNat_mul, UInt16.toNat_add]
    change (xr.length.toNat + 1) % 2 ^ 16 * 4 % 2 ^ 16 = _
    omega
  have nonzero : octetsOfLength xr.length ≠ 0 := by
    intro zero
    rw [zero] at size
    change 0 = _ at size
    omega
  have layout : xr.bytes ++ rest = xr.first :: 207 :: (uint16Bytes xr.length ++
      (uint32Bytes xr.originatorSSRC ++ (xr.blocks.flatMap XRBlock.bytes ++ rest))) := by
    rw [XRPacket.bytes]
    simp only [cons_append, append_assoc]
  have common : rtcpParseCommonHeader (front ++ (xr.bytes ++ rest)) parser.ptr = some (some {
      v := xr.first >>> 6, p := xr.first &&& 0x20 ≠ 0, ic := xr.first &&& 0x1f, pt := 207,
      lengthInOctets := octetsOfLength xr.length }) := by
    rw [top.ptr]
    apply (rtcpParseCommonHeader_append front _ 0).trans
    rw [layout, rtcpParseCommonHeader_cons, if_neg nonzero, if_neg (not_not.mpr xr.version)]
  have originator : (front ++ (xr.bytes ++ rest)).uint32At (parser.ptr + 4) =
      some xr.originatorSSRC := by
    rw [top.ptr, uint32At_append, layout]
    exact (uint32At_append (xr.first :: 207 :: uint16Bytes _) _ 0).trans (uint32At_uint32Bytes _ _)
  have inside : parser.ptr + xr.bytes.length ≤ (front ++ (xr.bytes ++ rest)).length := by
    rw [top.ptr, length_append, length_append]
    omega
  generalize front ++ (xr.bytes ++ rest) = data at *
  have long : ¬ RTCPParserV2.length
      { parser.resetPacketType with blockEnd := parser.ptr + xr.bytes.length } < 8 := by
    change ¬ parser.ptr + xr.bytes.length - parser.ptr < 8
    omega
  have parsed : parseXR data { parser.resetPacketType with
      blockEnd := parser.ptr + xr.bytes.length } =
      some (true, { parser with
        ptr := parser.ptr + 8
        blockEnd := parser.ptr + xr.bytes.length
        packetType := .kRtcpXrHeaderCode
        packet := .xr xr.originatorSSRC
        state := .xrItem }) := by
    rw [parseXR, if_neg long]
    change (data.uint32At (parser.ptr + 4)).bind _ = _
    rw [originator]
    rfl
  refine ⟨{ parser with
      ptr := parser.ptr + 8
      blockEnd := parser.ptr + xr.bytes.length
      packetType := .kRtcpXrHeaderCode
      packet := .xr xr.originatorSSRC
      state := .xrItem }, ?_, rfl, top.valid, .inl rfl, congrArg (· + 8) top.ptr,
    congrArg (· + xr.bytes.length) top.ptr⟩
  rw [iterate_topLevel top.valid top.state, iterateTopLevel]
  change (rtcpParseCommonHeader data parser.ptr).bind _ = _
  rw [common]
  change (if data.length < parser.ptr + (octetsOfLength xr.length).toNat then _ else _) = _
  rw [size, if_neg (by omega)]
  change (parseXR data { parser.resetPacketType with
    blockEnd := parser.ptr + xr.bytes.length }).bind _ = _
  rw [parsed]
  rfl

theorem voipMetrics_atEnd (top : AtTopLevel parser data.length) (more : Nat) :
    voipMetrics data (more + 1) parser = some [] := by
  have ended : rtcpParseCommonHeader data parser.ptr = some none := by
    rw [rtcpParseCommonHeader, if_pos (by rw [top.ptr]; omega)]
  have iterated : parser.iterate data = some parser.resetPacketType := by
    rw [iterate_topLevel top.valid top.state, iterateTopLevel]
    change (rtcpParseCommonHeader data parser.ptr).bind _ = _
    rw [ended]
    rfl
  rw [voipMetrics, iterated]
  rfl

theorem ReportsBlocks.unique {xr : XRPacket} {first second : List XRBlock}
    (reportsFirst : ReportsBlocks xr first) (reportsSecond : ReportsBlocks xr second) :
    first.filterMap XRBlock.voipMetric = second.filterMap XRBlock.voipMetric := by
  have top : AtTopLevel {
      validPacket := true, ptr := 0, blockEnd := 0, state := .topLevel, numberOfBlocks := 0,
      packetType := .kRtcpNotValidCode, packet := .bye 0 } ([] : Bytes).length := ⟨rfl, rfl, rfl⟩
  rcases reportsFirst [] [] _ top with ⟨calls, behind, atEnd, firstCalls⟩
  rcases reportsSecond [] [] _ top with ⟨otherCalls, otherBehind, otherAtEnd, secondCalls⟩
  have ends : ([] : Bytes).length + xr.bytes.length = ([] ++ (xr.bytes ++ [])).length := by
    rw [nil_append, append_nil, length_nil, Nat.zero_add]
  rw [ends] at atEnd otherAtEnd
  have one := firstCalls (otherCalls + 1)
  have other := secondCalls (calls + 1)
  rw [voipMetrics_atEnd atEnd, map_some] at one
  rw [voipMetrics_atEnd otherAtEnd, map_some] at other
  have sameCalls : calls + (otherCalls + 1) = otherCalls + (calls + 1) := by omega
  rw [sameCalls, other] at one
  exact append_cancel_right (Option.some.inj one).symm

theorem reportsBlocks_takeWhile {xr : XRPacket} (right : ∀ block ∈ xr.blocks, block.ReadRight) :
    ReportsBlocks xr (xr.blocks.takeWhile XRBlock.supported) := by
  intro front rest parser top
  rcases iterate_xrHeader xr front rest top with ⟨header, iterated, type, stands⟩
  have split : front ++ (xr.bytes ++ rest) = (front ++ (xr.first :: 207 :: (uint16Bytes xr.length ++
      uint32Bytes xr.originatorSSRC))) ++ (xr.blocks.flatMap XRBlock.bytes ++ rest) := by
    rw [XRPacket.bytes]
    simp only [cons_append, append_assoc]
  have place : (front ++ (xr.first :: 207 :: (uint16Bytes xr.length ++
      uint32Bytes xr.originatorSSRC))).length = front.length + 8 := by
    rw [length_append]
    rfl
  rw [← place] at stands
  rcases walksBlocks xr.blocks header _ rest split stands
    (by rw [place, xr.bytes_length, Nat.add_assoc]) right with ⟨calls, behind, behindTop, walked⟩
  refine ⟨1 + calls, behind, behindTop, fun more => ?_⟩
  have quiet : header.voipMetric = none := by
    rw [RTCPParserV2.voipMetric, type]
  rw [Nat.add_assoc, voipMetrics_quiet iterated (by rw [type]; decide) quiet, walked]

/-- Of an extended report whose blocks of the known types are shorter than 256 words, the parser
reports the metrics in front of the first block of another kind, and nothing else. -/
theorem reportsBlocks_iff {xr : XRPacket} (right : ∀ block ∈ xr.blocks, block.ReadRight)
    (reported : List XRBlock) :
    ReportsBlocks xr reported ↔ reported.filterMap XRBlock.voipMetric =
      (xr.blocks.takeWhile XRBlock.supported).filterMap XRBlock.voipMetric := by
  have reports := reportsBlocks_takeWhile right
  refine ⟨fun other => other.unique reports, fun same => ?_⟩
  intro front rest parser top
  rw [same]
  exact reports front rest parser top

end Blocks

def zeros (blockType : UInt8) (blockLength : UInt16) : XRBlock :=
  ⟨blockType, 0, blockLength, List.replicate (4 * blockLength.toNat) 0, length_replicate⟩

/-- Reports of delays for two receivers, and metrics. -/
def delaysAndMetrics : XRPacket where
  first := 0x80
  length := 17
  originatorSSRC := 1
  blocks := [zeros 5 6, zeros 7 8]
  version := by decide
  counted := by decide
  datagram := by decide

theorem reportsBlocks_delaysAndMetrics :
    ReportsBlocks delaysAndMetrics delaysAndMetrics.blocks :=
  (reportsBlocks_iff (by decide) delaysAndMetrics.blocks).mpr rfl

/-- Runs of lost packets, and metrics. -/
def lossesAndMetrics : XRPacket where
  first := 0x80
  length := 12
  originatorSSRC := 1
  blocks := [zeros 1 1, zeros 7 8]
  version := by decide
  counted := by decide
  datagram := by decide

/-- The metrics behind the block are not reported. -/
theorem not_reportsBlocks_lossesAndMetrics :
    ¬ ReportsBlocks lossesAndMetrics lossesAndMetrics.blocks := by
  intro reports
  have same := reports.unique (reportsBlocks_takeWhile (by decide))
  have lengths := congrArg List.length same
  revert lengths
  decide

end RTCPParserV2

end ZyWebRtc.Rtcp
