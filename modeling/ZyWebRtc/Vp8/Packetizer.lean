import ZyWebRtc.Vp8.PartitionAggregator

namespace ZyWebRtc.Vp8

/-! `RtpFormatVp8`: how a frame is cut into packets. The encoder puts the partitions of a frame end
to end, so the offset of a partition is the sum of the lengths before it, and the frame ends with
the last one. Computations have no value when they divide by zero or leave a vector. -/

inductive VP8PacketizerMode
  | kStrict
  | kAggregate
  | kEqualSize
  deriving DecidableEq, Repr

inductive AggregationMode
  | kAggrNone
  | kAggrPartitions
  | kAggrFragments
  deriving DecidableEq, Repr

def aggrMode : VP8PacketizerMode → AggregationMode
  | .kStrict => .kAggrNone
  | .kAggregate => .kAggrPartitions
  | .kEqualSize => .kAggrFragments

def balanceMode : VP8PacketizerMode → Bool
  | .kStrict | .kAggregate | .kEqualSize => true

def separateFirstMode : VP8PacketizerMode → Bool
  | .kStrict => true
  | .kAggregate | .kEqualSize => false

/-- The fields of the VP8 header that take bytes of the payload descriptor; without a value they are
-1. -/
structure RTPVideoHeaderVP8 where
  pictureId : Int
  tl0PicIdx : Int
  temporalIdx : Int
  keyIdx : Int
  deriving DecidableEq, Repr

namespace RTPVideoHeaderVP8

variable (header : RTPVideoHeaderVP8)

def pictureIdLength : Int :=
  if header.pictureId = -1 then 0
  else if header.pictureId ≤ 0x7F then 1
  else 2

def payloadDescriptorExtraLength : Int :=
  let lengthBytes := header.pictureIdLength + (if header.tl0PicIdx ≠ -1 then 1 else 0) +
    (if header.temporalIdx ≠ -1 ∨ header.keyIdx ≠ -1 then 1 else 0)
  if 0 < lengthBytes then lengthBytes + 1 else lengthBytes

def overhead : Int := 1 + header.payloadDescriptorExtraLength

theorem overhead_pos : 1 ≤ header.overhead := by
  rw [overhead, payloadDescriptorExtraLength, pictureIdLength]
  split_ifs <;> omega

end RTPVideoHeaderVP8

structure InfoStruct where
  payloadStartPos : Int
  size : Int
  firstPartitionIx : Nat
  firstFragment : Bool
  deriving DecidableEq, Repr

structure RtpFormatVp8 where
  hdrInfo : RTPVideoHeaderVP8
  mode : VP8PacketizerMode
  fragmentationLength : List Nat
  maxPayloadLen : Int

def divide (dividend divisor : Int) : Option Int :=
  if divisor = 0 then none else some (dividend.tdiv divisor)

namespace RtpFormatVp8

variable (format : RtpFormatVp8)

def payloadSize : Int := (format.fragmentationLength.sum : Nat)

def fragmentationOffset (partIx : Nat) : Int := ((format.fragmentationLength.take partIx).sum : Nat)

/-- The quotient is computed in floating point, rounded to the nearest number. It stays below a
number it does not reach by more than the precision of a `double`. -/
def calcNextSize (maxPayloadLen remainingBytes : Int) (splitPayload : Bool) : Option Int :=
  if maxPayloadLen = 0 ∨ remainingBytes = 0 then some 0
  else if splitPayload = false then
    some (if remainingBytes ≤ maxPayloadLen then remainingBytes else 0)
  else if balanceMode format.mode then do
    let quotient ← divide remainingBytes maxPayloadLen
    let numFrags := quotient + 1
    divide (2 * remainingBytes + numFrags) (2 * numFrags)
  else some (if remainingBytes ≤ maxPayloadLen then remainingBytes else maxPayloadLen)

/-- The variables of the inner loop of `GeneratePackets`. -/
structure Filling where
  packetBytes : Int
  remPayloadLen : Int
  remainingInPartition : Int
  partIx : Nat
  splitPayload : Bool
  deriving DecidableEq, Repr

/-- The inner loop: one packet is filled. Every round takes bytes of the packet's room. -/
def fillPacket (beginning startOnNewFragment : Bool) : (fuel : Nat) → Filling → Option Filling
  | 0, _ => none
  | fuel + 1, filling => do
    let nextSize ← format.calcNextSize filling.remPayloadLen filling.remainingInPartition
      filling.splitPayload
    if nextSize = 0 then pure filling
    else
      let filled : Filling := { filling with
        packetBytes := filling.packetBytes + nextSize
        remPayloadLen := filling.remPayloadLen - nextSize
        remainingInPartition := filling.remainingInPartition - nextSize }
      if filled.remainingInPartition = 0 ∧
          ¬ (beginning = true ∧ separateFirstMode format.mode = true) then
        if filled.partIx + 1 < format.fragmentationLength.length ∧
            (aggrMode format.mode = .kAggrFragments ∨
              aggrMode format.mode = .kAggrPartitions ∧ startOnNewFragment = true) then do
          let length ← format.fragmentationLength[filled.partIx + 1]?
          fillPacket beginning startOnNewFragment fuel { filled with
            remainingInPartition := length
            partIx := filled.partIx + 1
            splitPayload := aggrMode format.mode = .kAggrFragments }
        else fillPacket beginning startOnNewFragment fuel filled
      else if balanceMode format.mode = true ∧ 0 < filled.remainingInPartition then pure filled
      else fillPacket beginning startOnNewFragment fuel filled

/-- The outer loop of `GeneratePackets`. A round processes bytes or leaves a partition. -/
def generatePacketsFrom : (fuel : Nat) → (totalBytesProcessed : Int) → (partIx : Nat) →
    (startOnNewFragment beginning : Bool) → Option (List InfoStruct)
  | 0, _, _, _, _ => none
  | fuel + 1, total, partIx, startOnNewFragment, beginning =>
    if format.payloadSize ≤ total then some []
    else do
      let length ← format.fragmentationLength[partIx]?
      let filled ← format.fillPacket beginning startOnNewFragment
        (format.maxPayloadLen.toNat + 1) {
          packetBytes := 0
          remPayloadLen := format.maxPayloadLen - format.hdrInfo.overhead
          remainingInPartition := format.fragmentationOffset partIx - total + length
          partIx
          splitPayload := true }
      let next :=
        if filled.remainingInPartition = 0 then filled.partIx + 1 else filled.partIx
      let packets ← generatePacketsFrom fuel (total + filled.packetBytes) next
        (filled.remainingInPartition = 0) false
      pure ({
        payloadStartPos := total
        size := filled.packetBytes
        firstPartitionIx := partIx
        firstFragment := startOnNewFragment } :: packets)

def generatePackets : Option (Int × List InfoStruct) :=
  if format.maxPayloadLen < format.hdrInfo.overhead + 1 then some (-1, [])
  else do
    let packets ← format.generatePacketsFrom
      (format.fragmentationLength.sum + format.fragmentationLength.length + 1) 0 0 true true
    pure (0, packets)

end RtpFormatVp8

/-! ## Balanced aggregates -/

/-- The loop over the numbers of fragments, with the best number and cost so far. -/
def bestFragments (largePartitionSize maxPayloadSize penalty minSize maxSize : Int) :
    (rounds : Nat) → (n numFragments bestCost : Int) → Option Int
  | 0, _, numFragments, _ => some numFragments
  | rounds + 1, n, numFragments, bestCost => do
    let fragmentSize ← divide (largePartitionSize + n - 1) n
    let cost :=
      if fragmentSize < minSize then minSize - fragmentSize + n * penalty
      else if maxSize < fragmentSize then fragmentSize - maxSize + n * penalty
      else n * penalty
    if fragmentSize ≤ maxPayloadSize ∧ cost < bestCost then
      bestFragments largePartitionSize maxPayloadSize penalty minSize maxSize rounds (n + 1) n cost
    else
      bestFragments largePartitionSize maxPayloadSize penalty minSize maxSize rounds (n + 1)
        numFragments bestCost

def calcNumberOfFragments (largePartitionSize maxPayloadSize penalty minSize maxSize : Int) :
    Option Int := do
  let minNumberOfFragments ← divide (largePartitionSize + maxPayloadSize - 1) maxPayloadSize
  if minSize < 0 ∨ maxSize < 0 then pure minNumberOfFragments
  else do
    let maxNumberOfFragments ← divide (largePartitionSize + minSize - 1) minSize
    bestFragments largePartitionSize maxPayloadSize penalty minSize maxSize
      (maxNumberOfFragments - minNumberOfFragments + 1).toNat minNumberOfFragments (-1) intMax

namespace RtpFormatVp8

/-- The aggregator for a set of partitions, with the sizes of the packets before them. -/
def setAggregator (length : Nat) (more : List Nat) (bounds : Int × Int) :
    Option Vp8PartitionAggregator :=
  let aggregator := Vp8PartitionAggregator.new length more
  if 0 ≤ bounds.1 ∧ 0 ≤ bounds.2 then
    if asserted : 0 ≤ bounds.1 ∧ bounds.1 ≤ bounds.2 then
      some (aggregator.setPriorMinMax bounds.1 bounds.2 asserted)
    else none
  else some aggregator

/-- `AggregateSmallPartitions` for the partitions that are left: the decisions, and the smallest and
largest packet. -/
def aggregateFrom (maxPayloadLen overhead : Int) : (fuel : Nat) → (lengths : List Nat) →
    (numAggregatePackets : Int) → Int × Int → Option (List Int × (Int × Int))
  | 0, _, _, _ => none
  | _ + 1, [], _, bounds => some ([], bounds)
  | fuel + 1, length :: rest, numAggregatePackets, bounds =>
    if (length : Int) < maxPayloadLen then do
      let more := rest.takeWhile fun (length : Nat) => decide ((length : Int) < maxPayloadLen)
      let aggregator ← setAggregator length more bounds
      let config ← aggregator.findOptimalConfiguration maxPayloadLen overhead
      let bounds := aggregator.calcMinMax config bounds.1 bounds.2
      let last ← config.getLast?
      let result ← aggregateFrom maxPayloadLen overhead fuel (rest.drop more.length)
        (numAggregatePackets + (last + 1)) bounds
      pure (config.map (numAggregatePackets + ·) ++ result.1, result.2)
    else do
      let result ← aggregateFrom maxPayloadLen overhead fuel rest numAggregatePackets bounds
      pure (-1 :: result.1, result.2)

/-- The fragments of a large partition: the packets, and the smallest and largest packet. -/
def splitPartition (packetBytes : Int) (partIx : Nat) : (rounds : Nat) → (first : Bool) →
    (total remainingPartition : Int) → Int × Int → List InfoStruct × (Int × Int)
  | 0, _, _, _, bounds => ([], bounds)
  | rounds + 1, first, total, remainingPartition, bounds =>
    let thisPacketBytes :=
      if packetBytes < remainingPartition then packetBytes else remainingPartition
    let result := splitPartition packetBytes partIx rounds false (total + thisPacketBytes)
      (remainingPartition - thisPacketBytes)
      (Vp8PartitionAggregator.updateMinMax bounds thisPacketBytes)
    ({ payloadStartPos := total
       size := thisPacketBytes
       firstPartitionIx := partIx
       firstFragment := first } :: result.1, result.2)

def generateAggregatesFrom (maxPayloadLen overhead : Int) : (fuel : Nat) →
    (entries : List (Nat × Int)) → (total : Int) → (partIx : Nat) → Int × Int →
    Option (List InfoStruct)
  | 0, _, _, _, _ => none
  | _ + 1, [], _, _, _ => some []
  | fuel + 1, (length, decision) :: entries, total, partIx, bounds =>
    if decision = -1 then do
      let numFragments ← calcNumberOfFragments length maxPayloadLen overhead bounds.1 bounds.2
      let packetBytes ← divide (length + numFragments - 1) numFragments
      let result := splitPartition packetBytes partIx numFragments.toNat true total length bounds
      let packets ← generateAggregatesFrom maxPayloadLen overhead fuel entries
        (total + (result.1.map InfoStruct.size).sum) (partIx + 1) result.2
      pure (result.1 ++ packets)
    else do
      let group := (length, decision) :: entries.takeWhile fun entry => entry.2 = decision
      let thisPacketBytes : Int := ((group.map Prod.fst).sum : Nat)
      let packets ← generateAggregatesFrom maxPayloadLen overhead fuel
        (entries.drop (group.length - 1)) (total + thisPacketBytes) (partIx + group.length) bounds
      pure ({
        payloadStartPos := total
        size := thisPacketBytes
        firstPartitionIx := partIx
        firstFragment := true } :: packets)

variable (format : RtpFormatVp8)

def generatePacketsBalancedAggregates : Option (Int × List InfoStruct) :=
  if format.maxPayloadLen < format.hdrInfo.overhead + 1 then some (-1, [])
  else do
    let overhead := format.hdrInfo.overhead
    let maxPayloadLen := format.maxPayloadLen - overhead
    let (decisions, bounds) ← aggregateFrom maxPayloadLen overhead
      (format.fragmentationLength.length + 1) format.fragmentationLength 0 (-1, -1)
    let packets ← generateAggregatesFrom maxPayloadLen overhead
      (format.fragmentationLength.length + 1) (format.fragmentationLength.zip decisions) 0 0 bounds
    pure (0, packets)

def calculatePackets : Option (Int × List InfoStruct) :=
  if aggrMode format.mode = .kAggrPartitions ∧ balanceMode format.mode = true then
    format.generatePacketsBalancedAggregates
  else format.generatePackets

end RtpFormatVp8

end ZyWebRtc.Vp8
