import ZyWebRtc.Rtcp.Sender

namespace ZyWebRtc.Rtcp.RTCPSender

/-! The functions of `RTCPSender` that write one block each. -/

open Bytes (uint16Bytes uint24Bytes uint32Bytes)

/-- What a `Build` function leaves: the value that it returns, the members and the buffer. -/
structure Built where
  value : Int
  sender : RTCPSender
  buffer : RtcpBuffer

/-- A block that needs room and is written whole, or not at all. -/
def writeBlock (room : Nat) (block : Bytes) (items : Option Nat) (sender next : RTCPSender)
    (buffer : RtcpBuffer) : Built :=
  if buffer.full room then { value := -2, sender, buffer }
  else { value := 0, sender := next, buffer := buffer.append block items }

/-! ## Reports -/

def reportBlockBytes (entry : UInt32 × RTCPReportBlock) : Bytes :=
  uint32Bytes entry.1 ++ [entry.2.fractionLost] ++ uint24Bytes entry.2.cumulativeLost ++
    uint32Bytes entry.2.extendedHighSeqNum ++ uint32Bytes entry.2.jitter ++
    uint32Bytes entry.2.lastSR ++ uint32Bytes entry.2.delaySinceLastSR

def writeReportBlocksToBuffer (bytes : Bytes) (reportBlocks : List (UInt32 × RTCPReportBlock)) :
    Bytes :=
  bytes ++ reportBlocks.flatMap reportBlockBytes

/-- The bytes with all report blocks and their number, when there is room for them. -/
def writeAllReportBlocksToBuffer (bytes : Bytes) (sender : RTCPSender) :
    Option (Bytes × UInt8 × RTCPSender) :=
  if IP_PACKET_SIZE ≤ bytes.length + 24 then none
  else
    let numberOfReportBlocks := UInt8.ofNat sender.externalReportBlocks.entries.length +
      UInt8.ofNat sender.internalReportBlocks.entries.length
    if IP_PACKET_SIZE ≤ bytes.length + numberOfReportBlocks.toNat * 24 then none
    else
      let internal := writeReportBlocksToBuffer bytes sender.internalReportBlocks.entries
      let written := writeReportBlocksToBuffer internal sender.externalReportBlocks.entries
      some (written, numberOfReportBlocks, { sender with internalReportBlocks := .empty })

def reportBlockCount (sender : RTCPSender) : Nat :=
  sender.internalReportBlocks.entries.length + sender.externalReportBlocks.entries.length

def addAt (offset : Nat) (amount : UInt8) (bytes : Bytes) : Bytes :=
  bytes.modify offset (· + amount)

def setUint16 (offset : Nat) (word : UInt16) (bytes : Bytes) : Bytes :=
  (bytes.set offset (word >>> 8).toUInt8).set (offset + 1) word.toUInt8

/-- A report from its head on: its blocks, their number in the first byte of the report, and
the length in the third and fourth byte of the buffer. -/
def finishReport (start : Nat) (bytes : Bytes) (sender : RTCPSender) :
    Option (Bytes × RTCPSender) := do
  let (written, numberOfReportBlocks, next) ← writeAllReportBlocksToBuffer bytes sender
  let counted := addAt start numberOfReportBlocks written
  pure (setUint16 2 (UInt16.ofNat (written.length / 4 - 1)) counted, next)

def rememberReport (world : SenderWorld) (time : NtpTime) (sender : RTCPSender) : RTCPSender :=
  { sender with
    lastRTCPTime := sender.lastRTCPTime.push (UInt32.ofInt (world.ntpToMs time))
    lastSendReport := sender.lastSendReport.push (midNtp time) }

def rtpTime (feedbackState : FeedbackState) (timeInMilliseconds : Int) (sender : RTCPSender) :
    UInt32 :=
  sender.startTimestamp + sender.lastRtpTimestamp +
    UInt32.ofInt (timeInMilliseconds - sender.lastFrameCaptureTimeMs) *
      (feedbackState.frequencyHz / 1000)

/-- Without room for the report blocks the report is left without its length. -/
def buildSR (world : SenderWorld) (request : PrepareRequest) (time : NtpTime)
    (sender : RTCPSender) (buffer : RtcpBuffer) : Built :=
  if buffer.full 52 then { value := -2, sender, buffer }
  else
    let position := buffer.position
    let remembering := sender.rememberReport world time
    let head := buffer.bytes ++ [0x80, 200, request.memory (position + 2),
      request.memory (position + 3)] ++ uint32Bytes sender.ssrc ++ uint32Bytes time.seconds ++
      uint32Bytes time.fractions ++
      uint32Bytes (sender.rtpTime request.feedbackState request.timeInMilliseconds) ++
      uint32Bytes request.feedbackState.packetCountSent ++
      uint32Bytes request.feedbackState.byteCountSent
    match finishReport position head remembering with
    | none =>
      { value := -1, sender := remembering
        buffer := { bytes := head, blocks := buffer.blocks ++
          [{ start := position, stop := head.length, items := some 0 }] } }
    | some (bytes, next) =>
      { value := 0, sender := next
        buffer := { bytes, blocks := buffer.blocks ++ [{
          start := position, stop := bytes.length, items := some sender.reportBlockCount }] } }

/-- Without room for the report blocks the position is returned, behind a report without its
length. -/
def buildRR (request : PrepareRequest) (sender : RTCPSender) (buffer : RtcpBuffer) : Built :=
  if buffer.full 32 then { value := -2, sender, buffer }
  else
    let position := buffer.position
    let head := buffer.bytes ++ [0x80, 201, request.memory (position + 2),
      request.memory (position + 3)] ++ uint32Bytes sender.ssrc
    match finishReport position head sender with
    | none =>
      { value := head.length, sender
        buffer := { bytes := head, blocks := buffer.blocks ++
          [{ start := position, stop := head.length, items := some 0 }] } }
    | some (bytes, next) =>
      { value := 0, sender := next
        buffer := { bytes, blocks := buffer.blocks ++ [{
          start := position, stop := bytes.length, items := some sender.reportBlockCount }] } }

/-- A chunk: the source, its canonical name and zeros up to the next multiple of four, of
which there is always one. -/
def sdesChunk (position : Nat) (ssrc : UInt32) (cname : CName) : Bytes :=
  let item := uint32Bytes ssrc ++ [1, UInt8.ofNat cname.name.length] ++ cname.name
  item ++ List.replicate (4 - (position + item.length) % 4) 0

def sdesChunks : (position : Nat) → List (UInt32 × CName) → Bytes
  | _, [] => []
  | position, (ssrc, cname) :: rest =>
    let chunk := sdesChunk position ssrc cname
    chunk ++ sdesChunks (position + chunk.length) rest

variable (sender : RTCPSender) (buffer : RtcpBuffer)

/-- The check covers the own name only. -/
def buildSDEC : Built :=
  let chunks := sdesChunks (buffer.position + 4)
    ((sender.ssrc, sender.cname) :: sender.csrcCNAMEs.entries)
  let sdesLength := UInt16.ofNat (4 + chunks.length)
  writeBlock (12 + sender.cname.name.length)
    ([0x80 + 1 + UInt8.ofNat sender.csrcCNAMEs.entries.length, 202] ++
      uint16Bytes (sdesLength / 4 - 1) ++ chunks)
    (some (1 + sender.csrcCNAMEs.entries.length)) sender sender buffer

/-! ## Jitter and feedback -/

def buildExtendedJitterReport (jitterTransmissionTimeOffset : UInt32) (sender : RTCPSender)
    (buffer : RtcpBuffer) : Built :=
  if sender.externalReportBlocks.entries.length > 0 then { value := 0, sender, buffer }
  else
    writeBlock 8 ([0x80 + 1, 195, 0, 1] ++ uint32Bytes jitterTransmissionTimeOffset) (some 1)
      sender sender buffer

def buildPLI : Built :=
  writeBlock 12
    ([0x80 + 1, 206, 0, 2] ++ uint32Bytes sender.ssrc ++ uint32Bytes sender.remoteSSRC) none
    sender sender buffer

def buildFIR (repeatFir : Bool) (sender : RTCPSender) (buffer : RtcpBuffer) : Built :=
  let sequenceNumberFIR :=
    if repeatFir then sender.sequenceNumberFIR else sender.sequenceNumberFIR + 1
  writeBlock 20
    ([0x80 + 4, 206, 0, 4] ++ uint32Bytes sender.ssrc ++ [0, 0, 0, 0] ++
      uint32Bytes sender.remoteSSRC ++ [sequenceNumberFIR, 0, 0, 0]) none
    sender { sender with sequenceNumberFIR } buffer

def buildSLI (pictureID : UInt8) (sender : RTCPSender) (buffer : RtcpBuffer) : Built :=
  let sliField := ((0x1fff : UInt32) <<< 6) + (0x3f &&& pictureID.toUInt32)
  writeBlock 16
    ([0x80 + 2, 206, 0, 3] ++ uint32Bytes sender.ssrc ++ uint32Bytes sender.remoteSSRC ++
      uint32Bytes sliField) none
    sender sender buffer

/-- The loop that counts the bytes of a picture identifier. A shift by the width of the word
or more, which the language leaves open, is taken modulo the width: then the loop does not
end for an identifier that has its highest bit set. The shifts repeat after 64 rounds. -/
def bytesRequiredLoop (pictureID : UInt64) :
    (fuel : Nat) → (bitsRequired : UInt64) → (bytesRequired : Nat) → Option Nat
  | 0, _, _ => none
  | fuel + 1, bitsRequired, bytesRequired =>
    if pictureID >>> bitsRequired > 0 then
      bytesRequiredLoop pictureID fuel (bitsRequired + 7) (bytesRequired + 1)
    else some bytesRequired

def bytesRequired (pictureID : UInt64) : Option Nat := bytesRequiredLoop pictureID 65 7 1

/-- The identifier in groups of seven bits, the highest first. -/
def pictureIDBytes (pictureID : UInt64) : (bytesRequired : Nat) → Bytes
  | 0 => []
  | 1 => [(pictureID &&& 0x7f).toUInt8]
  | count + 2 =>
    (0x80 ||| (pictureID >>> UInt64.ofNat ((count + 1) * 7)).toUInt8) ::
      pictureIDBytes pictureID (count + 1)

def rpsiSize (bytesRequired : Nat) : UInt8 :=
  if bytesRequired > 6 then 5 else if bytesRequired > 2 then 4 else 3

def rpsiPaddingBytes (bytesRequired : Nat) : Nat :=
  if 4 - (2 + bytesRequired) % 4 = 4 then 0 else 4 - (2 + bytesRequired) % 4

/-- There is no result when the loop does not end. -/
def buildRPSI (pictureID : UInt64) (payloadType : UInt8) (sender : RTCPSender)
    (buffer : RtcpBuffer) : Option Built :=
  if buffer.full 24 then some { value := -2, sender, buffer }
  else do
    let count ← bytesRequired pictureID
    let paddingBytes := rpsiPaddingBytes count
    pure (writeBlock 24
      ([0x80 + 3, 206, 0, rpsiSize count] ++ uint32Bytes sender.ssrc ++
        uint32Bytes sender.remoteSSRC ++ [UInt8.ofNat (paddingBytes * 8), payloadType] ++
        pictureIDBytes pictureID count ++ List.replicate paddingBytes 0) none
      sender sender buffer)

/-- The loop for an exponent: the first one with which the largest mantissa reaches the bit
rate, or zero. -/
def exponentFor (bitRate largestMantissa : UInt32) : UInt32 :=
  (((List.range 64).map UInt32.ofNat).find? fun exponent =>
    bitRate ≤ largestMantissa <<< exponent).getD 0

def rembIdentifier : Bytes := [0x52, 0x45, 0x4D, 0x42]

def buildREMB : Built :=
  let lengthRembSSRC := sender.rembSSRC.val.length
  let brExp := exponentFor sender.rembBitrate 262143
  let brMantissa := sender.rembBitrate >>> brExp
  writeBlock (20 + 4 * lengthRembSSRC)
    ([0x80 + 15, 206, 0, UInt8.ofNat lengthRembSSRC + 4] ++ uint32Bytes sender.ssrc ++
      uint32Bytes 0 ++ rembIdentifier ++
      [UInt8.ofNat lengthRembSSRC, ((brExp <<< 2) + ((brMantissa >>> 16) &&& 0x03)).toUInt8,
        (brMantissa >>> 8).toUInt8, brMantissa.toUInt8] ++
      sender.rembSSRC.val.flatMap uint32Bytes) none
    sender sender buffer

/-- `TMMBRHelp::IsOwner` of the bounding set that was found. -/
def isOwner (ssrc : UInt32) (found : UInt32 × List SetElement) : Bool :=
  (found.2.take found.1.toNat).any fun element => element.ssrc = ssrc

/-- The bit rate and the overhead of an entry. -/
def tmmbrBytes (tmmbr packetOH : UInt32) : Bytes :=
  let bitRate := tmmbr * 1000
  let mmbrExp := exponentFor bitRate 131071
  let mmbrMantissa := bitRate >>> mmbrExp
  [((mmbrExp <<< 2) + ((mmbrMantissa >>> 15) &&& 0x03)).toUInt8, (mmbrMantissa >>> 7).toUInt8,
    ((mmbrMantissa <<< 1) + ((packetOH >>> 8) &&& 0x01)).toUInt8, packetOH.toUInt8]

/-- The own entry is sent unless the bounding set has it already or would not take it. -/
def sendsTMMBR (world : SenderWorld) (boundingSet : ReceivedBoundingSet) (sender : RTCPSender) :
    Bool :=
  let own : SetElement :=
    { tmmbr := sender.tmmbrSend, packetOH := sender.packetOHSend, ssrc := sender.ssrc }
  if boundingSet.entries = [] then true
  else if boundingSet.entries.any fun element =>
      element.tmmbr = sender.tmmbrSend ∧ element.packetOH = sender.packetOHSend then false
  else boundingSet.tmmbrOwner ||
    isOwner sender.ssrc (world.findTMMBRBoundingSet (boundingSet.entries ++ [own]))

def buildTMMBR (world : SenderWorld) (module : Option (Option ReceivedBoundingSet))
    (sender : RTCPSender) (buffer : RtcpBuffer) : Built :=
  match module with
  | none => { value := -1, sender, buffer }
  | some received =>
    if received.all (sender.sendsTMMBR world) ∧ sender.tmmbrSend ≠ 0 then
      writeBlock 20
        ([0x80 + 3, 205, 0, 4] ++ uint32Bytes sender.ssrc ++ [0, 0, 0, 0] ++
          uint32Bytes sender.remoteSSRC ++ tmmbrBytes sender.tmmbrSend sender.packetOHSend) none
        sender sender buffer
    else { value := 0, sender, buffer }

def tmmbnEntries (sender : RTCPSender) : List SetElement :=
  sender.boundingSetToSend.entries.filter fun element => element.tmmbr > 0

def buildTMMBN : Built :=
  let entries := sender.tmmbnEntries
  writeBlock (12 + sender.boundingSetToSend.entries.length * 8)
    ([0x80 + 4, 205] ++ uint16Bytes (UInt16.ofNat (2 + 2 * entries.length)) ++
      uint32Bytes sender.ssrc ++ [0, 0, 0, 0] ++
      entries.flatMap fun element =>
        uint32Bytes element.ssrc ++ tmmbrBytes element.tmmbr element.packetOH) none
    sender sender buffer

def buildAPP : Built :=
  match sender.appData with
  | none => { value := -1, sender, buffer }
  | some appData =>
    writeBlock (12 + appData.data.length)
      ([0x80 + sender.appSubType, 204] ++
        uint16Bytes ((UInt16.ofNat appData.data.length >>> 2) + 2) ++
        uint32Bytes sender.ssrc ++ uint32Bytes sender.appName ++ appData.data) none
      sender sender buffer

/-- The bit mask of the sequence numbers that follow within sixteen of the first, and the
rest of the list. -/
def nackBitmask (nack : UInt16) : List UInt16 → UInt16 × List UInt16
  | [] => (0, [])
  | next :: rest =>
    -- The difference minus one is negative for the sequence number itself.
    let shift : Int := (next - nack).toNat - 1
    if 0 ≤ shift ∧ shift ≤ 15 then
      let (bitmask, left) := nackBitmask nack rest
      ((1 <<< UInt16.ofInt shift) ||| bitmask, left)
    else (0, next :: rest)

/-- The fields of the list, up to a number of fields, and what is left of the list. -/
def nackFields : (maxNackFields : Nat) → List UInt16 → List (UInt16 × UInt16) × List UInt16
  | 0, list => ([], list)
  | _ + 1, [] => ([], [])
  | count + 1, nack :: rest =>
    let (bitmask, left) := nackBitmask nack rest
    let (fields, unwritten) := nackFields count left
    ((nack, bitmask) :: fields, unwritten)

def maxNackFields (position : Nat) : Nat :=
  min kRtcpMaxNackFields ((IP_PACKET_SIZE - (position + 12)) / 4)

def buildNACK (nackList : List UInt16) (sender : RTCPSender) (buffer : RtcpBuffer) : Built :=
  let fields := (nackFields (maxNackFields buffer.position) nackList).1
  writeBlock 16
    ([0x80 + 1, 205, 0, UInt8.ofNat (2 + fields.length)] ++ uint32Bytes sender.ssrc ++
      uint32Bytes sender.remoteSSRC ++
      fields.flatMap fun field => uint16Bytes field.1 ++ uint16Bytes field.2) none
    sender sender buffer

/-- The check covers the own source only. -/
def buildBYE : Built :=
  if sender.includeCSRCs then
    let csrcs := UInt8.ofNat sender.csrcs.val.length
    writeBlock 8
      ([0x80 + 1 + csrcs, 203, 0, 1 + csrcs] ++ uint32Bytes sender.ssrc ++
        sender.csrcs.val.flatMap uint32Bytes) (some (1 + sender.csrcs.val.length))
      sender sender buffer
  else
    writeBlock 8 ([0x80 + 1, 203, 0, 1] ++ uint32Bytes sender.ssrc) (some 1) sender sender buffer

def rememberXrRr (world : SenderWorld) (time : NtpTime) (sender : RTCPSender) : RTCPSender :=
  let kept := if RTCP_NUMBER_OF_SR ≤ sender.lastXrRr.length then sender.lastXrRr.drop 1
    else sender.lastXrRr
  -- The insertion keeps the value of a key that is there already.
  { sender with
    lastXrRr := if kept.any (·.1 = midNtp time) then kept
      else SortedMap.insert (midNtp time) (world.ntpToMs time) kept }

def buildReceiverReferenceTime (world : SenderWorld) (time : NtpTime) (sender : RTCPSender)
    (buffer : RtcpBuffer) : Built :=
  writeBlock 20
    ([0x80, 207, 0, 4] ++ uint32Bytes sender.ssrc ++ [4, 0, 0, 2] ++
      uint32Bytes time.seconds ++ uint32Bytes time.fractions) none
    sender (sender.rememberXrRr world time) buffer

def buildDlrr (info : RtcpReceiveTimeInfo) (sender : RTCPSender) (buffer : RtcpBuffer) : Built :=
  writeBlock 24
    ([0x80, 207, 0, 5] ++ uint32Bytes sender.ssrc ++ [5, 0, 0, 3] ++
      uint32Bytes info.sourceSSRC ++ uint32Bytes info.lastRR ++
      uint32Bytes info.delaySinceLastRR) none
    sender sender buffer

def voIPMetricBytes (metric : RTCPVoIPMetric) : Bytes :=
  [metric.lossRate, metric.discardRate, metric.burstDensity, metric.gapDensity] ++
    uint16Bytes metric.burstDuration ++ uint16Bytes metric.gapDuration ++
    uint16Bytes metric.roundTripDelay ++ uint16Bytes metric.endSystemDelay ++
    [metric.signalLevel, metric.noiseLevel, metric.rerl, metric.gmin, metric.rFactor,
      metric.extRfactor, metric.moslq, metric.moscq, metric.rxConfig, 0] ++
    uint16Bytes metric.jbNominal ++ uint16Bytes metric.jbMax ++ uint16Bytes metric.jbAbsMax

def buildVoIPMetric : Built :=
  writeBlock 44
    ([0x80, 207, 0, 10] ++ uint32Bytes sender.ssrc ++ [7, 0, 0, 8] ++
      uint32Bytes sender.remoteSSRC ++ voIPMetricBytes sender.xrVoIPMetric) none
    sender sender buffer

end ZyWebRtc.Rtcp.RTCPSender
