import ZyWebRtc.Rtcp.Packet

namespace ZyWebRtc.Rtcp

/-! `RTCPParserV2`: the blocks of a compound packet and their items, one for each
call of `Iterate`. Pointers are offsets from the first byte of the packet. -/

inductive ParseState
  | topLevel
  | reportBlockItem
  | sdesChunk
  | byeItem
  | extendedJitterItem
  | rtpfbNackItem
  | rtpfbTmmbrItem
  | rtpfbTmmbnItem
  | psfbSliItem
  | psfbRpsiItem
  | psfbFirItem
  | psfbAppItem
  | psfbRembItem
  | xrItem
  | xrDlrrItem
  | appItem
  deriving DecidableEq

/-- The members that change. Before the first block `blockEnd` is the null
pointer, which no function compares with another pointer; here it is zero. -/
structure RTCPParserV2 where
  validPacket : Bool
  ptr : Nat
  blockEnd : Nat
  state : ParseState
  numberOfBlocks : UInt8
  packetType : RTCPPacketTypes
  packet : RTCPPacket

/-- Every `Parse` function returns a flag. It has no value when it reads outside
the packet, or when a loop does not end within the fuel it is given. -/
abbrev Outcome := Option (Bool × RTCPParserV2)

namespace RTCPParserV2

def endCurrentBlock (parser : RTCPParserV2) : RTCPParserV2 :=
  { parser with ptr := parser.blockEnd }

def leaveBlock (parser : RTCPParserV2) : RTCPParserV2 :=
  { parser with state := .topLevel, ptr := parser.blockEnd }

/-- The bytes left in the current block. -/
def length (parser : RTCPParserV2) : Nat := parser.blockEnd - parser.ptr

variable (data : Bytes)

section

variable (parser : RTCPParserV2)

def parseRR : Outcome :=
  if parser.length < 8 then some (false, parser)
  else do
    let senderSSRC ← data.uint32At (parser.ptr + 4)
    pure (true, { parser with
      ptr := parser.ptr + 8
      packetType := .kRtcpRrCode
      packet := .rr { senderSSRC, numberOfReportBlocks := parser.numberOfBlocks }
      state := .reportBlockItem })

def parseSR : Outcome :=
  if parser.length < 28 then some (false, parser.endCurrentBlock)
  else do
    let senderSSRC ← data.uint32At (parser.ptr + 4)
    let ntpMostSignificant ← data.uint32At (parser.ptr + 8)
    let ntpLeastSignificant ← data.uint32At (parser.ptr + 12)
    let rtpTimestamp ← data.uint32At (parser.ptr + 16)
    let senderPacketCount ← data.uint32At (parser.ptr + 20)
    let senderOctetCount ← data.uint32At (parser.ptr + 24)
    let next := { parser with
      ptr := parser.ptr + 28
      packetType := .kRtcpSrCode
      packet := .sr {
        senderSSRC
        numberOfReportBlocks := parser.numberOfBlocks
        ntpMostSignificant
        ntpLeastSignificant
        rtpTimestamp
        senderPacketCount
        senderOctetCount } }
    if parser.numberOfBlocks ≠ 0 then pure (true, { next with state := .reportBlockItem })
    else pure (true, next.leaveBlock)

def parseReportBlockItem : Outcome :=
  if parser.length < 24 ∨ parser.numberOfBlocks = 0 then some (false, parser.leaveBlock)
  else do
    let ssrc ← data.uint32At parser.ptr
    let fractionLost ← data.byteAt (parser.ptr + 4)
    let cumulativeNumOfPacketsLost ← data.uint24At (parser.ptr + 5)
    let extendedHighestSequenceNumber ← data.uint32At (parser.ptr + 8)
    let jitter ← data.uint32At (parser.ptr + 12)
    let lastSR ← data.uint32At (parser.ptr + 16)
    let delayLastSR ← data.uint32At (parser.ptr + 20)
    pure (true, { parser with
      ptr := parser.ptr + 24
      numberOfBlocks := parser.numberOfBlocks - 1
      packetType := .kRtcpReportBlockItemCode
      packet := .reportBlockItem {
        ssrc
        fractionLost
        cumulativeNumOfPacketsLost
        extendedHighestSequenceNumber
        jitter
        lastSR
        delayLastSR } })

def parseIJ : Outcome :=
  if parser.length < 4 then some (false, parser)
  else some (true, { parser with
    ptr := parser.ptr + 4
    packetType := .kRtcpExtendedIjCode
    state := .extendedJitterItem })

def parseIJItem : Outcome :=
  if parser.length < 4 ∨ parser.numberOfBlocks = 0 then some (false, parser.leaveBlock)
  else do
    let jitter ← data.uint32At parser.ptr
    pure (true, { parser with
      ptr := parser.ptr + 4
      numberOfBlocks := parser.numberOfBlocks - 1
      packetType := .kRtcpExtendedIjItemCode
      packet := .extendedJitterReportItem jitter })

/-! ## Source descriptions -/

def parseSDES : Outcome :=
  if parser.length < 8 then some (false, parser.leaveBlock)
  else some (true, { parser with
    ptr := parser.ptr + 4
    state := .sdesChunk
    packetType := .kRtcpSdesCode })

def isLegalCNameChar (c : UInt8) : Bool :=
  !(c < 0x20 || 0x7B < c || c == 0x25 || c == 0x5C)

/-- Copy a name up to its first illegal character, and whether there is none. -/
def copyCName : (count offset : Nat) → Option (Bool × Bytes)
  | 0, _ => some (true, [])
  | count + 1, offset => do
    let c ← data.byteAt offset
    if isLegalCNameChar c then
      let (legal, name) ← copyCName count (offset + 1)
      pure (legal, c :: name)
    else pure (false, [])

def skipToAlignment (itemOctetsRead : Nat) (parser : RTCPParserV2) : RTCPParserV2 :=
  { parser with ptr := parser.ptr + (4 - itemOctetsRead % 4) % 4 }

/-- The loop over the items of a chunk. It takes an octet each time, so the
length of the block is enough fuel. -/
def parseSDESItemLoop : (fuel itemOctetsRead : Nat) → (foundCName : Bool) → RTCPParserV2 → Outcome
  | 0, _, _, _ => none
  | fuel + 1, itemOctetsRead, foundCName, parser =>
    if parser.ptr < parser.blockEnd then do
      let tag ← data.byteAt parser.ptr
      if tag = 0 then
        pure (foundCName,
          skipToAlignment (itemOctetsRead + 1) { parser with ptr := parser.ptr + 1 })
      else if parser.ptr + 1 < parser.blockEnd then do
        let len ← data.byteAt (parser.ptr + 1)
        let item := { parser with ptr := parser.ptr + 2 }
        if tag = 1 then
          if parser.blockEnd ≤ item.ptr + len.toNat then pure (false, item.leaveBlock)
          else do
            let (legal, name) ← copyCName data len.toNat item.ptr
            let named := { item with
              packet := .cName { item.packet.cNameMember with cName := name } }
            if legal then
              parseSDESItemLoop fuel (itemOctetsRead + 2 + len.toNat) true
                { named with
                  ptr := item.ptr + len.toNat
                  packetType := .kRtcpSdesChunkCode }
            else pure (false, named.leaveBlock)
        else
          parseSDESItemLoop fuel (itemOctetsRead + 2 + len.toNat) foundCName
            { item with ptr := item.ptr + len.toNat }
      else pure (false, parser.leaveBlock)
    else some (false, parser.leaveBlock)

def parseSDESItem : Outcome :=
  parseSDESItemLoop data (parser.length + 1) 0 false parser

/-- The loop over the chunks, up to one with a canonical name. -/
def parseSDESChunkLoop : (fuel : Nat) → RTCPParserV2 → Outcome
  | 0, _ => none
  | fuel + 1, parser =>
    if parser.ptr < parser.blockEnd then
      if parser.length < 4 then some (false, parser.leaveBlock)
      else do
        let ssrc ← data.uint32At parser.ptr
        let (foundCName, chunk) ←
          parseSDESItem data { parser with ptr := parser.ptr + 4 }
        if foundCName then
          pure (true, { chunk with
            packet := .cName { chunk.packet.cNameMember with senderSSRC := ssrc } })
        else parseSDESChunkLoop fuel chunk
    else some (false, parser.leaveBlock)

def parseSDESChunk : Outcome :=
  if parser.numberOfBlocks = 0 then some (false, parser.leaveBlock)
  else parseSDESChunkLoop data (parser.length + 1)
    { parser with numberOfBlocks := parser.numberOfBlocks - 1 }

def parseBYEItem : Outcome :=
  if parser.length < 4 ∨ parser.numberOfBlocks = 0 then some (false, parser.leaveBlock)
  else do
    let senderSSRC ← data.uint32At parser.ptr
    -- The other sources of the block are skipped when they are all there.
    let skipped :=
      if 4 * parser.numberOfBlocks.toNat ≤ parser.length
      then 4 * (parser.numberOfBlocks.toNat - 1) else 0
    pure (true, { parser with
      ptr := parser.ptr + 4 + skipped
      numberOfBlocks := 0
      packetType := .kRtcpByeCode
      packet := .bye senderSSRC })

def parseBYE : Outcome :=
  parseBYEItem data { parser with ptr := parser.ptr + 4, state := .byeItem }

/-! ## Extended reports -/

def parseXR : Outcome :=
  if parser.length < 8 then some (false, parser.endCurrentBlock)
  else do
    let originatorSSRC ← data.uint32At (parser.ptr + 4)
    pure (true, { parser with
      ptr := parser.ptr + 8
      packetType := .kRtcpXrHeaderCode
      packet := .xr originatorSSRC
      state := .xrItem })

def parseXRReceiverReferenceTimeItem : Outcome :=
  if parser.length < 8 then some (false, parser.leaveBlock)
  else do
    let ntpMostSignificant ← data.uint32At parser.ptr
    let ntpLeastSignificant ← data.uint32At (parser.ptr + 4)
    pure (true, { parser with
      ptr := parser.ptr + 8
      packetType := .kRtcpXrReceiverReferenceTimeCode
      packet := .xrReceiverReferenceTimeItem { ntpMostSignificant, ntpLeastSignificant }
      state := .xrItem })

def parseXRDLRRReportBlockItem : Outcome :=
  if parser.numberOfBlocks = 0 then some (false, { parser with state := .xrItem })
  else if parser.length < 12 then some (false, parser.leaveBlock)
  else do
    let ssrc ← data.uint32At parser.ptr
    let lastRR ← data.uint32At (parser.ptr + 4)
    let delayLastRR ← data.uint32At (parser.ptr + 8)
    pure (true, { parser with
      ptr := parser.ptr + 12
      packetType := .kRtcpXrDlrrReportBlockItemCode
      packet := .xrDLRRReportBlockItem { ssrc, lastRR, delayLastRR }
      numberOfBlocks := parser.numberOfBlocks - 1
      state := .xrDlrrItem })

def parseXRVOIPMetricItem : Outcome :=
  if parser.length < 28 then some (false, parser.leaveBlock)
  else do
    let ssrc ← data.uint32At parser.ptr
    let lossRate ← data.byteAt (parser.ptr + 4)
    let discardRate ← data.byteAt (parser.ptr + 5)
    let burstDensity ← data.byteAt (parser.ptr + 6)
    let gapDensity ← data.byteAt (parser.ptr + 7)
    let burstDuration ← data.uint16At (parser.ptr + 8)
    let gapDuration ← data.uint16At (parser.ptr + 10)
    let roundTripDelay ← data.uint16At (parser.ptr + 12)
    let endSystemDelay ← data.uint16At (parser.ptr + 14)
    let signalLevel ← data.byteAt (parser.ptr + 16)
    let noiseLevel ← data.byteAt (parser.ptr + 17)
    let rerl ← data.byteAt (parser.ptr + 18)
    let gmin ← data.byteAt (parser.ptr + 19)
    let rFactor ← data.byteAt (parser.ptr + 20)
    let extRfactor ← data.byteAt (parser.ptr + 21)
    let moslq ← data.byteAt (parser.ptr + 22)
    let moscq ← data.byteAt (parser.ptr + 23)
    let rxConfig ← data.byteAt (parser.ptr + 24)
    let jbNominal ← data.uint16At (parser.ptr + 26)
    let jbMax ← data.uint16At (parser.ptr + 28)
    let jbAbsMax ← data.uint16At (parser.ptr + 30)
    pure (true, { parser with
      ptr := parser.ptr + 32
      packetType := .kRtcpXrVoipMetricCode
      packet := .xrVOIPMetricItem {
        ssrc, lossRate, discardRate, burstDensity, gapDensity, burstDuration, gapDuration,
        roundTripDelay, endSystemDelay, signalLevel, noiseLevel, rerl, gmin, rFactor,
        extRfactor, moslq, moscq, rxConfig, jbNominal, jbMax, jbAbsMax }
      state := .xrItem })

def parseXRItem : Outcome :=
  if parser.length < 4 then some (false, parser.leaveBlock)
  else do
    let blockType ← data.byteAt parser.ptr
    let _ ← data.byteAt (parser.ptr + 2)
    -- The second byte of the length replaces the first one.
    let blockLength ← data.byteAt (parser.ptr + 3)
    let item := { parser with ptr := parser.ptr + 4 }
    if blockType = 4 ∧ blockLength = 2 then parseXRReceiverReferenceTimeItem data item
    else if blockType = 5 ∧ blockLength % 3 = 0 then
      pure (true, { item with
        packetType := .kRtcpXrDlrrReportBlockCode
        state := .xrDlrrItem
        numberOfBlocks := blockLength / 3 })
    else if blockType = 7 ∧ blockLength = 8 then parseXRVOIPMetricItem data item
    else pure (false, item.leaveBlock)

/-! ## Feedback messages -/

/-- What a message of transport layer feedback begins, by its format. -/
def rtpfbMessage (ic : UInt8) (sources : FeedbackSources) (parser : RTCPParserV2) :
    Bool × RTCPParserV2 :=
  if ic = 1 then
    (true, { parser with
      packetType := .kRtcpRtpfbNackCode, packet := .nack sources, state := .rtpfbNackItem })
  else if ic = 3 then
    (true, { parser with
      packetType := .kRtcpRtpfbTmmbrCode, packet := .tmmbr sources, state := .rtpfbTmmbrItem })
  else if ic = 4 then
    (true, { parser with
      packetType := .kRtcpRtpfbTmmbnCode, packet := .tmmbn sources, state := .rtpfbTmmbnItem })
  else if ic = 5 then (true, { parser with packetType := .kRtcpRtpfbSrReqCode })
  else (false, parser.endCurrentBlock)

/-- What a message of payload specific feedback begins, by its format. -/
def psfbMessage (ic : UInt8) (sources : FeedbackSources) (parser : RTCPParserV2) :
    Bool × RTCPParserV2 :=
  if ic = 1 then (true, { parser with packetType := .kRtcpPsfbPliCode, packet := .pli sources })
  else if ic = 2 then
    (true, { parser with
      packetType := .kRtcpPsfbSliCode, packet := .sli sources, state := .psfbSliItem })
  else if ic = 3 then
    (true, { parser with
      packetType := .kRtcpPsfbRpsiCode
      packet := .rpsi { parser.packet.rpsiMember with
        senderSSRC := sources.senderSSRC, mediaSSRC := sources.mediaSSRC }
      state := .psfbRpsiItem })
  else if ic = 4 then
    (true, { parser with
      packetType := .kRtcpPsfbFirCode, packet := .fir sources, state := .psfbFirItem })
  else if ic = 15 then
    (true, { parser with
      packetType := .kRtcpPsfbAppCode, packet := .psfbApp sources, state := .psfbAppItem })
  else (false, parser.endCurrentBlock)

def ptIJ : UInt8 := 195

def ptSR : UInt8 := 200

def ptRR : UInt8 := 201

def ptSDES : UInt8 := 202

def ptBYE : UInt8 := 203

def ptAPP : UInt8 := 204

def ptRTPFB : UInt8 := 205

def ptPSFB : UInt8 := 206

def ptXR : UInt8 := 207

def parseFBCommon (header : RTCPCommonHeader) (parser : RTCPParserV2) : Outcome :=
  if parser.length < 12 then some (false, parser.endCurrentBlock)
  else do
    let senderSSRC ← data.uint32At (parser.ptr + 4)
    let mediaSSRC ← data.uint32At (parser.ptr + 8)
    let message := { parser with ptr := parser.ptr + 12 }
    if header.pt = ptRTPFB then
      pure (rtpfbMessage header.ic { senderSSRC, mediaSSRC } message)
    else if header.pt = ptPSFB then
      pure (psfbMessage header.ic { senderSSRC, mediaSSRC } message)
    else pure (false, message.endCurrentBlock)

def parseRPSIItem : Outcome :=
  if parser.length < 4 then some (false, parser.leaveBlock)
  else if 2 + RTCP_RPSI_DATA_SIZE < parser.length then some (false, parser.leaveBlock)
  else do
    let paddingBits ← data.byteAt parser.ptr
    let payloadType ← data.byteAt (parser.ptr + 1)
    let nativeBitString ← data.bytesAt (parser.ptr + 2) (parser.length - 2)
    pure (true, { parser with
      ptr := parser.ptr + 2
      packetType := .kRtcpPsfbRpsiCode
      packet := .rpsi { parser.packet.rpsiMember with
        payloadType
        nativeBitString
        numberOfValidBits :=
          UInt16.ofNat (parser.length - 2) * 8 - paddingBits.toUInt16 } })

def parseNACKItem : Outcome :=
  if parser.length < 4 then some (false, parser.leaveBlock)
  else do
    let packetID ← data.uint16At parser.ptr
    let bitMask ← data.uint16At (parser.ptr + 2)
    pure (true, { parser with
      ptr := parser.ptr + 4
      packetType := .kRtcpRtpfbNackItemCode
      packet := .nackItem { packetID, bitMask } })

/-- The characters of `REMB` are read one at a time, up to one that differs. -/
def matchesAt : (expected : Bytes) → (offset : Nat) → Option Bool
  | [], _ => some true
  | head :: rest, offset => do
    let byte ← data.byteAt offset
    if byte ≠ head then pure false else matchesAt rest (offset + 1)

def parsePsfbAppItem : Outcome :=
  if parser.length < 4 then some (false, parser.leaveBlock)
  else do
    let identified ← matchesAt data [0x52, 0x45, 0x4D, 0x42] parser.ptr
    if identified then
      pure (true, { parser with
        ptr := parser.ptr + 4, packetType := .kRtcpPsfbRembCode, state := .psfbRembItem })
    else pure (false, parser.leaveBlock)

/-- The exponent has six bits. Shifts by more than the width of a word, which the
language leaves open, are taken modulo the width. -/
def parsePsfbREMBItem : Outcome :=
  if parser.length < 4 then some (false, parser.leaveBlock)
  else do
    let numberOfSSRCs ← data.byteAt parser.ptr
    let rate ← data.uint24At (parser.ptr + 1)
    let brExp := (rate >>> 18) &&& 0x3F
    let brMantissa := rate &&& 0x3FFFF
    let item := { parser with
      ptr := parser.ptr + 4
      packet := .rembItem { bitRate := brMantissa <<< brExp, numberOfSSRCs, ssrcs := [] } }
    if item.length < 4 * numberOfSSRCs.toNat then pure (false, item.leaveBlock)
    else do
      let ssrcs ← data.uint32sAt item.ptr numberOfSSRCs.toNat
      pure (true, { item with
        ptr := item.ptr + 4 * numberOfSSRCs.toNat
        packetType := .kRtcpPsfbRembItemCode
        packet := .rembItem { bitRate := brMantissa <<< brExp, numberOfSSRCs, ssrcs } })

/-- The items of TMMBR and TMMBN have one layout: an exponent of six bits, a
mantissa of seventeen and a packet overhead of nine. -/
def parseBitRateItem (packetType : RTCPPacketTypes) (member : BitRateItem → RTCPPacket)
    (parser : RTCPParserV2) : Outcome :=
  if parser.length < 8 then some (false, parser.leaveBlock)
  else do
    let ssrc ← data.uint32At parser.ptr
    let word ← data.uint32At (parser.ptr + 4)
    let mxtbrExp := (word >>> 26) &&& 0x3F
    let mxtbrMantissa := (word >>> 9) &&& 0x1FFFF
    pure (true, { parser with
      ptr := parser.ptr + 8
      packetType
      packet := member {
        ssrc
        maxTotalMediaBitRate := (mxtbrMantissa <<< mxtbrExp) / 1000
        measuredOverhead := word &&& 0x1FF } })

def parseTMMBRItem : Outcome :=
  parseBitRateItem data .kRtcpRtpfbTmmbrItemCode .tmmbrItem parser

def parseTMMBNItem : Outcome :=
  parseBitRateItem data .kRtcpRtpfbTmmbnItemCode .tmmbnItem parser

def parseSLIItem : Outcome :=
  if parser.length < 4 then some (false, parser.leaveBlock)
  else do
    let buffer ← data.uint32At parser.ptr
    pure (true, { parser with
      ptr := parser.ptr + 4
      packetType := .kRtcpPsfbSliItemCode
      packet := .sliItem {
        firstMB := ((buffer >>> 19) &&& 0x1fff).toUInt16
        numberOfMB := ((buffer >>> 6) &&& 0x1fff).toUInt16
        pictureId := (buffer &&& 0x3f).toUInt8 } })

def parseFIRItem : Outcome :=
  if parser.length < 8 then some (false, parser.leaveBlock)
  else do
    let ssrc ← data.uint32At parser.ptr
    let commandSequenceNumber ← data.byteAt (parser.ptr + 4)
    pure (true, { parser with
      ptr := parser.ptr + 8
      packetType := .kRtcpPsfbFirItemCode
      packet := .firItem { ssrc, commandSequenceNumber } })

def parseAPP (header : RTCPCommonHeader) (parser : RTCPParserV2) : Outcome :=
  if parser.length < 12 then some (false, parser.endCurrentBlock)
  else do
    let _ ← data.uint32At (parser.ptr + 4)
    let name ← data.uint32At (parser.ptr + 8)
    pure (true, { parser with
      ptr := parser.ptr + 12
      packetType := .kRtcpAppCode
      packet := .app { parser.packet.appMember with subType := header.ic, name }
      state := .appItem })

def parseAPPItem : Outcome :=
  if parser.length < 4 then some (false, parser.leaveBlock)
  else do
    let size := min parser.length kRtcpAppCode_DATA_SIZE
    let bytes ← data.bytesAt parser.ptr size
    pure (true, { parser with
      ptr := parser.ptr + size
      packetType := .kRtcpAppItemCode
      packet := .app { parser.packet.appMember with data := bytes, size := UInt16.ofNat size } })

/-! ## Iteration -/

/-- The parser of the state's items; none for the top level. -/
def parseItem : Outcome :=
  match parser.state with
  | .topLevel => some (true, parser)
  | .reportBlockItem => parseReportBlockItem data parser
  | .sdesChunk => parseSDESChunk data parser
  | .byeItem => parseBYEItem data parser
  | .extendedJitterItem => parseIJItem data parser
  | .rtpfbNackItem => parseNACKItem data parser
  | .rtpfbTmmbrItem => parseTMMBRItem data parser
  | .rtpfbTmmbnItem => parseTMMBNItem data parser
  | .psfbSliItem => parseSLIItem data parser
  | .psfbRpsiItem => parseRPSIItem data parser
  | .psfbFirItem => parseFIRItem data parser
  | .psfbAppItem => parsePsfbAppItem data parser
  | .psfbRembItem => parsePsfbREMBItem data parser
  | .xrItem => parseXRItem data parser
  | .xrDlrrItem => parseXRDLRRReportBlockItem data parser
  | .appItem => parseAPPItem data parser

/-- The block that begins at `ptr`, by its packet type. The flag tells
`IterateTopLevel` to return; without it the loop goes on to the next block. -/
def parseBlock (header : RTCPCommonHeader) (parser : RTCPParserV2) : Outcome :=
  let counted := { parser with numberOfBlocks := header.ic }
  if header.pt = ptSR then do
    let (_, next) ← parseSR data counted
    pure (true, next)
  else if header.pt = ptRR then do
    let (_, next) ← parseRR data counted
    pure (true, next)
  else if header.pt = ptSDES then parseSDES counted
  else if header.pt = ptBYE then parseBYE data counted
  else if header.pt = ptIJ then do
    let (_, next) ← parseIJ counted
    pure (true, next)
  else if header.pt = ptRTPFB ∨ header.pt = ptPSFB then parseFBCommon data header parser
  else if header.pt = ptAPP then parseAPP data header parser
  else if header.pt = ptXR then parseXR data parser
  else some (false, parser.endCurrentBlock)

/-- The loop of `IterateTopLevel`. A block has at least four octets, so the
length of the packet is enough fuel. -/
def iterateTopLevel : (fuel : Nat) → RTCPParserV2 → Option RTCPParserV2
  | 0, _ => none
  | fuel + 1, parser => do
    match ← rtcpParseCommonHeader data parser.ptr with
    | none => pure parser
    | some header =>
      let block := { parser with blockEnd := parser.ptr + header.lengthInOctets.toNat }
      if data.length < block.blockEnd then pure block
      else do
        let (returns, next) ← parseBlock data header block
        if returns then pure next else iterateTopLevel fuel next

def resetPacketType : RTCPParserV2 :=
  { parser with packetType := .kRtcpNotValidCode }

/-- `Iterate`, which an item parser without a further item calls again. It does
so at most twice: from a DLRR block to the items of the extended report, and from
there to the top level. -/
def iterateFrom : (calls : Nat) → RTCPParserV2 → Option RTCPParserV2
  | 0, _ => none
  | calls + 1, parser =>
    if !parser.validPacket then some parser.resetPacketType
    else if parser.state = .topLevel then
      iterateTopLevel data (data.length + 1) parser.resetPacketType
    else do
      let (success, next) ← parseItem data parser.resetPacketType
      if success then pure next else iterateFrom calls next

def iterate : Option RTCPParserV2 := iterateFrom data 3 parser

end

def validate (rtcpReducedSizeEnable : Bool) : Option Bool := do
  match ← rtcpParseCommonHeader data 0 with
  | none => pure false
  | some header => pure (rtcpReducedSizeEnable || header.pt == ptSR || header.pt == ptRR)

/-- The constructor. It leaves `packet` as the memory has it. -/
def create (rtcpReducedSizeEnable : Bool) (packet : RTCPPacket) : Option RTCPParserV2 := do
  let validPacket ← validate data rtcpReducedSizeEnable
  pure {
    validPacket
    ptr := 0
    blockEnd := 0
    state := .topLevel
    numberOfBlocks := 0
    packetType := .kRtcpNotValidCode
    packet }

end RTCPParserV2

end ZyWebRtc.Rtcp
