import ZyWebRtc.Rtp.HeaderParser
import ZyWebRtc.Rtp.PayloadParser

namespace ZyWebRtc.Rtp

/-! `RtpReceiverImpl::IncomingRtpPacket` and the media receivers behind it. What
they hand on, to the depacketizer and to the data callback, is the result beside
the state. The feedback about sources is left out: nothing here reads it. -/

structure AudioPayload where
  frequency : UInt32
  channels : UInt8
  rate : UInt32
  deriving DecidableEq, Repr

structure VideoPayload where
  videoCodecType : RtpVideoCodecTypes
  maxRate : UInt32
  deriving DecidableEq, Repr

/-- A union in the source: each media receiver looks at its own part. -/
structure PayloadUnion where
  audio : AudioPayload
  video : VideoPayload
  deriving DecidableEq, Repr

structure Payload where
  audio : Bool
  typeSpecific : PayloadUnion
  deriving DecidableEq, Repr

structure RTPPayloadRegistry where
  payloadTypeMap : List (Int8 × Payload)
  redPayloadType : Int8
  lastReceivedPayloadType : Int8
  lastReceivedMediaPayloadType : Int8

def RTPPayloadRegistry.payloadTypeToPayload (registry : RTPPayloadRegistry) (payloadType : Int8) :
    Option Payload :=
  registry.payloadTypeMap.lookup payloadType

def RTPPayloadRegistry.reportMediaPayloadType (registry : RTPPayloadRegistry)
    (mediaPayloadType : Int8) : Bool × RTPPayloadRegistry :=
  if registry.lastReceivedMediaPayloadType = mediaPayloadType then (true, registry)
  else (false, { registry with lastReceivedMediaPayloadType := mediaPayloadType })

/-! ## What is handed on -/

inductive FrameType
  | frameEmpty
  | audioFrameSpeech
  | audioFrameCN
  | videoFrameKey
  | videoFrameDelta
  deriving DecidableEq, Repr

structure RTPVideoHeaderVP8 where
  nonReference : Bool
  pictureId : Int
  tl0PicIdx : Int
  temporalIdx : Int
  layerSync : Bool
  keyIdx : Int
  partitionId : Int
  beginningOfPartition : Bool
  deriving DecidableEq, Repr

structure RTPVideoHeader where
  width : UInt16
  height : UInt16
  isFirstPacket : Bool
  codec : RtpVideoCodecTypes
  codecHeader : RTPVideoHeaderVP8
  deriving DecidableEq, Repr

structure RTPAudioHeader where
  isCNG : Bool
  channel : UInt8
  deriving DecidableEq, Repr

/-- The two type-specific headers share their memory in the source; each media
receiver writes one of them. -/
structure WebRtcRTPHeader where
  header : RTPHeader
  frameType : FrameType
  video : RTPVideoHeader
  audio : RTPAudioHeader
  deriving DecidableEq, Repr

/-- All bytes cleared, but for the header of the packet. -/
def WebRtcRTPHeader.initial (header : RTPHeader) : WebRtcRTPHeader where
  header
  frameType := .frameEmpty
  video := {
    width := 0
    height := 0
    isFirstPacket := false
    codec := .none
    codecHeader := {
      nonReference := false
      pictureId := 0
      tl0PicIdx := 0
      temporalIdx := 0
      layerSync := false
      keyIdx := 0
      partitionId := 0
      beginningOfPartition := false } }
  audio := {
    isCNG := false
    channel := 0 }

/-- A length that leaves the receiver: to the depacketizer of a codec, or to
`OnReceivedPayloadData` with the offset of the data in the payload. -/
inductive HandedOn
  | depacketizer (payloadDataLength : UInt16)
  | dataCallback (payloadData : Option Nat) (payloadSize : UInt16) (rtpHeader : WebRtcRTPHeader)
  deriving DecidableEq, Repr

def HandedOn.length : HandedOn → UInt16
  | .depacketizer payloadDataLength => payloadDataLength
  | .dataCallback _ payloadSize _ => payloadSize

/-- The callbacks' results, and the clock. -/
structure ReceiverEnvironment where
  onReceivedPayloadData : Option Nat → UInt16 → WebRtcRTPHeader → Int32
  onInitializeDecoder : Int8 → PayloadUnion → Int32
  timeInMilliseconds : Int64

def kKeyFrameBit : UInt8 := 0x01

def kFirstPacketBit : UInt8 := 0x02

section Video

variable (env : ReceiverEnvironment) (payload : Nat → UInt8)

variable (rtpHeader : WebRtcRTPHeader)

def receiveGenericCodec (payloadDataLength : UInt16) :
    Int32 × List HandedOn :=
  let genericHeader := payload 0
  let rtpHeader := { rtpHeader with
    frameType :=
      if genericHeader &&& kKeyFrameBit ≠ 0 then .videoFrameKey else .videoFrameDelta
    video := { rtpHeader.video with isFirstPacket := genericHeader &&& kFirstPacketBit ≠ 0 } }
  let result := env.onReceivedPayloadData (some 1) (payloadDataLength - 1) rtpHeader
  (if result ≠ 0 then -1 else 0,
    [.depacketizer payloadDataLength, .dataCallback (some 1) (payloadDataLength - 1) rtpHeader])

/-- The header for the data callback, from the descriptor of the payload. -/
def vp8Header (frameType : FrameTypes) (vp8 : RTPPayloadVP8) :
    WebRtcRTPHeader :=
  { rtpHeader with
    frameType := if frameType = .iFrame then .videoFrameKey else .videoFrameDelta
    video := { rtpHeader.video with
      isFirstPacket := vp8.beginningOfPartition && vp8.partitionID = 0
      width := UInt16.ofInt vp8.frameWidth
      height := UInt16.ofInt vp8.frameHeight
      codecHeader := {
        nonReference := vp8.nonReferenceFrame
        pictureId := if vp8.hasPictureID then vp8.pictureID else -1
        tl0PicIdx := if vp8.hasTl0PicIdx then vp8.tl0PicIdx else -1
        temporalIdx := if vp8.hasTID then vp8.tID else -1
        layerSync := if vp8.hasTID then vp8.layerSync else false
        keyIdx := if vp8.hasKeyIdx then vp8.keyIdx else -1
        partitionId := vp8.partitionID
        beginningOfPartition := vp8.beginningOfPartition } } }

def receiveVp8Codec (payloadDataLength : UInt16) :
    Int32 × List HandedOn :=
  match RTPPayloadParser.parse payload .vp8 payloadDataLength with
  | none => (-1, [.depacketizer payloadDataLength])
  | some (frameType, vp8) =>
    if vp8.dataLength = 0 then (0, [.depacketizer payloadDataLength])
    else
      let rtpHeader := vp8Header rtpHeader frameType vp8
      let result := env.onReceivedPayloadData (some vp8.data) vp8.dataLength rtpHeader
      (if result ≠ 0 then -1 else 0,
        [.depacketizer payloadDataLength, .dataCallback (some vp8.data) vp8.dataLength rtpHeader])

def parseVideoCodecSpecific (payloadDataLength : UInt16)
    (isFirstPacket : Bool) : Int32 × List HandedOn :=
  match rtpHeader.video.codec with
  | .generic =>
    receiveGenericCodec env payload
      { rtpHeader with video := { rtpHeader.video with isFirstPacket } } payloadDataLength
  | .vp8 => receiveVp8Codec env payload rtpHeader payloadDataLength
  | .none => (-1, [])

/-- `RTPReceiverVideo::ParseRtpPacket`. The padding is taken off in 16 bits. -/
def parseRtpPacketVideo (specificPayload : PayloadUnion)
    (payloadLength : UInt16) (isFirstPacket : Bool) : Int32 × List HandedOn :=
  let rtpHeader := { rtpHeader with
    video := { rtpHeader.video with codec := specificPayload.video.videoCodecType } }
  let payloadDataLength := payloadLength - rtpHeader.header.paddingLength.toUInt16
  if payloadDataLength = 0 then
    let result := env.onReceivedPayloadData none 0 rtpHeader
    (if result = 0 then 0 else -1, [.dataCallback none 0 rtpHeader])
  else parseVideoCodecSpecific env payload rtpHeader payloadDataLength isFirstPacket

end Video

/-! ## Audio -/

structure RTPReceiverAudio where
  lastReceivedFrequency : UInt32
  telephoneEventForwardToDecoder : Bool
  telephoneEventPayloadType : Int8
  /-- A set in the source. -/
  telephoneEventReported : List UInt8
  cngNbPayloadType : Int8
  cngWbPayloadType : Int8
  cngSwbPayloadType : Int8
  cngFbPayloadType : Int8
  cngPayloadType : Int8
  g722PayloadType : Int8
  lastReceivedG722 : Bool

def maxNumberOfParallelTelephoneEvents : UInt8 := 10

namespace RTPReceiverAudio

def isTelephoneEvent (audio : RTPReceiverAudio) (payloadType : Int8) : Bool :=
  audio.telephoneEventPayloadType = payloadType

/-- The branch of `CNGPayloadType` for one of the comfort noise types: its
frequency, and whether it is another one than before. -/
def comfortNoise (audio : RTPReceiverAudio) (cngType : Int8) (frequency : UInt32) :
    Option (UInt32 × Bool) × RTPReceiverAudio :=
  (some (frequency, audio.cngPayloadType ≠ -1 && audio.cngPayloadType ≠ cngType),
    { audio with cngPayloadType := cngType })

def checkCNGPayloadType (audio : RTPReceiverAudio) (payloadType : Int8) :
    Option (UInt32 × Bool) × RTPReceiverAudio :=
  if audio.cngNbPayloadType = payloadType then audio.comfortNoise audio.cngNbPayloadType 8000
  else if audio.cngWbPayloadType = payloadType then
    audio.comfortNoise audio.cngWbPayloadType (if audio.lastReceivedG722 then 8000 else 16000)
  else if audio.cngSwbPayloadType = payloadType then
    audio.comfortNoise audio.cngSwbPayloadType 32000
  else if audio.cngFbPayloadType = payloadType then
    audio.comfortNoise audio.cngFbPayloadType 48000
  else (none, { audio with lastReceivedG722 := audio.g722PayloadType = payloadType })

def reportTelephoneEvent (reported : List UInt8) (event flags : UInt8) : List UInt8 :=
  if event ∈ reported then
    if flags &&& 0x80 ≠ 0 then reported.filter (· ≠ event) else reported
  else if flags &&& 0x80 ≠ 0 then reported else event :: reported

def reportTelephoneEvents (payload : Nat → UInt8) : (numberOfEvents : Nat) → List UInt8 → List UInt8
  | 0, reported => reported
  | count + 1, reported =>
    let reported := reportTelephoneEvents payload count reported
    reportTelephoneEvent reported (payload (4 * count)) (payload (4 * count + 1))

variable (env : ReceiverEnvironment) (payload : Nat → UInt8)

/-- The last part of `ParseAudioCodecSpecific`: a RED packet with one frame loses
its header. -/
def forwardAudio (rtpHeader : WebRtcRTPHeader) (payloadLength : UInt16)
    (audioSpecific : AudioPayload) (isRed : Bool) : Int32 × List HandedOn :=
  if isRed ∧ payload 0 &&& 0x80 = 0 then
    let rtpHeader := { rtpHeader with
      header := { rtpHeader.header with payloadType := payload 0 } }
    (env.onReceivedPayloadData (some 1) (payloadLength - 1) rtpHeader,
      [.dataCallback (some 1) (payloadLength - 1) rtpHeader])
  else
    let rtpHeader := { rtpHeader with
      audio := { rtpHeader.audio with channel := audioSpecific.channels } }
    (env.onReceivedPayloadData (some 0) payloadLength rtpHeader,
      [.dataCallback (some 0) payloadLength rtpHeader])

def parseAudioCodecSpecific (audio : RTPReceiverAudio) (rtpHeader : WebRtcRTPHeader)
    (payloadLength : UInt16) (audioSpecific : AudioPayload) (isRed : Bool) :
    Int32 × List HandedOn × RTPReceiverAudio :=
  if payloadLength = 0 then (0, [], audio)
  else
    let payloadType := rtpHeader.header.payloadType.toInt8
    let telephoneEvent := audio.isTelephoneEvent payloadType
    if telephoneEvent ∧ payloadLength % 4 ≠ 0 then (-1, [], audio)
    else
      let numberOfEvents := min (payloadLength / 4).toUInt8 maxNumberOfParallelTelephoneEvents
      let audio := if telephoneEvent then
          { audio with telephoneEventReported :=
              reportTelephoneEvents payload numberOfEvents.toNat audio.telephoneEventReported }
        else { audio with lastReceivedFrequency := audioSpecific.frequency }
      let (comfortNoise, audio) := audio.checkCNGPayloadType payloadType
      let rtpHeader := { rtpHeader with
        audio := { rtpHeader.audio with isCNG := comfortNoise.isSome }
        frameType := if comfortNoise.isSome then .audioFrameCN else .audioFrameSpeech }
      if telephoneEvent ∧ (¬ audio.telephoneEventForwardToDecoder ∨
          ∃ first ∈ audio.telephoneEventReported.min?, 15 < first) then (0, [], audio)
      else
        let (result, handedOn) := forwardAudio env payload rtpHeader payloadLength audioSpecific isRed
        (result, handedOn, audio)

end RTPReceiverAudio

/-! ## The receiver -/

inductive MediaReceiver
  | video
  | audio (state : RTPReceiverAudio)

structure RtpReceiverImpl where
  rtpPayloadRegistry : RTPPayloadRegistry
  rtpMediaReceiver : MediaReceiver
  /-- Kept by the media receivers' common strategy. -/
  lastPayload : PayloadUnion
  ssrc : UInt32
  lastReceivedTimestamp : UInt32
  lastReceivedSequenceNumber : UInt16
  lastReceiveTime : Int64
  lastReceivedFrameTimeMs : Int64
  lastReceivedPayloadLength : UInt16

/-- `CheckPayloadChanged` of the media receivers: whether the changes are to be
discarded, and the payload with the frequency of comfort noise. -/
def MediaReceiver.checkPayloadChanged (media : MediaReceiver) (payloadType : Int8)
    (specificPayload : PayloadUnion) : Bool × PayloadUnion × MediaReceiver :=
  match media with
  | .video => (false, specificPayload, .video)
  | .audio state =>
    if state.isTelephoneEvent payloadType then (true, specificPayload, .audio state)
    else
      match state.checkCNGPayloadType payloadType with
      | (some (frequency, _), state) =>
        (true, { specificPayload with
          audio := { specificPayload.audio with frequency } }, .audio state)
      | (none, state) => (false, specificPayload, .audio state)

def MediaReceiver.parseRtpPacket (media : MediaReceiver) (env : ReceiverEnvironment)
    (payload : Nat → UInt8) (rtpHeader : WebRtcRTPHeader) (specificPayload : PayloadUnion)
    (isRed : Bool) (payloadLength : UInt16) (isFirstPacket : Bool) :
    Int32 × List HandedOn × MediaReceiver :=
  match media with
  | .video =>
    let (result, handedOn) :=
      parseRtpPacketVideo env payload rtpHeader specificPayload payloadLength isFirstPacket
    (result, handedOn, .video)
  | .audio state =>
    let (result, handedOn, state) :=
      state.parseAudioCodecSpecific env payload rtpHeader payloadLength specificPayload.audio isRed
    (result, handedOn, .audio state)

namespace RtpReceiverImpl

variable (env : ReceiverEnvironment)

variable (receiver : RtpReceiverImpl) (rtpHeader : RTPHeader)

def checkSSRCChanged : RtpReceiverImpl :=
  let lastReceivedPayloadType := receiver.rtpPayloadRegistry.lastReceivedPayloadType
  if receiver.ssrc ≠ rtpHeader.ssrc ∨ (lastReceivedPayloadType = -1 ∧ receiver.ssrc = 0) then
    let restarted := { receiver with
      lastReceivedTimestamp := 0
      lastReceivedSequenceNumber := 0
      lastReceivedFrameTimeMs := 0 }
    let payloadType := rtpHeader.payloadType.toInt8
    -- The same codec as before is looked up, and the source is kept without it.
    if receiver.ssrc ≠ 0 ∧ payloadType = lastReceivedPayloadType ∧
        receiver.rtpPayloadRegistry.payloadTypeToPayload payloadType = none then restarted
    else { restarted with ssrc := rtpHeader.ssrc }
  else receiver

/-- A payload type that is not the last one: looked up, stored, and announced to
the decoder. -/
def adoptPayloadType (receiver : RtpReceiverImpl) (payloadType : Int8) (isRed : Bool)
    (specificPayload : PayloadUnion) : Option (Bool × PayloadUnion) × RtpReceiverImpl :=
  let (shouldDiscardChanges, specificPayload, media) :=
    receiver.rtpMediaReceiver.checkPayloadChanged payloadType specificPayload
  let receiver := { receiver with rtpMediaReceiver := media }
  if shouldDiscardChanges then (some (false, specificPayload), receiver)
  else
    match receiver.rtpPayloadRegistry.payloadTypeToPayload payloadType with
    | none => (none, receiver)
    | some payload =>
      let registry :=
        { receiver.rtpPayloadRegistry with lastReceivedPayloadType := payloadType }
      let (mediaTypeUnchanged, registry) :=
        if payload.audio then (false, registry) else registry.reportMediaPayloadType payloadType
      let receiver := { receiver with
        rtpPayloadRegistry := registry
        lastPayload := payload.typeSpecific }
      if ¬ mediaTypeUnchanged ∧ env.onInitializeDecoder payloadType payload.typeSpecific = -1 then
        (none, receiver)
      else (some (isRed, payload.typeSpecific), receiver)

/-- Without a value the packet has a wrong payload type; otherwise whether it is a
RED packet, and the payload that its type stands for. -/
def checkPayloadChanged (firstPayloadByte : UInt8) (specificPayload : PayloadUnion) :
    Option (Bool × PayloadUnion) × RtpReceiverImpl :=
  let payloadType := rtpHeader.payloadType.toInt8
  let lastReceivedPayloadType := receiver.rtpPayloadRegistry.lastReceivedPayloadType
  if payloadType = lastReceivedPayloadType then (some (false, receiver.lastPayload), receiver)
  else if receiver.rtpPayloadRegistry.redPayloadType = payloadType then
    let payloadType := (firstPayloadByte &&& 0x7f).toInt8
    if receiver.rtpPayloadRegistry.redPayloadType = payloadType then (none, receiver)
    else if payloadType = lastReceivedPayloadType then
      (some (true, receiver.lastPayload), receiver)
    else receiver.adoptPayloadType env payloadType true specificPayload
  else receiver.adoptPayloadType env payloadType false specificPayload

/-- Whether the packet is the first one, or the first one of a frame. -/
def isFirstPacket : Bool :=
  receiver.lastReceivedSequenceNumber.toNat + 1 = rtpHeader.sequenceNumber.toNat ∧
      receiver.lastReceivedTimestamp ≠ rtpHeader.timestamp ∨
    receiver.lastReceiveTime = 0

/-- The last part of `IncomingRtpPacket`. -/
def noteReceived (payloadDataLength : UInt16)
    (inOrder : Bool) : RtpReceiverImpl :=
  let receiver := { receiver with
    lastReceiveTime := env.timeInMilliseconds
    lastReceivedPayloadLength := payloadDataLength }
  if inOrder then
    let receiver :=
      if receiver.lastReceivedTimestamp ≠ rtpHeader.timestamp then
        { receiver with
          lastReceivedTimestamp := rtpHeader.timestamp
          lastReceivedFrameTimeMs := env.timeInMilliseconds }
      else receiver
    { receiver with lastReceivedSequenceNumber := rtpHeader.sequenceNumber }
  else receiver

/-- The returned flag, what is handed on, and the state. -/
def incomingRtpPacket (payload : Nat → UInt8) (payloadLength : Int) (payloadSpecific : PayloadUnion)
    (inOrder : Bool) : Bool × List HandedOn × RtpReceiverImpl :=
  if payloadLength < 0 then (false, [], receiver)
  else
    let firstPayloadByte := if 0 < payloadLength then payload 0 else 0
    let receiver := receiver.checkSSRCChanged rtpHeader
    match receiver.checkPayloadChanged env rtpHeader firstPayloadByte payloadSpecific with
    | (none, receiver) => (payloadLength = 0, [], receiver)
    | (some (isRed, payloadSpecific), receiver) =>
      let payloadDataLength := UInt16.ofInt (payloadLength - rtpHeader.paddingLength.toNat)
      let (result, handedOn, media) := receiver.rtpMediaReceiver.parseRtpPacket env payload
        (.initial rtpHeader) payloadSpecific isRed (UInt16.ofInt payloadLength)
        (receiver.isFirstPacket rtpHeader)
      let receiver := { receiver with rtpMediaReceiver := media }
      if result < 0 then (false, handedOn, receiver)
      else (true, handedOn, receiver.noteReceived env rtpHeader payloadDataLength inOrder)

end RtpReceiverImpl

end ZyWebRtc.Rtp
