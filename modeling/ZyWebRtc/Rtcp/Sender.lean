import ZyWebRtc.Foundation.NetworkOrder
import ZyWebRtc.Foundation.SortedMap
import ZyWebRtc.Rtcp.TmmbrSet

namespace ZyWebRtc.Rtcp

/-! The state of `RTCPSender` that its reports are made of, and the buffer they are
written to. -/

open Bytes (uint16Bytes uint24Bytes uint32Bytes)

def IP_PACKET_SIZE : Nat := 1500

def RTCP_MAX_REPORT_BLOCKS : Nat := 31

def RTCP_NUMBER_OF_SR : Nat := 60

def RTCP_CNAME_SIZE : Nat := 256

def kRtpCsrcSize : Nat := 15

def kRtcpMaxNackFields : Nat := 253

def RTCP_INTERVAL_VIDEO_MS : UInt32 := 1000

def RTCP_INTERVAL_AUDIO_MS : UInt32 := 5000

inductive RTCPMethod
  | kRtcpOff
  | kRtcpCompound
  | kRtcpNonCompound
  deriving DecidableEq

structure RTCPReportBlock where
  fractionLost : UInt8
  cumulativeLost : UInt32
  extendedHighSeqNum : UInt32
  jitter : UInt32
  lastSR : UInt32
  delaySinceLastSR : UInt32
  deriving DecidableEq

structure RTCPVoIPMetric where
  lossRate : UInt8
  discardRate : UInt8
  burstDensity : UInt8
  gapDensity : UInt8
  burstDuration : UInt16
  gapDuration : UInt16
  roundTripDelay : UInt16
  endSystemDelay : UInt16
  signalLevel : UInt8
  noiseLevel : UInt8
  rerl : UInt8
  gmin : UInt8
  rFactor : UInt8
  extRfactor : UInt8
  moslq : UInt8
  moscq : UInt8
  rxConfig : UInt8
  jbNominal : UInt16
  jbMax : UInt16
  jbAbsMax : UInt16

/-- A canonical name without its terminating zero. -/
structure CName where
  name : Bytes
  name_lt : name.length < RTCP_CNAME_SIZE

/-- What `strncpy` keeps of a string in an array of `RTCP_CNAME_SIZE` characters. -/
def CName.copy (characters : Bytes) : CName where
  name := (characters.takeWhile (· ≠ 0)).take (RTCP_CNAME_SIZE - 1)
  name_lt := Nat.lt_succ_of_le (List.length_take_le _ _)

/-- The data of an application packet, a whole number of words. -/
structure ApplicationData where
  data : Bytes
  words : data.length % 4 = 0
  length_lt : data.length < 2 ^ 16

/-- An array with one value for each of the last sender reports. -/
structure ReportHistory where
  values : List UInt32
  length_eq : values.length = RTCP_NUMBER_OF_SR

namespace ReportHistory

def zero : ReportHistory where
  values := List.replicate RTCP_NUMBER_OF_SR 0
  length_eq := List.length_replicate

/-- Shift the values and put a new one in front. -/
def push (value : UInt32) (history : ReportHistory) : ReportHistory where
  values := value :: history.values.take (RTCP_NUMBER_OF_SR - 1)
  length_eq := by simp [history.length_eq, RTCP_NUMBER_OF_SR]

def setFirst (value : UInt32) (history : ReportHistory) : ReportHistory where
  values := history.values.set 0 value
  length_eq := by simp [history.length_eq]

def first (history : ReportHistory) : UInt32 :=
  history.values.head (by
    have length := history.length_eq
    intro empty
    simp [empty, RTCP_NUMBER_OF_SR] at length)

end ReportHistory

/-- The members that reports are made of. The limits of the containers are those that the
functions that fill them check. -/
structure RTCPSender where
  audio : Bool
  method : RTCPMethod
  sending : Bool
  sendTMMBN : Bool
  remb : Bool
  sendREMB : Bool
  tmmbr : Bool
  ij : Bool
  nextTimeToSendRTCP : Int
  startTimestamp : UInt32
  lastRtpTimestamp : UInt32
  lastFrameCaptureTimeMs : Int
  ssrc : UInt32
  remoteSSRC : UInt32
  cname : CName
  internalReportBlocks : BoundedMap UInt32 RTCPReportBlock RTCP_MAX_REPORT_BLOCKS
  externalReportBlocks : BoundedMap UInt32 RTCPReportBlock RTCP_MAX_REPORT_BLOCKS
  csrcCNAMEs : BoundedMap UInt32 CName kRtpCsrcSize
  lastSendReport : ReportHistory
  lastRTCPTime : ReportHistory
  lastXrRr : List (UInt32 × Int)
  csrcs : { sources : List UInt32 // sources.length ≤ kRtpCsrcSize }
  includeCSRCs : Bool
  sequenceNumberFIR : UInt8
  rembSSRC : { sources : List UInt32 // sources.length < 256 }
  rembBitrate : UInt32
  boundingSetToSend : TMMBRSet
  tmmbrSend : UInt32
  packetOHSend : UInt32
  appSend : Bool
  appSubType : UInt8
  appName : UInt32
  appData : Option ApplicationData
  xrSendReceiverReferenceTimeEnabled : Bool
  xrSendVoIPMetric : Bool
  xrVoIPMetric : RTCPVoIPMetric
  nackCount : UInt32
  pliCount : UInt32
  fullIntraRequestCount : UInt32

def RTCPVoIPMetric.zero : RTCPVoIPMetric where
  lossRate := 0
  discardRate := 0
  burstDensity := 0
  gapDensity := 0
  burstDuration := 0
  gapDuration := 0
  roundTripDelay := 0
  endSystemDelay := 0
  signalLevel := 0
  noiseLevel := 0
  rerl := 0
  gmin := 0
  rFactor := 0
  extRfactor := 0
  moslq := 0
  moscq := 0
  rxConfig := 0
  jbNominal := 0
  jbMax := 0
  jbAbsMax := 0

namespace RTCPSender

/-- The constructor. -/
def create (audio : Bool) : RTCPSender where
  audio := audio
  method := .kRtcpOff
  sending := false
  sendTMMBN := false
  remb := false
  sendREMB := false
  tmmbr := false
  ij := false
  nextTimeToSendRTCP := 0
  startTimestamp := 0
  lastRtpTimestamp := 0
  lastFrameCaptureTimeMs := -1
  ssrc := 0
  remoteSSRC := 0
  cname := CName.copy []
  internalReportBlocks := .empty
  externalReportBlocks := .empty
  csrcCNAMEs := .empty
  lastSendReport := .zero
  lastRTCPTime := .zero
  lastXrRr := []
  csrcs := ⟨[], Nat.zero_le _⟩
  includeCSRCs := true
  sequenceNumberFIR := 0
  rembSSRC := ⟨[], by decide⟩
  rembBitrate := 0
  boundingSetToSend := .empty
  tmmbrSend := 0
  packetOHSend := 0
  appSend := false
  appSubType := 0
  appName := 0
  appData := none
  xrSendReceiverReferenceTimeEnabled := false
  xrSendVoIPMetric := false
  xrVoIPMetric := .zero
  nackCount := 0
  pliCount := 0
  fullIntraRequestCount := 0

/-- A block for a known source is replaced, unless the map is full. -/
def addReportBlock (ssrc : UInt32) (reportBlock : RTCPReportBlock)
    (reportBlocks : BoundedMap UInt32 RTCPReportBlock RTCP_MAX_REPORT_BLOCKS) :
    BoundedMap UInt32 RTCPReportBlock RTCP_MAX_REPORT_BLOCKS :=
  (reportBlocks.insert ssrc reportBlock).getD reportBlocks

def addExternalReportBlock (ssrc : UInt32) (reportBlock : RTCPReportBlock)
    (sender : RTCPSender) : RTCPSender :=
  { sender with
    externalReportBlocks := addReportBlock ssrc reportBlock sender.externalReportBlocks }

def removeExternalReportBlock (ssrc : UInt32) (sender : RTCPSender) : RTCPSender :=
  { sender with externalReportBlocks := sender.externalReportBlocks.erase ssrc }

def setCNAME (characters : Bytes) (sender : RTCPSender) : RTCPSender :=
  { sender with cname := CName.copy characters }

/-- The name is dropped when the map is full. -/
def addMixedCNAME (ssrc : UInt32) (characters : Bytes) (sender : RTCPSender) : RTCPSender :=
  { sender with
    csrcCNAMEs := (sender.csrcCNAMEs.insert ssrc (CName.copy characters)).getD
      sender.csrcCNAMEs }

def removeMixedCNAME (ssrc : UInt32) (sender : RTCPSender) : RTCPSender :=
  { sender with csrcCNAMEs := sender.csrcCNAMEs.erase ssrc }

/-- The number of the sources has eight bits. -/
def setREMBData (bitrate : UInt32) (ssrcs : List UInt32) (sender : RTCPSender) : RTCPSender :=
  { sender with
    rembBitrate := bitrate
    rembSSRC := ⟨ssrcs.take 255, Nat.lt_succ_of_le (List.length_take_le _ _)⟩
    sendREMB := true }

def setCSRCs (arrOfCSRC : List UInt32) (sender : RTCPSender) : RTCPSender :=
  if fits : arrOfCSRC.length ≤ kRtpCsrcSize then { sender with csrcs := ⟨arrOfCSRC, fits⟩ }
  else sender

def setApplicationSpecificData (subType : UInt8) (name : UInt32) (data : Bytes)
    (length_lt : data.length < 2 ^ 16) (sender : RTCPSender) : RTCPSender :=
  if words : data.length % 4 = 0 then
    { sender with
      appSend := true
      appSubType := subType
      appName := name
      appData := some { data, words, length_lt } }
  else sender

end RTCPSender

/-! ## What a call is given -/

structure RtcpReceiveTimeInfo where
  sourceSSRC : UInt32
  lastRR : UInt32
  delaySinceLastRR : UInt32

/-- What `RTCPReceiver::BoundingSet` answers when it has a bounding set. -/
structure ReceivedBoundingSet where
  tmmbrOwner : Bool
  entries : List SetElement

/-- `module` is the null pointer, or the module with what its receiver answers: the
received bounding set, if there is one. -/
structure FeedbackState where
  sendPayloadType : UInt8
  frequencyHz : UInt32
  packetCountSent : UInt32
  byteCountSent : UInt32
  sendBitrate : UInt32
  lastRrNtpSecs : UInt32
  lastRrNtpFrac : UInt32
  remoteSr : UInt32
  hasLastXrRr : Bool
  lastXrRr : RtcpReceiveTimeInfo
  module : Option (Option ReceivedBoundingSet)

/-- The constructor without a module. -/
def FeedbackState.empty : FeedbackState where
  sendPayloadType := 0
  frequencyHz := 0
  packetCountSent := 0
  byteCountSent := 0
  sendBitrate := 0
  lastRrNtpSecs := 0
  lastRrNtpFrac := 0
  remoteSr := 0
  hasLastXrRr := false
  lastXrRr := { sourceSSRC := 0, lastRR := 0, delaySinceLastRR := 0 }
  module := none

structure NtpTime where
  seconds : UInt32
  fractions : UInt32
  deriving DecidableEq

/-- `RTCPUtility::MidNtp`. -/
def midNtp (time : NtpTime) : UInt32 := (time.seconds <<< 16) + (time.fractions >>> 16)

structure StreamStatistics where
  fractionLost : UInt8
  cumulativeLost : UInt32
  extendedMaxSequenceNumber : UInt32
  jitter : UInt32

/-- An active statistician: what `GetStatistics` returns, with the time at which the report
of it is prepared. -/
structure StreamStatistician where
  ssrc : UInt32
  statistics : Option (StreamStatistics × NtpTime)

/-- The functions that the sender calls and that work with floating point numbers.
`findTMMBRBoundingSet` gives the number of the entries and the vector that they are in. -/
structure SenderWorld where
  ntpToMs : NtpTime → Int
  findTMMBRBoundingSet : List SetElement → UInt32 × List SetElement

/-- The arguments of `PrepareRTCP`, with what it reads elsewhere: the clock, a random number,
the active statisticians and what the memory of the buffer holds. -/
structure PrepareRequest where
  feedbackState : FeedbackState
  packetTypeFlags : UInt32
  nackList : List UInt16
  repeatFir : Bool
  pictureID : UInt64
  random : UInt32
  timeInMilliseconds : Int
  currentNtp : NtpTime
  statisticians : List StreamStatistician
  memory : Nat → UInt8

/-- A block that has been written: where it begins and ends and, for a type of block that
counts its items, how many items have been written. -/
structure WrittenBlock where
  start : Nat
  stop : Nat
  items : Option Nat
  deriving DecidableEq

/-- The buffer up to the position of the next byte. The blocks are noted for the statements
about the sender; it does not read them. -/
structure RtcpBuffer where
  bytes : Bytes
  blocks : List WrittenBlock
  deriving DecidableEq

namespace RtcpBuffer

def empty : RtcpBuffer := { bytes := [], blocks := [] }

def position (buffer : RtcpBuffer) : Nat := buffer.bytes.length

/-- The check of a builder that there is room for a number of bytes. -/
def full (room : Nat) (buffer : RtcpBuffer) : Bool := IP_PACKET_SIZE ≤ buffer.position + room

def append (block : Bytes) (items : Option Nat) (buffer : RtcpBuffer) : RtcpBuffer where
  bytes := buffer.bytes ++ block
  blocks := buffer.blocks ++
    [{ start := buffer.position, stop := buffer.position + block.length, items }]

@[simp] theorem position_empty : empty.position = 0 := rfl

@[simp] theorem position_append (block : Bytes) (items : Option Nat) (buffer : RtcpBuffer) :
    (buffer.append block items).position = buffer.position + block.length :=
  List.length_append

theorem append_empty (block : Bytes) (items : Option Nat) :
    empty.append block items =
      { bytes := block, blocks := [{ start := 0, stop := block.length, items }] } := by
  rw [append, position_empty, Nat.zero_add]
  rfl

end RtcpBuffer

end ZyWebRtc.Rtcp
