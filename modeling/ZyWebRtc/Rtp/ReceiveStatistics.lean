import ZyWebRtc.Foundation.Run
import ZyWebRtc.Foundation.SequenceNumber
import ZyWebRtc.Rtp.HeaderParser

namespace ZyWebRtc.Rtp

/-! `StreamStatisticianImpl`, the counters that receiver reports are made from. The
bitrate estimate is left out: nothing here reads it. -/

/-- One reading of the clock, and the conversion of its NTP time to RTP units,
which is made in floating point. -/
structure ClockReading where
  timeInMilliseconds : Int64
  ntpSecs : UInt32
  ntpFrac : UInt32
  convertNTPTimeToRTP : UInt32 → UInt32 → UInt32 → UInt32

structure Statistics where
  fractionLost : UInt8
  cumulativeLost : UInt32
  extendedMaxSequenceNumber : UInt32
  jitter : UInt32
  maxJitter : UInt32
  deriving DecidableEq, Repr

def kDefaultMaxReorderingThreshold : Int := 50

structure StreamStatisticianImpl where
  maxReorderingThreshold : Int
  jitterQ4 : UInt32
  jitterMaxQ4 : UInt32
  cumulativeLoss : UInt32
  jitterQ4TransmissionTimeOffset : UInt32
  lastReceiveTimeMs : Int64
  lastReceiveTimeSecs : UInt32
  lastReceiveTimeFrac : UInt32
  lastReceivedTimestamp : UInt32
  lastReceivedTransmissionTimeOffset : UInt32
  receivedSeqFirst : UInt16
  receivedSeqMax : UInt16
  receivedSeqWraps : UInt16
  firstPacket : Bool
  receivedPacketOverhead : UInt16
  receivedByteCount : UInt32
  receivedRetransmittedPackets : UInt32
  receivedInorderPacketCount : UInt32
  lastReportInorderPackets : UInt32
  lastReportOldPackets : UInt32
  lastReportSeqMax : UInt16
  lastReportedStatistics : Statistics
  deriving DecidableEq, Repr

namespace StreamStatisticianImpl

def initial : StreamStatisticianImpl where
  maxReorderingThreshold := kDefaultMaxReorderingThreshold
  jitterQ4 := 0
  jitterMaxQ4 := 0
  cumulativeLoss := 0
  jitterQ4TransmissionTimeOffset := 0
  lastReceiveTimeMs := 0
  lastReceiveTimeSecs := 0
  lastReceiveTimeFrac := 0
  lastReceivedTimestamp := 0
  lastReceivedTransmissionTimeOffset := 0
  receivedSeqFirst := 0
  receivedSeqMax := 0
  receivedSeqWraps := 0
  firstPacket := true
  receivedPacketOverhead := 12
  receivedByteCount := 0
  receivedRetransmittedPackets := 0
  receivedInorderPacketCount := 0
  lastReportInorderPackets := 0
  lastReportOldPackets := 0
  lastReportSeqMax := 0
  lastReportedStatistics := {
    fractionLost := 0
    cumulativeLost := 0
    extendedMaxSequenceNumber := 0
    jitter := 0
    maxJitter := 0 }

variable (statistician : StreamStatisticianImpl)

def inOrderPacketInternal (sequenceNumber : UInt16) : Bool :=
  -- The first packet is taken to be the one before which no time was stored.
  if statistician.lastReceiveTimeMs = 0 then true
  else if isNewerSequenceNumber sequenceNumber statistician.receivedSeqMax then true
  else
    !isNewerSequenceNumber sequenceNumber
      (UInt16.ofInt (statistician.receivedSeqMax.toNat - statistician.maxReorderingThreshold))

/-- One step of the jitter filter, in units of a sixteenth. -/
def filterJitter (jitterQ4 : UInt32) (timeDiffSamples : Int32) : UInt32 :=
  if timeDiffSamples < 450000 then
    let jitterDiffQ4 := ((timeDiffSamples <<< 4).toUInt32 - jitterQ4).toInt32
    jitterQ4 + ((jitterDiffQ4 + 8) >>> 4).toUInt32
  else jitterQ4

section

variable (clock : ClockReading) (header : RTPHeader)

/-- The jitter after a packet in order. Only packets with a new timestamp count. -/
def updateJitter (frequency : UInt32) :
    StreamStatisticianImpl :=
  if header.timestamp ≠ statistician.lastReceivedTimestamp ∧
      1 < statistician.receivedInorderPacketCount then
    let receiveTimeRtp := clock.convertNTPTimeToRTP clock.ntpSecs clock.ntpFrac frequency
    let lastReceiveTimeRtp := clock.convertNTPTimeToRTP statistician.lastReceiveTimeSecs
      statistician.lastReceiveTimeFrac frequency
    let timeDiffSamples := ((receiveTimeRtp - lastReceiveTimeRtp) -
      (header.timestamp - statistician.lastReceivedTimestamp)).toInt32
    let timeDiffSamplesExt := ((receiveTimeRtp - lastReceiveTimeRtp) -
      ((header.timestamp + header.extension.transmissionTimeOffset) -
        (statistician.lastReceivedTimestamp +
          statistician.lastReceivedTransmissionTimeOffset))).toInt32
    { statistician with
      jitterQ4 := filterJitter statistician.jitterQ4 timeDiffSamples.abs
      jitterQ4TransmissionTimeOffset :=
        filterJitter statistician.jitterQ4TransmissionTimeOffset timeDiffSamplesExt.abs }
  else statistician

/-- The packet is the first one. -/
def startStatistics : StreamStatisticianImpl :=
  { statistician with
    firstPacket := false
    receivedSeqFirst := header.sequenceNumber
    receivedSeqMax := header.sequenceNumber
    receivedInorderPacketCount := 1
    lastReceiveTimeSecs := clock.ntpSecs
    lastReceiveTimeFrac := clock.ntpFrac
    lastReceiveTimeMs := clock.timeInMilliseconds }

/-- The packet is in order, and its number is the new maximum. -/
def advanceStatistics (frequency : UInt32) :
    StreamStatisticianImpl :=
  let statistician := { statistician with
    receivedInorderPacketCount := statistician.receivedInorderPacketCount + 1
    receivedSeqWraps :=
      if header.sequenceNumber < statistician.receivedSeqMax then
        statistician.receivedSeqWraps + 1
      else statistician.receivedSeqWraps
    receivedSeqMax := header.sequenceNumber }
  { statistician.updateJitter clock header frequency with
    lastReceivedTimestamp := header.timestamp
    lastReceiveTimeSecs := clock.ntpSecs
    lastReceiveTimeFrac := clock.ntpFrac
    lastReceiveTimeMs := clock.timeInMilliseconds }

def countOldPacket (retransmitted : Bool) : StreamStatisticianImpl :=
  if retransmitted then
    { statistician with
      receivedRetransmittedPackets := statistician.receivedRetransmittedPackets + 1 }
  else
    { statistician with
      receivedInorderPacketCount := statistician.receivedInorderPacketCount + 1 }

def updateOverhead (header : RTPHeader) : StreamStatisticianImpl :=
  let packetOverhead := header.headerLength + header.paddingLength.toUInt16
  { statistician with
    receivedPacketOverhead := UInt16.ofNat
      ((15 * statistician.receivedPacketOverhead.toNat + packetOverhead.toNat) / 16) }

def incomingPacket (frequency bytes : UInt32)
    (retransmitted : Bool) : StreamStatisticianImpl :=
  let inOrder := statistician.inOrderPacketInternal header.sequenceNumber
  let statistician :=
    { statistician with receivedByteCount := statistician.receivedByteCount + bytes }
  if statistician.firstPacket then statistician.startStatistics clock header
  else if inOrder then
    (statistician.advanceStatistics clock header frequency).updateOverhead header
  else (statistician.countOldPacket retransmitted).updateOverhead header

end

def setMaxReorderingThreshold (maxReorderingThreshold : Int) : StreamStatisticianImpl :=
  { statistician with maxReorderingThreshold }

/-- `(received_seq_wraps_ << 16) + received_seq_max_`. -/
def extendedMaxSequenceNumber : UInt32 :=
  (statistician.receivedSeqWraps.toUInt32 <<< 16) + statistician.receivedSeqMax.toUInt32

/-- The packets that have been lost since the last report, and how many were expected. -/
def missingSinceLastReport (lastReportSeqMax : UInt16) : UInt32 × UInt32 :=
  let expSinceLast : UInt32 :=
    if statistician.receivedSeqMax < lastReportSeqMax then 0
    else (statistician.receivedSeqMax - lastReportSeqMax).toUInt32
  let recSinceLast :=
    statistician.receivedInorderPacketCount - statistician.lastReportInorderPackets +
      (statistician.receivedRetransmittedPackets - statistician.lastReportOldPackets)
  (if recSinceLast < expSinceLast then expSinceLast - recSinceLast else 0, expSinceLast)

/-- A new report, and the state after it. -/
def makeReport : Statistics × StreamStatisticianImpl :=
  let lastReportSeqMax :=
    if statistician.lastReportInorderPackets = 0 then statistician.receivedSeqFirst - 1
    else statistician.lastReportSeqMax
  let (missing, expSinceLast) := statistician.missingSinceLastReport lastReportSeqMax
  let cumulativeLoss := statistician.cumulativeLoss + missing
  let jitterMaxQ4 := max statistician.jitterMaxQ4 statistician.jitterQ4
  let statistics : Statistics := {
    fractionLost :=
      if expSinceLast = 0 then 0 else UInt8.ofNat (255 * missing.toNat / expSinceLast.toNat)
    cumulativeLost := cumulativeLoss
    extendedMaxSequenceNumber := statistician.extendedMaxSequenceNumber
    jitter := statistician.jitterQ4 >>> 4
    maxJitter := jitterMaxQ4 >>> 4 }
  (statistics, { statistician with
    cumulativeLoss
    jitterMaxQ4
    lastReportedStatistics := statistics
    lastReportInorderPackets := statistician.receivedInorderPacketCount
    lastReportOldPackets := statistician.receivedRetransmittedPackets
    lastReportSeqMax := statistician.receivedSeqMax })

/-- With `reset` a new report is made, otherwise the last one is given again. -/
def getStatistics (reset : Bool) : Option Statistics × StreamStatisticianImpl :=
  if statistician.receivedSeqFirst = 0 ∧ statistician.receivedByteCount = 0 then
    (none, statistician)
  else if reset then
    let (statistics, statistician) := statistician.makeReport
    (some statistics, statistician)
  else if statistician.lastReportInorderPackets = 0 then (none, statistician)
  else (some statistician.lastReportedStatistics, statistician)

end StreamStatisticianImpl

end ZyWebRtc.Rtp
