import ZyWebRtc.Rtcp.SenderBlocks

namespace ZyWebRtc.Rtcp.RTCPSender

/-! `RTCPSender::PrepareRTCP`: which blocks a packet gets, and the packet. -/

def kRtcpReport : UInt32 := 0x0001

def kRtcpSr : UInt32 := 0x0002

def kRtcpRr : UInt32 := 0x0004

def kRtcpBye : UInt32 := 0x0008

def kRtcpPli : UInt32 := 0x0010

def kRtcpNack : UInt32 := 0x0020

def kRtcpFir : UInt32 := 0x0040

def kRtcpTmmbr : UInt32 := 0x0080

def kRtcpTmmbn : UInt32 := 0x0100

def kRtcpXrVoipMetric : UInt32 := 0x0400

def kRtcpApp : UInt32 := 0x0800

def kRtcpSli : UInt32 := 0x4000

def kRtcpRpsi : UInt32 := 0x8000

def kRtcpRemb : UInt32 := 0x10000

def kRtcpTransmissionTimeOffset : UInt32 := 0x20000

def kRtcpXrReceiverReferenceTime : UInt32 := 0x40000

def kRtcpXrDlrrReportBlock : UInt32 := 0x80000

def has (flag flags : UInt32) : Bool := flags &&& flag ≠ 0

def addFlag (condition : Bool) (flag flags : UInt32) : UInt32 :=
  if condition then flags ||| flag else flags

def attachedFlags (feedbackState : FeedbackState) (packetTypeFlags : UInt32)
    (sender : RTCPSender) : UInt32 :=
  let flags := addFlag sender.tmmbr kRtcpTmmbr packetTypeFlags
  let flags := addFlag sender.appSend kRtcpApp flags
  let flags := addFlag (sender.remb && sender.sendREMB) kRtcpRemb flags
  let flags := addFlag sender.xrSendVoIPMetric kRtcpXrVoipMetric flags
  let flags := addFlag sender.sendTMMBN kRtcpTmmbn flags
  let extended := sender.xrSendReceiverReferenceTimeEnabled && has kRtcpReport flags
  let flags := addFlag (extended && !sender.sending) kRtcpXrReceiverReferenceTime flags
  let flags := addFlag (extended && feedbackState.hasLastXrRr) kRtcpXrDlrrReportBlock flags
  let report := sender.method = .kRtcpCompound ∨
    (sender.method = .kRtcpNonCompound ∧ has kRtcpReport flags)
  let flags := addFlag (report && sender.sending) kRtcpSr flags
  addFlag (report && !sender.sending) kRtcpRr flags

/-- What is sent once is not sent again. -/
def clearPending (sender : RTCPSender) : RTCPSender :=
  { sender with appSend := false, xrSendVoIPMetric := false, sendTMMBN := false }

def timeToNext (feedbackState : FeedbackState) (random : UInt32) (sender : RTCPSender) :
    UInt32 :=
  let random := random % 1000
  if sender.audio then RTCP_INTERVAL_AUDIO_MS / 2 + RTCP_INTERVAL_AUDIO_MS * random / 1000
  else
    let sendBitrateKbit := feedbackState.sendBitrate / 1000
    let minIntervalMs :=
      if sender.sending ∧ sendBitrateKbit ≠ 0 then 360000 / sendBitrateKbit
      else RTCP_INTERVAL_AUDIO_MS
    let minIntervalMs := min minIntervalMs RTCP_INTERVAL_VIDEO_MS
    minIntervalMs / 2 + minIntervalMs * random / 1000

def scheduleNext (request : PrepareRequest) (sender : RTCPSender) : RTCPSender :=
  { sender with
    nextTimeToSendRTCP := request.timeInMilliseconds +
      (sender.timeToNext request.feedbackState request.random).toNat }

def shouldSendReportBlocks (flags : UInt32) (sender : RTCPSender) : Bool :=
  sender.method = .kRtcpCompound || has kRtcpReport flags || has kRtcpSr flags ||
    has kRtcpRr flags

/-- The report block of a statistician that has something to report, with its time. -/
def prepareReport (feedbackState : FeedbackState) (statistics : StreamStatistics)
    (time : NtpTime) : RTCPReportBlock :=
  let receiveTime :=
    midNtp { seconds := feedbackState.lastRrNtpSecs, fractions := feedbackState.lastRrNtpFrac }
  let received := feedbackState.lastRrNtpSecs ≠ 0 ∨ feedbackState.lastRrNtpFrac ≠ 0
  { fractionLost := statistics.fractionLost
    cumulativeLost := statistics.cumulativeLost
    extendedHighSeqNum := statistics.extendedMaxSequenceNumber
    jitter := statistics.jitter
    delaySinceLastSR := if received then midNtp time - receiveTime else 0
    lastSR := feedbackState.remoteSr }

/-- The loop over the active statisticians, and the time of the last report. -/
def collectReportBlocks (feedbackState : FeedbackState) :
    List StreamStatistician → NtpTime → RTCPSender → NtpTime × RTCPSender
  | [], time, sender => (time, sender)
  | statistician :: rest, time, sender =>
    match statistician.statistics with
    | none => collectReportBlocks feedbackState rest time sender
    | some (statistics, now) =>
      collectReportBlocks feedbackState rest now { sender with
        internalReportBlocks := addReportBlock statistician.ssrc
          (prepareReport feedbackState statistics now) sender.internalReportBlocks }

def setLatestTime (value : UInt32) (sender : RTCPSender) : RTCPSender :=
  { sender with lastRTCPTime := sender.lastRTCPTime.setFirst value }

variable (world : SenderWorld) (request : PrepareRequest)

/-- With active statisticians the time of the last report is replaced. -/
def collectStatistics (sender : RTCPSender) :
    NtpTime × RTCPSender :=
  let (time, collecting) := collectReportBlocks request.feedbackState request.statisticians
    request.currentNtp sender
  (time, collecting.setLatestTime (UInt32.ofInt (world.ntpToMs time)))

/-! ## The blocks -/

/-- A block that the flags ask for, or do not. -/
structure Stage where
  wanted : Bool
  build : RTCPSender → RtcpBuffer → Option Built

/-- A block without room for it is left out, and the next one is tried. -/
def Built.ignoringRoom (built : Built) : Built :=
  if built.value = -2 then { built with value := 0 } else built

/-- What happens to the members when a block has been written. -/
def Built.count (update : RTCPSender → RTCPSender) (built : Built) : Built :=
  if built.value = -1 ∨ built.value = -2 then built
  else { built with sender := update built.sender }

def reportStages (flags : UInt32)
    (time : NtpTime) (sender : RTCPSender) : List Stage :=
  if has kRtcpSr flags then
    [{ wanted := true, build := fun sender buffer => some (sender.buildSR world request time buffer) },
     { wanted := true, build := fun sender buffer => some (sender.buildSDEC buffer) }]
  else
    [{ wanted := has kRtcpRr flags
       build := fun sender buffer => some (sender.buildRR request buffer) },
     { wanted := has kRtcpRr flags && sender.cname.name ≠ []
       build := fun sender buffer => some (sender.buildSDEC buffer).ignoringRoom }]

def countPli (sender : RTCPSender) : RTCPSender := { sender with pliCount := sender.pliCount + 1 }

def countFir (sender : RTCPSender) : RTCPSender :=
  { sender with fullIntraRequestCount := sender.fullIntraRequestCount + 1 }

def countNack (sender : RTCPSender) : RTCPSender :=
  { sender with nackCount := sender.nackCount + 1 }

/-- The payload type -1 is that of no payload. -/
def buildRPSIFor (request : PrepareRequest) (sender : RTCPSender) (buffer : RtcpBuffer) :
    Option Built :=
  if request.feedbackState.sendPayloadType = 255 then some { value := -1, sender, buffer }
  else sender.buildRPSI request.pictureID request.feedbackState.sendPayloadType buffer

def feedbackStages (flags : UInt32)
    (time : NtpTime) : List Stage :=
  [{ wanted := has kRtcpTransmissionTimeOffset flags
     build := fun sender buffer => some (sender.buildExtendedJitterReport 0 buffer) },
   { wanted := has kRtcpPli flags
     build := fun sender buffer => some ((sender.buildPLI buffer).count countPli) },
   { wanted := has kRtcpFir flags
     build := fun sender buffer =>
       some ((sender.buildFIR request.repeatFir buffer).count countFir) },
   { wanted := has kRtcpSli flags
     build := fun sender buffer => some (sender.buildSLI request.pictureID.toUInt8 buffer) },
   { wanted := has kRtcpRpsi flags
     build := fun sender buffer => sender.buildRPSIFor request buffer },
   { wanted := has kRtcpRemb flags
     build := fun sender buffer => some (sender.buildREMB buffer) },
   { wanted := has kRtcpBye flags
     build := fun sender buffer => some (sender.buildBYE buffer) },
   { wanted := has kRtcpApp flags
     build := fun sender buffer => some (sender.buildAPP buffer) },
   { wanted := has kRtcpTmmbr flags
     build := fun sender buffer =>
       some (sender.buildTMMBR world request.feedbackState.module buffer) },
   { wanted := has kRtcpTmmbn flags
     build := fun sender buffer => some (sender.buildTMMBN buffer) },
   { wanted := has kRtcpNack flags
     build := fun sender buffer =>
       some ((sender.buildNACK request.nackList buffer).count countNack) },
   { wanted := has kRtcpXrVoipMetric flags
     build := fun sender buffer => some (sender.buildVoIPMetric buffer) },
   { wanted := has kRtcpXrReceiverReferenceTime flags
     build := fun sender buffer => some (sender.buildReceiverReferenceTime world time buffer) },
   { wanted := has kRtcpXrDlrrReportBlock flags
     build := fun sender buffer => some (sender.buildDlrr request.feedbackState.lastXrRr buffer) }]

/-- One block after the other. A block without room for it ends the packet, and a failure of
another kind ends it without a length. -/
def runStages : List Stage → RTCPSender → RtcpBuffer → Option Built
  | [], sender, buffer => some { value := buffer.position, sender, buffer }
  | stage :: rest, sender, buffer =>
    if stage.wanted then do
      let built ← stage.build sender buffer
      if built.value = -1 then pure built
      else if built.value = -2 then pure { built with value := built.buffer.position }
      else runStages rest built.sender built.buffer
    else runStages rest sender buffer

/-- The members once the flags are known. -/
def scheduled (request : PrepareRequest) (flags : UInt32) (sender : RTCPSender) : RTCPSender :=
  if has kRtcpRr flags || has kRtcpSr flags then sender.clearPending.scheduleNext request
  else sender.clearPending

/-- What is done before the first block: the flags, the time of the reports and the
members. -/
def prepared (sender : RTCPSender) :
    UInt32 × NtpTime × RTCPSender :=
  let flags := sender.attachedFlags request.feedbackState request.packetTypeFlags
  let ready := sender.scheduled request flags
  if ready.shouldSendReportBlocks flags ∧ request.statisticians ≠ [] then
    let (time, collected) := ready.collectStatistics world request
    (addFlag ready.ij kRtcpTransmissionTimeOffset flags, time, collected)
  else (flags, request.currentNtp, ready)

/-- `PrepareRTCP`. There is no result when it does not return. -/
def prepareRTCP (sender : RTCPSender) :
    Option Built :=
  let (flags, time, ready) := sender.prepared world request
  runStages (reportStages world request flags time ready ++
    feedbackStages world request flags time) ready .empty

end ZyWebRtc.Rtcp.RTCPSender
