import ZyWebRtc.Rtcp.Compound

namespace ZyWebRtc.Rtcp.RTCPSender

/-! What `PrepareRTCP` is asked to write, in sizes: the room that each builder looks for, what
it writes, and whether its fields can hold what is asked for. -/

/-- What a block comes to. It is written when there is room, and without room it ends the
packet unless it is one that is just left out. -/
inductive Plan
  | nothing
  | refused
  | endless (room : Nat)
  | block (room : Nat) (leftOut : Bool) (size : (position : Nat) → Nat) (fits : Bool)

namespace Plan

/-- The packet gets no length: a block of it is refused, or never ends. -/
def refuses : List Plan → (position : Nat) → Bool
  | [], _ => false
  | .nothing :: rest, position => refuses rest position
  | .refused :: _, _ => true
  | .endless room :: _, position => position + room < IP_PACKET_SIZE
  | .block room leftOut size _ :: rest, position =>
    if position + room < IP_PACKET_SIZE then refuses rest (position + size position)
    else leftOut && refuses rest position

/-- Every block that is begun fits into its fields and into the buffer. -/
def sound : List Plan → (position : Nat) → Bool
  | [], _ => true
  | .nothing :: rest, position => sound rest position
  | .refused :: _, _ => true
  | .endless _ :: _, _ => true
  | .block room leftOut size fits :: rest, position =>
    if position + room < IP_PACKET_SIZE then
      fits && position + size position ≤ IP_PACKET_SIZE && sound rest (position + size position)
    else !leftOut || sound rest position

def fixed (room size : Nat) : Plan := .block room false (fun _ => size) true

def onlyIf (wanted : Bool) (plan : Plan) : Plan := if wanted then plan else .nothing

end Plan

/-! ## The plan of a packet -/

section

variable (sender : RTCPSender)

def srPlan : Plan :=
  if IP_PACKET_SIZE ≤ 28 + sender.reportBlockCount * 24 then .refused
  else .block 52 false (fun _ => 28 + sender.reportBlockCount * 24) (sender.reportBlockCount ≤ 31)

def rrPlan : Plan :=
  .block 32 false (fun _ => 8 + sender.reportBlockCount * 24) (sender.reportBlockCount ≤ 31)

/-- The source, two bytes in front of the name, and at least one zero. -/
def chunkSize (cname : CName) : Nat := 4 * ((6 + cname.name.length) / 4 + 1)

def sdecSize : Nat :=
  4 + (((sender.ssrc, sender.cname) :: sender.csrcCNAMEs.entries).map
    fun entry => chunkSize entry.2).sum

def sdecPlan (leftOut : Bool) (sender : RTCPSender) : Plan :=
  .block (12 + sender.cname.name.length) leftOut (fun _ => sender.sdecSize) true

def extendedJitterPlan : Plan :=
  .onlyIf (sender.externalReportBlocks.entries.length = 0) (.fixed 8 8)

def rpsiPlan (request : PrepareRequest) : Plan :=
  if request.feedbackState.sendPayloadType = 255 then .refused
  else match bytesRequired request.pictureID with
    | none => .endless 24
    | some count => .fixed 24 (4 * ((rpsiSize count).toNat + 1))

def rembPlan : Plan :=
  .block (20 + 4 * sender.rembSSRC.val.length) false (fun _ => 20 + 4 * sender.rembSSRC.val.length)
    (sender.rembSSRC.val.length ≤ 251)

def byePlan : Plan :=
  .fixed 8 (8 + if sender.includeCSRCs then 4 * sender.csrcs.val.length else 0)

def appPlan : Plan :=
  match sender.appData with
  | none => .refused
  | some appData =>
    .block (12 + appData.data.length) false (fun _ => 12 + appData.data.length)
      (sender.appSubType < 32)

end

section

variable (world : SenderWorld) (request : PrepareRequest)

def tmmbrPlan (sender : RTCPSender) : Plan :=
  match request.feedbackState.module with
  | none => .refused
  | some received =>
    .onlyIf (received.all (sender.sendsTMMBR world) ∧ sender.tmmbrSend ≠ 0) (.fixed 20 20)

def tmmbnPlan (sender : RTCPSender) : Plan :=
  .fixed (12 + sender.boundingSetToSend.entries.length * 8) (12 + 8 * sender.tmmbnEntries.length)

def nackPlan (request : PrepareRequest) : Plan :=
  .block 16 false
    (fun position => 12 + 4 * (nackFields (maxNackFields position) request.nackList).1.length) true

def reportPlans (flags : UInt32) (sender : RTCPSender) : List Plan :=
  if has kRtcpSr flags then [sender.srPlan, sender.sdecPlan false]
  else
    [.onlyIf (has kRtcpRr flags) sender.rrPlan,
     .onlyIf (has kRtcpRr flags && sender.cname.name ≠ []) (sender.sdecPlan true)]

def feedbackPlans (flags : UInt32)
    (sender : RTCPSender) : List Plan :=
  [.onlyIf (has kRtcpTransmissionTimeOffset flags) sender.extendedJitterPlan,
   .onlyIf (has kRtcpPli flags) (.fixed 12 12),
   .onlyIf (has kRtcpFir flags) (.fixed 20 20),
   .onlyIf (has kRtcpSli flags) (.fixed 16 16),
   .onlyIf (has kRtcpRpsi flags) (rpsiPlan request),
   .onlyIf (has kRtcpRemb flags) sender.rembPlan,
   .onlyIf (has kRtcpBye flags) sender.byePlan,
   .onlyIf (has kRtcpApp flags) sender.appPlan,
   .onlyIf (has kRtcpTmmbr flags) (sender.tmmbrPlan world request),
   .onlyIf (has kRtcpTmmbn flags) sender.tmmbnPlan,
   .onlyIf (has kRtcpNack flags) (nackPlan request),
   .onlyIf (has kRtcpXrVoipMetric flags) (.fixed 44 44),
   .onlyIf (has kRtcpXrReceiverReferenceTime flags) (.fixed 20 20),
   .onlyIf (has kRtcpXrDlrrReportBlock flags) (.fixed 24 24)]

/-- What a call is asked to write. -/
def plans (sender : RTCPSender) : List Plan :=
  let (flags, _, ready) := sender.prepared world request
  reportPlans flags ready ++ feedbackPlans world request flags ready

end

/-- The members that the builders change. -/
structure Records where
  internalReportBlocks : BoundedMap UInt32 RTCPReportBlock RTCP_MAX_REPORT_BLOCKS
  lastSendReport : ReportHistory
  lastRTCPTime : ReportHistory
  lastXrRr : List (UInt32 × Int)
  sequenceNumberFIR : UInt8
  nackCount : UInt32
  pliCount : UInt32
  fullIntraRequestCount : UInt32

def withRecords (records : Records) (sender : RTCPSender) : RTCPSender :=
  { sender with
    internalReportBlocks := records.internalReportBlocks
    lastSendReport := records.lastSendReport
    lastRTCPTime := records.lastRTCPTime
    lastXrRr := records.lastXrRr
    sequenceNumberFIR := records.sequenceNumberFIR
    nackCount := records.nackCount
    pliCount := records.pliCount
    fullIntraRequestCount := records.fullIntraRequestCount }

def records (sender : RTCPSender) : Records where
  internalReportBlocks := sender.internalReportBlocks
  lastSendReport := sender.lastSendReport
  lastRTCPTime := sender.lastRTCPTime
  lastXrRr := sender.lastXrRr
  sequenceNumberFIR := sender.sequenceNumberFIR
  nackCount := sender.nackCount
  pliCount := sender.pliCount
  fullIntraRequestCount := sender.fullIntraRequestCount

/-- The senders that differ in these members only. -/
def Kept (ready sender : RTCPSender) : Prop := ∃ records, sender = ready.withRecords records

theorem kept_refl (ready : RTCPSender) : Kept ready ready := ⟨ready.records, rfl⟩

def Stage.result (stage : Stage) (sender : RTCPSender) (buffer : RtcpBuffer) : Option Built :=
  if stage.wanted then stage.build sender buffer else some { value := 0, sender, buffer }

/-- The result of a stage is that of its plan. -/
def Outcome (ready : RTCPSender) (sender : RTCPSender) (buffer : RtcpBuffer) (plan : Plan)
    (result : Option Built) : Prop :=
  match plan with
  | .nothing => result = some { value := 0, sender, buffer }
  | .refused => ∃ built, result = some built ∧ built.value = -1
  | .endless room =>
    if buffer.position + room < IP_PACKET_SIZE then result = none
    else result = some { value := -2, sender, buffer }
  | .block room leftOut size fits =>
    if buffer.position + room < IP_PACKET_SIZE then
      ∃ next block items,
        result = some { value := 0, sender := next, buffer := buffer.append block items } ∧
          Kept ready next ∧ block.length = size buffer.position ∧ 4 ≤ block.length ∧
          4 ∣ block.length ∧ (Framed block (wholeBlock block items) ↔ fits)
    else result = some { value := if leftOut then 0 else -2, sender, buffer }

/-- The stage does what is planned after every beginning of the packet. -/
def Follows (ready : RTCPSender) (stage : Stage) (plan : Plan) : Prop :=
  ∀ sender buffer, Kept ready sender → 4 ∣ buffer.position →
    Outcome ready sender buffer plan (stage.result sender buffer)

end ZyWebRtc.Rtcp.RTCPSender
