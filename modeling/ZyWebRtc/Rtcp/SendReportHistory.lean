import ZyWebRtc.Foundation.Run
import ZyWebRtc.Rtcp.CompoundRun

namespace ZyWebRtc.Rtcp.RTCPSender

/-! The times of the sender reports that `RTCPSender` keeps to compute round-trip times. -/

open List Option

def reportMs (world : SenderWorld) (time : NtpTime) : UInt32 := UInt32.ofInt (world.ntpToMs time)

/-- The two arrays, entry by entry. -/
def reportTimes (sender : RTCPSender) : List (UInt32 × UInt32) :=
  sender.lastSendReport.values.zip sender.lastRTCPTime.values

def sendTimeOfSendReport (sendReport : UInt32) (sender : RTCPSender) : UInt32 :=
  if sender.lastSendReport.first = 0 ∨ sendReport = 0 then 0
  else ((sender.reportTimes.find? fun entry => entry.1 = sendReport).map Prod.snd).getD 0

/-- A delay in units of 1/65536 seconds, in whole milliseconds. -/
def delayWord (delaySinceLastSendReport : UInt32) : UInt32 :=
  let low := delaySinceLastSendReport &&& (0x0000ffff : UInt32)
  let seconds := (delaySinceLastSendReport &&& (0xffff0000 : UInt32)) >>> 16
  low * 1000 / 65536 + seconds * 1000

/-- The estimate of `RTCPReceiver::HandleReportBlock` from the time of the report block, the
delay in it and the time of its sender report. There is none without that time. -/
def roundTripTime (receiveTimeMS delaySinceLastSendReport sendTimeMS : UInt32) : Option Int :=
  if sendTimeMS > 0 then
    let rtt := (receiveTimeMS - delayWord delaySinceLastSendReport - sendTimeMS).toInt32.toInt
    some (if rtt ≤ 0 then 1 else rtt)
  else none

/-- The same as an integer. -/
def delayMs (delaySinceLastSendReport : UInt32) : Int :=
  delaySinceLastSendReport.toNat % 2 ^ 16 * 1000 / 2 ^ 16 +
    delaySinceLastSendReport.toNat / 2 ^ 16 * 1000

/-- A sender and the times of the sender reports that it has written, the latest first. -/
structure ReportRun where
  sender : RTCPSender
  reports : List NtpTime

/-- A call of `PrepareRTCP`, or calls that set other members: none of them touches the
records. -/
inductive ReportOperation
  | prepare (request : PrepareRequest)
  | configure (settings : RTCPSender)

def writtenReport (world : SenderWorld) (request : PrepareRequest) (sender : RTCPSender) :
    Option NtpTime :=
  let (flags, time, ready) := sender.prepared world request
  if has kRtcpSr flags ∧ (ready.buildSR world request time .empty).value = 0 then some time
  else none

namespace ReportRun

def started (settings : RTCPSender) : ReportRun :=
  { sender := settings.withRecords (create settings.audio).records, reports := [] }

def step (world : SenderWorld) (run : ReportRun) : ReportOperation → Option ReportRun
  | .configure settings => some { run with sender := settings.withRecords run.sender.records }
  | .prepare request => do
    let built ← run.sender.prepareRTCP world request
    pure {
      sender := built.sender
      reports := (run.sender.writtenReport world request).toList ++ run.reports }

end ReportRun

/-- The call looks at the statistics of the received streams, and there are some. -/
def collects (request : PrepareRequest) (sender : RTCPSender) : Bool :=
  sender.shouldSendReportBlocks
      (sender.attachedFlags request.feedbackState request.packetTypeFlags) &&
    request.statisticians ≠ []

section

variable (world : SenderWorld)

/-- A time can be kept beside those that are kept: it has a name, which no earlier report has
with another time, and it is not zero. -/
def Distinct (time : NtpTime) (sender : RTCPSender) : Prop :=
  midNtp time ≠ 0 ∧ reportMs world time ≠ 0 ∧
    ∀ entry ∈ sender.reportTimes.take (RTCP_NUMBER_OF_SR - 1),
      entry.1 = midNtp time → entry.2 = reportMs world time

instance (world : SenderWorld) (time : NtpTime) (sender : RTCPSender) :
    Decidable (Distinct world time sender) :=
  -- the entries of the list, not all pairs of words
  have : Decidable (∀ entry ∈ sender.reportTimes.take (RTCP_NUMBER_OF_SR - 1),
      entry.1 = midNtp time → entry.2 = reportMs world time) := List.decidableBAll _ _
  inferInstanceAs (Decidable (_ ∧ _ ∧ _))

/-- No statistics are collected once a report is recorded, and a report is built at a time that
can be kept. -/
def KeepsTimes (request : PrepareRequest) (sender : RTCPSender) : Prop :=
  (sender.collects request → sender.lastSendReport.first = 0) ∧
    (has kRtcpSr (sender.prepared world request).1 →
      Distinct world (sender.prepared world request).2.1 sender)

instance (world : SenderWorld) (request : PrepareRequest) (sender : RTCPSender) :
    Decidable (KeepsTimes world request sender) :=
  inferInstanceAs (Decidable (_ ∧ _))

def ReportRun.Allowed (run : ReportRun) : ReportOperation → Prop
  | .prepare request => KeepsTimes world request run.sender
  | .configure _ => True

instance (world : SenderWorld) (run : ReportRun) :
    ∀ operation, Decidable (ReportRun.Allowed world run operation)
  | .prepare request => inferInstanceAs (Decidable (KeepsTimes world request run.sender))
  | .configure _ => inferInstanceAs (Decidable True)

theorem ReportHistory.first_eq {history : ReportHistory} {value : UInt32} {rest : List UInt32}
    (values : history.values = value :: rest) : history.first = value := by
  simp only [ReportHistory.first, values, head_cons]

theorem rememberReport_reportTimes (time : NtpTime) (sender : RTCPSender) :
    (sender.rememberReport world time).reportTimes =
      (midNtp time, reportMs world time) :: sender.reportTimes.take (RTCP_NUMBER_OF_SR - 1) := by
  simp only [reportTimes, rememberReport, ReportHistory.push, zip_eq_zipWith, take_zipWith]
  rfl

/-! ## What the builders leave alone -/

/-- The members that only reports change. -/
structure SameReports (sender next : RTCPSender) : Prop where
  lastSendReport : next.lastSendReport = sender.lastSendReport
  lastRTCPTime : next.lastRTCPTime = sender.lastRTCPTime
  internalReportBlocks : next.internalReportBlocks = sender.internalReportBlocks

theorem SameReports.refl (sender : RTCPSender) : SameReports sender sender := ⟨rfl, rfl, rfl⟩

theorem SameReports.trans {first second third : RTCPSender} (before : SameReports first second)
    (after : SameReports second third) : SameReports first third where
  lastSendReport := after.lastSendReport.trans before.lastSendReport
  lastRTCPTime := after.lastRTCPTime.trans before.lastRTCPTime
  internalReportBlocks := after.internalReportBlocks.trans before.internalReportBlocks

theorem SameReports.reportTimes {sender next : RTCPSender} (same : SameReports sender next) :
    next.reportTimes = sender.reportTimes := by
  rw [RTCPSender.reportTimes, same.lastSendReport, same.lastRTCPTime]
  rfl

theorem writeBlock_sameReports {room : Nat} {block : Bytes} {items : Option Nat}
    {sender next : RTCPSender} (same : SameReports sender next) (buffer : RtcpBuffer) :
    SameReports sender (writeBlock room block items sender next buffer).sender := by
  rw [writeBlock]
  split
  · exact .refl sender
  · exact same

/-- A stage that leaves the reports alone. -/
def Stage.KeepsReports (stage : Stage) : Prop :=
  ∀ sender buffer, ∀ built ∈ stage.build sender buffer, SameReports sender built.sender

theorem runStages_sameReports {stages : List Stage} :
    ∀ {sender buffer built}, (∀ stage ∈ stages, stage.KeepsReports) →
      runStages stages sender buffer = some built → SameReports sender built.sender := by
  induction stages with
  | nil =>
    intro sender buffer built _ run
    cases run
    exact .refl sender
  | cons stage rest induction =>
    intro sender buffer built keep run
    have later := fun other member => keep other (mem_cons_of_mem stage member)
    rw [runStages] at run
    split at run
    · rcases bind_eq_some_iff.mp run with ⟨first, result, onwards⟩
      have same := keep stage mem_cons_self sender buffer first result
      split at onwards
      · cases onwards
        exact same
      split at onwards
      · cases onwards
        exact same
      · exact same.trans (induction later onwards)
    · exact induction later run

theorem buildExtendedJitterReport_sameReports (jitter : UInt32) (sender : RTCPSender)
    (buffer : RtcpBuffer) :
    SameReports sender (sender.buildExtendedJitterReport jitter buffer).sender := by
  rw [buildExtendedJitterReport]
  split
  · exact .refl sender
  · exact writeBlock_sameReports (.refl sender) buffer

theorem buildRPSIFor_sameReports {request : PrepareRequest} {sender : RTCPSender}
    {buffer : RtcpBuffer} {built : Built}
    (result : sender.buildRPSIFor request buffer = some built) :
    SameReports sender built.sender := by
  rw [buildRPSIFor] at result
  split at result
  · cases result
    exact .refl sender
  rw [buildRPSI] at result
  split at result
  · cases result
    exact .refl sender
  · rcases bind_eq_some_iff.mp result with ⟨count, _, written⟩
    cases written
    exact writeBlock_sameReports (.refl sender) buffer

theorem buildBYE_sameReports (sender : RTCPSender) (buffer : RtcpBuffer) :
    SameReports sender (sender.buildBYE buffer).sender := by
  rw [buildBYE]
  split
  · exact writeBlock_sameReports (.refl sender) buffer
  · exact writeBlock_sameReports (.refl sender) buffer

theorem buildAPP_sameReports (sender : RTCPSender) (buffer : RtcpBuffer) :
    SameReports sender (sender.buildAPP buffer).sender := by
  rw [buildAPP]
  split
  · exact .refl sender
  · exact writeBlock_sameReports (.refl sender) buffer

theorem buildTMMBR_sameReports (module : Option (Option ReceivedBoundingSet)) (sender : RTCPSender)
    (buffer : RtcpBuffer) :
    SameReports sender (sender.buildTMMBR world module buffer).sender := by
  cases module with
  | none => exact .refl sender
  | some received =>
    rw [buildTMMBR]
    split
    · exact writeBlock_sameReports (.refl sender) buffer
    · exact .refl sender

theorem feedbackStages_keepReports (request : PrepareRequest)
    (flags : UInt32) (time : NtpTime) :
    ∀ stage ∈ feedbackStages world request flags time, stage.KeepsReports := by
  simp only [feedbackStages, forall_mem_cons, not_mem_nil, false_implies, implies_true, and_true]
  refine ⟨?_, ?_, ?_, ?_, ?_, ?_, ?_, ?_, ?_, ?_, ?_, ?_, ?_, ?_⟩
  all_goals intro sender buffer built result
  case refine_5 => exact buildRPSIFor_sameReports result
  all_goals
    cases result
  · exact buildExtendedJitterReport_sameReports 0 sender buffer
  · rw [buildPLI, writeBlock_count]
    apply writeBlock_sameReports
    exact ⟨rfl, rfl, rfl⟩
  · rw [buildFIR, writeBlock_count]
    apply writeBlock_sameReports
    exact ⟨rfl, rfl, rfl⟩
  · exact writeBlock_sameReports (.refl sender) buffer
  · exact writeBlock_sameReports (.refl sender) buffer
  · exact buildBYE_sameReports sender buffer
  · exact buildAPP_sameReports sender buffer
  · exact buildTMMBR_sameReports world request.feedbackState.module sender buffer
  · exact writeBlock_sameReports (.refl sender) buffer
  · rw [buildNACK, writeBlock_count]
    apply writeBlock_sameReports
    exact ⟨rfl, rfl, rfl⟩
  · exact writeBlock_sameReports (.refl sender) buffer
  · apply writeBlock_sameReports
    exact ⟨rfl, rfl, rfl⟩
  · exact writeBlock_sameReports (.refl sender) buffer

theorem buildSDEC_sameReports (sender : RTCPSender) (buffer : RtcpBuffer) :
    SameReports sender (sender.buildSDEC buffer).sender :=
  writeBlock_sameReports (.refl sender) buffer

theorem Built.ignoringRoom_sender (built : Built) : built.ignoringRoom.sender = built.sender := by
  rw [Built.ignoringRoom]
  split <;> rfl

/-- The records after the first block of a packet. -/
def afterReport (flags : UInt32) (time : NtpTime) (ready : RTCPSender) :
    RTCPSender :=
  if has kRtcpSr flags then
    if IP_PACKET_SIZE ≤ 28 + ready.reportBlockCount * 24 then ready.rememberReport world time
    else (ready.rememberReport world time).withoutInternal
  else if has kRtcpRr flags then ready.withoutInternal
  else ready

end

theorem runStages_afterReport {world : SenderWorld} {request : PrepareRequest} {flags : UInt32}
    {time : NtpTime} {ready : RTCPSender} {built : Built}
    (run : runStages (reportStages world request flags time ready ++
      feedbackStages world request flags time) ready .empty = some built) :
    SameReports (ready.afterReport world flags time) built.sender := by
  have feedback := feedbackStages_keepReports world request flags time
  rw [reportStages] at run
  rw [afterReport]
  by_cases sr : has kRtcpSr flags = true
  · rw [if_pos sr, cons_append, cons_append, nil_append, runStages_cons] at run
    rw [if_pos sr]
    simp only [Stage.result, if_true, bind_some, buildSR_empty] at run
    split at run
    · rename_i long
      rw [if_pos long]
      cases run
      exact .refl _
    · rename_i short
      rw [if_neg short]
      apply runStages_sameReports _ run
      rw [forall_mem_cons]
      refine ⟨fun sender buffer built result => ?_, feedback⟩
      cases result
      exact buildSDEC_sameReports sender buffer
  · have sdec : ∀ stage ∈ ({ wanted := has kRtcpRr flags && ready.cname.name ≠ []
                             build := fun sender buffer =>
                               some (sender.buildSDEC buffer).ignoringRoom } : Stage) ::
        feedbackStages world request flags time, stage.KeepsReports := by
      rw [forall_mem_cons]
      refine ⟨fun sender buffer built result => ?_, feedback⟩
      cases result
      rw [Built.ignoringRoom_sender]
      exact buildSDEC_sameReports sender buffer
    rw [if_neg sr, cons_append, cons_append, nil_append, runStages_cons] at run
    rw [if_neg sr]
    by_cases rr : has kRtcpRr flags = true
    · simp only [Stage.result, rr, if_true, bind_some, buildRR_empty] at run
      rw [if_pos rr]
      simp only [rr] at sdec
      exact runStages_sameReports sdec run
    · simp only [Stage.result, rr] at run
      rw [if_neg rr]
      simp only [rr] at sdec
      exact runStages_sameReports sdec run

section Prepared

variable {world : SenderWorld} {request : PrepareRequest} {sender : RTCPSender}

theorem scheduled_sameReports (flags : UInt32) :
    SameReports sender (sender.scheduled request flags) := by
  rw [scheduled]
  split
  · exact ⟨rfl, rfl, rfl⟩
  · exact ⟨rfl, rfl, rfl⟩

theorem scheduled_shouldSend (flags : UInt32) :
    (sender.scheduled request flags).shouldSendReportBlocks flags =
      sender.shouldSendReportBlocks flags := by
  rw [scheduled]
  split <;> rfl

theorem prepared_of_idle (idle : sender.collects request = false) :
    SameReports sender (sender.prepared world request).2.2 := by
  rw [prepared]
  simp only [scheduled_shouldSend]
  split
  · rename_i collecting
    rw [collects, decide_eq_true collecting.2, Bool.and_true, collecting.1] at idle
    cases idle
  · exact scheduled_sameReports _

theorem collectReportBlocks_reportTimes (feedbackState : FeedbackState)
    (statisticians : List StreamStatistician) :
    ∀ time (sender : RTCPSender),
      (collectReportBlocks feedbackState statisticians time sender).2.reportTimes =
        sender.reportTimes := by
  induction statisticians with
  | nil => exact fun _ _ => rfl
  | cons statistician rest induction =>
    intro time sender
    rw [collectReportBlocks]
    split
    · exact induction time sender
    · exact induction _ _

theorem setLatestTime_reportTimes (value : UInt32) :
    (sender.setLatestTime value).reportTimes =
      sender.reportTimes.modify 0 fun entry => (entry.1, value) := by
  change sender.lastSendReport.values.zip (sender.lastRTCPTime.values.set 0 value) =
    (sender.lastSendReport.values.zip sender.lastRTCPTime.values).modify 0 _
  cases sender.lastSendReport.values with
  | nil => rfl
  | cons mid mids =>
    cases sender.lastRTCPTime.values with
    | nil => rfl
    | cons ms rest => rfl

theorem prepared_of_collects (collecting : sender.collects request = true) :
    ∃ value, (sender.prepared world request).2.2.reportTimes =
      sender.reportTimes.modify 0 fun entry => (entry.1, value) := by
  rw [collects, Bool.and_eq_true, decide_eq_true_eq] at collecting
  have before : SameReports sender (sender.scheduled request
      (sender.attachedFlags request.feedbackState request.packetTypeFlags)) :=
    scheduled_sameReports _
  refine ⟨reportMs world (sender.prepared world request).2.1, ?_⟩
  rw [prepared]
  simp only [scheduled_shouldSend]
  rw [if_pos collecting]
  change (RTCPSender.setLatestTime _ _).reportTimes = _
  rw [setLatestTime_reportTimes, collectReportBlocks_reportTimes, before.reportTimes]
  rfl

end Prepared

/-! ## The reports that are remembered -/

def reportEntry (world : SenderWorld) (time : NtpTime) : UInt32 × UInt32 :=
  (midNtp time, reportMs world time)

/-- The arrays hold the last recorded reports, the latest first. -/
def Remembers (world : SenderWorld) (recorded : List NtpTime) (sender : RTCPSender) : Prop :=
  ∃ older : List (UInt32 × UInt32), (∀ entry ∈ older, entry.1 = 0) ∧
    sender.reportTimes = (recorded.map (reportEntry world) ++ older).take RTCP_NUMBER_OF_SR

/-- The kept times can be told apart by the names of their reports. -/
structure Recorded (world : SenderWorld) (recorded : List NtpTime) : Prop where
  nonzero : ∀ time ∈ recorded, midNtp time ≠ 0 ∧ reportMs world time ≠ 0
  distinct : ∀ first ∈ recorded.take RTCP_NUMBER_OF_SR, ∀ second ∈ recorded.take RTCP_NUMBER_OF_SR,
      midNtp first = midNtp second → reportMs world first = reportMs world second

theorem reportTimes_cons (sender : RTCPSender) :
    ∃ time rest, sender.reportTimes = (sender.lastSendReport.first, time) :: rest := by
  have mids := sender.lastSendReport.length_eq
  have times := sender.lastRTCPTime.length_eq
  cases midValues : sender.lastSendReport.values with
  | nil =>
    rw [midValues] at mids
    cases mids
  | cons mid otherMids =>
    cases timeValues : sender.lastRTCPTime.values with
    | nil =>
      rw [timeValues] at times
      cases times
    | cons time otherTimes =>
      refine ⟨time, otherMids.zip otherTimes, ?_⟩
      rw [reportTimes, midValues, timeValues, ReportHistory.first_eq midValues]
      rfl

section Recorded

variable {world : SenderWorld} {recorded : List NtpTime} {sender : RTCPSender}

theorem Remembers.of_reportTimes {next : RTCPSender} (remembers : Remembers world recorded sender)
    (same : next.reportTimes = sender.reportTimes) : Remembers world recorded next := by
  rcases remembers with ⟨older, unnamed, times⟩
  exact ⟨older, unnamed, same.trans times⟩

theorem Remembers.push (remembers : Remembers world recorded sender) (time : NtpTime) :
    Remembers world (time :: recorded) (sender.rememberReport world time) := by
  rcases remembers with ⟨older, unnamed, times⟩
  refine ⟨older, unnamed, ?_⟩
  rw [rememberReport_reportTimes, times, take_take, map_cons, cons_append]
  rfl

theorem Remembers.first_ne_zero {time : NtpTime}
    (remembers : Remembers world (time :: recorded) sender) (named : midNtp time ≠ 0) :
    sender.lastSendReport.first ≠ 0 := by
  rcases remembers with ⟨older, _, times⟩
  rcases reportTimes_cons sender with ⟨_, _, cons⟩
  rw [cons] at times
  have first := congrArg Prod.fst (head_eq_of_cons_eq times)
  exact fun zero => named (first.symm.trans zero)

theorem Remembers.modify {next : RTCPSender} {value : UInt32} (remembers : Remembers world [] sender)
    (times : next.reportTimes = sender.reportTimes.modify 0 fun entry => (entry.1, value)) :
    Remembers world [] next := by
  rcases remembers with ⟨older, unnamed, before⟩
  refine ⟨older.modify 0 fun entry => (entry.1, value), ?_, ?_⟩
  · intro entry member
    rcases older with _ | ⟨first, rest⟩
    · cases member
    · rcases mem_cons.mp member with rfl | later
      · exact unnamed first mem_cons_self
      · exact unnamed entry (mem_cons_of_mem _ later)
  · rw [times, before]
    cases older with
    | nil => rfl
    | cons first rest => rfl

theorem Recorded.push {time : NtpTime} (kept : Recorded world recorded)
    (remembers : Remembers world recorded sender) (distinct : Distinct world time sender) :
    Recorded world (time :: recorded) where
  nonzero := by
    rw [forall_mem_cons]
    exact ⟨⟨distinct.1, distinct.2.1⟩, kept.nonzero⟩
  distinct := by
    have known : ∀ other ∈ recorded.take 59, midNtp other = midNtp time →
        reportMs world other = reportMs world time := by
      intro other member same
      rcases remembers with ⟨older, _, times⟩
      apply distinct.2.2 (reportEntry world other) _ same
      rw [times, take_take, show min (RTCP_NUMBER_OF_SR - 1) RTCP_NUMBER_OF_SR = 59 from rfl,
        take_append, ← map_take]
      exact mem_append_left _ (List.mem_map_of_mem member)
    have earlier {other : NtpTime} (member : other ∈ recorded.take 59) :
        other ∈ recorded.take RTCP_NUMBER_OF_SR :=
      (take_prefix_take_left (by decide)).subset member
    rw [show RTCP_NUMBER_OF_SR = 59 + 1 from rfl, take_succ_cons]
    intro first firstMember second secondMember same
    rcases mem_cons.mp firstMember with rfl | firstEarlier
    · rcases mem_cons.mp secondMember with rfl | secondEarlier
      · rfl
      · exact (known second secondEarlier same.symm).symm
    · rcases mem_cons.mp secondMember with rfl | secondEarlier
      · exact known first firstEarlier same
      · exact kept.distinct first (earlier firstEarlier) second (earlier secondEarlier) same

theorem Recorded.sendTimeOfSendReport (kept : Recorded world recorded)
    (remembers : Remembers world recorded sender) {time : NtpTime}
    (member : time ∈ recorded.take RTCP_NUMBER_OF_SR) :
    sender.sendTimeOfSendReport (midNtp time) = reportMs world time := by
  have named := (kept.nonzero time (mem_of_mem_take member)).1
  have first : sender.lastSendReport.first ≠ 0 := by
    cases recorded with
    | nil => simp at member
    | cons latest rest =>
      exact remembers.first_ne_zero (kept.nonzero latest mem_cons_self).1
  rcases remembers with ⟨older, _, times⟩
  rw [RTCPSender.sendTimeOfSendReport, if_neg (not_or.mpr ⟨first, named⟩), times,
    take_append, ← map_take, List.find?_append]
  cases found : ((recorded.take RTCP_NUMBER_OF_SR).map (reportEntry world)).find? fun entry =>
      decide (entry.1 = midNtp time) with
  | none =>
    have absent := List.find?_eq_none.mp found (reportEntry world time)
      (List.mem_map_of_mem member)
    exact absurd (decide_eq_true rfl) absent
  | some entry =>
    have same : entry.1 = midNtp time := by
      simpa using (List.find?_eq_some_iff_append.mp found).1
    rcases List.mem_map.mp (List.mem_of_find?_eq_some found) with ⟨other, otherMember, rfl⟩
    exact kept.distinct other otherMember time member same

end Recorded

theorem prepareRTCP_afterReport {world : SenderWorld} {request : PrepareRequest}
    {sender : RTCPSender} {built : Built}
    (returned : sender.prepareRTCP world request = some built) :
    SameReports ((sender.prepared world request).2.2.afterReport world
      (sender.prepared world request).1 (sender.prepared world request).2.1) built.sender :=
  runStages_afterReport returned

/-! ## Runs -/

namespace ReportRun

variable {world : SenderWorld}

/-- The written reports are recorded. Attempts that failed are recorded behind them: they are
possible only while there are too many report blocks, and the first written report clears
these. -/
structure Keeps (world : SenderWorld) (run : ReportRun) (failed : List NtpTime) : Prop where
  remembers : Remembers world (run.reports ++ failed) run.sender
  recorded : Recorded world (run.reports ++ failed)
  cleared : run.reports ≠ [] → run.sender.internalReportBlocks.entries = []

def Invariant (world : SenderWorld) (run : ReportRun) : Prop := ∃ failed, Keeps world run failed

theorem started_invariant (settings : RTCPSender) : Invariant world (started settings) := by
  refine ⟨[], ?_, ?_, ?_⟩
  · exact ⟨List.replicate RTCP_NUMBER_OF_SR (0, 0), by simp, rfl⟩
  · exact ⟨by simp [started], by simp [started]⟩
  · simp [started]

theorem configure_invariant {run : ReportRun} (settings : RTCPSender)
    (invariant : Invariant world run) :
    Invariant world { run with sender := settings.withRecords run.sender.records } := by
  rcases invariant with ⟨failed, keeps⟩
  exact ⟨failed, keeps.remembers.of_reportTimes rfl, keeps.recorded, keeps.cleared⟩

/-- Before the first block the records are as they were, but for the time of a report that has
not been written. -/
theorem prepared_keeps {run : ReportRun} {failed : List NtpTime} {request : PrepareRequest}
    (keeps : Keeps world run failed)
    (idle : run.sender.collects request → run.sender.lastSendReport.first = 0) :
    Remembers world (run.reports ++ failed) (run.sender.prepared world request).2.2 ∧
      (run.reports ≠ [] →
        (run.sender.prepared world request).2.2.internalReportBlocks.entries = []) := by
  cases collecting : run.sender.collects request with
  | false =>
    have same : SameReports run.sender (run.sender.prepared world request).2.2 :=
      prepared_of_idle collecting
    refine ⟨keeps.remembers.of_reportTimes same.reportTimes, fun written => ?_⟩
    rw [same.internalReportBlocks]
    exact keeps.cleared written
  | true =>
    have unnamed := idle collecting
    cases recorded : run.reports ++ failed with
    | nil =>
      have collected : ∃ value, (run.sender.prepared world request).2.2.reportTimes =
          run.sender.reportTimes.modify 0 fun entry => (entry.1, value) :=
        prepared_of_collects collecting
      rcases collected with ⟨value, times⟩
      have remembers := keeps.remembers
      rw [recorded] at remembers
      refine ⟨remembers.modify times, fun written => ?_⟩
      exact absurd (append_eq_nil_iff.mp recorded).1 written
    | cons latest rest =>
      have remembers := keeps.remembers
      have named := keeps.recorded.nonzero
      rw [recorded] at remembers named
      exact absurd unnamed
        (remembers.first_ne_zero (named latest mem_cons_self).1)

theorem few_of_cleared {sender : RTCPSender} (cleared : sender.internalReportBlocks.entries = []) :
    ¬ IP_PACKET_SIZE ≤ 28 + sender.reportBlockCount * 24 := by
  have external : sender.externalReportBlocks.entries.length ≤ 31 :=
    sender.externalReportBlocks.entries_le
  rw [reportBlockCount, cleared, length_nil, IP_PACKET_SIZE]
  omega

theorem prepare_invariant {run : ReportRun} {request : PrepareRequest} {built : Built}
    (invariant : Invariant world run) (allowed : KeepsTimes world request run.sender)
    (prepared : run.sender.prepareRTCP world request = some built) :
    Invariant world {
      sender := built.sender
      reports := (run.sender.writtenReport world request).toList ++ run.reports } := by
  rcases invariant with ⟨failed, keeps⟩
  rcases prepared_keeps keeps allowed.1 with ⟨remembers, cleared⟩
  have same := prepareRTCP_afterReport prepared
  rw [afterReport] at same
  rw [writtenReport]
  by_cases sr : has kRtcpSr (run.sender.prepared world request).1 = true
  · have recorded := keeps.recorded.push keeps.remembers (allowed.2 sr)
    have pushed := remembers.push (run.sender.prepared world request).2.1
    rw [if_pos sr] at same
    simp only [buildSR_empty, sr, true_and]
    by_cases long : IP_PACKET_SIZE ≤
        28 + (run.sender.prepared world request).2.2.reportBlockCount * 24
    · have unwritten : run.reports = [] := by
        by_contra written
        exact few_of_cleared (cleared written) long
      rw [if_pos long] at same
      rw [if_pos long, if_neg (show ¬ (-1 : Int) = 0 by decide)]
      rw [unwritten] at pushed recorded ⊢
      exact ⟨_ :: failed, pushed.of_reportTimes same.reportTimes, recorded,
        fun written => absurd rfl written⟩
    · rw [if_neg long] at same
      rw [if_neg long, if_pos rfl]
      refine ⟨failed, pushed.of_reportTimes same.reportTimes, recorded, fun _ => ?_⟩
      rw [same.internalReportBlocks]
      rfl
  · rw [if_neg sr] at same
    simp only [sr, Bool.false_eq_true, false_and, if_false, toList_none, nil_append]
    by_cases rr : has kRtcpRr (run.sender.prepared world request).1 = true
    · rw [if_pos rr] at same
      refine ⟨failed, remembers.of_reportTimes same.reportTimes, keeps.recorded, fun _ => ?_⟩
      rw [same.internalReportBlocks]
      rfl
    · rw [if_neg rr] at same
      refine ⟨failed, remembers.of_reportTimes same.reportTimes, keeps.recorded, fun written => ?_⟩
      rw [same.internalReportBlocks]
      exact cleared written

theorem step_invariant {run next : ReportRun} {operation : ReportOperation}
    (invariant : Invariant world run) (allowed : Allowed world run operation)
    (stepped : step world run operation = some next) : Invariant world next := by
  cases operation with
  | configure settings =>
    cases stepped
    exact configure_invariant settings invariant
  | prepare request =>
    rcases bind_eq_some_iff.mp stepped with ⟨built, prepared, result⟩
    cases result
    exact prepare_invariant invariant allowed prepared

end ReportRun

/-! ## Round-trip times -/

theorem uint32_ofInt_natCast (count : Nat) : UInt32.ofInt count = UInt32.ofNat count := by
  apply UInt32.toNat_inj.mp
  rw [UInt32.ofInt, UInt32.toNat_ofNat', UInt32.toNat_ofNat']
  omega

theorem delayWord_eq (delay : UInt32) : delayWord delay = UInt32.ofInt (delayMs delay) := by
  have bound := delay.toNat_lt
  have low : (delay &&& (0x0000ffff : UInt32)).toNat = delay.toNat % 2 ^ 16 := by
    rw [UInt32.toNat_and, show (0x0000ffff : UInt32).toNat = 2 ^ 16 - 1 from rfl,
      Nat.and_two_pow_sub_one_eq_mod]
  have high : ((delay &&& (0xffff0000 : UInt32)) >>> 16).toNat = delay.toNat / 2 ^ 16 := by
    rw [UInt32.toNat_shiftRight, UInt32.toNat_and, Nat.shiftRight_and_distrib,
      show (16 : UInt32).toNat % 32 = 16 from rfl,
      show (0xffff0000 : UInt32).toNat >>> 16 = 2 ^ 16 - 1 from rfl,
      Nat.and_two_pow_sub_one_eq_mod, Nat.shiftRight_eq_div_pow]
    omega
  have ms : delayMs delay = (delay.toNat % 2 ^ 16 * 1000 / 2 ^ 16 +
      delay.toNat / 2 ^ 16 * 1000 : Nat) := by
    rw [delayMs]
    push_cast
    rfl
  rw [ms, uint32_ofInt_natCast]
  apply UInt32.toNat_inj.mp
  rw [delayWord, UInt32.toNat_add, UInt32.toNat_div, UInt32.toNat_mul, UInt32.toNat_mul, low, high,
    UInt32.toNat_ofNat', show (1000 : UInt32).toNat = 1000 from rfl,
    show (65536 : UInt32).toNat = 2 ^ 16 from rfl]
  clear low high ms
  generalize delay.toNat = units at bound ⊢
  rw [Nat.mod_eq_of_lt (show units % 2 ^ 16 * 1000 < 2 ^ 32 by omega),
    Nat.mod_eq_of_lt (show units / 2 ^ 16 * 1000 < 2 ^ 32 by omega)]

/-- Times that are kept modulo `2 ^ 32` have the right difference as long as it is a positive
number of 32 bits. -/
theorem roundTripTime_elapsed {world : SenderWorld} {time now : NtpTime}
    (nonzero : reportMs world time ≠ 0) (delay : UInt32)
    (positive : 0 < world.ntpToMs now - delayMs delay - world.ntpToMs time)
    (short : world.ntpToMs now - delayMs delay - world.ntpToMs time < 2 ^ 31) :
    roundTripTime (reportMs world now) delay (reportMs world time) =
      some (world.ntpToMs now - delayMs delay - world.ntpToMs time) := by
  have known : reportMs world time > 0 := UInt32.pos_iff_ne_zero.mpr nonzero
  have difference : reportMs world now - UInt32.ofInt (delayMs delay) - reportMs world time =
      UInt32.ofInt (world.ntpToMs now - delayMs delay - world.ntpToMs time) := by
    simp only [reportMs, Int.sub_eq_add_neg, UInt32.ofInt_add, UInt32.ofInt_neg,
      UInt32.sub_eq_add_neg]
  rw [roundTripTime, if_pos known]
  simp only [delayWord_eq, difference]
  generalize world.ntpToMs now - delayMs delay - world.ntpToMs time = elapsed at positive short
  rcases Int.eq_ofNat_of_zero_le positive.le with ⟨count, rfl⟩
  have signed : (UInt32.ofInt count).toInt32.toInt = count := by
    rw [uint32_ofInt_natCast, UInt32.toInt32_ofNat']
    exact Int32.toInt_ofNat_of_lt (by omega)
  rw [signed, if_neg (by omega)]

/-- In every run whose calls keep the times, the time of each of the last sender reports is
found by its name, and a report block that refers to it gives the time that has passed. -/
theorem sendTimeOfSendReport_of_reached (world : SenderWorld) (settings : RTCPSender)
    (operations : List ReportOperation) (last : ReportRun)
    (allowed : Run.Permitted (ReportRun.step world) (ReportRun.Allowed world)
      (ReportRun.started settings) operations)
    (reached : Run.reached (ReportRun.step world) (ReportRun.started settings) operations =
      some last) :
    ∀ time ∈ last.reports.take RTCP_NUMBER_OF_SR,
      last.sender.sendTimeOfSendReport (midNtp time) = reportMs world time ∧
        ∀ now delay, let elapsed := world.ntpToMs now - delayMs delay - world.ntpToMs time
          0 < elapsed → elapsed < 2 ^ 31 → roundTripTime (reportMs world now) delay
              (last.sender.sendTimeOfSendReport (midNtp time)) = some elapsed := by
  have invariant := Run.invariant_of_reached (ReportRun.step world)
    (fun _ _ _ => ReportRun.step_invariant) (ReportRun.started_invariant settings) allowed reached
  rcases invariant with ⟨failed, keeps⟩
  intro time member
  have kept : time ∈ (last.reports ++ failed).take RTCP_NUMBER_OF_SR := by
    rw [take_append]
    exact mem_append_left _ member
  have found := keeps.recorded.sendTimeOfSendReport keeps.remembers kept
  have nonzero := (keeps.recorded.nonzero time (mem_of_mem_take kept)).2
  refine ⟨found, fun now delay positive short => ?_⟩
  rw [found]
  exact roundTripTime_elapsed nonzero delay positive short

def sendingSender : RTCPSender := { create true with method := .kRtcpCompound, sending := true }

def reportAt (seconds : UInt32) : PrepareRequest :=
  { sampleRequest with currentNtp := { seconds, fractions := 0 } }

/-- The endpoint receives a stream, too. -/
def receivingReportAt (seconds : UInt32) : PrepareRequest :=
  { reportAt seconds with
    statisticians := [{
      ssrc := 7
      statistics := some ({ fractionLost := 0, cumulativeLost := 0
                            extendedMaxSequenceNumber := 1, jitter := 0 },
        { seconds, fractions := 0 }) }] }

def sendingRun : List ReportOperation := [.prepare (reportAt 10), .prepare (reportAt 15)]

theorem sendingRun_returns :
    (Run.reached (ReportRun.step sampleWorld) (ReportRun.started sendingSender)
      sendingRun).isSome := by decide +kernel

theorem sendTimeOfSendReport_of_reached_sendingRun :
    ∃ last, Run.reached (ReportRun.step sampleWorld) (ReportRun.started sendingSender) sendingRun =
        some last ∧
      last.reports = [{ seconds := 15, fractions := 0 }, { seconds := 10, fractions := 0 }] ∧
      ∀ time ∈ last.reports.take RTCP_NUMBER_OF_SR,
        last.sender.sendTimeOfSendReport (midNtp time) = reportMs sampleWorld time ∧ ∀ now delay,
            let elapsed := sampleWorld.ntpToMs now - delayMs delay - sampleWorld.ntpToMs time
            0 < elapsed → elapsed < 2 ^ 31 → roundTripTime (reportMs sampleWorld now) delay
                (last.sender.sendTimeOfSendReport (midNtp time)) = some elapsed := by
  refine ⟨_, (some_get sendingRun_returns).symm, by decide +kernel, ?_⟩
  exact sendTimeOfSendReport_of_reached sampleWorld sendingSender sendingRun _ (by decide +kernel)
    (some_get sendingRun_returns).symm

def receivingRun : List ReportOperation :=
  [.prepare (reportAt 10), .prepare (receivingReportAt 15)]

theorem receivingRun_returns :
    (Run.reached (ReportRun.step sampleWorld) (ReportRun.started sendingSender)
      receivingRun).isSome := by decide +kernel

/-- The second report replaces the time of the first. -/
theorem not_sendTimeOfSendReport_receivingRun :
    ¬ ∀ last, Run.reached (ReportRun.step sampleWorld) (ReportRun.started sendingSender)
        receivingRun = some last →
      ∀ time ∈ last.reports.take RTCP_NUMBER_OF_SR,
        last.sender.sendTimeOfSendReport (midNtp time) = reportMs sampleWorld time := by
  intro found
  have times := found _ (some_get receivingRun_returns).symm
  revert times
  decide +kernel

end ZyWebRtc.Rtcp.RTCPSender
