import ZyWebRtc.Rtp.ExtendedSequence

namespace ZyWebRtc.Rtp.LossAccounting

/-! The loss in receiver reports against what has arrived: the packets that were expected from
the first to the highest one, less those that were received. -/

open StreamStatisticianImpl
open UInt32 Nat

inductive Event
  | packet (clock : ClockReading) (header : RTPHeader) (frequency bytes : UInt32)
      (retransmitted : Bool)
  | report (reset : Bool)
  | threshold (maxReorderingThreshold : Int)

/-- What a report is about: the highest number and the packets up to it, and the fraction that
was lost since the report before it, of 255. -/
structure Snapshot where
  highest : Int
  received : Nat
  fraction : Nat

/-- The statistics, with the extended numbers of the first and of the highest packet, the packets
that have been received, and the last report. -/
structure Accounting where
  statistician : StreamStatisticianImpl
  first : Int
  highest : Int
  received : Nat
  reported : Option Snapshot

namespace Accounting

def initial : Accounting where
  statistician := .initial
  first := 0
  highest := 0
  received := 0
  reported := none

variable (accounting : Accounting)

/-- The highest number at the last report, or the one before the first packet. -/
def reportedHighest : Int := (accounting.reported.map Snapshot.highest).getD (accounting.first - 1)

def reportedReceived : Nat := (accounting.reported.map Snapshot.received).getD 0

def expectedSinceLast : Int := accounting.highest - accounting.reportedHighest

/-- The packets that were lost since the last report, less those that came late. -/
def lostSinceLast : Int :=
  accounting.expectedSinceLast - (accounting.received - accounting.reportedReceived)

/-- What a report is to say now. -/
def snapshot : Snapshot where
  highest := accounting.highest
  received := accounting.received
  fraction := 255 * accounting.lostSinceLast.toNat / accounting.expectedSinceLast.toNat

def step : Event → Accounting
  | .packet clock header frequency bytes retransmitted =>
    let statistician := accounting.statistician
    let number := header.sequenceNumber
    { accounting with
      statistician := statistician.incomingPacket clock header frequency bytes retransmitted
      first := if statistician.firstPacket then number.toNat else accounting.first
      highest :=
        if statistician.firstPacket then number.toNat
        else if statistician.inOrderPacketInternal number then
          accounting.highest + (number - statistician.receivedSeqMax).toNat
        else accounting.highest
      received := accounting.received + 1 }
  | .report reset =>
    let (given, statistician) := accounting.statistician.getStatistics reset
    { accounting with
      statistician
      reported := if reset ∧ given.isSome then some accounting.snapshot else accounting.reported }
  | .threshold maxReorderingThreshold =>
    { accounting with
      statistician := accounting.statistician.setMaxReorderingThreshold maxReorderingThreshold }

end Accounting

/-- The packets expected from the first one on, less the received ones. -/
def Snapshot.lost (snapshot : Snapshot) (first : Int) : Int :=
  snapshot.highest - first + 1 - snapshot.received

/-- The statistics say what a snapshot does. -/
structure Reports (statistics : Statistics) (first : Int) (snapshot : Snapshot) : Prop where
  cumulativeLost : (statistics.cumulativeLost.toNat : Int) = snapshot.lost first
  fractionLost : statistics.fractionLost.toNat = snapshot.fraction
  extendedMax : statistics.extendedMaxSequenceNumber = UInt32.ofInt snapshot.highest

/-- What a call of `GetStatistics` gives is what has been lost up to now, or, without a reset, up
to the last report. -/
def AccountsFor (accounting : Accounting) : Event → Prop
  | .report reset => ∀ statistics,
      (accounting.statistician.getStatistics reset).1 = some statistics →
        ∃ snapshot, (if reset then some accounting.snapshot else accounting.reported) =
          some snapshot ∧ Reports statistics accounting.first snapshot
  | .packet .. | .threshold _ => True

/-- Since the last report nothing was lost on balance, or packets were lost and the 16-bit
numbers have not wrapped. Fewer than 2^32 packets have been received, and fewer lost. -/
def Counts (accounting : Accounting) : Prop :=
  (accounting.received < 2 ^ 32 ∧ accounting.snapshot.lost accounting.first < 2 ^ 32) ∧
    (accounting.lostSinceLast = 0 ∨ (0 < accounting.lostSinceLast ∧
        accounting.reportedHighest / 65536 = accounting.highest / 65536))

instance (accounting : Accounting) : Decidable (Counts accounting) :=
  inferInstanceAs (Decidable (_ ∧ (_ ∨ _)))

/-- A new report is made where the loss can be counted. -/
def Accountable (accounting : Accounting) : Event → Prop
  | .report true => Counts accounting
  | .report false | .packet .. | .threshold _ => True

instance (accounting : Accounting) : (event : Event) → Decidable (Accountable accounting event)
  | .report true => inferInstanceAs (Decidable (Counts accounting))
  | .report false | .packet .. | .threshold _ => inferInstanceAs (Decidable True)

/-! ## The counters of the loss -/

/-- The members that the loss is computed from. -/
structure LossCounters where
  firstPacket : Bool
  byteCount : UInt32
  seqFirst : UInt16
  seqMax : UInt16
  seqWraps : UInt16
  inorder : UInt32
  retransmitted : UInt32
  reportInorder : UInt32
  reportOld : UInt32
  reportSeqMax : UInt16
  cumulativeLoss : UInt32
  lastReported : Statistics

def lossCounters (statistician : StreamStatisticianImpl) : LossCounters where
  firstPacket := statistician.firstPacket
  byteCount := statistician.receivedByteCount
  seqFirst := statistician.receivedSeqFirst
  seqMax := statistician.receivedSeqMax
  seqWraps := statistician.receivedSeqWraps
  inorder := statistician.receivedInorderPacketCount
  retransmitted := statistician.receivedRetransmittedPackets
  reportInorder := statistician.lastReportInorderPackets
  reportOld := statistician.lastReportOldPackets
  reportSeqMax := statistician.lastReportSeqMax
  cumulativeLoss := statistician.cumulativeLoss
  lastReported := statistician.lastReportedStatistics

section Counters

variable (statistician : StreamStatisticianImpl) (clock : ClockReading) (header : RTPHeader)
  (frequency bytes : UInt32) (retransmitted : Bool)

theorem lossCounters_updateJitter :
    lossCounters (statistician.updateJitter clock header frequency) =
      lossCounters statistician := by
  rw [updateJitter]
  split <;> rfl

theorem lossCounters_first (first : statistician.firstPacket = true) :
    lossCounters (statistician.incomingPacket clock header frequency bytes retransmitted) =
      { lossCounters statistician with
        firstPacket := false
        byteCount := statistician.receivedByteCount + bytes
        seqFirst := header.sequenceNumber
        seqMax := header.sequenceNumber
        inorder := 1 } := by
  have same : statistician.incomingPacket clock header frequency bytes retransmitted =
      { statistician with
        receivedByteCount := statistician.receivedByteCount + bytes }.startStatistics clock header :=
    if_pos first
  rw [same]
  rfl

theorem lossCounters_inOrder (later : statistician.firstPacket = false)
    (inOrder : statistician.inOrderPacketInternal header.sequenceNumber = true) :
    lossCounters (statistician.incomingPacket clock header frequency bytes retransmitted) =
      { lossCounters statistician with
        byteCount := statistician.receivedByteCount + bytes
        seqMax := header.sequenceNumber
        seqWraps :=
          if header.sequenceNumber < statistician.receivedSeqMax then
            statistician.receivedSeqWraps + 1
          else statistician.receivedSeqWraps
        inorder := statistician.receivedInorderPacketCount + 1 } := by
  have same : statistician.incomingPacket clock header frequency bytes retransmitted =
      ({ statistician with
        receivedByteCount := statistician.receivedByteCount + bytes }.advanceStatistics clock header
          frequency).updateOverhead header :=
    (if_neg (ne_true_of_eq_false later)).trans (if_pos inOrder)
  rw [same]
  exact lossCounters_updateJitter _ clock header frequency

theorem lossCounters_old (later : statistician.firstPacket = false)
    (old : statistician.inOrderPacketInternal header.sequenceNumber = false) :
    lossCounters (statistician.incomingPacket clock header frequency bytes retransmitted) =
      if retransmitted then
        { lossCounters statistician with
          byteCount := statistician.receivedByteCount + bytes
          retransmitted := statistician.receivedRetransmittedPackets + 1 }
      else
        { lossCounters statistician with
          byteCount := statistician.receivedByteCount + bytes
          inorder := statistician.receivedInorderPacketCount + 1 } := by
  have same : statistician.incomingPacket clock header frequency bytes retransmitted =
      ({ statistician with
        receivedByteCount := statistician.receivedByteCount + bytes }.countOldPacket
          retransmitted).updateOverhead header :=
    (if_neg (ne_true_of_eq_false later)).trans (if_neg (ne_true_of_eq_false old))
  rw [same, countOldPacket]
  split <;> rfl

end Counters

/-- The counters are the accounts, as far as their width goes. -/
structure Balanced (accounting : Accounting) (counters : LossCounters) : Prop where
  started : counters.firstPacket = true ↔ accounting.received = 0
  untouched : accounting.received = 0 → counters.retransmitted = 0 ∧ counters.seqWraps = 0 ∧
    counters.seqFirst = 0 ∧ counters.byteCount = 0
  counted : accounting.received ≠ 0 → ∃ old < accounting.received,
    counters.retransmitted = UInt32.ofNat old ∧
      counters.inorder = UInt32.ofNat (accounting.received - old)
  seqFirst : accounting.received ≠ 0 → counters.seqFirst = UInt16.ofInt accounting.first
  seqMax : accounting.received ≠ 0 → counters.seqMax = UInt16.ofInt accounting.highest
  seqWraps : accounting.received ≠ 0 → counters.seqWraps = UInt16.ofInt (accounting.highest / 65536)
  first_le : accounting.received ≠ 0 → accounting.first ≤ accounting.highest
  unreported : accounting.reported = none →
    counters.reportInorder = 0 ∧ counters.reportOld = 0 ∧ counters.cumulativeLoss = 0
  reported : ∀ snapshot ∈ accounting.reported,
    (0 < snapshot.received ∧ snapshot.received ≤ accounting.received) ∧
      snapshot.highest ≤ accounting.highest ∧ counters.reportInorder ≠ 0 ∧
      counters.reportInorder + counters.reportOld = UInt32.ofNat snapshot.received ∧
      counters.reportSeqMax = UInt16.ofInt snapshot.highest ∧
      (counters.cumulativeLoss.toNat : Int) = snapshot.lost accounting.first ∧
      Reports counters.lastReported accounting.first snapshot

def Invariant (accounting : Accounting) : Prop :=
  Balanced accounting (lossCounters accounting.statistician)

theorem invariant_initial : Invariant .initial where
  started := by decide
  untouched := fun _ => ⟨rfl, rfl, rfl, rfl⟩
  counted := fun some => absurd rfl some
  seqFirst := fun some => absurd rfl some
  seqMax := fun some => absurd rfl some
  seqWraps := fun some => absurd rfl some
  first_le := fun some => absurd rfl some
  unreported := fun _ => ⟨rfl, rfl, rfl⟩
  reported := fun _ member => by cases member

theorem Balanced.reported_none {accounting : Accounting} {counters : LossCounters}
    (balanced : Balanced accounting counters) (none : accounting.received = 0) :
    accounting.reported = .none := by
  cases reported : accounting.reported with
  | none => rfl
  | some snapshot =>
    have positive := (balanced.reported snapshot reported).1
    omega

theorem advance_numbers {highest : Int} {number seqMax wraps : UInt16}
    (maximum : seqMax = UInt16.ofInt highest) (wrapped : wraps = UInt16.ofInt (highest / 65536)) :
    number = UInt16.ofInt (highest + (number - seqMax).toNat) ∧
      (if number < seqMax then wraps + 1 else wraps) =
        UInt16.ofInt ((highest + (number - seqMax).toNat) / 65536) := by
  have old := toNat_ofInt16 highest
  have difference : ((number - seqMax).toNat : Int) = (number.toNat - seqMax.toNat) % 65536 := by
    have bound := number.toNat_lt
    have other := seqMax.toNat_lt
    rw [UInt16.toNat_sub]
    omega
  rw [← maximum] at old
  have bound := number.toNat_lt
  have other := seqMax.toNat_lt
  constructor
  · apply UInt16.toNat_inj.mp
    have new := toNat_ofInt16 (highest + (number - seqMax).toNat)
    omega
  · split
    · rename_i less
      rw [UInt16.lt_iff_toNat_lt] at less
      have next : (highest + (number - seqMax).toNat) / 65536 = highest / 65536 + 1 := by omega
      rw [next, UInt16.ofInt_add, wrapped]
      rfl
    · rename_i notLess
      rw [UInt16.lt_iff_toNat_lt] at notLess
      have next : (highest + (number - seqMax).toNat) / 65536 = highest / 65536 := by omega
      rw [next, wrapped]

/-! ## Packets -/

section Packets

variable {accounting : Accounting} {clock : ClockReading} {header : RTPHeader}
  {frequency bytes : UInt32} {retransmitted : Bool}

theorem invariant_first (invariant : Invariant accounting)
    (first : accounting.statistician.firstPacket = true) :
    Invariant (accounting.step (.packet clock header frequency bytes retransmitted)) := by
  have none : accounting.received = 0 := invariant.started.mp first
  have unreported := invariant.reported_none none
  have untouched := invariant.untouched none
  have number := header.sequenceNumber.toNat_lt
  rw [Invariant]
  simp only [Accounting.step, first, if_true]
  rw [lossCounters_first _ _ _ _ _ _ first]
  exact {
    started := iff_of_false Bool.false_ne_true (succ_ne_zero _)
    untouched := fun zero => absurd zero (succ_ne_zero _)
    counted := fun _ => ⟨0, succ_pos _, untouched.1, by simp [none]⟩
    seqFirst := fun _ => (ofInt16_toNat _).symm
    seqMax := fun _ => (ofInt16_toNat _).symm
    seqWraps := fun _ => by
      have cycle : (header.sequenceNumber.toNat : Int) / 65536 = 0 := by omega
      change (lossCounters accounting.statistician).seqWraps =
        UInt16.ofInt ((header.sequenceNumber.toNat : Int) / 65536)
      rw [untouched.2.1, cycle]
      rfl
    first_le := fun _ => Int.le_refl _
    unreported := fun _ => invariant.unreported unreported
    reported := fun snapshot member => by
      change snapshot ∈ accounting.reported at member
      rw [unreported] at member
      cases member }

theorem invariant_inOrder (invariant : Invariant accounting)
    (later : accounting.statistician.firstPacket = false)
    (inOrder : accounting.statistician.inOrderPacketInternal header.sequenceNumber = true) :
    Invariant (accounting.step (.packet clock header frequency bytes retransmitted)) := by
  have some : accounting.received ≠ 0 := fun none =>
    ne_true_of_eq_false later (invariant.started.mpr none)
  have numbers := @advance_numbers _ header.sequenceNumber _ _ (invariant.seqMax some)
    (invariant.seqWraps some)
  rcases invariant.counted some with ⟨old, fewer, oldCount, inorderCount⟩
  rw [Invariant]
  simp only [Accounting.step, later, inOrder, if_true, Bool.false_eq_true, if_false]
  rw [lossCounters_inOrder _ _ _ _ _ _ later inOrder]
  exact {
    started := iff_of_false (ne_true_of_eq_false later) (succ_ne_zero _)
    untouched := fun zero => absurd zero (succ_ne_zero _)
    counted := fun _ => ⟨old, lt_succ_of_lt fewer, oldCount, by
      change (lossCounters accounting.statistician).inorder + 1 = _
      rw [inorderCount, succ_sub fewer.le]
      exact (ofNat_add _ 1).symm⟩
    seqFirst := fun _ => invariant.seqFirst some
    seqMax := fun _ => numbers.1
    seqWraps := fun _ => numbers.2
    first_le := fun _ => by
      have before := invariant.first_le some
      change accounting.first ≤ accounting.highest + _
      omega
    unreported := invariant.unreported
    reported := fun snapshot member => by
      rcases invariant.reported snapshot member with ⟨⟨positive, atMost⟩, behind, rest⟩
      refine ⟨⟨positive, le_succ_of_le atMost⟩, ?_, rest⟩
      change snapshot.highest ≤ accounting.highest + _
      omega }

theorem Balanced.receive {counters : LossCounters} (balanced : Balanced accounting counters)
    (some : accounting.received ≠ 0) (statistician : StreamStatisticianImpl)
    {byteCount old inorder : UInt32}
    (counted : ∃ count < accounting.received + 1, old = UInt32.ofNat count ∧
      inorder = UInt32.ofNat (accounting.received + 1 - count)) :
    Balanced { accounting with statistician, received := accounting.received + 1 }
      { counters with byteCount, retransmitted := old, inorder } where
  started := iff_of_false (fun first => some (balanced.started.mp first)) (succ_ne_zero _)
  untouched := fun zero => absurd zero (succ_ne_zero _)
  counted := fun _ => counted
  seqFirst := fun _ => balanced.seqFirst some
  seqMax := fun _ => balanced.seqMax some
  seqWraps := fun _ => balanced.seqWraps some
  first_le := fun _ => balanced.first_le some
  unreported := balanced.unreported
  reported := fun snapshot member => by
    rcases balanced.reported snapshot member with ⟨⟨positive, atMost⟩, rest⟩
    exact ⟨⟨positive, le_succ_of_le atMost⟩, rest⟩

theorem invariant_old (invariant : Invariant accounting)
    (later : accounting.statistician.firstPacket = false)
    (old : accounting.statistician.inOrderPacketInternal header.sequenceNumber = false) :
    Invariant (accounting.step (.packet clock header frequency bytes retransmitted)) := by
  have some : accounting.received ≠ 0 := fun none =>
    ne_true_of_eq_false later (invariant.started.mpr none)
  rcases invariant.counted some with ⟨count, fewer, oldCount, inorderCount⟩
  rw [Invariant]
  simp only [Accounting.step, later, old, Bool.false_eq_true, if_false]
  rw [lossCounters_old _ _ _ _ _ _ later old]
  cases retransmitted with
  | true =>
    apply Balanced.receive invariant some
    refine ⟨count + 1, succ_lt_succ fewer, ?_, ?_⟩
    · change (lossCounters accounting.statistician).retransmitted + 1 = _
      rw [oldCount]
      exact (ofNat_add _ 1).symm
    · rw [succ_sub_succ]
      exact inorderCount
  | false =>
    apply Balanced.receive invariant some
    refine ⟨count, lt_succ_of_lt fewer, oldCount, ?_⟩
    change (lossCounters accounting.statistician).inorder + 1 = _
    rw [inorderCount, succ_sub fewer.le]
    exact (ofNat_add _ 1).symm

theorem invariant_packet (invariant : Invariant accounting) :
    Invariant (accounting.step (.packet clock header frequency bytes retransmitted)) := by
  cases first : accounting.statistician.firstPacket with
  | true => exact invariant_first invariant first
  | false =>
    cases inOrder : accounting.statistician.inOrderPacketInternal header.sequenceNumber with
    | true => exact invariant_inOrder invariant first inOrder
    | false => exact invariant_old invariant first inOrder

end Packets

/-! ## Reports -/

section Reports

variable {accounting : Accounting}

/-- The number that a report counts from. -/
def lastSeqMax (statistician : StreamStatisticianImpl) : UInt16 :=
  if statistician.lastReportInorderPackets = 0 then statistician.receivedSeqFirst - 1
  else statistician.lastReportSeqMax

section

variable (invariant : Invariant accounting)

include invariant

theorem lastSeqMax_eq (some : accounting.received ≠ 0) :
    lastSeqMax accounting.statistician = UInt16.ofInt accounting.reportedHighest := by
  rw [lastSeqMax, Accounting.reportedHighest]
  cases reported : accounting.reported with
  | none =>
    have uncounted : accounting.statistician.lastReportInorderPackets = 0 :=
      (invariant.unreported reported).1
    have first : accounting.statistician.receivedSeqFirst = UInt16.ofInt accounting.first :=
      invariant.seqFirst some
    rw [if_pos uncounted, first]
    exact ofInt16_sub _ 1
  | some snapshot =>
    rcases invariant.reported snapshot reported with ⟨-, -, counted, -, maximum, -⟩
    exact (if_neg counted).trans maximum

theorem reportedHighest_le (some : accounting.received ≠ 0) :
    accounting.reportedHighest ≤ accounting.highest := by
  rw [Accounting.reportedHighest]
  cases reported : accounting.reported with
  | none =>
    have before := invariant.first_le some
    change accounting.first - 1 ≤ _
    omega
  | some snapshot => exact (invariant.reported snapshot reported).2.1

theorem reportedReceived_le : accounting.reportedReceived ≤ accounting.received := by
  rw [Accounting.reportedReceived]
  cases reported : accounting.reported with
  | none => exact Nat.zero_le _
  | some snapshot => exact (invariant.reported snapshot reported).1.2

theorem receivedSinceLast_toNat (some : accounting.received ≠ 0) (few : accounting.received < 2 ^ 32) :
    (accounting.statistician.receivedInorderPacketCount -
        accounting.statistician.lastReportInorderPackets +
      (accounting.statistician.receivedRetransmittedPackets -
        accounting.statistician.lastReportOldPackets)).toNat =
      accounting.received - accounting.reportedReceived := by
  rcases invariant.counted some with ⟨old, fewer, oldCount, inorderCount⟩
  have all : accounting.statistician.receivedInorderPacketCount +
      accounting.statistician.receivedRetransmittedPackets = UInt32.ofNat accounting.received := by
    change (lossCounters accounting.statistician).inorder +
      (lossCounters accounting.statistician).retransmitted = _
    rw [oldCount, inorderCount, ← ofNat_add, Nat.sub_add_cancel fewer.le]
  have reported : accounting.statistician.lastReportInorderPackets +
      accounting.statistician.lastReportOldPackets = UInt32.ofNat accounting.reportedReceived := by
    rw [Accounting.reportedReceived]
    cases reported : accounting.reported with
    | none =>
      have unreported := invariant.unreported reported
      change (lossCounters accounting.statistician).reportInorder +
        (lossCounters accounting.statistician).reportOld = _
      rw [unreported.1, unreported.2.1]
      rfl
    | some snapshot => exact (invariant.reported snapshot reported).2.2.2.1
  have atMost := reportedReceived_le invariant
  rw [sub_add_sub_comm, all, reported, UInt32.toNat_sub_of_le]
  · rw [toNat_ofNat', toNat_ofNat', mod_eq_of_lt few, mod_eq_of_lt (by omega)]
  · rw [le_iff_toNat_le, toNat_ofNat', toNat_ofNat', mod_eq_of_lt few,
      mod_eq_of_lt (by omega)]
    exact atMost

/-- The code finds the packets that were lost, and, where there are any, those expected. -/
theorem missingSinceLastReport_eq (some : accounting.received ≠ 0) (counts : Counts accounting) :
    let found := accounting.statistician.missingSinceLastReport
      (lastSeqMax accounting.statistician)
    found.1.toNat = accounting.lostSinceLast.toNat ∧
      (accounting.lostSinceLast = 0 ∨ found.2.toNat = accounting.expectedSinceLast.toNat) := by
  have last := lastSeqMax_eq invariant some
  have maximum : accounting.statistician.receivedSeqMax = UInt16.ofInt accounting.highest :=
    invariant.seqMax some
  have received := receivedSinceLast_toNat invariant some counts.1.1
  have forward := reportedHighest_le invariant some
  have more := reportedReceived_le invariant
  rw [StreamStatisticianImpl.missingSinceLastReport, last, maximum]
  have old := toNat_ofInt16 accounting.reportedHighest
  have new := toNat_ofInt16 accounting.highest
  have expected : (if UInt16.ofInt accounting.highest < UInt16.ofInt accounting.reportedHighest
      then (0 : UInt32)
      else (UInt16.ofInt accounting.highest -
        UInt16.ofInt accounting.reportedHighest).toUInt32).toNat =
      (accounting.highest % 65536 - accounting.reportedHighest % 65536).toNat := by
    split
    · rename_i wrapped
      rw [UInt16.lt_iff_toNat_lt] at wrapped
      rw [show (0 : UInt32).toNat = 0 from rfl]
      omega
    · rename_i ahead
      rw [UInt16.lt_iff_toNat_lt] at ahead
      rw [UInt16.toNat_toUInt32, UInt16.toNat_sub_of_le _ _
        (UInt16.le_iff_toNat_le.mpr (Nat.not_lt.mp ahead))]
      omega
  generalize (if UInt16.ofInt accounting.highest < UInt16.ofInt accounting.reportedHighest
      then (0 : UInt32)
      else (UInt16.ofInt accounting.highest -
        UInt16.ofInt accounting.reportedHighest).toUInt32) = exp at expected ⊢
  generalize accounting.statistician.receivedInorderPacketCount -
        accounting.statistician.lastReportInorderPackets +
      (accounting.statistician.receivedRetransmittedPackets -
        accounting.statistician.lastReportOldPackets) = rec at received ⊢
  have missing : (if rec < exp then exp - rec else 0).toNat = exp.toNat - rec.toNat := by
    split
    · rename_i lost
      rw [UInt32.toNat_sub_of_le _ _ (le_iff_toNat_le.mpr (lt_iff_toNat_lt.mp lost).le)]
    · rename_i none
      rw [lt_iff_toNat_lt] at none
      rw [show (0 : UInt32).toNat = 0 from rfl]
      omega
  have lost : accounting.lostSinceLast = accounting.highest - accounting.reportedHighest -
    (accounting.received - accounting.reportedReceived) := rfl
  change (if rec < exp then exp - rec else 0).toNat = _ ∧ (_ ∨ exp.toNat = _)
  rw [missing, Accounting.expectedSinceLast]
  rcases counts.2 with nothing | ⟨positive, sameCycle⟩
  · constructor
    · omega
    · exact .inl nothing
  · constructor
    · omega
    · exact .inr (by omega)

theorem cumulativeLoss_toNat : (accounting.statistician.cumulativeLoss.toNat : Int) =
      accounting.reportedHighest - accounting.first + 1 - accounting.reportedReceived := by
  rw [Accounting.reportedHighest, Accounting.reportedReceived]
  cases reported : accounting.reported with
  | none =>
    have unreported : accounting.statistician.cumulativeLoss = 0 :=
      (invariant.unreported reported).2.2
    rw [unreported]
    simp
  | some snapshot => exact (invariant.reported snapshot reported).2.2.2.2.2.1

end

theorem toNat_ofInt32 (number : Int) :
    ((UInt32.ofInt number).toNat : Int) = number % 4294967296 := by
  rw [UInt32.ofInt, toNat_ofNat']
  omega

theorem extendedMax_eq (invariant : Invariant accounting) (some : accounting.received ≠ 0) :
    accounting.statistician.extendedMaxSequenceNumber = UInt32.ofInt accounting.highest := by
  have later : accounting.statistician.firstPacket ≠ true :=
    fun first => some (invariant.started.mp first)
  have tracks : Tracks ⟨accounting.statistician, .some accounting.highest⟩ := {
    started := iff_of_false later (Option.some_ne_none _)
    initialWraps := fun none => by cases none
    seqMax := by rintro _ ⟨⟩; exact invariant.seqMax some
    seqWraps := by rintro _ ⟨⟩; exact invariant.seqWraps some }
  have value := extendedMaxSequenceNumber_of_tracks tracks rfl
  have back := toNat_ofInt32 accounting.highest
  apply UInt32.toNat_inj.mp
  change ((accounting.statistician.extendedMaxSequenceNumber).toNat : Int) = _ at value
  omega

theorem fraction_toNat {missing expected : Nat} (atMost : missing ≤ expected) :
    (UInt8.ofNat (255 * missing / expected)).toNat = 255 * missing / expected := by
  have scaled : 255 * missing / expected ≤ 255 :=
    Nat.div_le_of_le_mul (by rw [Nat.mul_comm expected]; exact Nat.mul_le_mul_left 255 atMost)
  rw [UInt8.toNat_ofNat', mod_eq_of_lt (by omega)]

theorem makeReport_loss (statistician : StreamStatisticianImpl) {missing exp : UInt32}
    (found : statistician.missingSinceLastReport (lastSeqMax statistician) = (missing, exp)) :
    statistician.makeReport.1.cumulativeLost = statistician.cumulativeLoss + missing ∧
      statistician.makeReport.1.fractionLost =
        (if exp = 0 then 0 else UInt8.ofNat (255 * missing.toNat / exp.toNat)) := by
  have missingPart := congrArg Prod.fst found
  have expPart := congrArg Prod.snd found
  change _ = missing at missingPart
  change _ = exp at expPart
  rw [← missingPart, ← expPart]
  exact ⟨rfl, rfl⟩

theorem makeReport_reports (invariant : Invariant accounting) (some : accounting.received ≠ 0)
    (counts : Counts accounting) :
    Reports accounting.statistician.makeReport.1 accounting.first accounting.snapshot := by
  have values := missingSinceLastReport_eq invariant some counts
  have more := reportedReceived_le invariant
  have notNegative : 0 ≤ accounting.lostSinceLast := by
    rcases counts.2 with nothing | ⟨positive, -⟩ <;> omega
  have lost : accounting.lostSinceLast = accounting.highest - accounting.reportedHighest -
    (accounting.received - accounting.reportedReceived) := rfl
  have expected : accounting.expectedSinceLast = accounting.highest - accounting.reportedHighest :=
    rfl
  cases found : accounting.statistician.missingSinceLastReport
    (lastSeqMax accounting.statistician) with
  | mk missing exp =>
    rw [found] at values
    have missingValue : missing.toNat = accounting.lostSinceLast.toNat := values.1
    have expValue : accounting.lostSinceLast = 0 ∨
      exp.toNat = accounting.expectedSinceLast.toNat := values.2
    rcases makeReport_loss _ found with ⟨cumulative, fraction⟩
    exact {
      cumulativeLost := by
        have before := cumulativeLoss_toNat invariant
        have few := counts.1.2
        have total : accounting.snapshot.lost accounting.first =
          accounting.highest - accounting.first + 1 - accounting.received := rfl
        rw [cumulative, UInt32.toNat_add]
        omega
      fractionLost := by
        rw [fraction]
        change _ = 255 * accounting.lostSinceLast.toNat / accounting.expectedSinceLast.toNat
        rcases expValue with nothing | whole
        · rw [missingValue, nothing]
          split <;> simp
        · split
          · rename_i zero
            rw [← whole, zero, show (0 : UInt32).toNat = 0 from rfl, Nat.div_zero]
            rfl
          · rw [missingValue, whole, fraction_toNat (by omega)]
      extendedMax := extendedMax_eq invariant some }

theorem received_of_given (invariant : Invariant accounting) {reset : Bool}
    {statistics : Statistics}
    (given : (accounting.statistician.getStatistics reset).1 = some statistics) :
    accounting.received ≠ 0 := by
  intro none
  have untouched := invariant.untouched none
  have nothing : accounting.statistician.receivedSeqFirst = 0 ∧
      accounting.statistician.receivedByteCount = 0 := ⟨untouched.2.2.1, untouched.2.2.2⟩
  rw [getStatistics, if_pos nothing] at given
  cases given

theorem getStatistics_true {statistician : StreamStatisticianImpl} {statistics : Statistics}
    (given : (statistician.getStatistics true).1 = some statistics) :
    statistician.getStatistics true =
      (some statistician.makeReport.1, statistician.makeReport.2) := by
  rw [getStatistics] at given ⊢
  split at given
  · cases given
  · rename_i something
    rw [if_neg something]
    rfl

theorem getStatistics_false {statistician : StreamStatisticianImpl} :
    (statistician.getStatistics false).2 = statistician ∧
      ∀ statistics, (statistician.getStatistics false).1 = some statistics →
        statistician.lastReportInorderPackets ≠ 0 ∧
          statistics = statistician.lastReportedStatistics := by
  rw [getStatistics]
  split
  · exact ⟨rfl, fun _ given => by cases given⟩
  · rw [if_neg Bool.false_ne_true]
    split
    · exact ⟨rfl, fun _ given => by cases given⟩
    · rename_i counted
      refine ⟨rfl, ?_⟩
      rintro statistics ⟨⟩
      exact ⟨counted, rfl⟩

theorem accountsFor_of_accountable (invariant : Invariant accounting) (event : Event)
    (accountable : Accountable accounting event) : AccountsFor accounting event := by
  cases event with
  | packet | threshold => trivial
  | report reset =>
    intro statistics given
    have some := received_of_given invariant given
    cases reset with
    | true =>
      rw [getStatistics_true given] at given
      cases given
      exact ⟨accounting.snapshot, rfl, makeReport_reports invariant some accountable⟩
    | false =>
      rcases getStatistics_false.2 statistics given with ⟨counted, rfl⟩
      cases reported : accounting.reported with
      | none => exact absurd (invariant.unreported reported).1 counted
      | some snapshot =>
        exact ⟨snapshot, rfl, (invariant.reported snapshot reported).2.2.2.2.2.2⟩

theorem lossCounters_makeReport (statistician : StreamStatisticianImpl) :
    lossCounters statistician.makeReport.2 = { lossCounters statistician with
        cumulativeLoss := statistician.makeReport.1.cumulativeLost
        lastReported := statistician.makeReport.1
        reportInorder := statistician.receivedInorderPacketCount
        reportOld := statistician.receivedRetransmittedPackets
        reportSeqMax := statistician.receivedSeqMax } := rfl

theorem invariant_makeReport (invariant : Invariant accounting) (some : accounting.received ≠ 0)
    (counts : Counts accounting) :
    Invariant { accounting with
      statistician := accounting.statistician.makeReport.2
      reported := .some accounting.snapshot } := by
  have reports := makeReport_reports invariant some counts
  rcases invariant.counted some with ⟨old, fewer, oldCount, inorderCount⟩
  rw [Invariant]
  simp only
  rw [lossCounters_makeReport]
  exact {
    started := invariant.started
    untouched := invariant.untouched
    counted := invariant.counted
    seqFirst := invariant.seqFirst
    seqMax := invariant.seqMax
    seqWraps := invariant.seqWraps
    first_le := invariant.first_le
    unreported := fun none => by cases none
    reported := by
      rintro snapshot ⟨⟩
      have few := counts.1.1
      refine ⟨⟨Nat.pos_of_ne_zero some, Nat.le_refl _⟩, Int.le_refl _, ?_, ?_,
        invariant.seqMax some, reports.cumulativeLost, reports⟩
      · change (lossCounters accounting.statistician).inorder ≠ 0
        rw [inorderCount]
        intro zero
        have value := congrArg UInt32.toNat zero
        rw [toNat_ofNat', mod_eq_of_lt (by omega)] at value
        change accounting.received - old = 0 at value
        omega
      · change (lossCounters accounting.statistician).inorder +
          (lossCounters accounting.statistician).retransmitted = UInt32.ofNat accounting.received
        rw [oldCount, inorderCount, ← ofNat_add, Nat.sub_add_cancel fewer.le] }

theorem invariant_report (invariant : Invariant accounting) (reset : Bool)
    (accountable : Accountable accounting (.report reset)) :
    Invariant (accounting.step (.report reset)) := by
  cases given : (accounting.statistician.getStatistics reset).1 with
  | none =>
    have same : accounting.step (.report reset) = accounting := by
      have state : (accounting.statistician.getStatistics reset).2 = accounting.statistician := by
        rw [getStatistics] at given ⊢
        split
        · rfl
        · rename_i something
          rw [if_neg something] at given
          cases reset with
          | true => cases given
          | false =>
            rw [if_neg Bool.false_ne_true] at given ⊢
            split <;> rfl
      simp only [Accounting.step]
      rw [state, given]
      simp
    rw [same]
    exact invariant
  | some statistics =>
    have some := received_of_given invariant given
    cases reset with
    | true =>
      have result : accounting.step (.report true) = { accounting with
          statistician := accounting.statistician.makeReport.2
          reported := .some accounting.snapshot } := by
        simp only [Accounting.step]
        rw [getStatistics_true given]
        rfl
      rw [result]
      exact invariant_makeReport invariant some accountable
    | false =>
      have result : accounting.step (.report false) = accounting := by
        simp only [Accounting.step]
        rw [getStatistics_false.1]
        rfl
      rw [result]
      exact invariant

theorem invariant_step (invariant : Invariant accounting) (event : Event)
    (accountable : Accountable accounting event) : Invariant (accounting.step event) := by
  cases event with
  | packet clock header frequency bytes retransmitted => exact invariant_packet invariant
  | report reset => exact invariant_report invariant reset accountable
  | threshold maxReorderingThreshold => exact {
      started := invariant.started
      untouched := invariant.untouched
      counted := invariant.counted
      seqFirst := invariant.seqFirst
      seqMax := invariant.seqMax
      seqWraps := invariant.seqWraps
      first_le := invariant.first_le
      unreported := invariant.unreported
      reported := invariant.reported }

end Reports

/-- In every run whose new reports are made where the loss can be counted, every call of
`GetStatistics` gives the packets expected less those received, and the fraction lost. -/
theorem accountsFor_of_counts {events : List Event}
    (accountable : Run.Allowed Accounting.step Accountable .initial events) :
    Run.Allowed Accounting.step AccountsFor .initial events :=
  Run.allowed_of_invariant Accounting.step
    (fun _ event invariant allowed => invariant_step invariant event allowed)
    (fun _ event invariant allowed => accountsFor_of_accountable invariant event allowed)
    invariant_initial accountable

/-- A packet of 100 bytes, received at some time. -/
def arrival (number : UInt16) (timeInMilliseconds : Int64) : Event :=
  .packet
    { timeInMilliseconds, ntpSecs := 0, ntpFrac := 0, convertNTPTimeToRTP := fun _ _ _ => 0 }
    { unsetHeader with sequenceNumber := number } 90000 100 false

/-- One of four packets is lost before each of two reports, and between them the numbers wrap
without a loss. -/
def countedRun : List Event :=
  [arrival 65531 1, arrival 65532 2, arrival 65534 3, .report true, arrival 65535 4, arrival 0 5,
    .report false, .report true, arrival 2 6, .report true]

theorem accountsFor_countedRun : Run.Allowed Accounting.step AccountsFor .initial countedRun :=
  accountsFor_of_counts (by decide +kernel)

def lossBehindWrap : List Event :=
  [arrival 65534 1, arrival 65535 2, .report true, arrival 0 3, arrival 2 4]

theorem not_accountsFor_lossBehindWrap :
    ¬Run.Allowed Accounting.step AccountsFor .initial (lossBehindWrap ++ [.report true]) := by
  intro allowed
  rw [Run.allowed_append] at allowed
  have accounts := allowed.2.1
  have given : (((Run.final Accounting.step .initial lossBehindWrap).statistician.getStatistics
      true).1.map Statistics.cumulativeLost) = some 0 := by
    decide +kernel
  rcases Option.map_eq_some_iff.mp given with ⟨statistics, report, lost⟩
  rcases accounts statistics report with ⟨snapshot, same, reports⟩
  rw [if_pos rfl] at same
  cases same
  have wrong := reports.cumulativeLost
  rw [lost] at wrong
  exact absurd wrong (by decide +kernel)

end ZyWebRtc.Rtp.LossAccounting
