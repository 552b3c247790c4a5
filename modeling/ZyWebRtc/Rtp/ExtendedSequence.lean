import ZyWebRtc.Rtp.HeaderParserSafety
import ZyWebRtc.Rtp.ReceiveStatistics

namespace ZyWebRtc.Rtp.StreamStatisticianImpl

/-! The extended maximum against the true sequence numbers of the packets, of which
the headers have the last 16 bits. -/

/-- A packet with its true number, a report, or a change of the threshold. -/
inductive Event
  | packet (number : Int) (clock : ClockReading) (header : RTPHeader) (frequency bytes : UInt32)
      (retransmitted : Bool)
  | report (reset : Bool)
  | threshold (maxReorderingThreshold : Int)

/-- The statistics, and the highest true number that has arrived. -/
structure Reception where
  statistician : StreamStatisticianImpl
  highest : Option Int

def Reception.initial : Reception where
  statistician := .initial
  highest := none

def numbered (header : RTPHeader) (number : Int) : RTPHeader :=
  { header with sequenceNumber := UInt16.ofInt number }

def Reception.step (reception : Reception) : Event → Reception
  | .packet number clock header frequency bytes retransmitted => {
      statistician := reception.statistician.incomingPacket clock (numbered header number)
        frequency bytes retransmitted
      highest := some (max (reception.highest.getD number) number) }
  | .report reset => { reception with
      statistician := (reception.statistician.getStatistics reset).2 }
  | .threshold maxReorderingThreshold => { reception with
      statistician := reception.statistician.setMaxReorderingThreshold maxReorderingThreshold }

/-- The stream starts in the first cycle. A new highest number is less than 2^15
ahead, and any other one lags by less than the threshold. -/
def Arrives (reception : Reception) : Event → Prop
  | .packet number .. =>
    (reception.highest = none → 0 ≤ number ∧ number < 65536) ∧ ∀ highest ∈ reception.highest,
        (highest < number ∧ number < highest + 32768) ∨
          (number ≤ highest ∧ highest - number < reception.statistician.maxReorderingThreshold)
  | .report _ | .threshold _ => True

/-- A packet behind the highest one comes when the time of the packet before it was
stored as another one than zero, at most half a cycle late and less than half a
cycle in front of what the threshold allows. -/
def TakenAsLate (reception : Reception) : Event → Prop
  | .packet number .. => ∀ highest ∈ reception.highest, number < highest →
      reception.statistician.lastReceiveTimeMs ≠ 0 ∧ highest - number ≤ 32768 ∧
        reception.statistician.maxReorderingThreshold - (highest - number) < 32768
  | .report _ | .threshold _ => True

instance (reception : Reception) : (event : Event) → Decidable (Arrives reception event)
  | .packet .. => inferInstanceAs (Decidable ((_ → _ ∧ _) ∧ ∀ highest ∈ reception.highest, _))
  | .report _ | .threshold _ => inferInstanceAs (Decidable True)

instance (reception : Reception) : (event : Event) → Decidable (TakenAsLate reception event)
  | .packet .. => inferInstanceAs (Decidable (∀ highest ∈ reception.highest, _))
  | .report _ | .threshold _ => inferInstanceAs (Decidable True)

/-- The counters hold the highest number. -/
structure Tracks (reception : Reception) : Prop where
  started : reception.statistician.firstPacket = true ↔ reception.highest = none
  initialWraps : reception.highest = none → reception.statistician.receivedSeqWraps = 0
  seqMax : ∀ highest ∈ reception.highest,
    reception.statistician.receivedSeqMax = UInt16.ofInt highest
  seqWraps : ∀ highest ∈ reception.highest,
    reception.statistician.receivedSeqWraps = UInt16.ofInt (highest / 65536)

theorem tracks_initial : Tracks .initial where
  started := by decide
  initialWraps := fun _ => rfl
  seqMax := fun _ member => by cases member
  seqWraps := fun _ member => by cases member

section Counters

variable (statistician : StreamStatisticianImpl) (clock : ClockReading) (header : RTPHeader)
  (frequency bytes : UInt32) (retransmitted : Bool)

theorem updateJitter_counters :
    (statistician.updateJitter clock header frequency).receivedSeqMax =
        statistician.receivedSeqMax ∧
      (statistician.updateJitter clock header frequency).receivedSeqWraps =
        statistician.receivedSeqWraps ∧
      (statistician.updateJitter clock header frequency).firstPacket =
        statistician.firstPacket := by
  rw [updateJitter]
  split <;> exact ⟨rfl, rfl, rfl⟩

theorem incomingPacket_first (first : statistician.firstPacket = true) :
    (statistician.incomingPacket clock header frequency bytes retransmitted).receivedSeqMax =
        header.sequenceNumber ∧
      (statistician.incomingPacket clock header frequency bytes retransmitted).receivedSeqWraps =
        statistician.receivedSeqWraps ∧
      (statistician.incomingPacket clock header frequency bytes retransmitted).firstPacket =
        false := by
  have same : statistician.incomingPacket clock header frequency bytes retransmitted =
      { statistician with
        receivedByteCount := statistician.receivedByteCount + bytes }.startStatistics clock header :=
    if_pos first
  rw [same]
  exact ⟨rfl, rfl, rfl⟩

theorem incomingPacket_inOrder (later : statistician.firstPacket = false)
    (inOrder : statistician.inOrderPacketInternal header.sequenceNumber = true) :
    (statistician.incomingPacket clock header frequency bytes retransmitted).receivedSeqMax =
        header.sequenceNumber ∧
      (statistician.incomingPacket clock header frequency bytes retransmitted).receivedSeqWraps =
        (if header.sequenceNumber < statistician.receivedSeqMax then
          statistician.receivedSeqWraps + 1
        else statistician.receivedSeqWraps) ∧
      (statistician.incomingPacket clock header frequency bytes retransmitted).firstPacket =
        false := by
  have same : statistician.incomingPacket clock header frequency bytes retransmitted =
      ({ statistician with
        receivedByteCount := statistician.receivedByteCount + bytes }.advanceStatistics clock header
          frequency).updateOverhead header :=
    (if_neg (ne_true_of_eq_false later)).trans (if_pos inOrder)
  rw [same]
  exact ⟨(updateJitter_counters _ _ _ _).1, (updateJitter_counters _ _ _ _).2.1,
    (updateJitter_counters _ _ _ _).2.2.trans later⟩

theorem incomingPacket_old (later : statistician.firstPacket = false)
    (old : statistician.inOrderPacketInternal header.sequenceNumber = false) :
    (statistician.incomingPacket clock header frequency bytes retransmitted).receivedSeqMax =
        statistician.receivedSeqMax ∧
      (statistician.incomingPacket clock header frequency bytes retransmitted).receivedSeqWraps =
        statistician.receivedSeqWraps ∧
      (statistician.incomingPacket clock header frequency bytes retransmitted).firstPacket =
        false := by
  have same : statistician.incomingPacket clock header frequency bytes retransmitted =
      ({ statistician with
        receivedByteCount := statistician.receivedByteCount + bytes }.countOldPacket
          retransmitted).updateOverhead header :=
    (if_neg (ne_true_of_eq_false later)).trans (if_neg (ne_true_of_eq_false old))
  rw [same, countOldPacket]
  split <;> exact ⟨rfl, rfl, later⟩

theorem getStatistics_counters (reset : Bool) :
    (statistician.getStatistics reset).2.receivedSeqMax = statistician.receivedSeqMax ∧
      (statistician.getStatistics reset).2.receivedSeqWraps = statistician.receivedSeqWraps ∧
      (statistician.getStatistics reset).2.firstPacket = statistician.firstPacket := by
  rw [getStatistics]
  split
  · exact ⟨rfl, rfl, rfl⟩
  · split
    · exact ⟨rfl, rfl, rfl⟩
    · split <;> exact ⟨rfl, rfl, rfl⟩

end Counters

section Order

variable {statistician : StreamStatisticianImpl} {highest number : Int}

theorem inOrderPacketInternal_ahead (seqMax : statistician.receivedSeqMax = UInt16.ofInt highest)
    (ahead : highest < number) (near : number < highest + 32768) :
    statistician.inOrderPacketInternal (UInt16.ofInt number) = true := by
  have newer : isNewerSequenceNumber (UInt16.ofInt number) statistician.receivedSeqMax = true := by
    rw [seqMax, isNewerSequenceNumber_ofInt]
    omega
  rw [inOrderPacketInternal, newer]
  simp

theorem inOrderPacketInternal_late (seqMax : statistician.receivedSeqMax = UInt16.ofInt highest)
    (timed : statistician.lastReceiveTimeMs ≠ 0) (late : number < highest)
    (lag : highest - number < statistician.maxReorderingThreshold)
    (half : highest - number ≤ 32768)
    (front : statistician.maxReorderingThreshold - (highest - number) < 32768) :
    statistician.inOrderPacketInternal (UInt16.ofInt number) = false := by
  have notNewer :
      isNewerSequenceNumber (UInt16.ofInt number) statistician.receivedSeqMax = false := by
    rw [seqMax, Bool.eq_false_iff, ne_eq, isNewerSequenceNumber_ofInt]
    omega
  have threshold : UInt16.ofInt
      (statistician.receivedSeqMax.toNat - statistician.maxReorderingThreshold) =
        UInt16.ofInt (highest - statistician.maxReorderingThreshold) := by
    have maximum := toNat_ofInt16 highest
    rw [ofInt16_inj, seqMax]
    omega
  have inside : isNewerSequenceNumber (UInt16.ofInt number)
      (UInt16.ofInt (highest - statistician.maxReorderingThreshold)) = true := by
    rw [isNewerSequenceNumber_ofInt]
    omega
  rw [inOrderPacketInternal, if_neg timed, notNewer, threshold, inside]
  rfl

theorem wraps_ahead (ahead : highest ≤ number) (near : number < highest + 32768) :
    (if UInt16.ofInt number < UInt16.ofInt highest then UInt16.ofInt (highest / 65536) + 1
      else UInt16.ofInt (highest / 65536)) = UInt16.ofInt (number / 65536) := by
  have old := toNat_ofInt16 highest
  have new := toNat_ofInt16 number
  split
  · rename_i wrapped
    rw [UInt16.lt_iff_toNat_lt] at wrapped
    have next : number / 65536 = highest / 65536 + 1 := by omega
    rw [next, UInt16.ofInt_add]
    rfl
  · rename_i same
    rw [UInt16.lt_iff_toNat_lt] at same
    have next : number / 65536 = highest / 65536 := by omega
    rw [next]

end Order

/-! ## Runs -/

theorem tracks_packet {reception : Reception} (tracks : Tracks reception) {number : Int}
    {clock : ClockReading} {header : RTPHeader} {frequency bytes : UInt32} {retransmitted : Bool}
    (arrives : Arrives reception (.packet number clock header frequency bytes retransmitted))
    (late : TakenAsLate reception (.packet number clock header frequency bytes retransmitted)) :
    Tracks (reception.step (.packet number clock header frequency bytes retransmitted)) := by
  rcases reception with ⟨statistician, highest⟩
  cases highest with
  | none =>
    have range := arrives.1 rfl
    have counters := incomingPacket_first statistician clock (numbered header number) frequency
      bytes retransmitted (tracks.started.mpr rfl)
    exact {
      started := iff_of_false (ne_true_of_eq_false counters.2.2) (Option.some_ne_none _)
      initialWraps := fun none => by cases none
      seqMax := by
        rintro highest ⟨⟩
        change _ = UInt16.ofInt (max number number)
        rw [max_self]
        exact counters.1
      seqWraps := by
        rintro highest ⟨⟩
        change _ = UInt16.ofInt (max number number / 65536)
        rw [max_self, show number / 65536 = 0 by omega]
        exact counters.2.1.trans (tracks.initialWraps rfl) }
  | some highest =>
    have later : statistician.firstPacket = false :=
      Bool.eq_false_iff.mpr fun first => Option.some_ne_none _ (tracks.started.mp first)
    have seqMax := tracks.seqMax highest rfl
    have seqWraps := tracks.seqWraps highest rfl
    have counters : ∀ next : StreamStatisticianImpl, next.firstPacket = false →
        next.receivedSeqMax = UInt16.ofInt (max highest number) →
        next.receivedSeqWraps = UInt16.ofInt (max highest number / 65536) →
        Tracks ⟨next, some (max highest number)⟩ := by
      intro next started maximum wraps
      exact {
        started := iff_of_false (ne_true_of_eq_false started) (Option.some_ne_none _)
        initialWraps := fun none => by cases none
        seqMax := by rintro _ ⟨⟩; exact maximum
        seqWraps := by rintro _ ⟨⟩; exact wraps }
    by_cases inOrder : statistician.inOrderPacketInternal (UInt16.ofInt number) = true
    · -- A packet behind the highest one would be taken as late.
      have ahead : highest ≤ number ∧ number < highest + 32768 := by
        rcases arrives.2 highest rfl with ahead | ⟨behind, lag⟩
        · exact ⟨ahead.1.le, ahead.2⟩
        · rcases behind.lt_or_eq with less | same
          · rcases late highest rfl less with ⟨timed, half, front⟩
            rw [inOrderPacketInternal_late seqMax timed less lag half front] at inOrder
            cases inOrder
          · omega
      rcases incomingPacket_inOrder statistician clock (numbered header number) frequency bytes
        retransmitted later inOrder with ⟨maximum, wraps, started⟩
      rw [seqMax, seqWraps] at wraps
      apply counters _ started
      · rw [max_eq_right ahead.1]
        exact maximum
      · rw [max_eq_right ahead.1]
        exact wraps.trans (wraps_ahead ahead.1 ahead.2)
    · have behind : number ≤ highest := by
        rcases arrives.2 highest rfl with ahead | behind
        · exact absurd (inOrderPacketInternal_ahead seqMax ahead.1 ahead.2) inOrder
        · exact behind.1
      rcases incomingPacket_old statistician clock (numbered header number) frequency bytes
        retransmitted later (Bool.eq_false_iff.mpr inOrder) with ⟨maximum, wraps, started⟩
      apply counters _ started
      · rw [max_eq_left behind]
        exact maximum.trans seqMax
      · rw [max_eq_left behind]
        exact wraps.trans seqWraps

theorem tracks_step {reception : Reception} (event : Event) (tracks : Tracks reception)
    (allowed : Arrives reception event ∧ TakenAsLate reception event) :
    Tracks (reception.step event) := by
  cases event with
  | packet number clock header frequency bytes retransmitted =>
    exact tracks_packet tracks allowed.1 allowed.2
  | report reset =>
    have counters := getStatistics_counters reception.statistician reset
    exact {
      started := by
        change (StreamStatisticianImpl.getStatistics _ reset).2.firstPacket = true ↔ _
        rw [counters.2.2]
        exact tracks.started
      initialWraps := fun none => counters.2.1.trans (tracks.initialWraps none)
      seqMax := fun highest member => counters.1.trans (tracks.seqMax highest member)
      seqWraps := fun highest member => counters.2.1.trans (tracks.seqWraps highest member) }
  | threshold maxReorderingThreshold =>
    exact ⟨tracks.started, tracks.initialWraps, tracks.seqMax, tracks.seqWraps⟩

theorem extendedMaxSequenceNumber_of_tracks {reception : Reception} (tracks : Tracks reception)
    {highest : Int} (arrived : reception.highest = some highest) :
    (reception.statistician.extendedMaxSequenceNumber.toNat : Int) = highest % 2 ^ 32 := by
  have maximum := toNat_ofInt16 highest
  have wraps := toNat_ofInt16 (highest / 65536)
  rw [extendedMaxSequenceNumber, tracks.seqMax highest arrived, tracks.seqWraps highest arrived]
  simp only [UInt32.toNat_add, UInt32.toNat_shiftLeft, UInt16.toNat_toUInt32, Nat.shiftLeft_eq,
    show (16 : UInt32).toNat = 16 from rfl, Nat.reduceMod, Nat.reducePow]
  omega

theorem getStatistics_reset {statistician : StreamStatisticianImpl} {statistics : Statistics}
    (reported : (statistician.getStatistics true).1 = some statistics) :
    statistics.extendedMaxSequenceNumber = statistician.extendedMaxSequenceNumber := by
  rw [getStatistics] at reported
  split at reported
  · cases reported
  · cases reported
    rfl

/-- Whenever a report is made, it has the highest number that has arrived. -/
def ReportsHighest (reception : Reception) : Prop :=
  ∀ highest, reception.highest = some highest → ∀ statistics,
    (reception.statistician.getStatistics true).1 = some statistics →
      (statistics.extendedMaxSequenceNumber.toNat : Int) = highest % 2 ^ 32

theorem reportsHighest_of_takenAsLate {events : List Event}
    (allowed : Run.Allowed Reception.step
      (fun reception event => Arrives reception event ∧ TakenAsLate reception event)
      .initial events) :
    ReportsHighest (Run.final Reception.step .initial events) := by
  intro highest arrived statistics reported
  have tracks : Tracks (Run.final Reception.step .initial events) :=
    Run.invariant_final Reception.step (fun _ event => tracks_step event) tracks_initial allowed
  rw [getStatistics_reset reported]
  exact extendedMaxSequenceNumber_of_tracks tracks arrived

/-- A packet of 100 bytes, received at some time. -/
def arrival (number : Int) (timeInMilliseconds : Int64) : Event :=
  .packet number
    { timeInMilliseconds, ntpSecs := 0, ntpFrac := 0, convertNTPTimeToRTP := fun _ _ _ => 0 }
    unsetHeader 90000 100 false

/-- Three packets around a wrap, the last of them late. -/
def lateAroundWrap : List Event := [arrival 65534 1, arrival 65537 2, arrival 65535 3]

theorem reportsHighest_lateAroundWrap :
    ReportsHighest (Run.final Reception.step .initial lateAroundWrap) ∧
      (Run.final Reception.step .initial lateAroundWrap).highest = some 65537 :=
  ⟨reportsHighest_of_takenAsLate (by decide +kernel), by decide +kernel⟩

def lateAtTimeZero : List Event := [arrival 100 0, arrival 99 0]

theorem not_reportsHighest_lateAtTimeZero :
    Run.Allowed Reception.step Arrives .initial lateAtTimeZero ∧
      ¬ ReportsHighest (Run.final Reception.step .initial lateAtTimeZero) := by
  constructor
  · decide +kernel
  · intro reports
    have highest : (Run.final Reception.step .initial lateAtTimeZero).highest = some 100 := by
      decide +kernel
    have reported : ((Run.final Reception.step .initial
        lateAtTimeZero).statistician.getStatistics true).1.map
          (·.extendedMaxSequenceNumber) = some (65536 + 99) := by
      decide +kernel
    rcases Option.map_eq_some_iff.mp reported with ⟨statistics, report, extended⟩
    have wrong := reports 100 highest statistics report
    rw [extended] at wrong
    exact absurd wrong (by decide)

end ZyWebRtc.Rtp.StreamStatisticianImpl
