import ZyWebRtc.NetEq.BufferInvariant

namespace ZyWebRtc.NetEq

/-! `DelayManager`: its histogram of inter-arrival times in all runs. -/

open List

open PacketBuffer (toInt32_of_bounds toInt32_bounds)

def kMaxIat : Int := 64

def kIatFactor : Int := 32745

/-- 1/20 in Q30. -/
def kLimitProbability : Int := 53687091

/-- 1/2000 in Q30. -/
def kLimitProbabilityStreaming : Int := 536871

def kMaxStreamingPeakPeriodMs : Int := 600000

def kCumulativeSumDrift : Int := 2

/-! ## The histogram -/

/-- An exponentially decaying distribution: the probability in Q14 is halved for each entry. -/
def decaying : (entries : Nat) → (tempProb : Int) → List Int
  | 0, _ => []
  | entries + 1, tempProb => tempProb / 2 * 2 ^ 16 :: decaying entries (tempProb / 2)

/-- `ResetHistogram`. -/
def resetVector : List Int := decaying 65 0x4002

/-- The loop that takes the rounding errors off the first entries. -/
def correct (flipSign : Int) : List Int → (vectorSum : Int) → List Int × Int
  | [], vectorSum => ([], vectorSum)
  | entry :: rest, vectorSum =>
    if vectorSum = 0 then (entry :: rest, vectorSum)
    else
      let correction := flipSign * min |vectorSum| (entry / 2 ^ 4)
      let (corrected, left) := correct flipSign rest (vectorSum + correction)
      ((entry + correction) :: corrected, left)

/-- `UpdateHistogram`: the vector and the factor, if the assertions on the index and on the sum
hold. -/
def updateHistogram (iatPackets iatFactor : Int) (iatVector : List Int) :
    Option (List Int × Int) :=
  if iatPackets < 0 ∨ (iatVector.length : Int) ≤ iatPackets then none
  else
    let increase := (32768 - iatFactor) * 2 ^ 15
    let scaled := iatVector.map fun entry => entry * iatFactor / 2 ^ 15
    let vectorSum := scaled.sum + increase - 2 ^ 30
    let (corrected, left) := correct (if vectorSum > 0 then -1 else 1)
      (scaled.modify iatPackets.toNat (· + increase)) vectorSum
    if left = 0 then some (corrected, iatFactor + (kIatFactor - iatFactor + 3) / 2 ^ 2) else none

/-- The loop of `CalculateTargetLevel` over the entries behind `index`. There is no value when it
reads behind the last one. -/
def levelFrom (limitProbability : Int) : (index : Nat) → (sum : Int) → List Int → Option Nat
  | _, _, [] => none
  | index, sum, entry :: rest =>
    if sum - entry > limitProbability ∧ rest ≠ [] then
      levelFrom limitProbability (index + 1) (sum - entry) rest
    else some (index + 1)

def baseLevel (limitProbability : Int) : List Int → Option Nat
  | [] => none
  | entry :: rest => levelFrom limitProbability 0 (2 ^ 30 - entry) rest

/-! ## The manager -/

structure DelayManager where
  firstPacketReceived : Bool
  maxPacketsInBuffer : Nat
  iatVector : List Int
  iatFactor : Int
  packetIatCountMs : Int
  baseTargetLevel : Int
  targetLevel : Int
  packetLenMs : Int
  streamingMode : Bool
  lastSeqNo : UInt16
  lastTimestamp : UInt32
  minimumDelayMs : Int
  leastRequiredDelayMs : Int
  maximumDelayMs : Int
  iatCumulativeSum : Int
  maxIatCumulativeSum : Int
  maxTimerMs : Int

namespace DelayManager

/-- The constructor. -/
def new (maxPacketsInBuffer : Nat) : DelayManager where
  firstPacketReceived := false
  maxPacketsInBuffer
  iatVector := resetVector
  iatFactor := 0
  packetIatCountMs := 0
  baseTargetLevel := 4
  targetLevel := 4 * 2 ^ 8
  packetLenMs := 0
  streamingMode := false
  lastSeqNo := 0
  lastTimestamp := 0
  minimumDelayMs := 0
  leastRequiredDelayMs := 4 * 2 ^ 8
  maximumDelayMs := 4 * 2 ^ 8
  iatCumulativeSum := 0
  maxIatCumulativeSum := 0
  maxTimerMs := 0

section

variable (manager : DelayManager)

def reset : DelayManager :=
  { manager with
    packetLenMs := 0, streamingMode := false, iatVector := resetVector, baseTargetLevel := 4
    targetLevel := 4 * 2 ^ 8, iatFactor := 0, packetIatCountMs := 0, maxTimerMs := 0
    iatCumulativeSum := 0, maxIatCumulativeSum := 0 }

/-- The length of a packet by its distance to the last one, or the stored one. -/
def packetLen (sequenceNumber : UInt16) (timestamp : UInt32) (sampleRateHz : Int) : Int :=
  if timestamp ≤ manager.lastTimestamp ∨ sequenceNumber ≤ manager.lastSeqNo then
    manager.packetLenMs
  else
    let packetLenSamp := toInt32 ((timestamp - manager.lastTimestamp).toNat /
      (sequenceNumber - manager.lastSeqNo).toNat : Nat)
    (toInt32 (1000 * packetLenSamp)).tdiv sampleRateHz

def updateCumulativeSums (packetLenMs : Int) (sequenceNumber : UInt16) : DelayManager :=
  let iatPacketsQ8 := (toInt32 (manager.packetIatCountMs * 2 ^ 8)).tdiv packetLenMs
  let distance := ((sequenceNumber.toNat : Int) - manager.lastSeqNo.toNat) * 2 ^ 8
  let sum := max (toInt32 (toInt32 (manager.iatCumulativeSum + (iatPacketsQ8 - distance)) -
    kCumulativeSumDrift)) 0
  let raised := if sum > manager.maxIatCumulativeSum then
      { manager with iatCumulativeSum := sum, maxIatCumulativeSum := sum, maxTimerMs := 0 }
    else { manager with iatCumulativeSum := sum }
  if raised.maxTimerMs > kMaxStreamingPeakPeriodMs then
    { raised with maxIatCumulativeSum := raised.maxIatCumulativeSum - kCumulativeSumDrift }
  else raised

/-- The inter-arrival time in packets, with gaps and reordering in the sequence taken off. -/
def iatPackets (packetLenMs : Int) (sequenceNumber : UInt16) : Int :=
  let iat := manager.packetIatCountMs.tdiv packetLenMs
  let number : Int := sequenceNumber.toNat
  let last : Int := manager.lastSeqNo.toNat
  let compensated :=
    if number > last + 1 then max (toInt32 (iat - (number - last - 1))) 0
    else if number < last then toInt32 (iat + (last + 1 - number))
    else iat
  min compensated kMaxIat

def withLevels (leastRequiredDelayMs targetLevel : Int) : DelayManager :=
  { manager with leastRequiredDelayMs, targetLevel }

def limitTargetLevel : DelayManager :=
  let leastRequired := toInt32 (manager.targetLevel * manager.packetLenMs) / 2 ^ 8
  let level := manager.targetLevel
  let level :=
    if manager.packetLenMs > 0 ∧ manager.minimumDelayMs > 0 then
      max level ((toInt32 (manager.minimumDelayMs * 2 ^ 8)).tdiv manager.packetLenMs)
    else level
  let level :=
    if manager.maximumDelayMs > 0 ∧ manager.packetLenMs > 0 then
      min level ((toInt32 (manager.maximumDelayMs * 2 ^ 8)).tdiv manager.packetLenMs)
    else level
  let maxBufferPacketsQ8 :=
    (toInt32 (3 * toInt32 (manager.maxPacketsInBuffer * 2 ^ 8))).tdiv 4
  manager.withLevels leastRequired (max (min level maxBufferPacketsQ8) (1 * 2 ^ 8))

/-- `CalculateTargetLevel`, with the height that the peak detector answers if it finds a peak. -/
def calculateTargetLevel (peak : Option Int) : Option DelayManager := do
  let index ← baseLevel
    (if manager.streamingMode then kLimitProbabilityStreaming else kLimitProbability)
    manager.iatVector
  let level := match peak with
    | none => (index : Int)
    | some height => max (index : Int) height
  pure { manager with
    baseTargetLevel := index, targetLevel := toInt32 (max level 1 * 2 ^ 8) }

/-- The part of `Update` for a valid packet length. -/
def measure (packetLenMs : Int) (sequenceNumber : UInt16) (peak : Option Int) :
    Option DelayManager := do
  let summed :=
    if manager.streamingMode then manager.updateCumulativeSums packetLenMs sequenceNumber
    else manager
  let (iatVector, iatFactor) ← updateHistogram (manager.iatPackets packetLenMs sequenceNumber)
    manager.iatFactor manager.iatVector
  let leveled ← { summed with iatVector, iatFactor }.calculateTargetLevel peak
  let streamed :=
    if leveled.streamingMode then
      { leveled with targetLevel := max leveled.targetLevel leveled.maxIatCumulativeSum }
    else leveled
  pure streamed.limitTargetLevel

/-- An arriving packet, and the peak detector's answer for it. -/
structure Arrival where
  sequenceNumber : UInt16
  timestamp : UInt32
  sampleRateHz : Int
  peak : Option Int

/-- The packet is measured, so that the target level is limited. -/
def Measures (arrival : Arrival) : Prop :=
  0 < arrival.sampleRateHz ∧ manager.firstPacketReceived = true ∧
    0 < manager.packetLen arrival.sequenceNumber arrival.timestamp arrival.sampleRateHz

instance (arrival : Arrival) : Decidable (manager.Measures arrival) :=
  inferInstanceAs (Decidable (_ ∧ _ ∧ _))

def update (arrival : Arrival) : Option DelayManager :=
  if arrival.sampleRateHz ≤ 0 then some manager
  else do
    let measured ←
      if manager.Measures arrival then
        manager.measure
          (manager.packetLen arrival.sequenceNumber arrival.timestamp arrival.sampleRateHz)
          arrival.sequenceNumber arrival.peak
      else some manager
    pure { measured with
      packetIatCountMs := 0, lastSeqNo := arrival.sequenceNumber
      lastTimestamp := arrival.timestamp, firstPacketReceived := true }

def updateCounters (elapsedTimeMs : Nat) : DelayManager :=
  { manager with
    packetIatCountMs := toInt32 (manager.packetIatCountMs + elapsedTimeMs)
    maxTimerMs := toInt32 (manager.maxTimerMs + elapsedTimeMs) }

def setPacketAudioLength (lengthMs : Int) : DelayManager :=
  if lengthMs ≤ 0 then manager
  else { manager with packetLenMs := lengthMs, packetIatCountMs := 0 }

def setMinimumDelay (delayMs : Int) : DelayManager :=
  if (manager.maximumDelayMs > 0 ∧ delayMs > manager.maximumDelayMs) ∨ (manager.packetLenMs > 0 ∧
        delayMs > (toInt32 (toInt32 (3 * manager.maxPacketsInBuffer) * manager.packetLenMs)).tdiv 4)
  then manager
  else { manager with minimumDelayMs := delayMs }

def setMaximumDelay (delayMs : Int) : DelayManager :=
  if delayMs = 0 then { manager with maximumDelayMs := 0 }
  else if delayMs < manager.minimumDelayMs ∨ delayMs < manager.packetLenMs then manager
  else { manager with maximumDelayMs := delayMs }

end

inductive DelayEvent
  | update (arrival : Arrival)
  | updateCounters (elapsedTimeMs : Nat)
  | setPacketAudioLength (lengthMs : Int)
  | setMinimumDelay (delayMs : Int)
  | setMaximumDelay (delayMs : Int)
  | setStreamingMode (value : Bool)
  | reset

def step (manager : DelayManager) : DelayEvent → Option DelayManager
  | .update arrival => manager.update arrival
  | .updateCounters elapsedTimeMs => some (manager.updateCounters elapsedTimeMs)
  | .setPacketAudioLength lengthMs => some (manager.setPacketAudioLength lengthMs)
  | .setMinimumDelay delayMs => some (manager.setMinimumDelay delayMs)
  | .setMaximumDelay delayMs => some (manager.setMaximumDelay delayMs)
  | .setStreamingMode value => some { manager with streamingMode := value }
  | .reset => some manager.reset

/-- The histogram is a distribution in Q30, and its factor is in range. -/
structure Distributed (iatVector : List Int) (iatFactor : Int) : Prop where
  length : iatVector.length = 65
  nonneg : ∀ entry ∈ iatVector, 0 ≤ entry
  total : iatVector.sum = 2 ^ 30
  factor : 0 ≤ iatFactor ∧ iatFactor ≤ kIatFactor

def Limited (manager : DelayManager) : Prop :=
  256 ≤ manager.targetLevel ∧
    manager.targetLevel ≤ max 256 (192 * (manager.maxPacketsInBuffer : Int))

/-- The call hits no assertion and does not read outside the histogram, which stays a
distribution, and a measured packet leaves a limited target level. -/
def Keeps (manager : DelayManager) (event : DelayEvent) : Prop :=
  ∃ next, manager.step event = some next ∧ Distributed next.iatVector next.iatFactor ∧
    next.maxPacketsInBuffer = manager.maxPacketsInBuffer ∧
    ∀ arrival, event = .update arrival → manager.Measures arrival → next.Limited

def SoundRun (maxPacketsInBuffer : Nat) (events : List DelayEvent) : Prop :=
  Distributed (new maxPacketsInBuffer).iatVector (new maxPacketsInBuffer).iatFactor ∧
    Run.Permitted step Keeps (new maxPacketsInBuffer) events

/-- The time since the last packet, and the inter-arrival time of a reordered one, do not
overflow. -/
def Fits (manager : DelayManager) : DelayEvent → Prop
  | .updateCounters elapsedTimeMs => manager.packetIatCountMs + elapsedTimeMs < 2 ^ 31
  | .update arrival =>
    manager.Measures arrival → arrival.sequenceNumber < manager.lastSeqNo →
      manager.packetIatCountMs.tdiv
          (manager.packetLen arrival.sequenceNumber arrival.timestamp arrival.sampleRateHz) +
        (manager.lastSeqNo.toNat + 1 - arrival.sequenceNumber.toNat) < 2 ^ 31
  | _ => True

instance (manager : DelayManager) (event : DelayEvent) : Decidable (manager.Fits event) := by
  cases event <;> simp only [Fits] <;> infer_instance

theorem correct_zero (flipSign : Int) (entries : List Int) :
    correct flipSign entries 0 = (entries, 0) := by
  cases entries <;> simp [correct]

/-- The loop pays off a deficit, all of it when one entry is large enough. -/
theorem correct_spec {entries : List Int} (nonneg : ∀ entry ∈ entries, 0 ≤ entry) {deficit : Int}
    (owed : 0 ≤ deficit) :
    ∃ corrected left, correct 1 entries (-deficit) = (corrected, -left) ∧
      corrected.length = entries.length ∧ (∀ entry ∈ corrected, 0 ≤ entry) ∧
      corrected.sum + left = entries.sum + deficit ∧
      ((∃ entry ∈ entries, 16 * deficit ≤ entry) → left = 0) := by
  induction entries generalizing deficit with
  | nil => exact ⟨[], deficit, by simp [correct]⟩
  | cons head rest induction =>
    have ⟨headNonneg, restNonneg⟩ := forall_mem_cons.mp nonneg
    rcases eq_or_ne deficit 0 with rfl | due
    · exact ⟨head :: rest, 0, by simp [correct], rfl, nonneg, by simp, fun _ => rfl⟩
    have paidNonneg : 0 ≤ min deficit (head / 2 ^ 4) := by omega
    rcases induction restNonneg (show 0 ≤ deficit - min deficit (head / 2 ^ 4) by omega) with
      ⟨corrected, left, run, length, kept, total, paid⟩
    refine ⟨(head + min deficit (head / 2 ^ 4)) :: corrected, left, ?_, by simp [length],
      forall_mem_cons.mpr ⟨by omega, kept⟩, ?_, ?_⟩
    · have same : -deficit + min deficit (head / 2 ^ 4) =
          -(deficit - min deficit (head / 2 ^ 4)) := by omega
      rw [correct, if_neg (by omega), abs_neg, abs_of_nonneg owed, one_mul]
      simp only [same, run]
    · simp only [sum_cons]
      omega
    · rintro ⟨entry, member, large⟩
      rcases mem_cons.mp member with rfl | member
      · have all : deficit - min deficit (entry / 2 ^ 4) = 0 := by omega
        rw [all, neg_zero, correct_zero] at run
        have := congrArg Prod.snd run
        simp only at this
        omega
      · exact paid ⟨entry, member, by omega⟩

/-- Scaling loses less than one for each entry. -/
theorem sum_scaled_bounds {factor : Int} (entries : List Int) :
    (entries.map fun entry => entry * factor / 2 ^ 15).sum * 2 ^ 15 ≤ entries.sum * factor ∧
      entries.sum * factor - entries.length * (2 ^ 15 - 1) ≤
        (entries.map fun entry => entry * factor / 2 ^ 15).sum * 2 ^ 15 := by
  induction entries with
  | nil => simp
  | cons head rest induction =>
    simp only [map_cons, sum_cons, length_cons, add_mul, Nat.cast_add]
    omega

theorem sum_modify (increase : Int) : ∀ {entries : List Int} {index : Nat},
    index < entries.length → (entries.modify index (· + increase)).sum = entries.sum + increase
  | head :: rest, 0, _ => by simp [modify_zero_cons]; omega
  | head :: rest, index + 1, inside => by
    have := sum_modify increase (Nat.lt_of_succ_lt_succ inside)
    simp only [modify_succ_cons, sum_cons, this]
    omega

theorem mem_modify {increase : Int} (raised : 0 ≤ increase) :
    ∀ {entries : List Int} {index : Nat}, (∀ entry ∈ entries, 0 ≤ entry) →
      ∀ entry ∈ entries.modify index (· + increase), 0 ≤ entry
  | [], index, _ => by simp
  | head :: rest, 0, nonneg => by
    have ⟨headNonneg, restNonneg⟩ := forall_mem_cons.mp nonneg
    exact forall_mem_cons.mpr ⟨add_nonneg headNonneg raised, restNonneg⟩
  | head :: rest, index + 1, nonneg => by
    have ⟨headNonneg, restNonneg⟩ := forall_mem_cons.mp nonneg
    exact forall_mem_cons.mpr ⟨headNonneg, mem_modify raised restNonneg⟩

theorem updateHistogram_spec {iatVector : List Int} {iatFactor iatPackets : Int}
    (distributed : Distributed iatVector iatFactor) (below : 0 ≤ iatPackets)
    (above : iatPackets ≤ kMaxIat) :
    ∃ vector factor, updateHistogram iatPackets iatFactor iatVector = some (vector, factor) ∧
      Distributed vector factor := by
  rcases distributed with ⟨length, nonneg, total, factor⟩
  simp only [kIatFactor, kMaxIat] at factor above
  have inside : iatPackets.toNat < iatVector.length := by omega
  let scaled := iatVector.map fun entry => entry * iatFactor / 2 ^ 15
  let increase := (32768 - iatFactor) * 2 ^ 15
  let deficit := iatFactor * 2 ^ 15 - scaled.sum
  have lost : 0 ≤ deficit ∧ deficit ≤ 64 := by
    have := @sum_scaled_bounds iatFactor iatVector
    simp only [total, length] at this
    simp only [deficit, scaled]
    omega
  have scaledNonneg : ∀ entry ∈ scaled, 0 ≤ entry := by
    intro entry member
    rcases List.mem_map.mp member with ⟨old, oldMember, rfl⟩
    exact Int.ediv_nonneg (mul_nonneg (nonneg old oldMember) factor.1) (by decide)
  let raised := scaled.modify iatPackets.toNat (· + increase)
  have raisedSum : raised.sum = 2 ^ 30 - deficit := by
    rw [sum_modify increase (by simpa [scaled] using inside)]
    simp only [increase, deficit]
    omega
  have raisedNonneg : ∀ entry ∈ raised, 0 ≤ entry :=
    mem_modify (show 0 ≤ increase by simp only [increase]; omega) scaledNonneg
  have raisedLength : raised.length = 65 := by simp [raised, scaled, length]
  have large : ∃ entry ∈ raised, 16 * deficit ≤ entry := by
    by_contra! small
    have := raised.sum_le_card_nsmul 1023 fun entry member => by
      have := small entry member
      omega
    rw [raisedLength, raisedSum, nsmul_eq_mul] at this
    omega
  rcases correct_spec raisedNonneg lost.1 with ⟨corrected, left, run, same, kept, sum, paid⟩
  cases paid large
  rw [raisedSum] at sum
  refine ⟨corrected, iatFactor + (kIatFactor - iatFactor + 3) / 2 ^ 2, ?_, same.trans raisedLength,
    kept, by omega, ?_⟩
  · have sumEq : scaled.sum + increase - 2 ^ 30 = -deficit := by
      simp only [increase, deficit]
      omega
    rw [updateHistogram, if_neg (by omega)]
    simp only [scaled, increase, raised] at sumEq run
    simp only [sumEq, if_neg (show ¬ -deficit > 0 by omega), run]
    rfl
  · simp only [kIatFactor]
    omega

theorem levelFrom_isSome (limitProbability : Int) :
    ∀ {rest : List Int} (index : Nat) (sum : Int), rest ≠ [] →
      ∃ level, levelFrom limitProbability index sum rest = some level
  | [], _, _, inside => absurd rfl inside
  | entry :: rest, index, sum, _ => by
    rw [levelFrom]
    split
    next more => exact levelFrom_isSome limitProbability (index + 1) (sum - entry) more.2
    next => exact ⟨index + 1, rfl⟩

theorem baseLevel_isSome (limitProbability : Int) {iatVector : List Int}
    (length : iatVector.length = 65) : ∃ index, baseLevel limitProbability iatVector = some index := by
  rcases iatVector with _ | ⟨first, _ | ⟨second, rest⟩⟩
  · cases length
  · cases length
  · exact levelFrom_isSome _ 0 (2 ^ 30 - first) (cons_ne_nil second rest)

theorem calculateTargetLevel_spec {manager : DelayManager} (peak : Option Int)
    (length : manager.iatVector.length = 65) :
    ∃ base level, manager.calculateTargetLevel peak =
      some { manager with baseTargetLevel := base, targetLevel := level } := by
  rcases baseLevel_isSome
    (if manager.streamingMode then kLimitProbabilityStreaming else kLimitProbability) length with
    ⟨index, found⟩
  rw [calculateTargetLevel, found]
  exact ⟨index, _, rfl⟩

theorem maxBufferPackets_le (maxPacketsInBuffer : Nat) :
    (toInt32 (3 * toInt32 (maxPacketsInBuffer * 2 ^ 8))).tdiv 4 ≤ 192 * maxPacketsInBuffer := by
  have below : (0 : Int) ≤ maxPacketsInBuffer * 2 ^ 8 := by positivity
  have fits := toInt32_of_bounds below
  have inner := toInt32_bounds below
  have small : toInt32 (3 * toInt32 (maxPacketsInBuffer * 2 ^ 8)) < 2 ^ 31 :=
    Int.bmod_lt (by decide)
  have outer := @toInt32_bounds (3 * toInt32 (maxPacketsInBuffer * 2 ^ 8))
  have bound : toInt32 (3 * toInt32 (maxPacketsInBuffer * 2 ^ 8)) ≤
      192 * maxPacketsInBuffer * 4 := by
    omega
  exact (Int.tdiv_le_tdiv (by decide) bound).trans_eq (Int.mul_tdiv_cancel _ (by decide))

theorem withLevels_limited {manager : DelayManager} {leastRequiredDelayMs targetLevel : Int}
    (lower : 256 ≤ targetLevel)
    (upper : targetLevel ≤ max 256 (192 * (manager.maxPacketsInBuffer : Int))) :
    (manager.withLevels leastRequiredDelayMs targetLevel).Limited :=
  ⟨lower, upper⟩

theorem limitTargetLevel_limited (manager : DelayManager) : manager.limitTargetLevel.Limited := by
  have large := maxBufferPackets_le manager.maxPacketsInBuffer
  rw [limitTargetLevel]
  apply withLevels_limited (le_max_of_le_right (by norm_num))
  exact max_le (le_max_of_le_right (min_le_of_right_le large)) (le_max_of_le_left (by norm_num))

theorem iatPackets_bounds {manager : DelayManager} {packetLenMs : Int} {sequenceNumber : UInt16}
    (counted : 0 ≤ manager.packetIatCountMs) (valid : 0 < packetLenMs)
    (fits : sequenceNumber < manager.lastSeqNo → manager.packetIatCountMs.tdiv packetLenMs +
        (manager.lastSeqNo.toNat + 1 - sequenceNumber.toNat) < 2 ^ 31) :
    0 ≤ manager.iatPackets packetLenMs sequenceNumber ∧
      manager.iatPackets packetLenMs sequenceNumber ≤ kMaxIat := by
  have iatNonneg := Int.tdiv_nonneg counted valid.le
  refine ⟨le_min ?_ (by decide), min_le_right _ _⟩
  split_ifs with gap reordered
  · exact le_max_right _ _
  · rw [toInt32_of_bounds (by omega) (fits (UInt16.lt_iff_toNat_lt.mpr (by omega)))]
    omega
  · exact iatNonneg

theorem measure_spec {manager : DelayManager} {packetLenMs : Int} {sequenceNumber : UInt16}
    (peak : Option Int) (distributed : Distributed manager.iatVector manager.iatFactor)
    (below : 0 ≤ manager.iatPackets packetLenMs sequenceNumber)
    (above : manager.iatPackets packetLenMs sequenceNumber ≤ kMaxIat) :
    ∃ next, manager.measure packetLenMs sequenceNumber peak = some next ∧
      Distributed next.iatVector next.iatFactor ∧
      next.maxPacketsInBuffer = manager.maxPacketsInBuffer ∧ next.Limited := by
  rcases updateHistogram_spec distributed below above with ⟨vector, factor, updated, kept⟩
  let summed :=
    if manager.streamingMode then manager.updateCumulativeSums packetLenMs sequenceNumber
    else manager
  have sameBuffer : summed.maxPacketsInBuffer = manager.maxPacketsInBuffer := by
    simp only [summed, updateCumulativeSums]
    split_ifs <;> rfl
  rcases @calculateTargetLevel_spec { summed with iatVector := vector, iatFactor := factor } peak
    kept.length with ⟨base, level, leveled⟩
  rw [measure, updated]
  simp only [Option.bind_eq_bind, Option.bind_some]
  rw [leveled]
  refine ⟨_, rfl, ?_, ?_, limitTargetLevel_limited _⟩
  · split_ifs <;> exact kept
  · split_ifs <;> exact sameBuffer

structure Invariant (manager : DelayManager) : Prop where
  distributed : Distributed manager.iatVector manager.iatFactor
  counted : 0 ≤ manager.packetIatCountMs

theorem resetVector_distributed : Distributed resetVector 0 where
  length := by decide +kernel
  nonneg := by decide +kernel
  total := by decide +kernel
  factor := by decide

theorem update_spec {manager : DelayManager} {arrival : Arrival} (invariant : manager.Invariant)
    (fits : manager.Fits (.update arrival)) :
    ∃ next, manager.update arrival = some next ∧ next.Invariant ∧
      next.maxPacketsInBuffer = manager.maxPacketsInBuffer ∧
      (manager.Measures arrival → next.Limited) := by
  rw [update]
  split_ifs with invalid measures
  · exact ⟨manager, rfl, invariant, rfl, fun measures => absurd measures.1 (by omega)⟩
  · have bounds := iatPackets_bounds invariant.counted measures.2.2 (fits measures)
    rcases measure_spec arrival.peak invariant.distributed bounds.1 bounds.2 with
      ⟨next, measured, kept, buffer, limited⟩
    rw [measured]
    exact ⟨_, rfl, ⟨kept, le_rfl⟩, buffer, fun _ => limited⟩
  · exact ⟨_, rfl, ⟨invariant.distributed, le_rfl⟩, rfl, fun holds => absurd holds measures⟩

theorem step_spec {manager : DelayManager} {event : DelayEvent} (invariant : manager.Invariant)
    (fits : manager.Fits event) :
    ∃ next, manager.step event = some next ∧ next.Invariant ∧
      next.maxPacketsInBuffer = manager.maxPacketsInBuffer ∧
      ∀ arrival, event = .update arrival → manager.Measures arrival → next.Limited := by
  have ⟨distributed, counted⟩ := invariant
  cases event with
  | update arrival =>
    rcases update_spec invariant fits with ⟨next, updated, kept, buffer, limited⟩
    exact ⟨next, updated, kept, buffer, fun _ same => DelayEvent.update.inj same ▸ limited⟩
  | updateCounters elapsedTimeMs =>
    refine ⟨_, rfl, ⟨distributed, ?_⟩, rfl, nofun⟩
    simp only [updateCounters, toInt32_of_bounds (by omega) fits]
    omega
  | setPacketAudioLength lengthMs =>
    refine ⟨_, rfl, ?_, ?_, nofun⟩ <;> rw [setPacketAudioLength] <;> split_ifs
    exacts [invariant, ⟨distributed, le_rfl⟩, rfl, rfl]
  | setMinimumDelay delayMs =>
    refine ⟨_, rfl, ?_, ?_, nofun⟩ <;> rw [setMinimumDelay] <;> split_ifs
    exacts [invariant, ⟨distributed, counted⟩, rfl, rfl]
  | setMaximumDelay delayMs =>
    refine ⟨_, rfl, ?_, ?_, nofun⟩ <;> rw [setMaximumDelay] <;> split_ifs
    exacts [⟨distributed, counted⟩, invariant, ⟨distributed, counted⟩, rfl, rfl, rfl]
  | setStreamingMode value => exact ⟨_, rfl, ⟨distributed, counted⟩, rfl, nofun⟩
  | reset => exact ⟨_, rfl, ⟨resetVector_distributed, le_rfl⟩, rfl, nofun⟩

theorem soundRun_of_fits {maxPacketsInBuffer : Nat} {events : List DelayEvent}
    (fits : Run.Permitted step Fits (new maxPacketsInBuffer) events) :
    SoundRun maxPacketsInBuffer events := by
  refine ⟨resetVector_distributed, ?_⟩
  apply @Run.permitted_of_invariant _ _ step Invariant Fits _ _ _ _ _
    ⟨resetVector_distributed, le_rfl⟩ fits
  · intro manager event next invariant allowed stepped
    rcases step_spec invariant allowed with ⟨other, same, kept, _⟩
    cases stepped.symm.trans same
    exact kept
  · intro manager event invariant allowed
    rcases step_spec invariant allowed with ⟨next, stepped, kept, rest⟩
    exact ⟨next, stepped, kept.distributed, rest⟩

theorem soundRun_late : SoundRun 50 [.update ⟨1, 0, 8000, none⟩, .updateCounters 60,
    .update ⟨2, 160, 8000, some 7⟩, .setStreamingMode true, .updateCounters 20,
    .update ⟨1, 0, 8000, none⟩] :=
  soundRun_of_fits (by decide +kernel)

/-- After 2³¹ ms without a packet, the index of the next one is negative. -/
theorem not_soundRun_silence : ¬ ∀ maxPacketsInBuffer events,
    SoundRun maxPacketsInBuffer events := by
  intro always
  have ⟨_, kept⟩ := always 50 [.update ⟨1, 0, 8000, none⟩, .updateCounters (2 ^ 31 - 1),
    .updateCounters 1, .update ⟨2, 160, 8000, none⟩]
  rcases @Run.invariant_reached _ _ step _ (fun _ => True)
    (fun _ _ _ keeps => keeps.imp fun _ held => ⟨held.1, trivial⟩) _ _ trivial kept with
    ⟨last, run, _⟩
  have fails : Run.reached step (new 50) [.update ⟨1, 0, 8000, none⟩,
      .updateCounters (2 ^ 31 - 1), .updateCounters 1, .update ⟨2, 160, 8000, none⟩] = none := by
    rw [← Option.isNone_iff_eq_none]
    decide +kernel
  cases fails.symm.trans run

end DelayManager

end ZyWebRtc.NetEq
