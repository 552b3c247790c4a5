import ZyWebRtc.Rtcp.BitRateFields
import ZyWebRtc.Rtcp.BoundingSelection

namespace ZyWebRtc.Rtcp

open List SetElement LowerEnvelope

/-! When the entries that `FindTMMBRBoundingSet` returns bound the bit rate as all candidates do.
They do not when a candidate is lost whose bit rate is below that of the entry before it, as the
unsigned difference wraps. Nor do they when the candidates of overhead zero are lost with the
empty slots, or when a candidate that was cleared is still counted, and an empty slot is added for
it. -/

def candidatesOf (set : TMMBRSet) : List SetElement := set.data.filter used

/-- At every packet rate at which the entries leave a bit rate, the least of theirs is that of all
candidates. -/
structure BoundsCandidates (candidates found : List SetElement) : Prop where
  some : 1 ≤ found.length
  atMost : found.length ≤ candidates.length
  mem : ∀ element ∈ found, element ∈ candidates
  least : ∀ rate : ℚ, 0 ≤ rate → (∀ element ∈ found, 0 ≤ element.line.value rate) →
    (found.map fun element => element.line.value rate).min? =
      (candidates.map fun element => element.line.value rate).min?

def FindsBoundingSet (set : TMMBRSet) : Prop :=
  ∃ found, findTMMBRBoundingSet set = some (found.length, found) ∧
    BoundsCandidates (candidatesOf set) found

/-- The lowest bit rate, and of several ones the highest overhead. -/
structure Lowest (candidates : List SetElement) (first : SetElement) : Prop where
  mem : first ∈ candidates
  le : ∀ candidate ∈ candidates, first.tmmbr ≤ candidate.tmmbr
  tie : ∀ candidate ∈ candidates, candidate.tmmbr = first.tmmbr →
    candidate.packetOH ≤ first.packetOH

/-- Of each larger overhead a candidate with the lowest bit rate, in their order. -/
structure Contenders (candidates : List SetElement) (first : SetElement)
    (others : List SetElement) : Prop where
  mem : ∀ element ∈ others, element ∈ candidates
  steeper : ∀ element ∈ others, first.packetOH < element.packetOH
  increasing : others.Pairwise fun first second => first.packetOH < second.packetOH
  lowest : ∀ candidate ∈ candidates, first.packetOH < candidate.packetOH →
    ∃ element ∈ others, element.packetOH = candidate.packetOH ∧ element.tmmbr ≤ candidate.tmmbr

/-- The candidates as they are received, and empty slots. -/
structure WellFormed (set : TMMBRSet) : Prop where
  range : ∀ candidate ∈ candidatesOf set, candidate.InRange
  empty : ∀ element ∈ set.data, element.used = false → element.packetOH = 0

/-! ## The least value -/

theorem min?_values_eq_iff {candidates found : List SetElement} (some : found ≠ [])
    (mem : ∀ element ∈ found, element ∈ candidates) (rate : ℚ) :
    (found.map fun element => element.line.value rate).min? =
        (candidates.map fun element => element.line.value rate).min? ↔
      ∀ candidate ∈ candidates, ∃ element ∈ found,
        element.line.value rate ≤ candidate.line.value rate := by
  have nonempty : found.map (fun element => element.line.value rate) ≠ [] := by simpa using some
  rcases Option.ne_none_iff_exists'.mp (mt List.min?_eq_none_iff.mp nonempty) with ⟨least, isLeast⟩
  have spec := List.min?_eq_some_iff.mp isLeast
  rcases List.mem_map.mp spec.1 with ⟨entry, entryIn, entryValue⟩
  rw [isLeast, eq_comm, List.min?_eq_some_iff]
  constructor
  · rintro ⟨_, below⟩ candidate member
    refine ⟨entry, entryIn, ?_⟩
    rw [entryValue]
    exact below _ (mem_map_of_mem (f := fun element => element.line.value rate) member)
  · intro below
    refine ⟨?_, ?_⟩
    · rw [← entryValue]
      exact mem_map_of_mem (f := fun element => element.line.value rate) (mem entry entryIn)
    · intro value member
      rcases List.mem_map.mp member with ⟨candidate, inside, rfl⟩
      rcases below candidate inside with ⟨element, elementIn, le⟩
      exact (spec.2 _ (mem_map_of_mem
        (f := fun element => element.line.value rate) elementIn)).trans le

theorem boundsCandidates_iff {candidates found : List SetElement} (some : 1 ≤ found.length)
    (atMost : found.length ≤ candidates.length) (mem : ∀ element ∈ found, element ∈ candidates) :
    BoundsCandidates candidates found ↔
      Covers (found.map SetElement.line) (candidates.map SetElement.line) := by
  have nonempty : found ≠ [] := ne_nil_of_length_pos some
  constructor
  · intro bounds rate positive feasible line member
    rcases List.mem_map.mp member with ⟨candidate, inside, rfl⟩
    have least := bounds.least rate positive fun element elementIn =>
      feasible _ (mem_map_of_mem elementIn)
    rcases (min?_values_eq_iff nonempty mem rate).mp least candidate inside with
      ⟨element, elementIn, le⟩
    exact ⟨_, mem_map_of_mem elementIn, le⟩
  · intro covers
    refine ⟨some, atMost, mem, fun rate positive feasible => ?_⟩
    rw [min?_values_eq_iff nonempty mem rate]
    intro candidate inside
    have feasibleLines : ∀ line ∈ found.map SetElement.line, 0 ≤ line.value rate := by
      intro line member
      rcases List.mem_map.mp member with ⟨element, elementIn, rfl⟩
      exact feasible element elementIn
    rcases covers rate positive feasibleLines _ (mem_map_of_mem inside) with ⟨line, member, le⟩
    rcases List.mem_map.mp member with ⟨element, elementIn, rfl⟩
    exact ⟨element, elementIn, le⟩

theorem covers_candidates_iff {candidates others : List SetElement} {first : SetElement}
    (lowest : Lowest candidates first) (contend : Contenders candidates first others)
    (chosen : List (Line ℚ)) : Covers chosen (candidates.map SetElement.line) ↔
      Covers chosen (first.line :: others.map SetElement.line) := by
  have higher : ∀ {below above : SetElement}, below.tmmbr ≤ above.tmmbr →
      above.packetOH ≤ below.packetOH → ∀ rate : ℚ, 0 ≤ rate →
        below.line.value rate ≤ above.line.value rate := by
    intro below above heights slopes rate positive
    have heightCast : (below.tmmbr.toNat : ℚ) ≤ above.tmmbr.toNat := by
      exact_mod_cast UInt32.le_iff_toNat_le.mp heights
    have slopeCast : (above.packetOH.toNat : ℚ) ≤ below.packetOH.toNat := by
      exact_mod_cast UInt32.le_iff_toNat_le.mp slopes
    have scaled := mul_le_mul_of_nonneg_right slopeCast positive
    change (1000 * below.tmmbr.toNat - 8 * below.packetOH.toNat * rate : ℚ) ≤
      1000 * above.tmmbr.toNat - 8 * above.packetOH.toNat * rate
    linarith
  constructor
  · intro covers rate positive feasible line member
    apply covers rate positive feasible line
    rcases mem_cons.mp member with rfl | member
    · exact mem_map_of_mem lowest.mem
    · rcases List.mem_map.mp member with ⟨element, inside, rfl⟩
      exact mem_map_of_mem (contend.mem element inside)
  · intro covers rate positive feasible line member
    rcases List.mem_map.mp member with ⟨candidate, inside, rfl⟩
    have bounded : ∃ other : SetElement, other.line ∈ first.line :: others.map SetElement.line ∧
        other.line.value rate ≤ candidate.line.value rate := by
      by_cases steeper : first.packetOH < candidate.packetOH
      · rcases contend.lowest candidate inside steeper with ⟨element, elementIn, same, le⟩
        exact ⟨element, mem_cons_of_mem _ (mem_map_of_mem elementIn),
          higher le (UInt32.le_of_eq same.symm) rate positive⟩
      · exact ⟨first, mem_cons_self,
          higher (lowest.le candidate inside) (UInt32.not_lt.mp steeper) rate positive⟩
    rcases bounded with ⟨other, otherIn, otherBelow⟩
    rcases covers rate positive feasible _ otherIn with ⟨least, leastIn, below⟩
    exact ⟨least, leastIn, below.trans otherBelow⟩

/-! ## What steps 1 to 4 select -/

theorem eq_of_packetOH_eq {slots : List SetElement}
    (increasing : slots.Pairwise fun first second => first.packetOH < second.packetOH)
    {first second : SetElement} (firstIn : first ∈ slots) (secondIn : second ∈ slots)
    (same : first.packetOH = second.packetOH) : first = second := by
  induction slots with
  | nil => exact nomatch firstIn
  | cons head rest induction =>
    rcases pairwise_cons.mp increasing with ⟨lower, later⟩
    rcases mem_cons.mp firstIn with rfl | firstBehind
    · rcases mem_cons.mp secondIn with rfl | secondBehind
      · rfl
      · exact absurd same (UInt32.ne_of_lt (lower second secondBehind))
    · rcases mem_cons.mp secondIn with rfl | secondBehind
      · exact absurd same.symm (UInt32.ne_of_lt (lower first firstBehind))
      · exact induction later firstBehind secondBehind

section Selected

variable {candidates front back others : List SetElement} {first selected : SetElement}
  {emptySlots : Nat} (left : LeftCandidates candidates emptySlots (front ++ selected :: back))
  (lowestAt : LowestAt front selected back) (lowest : Lowest candidates first)
  (survives : ZerosLost (zerosOf candidates) emptySlots → first.packetOH ≠ 0)

include left lowestAt

theorem LeftCandidates.mem_back {element : SetElement}
    (member : element ∈ front ++ selected :: back) (used : element.used)
    (steeper : selected.packetOH < element.packetOH) : element ∈ back.filter SetElement.used := by
  rcases mem_append.mp member with member | member
  · have lower := left.front_lower lowestAt element member used
    exact absurd (UInt32.lt_trans lower steeper) (UInt32.lt_irrefl _)
  · rcases mem_cons.mp member with rfl | member
    · exact absurd steeper (UInt32.lt_irrefl _)
    · exact mem_filter.mpr ⟨member, used⟩

include lowest survives

theorem LeftCandidates.selected_line : selected.line = first.line := by
  rcases left.bounded first lowest.mem survives with ⟨element, member, used, same, le⟩
  have candidate := left.mem element member used
  have selectedIn := left.first_mem lowestAt
  have sameHeight : element.tmmbr = first.tmmbr :=
    UInt32.le_antisymm le (lowest.le element candidate)
  have selectedLe : selected.tmmbr ≤ element.tmmbr := by
    rcases mem_append.mp member with member | member
    · exact lowestAt.before element member used
    · rcases mem_cons.mp member with rfl | member
      · exact UInt32.le_refl _
      · exact UInt32.le_of_lt (lowestAt.behind element member used)
  rw [sameHeight] at selectedLe
  have height := UInt32.le_antisymm selectedLe (lowest.le selected selectedIn)
  have atMost := lowest.tie selected selectedIn height
  have atLeast : first.packetOH ≤ selected.packetOH := by
    apply UInt32.not_lt.mp
    intro steeper
    rw [← same] at steeper
    have inside := left.mem_back lowestAt member used steeper
    have above := lowestAt.behind element (mem_of_mem_filter inside) used
    rw [sameHeight, height] at above
    exact UInt32.lt_irrefl _ above
  exact line_eq_iff.mpr ⟨height, UInt32.le_antisymm atMost atLeast⟩

theorem LeftCandidates.back_line (contend : Contenders candidates first others) :
    (back.filter SetElement.used).map SetElement.line = others.map SetElement.line := by
  have overhead : selected.packetOH = first.packetOH :=
    (line_eq_iff.mp (left.selected_line lowestAt lowest survives)).2
  have behind := left.back_higher lowestAt
  have increasing : ∀ {slots : List SetElement},
      (slots.Pairwise fun first second => first.packetOH < second.packetOH) →
      (slots.map SetElement.line).Pairwise fun first second => first.slope < second.slope :=
    fun ordered => pairwise_map.mpr (ordered.imp line_slope_lt.mpr)
  have antisymm : Std.Antisymm fun first second : Line ℚ => first.slope < second.slope :=
    ⟨fun _ _ lower higher => absurd higher lower.not_gt⟩
  have irrefl : Std.Irrefl fun first second : Line ℚ => first.slope < second.slope :=
    ⟨fun _ lower => lt_irrefl _ lower⟩
  apply List.Pairwise.eq_of_mem_iff (increasing behind.1) (increasing contend.increasing)
  intro line
  constructor
  · intro member
    rcases List.mem_map.mp member with ⟨element, inside, rfl⟩
    have candidate := left.mem_of_mem_back inside
    have steeper := behind.2 element inside
    rw [overhead] at steeper
    rcases contend.lowest element candidate steeper with ⟨other, otherIn, same, le⟩
    have nonzero : ZerosLost (zerosOf candidates) emptySlots → other.packetOH ≠ 0 :=
      fun _ => (UInt32.ne_of_lt
        (UInt32.lt_of_le_of_lt UInt32.zero_le (contend.steeper other otherIn))).symm
    rcases left.bounded other (contend.mem other otherIn) nonzero with
      ⟨again, againIn, againUsed, againSame, againLe⟩
    rcases mem_filter.mp inside with ⟨insideBack, used⟩
    have equal : again = element :=
      eq_of_packetOH_eq left.increasing (mem_filter.mpr ⟨againIn, againUsed⟩)
        (mem_filter.mpr ⟨by simp [insideBack], used⟩) (againSame.trans same)
    rw [equal] at againLe
    have height := UInt32.le_antisymm le againLe
    rw [← line_eq_iff.mpr ⟨height, same⟩]
    exact mem_map_of_mem otherIn
  · intro member
    rcases List.mem_map.mp member with ⟨other, otherIn, rfl⟩
    have steeper := contend.steeper other otherIn
    have nonzero : ZerosLost (zerosOf candidates) emptySlots → other.packetOH ≠ 0 :=
      fun _ => (UInt32.ne_of_lt (UInt32.lt_of_le_of_lt UInt32.zero_le steeper)).symm
    rcases left.bounded other (contend.mem other otherIn) nonzero with
      ⟨element, elementIn, used, same, le⟩
    rw [← overhead, ← same] at steeper
    have inside := left.mem_back lowestAt elementIn used steeper
    rw [overhead] at steeper
    rcases contend.lowest element (left.mem element elementIn used) steeper with
      ⟨again, againIn, againSame, againLe⟩
    have equal : again = other :=
      eq_of_packetOH_eq contend.increasing againIn otherIn (againSame.trans same)
    rw [equal] at againLe
    have height := UInt32.le_antisymm le againLe
    rw [← line_eq_iff.mpr ⟨height, same⟩]
    exact mem_map_of_mem inside

end Selected

/-- Without a candidate that is left, an empty slot is the entry. -/
theorem LeftCandidates.selectBounding_empty {candidates slots : List SetElement}
    {emptySlots : Nat} (left : LeftCandidates candidates emptySlots slots)
    (several : 1 < candidates.length) (none : slots.filter SetElement.used = []) :
    ∃ found, selectBounding candidates.length slots = some found ∧ zero ∈ found := by
  have unused : ∀ element ∈ slots, element.used = false := by
    simpa using filter_eq_nil_iff.mp none
  have size := left.length
  have someUsed : slots.any SetElement.used = false := by simpa using unused
  have found : slots.find? SetElement.used = Option.none := by simpa using unused
  have minIndex : selectLowest slots = 0 := by
    have passed := lowestIndex_unused [] slots 0 0 0 unused
    rw [append_nil] at passed
    rw [selectLowest, someUsed, found]
    exact passed
  cases slots with
  | nil =>
    rw [length_nil] at size
    omega
  | cons head rest =>
    have isZero : head = .zero :=
      left.blank head mem_cons_self (unused head mem_cons_self)
    have uncounted : ((head :: rest).set 0 .zero).countP (lowerOverhead head.packetOH) = 0 := by
      rw [countP_eq_zero]
      intro element member
      have elementUnused : element.used = false := by
        rcases mem_cons.mp member with rfl | member
        · rfl
        · exact unused element (mem_cons_of_mem _ member)
      rw [lowerOverhead, elementUnused]
      simp
    have stays : (discardLowerOverhead head.packetOH ((head :: rest).set 0 .zero)).filter
        SetElement.used = [] := by
      rw [filter_eq_nil_iff]
      intro element member used
      rcases List.mem_map.mp member with ⟨source, inside, cleared⟩
      split at cleared
      · rw [← cleared] at used
        exact absurd used (by decide)
      · rw [← cleared] at used
        rcases mem_cons.mp inside with rfl | inside
        · exact absurd used (by decide)
        · rw [unused source (mem_cons_of_mem _ inside)] at used
          exact absurd used (by decide)
    have settled : (Selection.Settled (startSelection head
        (discardLowerOverhead head.packetOH ((head :: rest).set 0 .zero))
        (candidates.length - 1))) := Selection.settled_self _ rfl isZero
    rcases Nat.exists_eq_add_one_of_ne_zero (Nat.ne_of_gt (Nat.sub_pos_of_lt several)) with
      ⟨count, num⟩
    rcases @Selection.Settled.loop (head :: rest).length _ [] count _
      (2 * candidates.length + 1) num (by omega) settled stays rfl with ⟨result, run, same⟩
    refine ⟨result.entries, ?_, ?_⟩
    · rw [selectBounding, minIndex]
      change (if candidates.length - 1 - List.countP _ ((head :: rest).set 0 .zero) = 0 then _
        else _) = _
      rw [uncounted, Nat.sub_zero, if_neg (by omega)]
      change ((Selection.loop _ _ (startSelection _ _ _)).bind _) = _
      rw [run]
      rfl
    · rw [Selection.entries, same, ← isZero]
      exact mem_cons_self

/-! ## The bounding set -/

theorem findsBoundingSet_iff_entries {set : TMMBRSet} (formed : WellFormed set)
    (some : candidatesOf set ≠ []) : FindsBoundingSet set ↔
      ∃ found, boundingEntries (candidatesOf set).length (candidateSlots set) = .some found ∧
        BoundsCandidates (candidatesOf set) found := by
  have clean : (set.data.any fun element => !element.used && element.packetOH != 0) = false := by
    rw [any_eq_false]
    intro element member
    cases used : element.used with
    | true => simp
    | false => simp [formed.empty element member used]
  have count : (set.data.filter SetElement.used).length ≠ 0 :=
    mt eq_nil_of_length_eq_zero some
  have size : (candidatesOf set).length ≤ set.sizeOfSet := List.length_filter_le _ _
  have unfolded : findTMMBRBoundingSet set =
      (boundingEntries (candidatesOf set).length (candidateSlots set)).bind fun found =>
        if found.length < 1 ∨ set.sizeOfSet < found.length then Option.some ((-1 : Int), [])
        else Option.some ((found.length : Int), found) := by
    rw [findTMMBRBoundingSet, if_neg (by rw [clean]; decide)]
    change (if (set.data.filter SetElement.used).length = 0 then _ else _) = _
    rw [if_neg count]
    rfl
  rw [FindsBoundingSet, unfolded]
  constructor
  · rintro ⟨found, run, bounds⟩
    rcases Option.bind_eq_some_iff.mp run with ⟨entries, entriesRun, result⟩
    split at result
    · have number := congrArg Prod.fst (Option.some.inj result)
      change (-1 : Int) = found.length at number
      omega
    · have same : entries = found := congrArg Prod.snd (Option.some.inj result)
      exact ⟨found, same ▸ entriesRun, bounds⟩
  · rintro ⟨found, run, bounds⟩
    have least := bounds.some
    have most := bounds.atMost
    refine ⟨found, ?_, bounds⟩
    rw [run, Option.bind_some, if_neg (by omega)]

/-- Every candidate is bounded although some are skipped: no line is lost with the empty slots, or
gets lost behind the slot of a candidate that was cleared, and those whose difference wraps are
above the others. -/
structure ScansExactly (candidates : List SetElement) (emptySlots : Nat) (first : SetElement)
    (others : List SetElement) : Prop where
  zeros : ZerosLost (zerosOf candidates) emptySlots → first.packetOH ≠ 0
  counted : others = [] → first.Shallow ∨
    (candidates.map packetOH).Nodup ∧ ¬ ZerosLost (zerosOf candidates) emptySlots
  skipped : Covers (first.line :: kept first.line (others.map line))
    (LowerEnvelope.skipped first.line (others.map line))

theorem not_boundsCandidates_zero {candidates found : List SetElement}
    (used : ∀ candidate ∈ candidates, candidate.used) (zero : SetElement.zero ∈ found) :
    ¬ BoundsCandidates candidates found :=
  fun bounds => absurd (used .zero (bounds.mem .zero zero)) (by decide)

theorem not_exists_of_some {slots candidates found : List SetElement} {count : Nat}
    (run : selectBounding count slots = some found) (fails : ¬ BoundsCandidates candidates found) :
    ¬ ∃ found, selectBounding count slots = some found ∧ BoundsCandidates candidates found := by
  rintro ⟨other, otherRun, bounds⟩
  rw [run] at otherRun
  cases otherRun
  exact fails bounds

section Bounds

variable {candidates others front back : List SetElement} {first selected : SetElement}
  {emptySlots : Nat} (left : LeftCandidates candidates emptySlots (front ++ selected :: back))
  (lowestAt : LowestAt front selected back)
  (index : selectLowest (front ++ selected :: back) = front.length)
  (range : ∀ candidate ∈ candidates, candidate.InRange)
  (used : ∀ candidate ∈ candidates, candidate.used) (lowest : Lowest candidates first)
  (contend : Contenders candidates first others)

include left lowestAt index range used lowest

theorem LeftCandidates.not_bounds_of_lost (lost : ZerosLost (zerosOf candidates) emptySlots)
    (flat : first.packetOH = 0) :
    ¬ ∃ found, selectBounding candidates.length (front ++ selected :: back) = some found ∧
      BoundsCandidates candidates found := by
  by_cases idle : back.filter SetElement.used = [] →
      ((front ++ selected :: back).filter SetElement.used).length < candidates.length →
        selected.Shallow
  · rcases left.selectBounding_found lowestAt index range idle with
      ⟨found, run, some, atMost, origin, _, _⟩
    apply not_exists_of_some run
    intro bounds
    have covers := (boundsCandidates_iff some atMost bounds.mem).mp bounds
    have feasible : ∀ line ∈ found.map SetElement.line, 0 ≤ line.value 0 := by
      intro line member
      rcases List.mem_map.mp member with ⟨element, _, rfl⟩
      rw [Line.value, mul_zero, sub_zero]
      change (0 : ℚ) ≤ 1000 * element.tmmbr.toNat
      positivity
    rcases covers 0 (le_refl 0) feasible _ (mem_map_of_mem lowest.mem) with
      ⟨line, member, below⟩
    rcases List.mem_map.mp member with ⟨element, inside, rfl⟩
    rw [Line.value, Line.value, mul_zero, mul_zero, sub_zero, sub_zero, ← not_lt,
      line_height_lt, UInt32.not_lt] at below
    have candidate := bounds.mem element inside
    have height := UInt32.le_antisymm below (lowest.le element candidate)
    have slope := lowest.tie element candidate height
    rw [flat, UInt32.le_zero_iff] at slope
    have isLeft : element ∈ front ++ selected :: back := by
      rcases origin element inside with rfl | member
      · simp
      · simp [mem_of_mem_filter member]
    exact left.lost lost element isLeft (used element candidate) slope
  · push Not at idle
    rcases left.selectBounding_lost lowestAt index range idle.1 idle.2.1 idle.2.2 with
      ⟨found, run, zero⟩
    exact not_exists_of_some run (not_boundsCandidates_zero used zero)

include contend

theorem LeftCandidates.bounds_iff_of_survives
    (survives : ZerosLost (zerosOf candidates) emptySlots → first.packetOH ≠ 0) :
    (∃ found, selectBounding candidates.length (front ++ selected :: back) = some found ∧
      BoundsCandidates candidates found) ↔ ScansExactly candidates emptySlots first others := by
  have firstLine := left.selected_line lowestAt lowest survives
  have otherLines := left.back_line lowestAt lowest survives contend
  have shallow : selected.Shallow ↔ first.Shallow := by
    rcases line_eq_iff.mp firstLine with ⟨height, slope⟩
    rw [Shallow, Shallow, height, slope]
  have noOther : back.filter SetElement.used = [] ↔ others = [] := by
    rw [← map_eq_nil_iff (f := SetElement.line), otherLines, map_eq_nil_iff]
  by_cases idle : back.filter SetElement.used = [] →
      ((front ++ selected :: back).filter SetElement.used).length < candidates.length →
        selected.Shallow
  · rcases left.selectBounding_found lowestAt index range idle with
      ⟨found, run, some, atMost, origin, lines, covers⟩
    rw [firstLine, otherLines] at covers lines
    have mem : ∀ element ∈ found, element ∈ candidates := by
      intro element inside
      rcases origin element inside with rfl | member
      · exact left.first_mem lowestAt
      · exact left.mem_of_mem_back member
    have linesMem : ∀ line ∈ found.map SetElement.line,
        line ∈ first.line :: kept first.line (others.map SetElement.line) := by
      intro line member
      rcases List.mem_map.mp member with ⟨element, inside, rfl⟩
      exact lines element inside
    have bounds : BoundsCandidates candidates found ↔
        Covers (first.line :: kept first.line (others.map SetElement.line))
          (skipped first.line (others.map SetElement.line)) := by
      rw [boundsCandidates_iff some atMost mem, covers_candidates_iff lowest contend]
      exact covers_iff_skipped linesMem covers
    constructor
    · rintro ⟨other, otherRun, otherBounds⟩
      rw [run] at otherRun
      cases otherRun
      refine ⟨survives, ?_, bounds.mp otherBounds⟩
      intro none
      by_cases fewer : ((front ++ selected :: back).filter SetElement.used).length <
          candidates.length
      · exact .inl (shallow.mp (idle (noOther.mpr none) fewer))
      · have count := left.length_filter_le
        exact .inr (left.length_filter_eq_iff.mp (by omega))
    · intro exactly
      exact ⟨found, run, bounds.mpr exactly.skipped⟩
  · push Not at idle
    rcases left.selectBounding_lost lowestAt index range idle.1 idle.2.1 idle.2.2 with
      ⟨found, run, zero⟩
    apply iff_of_false (not_exists_of_some run (not_boundsCandidates_zero used zero))
    intro exactly
    rcases exactly.counted (noOther.mp idle.1) with shallowFirst | all
    · exact idle.2.2 (shallow.mpr shallowFirst)
    · have count := left.length_filter_eq_iff.mpr all
      have fewer := idle.2.1
      omega

end Bounds

theorem LeftCandidates.bounds_iff {candidates slots others : List SetElement}
    {first : SetElement} {emptySlots : Nat} (left : LeftCandidates candidates emptySlots slots)
    (several : 1 < candidates.length) (range : ∀ candidate ∈ candidates, candidate.InRange)
    (used : ∀ candidate ∈ candidates, candidate.used) (lowest : Lowest candidates first)
    (contend : Contenders candidates first others) :
    (∃ found, selectBounding candidates.length slots = some found ∧
      BoundsCandidates candidates found) ↔ ScansExactly candidates emptySlots first others := by
  by_cases empty : slots.filter SetElement.used = []
  · rcases left.selectBounding_empty several empty with ⟨found, run, zero⟩
    apply iff_of_false (not_exists_of_some run (not_boundsCandidates_zero used zero))
    intro exactly
    rcases left.bounded first lowest.mem exactly.zeros with ⟨element, member, elementUsed, _, _⟩
    have inside := mem_filter.mpr ⟨member, elementUsed⟩
    rw [empty] at inside
    exact nomatch inside
  · rcases selectLowest_spec empty with ⟨front, selected, back, rfl, index, lowestAt⟩
    by_cases survives : ZerosLost (zerosOf candidates) emptySlots → first.packetOH ≠ 0
    · exact left.bounds_iff_of_survives lowestAt index range used lowest contend survives
    · push Not at survives
      apply iff_of_false
      · exact left.not_bounds_of_lost lowestAt index range used lowest survives.1 survives.2
      · exact fun exactly => exactly.zeros survives.1 survives.2

/-- When the entries that are returned bound the candidates. -/
theorem findsBoundingSet_iff {set : TMMBRSet} {first : SetElement} {others : List SetElement}
    (formed : WellFormed set) (lowest : Lowest (candidatesOf set) first)
    (contend : Contenders (candidatesOf set) first others) :
    FindsBoundingSet set ↔ (candidatesOf set).length = 1 ∨
      ScansExactly (candidatesOf set) (set.sizeOfSet - (candidatesOf set).length) first others := by
  have some : candidatesOf set ≠ [] := ne_nil_of_mem lowest.mem
  have used : ∀ candidate ∈ candidatesOf set, candidate.used :=
    fun candidate member => of_mem_filter member
  rw [findsBoundingSet_iff_entries formed some]
  by_cases single : (candidatesOf set).length = 1
  · rcases length_eq_one_iff.mp single with ⟨only, candidates⟩
    have onlyUsed := used only (by rw [candidates]; exact mem_cons_self)
    have slots : (candidateSlots set).filter SetElement.used = [only] := by
      have zeros : (List.replicate (set.sizeOfSet - (candidatesOf set).length)
          zero).filter SetElement.used = [] :=
        filter_eq_nil_iff.mpr fun element member => by
          rw [unused_of_mem_replicate member]; decide
      change (candidatesOf set ++ List.replicate (set.sizeOfSet - (candidatesOf set).length)
        zero).filter SetElement.used = [only]
      rw [filter_append, zeros, candidates, filter_cons_of_pos onlyUsed]
      rfl
    apply iff_of_true _ (.inl single)
    refine ⟨[only], ?_, Nat.le_refl 1, by rw [single]; exact Nat.le_refl 1, ?_, ?_⟩
    · rw [boundingEntries, if_pos single, slots]
      rfl
    · intro element member
      rw [candidates]
      exact member
    · intro rate _ _
      rw [candidates]
  · have several : 1 < (candidatesOf set).length := by
      have positive := length_pos_of_ne_nil some
      omega
    have left := discardHigherBitRates_sortByOverhead used
      (set.sizeOfSet - (candidatesOf set).length)
    rw [or_iff_right single, boundingEntries, if_neg single]
    exact left.bounds_iff several formed.range used lowest contend

theorem findsBoundingSet_two : FindsBoundingSet ⟨[⟨100, 10, 1⟩, ⟨110, 20, 2⟩], 2⟩ := by
  have candidates : candidatesOf ⟨[⟨100, 10, 1⟩, ⟨110, 20, 2⟩], 2⟩ =
      [⟨100, 10, 1⟩, ⟨110, 20, 2⟩] := by decide
  have range : ∀ candidate ∈ candidatesOf ⟨[⟨100, 10, 1⟩, ⟨110, 20, 2⟩], 2⟩, candidate.InRange := by
    rw [candidates]
    intro candidate member
    rcases mem_pair.mp member with rfl | rfl
    · exact ⟨by decide, by decide⟩
    · exact ⟨by decide, by decide⟩
  apply (@findsBoundingSet_iff ⟨[⟨100, 10, 1⟩, ⟨110, 20, 2⟩], 2⟩ ⟨100, 10, 1⟩ [⟨110, 20, 2⟩]
    ⟨range, by decide⟩ ⟨by decide, by decide, by decide⟩
    ⟨by decide, by decide, by decide, by decide⟩).mpr
  refine .inr ⟨?_, nofun, ?_⟩
  · rintro ⟨some, _⟩
    exact absurd (by decide) some
  · have higher : ¬ (line ⟨110, 20, 2⟩).height < (line ⟨100, 10, 1⟩).height := by
      rw [line_height_lt]
      decide
    rw [map_singleton, skipped, if_neg higher, skipped]
    rintro _ _ _ line ⟨⟩

/-- The third request is left out, and is the least at a rate of 100. -/
theorem not_findsBoundingSet_wrapped :
    ¬ FindsBoundingSet ⟨[⟨100, 10, 1⟩, ⟨110, 20, 2⟩, ⟨105, 30, 3⟩], 3⟩ := by
  have run : findTMMBRBoundingSet ⟨[⟨100, 10, 1⟩, ⟨110, 20, 2⟩, ⟨105, 30, 3⟩], 3⟩ =
      some (2, [⟨100, 10, 1⟩, ⟨110, 20, 2⟩]) := by
    decide +kernel
  have first : (line ⟨100, 10, 1⟩).value 100 = 92000 := by
    change (1000 * (100 : ℕ) - 8 * (10 : ℕ) * 100 : ℚ) = 92000
    norm_num
  have second : (line ⟨110, 20, 2⟩).value 100 = 94000 := by
    change (1000 * (110 : ℕ) - 8 * (20 : ℕ) * 100 : ℚ) = 94000
    norm_num
  have third : (line ⟨105, 30, 3⟩).value 100 = 81000 := by
    change (1000 * (105 : ℕ) - 8 * (30 : ℕ) * 100 : ℚ) = 81000
    norm_num
  rintro ⟨found, returned, bounds⟩
  rw [run] at returned
  rcases Prod.mk.inj (Option.some.inj returned) with ⟨-, rfl⟩
  have feasible : ∀ element ∈ [SetElement.mk 100 10 1, ⟨110, 20, 2⟩],
      0 ≤ element.line.value 100 := by
    intro element member
    rcases mem_pair.mp member with rfl | rfl
    · rw [first]
      norm_num
    · rw [second]
      norm_num
  have least := bounds.least 100 (by norm_num) feasible
  rcases (min?_values_eq_iff (cons_ne_nil _ _) bounds.mem 100).mp least ⟨105, 30, 3⟩
    (by decide) with ⟨element, member, below⟩
  rcases mem_pair.mp member with rfl | rfl
  · rw [first, third] at below
    norm_num at below
  · rw [second, third] at below
    norm_num at below

end ZyWebRtc.Rtcp
