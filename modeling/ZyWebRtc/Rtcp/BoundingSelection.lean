import ZyWebRtc.Rtcp.BoundingScan

namespace ZyWebRtc.Rtcp

open List Option LowerEnvelope Selection SetElement

/-! Steps 3 and 4 of the search for the bounding set, and the search as a whole on the slots that
step 2 leaves. -/

/-! ## Step 3 -/

/-- The last one of those with the lowest bit rate. -/
structure LowestAt (front : List SetElement) (least : SetElement) (back : List SetElement) :
    Prop where
  used : least.used
  before : ∀ element ∈ front, element.used → least.tmmbr ≤ element.tmmbr
  behind : ∀ element ∈ back, element.used → least.tmmbr < element.tmmbr

theorem lowestIndex_spec (after : List SetElement) :
    ∀ (front : List SetElement) (least : SetElement) (back : List SetElement),
    LowestAt front least back →
    ∃ front' least' back', front ++ least :: back ++ after = front' ++ least' :: back' ∧
      lowestIndex after (front ++ least :: back).length least.tmmbr front.length =
        front'.length ∧ LowestAt front' least' back' := by
  induction after with
  | nil => exact fun front least back found =>
    ⟨front, least, back, append_nil _, rfl, found⟩
  | cons element rest induction =>
    intro front least back found
    rw [lowestIndex]
    split
    · next lower =>
        have next : LowestAt (front ++ least :: back) element [] := by
          refine ⟨lower.1, ?_, nofun⟩
          intro other member used
          apply UInt32.le_trans lower.2
          rcases mem_append.mp member with member | member
          · exact found.before other member used
          · rcases mem_cons.mp member with rfl | member
            · exact UInt32.le_refl _
            · exact UInt32.le_of_lt (found.behind other member used)
        rcases induction _ element [] next with ⟨front', least', back', split, index, spec⟩
        refine ⟨front', least', back', ?_, ?_, spec⟩
        · rw [← split, append_assoc _ [element] rest]
          rfl
        · rw [← index, @length_append _ _ [element]]
          rfl
    · next higher =>
        have next : LowestAt front least (back ++ [element]) := by
          refine ⟨found.used, found.before, ?_⟩
          intro other member used
          rcases mem_append.mp member with member | member
          · exact found.behind other member used
          · rw [mem_singleton.mp member] at used ⊢
            exact UInt32.not_le.mp fun lower => higher ⟨used, lower⟩
        rcases induction front least _ next with ⟨front', least', back', split, index, spec⟩
        have parts : front ++ least :: back ++ element :: rest =
            front ++ least :: (back ++ [element]) ++ rest := by simp
        refine ⟨front', least', back', parts.trans split, ?_, spec⟩
        rw [← index]
        congr 1
        simp only [length_append, length_cons, length_nil]
        omega

theorem lowestIndex_unused (back : List SetElement) : ∀ (front : List SetElement) (i : Nat)
    (minTMMBR : UInt32) (minIndex : Nat), (∀ element ∈ front, element.used = false) →
    lowestIndex (front ++ back) i minTMMBR minIndex =
      lowestIndex back (i + front.length) minTMMBR minIndex := by
  intro front
  induction front with
  | nil => exact fun _ _ _ _ => rfl
  | cons head rest induction =>
    intro i minTMMBR minIndex unused
    have headUnused := unused head mem_cons_self
    rw [cons_append, lowestIndex, if_neg (by rw [headUnused]; exact fun both => nomatch both.1),
      induction (i + 1) minTMMBR minIndex fun element member =>
        unused element (mem_cons_of_mem _ member), length_cons, Nat.add_right_comm]
    rfl

theorem findIdx_used (candidate : SetElement) (rest : List SetElement)
    (used : candidate.used) : ∀ front : List SetElement,
    (∀ element ∈ front, element.used = false) →
    (front ++ candidate :: rest).findIdx SetElement.used = front.length := by
  intro front
  induction front with
  | nil => exact fun _ => by rw [nil_append, findIdx_cons, used]; rfl
  | cons head rest induction =>
    intro unused
    rw [cons_append, findIdx_cons, unused head mem_cons_self,
      induction fun element member => unused element (mem_cons_of_mem _ member)]
    rfl

theorem selectLowest_spec {slots : List SetElement}
    (some : slots.filter SetElement.used ≠ []) :
    ∃ front least back, slots = front ++ least :: back ∧ selectLowest slots = front.length ∧
      LowestAt front least back := by
  have found : (slots.find? SetElement.used).isSome := by
    rcases exists_mem_of_ne_nil _ some with ⟨element, member⟩
    rcases mem_filter.mp member with ⟨member, used⟩
    exact List.find?_isSome.mpr ⟨element, member, used⟩
  rcases isSome_iff_exists.mp found with ⟨candidate, isFirst⟩
  rcases List.find?_eq_some_iff_append.mp isFirst with ⟨used, before, rest, parts, unused⟩
  have unused : ∀ element ∈ before, element.used = false := by simpa using unused
  have any : slots.any SetElement.used = true := by
    rw [parts]
    simp [used]
  rcases lowestIndex_spec rest before candidate [] ⟨used,
      fun element member elementUsed => absurd elementUsed (by rw [unused element member]; decide),
      nofun⟩ with ⟨front, least, back, split, index, spec⟩
  have split : slots = front ++ least :: back := by
    rw [← split, parts, append_assoc]
    rfl
  refine ⟨front, least, back, split, ?_, spec⟩
  rw [← index, selectLowest, if_pos any, isFirst, map_some, getD_some, parts,
    findIdx_used candidate rest used before unused, lowestIndex_unused _ _ _ _ _ unused, lowestIndex,
    if_pos ⟨used, UInt32.le_refl _⟩, Nat.zero_add, length_append]
  rfl

/-! ## Step 4 -/

section Split

variable {candidates front back : List SetElement} {first : SetElement} {emptySlots : Nat}
  (left : LeftCandidates candidates emptySlots (front ++ first :: back))
  (lowest : LowestAt front first back)

include left lowest

theorem LeftCandidates.front_lower :
    ∀ element ∈ front, element.used → element.packetOH < first.packetOH := by
  have ordered := left.increasing
  rw [filter_append, pairwise_append] at ordered
  intro element member used
  apply ordered.2.2 element (mem_filter.mpr ⟨member, used⟩) first
  rw [filter_cons_of_pos lowest.used]
  exact mem_cons_self

theorem LeftCandidates.back_higher :
    (back.filter used).Pairwise (fun first second => first.packetOH < second.packetOH) ∧
      ∀ element ∈ back.filter used, first.packetOH < element.packetOH := by
  have ordered := left.increasing
  rw [filter_append, pairwise_append, filter_cons_of_pos lowest.used, pairwise_cons] at ordered
  exact ⟨ordered.2.1.2, ordered.2.1.1⟩

theorem LeftCandidates.countP_lowerOverhead :
    (front ++ zero :: back).countP (lowerOverhead first.packetOH) =
      (front.filter SetElement.used).length := by
  have frontCount : front.countP (lowerOverhead first.packetOH) = front.countP SetElement.used := by
    apply countP_congr
    intro element member
    rw [lowerOverhead, decide_eq_true_iff]
    exact and_iff_left_of_imp fun used => left.front_lower lowest element member used
  have backCount : back.countP (lowerOverhead first.packetOH) = 0 := by
    rw [countP_eq_zero]
    intro element member
    rw [lowerOverhead, decide_eq_true_iff]
    rintro ⟨used, lower⟩
    have higher := (left.back_higher lowest).2 element (mem_filter.mpr ⟨member, used⟩)
    exact UInt32.lt_irrefl _ (UInt32.lt_trans lower higher)
  have zeroCount : ¬ lowerOverhead first.packetOH .zero := by
    rw [lowerOverhead, decide_eq_true_iff]
    exact fun both => nomatch both.1
  rw [countP_append, countP_cons_of_neg zeroCount, frontCount, backCount, countP_eq_length_filter]
  rfl

theorem LeftCandidates.filter_discardLowerOverhead :
    (discardLowerOverhead first.packetOH (front ++ zero :: back)).filter
        SetElement.used = back.filter SetElement.used := by
  have frontNone : (discardLowerOverhead first.packetOH front).filter SetElement.used = [] := by
    rw [filter_eq_nil_iff]
    intro element member used
    rcases List.mem_map.mp member with ⟨source, inside, cleared⟩
    split at cleared
    · rw [← cleared] at used
      exact absurd used (by decide)
    · next stays =>
        rw [← cleared] at used
        apply stays
        rw [lowerOverhead, decide_eq_true_iff]
        exact ⟨used, left.front_lower lowest source inside used⟩
  have backStays : ∀ rest : List SetElement, (∀ element ∈ rest, element ∈ back) →
      discardLowerOverhead first.packetOH rest = rest := by
    intro rest inside
    apply (map_congr_left ?_).trans (List.map_id rest)
    intro element member
    apply if_neg
    rw [lowerOverhead, decide_eq_true_iff]
    rintro ⟨used, lower⟩
    have higher := (left.back_higher lowest).2 element
      (mem_filter.mpr ⟨inside element member, used⟩)
    exact UInt32.lt_irrefl _ (UInt32.lt_trans lower higher)
  have parts : discardLowerOverhead first.packetOH (front ++ zero :: back) =
      discardLowerOverhead first.packetOH front ++ .zero :: back := by
    have stays := backStays back fun _ member => member
    rw [discardLowerOverhead] at stays ⊢
    rw [map_append, map_cons, stays]
    congr 2
  have zeroUnused : ¬ zero.used := by decide
  rw [parts, filter_append, frontNone, filter_cons_of_neg zeroUnused]
  rfl

end Split

/-! ## The search -/

/-- The state in which the loop begins. -/
def startSelection (first : SetElement) (slots : List SetElement) (numCandidates : Nat) :
    Selection where
  slots := slots
  numCandidates := numCandidates
  selected := [{ element := first, intersection := .number 0, maxPR := maxPacketRate first }]
  current := .zero
  getNewCandidate := true

theorem selectBounding_parts {candidates front back : List SetElement} {first : SetElement}
    {emptySlots : Nat} (left : LeftCandidates candidates emptySlots (front ++ first :: back))
    (lowest : LowestAt front first back)
    (selected : selectLowest (front ++ first :: back) = front.length) (numCandidates : Nat) :
    selectBounding numCandidates (front ++ first :: back) =
      if numCandidates - 1 - (front.filter used).length = 0 then some [first]
      else (loop (front ++ first :: back).length (2 * numCandidates + 1)
        (startSelection first (discardLowerOverhead first.packetOH
          (front ++ zero :: back))
          (numCandidates - 1 - (front.filter used).length))).map entries := by
  have found : (front ++ first :: back)[front.length]? = some first := by simp
  have others : (front ++ first :: back).set front.length .zero =
      front ++ zero :: back := by simp
  rw [selectBounding, selected, found]
  change (if numCandidates - 1 - List.countP _ (List.set _ _ _) = 0 then _ else _) = _
  rw [others, left.countP_lowerOverhead lowest]
  split
  · rfl
  · change ((loop _ _ _).bind _) = _
    exact map_eq_bind.symm

section

variable {first : SetElement} (range : first.InRange) (positive : 0 < first.tmmbr.toNat)

include range positive

theorem packetRate_zero (steep : 0 < first.packetOH.toNat) :
    packetRate .zero first = .number ((2 ^ 32 - first.tmmbr.toNat) * 1000 /
      (2 ^ 32 - first.line.slope)) := by
  have bound := range.packetOH
  have tmmbrBound := first.tmmbr.toNat_lt
  have difference : (zero.packetOH - first.packetOH).toNat =
      2 ^ 32 - first.packetOH.toNat := by
    rw [zero, UInt32.toNat_sub, UInt32.toNat_zero]
    omega
  have denominator : (8 * (zero.packetOH - first.packetOH)).toNat =
      2 ^ 32 - 8 * first.packetOH.toNat := by
    rw [UInt32.toNat_mul, difference]
    change 8 * (2 ^ 32 - first.packetOH.toNat) % 2 ^ 32 = _
    omega
  have numerator : (zero.tmmbr - first.tmmbr).toNat = 2 ^ 32 - first.tmmbr.toNat := by
    rw [zero, UInt32.toNat_sub, UInt32.toNat_zero]
    omega
  rw [packetRate, denominator, numerator, quotient_of_pos _ (by omega), Nat.cast_mul,
    Nat.cast_sub (by omega), Nat.cast_sub (by omega), line]
  push_cast
  rfl

theorem packetRate_zero_flat (flat : first.packetOH = 0) :
    packetRate .zero first = .infinite := by
  have bound := range.tmmbr
  have denominator : (8 * (zero.packetOH - first.packetOH)).toNat = 0 := by
    rw [flat]
    rfl
  have numerator : (zero.tmmbr - first.tmmbr).toNat * 1000 ≠ 0 := by
    rw [zero, UInt32.toNat_sub, UInt32.toNat_zero]
    omega
  rw [packetRate, denominator, PacketRate.quotient, if_pos rfl, if_neg numerator]

theorem packetRate_zero_le : (packetRate .zero first).le (.number 0) = false := by
  by_cases flat : first.packetOH = 0
  · rw [packetRate_zero_flat range positive flat]
    rfl
  · have steep : 0 < first.packetOH.toNat := by
      apply Nat.pos_of_ne_zero
      intro zero
      exact flat (UInt32.toNat_inj.mp zero)
    have heightCast : (first.tmmbr.toNat : ℚ) < 2 ^ 32 := by
      exact_mod_cast first.tmmbr.toNat_lt
    have slopeCast : first.line.slope < 2 ^ 32 := by
      have cast : (first.packetOH.toNat : ℚ) < 2 ^ 9 := by exact_mod_cast range.packetOH
      change (8 * first.packetOH.toNat : ℚ) < 2 ^ 32
      linarith
    rw [packetRate_zero range positive steep]
    apply decide_eq_false
    exact not_le.mpr (div_pos (by linarith) (by linarith))

end

/-- A first entry that an empty slot, taken for a candidate, leaves alone: a flat one, and one that
is not much higher than it is steep. -/
def SetElement.Shallow (first : SetElement) : Prop :=
  first.packetOH = 0 ∨ first.tmmbr.toNat ≤ 8 * first.packetOH.toNat

theorem packetRate_zero_lt_iff {first : SetElement} (range : first.InRange)
    (used : first.used) :
    (packetRate .zero first).lt (maxPacketRate first) = false ↔ first.Shallow := by
  have positive : 0 < first.tmmbr.toNat := by
    simpa [SetElement.used, UInt32.lt_iff_toNat_lt] using used
  rw [SetElement.Shallow]
  by_cases flat : first.packetOH = 0
  · rw [packetRate_zero_flat range positive flat]
    exact iff_of_true rfl (.inl flat)
  · have steep : 0 < first.packetOH.toNat := by
      apply Nat.pos_of_ne_zero
      intro zero
      exact flat (UInt32.toNat_inj.mp zero)
    have slopeCast : (0 : ℚ) < 2 ^ 32 - first.line.slope := by
      have cast : (first.packetOH.toNat : ℚ) < 2 ^ 9 := by exact_mod_cast range.packetOH
      change (0 : ℚ) < 2 ^ 32 - 8 * first.packetOH.toNat
      linarith
    have compare : (first.tmmbr.toNat ≤ 8 * first.packetOH.toNat) ↔
        (first.tmmbr.toNat : ℚ) ≤ first.line.slope := by
      change _ ↔ (first.tmmbr.toNat : ℚ) ≤ 8 * first.packetOH.toNat
      exact_mod_cast Iff.rfl
    rw [packetRate_zero range positive steep, or_iff_right flat, compare, ← Bool.not_eq_true,
      number_lt_maxPacketRate range used, not_lt, div_mul_eq_mul_div, le_div_iff₀ slopeCast]
    change (1000 * first.tmmbr.toNat : ℚ) * _ ≤ _ ↔ _
    constructor
    · intro bound
      linarith
    · intro bound
      linarith

theorem settled_startSelection_iff {first : SetElement} (range : first.InRange)
    (used : first.used) (slots : List SetElement) (numCandidates : Nat) :
    (startSelection first slots numCandidates).Settled ↔ first.Shallow := by
  have positive : 0 < first.tmmbr.toNat := by
    simpa [SetElement.used, UInt32.lt_iff_toNat_lt] using used
  rw [← packetRate_zero_lt_iff range used, Settled, startSelection]
  simp only [List.head?_cons, mem_some_iff, forall_eq', packetRate_zero_le range positive, true_and]

theorem loop_startSelection {first : SetElement} {slots : List SetElement}
    {size fuel numCandidates : Nat} (later : (packetRate .zero first).le (.number 0) = false)
    (meets : (packetRate .zero first).lt (maxPacketRate first) = true) (room : 1 < size)
    (queue : slots.filter used = []) (enough : numCandidates < fuel) :
    ∃ result, loop size fuel (startSelection first slots numCandidates) = some result ∧
      result.selected.head?.map SelectedEntry.element = some .zero := by
  apply @loop_push size (startSelection first slots numCandidates)
    { element := first, intersection := .number 0, maxPR := maxPacketRate first } []
  · rfl
  · exact later
  · exact meets
  · exact room
  · exact queue
  · exact enough

/-! ## What is found -/

section Found

variable {candidates front back : List SetElement} {first : SetElement} {emptySlots : Nat}
  (left : LeftCandidates candidates emptySlots (front ++ first :: back))
  (lowest : LowestAt front first back)
  (selected : selectLowest (front ++ first :: back) = front.length)
  (range : ∀ candidate ∈ candidates, candidate.InRange)

include left lowest

theorem LeftCandidates.first_mem : first ∈ candidates :=
  left.mem first (by simp) lowest.used

omit left in
theorem LowestAt.length_filter :
    ((front ++ first :: back).filter SetElement.used).length =
      (front.filter SetElement.used).length + (back.filter SetElement.used).length + 1 := by
  rw [filter_append, filter_cons_of_pos lowest.used, length_append, length_cons]
  rfl

omit lowest in
theorem LeftCandidates.mem_of_mem_back {element : SetElement}
    (member : element ∈ back.filter SetElement.used) : element ∈ candidates := by
  rcases mem_filter.mp member with ⟨member, used⟩
  exact left.mem element (by simp [member]) used

include range

theorem LeftCandidates.waiting (numCandidates : Nat)
    (enough : (back.filter SetElement.used).length ≤ numCandidates)
    (room : numCandidates < candidates.length)
    (idle : back.filter SetElement.used = [] → first.Shallow) :
    Waiting (front ++ first :: back).length first [first.line] (back.filter SetElement.used)
      (startSelection first (discardLowerOverhead first.packetOH
        (front ++ zero :: back)) numCandidates) := by
  have firstRange := range first (left.first_mem lowest)
  refine ⟨⟨?_, ?_, ?_⟩, left.filter_discardLowerOverhead lowest, rfl, ?_, ?_, ?_,
    (left.back_higher lowest).1, enough, ?_, ?_⟩
  · intro entry member
    rw [mem_singleton.mp member]
    exact ⟨lowest.used, firstRange, rfl, rfl, .inl rfl⟩
  · exact scanned_single (SetElement.line_falling lowest.used)
  · intro entry member
    cases member
    rfl
  · exact fun candidate member => range candidate (left.mem_of_mem_back member)
  · intro candidate member
    rcases mem_filter.mp member with ⟨member, used⟩
    exact lowest.behind candidate member used
  · intro candidate member entry inside
    rw [mem_singleton.mp inside]
    exact (left.back_higher lowest).2 candidate member
  · rw [left.length]
    change 1 + numCandidates ≤ _
    omega
  · exact fun none => (settled_startSelection_iff firstRange lowest.used _ _).mpr (idle none)

include selected

/-- The search finds entries that bound the lines which are kept. -/
theorem LeftCandidates.selectBounding_found
    (idle : back.filter SetElement.used = [] →
      ((front ++ first :: back).filter SetElement.used).length < candidates.length →
        first.Shallow) :
    ∃ found, selectBounding candidates.length (front ++ first :: back) = some found ∧
      1 ≤ found.length ∧ found.length ≤ candidates.length ∧
      (∀ element ∈ found, element = first ∨ element ∈ back.filter SetElement.used) ∧
      (∀ element ∈ found, element.line ∈ first.line ::
        kept first.line ((back.filter SetElement.used).map SetElement.line)) ∧
      Covers (found.map SetElement.line) (first.line ::
        kept first.line ((back.filter SetElement.used).map SetElement.line)) := by
  have count := left.length_filter_le
  rw [lowest.length_filter] at count idle
  rw [selectBounding_parts left lowest selected]
  split
  · next none =>
      have noOther : back.filter SetElement.used = [] := by
        apply eq_nil_of_length_eq_zero
        omega
      rw [noOther]
      refine ⟨[first], rfl, Nat.le_refl 1, by change 1 ≤ _; omega, ?_, ?_, covers_self _⟩
      · exact fun element member => .inl (mem_singleton.mp member)
      · intro element member
        rw [mem_singleton.mp member]
        exact mem_cons_self
  · next some =>
      have waiting := left.waiting lowest range
        (candidates.length - 1 - (front.filter SetElement.used).length) (by omega) (by omega)
        fun none => idle none (by rw [none] at count ⊢; simp only [length_nil]; omega)
      have fuel : 2 * (candidates.length - 1 - (front.filter SetElement.used).length) + 1 ≤
          2 * candidates.length + 1 := by omega
      rcases Waiting.loop _ _ (2 * candidates.length + 1) _ _ [] rfl waiting
        (Nat.pos_of_ne_zero some) fuel with ⟨result, scans⟩
      have entryMem : ∀ element ∈ result.entries, ∃ entry ∈ result.selected,
          entry.element = element := by
        intro element member
        exact List.mem_map.mp (mem_reverse.mp member)
      have bound := scans.length
      have nonempty : result.selected ≠ [] := by
        intro none
        have stacked := scans.bounding.scanned.stacked
        rw [none] at stacked
        exact stacked
      have lines : ∀ line, line ∈ (kept first.line ((back.filter SetElement.used).map
          SetElement.line)).reverse ++ [first.line] ↔
          line ∈ first.line :: kept first.line ((back.filter SetElement.used).map
            SetElement.line) := by
        intro line
        rw [mem_append, mem_reverse, mem_singleton, mem_cons, or_comm]
      refine ⟨result.entries, by rw [scans.run]; rfl, ?_, ?_, ?_, ?_, ?_⟩
      · rw [entries, length_reverse, length_map]
        exact length_pos_of_ne_nil nonempty
      · rw [entries, length_reverse, length_map]
        change _ ≤ 1 + _ at bound
        omega
      · intro element member
        rcases entryMem element member with ⟨entry, inside, rfl⟩
        rcases scans.origin entry inside with inside | inside
        · exact .inr inside
        · rw [mem_singleton.mp inside]
          exact .inl rfl
      · intro element member
        rcases entryMem element member with ⟨entry, inside, rfl⟩
        exact (lines _).mp (scans.bounding.scanned.chosen entry.piece (List.mem_map_of_mem inside))
      · apply scans.bounding.scanned.covers.congr _ lines
        intro line
        rw [entries, map_reverse, mem_reverse, List.map_map, List.map_map]
        rfl

theorem LeftCandidates.selectBounding_lost (none : back.filter SetElement.used = [])
    (fewer : ((front ++ first :: back).filter SetElement.used).length < candidates.length)
    (steep : ¬ first.Shallow) :
    ∃ found, selectBounding candidates.length (front ++ first :: back) = some found ∧
      SetElement.zero ∈ found := by
  have firstRange := range first (left.first_mem lowest)
  have positive : 0 < first.tmmbr.toNat := by
    simpa [SetElement.used, UInt32.lt_iff_toNat_lt] using lowest.used
  have queue := left.filter_discardLowerOverhead lowest
  have size := left.length
  rw [none] at queue
  rw [lowest.length_filter, none, length_nil] at fewer
  rw [selectBounding_parts left lowest selected, if_neg (by omega)]
  generalize num : candidates.length - 1 - (front.filter SetElement.used).length = numCandidates
  have meets : (packetRate .zero first).lt (maxPacketRate first) = true := by
    rw [← packetRate_zero_lt_iff firstRange lowest.used, Bool.not_eq_false] at steep
    exact steep
  have room : 1 < (front ++ first :: back).length := by omega
  have enough : numCandidates < 2 * candidates.length + 1 := by omega
  rcases loop_startSelection (packetRate_zero_le firstRange positive) meets room queue enough with
    ⟨result, run, top⟩
  rcases map_eq_some_iff.mp top with ⟨entry, isTop, isZero⟩
  refine ⟨result.entries, by rw [run]; rfl, ?_⟩
  rw [entries, mem_reverse, ← isZero]
  exact List.mem_map_of_mem (List.mem_of_mem_head? isTop)

end Found

end ZyWebRtc.Rtcp
