import ZyWebRtc.Foundation.LowerEnvelope
import ZyWebRtc.Rtcp.BoundingReduction

namespace ZyWebRtc.Rtcp

open List LowerEnvelope Nat SetElement

/-! Steps 5 to 9 of the search for the bounding set, as a scan of lines. The difference of the bit
rates is unsigned: a candidate below the last entry gets a packet rate above all others, and is
passed over. -/

namespace SetElement

/-- The bit rate in bits, less those of the overhead, at a packet rate. -/
def line (element : SetElement) : Line ℚ where
  height := 1000 * element.tmmbr.toNat
  slope := 8 * element.packetOH.toNat

/-- A request as it is received: the bit rate in bits has 32 bits, and the overhead nine. -/
structure InRange (element : SetElement) : Prop where
  tmmbr : element.tmmbr.toNat * 1000 < 2 ^ 32
  packetOH : element.packetOH.toNat < 2 ^ 9

theorem line_falling {element : SetElement} (used : element.used) : element.line.Falling where
  height := by
    have positive : 0 < element.tmmbr.toNat := by
      simpa [SetElement.used, UInt32.lt_iff_toNat_lt] using used
    change (0 : ℚ) < 1000 * element.tmmbr.toNat
    positivity
  slope := by
    change (0 : ℚ) ≤ 8 * element.packetOH.toNat
    positivity

theorem line_height_lt {first second : SetElement} :
    first.line.height < second.line.height ↔ first.tmmbr < second.tmmbr := by
  change (1000 * first.tmmbr.toNat : ℚ) < 1000 * second.tmmbr.toNat ↔ _
  rw [mul_lt_mul_iff_right₀ (by norm_num), cast_lt, UInt32.lt_iff_toNat_lt]

theorem line_slope_lt {first second : SetElement} :
    first.line.slope < second.line.slope ↔ first.packetOH < second.packetOH := by
  change (8 * first.packetOH.toNat : ℚ) < 8 * second.packetOH.toNat ↔ _
  rw [mul_lt_mul_iff_right₀ (by norm_num), cast_lt, UInt32.lt_iff_toNat_lt]

theorem line_eq_iff {first second : SetElement} :
    first.line = second.line ↔ first.tmmbr = second.tmmbr ∧ first.packetOH = second.packetOH := by
  rw [line, line, Line.mk.injEq, mul_right_inj' (by norm_num), mul_right_inj' (by norm_num),
    Nat.cast_inj, Nat.cast_inj, UInt32.toNat_inj, UInt32.toNat_inj]

end SetElement

/-! ## Packet rates -/

theorem quotient_of_pos (numerator : Nat) {denominator : Nat} (positive : 0 < denominator) :
    PacketRate.quotient numerator denominator = .number (numerator / denominator) :=
  if_neg (Nat.ne_of_gt positive)

section Rates

variable {current last : SetElement} (currentRange : current.InRange)

include currentRange

section

variable (steeper : last.packetOH < current.packetOH)

include steeper

theorem packetRate_eq :
    packetRate current last = .number ((current.tmmbr - last.tmmbr).toNat * 1000 /
      (current.line.slope - last.line.slope)) := by
  have lower := UInt32.lt_iff_toNat_lt.mp steeper
  have bound := currentRange.packetOH
  have difference : (8 * (current.packetOH - last.packetOH)).toNat =
      8 * (current.packetOH.toNat - last.packetOH.toNat) := by
    rw [UInt32.toNat_mul, UInt32.toNat_sub_of_le _ _ (UInt32.le_of_lt steeper)]
    apply mod_eq_of_lt
    change 8 * _ < _
    omega
  rw [packetRate, difference, quotient_of_pos _ (by omega)]
  congr 2
  · push_cast
    rfl
  · rw [line, line]
    push_cast [cast_sub (Nat.le_of_lt lower)]
    ring

theorem packetRate_of_le (higher : last.tmmbr ≤ current.tmmbr) :
    packetRate current last = .number (Line.crossing last.line current.line) := by
  rw [packetRate_eq currentRange steeper, UInt32.toNat_sub_of_le _ _ higher, Line.crossing]
  congr 2
  rw [line, line]
  push_cast [cast_sub (UInt32.le_iff_toNat_le.mp higher)]
  ring

theorem eight_le_sub_slope : 8 ≤ current.line.slope - last.line.slope ∧
      current.line.slope - last.line.slope < 2 ^ 12 := by
  have lower := UInt32.lt_iff_toNat_lt.mp steeper
  have bound := currentRange.packetOH
  have lowerCast : (last.packetOH.toNat + 1 : ℚ) ≤ current.packetOH.toNat := by
    exact_mod_cast lower
  have boundCast : (current.packetOH.toNat : ℚ) < 2 ^ 9 := by exact_mod_cast bound
  have positive : (0 : ℚ) ≤ last.packetOH.toNat := cast_nonneg _
  constructor
  · change 8 ≤ (8 * current.packetOH.toNat - 8 * last.packetOH.toNat : ℚ)
    linarith
  · change (8 * current.packetOH.toNat - 8 * last.packetOH.toNat : ℚ) < 2 ^ 12
    linarith

theorem crossing_le : Line.crossing last.line current.line ≤ 2 ^ 29 := by
  have slopes := eight_le_sub_slope currentRange steeper
  have height : current.line.height < 2 ^ 32 := by
    have bound := currentRange.tmmbr
    have cast : (current.tmmbr.toNat * 1000 : ℚ) < 2 ^ 32 := by exact_mod_cast bound
    change (1000 * current.tmmbr.toNat : ℚ) < 2 ^ 32
    linarith
  have positive : 0 ≤ last.line.height := by
    change (0 : ℚ) ≤ 1000 * last.tmmbr.toNat
    positivity
  rw [Line.crossing, div_le_iff₀ (by linarith)]
  linarith

end

theorem packetRate_of_lt (lastRange : last.InRange) (steeper : last.packetOH < current.packetOH)
    (lower : current.tmmbr < last.tmmbr) :
    ∃ rate, packetRate current last = .number rate ∧ 2 ^ 29 < rate := by
  refine ⟨_, packetRate_eq currentRange steeper, ?_⟩
  have slopes := eight_le_sub_slope currentRange steeper
  have lowerNat := UInt32.lt_iff_toNat_lt.mp lower
  have bound := lastRange.tmmbr
  have wrapped : (current.tmmbr - last.tmmbr).toNat =
      2 ^ 32 - (last.tmmbr.toNat - current.tmmbr.toNat) := by
    rw [UInt32.toNat_sub]
    omega
  have large : (2 ^ 32 - 2 ^ 23 : ℚ) ≤ ((current.tmmbr - last.tmmbr).toNat : ℚ) := by
    rw [wrapped]
    have nat : 2 ^ 32 - 2 ^ 23 ≤ 2 ^ 32 - (last.tmmbr.toNat - current.tmmbr.toNat) := by omega
    have cast : ((2 ^ 32 - 2 ^ 23 : ℕ) : ℚ) ≤
        ((2 ^ 32 - (last.tmmbr.toNat - current.tmmbr.toNat) : ℕ) : ℚ) := by exact_mod_cast nat
    norm_num at cast ⊢
    exact cast
  rw [lt_div_iff₀ (by linarith)]
  linarith

end Rates

theorem number_lt_maxPacketRate {element : SetElement} (range : element.InRange)
    (used : element.used) (rate : ℚ) :
    (PacketRate.number rate).lt (maxPacketRate element) ↔
      rate * element.line.slope < element.line.height := by
  have height : (element.tmmbr * 1000).toNat = element.tmmbr.toNat * 1000 := by
    rw [UInt32.toNat_mul]
    exact mod_eq_of_lt range.tmmbr
  have slope : (8 * element.packetOH).toNat = 8 * element.packetOH.toNat := by
    have bound := range.packetOH
    rw [UInt32.toNat_mul]
    apply mod_eq_of_lt
    change 8 * _ < _
    omega
  have positive := (line_falling used).height
  rw [maxPacketRate, height, slope, PacketRate.quotient]
  rcases Nat.eq_zero_or_pos element.packetOH.toNat with zero | some
  · have flat : element.line.slope = 0 := by
      change (8 * element.packetOH.toNat : ℚ) = 0
      rw [zero]
      norm_num
    have notZero : element.tmmbr.toNat * 1000 ≠ 0 := by
      intro none
      rw [show element.line.height = ((element.tmmbr.toNat * 1000 : ℕ) : ℚ) by
        change (1000 * element.tmmbr.toNat : ℚ) = _
        push_cast
        ring, none] at positive
      exact absurd positive (by norm_num)
    rw [if_pos (by omega), if_neg notZero, flat, mul_zero]
    exact iff_of_true rfl positive
  · have slopePositive : (0 : ℚ) < 8 * element.packetOH.toNat := by positivity
    rw [if_neg (by omega)]
    change decide (rate < _) = true ↔ _
    rw [decide_eq_true_iff, lt_div_iff₀ (by push_cast; exact slopePositive)]
    change _ ↔ rate * (8 * element.packetOH.toNat) < 1000 * element.tmmbr.toNat
    push_cast
    rw [mul_comm (1000 : ℚ)]

/-! ## The stack of entries -/

def SelectedEntry.piece (entry : SelectedEntry) : Piece ℚ where
  line := entry.element.line
  start := match entry.intersection with
    | .number start => start
    | _ => 0

structure SelectedEntry.Sound (first : SetElement) (entry : SelectedEntry) : Prop where
  used : entry.element.used
  range : entry.element.InRange
  intersection : entry.intersection = .number entry.piece.start
  maxPR : entry.maxPR = maxPacketRate entry.element
  origin : entry.element = first ∨ 0 < entry.element.packetOH

namespace Selection

variable {size : Nat} {first : SetElement} {done : List (Line ℚ)} {selection : Selection}
  {last : SelectedEntry} {below : List SelectedEntry}

def roundFrom (size fuel : Nat) (selection : Selection) : Option Selection := do
  let next ← selection.compare size
  if 0 < next.numCandidates then loop size fuel next else pure next

theorem loop_succ (size fuel : Nat) (selection : Selection) :
    loop size (fuel + 1) selection = roundFrom size fuel selection.fetch := rfl

theorem compare_pop (selected : selection.selected = last :: below)
    (behind : (packetRate selection.current last.element).le last.intersection) :
    selection.compare size = some { selection with selected := below, getNewCandidate := false } := by
  rw [compare, selected]
  exact if_pos behind

theorem compare_push (selected : selection.selected = last :: below)
    (later : (packetRate selection.current last.element).le last.intersection = false)
    (meets : (packetRate selection.current last.element).lt last.maxPR)
    (room : selection.selected.length < size) :
    selection.compare size = some { selection with
      selected := { element := selection.current,
                    intersection := packetRate selection.current last.element,
                    maxPR := maxPacketRate selection.current } :: selection.selected
      numCandidates := selection.numCandidates - 1
      getNewCandidate := true } := by
  rw [compare, selected]
  rw [selected] at room
  simp only [later, meets, Nat.not_le.mpr room]
  rfl

/-- The current candidate leaves the entries as they are. -/
def Settled (selection : Selection) : Prop :=
  ∀ last ∈ selection.selected.head?,
    (packetRate selection.current last.element).le last.intersection = false ∧
      (packetRate selection.current last.element).lt last.maxPR = false

theorem Settled.compare (settled : selection.Settled)
    (selected : selection.selected = last :: below) :
    selection.compare size = some { selection with
      numCandidates := selection.numCandidates - 1, getNewCandidate := true } := by
  have both := settled last (by rw [selected]; rfl)
  rw [Selection.compare, selected]
  simp only [both.1, both.2]
  rfl

/-- The entries bound the lines that were looked at. -/
structure Bounding (first : SetElement) (done : List (Line ℚ)) (selection : Selection) : Prop where
  sound : ∀ entry ∈ selection.selected, entry.Sound first
  scanned : Scanned (selection.selected.map SelectedEntry.piece) done
  bottom : ∀ entry ∈ selection.selected.getLast?, entry.element = first

/-- The current candidate is held against the last entry. -/
structure Held (first : SetElement) (done : List (Line ℚ)) (selection : Selection) : Prop where
  sound : ∀ entry ∈ selection.selected, entry.Sound first
  popping : Popping (selection.selected.map SelectedEntry.piece) done selection.current.line
  bottom : ∀ entry ∈ selection.selected.getLast?, entry.element = first
  range : selection.current.InRange
  used : selection.current.used
  above : first.tmmbr < selection.current.tmmbr

/-- What the rounds for one candidate lead to. -/
structure Processed (size : Nat) (first : SetElement) (done : List (Line ℚ))
    (selection : Selection) (last : SelectedEntry) (rounds : Nat) (next : Selection) : Prop where
  run : ∀ fuel, roundFrom size (rounds + fuel) selection =
    if 0 < next.numCandidates then loop size fuel next else some next
  bounding : Bounding first (selection.current.line :: done) next
  slots : next.slots = selection.slots
  getNew : next.getNewCandidate = true
  num : next.numCandidates = selection.numCandidates - 1
  length : rounds + next.selected.length ≤ selection.selected.length + 1
  top : next.selected.head?.map SelectedEntry.element =
    some (if last.element.line.steepness < selection.current.line.steepness then selection.current
      else last.element)
  origin : ∀ entry ∈ next.selected, entry.element = selection.current ∨ entry ∈ selection.selected
  settled : next.Settled

theorem settled_self (selection : Selection) {entry : SelectedEntry}
    (selected : selection.selected = entry :: below) (same : entry.element = selection.current) :
    selection.Settled := by
  intro last isLast
  rw [selected] at isLast
  cases isLast
  have undefined : packetRate selection.current entry.element = .undefined := by
    rw [same, packetRate, UInt32.sub_self, UInt32.sub_self, UInt32.mul_zero, UInt32.toNat_zero,
      Nat.zero_mul]
    rfl
  rw [undefined]
  exact ⟨rfl, rfl⟩

section Held

variable (held : Held first done selection) (selected : selection.selected = last :: below)

include held selected

theorem Held.steeper : last.element.packetOH < selection.current.packetOH := by
  rw [← SetElement.line_slope_lt]
  apply held.popping.steeper last.piece
  rw [selected]
  rfl

theorem Held.packetRate : packetRate selection.current last.element =
    .number (Line.crossing last.element.line selection.current.line) := by
  have lastSound := held.sound last (by rw [selected]; exact mem_cons_self)
  apply packetRate_of_le held.range (held.steeper selected)
  apply UInt32.not_lt.mp
  rw [← SetElement.line_height_lt, not_lt]
  apply held.popping.higher last.piece
  rw [selected]
  rfl

theorem Held.behind_iff :
    (Rtcp.packetRate selection.current last.element).le last.intersection ↔
      Line.crossing last.element.line selection.current.line ≤ last.piece.start := by
  have lastSound := held.sound last (by rw [selected]; exact mem_cons_self)
  rw [held.packetRate selected, lastSound.intersection]
  exact decide_eq_true_iff

theorem Held.meets_iff :
    (Rtcp.packetRate selection.current last.element).lt last.maxPR ↔
      last.element.line.steepness < selection.current.line.steepness := by
  have lastSound := held.sound last (by rw [selected]; exact mem_cons_self)
  rw [held.packetRate selected, lastSound.maxPR,
    number_lt_maxPacketRate lastSound.range lastSound.used]
  exact Line.crossing_mul_slope_lt_iff
    (SetElement.line_slope_lt.mpr (held.steeper selected)) (line_falling lastSound.used)
    (line_falling held.used)

theorem Held.pop (behind : Line.crossing last.element.line selection.current.line ≤
      last.piece.start) :
    ∃ next rest, below = next :: rest ∧
      Held first done { selection with selected := below, getNewCandidate := false } ∧
      last.element.line.steepness < selection.current.line.steepness := by
  have popping := held.popping
  rw [selected, map_cons] at popping
  cases below with
  | nil =>
    have isFirst : last.element = first := held.bottom last (by rw [selected]; rfl)
    have above := held.above
    rw [← isFirst, ← SetElement.line_height_lt] at above
    exact absurd (popping.bottom_stays above) (not_lt.mpr behind)
  | cons next rest =>
    rcases popping.pop behind with ⟨popped, tighter⟩
    refine ⟨next, rest, rfl, ⟨?_, popped, ?_, held.range, held.used, held.above⟩, tighter⟩
    · intro entry member
      exact held.sound entry (by rw [selected]; exact mem_cons_of_mem _ member)
    · intro entry member
      apply held.bottom entry
      rw [selected, List.getLast?_cons_cons]
      exact member

theorem Held.push (later : ¬ Line.crossing last.element.line selection.current.line ≤
      last.piece.start)
    (meets : last.element.line.steepness < selection.current.line.steepness) :
    Bounding first (selection.current.line :: done) { selection with
      selected := { element := selection.current,
                    intersection := Rtcp.packetRate selection.current last.element,
                    maxPR := maxPacketRate selection.current } :: selection.selected
      numCandidates := selection.numCandidates - 1
      getNewCandidate := true } := by
  have popping := held.popping
  rw [selected, map_cons] at popping
  have steeper := held.steeper selected
  have positive := (popping.stacked.start_nonneg).trans_lt (not_le.mp later)
  have slopes := SetElement.line_slope_lt.mpr steeper
  have higher : last.element.line.height < selection.current.line.height := by
    rw [Line.crossing, div_pos_iff_of_pos_right (sub_pos.mpr slopes)] at positive
    exact sub_pos.mp positive
  have rate := held.packetRate selected
  refine ⟨?_, ?_, ?_⟩
  · intro entry member
    rcases mem_cons.mp member with rfl | member
    · refine ⟨held.used, held.range, ?_, rfl, .inr ?_⟩
      · rw [rate, SelectedEntry.piece]
      · exact UInt32.lt_of_le_of_lt UInt32.zero_le steeper
    · exact held.sound entry member
  · have pushed := popping.push (not_le.mp later) higher meets
    change Scanned (_ :: selection.selected.map SelectedEntry.piece) _
    rw [selected, SelectedEntry.piece, rate]
    exact pushed
  · intro entry member
    apply held.bottom entry
    rw [selected] at member ⊢
    rw [List.getLast?_cons_cons] at member
    exact member

theorem Held.settled (later : ¬ Line.crossing last.element.line selection.current.line ≤
      last.piece.start)
    (misses : ¬ last.element.line.steepness < selection.current.line.steepness) :
    selection.Settled := by
  intro entry isLast
  rw [selected] at isLast
  cases isLast
  rw [← held.behind_iff selected, Bool.not_eq_true] at later
  rw [← held.meets_iff selected, Bool.not_eq_true] at misses
  exact ⟨later, misses⟩

end Held

/-- A round for a candidate that is left out. -/
def pass (selection : Selection) : Selection :=
  { selection with numCandidates := selection.numCandidates - 1, getNewCandidate := true }

theorem Settled.roundFrom (settled : selection.Settled)
    (selected : selection.selected = last :: below) (fuel : Nat) :
    selection.roundFrom size fuel =
      if 0 < selection.pass.numCandidates then loop size fuel selection.pass
      else some selection.pass := by
  rw [Selection.roundFrom, settled.compare selected]
  rfl

theorem Held.processed (held : Held first done selection)
    (selected : selection.selected = last :: below)
    (later : ¬ Line.crossing last.element.line selection.current.line ≤ last.piece.start)
    (room : selection.selected.length < size) :
    ∃ next, Processed size first done selection last 0 next := by
  by_cases meets : last.element.line.steepness < selection.current.line.steepness
  · have bounding := held.push selected later meets
    have notBehind :
        (Rtcp.packetRate selection.current last.element).le last.intersection = false := by
      rw [← Bool.not_eq_true, held.behind_iff selected]
      exact later
    refine ⟨_, ?_, bounding, rfl, rfl, rfl, ?_, ?_, ?_, ?_⟩
    · intro fuel
      rw [roundFrom, compare_push selected notBehind ((held.meets_iff selected).mpr meets) room,
        Nat.zero_add]
      rfl
    · rw [length_cons]
      omega
    · rw [if_pos meets]
      rfl
    · intro entry member
      rcases mem_cons.mp member with rfl | member
      · exact .inl rfl
      · exact .inr member
    · exact settled_self _ rfl rfl
  · have settled := held.settled selected later meets
    refine ⟨selection.pass, ?_, ⟨held.sound, ?_, held.bottom⟩, rfl, rfl, rfl, ?_, ?_, ?_, settled⟩
    · intro fuel
      rw [settled.roundFrom selected, Nat.zero_add]
    · have popping := held.popping
      change Scanned (selection.selected.map SelectedEntry.piece) _
      rw [selected, map_cons] at popping ⊢
      exact popping.discard meets
    · change 0 + selection.selected.length ≤ _
      omega
    · change selection.selected.head?.map _ = _
      rw [selected, if_neg meets]
      rfl
    · exact fun entry member => .inr member

/-- The rounds for a candidate that does not begin below the last entry. The induction is on the
entries below it. -/
theorem Held.process (below : List SelectedEntry) : ∀ (selection : Selection)
    (last : SelectedEntry), selection.selected = last :: below → Held first done selection →
    0 < selection.numCandidates → selection.selected.length < size →
    ∃ rounds next, Processed size first done selection last rounds next := by
  induction below with
  | nil =>
    intro selection last selected held _ room
    have later :
        ¬ Line.crossing last.element.line selection.current.line ≤ last.piece.start := by
      intro behind
      rcases held.pop selected behind with ⟨_, _, absurdity, _⟩
      exact nomatch absurdity
    exact ⟨0, held.processed selected later room⟩
  | cons next rest induction =>
    intro selection last selected held some room
    by_cases behind :
        Line.crossing last.element.line selection.current.line ≤ last.piece.start
    · rcases held.pop selected behind with ⟨_, _, same, popped, tighter⟩
      rcases List.cons.inj same with ⟨rfl, rfl⟩
      have shorter : rest.length + 1 < size := by
        rw [selected] at room
        exact lt_of_succ_lt room
      rcases induction _ next rfl popped some shorter with ⟨rounds, result, processed⟩
      refine ⟨rounds + 1, result, ?_, processed.bounding, processed.slots, processed.getNew,
        processed.num, ?_, ?_, ?_, processed.settled⟩
      · intro fuel
        rw [roundFrom, compare_pop selected ((held.behind_iff selected).mpr behind),
          Nat.add_right_comm]
        change (if 0 < selection.numCandidates then loop size _ _ else _) = _
        rw [if_pos some, loop_succ]
        exact processed.run fuel
      · have bound := processed.length
        rw [selected]
        simp only [length_cons] at bound ⊢
        omega
      · -- The line below falls to zero later than the one that was removed.
        have nextTighter : next.element.line.steepness < selection.current.line.steepness := by
          have stacked := held.popping.stacked
          rw [selected] at stacked
          exact stacked.2.2.1.trans tighter
        rw [processed.top, if_pos tighter]
        exact congrArg Option.some (if_pos nextTighter)
      · intro entry member
        apply (processed.origin entry member).imp_right
        intro inside
        rw [selected]
        exact mem_cons_of_mem _ inside
    · exact ⟨0, held.processed selected behind room⟩

/-- A candidate below the last entry gets a packet rate above all others. -/
theorem Bounding.settled_of_lt (bounding : Bounding first done selection)
    (selected : selection.selected = last :: below) (range : selection.current.InRange)
    (steeper : last.element.packetOH < selection.current.packetOH)
    (above : first.tmmbr < selection.current.tmmbr)
    (lower : selection.current.tmmbr < last.element.tmmbr) : selection.Settled := by
  intro entry isLast
  rw [selected] at isLast
  cases isLast
  have sound := bounding.sound last (by rw [selected]; exact mem_cons_self)
  rcases packetRate_of_lt range sound.range steeper lower with ⟨rate, quotient, large⟩
  have stacked := bounding.scanned.stacked
  rw [selected, map_cons] at stacked
  have start : last.piece.start ≤ 2 ^ 29 := by
    cases below with
    | nil =>
      have bottom : last.piece.start = 0 := stacked
      rw [bottom]
      norm_num
    | cons next rest =>
      rcases stacked with ⟨slope, _, _, start, _⟩
      rw [start]
      exact crossing_le sound.range (SetElement.line_slope_lt.mp slope)
  have sloped : 8 ≤ last.element.line.slope := by
    have positive : 0 < last.element.packetOH := by
      rcases sound.origin with same | positive
      · rw [same] at lower
        exact absurd (UInt32.lt_trans above lower) (UInt32.lt_irrefl _)
      · exact positive
    have cast : (1 : ℚ) ≤ last.element.packetOH.toNat := by
      exact_mod_cast UInt32.lt_iff_toNat_lt.mp positive
    change (8 : ℚ) ≤ 8 * last.element.packetOH.toNat
    linarith
  have height : last.element.line.height < 2 ^ 32 := by
    have cast : (last.element.tmmbr.toNat * 1000 : ℚ) < 2 ^ 32 := by
      exact_mod_cast sound.range.tmmbr
    change (1000 * last.element.tmmbr.toNat : ℚ) < 2 ^ 32
    linarith
  rw [quotient, sound.intersection, sound.maxPR]
  constructor
  · exact decide_eq_false (not_le.mpr (start.trans_lt large))
  · rw [← Bool.not_eq_true, number_lt_maxPacketRate sound.range sound.used, not_lt]
    nlinarith

/-! ## All candidates -/

theorem takeFirst_none {slots : List SetElement} (queue : slots.filter used = []) :
    takeFirst slots = none := by
  induction slots with
  | nil => rfl
  | cons head rest induction =>
    rw [filter_cons] at queue
    rw [takeFirst]
    split at queue
    · exact nomatch queue
    · next unused => rw [if_neg unused, induction queue, Option.map_none]

theorem takeFirst_some {candidate : SetElement} {todo : List SetElement}
    {slots : List SetElement} (queue : slots.filter SetElement.used = candidate :: todo) :
    ∃ left, takeFirst slots = some (candidate, left) ∧ left.filter SetElement.used = todo := by
  induction slots with
  | nil => exact nomatch queue
  | cons head rest induction =>
    rw [filter_cons] at queue
    rw [takeFirst]
    split at queue
    · next used =>
        rcases List.cons.inj queue with ⟨rfl, behind⟩
        exact ⟨_, if_pos used, behind⟩
    · next unused =>
        rcases induction queue with ⟨left, taken, behind⟩
        refine ⟨head :: left, ?_, ?_⟩
        · rw [if_neg unused, taken]
          rfl
        · rw [filter_cons_of_neg unused]
          exact behind

theorem fetch_empty (queue : selection.slots.filter used = []) :
    selection.fetch = selection := by
  rw [fetch, takeFirst_none queue]
  exact ite_self _

theorem Settled.loop (count : Nat) : ∀ (selection : Selection) (fuel : Nat),
    selection.numCandidates = count + 1 → count < fuel → selection.Settled →
    selection.slots.filter used = [] → selection.selected = last :: below →
    ∃ result, loop size fuel selection = some result ∧ result.selected = selection.selected := by
  induction count with
  | zero =>
    intro selection fuel num enough settled queue selected
    rcases exists_eq_add_one_of_ne_zero (Nat.ne_of_gt enough) with ⟨fuel, rfl⟩
    refine ⟨selection.pass, ?_, rfl⟩
    rw [loop_succ, fetch_empty queue, settled.roundFrom selected, if_neg]
    rw [pass, num]
    exact Nat.lt_irrefl 0
  | succ count induction =>
    intro selection fuel num enough settled queue selected
    rcases exists_eq_add_one_of_ne_zero (Nat.ne_of_gt (zero_lt_of_lt enough)) with
      ⟨fuel, rfl⟩
    have left : selection.pass.numCandidates = count + 1 := by
      rw [pass, num]
      rfl
    rcases induction selection.pass fuel left (lt_of_succ_lt_succ enough) settled queue
      selected with ⟨result, run, same⟩
    refine ⟨result, ?_, same⟩
    rw [loop_succ, fetch_empty queue, settled.roundFrom selected, left, if_pos (succ_pos count)]
    exact run

theorem loop_push (selected : selection.selected = last :: below)
    (later : (packetRate selection.current last.element).le last.intersection = false)
    (meets : (packetRate selection.current last.element).lt last.maxPR)
    (room : selection.selected.length < size)
    (queue : selection.slots.filter used = []) {fuel : Nat}
    (enough : selection.numCandidates < fuel) :
    ∃ result, loop size fuel selection = some result ∧
      result.selected.head?.map SelectedEntry.element = some selection.current := by
  rcases exists_eq_add_one_of_ne_zero (Nat.ne_of_gt (zero_lt_of_lt enough)) with ⟨fuel, rfl⟩
  let next : Selection := { selection with
    selected := { element := selection.current,
                  intersection := packetRate selection.current last.element,
                  maxPR := maxPacketRate selection.current } :: selection.selected
    numCandidates := selection.numCandidates - 1
    getNewCandidate := true }
  have settled : next.Settled := settled_self next rfl rfl
  rw [loop_succ, fetch_empty queue, roundFrom, compare_push selected later meets room]
  change ∃ result, (if 0 < next.numCandidates then loop size fuel next else some next) =
    some result ∧ _
  split
  · next more =>
      rcases exists_eq_add_one_of_ne_zero (Nat.ne_of_gt more) with ⟨count, num⟩
      have counted : selection.numCandidates - 1 = count + 1 := num
      rcases @Settled.loop size _ _ count next fuel num (by omega) settled queue rfl with
        ⟨result, run, same⟩
      exact ⟨result, run, by rw [same]; rfl⟩
  · exact ⟨next, rfl, rfl⟩

/-- Candidates wait, in the order of their overheads. -/
structure Waiting (size : Nat) (first : SetElement) (done : List (Line ℚ))
    (todo : List SetElement) (selection : Selection) : Prop where
  bounding : Bounding first done selection
  queue : selection.slots.filter used = todo
  getNew : selection.getNewCandidate = true
  range : ∀ candidate ∈ todo, candidate.InRange
  above : ∀ candidate ∈ todo, first.tmmbr < candidate.tmmbr
  steeper : ∀ candidate ∈ todo, ∀ entry ∈ selection.selected,
    entry.element.packetOH < candidate.packetOH
  increasing : todo.Pairwise fun first second => first.packetOH < second.packetOH
  enough : todo.length ≤ selection.numCandidates
  room : selection.selected.length + selection.numCandidates ≤ size
  idle : todo = [] → selection.Settled

theorem fetch_candidate {candidate : SetElement} {rest : List SetElement}
    (queue : selection.slots.filter used = candidate :: rest)
    (getNew : selection.getNewCandidate = true) :
    ∃ left, selection.fetch = { selection with current := candidate, slots := left } ∧
      left.filter used = rest := by
  rcases takeFirst_some queue with ⟨left, taken, behind⟩
  refine ⟨left, ?_, behind⟩
  rw [fetch, if_pos getNew, taken]

/-- What the rounds for the first candidate lead to. -/
structure Stepped (size : Nat) (first : SetElement) (done : List (Line ℚ))
    (candidate : SetElement) (rest : List SetElement) (selection : Selection) (rounds : Nat)
    (next : Selection) : Prop where
  run : ∀ fuel, loop size (rounds + fuel + 1) selection =
    if 0 < next.numCandidates then loop size fuel next else some next
  waiting : Waiting size first done rest next
  num : next.numCandidates = selection.numCandidates - 1
  length : rounds + next.selected.length ≤ selection.selected.length + 1
  origin : ∀ entry ∈ next.selected, entry.element = candidate ∨ entry ∈ selection.selected

section Waiting

variable {candidate : SetElement} {rest : List SetElement}
  (waiting : Waiting size first done (candidate :: rest) selection)
  (selected : selection.selected = last :: below)

include waiting selected

theorem Waiting.step_lower (lower : candidate.tmmbr < last.element.tmmbr) :
    ∃ next, Stepped size first done candidate rest selection 0 next ∧
      next.selected = last :: below := by
  rcases fetch_candidate waiting.queue waiting.getNew with ⟨left, fetched, behind⟩
  have bounding : Bounding first done { selection with current := candidate, slots := left } :=
    ⟨waiting.bounding.sound, waiting.bounding.scanned, waiting.bounding.bottom⟩
  have settled : Settled { selection with current := candidate, slots := left } := by
    apply bounding.settled_of_lt selected
    · exact waiting.range candidate mem_cons_self
    · exact waiting.steeper candidate mem_cons_self last
        (by rw [selected]; exact mem_cons_self)
    · exact waiting.above candidate mem_cons_self
    · exact lower
  refine ⟨pass { selection with current := candidate, slots := left },
    ⟨?_, ?_, rfl, ?_, fun entry member => .inr member⟩, selected⟩
  · intro fuel
    rw [loop_succ, fetched, settled.roundFrom selected, Nat.zero_add]
  · have enough := waiting.enough
    have room := waiting.room
    rw [length_cons] at enough
    refine ⟨⟨waiting.bounding.sound, waiting.bounding.scanned, waiting.bounding.bottom⟩, behind,
      rfl, ?_, ?_, ?_, (pairwise_cons.mp waiting.increasing).2, ?_, ?_, fun _ => settled⟩
    · exact fun other member => waiting.range other (mem_cons_of_mem _ member)
    · exact fun other member => waiting.above other (mem_cons_of_mem _ member)
    · exact fun other member => waiting.steeper other (mem_cons_of_mem _ member)
    · change rest.length ≤ selection.numCandidates - 1
      omega
    · change selection.selected.length + (selection.numCandidates - 1) ≤ size
      omega
  · change 0 + selection.selected.length ≤ _
    omega

theorem Waiting.step_higher (higher : ¬ candidate.tmmbr < last.element.tmmbr) :
    ∃ rounds next last' below',
      Stepped size first (candidate.line :: done) candidate rest selection rounds next ∧
      next.selected = last' :: below' ∧
      last'.element = if last.element.line.steepness < candidate.line.steepness then candidate
        else last.element := by
  rcases fetch_candidate waiting.queue waiting.getNew with ⟨left, fetched, behind⟩
  have used : candidate.used := by
    have inside : candidate ∈ selection.slots.filter SetElement.used := by
      rw [waiting.queue]
      exact mem_cons_self
    exact of_mem_filter inside
  have lastIn : last ∈ selection.selected := by
    rw [selected]
    exact mem_cons_self
  have held : Held first done { selection with current := candidate, slots := left } := by
    refine ⟨waiting.bounding.sound, ?_, waiting.bounding.bottom,
      waiting.range candidate mem_cons_self, used,
      waiting.above candidate mem_cons_self⟩
    have scanned := waiting.bounding.scanned
    change Popping (selection.selected.map SelectedEntry.piece) done candidate.line
    rw [selected, map_cons] at scanned ⊢
    apply scanned.popping (line_falling used)
    · exact SetElement.line_slope_lt.mpr
        (waiting.steeper candidate mem_cons_self last lastIn)
    · exact not_lt.mp (mt SetElement.line_height_lt.mp higher)
  have enough := waiting.enough
  have room := waiting.room
  rw [length_cons] at enough
  have free : selection.selected.length < size := by omega
  rcases held.process below { selection with current := candidate, slots := left } last selected
    (zero_lt_of_lt enough) free with ⟨rounds, next, processed⟩
  rcases Option.map_eq_some_iff.mp processed.top with ⟨last', isLast, lastElement⟩
  rcases List.head?_eq_some_iff.mp isLast with ⟨below', nextSelected⟩
  refine ⟨rounds, next, last', below', ⟨?_, ?_, processed.num, processed.length,
    processed.origin⟩, nextSelected, lastElement⟩
  · intro fuel
    rw [loop_succ, fetched]
    exact processed.run fuel
  · have num := processed.num
    have length := processed.length
    refine ⟨processed.bounding, ?_, processed.getNew, ?_, ?_, ?_,
      (pairwise_cons.mp waiting.increasing).2, ?_, ?_, fun _ => processed.settled⟩
    · rw [processed.slots]
      exact behind
    · exact fun other member => waiting.range other (mem_cons_of_mem _ member)
    · exact fun other member => waiting.above other (mem_cons_of_mem _ member)
    · intro other member entry inside
      rcases processed.origin entry inside with same | inside
      · rw [same]
        exact (pairwise_cons.mp waiting.increasing).1 other member
      · exact waiting.steeper other (mem_cons_of_mem _ member) entry inside
    · rw [num]
      change rest.length ≤ selection.numCandidates - 1
      omega
    · rw [num]
      change _ + (selection.numCandidates - 1) ≤ size
      change rounds + next.selected.length ≤ selection.selected.length + 1 at length
      omega

end Waiting

/-- How the loop ends: the entries bound the lines that were looked at, and are of the candidates
that waited. -/
structure Scans (size fuel : Nat) (first : SetElement) (done : List (Line ℚ))
    (todo : List SetElement) (selection result : Selection) : Prop where
  run : loop size fuel selection = some result
  bounding : Bounding first done result
  origin : ∀ entry ∈ result.selected, entry.element ∈ todo ∨ entry ∈ selection.selected
  length : result.selected.length ≤ selection.selected.length + todo.length

/-- The first candidate, and then the others. -/
theorem Stepped.scans {candidate : SetElement} {rest : List SetElement} {rounds fuel : Nat}
    {next : Selection} {all : List (Line ℚ)}
    (stepped : Stepped size first done candidate rest selection rounds next)
    (some : 0 < selection.numCandidates)
    (enough : 2 * selection.numCandidates + selection.selected.length ≤ fuel)
    (none : rest = [] → all = done)
    (later : 0 < next.numCandidates → ∀ fuel, 2 * next.numCandidates + next.selected.length ≤ fuel →
        ∃ result, Scans size fuel first all rest next result) :
    ∃ result, Scans size fuel first all (candidate :: rest) selection result := by
  have num := stepped.num
  have length := stepped.length
  have split : fuel = rounds + (fuel - rounds - 1) + 1 := by omega
  have run := stepped.run (fuel - rounds - 1)
  rw [← split] at run
  by_cases more : 0 < next.numCandidates
  · rcases later more (fuel - rounds - 1) (by omega) with ⟨result, scans⟩
    rw [if_pos more, scans.run] at run
    refine ⟨result, run, scans.bounding, ?_, ?_⟩
    · intro entry member
      rcases scans.origin entry member with inside | inside
      · exact .inl (mem_cons_of_mem _ inside)
      · apply (stepped.origin entry inside).imp_left
        intro same
        rw [same]
        exact mem_cons_self
    · have bound := scans.length
      rw [length_cons]
      omega
  · have empty : rest = [] := by
      apply eq_nil_of_length_eq_zero
      have bound := stepped.waiting.enough
      omega
    rw [if_neg more] at run
    refine ⟨next, run, ?_, ?_, ?_⟩
    · rw [none empty]
      exact stepped.waiting.bounding
    · intro entry inside
      apply (stepped.origin entry inside).imp_left
      intro same
      rw [same]
      exact mem_cons_self
    · rw [length_cons]
      omega

/-- The loop. Its entries bound the lines that are kept. The induction is on the candidates. -/
theorem Waiting.loop (todo : List SetElement) : ∀ (selection : Selection) (fuel : Nat)
    (done : List (Line ℚ)) (last : SelectedEntry) (below : List SelectedEntry),
    selection.selected = last :: below → Waiting size first done todo selection →
    0 < selection.numCandidates →
    2 * selection.numCandidates + selection.selected.length ≤ fuel →
    ∃ result, Scans size fuel first
      ((kept last.element.line (todo.map line)).reverse ++ done) todo selection
      result := by
  induction todo with
  | nil =>
    intro selection fuel done last below selected waiting some enough
    rcases exists_eq_add_one_of_ne_zero (Nat.ne_of_gt some) with ⟨count, num⟩
    rcases @Settled.loop size last below count selection fuel num (by omega)
      (waiting.idle rfl) waiting.queue selected with ⟨result, run, same⟩
    have bounding := waiting.bounding
    refine ⟨result, run, ⟨?_, ?_, ?_⟩, ?_, ?_⟩
    · rw [same]
      exact bounding.sound
    · rw [same]
      exact bounding.scanned
    · rw [same]
      exact bounding.bottom
    · rw [same]
      exact fun entry member => .inr member
    · rw [same]
      exact Nat.le_refl _
  | cons candidate rest induction =>
    intro selection fuel done last below selected waiting some enough
    by_cases lower : candidate.tmmbr < last.element.tmmbr
    · rcases waiting.step_lower selected lower with ⟨next, stepped, nextSelected⟩
      rw [map_cons, kept, if_pos (SetElement.line_height_lt.mpr lower)]
      apply stepped.scans some enough
      · rintro rfl
        rfl
      · intro more fuel bound
        exact induction next fuel done last below nextSelected stepped.waiting more bound
    · rcases waiting.step_higher selected lower with
        ⟨rounds, next, last', below', stepped, nextSelected, lastElement⟩
      have lastLine : last'.element.line =
          if last.element.line.steepness < candidate.line.steepness then candidate.line
          else last.element.line := by
        rw [lastElement]
        split
        · rfl
        · rfl
      rw [map_cons, kept, if_neg (mt SetElement.line_height_lt.mp lower), ← lastLine,
        reverse_cons, append_assoc, singleton_append]
      apply stepped.scans some enough
      · rintro rfl
        rfl
      · intro more fuel bound
        exact induction next fuel _ last' below' nextSelected stepped.waiting more bound

end Selection

end ZyWebRtc.Rtcp
