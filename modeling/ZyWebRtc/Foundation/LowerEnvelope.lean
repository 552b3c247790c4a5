import Mathlib.Tactic

namespace ZyWebRtc.LowerEnvelope

/-! The lower envelope of falling lines over the rates at which it has not fallen below zero. The
lines are looked at in the order of their slopes. Those that bound the others so far lie on a
stack, each with the rate from which on it is the least. -/

open List

variable {K : Type*} [Field K] [LinearOrder K]

structure Line (K : Type*) where
  height : K
  slope : K

namespace Line

def value (line : Line K) (rate : K) : K := line.height - line.slope * rate

structure Falling (line : Line K) : Prop where
  height : 0 < line.height
  slope : 0 ≤ line.slope

/-- The rate at which two lines meet. -/
def crossing (first second : Line K) : K :=
  (second.height - first.height) / (second.slope - first.slope)

/-- A line with a larger steepness falls to zero at a lower rate. -/
def steepness (line : Line K) : K := line.slope / line.height

section Crossing

variable [IsStrictOrderedRing K] {first second : Line K}

/-- The steeper line is the lower one from the crossing on. -/
theorem value_le_iff (steeper : first.slope < second.slope) (rate : K) :
    second.value rate ≤ first.value rate ↔ crossing first second ≤ rate := by
  rw [crossing, div_le_iff₀ (sub_pos.mpr steeper), value, value]
  constructor
  · intro below
    linarith
  · intro below
    linarith

theorem value_lt_iff (steeper : first.slope < second.slope) (rate : K) :
    second.value rate < first.value rate ↔ crossing first second < rate := by
  rw [crossing, div_lt_iff₀ (sub_pos.mpr steeper), value, value]
  constructor
  · intro below
    linarith
  · intro below
    linarith

theorem value_crossing (steeper : first.slope < second.slope) :
    second.value (crossing first second) = first.value (crossing first second) := by
  have apart : second.slope - first.slope ≠ 0 := (sub_pos.mpr steeper).ne'
  rw [value, value, crossing]
  field_simp
  ring

theorem steepness_lt_iff (firstFalls : first.Falling) (secondFalls : second.Falling) :
    first.steepness < second.steepness ↔
      first.slope * second.height < second.slope * first.height := by
  rw [steepness, steepness, div_lt_div_iff₀ firstFalls.height secondFalls.height]

/-- The lines meet before the first one has fallen to zero exactly if the second one does so
earlier. -/
theorem crossing_mul_slope_lt_iff (steeper : first.slope < second.slope)
    (firstFalls : first.Falling) (secondFalls : second.Falling) :
    crossing first second * first.slope < first.height ↔ first.steepness < second.steepness := by
  have apart := sub_pos.mpr steeper
  rw [steepness_lt_iff firstFalls secondFalls, crossing, div_mul_eq_mul_div, div_lt_iff₀ apart]
  constructor
  · intro meets
    linarith
  · intro falls
    linarith

end Crossing

end Line

open Line

/-! ## Covers -/

/-- No line is below all of the chosen ones at a rate at which none of these is negative. -/
def Covers (chosen lines : List (Line K)) : Prop :=
  ∀ rate, 0 ≤ rate → (∀ line ∈ chosen, 0 ≤ line.value rate) →
    ∀ line ∈ lines, ∃ least ∈ chosen, least.value rate ≤ line.value rate

section Covers

variable {chosen others lines : List (Line K)} {line : Line K}

theorem covers_self (lines : List (Line K)) : Covers lines lines :=
  fun _ _ _ line member => ⟨line, member, le_refl _⟩

theorem Covers.congr {chosen' lines' : List (Line K)} (covers : Covers chosen lines)
    (sameChosen : ∀ line, line ∈ chosen ↔ line ∈ chosen')
    (sameLines : ∀ line, line ∈ lines ↔ line ∈ lines') : Covers chosen' lines' := by
  intro rate positive feasible line member
  rcases covers rate positive (fun least inside => feasible least ((sameChosen least).mp inside))
    line ((sameLines line).mpr member) with ⟨least, inside, below⟩
  exact ⟨least, (sameChosen least).mp inside, below⟩

/-- A line may be chosen on top. -/
theorem Covers.cons (covers : Covers chosen lines) (line : Line K) :
    Covers (line :: chosen) (line :: lines) := by
  intro rate positive feasible other member
  rcases mem_cons.mp member with rfl | member
  · exact ⟨other, mem_cons_self, le_refl _⟩
  · rcases covers rate positive (fun least inside => feasible least (mem_cons_of_mem _ inside))
      other member with ⟨least, inside, below⟩
    exact ⟨least, mem_cons_of_mem _ inside, below⟩

/-- A chosen line may be left out when the others are below it. -/
theorem Covers.remove (covers : Covers chosen lines) (line : Line K)
    (parts : ∀ least ∈ chosen, least = line ∨ least ∈ others)
    (redundant : ∀ rate, 0 ≤ rate → (∀ least ∈ others, 0 ≤ least.value rate) →
      ∃ least ∈ others, least.value rate ≤ line.value rate) :
    Covers others lines := by
  intro rate positive feasible other member
  rcases redundant rate positive feasible with ⟨below, belowInside, le⟩
  have feasibleAll : ∀ least ∈ chosen, 0 ≤ least.value rate := by
    intro least inside
    rcases parts least inside with rfl | inside
    · exact (feasible below belowInside).trans le
    · exact feasible least inside
  rcases covers rate positive feasibleAll other member with ⟨least, inside, least_le⟩
  rcases parts least inside with rfl | inside
  · exact ⟨below, belowInside, le.trans least_le⟩
  · exact ⟨least, inside, least_le⟩

end Covers

/-! ## The stack -/

/-- A line, and the rate at which it meets the one below it on the stack. -/
structure Piece (K : Type*) where
  line : Line K
  start : K

/-- Towards the top the lines are higher and steeper, and each one meets the line below it before
that has fallen to zero, and behind the place where that one begins. -/
def Stacked : List (Piece K) → Prop
  | [] => False
  | [bottom] => bottom.start = 0
  | top :: below :: rest =>
    below.line.slope < top.line.slope ∧ below.line.height < top.line.height ∧
      below.line.steepness < top.line.steepness ∧
      top.start = crossing below.line top.line ∧ below.start < top.start ∧
      Stacked (below :: rest)

/-- The stack bounds the lines that were looked at. -/
structure Scanned (stack : List (Piece K)) (done : List (Line K)) : Prop where
  stacked : Stacked stack
  falling : ∀ line ∈ done, line.Falling
  chosen : ∀ piece ∈ stack, piece.line ∈ done
  covers : Covers (stack.map Piece.line) done

/-- The next line is held against the top of the stack. -/
structure Popping (stack : List (Piece K)) (done : List (Line K)) (next : Line K) : Prop where
  stacked : Stacked stack
  falling : ∀ line ∈ done, line.Falling
  nextFalls : next.Falling
  chosen : ∀ piece ∈ stack, piece.line ∈ done
  covers : Covers (next :: stack.map Piece.line) (next :: done)
  steeper : ∀ top ∈ stack.head?, top.line.slope < next.slope
  higher : ∀ top ∈ stack.head?, top.line.height ≤ next.height

section Stack

variable {top below : Piece K} {rest stack : List (Piece K)} {done : List (Line K)}
  {next : Line K}

theorem scanned_single {line : Line K} (falls : line.Falling) :
    Scanned [⟨line, 0⟩] [line] where
  stacked := rfl
  falling := fun other member => by rw [mem_singleton.mp member]; exact falls
  chosen := fun piece member => by rw [mem_singleton.mp member]; exact mem_cons_self
  covers := covers_self [line]

theorem Scanned.popping (scanned : Scanned (top :: rest) done) (falls : next.Falling)
    (steeper : top.line.slope < next.slope) (higher : top.line.height ≤ next.height) :
    Popping (top :: rest) done next where
  stacked := scanned.stacked
  falling := scanned.falling
  nextFalls := falls
  chosen := scanned.chosen
  covers := scanned.covers.cons next
  steeper := fun piece isTop => by cases isTop; exact steeper
  higher := fun piece isTop => by cases isTop; exact higher

theorem Stacked.start_nonneg (stacked : Stacked (top :: rest)) : 0 ≤ top.start := by
  induction rest generalizing top with
  | nil =>
    have bottom : top.start = 0 := stacked
    exact bottom.ge
  | cons below rest induction =>
    exact (induction stacked.2.2.2.2.2).trans stacked.2.2.2.2.1.le

/-- A line that falls to zero before the top is put on the stack. -/
theorem Popping.push (popping : Popping (top :: rest) done next)
    (later : top.start < crossing top.line next)
    (above : top.line.height < next.height)
    (meets : top.line.steepness < next.steepness) :
    Scanned (⟨next, crossing top.line next⟩ :: top :: rest) (next :: done) where
  stacked := ⟨popping.steeper top rfl, above, meets, rfl, later, popping.stacked⟩
  falling := by
    intro line member
    rcases mem_cons.mp member with rfl | member
    · exact popping.nextFalls
    · exact popping.falling line member
  chosen := by
    intro piece member
    rcases mem_cons.mp member with rfl | member
    · exact mem_cons_self
    · exact mem_cons_of_mem _ (popping.chosen piece member)
  covers := popping.covers

variable [IsStrictOrderedRing K]

/-- The bottom of the stack is not taken off for a line that begins above it. -/
theorem Popping.bottom_stays (popping : Popping [top] done next)
    (above : top.line.height < next.height) : top.start < crossing top.line next := by
  have bottom : top.start = 0 := popping.stacked
  rw [bottom]
  exact div_pos (sub_pos.mpr above) (sub_pos.mpr (popping.steeper top rfl))

/-- The next line falls to zero before a line that it meets no later than that one begins. -/
theorem steepness_lt_of_crossing_le {below top next : Line K} (belowFalls : below.Falling)
    (topFalls : top.Falling) (nextFalls : next.Falling) (steeper : below.slope < top.slope)
    (nextSteeper : top.slope < next.slope) (meets : below.steepness < top.steepness)
    (popped : crossing top next ≤ crossing below top) : top.steepness < next.steepness := by
  rw [← crossing_mul_slope_lt_iff nextSteeper topFalls nextFalls]
  have beforeZero := (crossing_mul_slope_lt_iff steeper belowFalls topFalls).mpr meets
  have meeting := value_crossing steeper
  rw [value, value] at meeting
  have scaled := mul_le_mul_of_nonneg_right popped topFalls.slope
  linarith

/-- The top is taken off the stack when the next line meets it before the place where it
begins. -/
theorem Popping.pop (popping : Popping (top :: below :: rest) done next)
    (popped : crossing top.line next ≤ top.start) :
    Popping (below :: rest) done next ∧ top.line.steepness < next.steepness := by
  rcases popping.stacked with ⟨slope, height, meets, start, _, stacked⟩
  have nextSteeper := popping.steeper top rfl
  have nextHigher := popping.higher top rfl
  have belowDone := popping.chosen below (mem_cons_of_mem _ mem_cons_self)
  have topDone := popping.chosen top mem_cons_self
  have tighter : top.line.steepness < next.steepness := by
    apply steepness_lt_of_crossing_le (popping.falling _ belowDone) (popping.falling _ topDone)
      popping.nextFalls slope nextSteeper meets
    rw [← start]
    exact popped
  refine ⟨⟨stacked, popping.falling, popping.nextFalls,
    fun piece member => popping.chosen piece (mem_cons_of_mem _ member), ?_, ?_, ?_⟩,
    tighter⟩
  · apply popping.covers.remove top.line
    · intro least member
      rcases mem_cons.mp member with same | member
      · exact .inr (same ▸ mem_cons_self)
      · rcases mem_cons.mp member with same | member
        · exact .inl same
        · exact .inr (mem_cons_of_mem _ member)
    · intro rate _ _
      -- Before its place the line below is lower, and behind it the next one.
      rcases le_total top.start rate with behind | before
      · refine ⟨next, mem_cons_self, ?_⟩
        exact (value_le_iff nextSteeper rate).mpr (popped.trans behind)
      · refine ⟨below.line, mem_cons_of_mem _ mem_cons_self, ?_⟩
        apply le_of_not_gt
        intro lower
        rw [value_lt_iff slope, ← start] at lower
        exact absurd before (not_le.mpr lower)
  · intro newTop member
    cases member
    exact slope.trans nextSteeper
  · intro newTop member
    cases member
    exact height.le.trans nextHigher

/-- A line that falls to zero no earlier than the top is bounded by it. -/
theorem Popping.discard (popping : Popping (top :: rest) done next)
    (misses : ¬ top.line.steepness < next.steepness) :
    Scanned (top :: rest) (next :: done) := by
  have nextSteeper := popping.steeper top rfl
  have topFalls := popping.falling _ (popping.chosen top mem_cons_self)
  refine ⟨popping.stacked, ?_,
    fun piece member => mem_cons_of_mem _ (popping.chosen piece member), ?_⟩
  · intro line member
    rcases mem_cons.mp member with rfl | member
    · exact popping.nextFalls
    · exact popping.falling line member
  · apply popping.covers.remove next
    · intro least member
      exact mem_cons.mp member
    · intro rate _ feasible
      refine ⟨top.line, mem_cons_self, ?_⟩
      have topFeasible : 0 ≤ top.line.value rate := feasible _ mem_cons_self
      rw [value, sub_nonneg] at topFeasible
      rw [← crossing_mul_slope_lt_iff nextSteeper topFalls popping.nextFalls, not_lt] at misses
      apply le_of_not_gt
      intro lower
      have crossed := (value_lt_iff nextSteeper rate).mp lower
      rcases eq_or_lt_of_le topFalls.slope with flat | falls
      · rw [← flat, mul_zero] at misses
        exact absurd topFalls.height (not_lt.mpr misses)
      · have scaled := mul_lt_mul_of_pos_right crossed falls
        linarith

end Stack

/-! ## Skipped lines -/

/-- The lines that do not begin below the one which falls to zero first so far. -/
def kept : (top : Line K) → List (Line K) → List (Line K)
  | _, [] => []
  | top, line :: rest =>
    if line.height < top.height then kept top rest
    else line :: kept (if top.steepness < line.steepness then line else top) rest

/-- The other lines. -/
def skipped : (top : Line K) → List (Line K) → List (Line K)
  | _, [] => []
  | top, line :: rest =>
    if line.height < top.height then line :: skipped top rest
    else skipped (if top.steepness < line.steepness then line else top) rest

theorem mem_kept_or_skipped {lines : List (Line K)} {line : Line K} :
    ∀ top, line ∈ lines ↔ line ∈ kept top lines ∨ line ∈ skipped top lines := by
  induction lines with
  | nil => exact fun _ => (or_self_iff).symm
  | cons head rest induction =>
    intro top
    rw [kept, skipped]
    split
    · rw [mem_cons, mem_cons, induction top]
      exact or_left_comm
    · rw [mem_cons, mem_cons, induction _]
      exact or_assoc.symm

/-- What bounds the lines that are kept bounds all of them exactly if the kept ones bound those
that are skipped. -/
theorem covers_iff_skipped {chosen rest : List (Line K)} {first : Line K}
    (fromKept : ∀ line ∈ chosen, line ∈ first :: kept first rest)
    (covers : Covers chosen (first :: kept first rest)) :
    Covers chosen (first :: rest) ↔ Covers (first :: kept first rest) (skipped first rest) := by
  constructor
  · intro all rate positive feasible line member
    have inside : line ∈ first :: rest :=
      mem_cons_of_mem _ ((mem_kept_or_skipped first).mpr (.inr member))
    rcases all rate positive (fun least inside => feasible least (fromKept least inside)) line
      inside with ⟨least, least_mem, below⟩
    exact ⟨least, fromKept least least_mem, below⟩
  · intro skips rate positive feasible line member
    have keptFeasible : ∀ other ∈ first :: kept first rest, 0 ≤ other.value rate := by
      intro other inside
      rcases covers rate positive feasible other inside with ⟨least, least_mem, below⟩
      exact (feasible least least_mem).trans below
    have sorted : line ∈ first :: kept first rest ∨ line ∈ skipped first rest := by
      rcases mem_cons.mp member with rfl | member
      · exact .inl mem_cons_self
      · exact ((mem_kept_or_skipped first).mp member).imp_left (mem_cons_of_mem _)
    rcases sorted with inside | inside
    · exact covers rate positive feasible line inside
    · rcases skips rate positive keptFeasible line inside with ⟨other, other_mem, otherBelow⟩
      rcases covers rate positive feasible other other_mem with ⟨least, least_mem, below⟩
      exact ⟨least, least_mem, below.trans otherBelow⟩

end ZyWebRtc.LowerEnvelope
