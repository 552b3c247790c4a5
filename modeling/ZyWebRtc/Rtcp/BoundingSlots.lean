import ZyWebRtc.Rtcp.BoundingSet

namespace ZyWebRtc.Rtcp

/-! Steps 1 and 2 of the search for the bounding set: the slots are sorted by overhead, and of
each overhead one candidate is kept. A slot that is cleared looks like one of overhead zero. -/

open List

/-! ## Sorting -/

theorem bubble_spec (count : Nat) : ∀ (front back : List SetElement), front.length = count + 1 →
    ∃ init last, bubble count (front ++ back) = init ++ last :: back ∧ init.length = count ∧
      (init ++ [last]).Perm front ∧ ∀ element ∈ init, element.packetOH ≤ last.packetOH := by
  induction count with
  | zero =>
    intro front back length
    rcases length_eq_one_iff.mp length with ⟨only, rfl⟩
    exact ⟨[], only, rfl, rfl, List.Perm.refl _, nofun⟩
  | succ count induction =>
    intro front back length
    match front, length with
    | first :: second :: rest, length =>
      rw [cons_append, cons_append, bubble]
      split
      · next swaps =>
          rcases induction (first :: rest) back (Nat.succ.inj length) with
            ⟨init, last, bubbled, size, perm, bound⟩
          refine ⟨second :: init, last, congrArg (second :: ·) bubbled,
            congrArg (· + 1) size, ?_, ?_⟩
          · exact (perm.cons second).trans (List.Perm.swap first second rest)
          · intro element member
            rcases mem_cons.mp member with rfl | member
            · have inside : first ∈ init ++ [last] :=
                perm.mem_iff.mpr mem_cons_self
              rcases mem_append.mp inside with inside | inside
              · exact UInt32.le_trans (UInt32.le_of_lt swaps) (bound first inside)
              · rw [← mem_singleton.mp inside]
                exact UInt32.le_of_lt swaps
            · exact bound element member
      · next stays =>
          rcases induction (second :: rest) back (Nat.succ.inj length) with
            ⟨init, last, bubbled, size, perm, bound⟩
          refine ⟨first :: init, last, congrArg (first :: ·) bubbled,
            congrArg (· + 1) size, perm.cons first, ?_⟩
          intro element member
          rcases mem_cons.mp member with rfl | member
          · have inside : second ∈ init ++ [last] := perm.mem_iff.mpr mem_cons_self
            rcases mem_append.mp inside with inside | inside
            · exact UInt32.le_trans (UInt32.not_lt.mp stays) (bound second inside)
            · rw [← mem_singleton.mp inside]
              exact UInt32.not_lt.mp stays
          · exact bound element member

theorem bubble_filter (packetOH : UInt32) (count : Nat) : ∀ slots : List SetElement,
    (bubble count slots).filter (fun element => element.packetOH = packetOH) =
      slots.filter fun element => element.packetOH = packetOH := by
  induction count with
  | zero =>
    intro slots
    cases slots with
    | nil => rfl
    | cons _ _ => rfl
  | succ count induction =>
    intro slots
    match slots with
    | [] => rfl
    | [only] => rfl
    | first :: second :: rest =>
      rw [bubble]
      split
      · next swaps =>
          have apart : ¬ (first.packetOH = packetOH ∧ second.packetOH = packetOH) := by
            rintro ⟨same, other⟩
            rw [same, other] at swaps
            exact UInt32.lt_irrefl _ swaps
          rw [filter_cons, induction]
          by_cases same : first.packetOH = packetOH
          · have other : second.packetOH ≠ packetOH := fun other => apart ⟨same, other⟩
            simp [same, other]
          · simp [filter_cons, same]
      · simp only [filter_cons, induction]

theorem bubbleRounds_spec (count : Nat) : ∀ (front back : List SetElement),
    front.length = count → back.Pairwise (fun first second => first.packetOH ≤ second.packetOH) →
    (∀ first ∈ front, ∀ second ∈ back, first.packetOH ≤ second.packetOH) →
    (bubbleRounds count (front ++ back)).Pairwise
        (fun first second => first.packetOH ≤ second.packetOH) ∧
      (bubbleRounds count (front ++ back)).Perm (front ++ back) := by
  induction count with
  | zero =>
    intro front back length sorted _
    rw [length_eq_zero_iff.mp length]
    exact ⟨sorted, List.Perm.refl _⟩
  | succ count induction =>
    intro front back length sorted below
    rcases bubble_spec count front back length with ⟨init, last, bubbled, size, perm, bound⟩
    have lastInside : last ∈ front := perm.mem_iff.mp (by simp)
    rcases induction init (last :: back) size
      (pairwise_cons.mpr ⟨below last lastInside, sorted⟩) (by
        intro first inside second member
        rcases mem_cons.mp member with rfl | member
        · exact bound first inside
        · exact below first (perm.mem_iff.mp (mem_append_left _ inside)) second member)
      with ⟨ordered, sameSlots⟩
    rw [bubbleRounds, bubbled]
    refine ⟨ordered, sameSlots.trans ?_⟩
    rw [← singleton_append (l := back), ← append_assoc]
    exact perm.append_right back

theorem sortByOverhead_pairwise (slots : List SetElement) :
    (sortByOverhead slots).Pairwise fun first second => first.packetOH ≤ second.packetOH := by
  have spec := bubbleRounds_spec slots.length slots [] rfl List.Pairwise.nil nofun
  rw [append_nil] at spec
  exact spec.1

theorem sortByOverhead_perm (slots : List SetElement) : (sortByOverhead slots).Perm slots := by
  have spec := bubbleRounds_spec slots.length slots [] rfl List.Pairwise.nil nofun
  rw [append_nil] at spec
  exact spec.2

theorem bubbleRounds_filter (packetOH : UInt32) (count : Nat) : ∀ slots : List SetElement,
    (bubbleRounds count slots).filter (fun element => element.packetOH = packetOH) =
      slots.filter fun element => element.packetOH = packetOH := by
  induction count with
  | zero => exact fun _ => rfl
  | succ count induction =>
    intro slots
    rw [bubbleRounds, induction, bubble_filter]

theorem sortByOverhead_zeros (slots : List SetElement) :
    ∃ rest, sortByOverhead slots = slots.filter (fun element => element.packetOH = 0) ++ rest ∧
      ∀ element ∈ rest, element.packetOH ≠ 0 := by
  have stable : (sortByOverhead slots).filter (fun element => element.packetOH = 0) =
      slots.filter fun element => element.packetOH = 0 := bubbleRounds_filter 0 _ slots
  have sorted := sortByOverhead_pairwise slots
  rw [← stable]
  generalize sortByOverhead slots = ordered at sorted
  clear stable
  induction ordered with
  | nil => exact ⟨[], rfl, nofun⟩
  | cons head rest induction =>
    rcases pairwise_cons.mp sorted with ⟨least, later⟩
    by_cases zero : head.packetOH = 0
    · rcases induction later with ⟨positive, split, nonzero⟩
      refine ⟨positive, ?_, nonzero⟩
      rw [filter_cons_of_pos (by simpa using zero), cons_append]
      exact congrArg (head :: ·) split
    · have above : ∀ element ∈ head :: rest, element.packetOH ≠ 0 := by
        intro element member
        rcases mem_cons.mp member with rfl | member
        · exact zero
        · intro none
          have bound := least element member
          rw [none] at bound
          exact zero (UInt32.le_zero_iff.mp bound)
      refine ⟨head :: rest, ?_, above⟩
      rw [filter_eq_nil_iff.mpr (by simpa using above)]
      rfl

/-! ## One overhead -/

@[simp] theorem used_zero : SetElement.zero.used = false := rfl

variable {packetOH : UInt32} {element : SetElement}

@[simp] theorem clearOverhead_self
    (same : element.packetOH = packetOH) : clearOverhead packetOH element = .zero := if_pos same

@[simp] theorem clearOverhead_of_ne
    (other : element.packetOH ≠ packetOH) : clearOverhead packetOH element = element :=
  if_neg other

theorem map_clearOverhead_of_ne {slots : List SetElement}
    (others : ∀ element ∈ slots, element.packetOH ≠ packetOH) :
    slots.map (clearOverhead packetOH) = slots :=
  (map_congr_left fun element member => clearOverhead_of_ne (others element member)).trans
    (List.map_id slots)

/-- The first one of those with the least bit rate, among the slots of an overhead. -/
structure LeastAt (packetOH : UInt32) (front : List SetElement) (least : SetElement)
    (back : List SetElement) : Prop where
  same : least.packetOH = packetOH
  before : ∀ element ∈ front, element.packetOH = packetOH → least.tmmbr < element.tmmbr
  behind : ∀ element ∈ back, element.packetOH = packetOH → least.tmmbr ≤ element.tmmbr

theorem leastIndex_spec (after : List SetElement) :
    ∀ (front : List SetElement) (least : SetElement) (back : List SetElement),
    LeastAt packetOH front least back →
    ∃ front' least' back', front ++ least :: back ++ after = front' ++ least' :: back' ∧
      leastIndex packetOH after (front ++ least :: back).length least.tmmbr front.length =
        front'.length ∧ LeastAt packetOH front' least' back' := by
  induction after with
  | nil => exact fun front least back found =>
    ⟨front, least, back, append_nil _, rfl, found⟩
  | cons element rest induction =>
    intro front least back found
    have parts : front ++ least :: back ++ element :: rest =
        front ++ least :: (back ++ [element]) ++ rest := by simp
    rw [leastIndex]
    split
    · next lower =>
        have next : LeastAt packetOH (front ++ least :: back) element [] := by
          refine ⟨lower.1, ?_, nofun⟩
          intro other member same
          rcases mem_append.mp member with member | member
          · exact UInt32.lt_trans lower.2 (found.before other member same)
          · rcases mem_cons.mp member with rfl | member
            · exact lower.2
            · exact UInt32.lt_of_lt_of_le lower.2 (found.behind other member same)
        rcases induction _ element [] next with ⟨front', least', back', split, index, spec⟩
        refine ⟨front', least', back', ?_, ?_, spec⟩
        · rw [← split, append_assoc _ [element] rest]
          rfl
        · rw [← index, @length_append _ _ [element]]
          rfl
    · next higher =>
        have next : LeastAt packetOH front least (back ++ [element]) := by
          refine ⟨found.same, found.before, ?_⟩
          intro other member same
          rcases mem_append.mp member with member | member
          · exact found.behind other member same
          · rw [mem_singleton.mp member] at same ⊢
            exact UInt32.not_lt.mp fun lower => higher ⟨same, lower⟩
        rcases induction front least _ next with ⟨front', least', back', split, index, spec⟩
        refine ⟨front', least', back', parts.trans split, ?_, spec⟩
        rw [← index]
        congr 1
        simp only [length_append, length_cons, length_nil]
        omega

theorem clearOthers_length (packetOH : UInt32) (least : SetElement) (back : List SetElement) :
    ∀ front : List SetElement, clearOthers packetOH (front ++ least :: back) front.length =
      front.map (clearOverhead packetOH) ++ least :: back.map (clearOverhead packetOH) := by
  intro front
  induction front with
  | nil => rfl
  | cons head rest induction => exact congrArg (clearOverhead packetOH head :: ·) induction

/-- A slot that holds a candidate keeps the least bit rate from there on, and clears all others of
the overhead. -/
theorem discardSameOverhead_used (before : List SetElement)
    (rest : List SetElement) (used : element.used) :
    ∃ front least back, element :: rest = front ++ least :: back ∧
      LeastAt element.packetOH front least back ∧
      discardSameOverhead before.length (before ++ element :: rest) =
        before.map (clearOverhead element.packetOH) ++
          (front.map (clearOverhead element.packetOH) ++
            least :: back.map (clearOverhead element.packetOH)) := by
  rcases leastIndex_spec rest [] element [] ⟨rfl, nofun, nofun⟩ with
    ⟨front, least, back, split, index, spec⟩
  refine ⟨front, least, back, split, spec, ?_⟩
  rw [discardSameOverhead, drop_left, take_left]
  change (if element.used then _ else _) = _
  rw [if_pos used, ← clearOthers_length, ← split, ← index]
  rfl

theorem discardSameOverhead_unused (before : List SetElement)
    (rest : List SetElement) (unused : element.used = false) :
    discardSameOverhead before.length (before ++ element :: rest) = before ++ element :: rest := by
  rw [discardSameOverhead, drop_left, take_left]
  change (if element.used then _ else _) = _
  rw [unused]
  rfl

theorem discardFrom_add (first second : Nat) : ∀ (i : Nat) (slots : List SetElement),
    discardFrom (first + second) i slots =
      discardFrom second (i + first) (discardFrom first i slots) := by
  induction first with
  | zero => exact fun i slots => by rw [Nat.zero_add]; rfl
  | succ first induction =>
    intro i slots
    rw [Nat.add_right_comm, discardFrom, induction, Nat.add_right_comm, Nat.add_assoc]
    rfl

theorem discardFrom_unused (back : List SetElement) : ∀ (middle before : List SetElement),
    (∀ element ∈ middle, element.used = false) →
    discardFrom middle.length before.length (before ++ middle ++ back) =
      before ++ middle ++ back := by
  intro middle
  induction middle with
  | nil => exact fun _ _ => rfl
  | cons element rest induction =>
    intro before unused
    have passed := discardSameOverhead_unused before (rest ++ back)
      (unused element mem_cons_self)
    have later := induction (before ++ [element])
      fun other member => unused other (mem_cons_of_mem _ member)
    rw [length_append, length_singleton] at later
    simp only [append_assoc, cons_append, nil_append] at later ⊢
    rw [length_cons, discardFrom, passed]
    exact later

end ZyWebRtc.Rtcp
