import ZyWebRtc.Rtcp.BoundingSlots

namespace ZyWebRtc.Rtcp

/-! What step 2 leaves of the sorted slots. Of an overhead other than zero the least bit rate
remains. Those of overhead zero share it with the slots that are empty or have been cleared, and
are lost when one of these is taken for the least. -/

open List SetElement

/-- The slots without a candidate are empty ones. -/
def Blank (slots : List SetElement) : Prop :=
  ∀ element ∈ slots, element.used = false → element = .zero

theorem Blank.used {slots : List SetElement} (blank : Blank slots) {element : SetElement}
    (member : element ∈ slots) (nonzero : element.packetOH ≠ 0) : element.used = true := by
  cases found : element.used with
  | true => rfl
  | false => exact absurd (congrArg packetOH (blank element member found)) nonzero

/-- Candidates have been cleared, and each one is bounded by one of its overhead that is left. -/
structure Reduces (slots result : List SetElement) : Prop where
  length : result.length = slots.length
  sublist : (result.filter used).Sublist (slots.filter used)
  bounded : ∀ candidate ∈ slots, candidate.used → ∃ element ∈ result, element.used ∧
    element.packetOH = candidate.packetOH ∧ element.tmmbr ≤ candidate.tmmbr
  blank : Blank result

theorem Reduces.refl {slots : List SetElement} (blank : Blank slots) : Reduces slots slots where
  length := rfl
  sublist := List.Sublist.refl _
  bounded := fun candidate member used => ⟨candidate, member, used, rfl, UInt32.le_refl _⟩
  blank := blank

theorem Reduces.trans {slots middle result : List SetElement} (first : Reduces slots middle)
    (second : Reduces middle result) : Reduces slots result where
  length := second.length.trans first.length
  sublist := second.sublist.trans first.sublist
  bounded := by
    intro candidate member used
    rcases first.bounded candidate member used with ⟨element, inside, elementUsed, same, le⟩
    rcases second.bounded element inside elementUsed with ⟨last, lastIn, lastUsed, last_same, last_le⟩
    exact ⟨last, lastIn, lastUsed, last_same.trans same, UInt32.le_trans last_le le⟩
  blank := second.blank

theorem Reduces.append {slots result slots' result' : List SetElement}
    (first : Reduces slots result) (second : Reduces slots' result') :
    Reduces (slots ++ slots') (result ++ result') where
  length := by rw [length_append, length_append, first.length, second.length]
  sublist := by
    rw [filter_append, filter_append]
    exact first.sublist.append second.sublist
  bounded := by
    intro candidate member used
    rcases mem_append.mp member with member | member
    · rcases first.bounded candidate member used with ⟨element, inside, spec⟩
      exact ⟨element, mem_append_left _ inside, spec⟩
    · rcases second.bounded candidate member used with ⟨element, inside, spec⟩
      exact ⟨element, mem_append_right _ inside, spec⟩
  blank := by
    intro element member
    rcases mem_append.mp member with member | member
    · exact first.blank element member
    · exact second.blank element member

variable {element : SetElement}

theorem Reduces.mem {slots result : List SetElement} (reduces : Reduces slots result)
    (member : element ∈ result) (used : element.used) : element ∈ slots := by
  have inside := reduces.sublist.subset (mem_filter.mpr ⟨member, used⟩)
  exact (mem_filter.mp inside).1

/-- The overheads of the candidates differ. -/
def Distinct (slots : List SetElement) : Prop :=
  (slots.filter used).Pairwise fun first second => first.packetOH ≠ second.packetOH

theorem distinct_cons {rest : List SetElement} :
    Distinct (element :: rest) ↔ Distinct rest ∧
      (element.used → ∀ other ∈ rest, other.used → element.packetOH ≠ other.packetOH) := by
  rw [Distinct, Distinct]
  cases used : element.used with
  | false =>
    rw [filter_cons_of_neg (by rw [used]; decide)]
    exact (and_iff_left (fun found => absurd found (by decide))).symm
  | true =>
    rw [filter_cons_of_pos used, pairwise_cons, and_comm]
    simp [mem_filter]

/-! ## An overhead other than zero -/

theorem filter_used_map_clearOverhead (packetOH : UInt32) (slots : List SetElement) :
    ((slots.map (clearOverhead packetOH)).filter used).Sublist
      (slots.filter used) := by
  induction slots with
  | nil => exact List.Sublist.refl _
  | cons head rest induction =>
    rw [map_cons, clearOverhead]
    split
    · rw [filter_cons_of_neg (by rw [used_zero]; decide), filter_cons]
      split
      · exact induction.cons head
      · exact induction
    · rw [filter_cons, filter_cons]
      split
      · exact induction.cons_cons head
      · exact induction

theorem mem_map_clearOverhead {packetOH : UInt32} {slots : List SetElement}
    (member : element ∈ slots.map (clearOverhead packetOH)) (used : element.used) :
    element ∈ slots ∧ element.packetOH ≠ packetOH := by
  rcases List.mem_map.mp member with ⟨source, inside, cleared⟩
  rw [clearOverhead] at cleared
  split at cleared
  · rw [← cleared] at used
    exact absurd used (by decide)
  · next other => exact cleared ▸ ⟨inside, other⟩

theorem Blank.map_clearOverhead {slots : List SetElement} (blank : Blank slots)
    (packetOH : UInt32) : Blank (slots.map (clearOverhead packetOH)) := by
  intro element member unused
  rcases List.mem_map.mp member with ⟨source, inside, cleared⟩
  rw [clearOverhead] at cleared
  split at cleared
  · exact cleared.symm
  · exact cleared ▸ blank source inside (by rw [cleared]; exact unused)

variable {least : SetElement}

theorem LeastAt.reduces {packetOH : UInt32} {front back : List SetElement}
    (spec : LeastAt packetOH front least back) (blank : Blank (front ++ least :: back))
    (used : least.used) :
    Reduces (front ++ least :: back) (front.map (clearOverhead packetOH) ++
      least :: back.map (clearOverhead packetOH)) where
  length := by simp
  sublist := by
    rw [filter_append, filter_append, filter_cons_of_pos used, filter_cons_of_pos used]
    exact (filter_used_map_clearOverhead _ _).append
      ((filter_used_map_clearOverhead _ _).cons_cons least)
  bounded := by
    intro candidate member candidateUsed
    by_cases same : candidate.packetOH = packetOH
    · refine ⟨least, by simp, used, spec.same.trans same.symm, ?_⟩
      rcases mem_append.mp member with member | member
      · exact UInt32.le_of_lt (spec.before candidate member same)
      · rcases mem_cons.mp member with rfl | member
        · exact UInt32.le_refl _
        · exact spec.behind candidate member same
    · refine ⟨candidate, ?_, candidateUsed, rfl, UInt32.le_refl _⟩
      have stays : ∀ {slots : List SetElement}, candidate ∈ slots →
          candidate ∈ slots.map (clearOverhead packetOH) := fun inside =>
        List.mem_map.mpr ⟨candidate, inside, clearOverhead_of_ne same⟩
      rcases mem_append.mp member with member | member
      · exact mem_append_left _ (stays member)
      · rcases mem_cons.mp member with rfl | member
        · exact mem_append_right _ mem_cons_self
        · exact mem_append_right _ (mem_cons_of_mem _ (stays member))
  blank := by
    intro element member unused
    rcases mem_append.mp member with member | member
    · exact Blank.map_clearOverhead (fun other inside => blank other (by simp [inside])) _
        element member unused
    · rcases mem_cons.mp member with rfl | member
      · exact absurd used (by rw [unused]; decide)
      · exact Blank.map_clearOverhead (fun other inside => blank other (by simp [inside])) _
          element member unused

/-- One slot of the loop: what is in it now is left, and only candidates of other overheads come
behind. -/
theorem discardSameOverhead_reduces (before : List SetElement)
    {rest : List SetElement} (blank : Blank (element :: rest))
    (nonzero : ∀ other ∈ element :: rest, other.used → other.packetOH ≠ 0)
    (apart : ∀ other ∈ before, ∀ candidate ∈ element :: rest, candidate.used →
      other.packetOH ≠ candidate.packetOH) :
    ∃ left after, discardSameOverhead before.length (before ++ element :: rest) =
        before ++ left :: after ∧
      Reduces (element :: rest) (left :: after) ∧
      ∀ candidate ∈ after, candidate.used → left.packetOH ≠ candidate.packetOH := by
  cases used : element.used with
  | false =>
    refine ⟨element, rest, discardSameOverhead_unused before rest used, Reduces.refl blank, ?_⟩
    intro candidate member candidateUsed same
    have zero := congrArg packetOH (blank element mem_cons_self used)
    exact nonzero candidate (mem_cons_of_mem _ member) candidateUsed (same.symm.trans zero)
  | true =>
    have elementNonzero := nonzero element mem_cons_self used
    rcases discardSameOverhead_used before rest used with ⟨front, least, back, parts, spec, result⟩
    rw [map_clearOverhead_of_ne fun other member => apart other member element
      mem_cons_self used] at result
    rw [parts] at blank nonzero result ⊢
    have leastUsed : least.used := by
      apply blank.used (by simp)
      rw [spec.same]
      exact elementNonzero
    have reduces := spec.reduces blank leastUsed
    cases front with
    | nil =>
      rcases List.cons.inj parts with ⟨rfl, -⟩
      refine ⟨element, _, result, reduces, ?_⟩
      intro candidate member candidateUsed
      exact (mem_map_clearOverhead member candidateUsed).2.symm
    | cons head front =>
      rcases List.cons.inj parts with ⟨rfl, -⟩
      have cleared : clearOverhead element.packetOH element = .zero := clearOverhead_self rfl
      rw [map_cons, cleared, cons_append] at result reduces
      refine ⟨.zero, _, result, reduces, ?_⟩
      intro candidate member candidateUsed same
      exact nonzero candidate
        (reduces.mem (mem_cons_of_mem _ member) candidateUsed) candidateUsed same.symm

/-- All slots, when none of the candidates has overhead zero. -/
theorem discardFrom_reduces (count : Nat) : ∀ (before after : List SetElement),
    after.length = count → Blank after → (∀ other ∈ after, other.used → other.packetOH ≠ 0) →
    (∀ other ∈ before, ∀ candidate ∈ after, candidate.used → other.packetOH ≠ candidate.packetOH) →
    ∃ result, discardFrom count before.length (before ++ after) = before ++ result ∧
      Reduces after result ∧ Distinct result := by
  induction count with
  | zero =>
    intro before after length blank _ _
    rw [length_eq_zero_iff.mp length] at blank ⊢
    exact ⟨[], rfl, Reduces.refl blank, List.Pairwise.nil⟩
  | succ count induction =>
    intro before after length blank nonzero apart
    match after, length with
    | element :: rest, length =>
      rcases discardSameOverhead_reduces before blank nonzero apart with
        ⟨left, after, step, reduces, behind⟩
      have afterNonzero : ∀ other ∈ after, other.used → other.packetOH ≠ 0 :=
        fun other member used => nonzero other (reduces.mem (mem_cons_of_mem _ member) used) used
      rcases induction (before ++ [left]) after
          ((Nat.succ.inj reduces.length).trans (Nat.succ.inj length))
          (fun other member => reduces.blank other (mem_cons_of_mem _ member))
          afterNonzero (by
            intro other member candidate inside used
            rcases mem_append.mp member with member | member
            · exact apart other member candidate
                (reduces.mem (mem_cons_of_mem _ inside) used) used
            · rw [mem_singleton.mp member]
              exact behind candidate inside used) with
        ⟨result, run, later, distinct⟩
      have leftBlank : Blank [left] := fun other member =>
        reduces.blank other (by rw [mem_singleton.mp member]; exact mem_cons_self)
      refine ⟨left :: result, ?_, ?_, ?_⟩
      · rw [discardFrom, step]
        rw [length_append, append_assoc, append_assoc] at run
        exact run
      · exact reduces.trans ((Reduces.refl leftBlank).append later)
      · rw [distinct_cons]
        refine ⟨distinct, fun _ other member used => ?_⟩
        exact behind other (later.mem member used) used

/-! ## Overhead zero -/

theorem map_clearOverhead_zeros {slots : List SetElement}
    (zeros : ∀ element ∈ slots, element.packetOH = 0) :
    slots.map (clearOverhead 0) = List.replicate slots.length .zero := by
  apply eq_replicate_iff.mpr
  refine ⟨length_map _, fun element member => ?_⟩
  rcases List.mem_map.mp member with ⟨source, inside, cleared⟩
  exact cleared ▸ clearOverhead_self (zeros source inside)

theorem unused_of_mem_replicate {count : Nat}
    (member : element ∈ List.replicate count zero) : element.used = false := by
  rw [eq_of_mem_replicate member]
  rfl

theorem not_used_of_le_zero (le : element.tmmbr ≤ 0) :
    element.used = false := by
  rw [used, UInt32.le_zero_iff.mp le]
  rfl

section Zeros

variable {positive : List SetElement} (nonzero : ∀ element ∈ positive, element.packetOH ≠ 0)

include nonzero

theorem discardSameOverhead_zeros (count : Nat) {element : SetElement} {rest : List SetElement}
    (used : element.used) (zeros : ∀ other ∈ element :: rest, other.packetOH = 0) :
    ∃ front least back, element :: rest = front ++ least :: back ∧ LeastAt 0 front least back ∧
      discardSameOverhead count
          (List.replicate count .zero ++ (element :: rest ++ positive)) =
        List.replicate count .zero ++ (List.replicate front.length .zero ++
          least :: List.replicate back.length .zero ++ positive) := by
  have zero := zeros element mem_cons_self
  rcases discardSameOverhead_used (List.replicate count .zero) (rest ++ positive) used with
    ⟨front, least, back, parts, spec, result⟩
  rw [zero] at spec result
  rw [← cons_append] at parts result
  rcases append_eq_append_iff.mp parts with ⟨after, rfl, split⟩ | ⟨after, split, parts⟩
  · exact absurd spec.same (nonzero least (by rw [split]; simp))
  · cases after with
    | nil => exact absurd spec.same (nonzero least (by rw [← nil_append positive, ← parts]; simp))
    | cons head after =>
      rcases List.cons.inj parts with ⟨rfl, same⟩
      have backParts : back = after ++ positive := same
      rw [backParts] at spec result
      have cleared : (List.replicate count SetElement.zero).map (clearOverhead 0) =
          List.replicate count .zero := by
        rw [map_replicate]
        rfl
      have frontCleared := map_clearOverhead_zeros fun other member =>
        zeros other (by rw [split]; exact mem_append_left _ member)
      have afterCleared := map_clearOverhead_zeros fun other member =>
        zeros other (by rw [split]; exact mem_append_right _ (mem_cons_of_mem _ member))
      refine ⟨front, least, after, split, ⟨spec.same, spec.before, ?_⟩, ?_⟩
      · exact fun other member => spec.behind other (mem_append_left _ member)
      · rw [length_replicate, cleared, frontCleared, map_append, afterCleared,
          map_clearOverhead_of_ne nonzero] at result
        rw [result, append_assoc, cons_append]

/-- The candidates of overhead zero are lost: a slot behind them is empty, or the least one of them
is neither the first nor the last. -/
def ZerosLost (zeros : List SetElement) (emptySlots : Nat) : Prop :=
  zeros ≠ [] ∧ (0 < emptySlots ∨ ∃ front least back, zeros = front ++ least :: back ∧
    front ≠ [] ∧ back ≠ [] ∧ (∀ element ∈ front, least.tmmbr < element.tmmbr) ∧
      ∀ element ∈ back, least.tmmbr ≤ element.tmmbr)

omit nonzero in
theorem not_zerosLost_of_end {front back : List SetElement} {least : SetElement}
    (before : ∀ element ∈ front, least.tmmbr < element.tmmbr)
    (behind : ∀ element ∈ back, least.tmmbr ≤ element.tmmbr) (atEnd : front = [] ∨ back = []) :
    ¬ ZerosLost (front ++ least :: back) 0 := by
  rintro ⟨-, absurdity | ⟨front', least', back', parts, some, others, before', behind'⟩⟩
  · exact absurd absurdity (Nat.lt_irrefl 0)
  · rcases atEnd with rfl | rfl
    · match front', some with
      | head :: rest, _ =>
        rcases List.cons.inj parts with ⟨rfl, rfl⟩
        have lower := before' least mem_cons_self
        exact UInt32.lt_irrefl _ (UInt32.lt_of_lt_of_le lower (behind least' (by simp)))
    · rcases eq_nil_or_concat back' with rfl | ⟨init, last, rfl⟩
      · exact others rfl
      · have ends : front ++ [least] = front' ++ least' :: init ++ [last] := by
          rw [parts]
          simp
        rcases append_inj' ends rfl with ⟨rfl, only⟩
        rcases List.cons.inj only with ⟨rfl, -⟩
        have lower := before least' (by simp)
        exact UInt32.lt_irrefl _ (UInt32.lt_of_lt_of_le lower (behind' least (by simp)))

end Zeros

/-- What is left of the slots of overhead zero. -/
structure LeftOfZeros (zeros : List SetElement) (emptySlots : Nat) (result : List SetElement) :
    Prop where
  length : result.length = zeros.length + emptySlots
  blank : Blank result
  lost : ZerosLost zeros emptySlots → ∀ element ∈ result, element.used = false
  left : ¬ ZerosLost zeros emptySlots →
    Reduces (zeros ++ List.replicate emptySlots .zero) result ∧ Distinct result

theorem distinct_of_unused {slots : List SetElement}
    (unused : ∀ element ∈ slots, element.used = false) : Distinct slots := by
  rw [Distinct, filter_eq_nil_iff.mpr fun element member => by
    rw [unused element member]; decide]
  exact List.Pairwise.nil

theorem distinct_single (front back : Nat) (only : SetElement) :
    Distinct (List.replicate front .zero ++ only :: List.replicate back .zero) := by
  have none : ∀ count, (List.replicate count zero).filter used = [] :=
    fun count => filter_eq_nil_iff.mpr fun element member => by
      rw [unused_of_mem_replicate member]; decide
  rw [Distinct, filter_append, filter_cons, none, none]
  split
  · exact pairwise_singleton _ _
  · exact List.Pairwise.nil

theorem blank_replicate (count : Nat) : Blank (List.replicate count .zero) :=
  fun _ member _ => eq_of_mem_replicate member

theorem leftOfZeros_replicate {zeros : List SetElement} {emptySlots count : Nat}
    (length : count = zeros.length + emptySlots) (lost : ZerosLost zeros emptySlots) :
    LeftOfZeros zeros emptySlots (List.replicate count .zero) where
  length := by rw [length_replicate, length]
  blank := blank_replicate count
  lost := fun _ _ member => unused_of_mem_replicate member
  left := fun stays => absurd lost stays

theorem leftOfZeros_single {front back : List SetElement}
    (spec : LeastAt 0 front least back) (zeros : ∀ element ∈ front ++ least :: back,
      element.packetOH = 0 ∧ element.used) (atEnd : front = [] ∨ back = []) :
    LeftOfZeros (front ++ least :: back) 0
      (List.replicate front.length .zero ++ least :: List.replicate back.length .zero) := by
  have stays : ¬ ZerosLost (front ++ least :: back) 0 :=
    not_zerosLost_of_end
      (fun element member => spec.before element member (zeros element (by simp [member])).1)
      (fun element member => spec.behind element member (zeros element (by simp [member])).1) atEnd
  have reduces := spec.reduces
    (fun element member unused => absurd (zeros element member).2 (by rw [unused]; decide))
    (zeros least (by simp)).2
  rw [map_clearOverhead_zeros fun element member => (zeros element (by simp [member])).1,
    map_clearOverhead_zeros fun element member => (zeros element (by simp [member])).1] at reduces
  refine ⟨by simp, reduces.blank, fun lost => absurd lost stays, fun _ => ⟨?_, ?_⟩⟩
  · rw [replicate_zero, append_nil]
    exact reduces
  · exact distinct_single _ _ _

theorem replicate_around (front back : Nat) :
    List.replicate front zero ++ .zero :: List.replicate back .zero =
      List.replicate (front + back + 1) .zero := by
  rw [← replicate_succ, replicate_append_replicate]
  rfl

theorem discardFrom_replicate (count : Nat) (before back : List SetElement) :
    discardFrom count before.length (before ++ (List.replicate count .zero ++ back)) =
      before ++ (List.replicate count .zero ++ back) := by
  have passed := discardFrom_unused back (List.replicate count .zero) before
    fun element member => unused_of_mem_replicate member
  rw [length_replicate, append_assoc] at passed
  exact passed

/-- From the place of the least candidate, behind empty slots. Other slots behind it are taken for
the least one. -/
theorem discardFrom_least {positive : List SetElement}
    (nonzero : ∀ element ∈ positive, element.packetOH ≠ 0) (front : Nat)
    (used : least.used) (zero : least.packetOH = 0) (back : Nat) :
    discardFrom (back + 1) front (List.replicate front .zero ++
        (least :: List.replicate back .zero ++ positive)) =
      List.replicate front .zero ++ ((if back = 0 then least else .zero) ::
        List.replicate back .zero ++ positive) := by
  have zeroSlots : ∀ other ∈ least :: List.replicate back .zero, other.packetOH = 0 := by
    intro other member
    rcases mem_cons.mp member with rfl | member
    · exact zero
    · rw [eq_of_mem_replicate member]
      rfl
  rcases discardSameOverhead_zeros nonzero front used zeroSlots with
    ⟨front', least', back', parts, spec, step⟩
  rw [discardFrom, step]
  cases back with
  | zero =>
    have single : front' = [] ∧ least' = least ∧ back' = [] := by
      cases front' with
      | nil => exact ⟨rfl, (List.cons.inj parts).1.symm, (List.cons.inj parts).2.symm⟩
      | cons head rest =>
        have lengths := congrArg List.length parts
        simp at lengths
    rcases single with ⟨rfl, rfl, rfl⟩
    rfl
  | succ back =>
    have size : back + 1 = front'.length + back'.length := by
      have lengths := congrArg List.length parts
      simp only [length_cons, length_append, length_replicate] at lengths
      omega
    have cleared : least' = .zero := by
      have inside : SetElement.zero ∈ front' ++ least' :: back' := by
        rw [← parts]
        simp [replicate_succ]
      have unused : least'.used = false := by
        rcases mem_append.mp inside with inside | inside
        · exact absurd (spec.before _ inside rfl) (UInt32.not_lt.mpr UInt32.zero_le)
        · rcases mem_cons.mp inside with same | inside
          · rw [← same]
            rfl
          · exact not_used_of_le_zero (spec.behind _ inside rfl)
      have member : least' ∈ least :: List.replicate (back + 1) .zero := by
        rw [parts]
        simp
      rcases mem_cons.mp member with same | member
      · rw [same, used] at unused
        exact absurd unused (by decide)
      · exact eq_of_mem_replicate member
    have passed := discardFrom_replicate (back + 1)
      (List.replicate front SetElement.zero ++ [.zero]) positive
    rw [cleared, replicate_around, ← size, if_neg (Nat.succ_ne_zero back)]
    rw [length_append, length_replicate, append_assoc] at passed
    exact passed

/-- The loop over the slots of overhead zero. -/
theorem discardFrom_zeros {positive : List SetElement}
    (nonzero : ∀ element ∈ positive, element.packetOH ≠ 0) (emptySlots : Nat)
    {zeros : List SetElement} (all : ∀ element ∈ zeros, element.packetOH = 0 ∧ element.used) :
    ∃ result, discardFrom (zeros.length + emptySlots) 0
        (zeros ++ List.replicate emptySlots .zero ++ positive) = result ++ positive ∧
      LeftOfZeros zeros emptySlots result := by
  cases zeros with
  | nil =>
    refine ⟨List.replicate emptySlots .zero, ?_, ?_⟩
    · have passed := discardFrom_unused positive (List.replicate emptySlots .zero) []
        fun element member => unused_of_mem_replicate member
      rw [length_replicate] at passed
      rw [length_nil, Nat.zero_add]
      exact passed
    · refine ⟨by simp, blank_replicate _, fun lost => absurd rfl lost.1, fun _ => ⟨?_, ?_⟩⟩
      · exact Reduces.refl (blank_replicate _)
      · exact distinct_of_unused fun element member => unused_of_mem_replicate member
  | cons head tail =>
    have zeroSlots : ∀ other ∈ head :: (tail ++ List.replicate emptySlots .zero),
        other.packetOH = 0 := by
      intro other member
      rw [← cons_append] at member
      rcases mem_append.mp member with member | member
      · exact (all other member).1
      · rw [eq_of_mem_replicate member]
        rfl
    rcases discardSameOverhead_zeros nonzero 0 (all head mem_cons_self).2 zeroSlots with
      ⟨front, least, back, parts, spec, step⟩
    have size : tail.length + emptySlots = front.length + back.length := by
      have lengths := congrArg List.length parts
      simp only [length_cons, length_append, length_replicate] at lengths
      omega
    have start : discardFrom ((head :: tail).length + emptySlots) 0
        (head :: tail ++ List.replicate emptySlots .zero ++ positive) =
        discardFrom (front.length + back.length) 1 (List.replicate front.length .zero ++
          least :: List.replicate back.length .zero ++ positive) := by
      rw [length_cons, Nat.add_right_comm, size, discardFrom]
      congr 1
    rw [start]
    cases leastUsed : least.used with
    | false =>
      -- An empty slot was found, and all slots are cleared.
      have lost : ZerosLost (head :: tail) emptySlots := by
        refine ⟨cons_ne_nil _ _, .inl (Nat.pos_of_ne_zero ?_)⟩
        rintro rfl
        rw [replicate_zero, append_nil] at parts
        have used := (all least (by rw [parts]; simp)).2
        rw [leastUsed] at used
        exact absurd used (by decide)
      have leastZero : least = .zero := by
        have member : least ∈ head :: tail ++ List.replicate emptySlots .zero := by
          rw [cons_append, parts]
          simp
        rcases mem_append.mp member with member | member
        · have used := (all least member).2
          rw [leastUsed] at used
          exact absurd used (by decide)
        · exact eq_of_mem_replicate member
      have passed := discardFrom_replicate (front.length + back.length) [.zero] positive
      rw [leastZero, replicate_around]
      refine ⟨List.replicate (front.length + back.length + 1) .zero, ?_, ?_⟩
      · rw [replicate_succ]
        exact passed
      · exact leftOfZeros_replicate (by rw [← size, length_cons]; omega) lost
    | true =>
      have full : emptySlots = 0 := by
        apply Nat.eq_zero_of_not_pos
        intro some
        have inside : zero ∈ front ++ least :: back := by
          rw [← parts]
          simp [Nat.ne_of_gt some]
        rcases mem_append.mp inside with inside | inside
        · exact absurd (spec.before _ inside rfl) (UInt32.not_lt.mpr UInt32.zero_le)
        · rcases mem_cons.mp inside with same | inside
          · rw [← same] at leastUsed
            exact absurd leastUsed (by decide)
          · rw [not_used_of_le_zero (spec.behind _ inside rfl)] at leastUsed
            exact absurd leastUsed (by decide)
      subst full
      rw [replicate_zero, append_nil] at parts
      rw [parts] at all ⊢
      cases front with
      | nil =>
        have passed := discardFrom_replicate back.length [least] positive
        have left := leftOfZeros_single spec all (.inl rfl)
        rw [length_nil, Nat.zero_add]
        exact ⟨least :: List.replicate back.length .zero, passed, left⟩
      | cons first front =>
        have passed := discardFrom_replicate front.length [.zero]
          (least :: List.replicate back.length .zero ++ positive)
        have last := discardFrom_least nonzero (front.length + 1) leastUsed spec.same
          back.length
        have run : discardFrom ((first :: front).length + back.length) 1
            (List.replicate (first :: front).length .zero ++
              least :: List.replicate back.length .zero ++ positive) =
            discardFrom (back.length + 1) (front.length + 1)
              (List.replicate (front.length + 1) .zero ++
                (least :: List.replicate back.length .zero ++ positive)) := by
          rw [length_cons, Nat.add_assoc, Nat.add_comm 1 back.length, discardFrom_add,
            Nat.add_comm 1 front.length, append_assoc]
          congr 1
        rw [run, last]
        split
        · next none =>
            have backNil := length_eq_zero_iff.mp none
            have left := leftOfZeros_single spec all (.inr backNil)
            exact ⟨_, (append_assoc _ _ _).symm, left⟩
        · next some =>
            refine ⟨_, (append_assoc _ _ _).symm, ?_⟩
            rw [replicate_around]
            apply leftOfZeros_replicate
            · rw [length_append, length_cons, length_cons]
              omega
            · refine ⟨by simp, .inr ⟨first :: front, least, back, rfl, by simp, ?_, ?_, ?_⟩⟩
              · rintro rfl
                exact some rfl
              · exact fun element member => spec.before element member
                  (all element (mem_append_left _ member)).1
              · exact fun element member => spec.behind element member
                  (all element (by simp [member])).1

/-! ## Step 2 -/

def zerosOf (candidates : List SetElement) : List SetElement :=
  candidates.filter fun element => element.packetOH = 0

/-- What steps 1 and 2 leave of the candidates. -/
structure LeftCandidates (candidates : List SetElement) (emptySlots : Nat)
    (slots : List SetElement) : Prop where
  length : slots.length = candidates.length + emptySlots
  blank : Blank slots
  increasing : (slots.filter used).Pairwise
    fun first second => first.packetOH < second.packetOH
  mem : ∀ element ∈ slots, element.used → element ∈ candidates
  bounded : ∀ candidate ∈ candidates,
    (ZerosLost (zerosOf candidates) emptySlots → candidate.packetOH ≠ 0) →
      ∃ element ∈ slots, element.used ∧ element.packetOH = candidate.packetOH ∧
        element.tmmbr ≤ candidate.tmmbr
  lost : ZerosLost (zerosOf candidates) emptySlots →
    ∀ element ∈ slots, element.used → element.packetOH ≠ 0

theorem distinct_append {first second : List SetElement} (firstDistinct : Distinct first)
    (secondDistinct : Distinct second) (apart : ∀ element ∈ first, element.used →
      ∀ other ∈ second, other.used → element.packetOH ≠ other.packetOH) :
    Distinct (first ++ second) := by
  rw [Distinct, filter_append, pairwise_append]
  refine ⟨firstDistinct, secondDistinct, fun element member other inside => ?_⟩
  rcases mem_filter.mp member with ⟨member, used⟩
  rcases mem_filter.mp inside with ⟨inside, otherUsed⟩
  exact apart element member used other inside otherUsed

section

variable {zeros result : List SetElement} {emptySlots : Nat}
  (left : LeftOfZeros zeros emptySlots result)

include left

theorem LeftOfZeros.packetOH (all : ∀ element ∈ zeros, element.packetOH = 0) :
    ∀ element ∈ result, element.packetOH = 0 := by
  intro element member
  cases used : element.used with
  | false => exact congrArg SetElement.packetOH (left.blank element member used)
  | true =>
    by_cases lost : ZerosLost zeros emptySlots
    · rw [left.lost lost element member] at used
      exact absurd used (by decide)
    · rcases mem_append.mp ((left.left lost).1.mem member used) with inside | inside
      · exact all element inside
      · rw [eq_of_mem_replicate inside]
        rfl

theorem LeftOfZeros.sublist : (result.filter used).Sublist
      ((zeros ++ List.replicate emptySlots zero).filter used) := by
  by_cases lost : ZerosLost zeros emptySlots
  · rw [filter_eq_nil_iff.mpr fun element member => by
      rw [left.lost lost element member]; decide]
    exact nil_sublist _
  · exact (left.left lost).1.sublist

theorem LeftOfZeros.distinct : Distinct result := by
  by_cases lost : ZerosLost zeros emptySlots
  · exact distinct_of_unused (left.lost lost)
  · exact (left.left lost).2

end

theorem blank_candidateSlots {candidates : List SetElement}
    (used : ∀ element ∈ candidates, element.used) (emptySlots : Nat) :
    Blank (candidates ++ List.replicate emptySlots .zero) := by
  intro element member unused
  rcases mem_append.mp member with member | member
  · exact absurd (used element member) (by rw [unused]; decide)
  · exact eq_of_mem_replicate member

theorem sortByOverhead_candidateSlots (candidates : List SetElement) (emptySlots : Nat) :
    ∃ rest, sortByOverhead (candidates ++ List.replicate emptySlots .zero) =
        zerosOf candidates ++ List.replicate emptySlots .zero ++ rest ∧
      ∀ element ∈ rest, element.packetOH ≠ 0 := by
  rcases sortByOverhead_zeros (candidates ++ List.replicate emptySlots .zero) with
    ⟨rest, parts, nonzero⟩
  refine ⟨rest, ?_, nonzero⟩
  rw [parts, filter_append, filter_replicate]
  rfl

/-- Steps 1 and 2. -/
theorem discardHigherBitRates_sortByOverhead {candidates : List SetElement}
    (used : ∀ element ∈ candidates, element.used) (emptySlots : Nat) :
    LeftCandidates candidates emptySlots (discardHigherBitRates
      (sortByOverhead (candidates ++ List.replicate emptySlots .zero))) := by
  let slots := candidates ++ List.replicate emptySlots zero
  have perm : (sortByOverhead slots).Perm slots := sortByOverhead_perm slots
  have sorted := sortByOverhead_pairwise slots
  have slotsBlank : Blank slots := blank_candidateSlots used emptySlots
  rcases sortByOverhead_candidateSlots candidates emptySlots with ⟨rest, parts, nonzero⟩
  change sortByOverhead slots = _ at parts
  have zeros : ∀ element ∈ zerosOf candidates, element.packetOH = 0 ∧ element.used :=
    fun element member => ⟨by simpa using of_mem_filter member,
      used element (mem_of_mem_filter member)⟩
  have inSlots : ∀ element ∈ rest, element ∈ slots := fun element member =>
    perm.mem_iff.mp (by rw [parts]; exact mem_append_right _ member)
  rcases discardFrom_zeros nonzero emptySlots zeros with ⟨first, firstRun, left⟩
  have firstZero := left.packetOH fun element member => (zeros element member).1
  rcases discardFrom_reduces rest.length first rest rfl
      (fun element member => slotsBlank element (inSlots element member))
      (fun element member _ => nonzero element member)
      (fun other member candidate inside _ => by
        rw [firstZero other member]; exact (nonzero candidate inside).symm) with
    ⟨second, secondRun, reduces, distinct⟩
  have run : discardHigherBitRates (sortByOverhead slots) = first ++ second := by
    have size : (sortByOverhead slots).length =
        (zerosOf candidates).length + emptySlots + rest.length := by
      rw [parts, length_append, length_append, length_replicate]
    rw [discardHigherBitRates, size, discardFrom_add, parts, firstRun, Nat.zero_add, ← left.length]
    exact secondRun
  have secondNonzero : ∀ element ∈ second, element.used → element.packetOH ≠ 0 :=
    fun element member elementUsed => nonzero element (reduces.mem member elementUsed)
  have allDistinct : Distinct (first ++ second) := by
    apply distinct_append left.distinct distinct
    intro element member _ other inside otherUsed same
    exact secondNonzero other inside otherUsed (same.symm.trans (firstZero element member))
  have sublist : ((first ++ second).filter SetElement.used).Sublist
      ((sortByOverhead slots).filter SetElement.used) := by
    rw [parts, filter_append, filter_append]
    exact left.sublist.append reduces.sublist
  change LeftCandidates candidates emptySlots (discardHigherBitRates (sortByOverhead slots))
  rw [run]
  refine ⟨?_, ?_, ?_, ?_, ?_, ?_⟩
  · have size := perm.length_eq
    rw [parts] at size
    rw [length_append, left.length, reduces.length]
    simp only [slots, length_append, length_replicate] at size
    omega
  · intro element member
    rcases mem_append.mp member with member | member
    · exact left.blank element member
    · exact reduces.blank element member
  · have ordered := (sorted.sublist filter_sublist).sublist sublist
    apply (ordered.and allDistinct).imp
    exact fun both => UInt32.lt_of_le_of_ne both.1 both.2
  · intro element member elementUsed
    have inside := sublist.subset (mem_filter.mpr ⟨member, elementUsed⟩)
    rcases mem_append.mp (perm.mem_iff.mp (mem_of_mem_filter inside)) with inside | inside
    · exact inside
    · rw [unused_of_mem_replicate inside] at elementUsed
      exact absurd elementUsed (by decide)
  · intro candidate member stays
    have inside := perm.mem_iff.mpr (mem_append_left _ member)
    rw [parts] at inside
    rcases mem_append.mp inside with inside | inside
    · have kept : ¬ ZerosLost (zerosOf candidates) emptySlots := by
        intro lost
        apply stays lost
        rcases mem_append.mp inside with inside | inside
        · exact (zeros candidate inside).1
        · rw [eq_of_mem_replicate inside]
          rfl
      rcases (left.left kept).1.bounded candidate inside (used candidate member) with
        ⟨element, elementIn, spec⟩
      exact ⟨element, mem_append_left _ elementIn, spec⟩
    · rcases reduces.bounded candidate inside (used candidate member) with
        ⟨element, elementIn, spec⟩
      exact ⟨element, mem_append_right _ elementIn, spec⟩
  · intro lost element member elementUsed
    rcases mem_append.mp member with member | member
    · rw [left.lost lost element member] at elementUsed
      exact absurd elementUsed (by decide)
    · exact secondNonzero element member elementUsed

section Left

variable {candidates slots : List SetElement} {emptySlots : Nat}
  (left : LeftCandidates candidates emptySlots slots)

include left

theorem LeftCandidates.nodup : ((slots.filter used).map packetOH).Nodup := by
  rw [List.Nodup, pairwise_map]
  exact left.increasing.imp fun lower => UInt32.ne_of_lt lower

theorem LeftCandidates.packetOH_mem {packetOH : UInt32}
    (member : packetOH ∈ (slots.filter SetElement.used).map SetElement.packetOH) :
    packetOH ∈ candidates.map SetElement.packetOH ∧
      (ZerosLost (zerosOf candidates) emptySlots → packetOH ≠ 0) := by
  rcases List.mem_map.mp member with ⟨element, inside, rfl⟩
  rcases mem_filter.mp inside with ⟨inside, used⟩
  exact ⟨List.mem_map_of_mem (left.mem element inside used),
    fun lost => left.lost lost element inside used⟩

theorem LeftCandidates.length_filter_le :
    (slots.filter used).length ≤ candidates.length := by
  have subperm := subperm_of_subset left.nodup fun packetOH member => (left.packetOH_mem member).1
  simpa using subperm.length_le

/-- No candidate has been cleared exactly if no two share an overhead, and those of overhead zero
are not lost. -/
theorem LeftCandidates.length_filter_eq_iff :
    (slots.filter SetElement.used).length = candidates.length ↔
      (candidates.map SetElement.packetOH).Nodup ∧ ¬ ZerosLost (zerosOf candidates) emptySlots := by
  constructor
  · intro same
    have subperm := subperm_of_subset left.nodup fun packetOH member => (left.packetOH_mem member).1
    have perm := subperm.perm_of_length_le (by simp [same])
    refine ⟨perm.nodup_iff.mp left.nodup, fun lost => ?_⟩
    rcases exists_mem_of_ne_nil _ lost.1 with ⟨zero, member⟩
    have isZero : zero.packetOH = 0 := by simpa using of_mem_filter member
    have inside := perm.mem_iff.mpr (List.mem_map_of_mem (mem_of_mem_filter member))
    exact (left.packetOH_mem inside).2 lost isZero
  · rintro ⟨nodup, kept⟩
    apply Nat.le_antisymm left.length_filter_le
    have subset : candidates.map SetElement.packetOH ⊆
        (slots.filter SetElement.used).map SetElement.packetOH := by
      intro packetOH member
      rcases List.mem_map.mp member with ⟨candidate, inside, rfl⟩
      rcases left.bounded candidate inside fun lost => absurd lost kept with
        ⟨element, elementIn, used, same, _⟩
      exact same ▸ List.mem_map_of_mem (mem_filter.mpr ⟨elementIn, used⟩)
    simpa using (subperm_of_subset nodup subset).length_le

end Left

end ZyWebRtc.Rtcp
