import Mathlib.Order.Defs.LinearOrder
import Mathlib.Tactic

namespace ZyWebRtc.PriorityQueue

/-! A priority queue as the list of its elements. The order of the list says nothing: the element
that is taken is a greatest one. -/

open List

section

variable {Element : Type*} (less : Element → Element → Bool)

/-- The element on top, and the others. -/
def extract : (elements : List Element) → Option (Element × List Element)
  | [] => none
  | element :: rest =>
    match extract rest with
    | none => some (element, [])
    | some (top, others) =>
      if less element top then some (top, element :: others) else some (element, top :: others)

/-- Takes the element on top while there is one that is due, at most so many times. -/
def popWhile (due : Element → Bool) : (count : Nat) → (elements : List Element) →
    List Element × List Element
  | 0, elements => ([], elements)
  | count + 1, elements =>
    match extract less elements with
    | none => ([], elements)
    | some (top, others) =>
      if due top then
        let (popped, left) := popWhile due count others
        (top :: popped, left)
      else ([], elements)

end

section

variable {Element Key : Type*} {less : Element → Element → Bool} {elements : List Element}

theorem extract_eq_none_iff : extract less elements = none ↔ elements = [] := by
  cases elements with
  | nil => exact ⟨fun _ => rfl, fun _ => rfl⟩
  | cons element rest =>
    rw [extract]
    refine ⟨fun none => ?_, fun empty => by cases empty⟩
    cases extracted : extract less rest with
    | none =>
      rw [extracted] at none
      cases none
    | some result =>
      rw [extracted] at none
      dsimp only at none
      split_ifs at none

theorem extract_perm {top : Element} {others : List Element}
    (extracted : extract less elements = some (top, others)) :
    elements.Perm (top :: others) := by
  induction elements generalizing top others with
  | nil => cases extracted
  | cons element rest induction =>
    rw [extract] at extracted
    cases restExtracted : extract less rest with
    | none =>
      rw [restExtracted] at extracted
      cases extracted
      rw [extract_eq_none_iff.mp restExtracted]
    | some result =>
      have perm := induction restExtracted
      rw [restExtracted] at extracted
      dsimp only at extracted
      split_ifs at extracted
      · cases extracted
        exact (perm.cons element).trans (.swap _ _ _)
      · cases extracted
        exact perm.cons element

/-- The comparison puts elements with a smaller key on top. -/
def Follows [LinearOrder Key] (less : Element → Element → Bool) (key : Element → Key)
    (elements : List Element) : Prop :=
  ∀ first ∈ elements, ∀ second ∈ elements, less first second = true ↔ key second < key first

variable [LinearOrder Key] {key : Element → Key}

theorem Follows.subset {fewer : List Element} (follows : Follows less key elements)
    (subset : fewer ⊆ elements) : Follows less key fewer :=
  fun first firstMember second secondMember =>
    follows first (subset firstMember) second (subset secondMember)

theorem extract_least {top : Element} {others : List Element}
    (follows : Follows less key elements)
    (extracted : extract less elements = some (top, others)) :
    ∀ other ∈ others, key top ≤ key other := by
  induction elements generalizing top others with
  | nil => cases extracted
  | cons element rest induction =>
    rw [extract] at extracted
    cases restExtracted : extract less rest with
    | none =>
      rw [restExtracted] at extracted
      cases extracted
      exact fun other member => by cases member
    | some result =>
      rcases result with ⟨restTop, restOthers⟩
      have least := induction (follows.subset (subset_cons_self element rest)) restExtracted
      have inside : restTop ∈ rest := (extract_perm restExtracted).mem_iff.mpr mem_cons_self
      have compared :=
        follows element mem_cons_self restTop (mem_cons_of_mem _ inside)
      rw [restExtracted] at extracted
      dsimp only at extracted
      split_ifs at extracted with lessTop
      · cases extracted
        exact forall_mem_cons.mpr ⟨(compared.mp lessTop).le, least⟩
      · cases extracted
        have before : key element ≤ key restTop :=
          not_lt.mp fun above => lessTop (compared.mpr above)
        exact forall_mem_cons.mpr
          ⟨before, fun other member => before.trans (least other member)⟩

/-- Every element that is due is taken, in the order of the keys. -/
structure Popped (key : Element → Key) (due : Element → Bool) (elements popped left : List Element) :
    Prop where
  perm : elements.Perm (popped ++ left)
  sorted : popped.Pairwise fun first second => key first ≤ key second
  before : ∀ first ∈ popped, ∀ second ∈ left, key first ≤ key second
  isDue : ∀ element ∈ popped, due element = true
  notDue : ∀ element ∈ left, due element = false

theorem Popped.none {due : Element → Bool} (notDue : ∀ element ∈ elements, due element = false) :
    Popped key due elements [] elements where
  perm := .refl _
  sorted := .nil
  before := fun _ member => by cases member
  isDue := fun _ member => by cases member
  notDue := notDue

theorem popWhile_popped {due : Element → Bool} (follows : Follows less key elements)
    (dueFirst : ∀ first ∈ elements, ∀ second ∈ elements, key first ≤ key second →
      due second = true → due first = true) {count : Nat} (enough : elements.length ≤ count) :
    Popped key due elements (popWhile less due count elements).1
      (popWhile less due count elements).2 := by
  induction count generalizing elements with
  | zero =>
    rw [length_eq_zero_iff.mp (Nat.le_zero.mp enough)]
    exact .none fun _ member => by cases member
  | succ count induction =>
    rw [popWhile]
    cases extracted : extract less elements with
    | none =>
      rw [extract_eq_none_iff.mp extracted]
      exact .none fun _ member => by cases member
    | some result =>
      rcases result with ⟨top, others⟩
      have perm := extract_perm extracted
      have least := extract_least follows extracted
      have subset : others ⊆ elements :=
        fun other member => perm.mem_iff.mpr (mem_cons_of_mem top member)
      have topInside : top ∈ elements := perm.mem_iff.mpr mem_cons_self
      have length : others.length ≤ count := by
        have same := perm.length_eq
        rw [length_cons] at same
        omega
      dsimp only
      split_ifs with isDue
      · have rest := induction (follows.subset subset)
          (fun first firstMember second secondMember =>
            dueFirst first (subset firstMember) second (subset secondMember)) length
        have leastOfAll := fun other member => least other (rest.perm.mem_iff.mpr member)
        refine ⟨perm.trans (rest.perm.cons top), ?_, ?_, ?_, rest.notDue⟩
        · exact pairwise_cons.mpr
            ⟨fun other member => leastOfAll other (mem_append_left _ member), rest.sorted⟩
        · exact forall_mem_cons.mpr
            ⟨fun other member => leastOfAll other (mem_append_right _ member), rest.before⟩
        · exact forall_mem_cons.mpr ⟨isDue, rest.isDue⟩
      · refine .none fun element member => ?_
        by_contra elementDue
        rw [Bool.not_eq_false] at elementDue
        rcases mem_cons.mp (perm.mem_iff.mp member) with rfl | other
        · exact isDue elementDue
        · exact isDue (dueFirst top topInside element member (least element other) elementDue)

end

end ZyWebRtc.PriorityQueue
