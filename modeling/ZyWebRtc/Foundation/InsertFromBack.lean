import Mathlib.Data.List.DropRight
import Mathlib.Data.List.Perm.Lattice
import Mathlib.Order.Defs.LinearOrder
import Mathlib.Tactic

namespace ZyWebRtc

/-! Insertion into a sorted list whose place is searched from the back. -/

open List

universe u v

variable {Element : Type u} {Key : Type v}

/-- The new element goes behind the last one that it is not before. -/
def insertFromBack (isBefore : Element → Element → Bool) (new : Element) (list : List Element) :
    List Element :=
  list.rdropWhile (isBefore new) ++ new :: list.rtakeWhile (isBefore new)

section

variable {isBefore : Element → Element → Bool} {new : Element} {list : List Element}

theorem insertFromBack_perm : (insertFromBack isBefore new list).Perm (new :: list) := by
  apply perm_middle.trans
  apply List.Perm.cons
  rw [rdropWhile_append_rtakeWhile]

theorem mem_insertFromBack {element : Element} :
    element ∈ insertFromBack isBefore new list ↔ element = new ∨ element ∈ list := by
  rw [insertFromBack_perm.mem_iff, mem_cons]

/-- The list stays sorted by a key when the search compares by it. -/
theorem insertFromBack_sorted [LinearOrder Key] {key : Element → Key}
    (byKey : ∀ element ∈ list, isBefore new element = true ↔ key new < key element)
    (sorted : list.Pairwise fun first second => key first ≤ key second) :
    (insertFromBack isBefore new list).Pairwise fun first second => key first ≤ key second := by
  have parts : list.rdropWhile (isBefore new) ++ list.rtakeWhile (isBefore new) = list :=
    rdropWhile_append_rtakeWhile
  have halves := sorted
  rw [← parts, pairwise_append] at halves
  rcases halves with ⟨front, back, across⟩
  have behind : ∀ element ∈ list.rtakeWhile (isBefore new), key new < key element := by
    intro element member
    apply (byKey element ((rtakeWhile_suffix _ _).mem member)).mp
    exact mem_rtakeWhile_imp member
  -- what is in front is not after the last one in front, where the search ended
  have before : ∀ element ∈ list.rdropWhile (isBefore new), key element ≤ key new := by
    intro element member
    have nonempty := ne_nil_of_mem member
    have stopped := rdropWhile_last_not (isBefore new) list nonempty
    have lastIn := ( rdropWhile_prefix (isBefore new) list).mem (getLast_mem nonempty)
    rw [byKey _ lastIn, not_lt] at stopped
    apply le_trans _ stopped
    rw [← dropLast_append_getLast nonempty, pairwise_append] at front
    rw [← dropLast_append_getLast nonempty, mem_append, mem_singleton] at member
    rcases member with earlier | same
    · exact front.2.2 element earlier _ mem_cons_self
    · exact (congrArg key same).le
  rw [insertFromBack, pairwise_append, pairwise_cons]
  refine ⟨front, ⟨fun element member => (behind element member).le, back⟩, ?_⟩
  intro first firstIn second secondIn
  rcases mem_cons.mp secondIn with rfl | later
  · exact before first firstIn
  · exact across first firstIn second later

end

/-- A list is determined by its elements when it is sorted by a key that tells them apart. -/
theorem eq_of_perm_of_sorted [PartialOrder Key] {key : Element → Key}
    {first second : List Element} (perm : first.Perm second)
    (firstSorted : first.Pairwise fun earlier later => key earlier ≤ key later)
    (secondSorted : second.Pairwise fun earlier later => key earlier ≤ key later)
    (apart : ∀ one ∈ first, ∀ other ∈ first, key one = key other → one = other) :
    first = second := by
  apply perm.eq_of_pairwise _ firstSorted secondSorted
  intro one other oneIn otherIn below above
  exact apart one oneIn other (perm.mem_iff.mpr otherIn) (le_antisymm below above)

end ZyWebRtc
