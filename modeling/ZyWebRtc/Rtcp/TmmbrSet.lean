import Mathlib.Tactic

namespace ZyWebRtc.Rtcp

/-! `TMMBRSet`: a vector of allocated entries, the first `lengthOfSet` of which are in
use. -/

open List

structure SetElement where
  tmmbr : UInt32
  packetOH : UInt32
  ssrc : UInt32
  deriving DecidableEq

def SetElement.zero : SetElement := { tmmbr := 0, packetOH := 0, ssrc := 0 }

/-- The allocated size is the length of `data`. -/
structure TMMBRSet where
  data : List SetElement
  lengthOfSet : Nat
  deriving DecidableEq

namespace TMMBRSet

def empty : TMMBRSet := { data := [], lengthOfSet := 0 }

section

variable (set : TMMBRSet)

def sizeOfSet : Nat := set.data.length

def entries : List SetElement := set.data.take set.lengthOfSet

def verifyAndAllocateSet (minimumSize : Nat) (set : TMMBRSet) : TMMBRSet :=
  { data := List.replicate (max minimumSize set.sizeOfSet) .zero, lengthOfSet := 0 }

def verifyAndAllocateSetKeepingData (minimumSize : Nat) (set : TMMBRSet) : TMMBRSet :=
  { set with data := set.data ++ List.replicate (minimumSize - set.sizeOfSet) .zero }

def clearSet : TMMBRSet := { set with lengthOfSet := 0 }

def setEntry (index : Nat) (element : SetElement) (set : TMMBRSet) : Option TMMBRSet :=
  if index < set.sizeOfSet then
    some { data := set.data.set index element, lengthOfSet := max set.lengthOfSet (index + 1) }
  else none

def addEntry (element : SetElement) (set : TMMBRSet) : Option TMMBRSet :=
  set.setEntry set.lengthOfSet element

/-- The entries behind move down, and the vector keeps its size. -/
def removeEntry (sourceIdx : Nat) (set : TMMBRSet) : Option TMMBRSet :=
  if sourceIdx < set.lengthOfSet then
    some {
      data := (set.data.eraseIdx sourceIdx).takeD set.sizeOfSet .zero
      lengthOfSet := set.lengthOfSet - 1 }
  else none

/-! ## The entries in use -/

/-- The entries in use are allocated. -/
def Allocated : Prop := set.lengthOfSet ≤ set.sizeOfSet

theorem allocated_empty : empty.Allocated := Nat.le_refl 0

theorem takeD_append (front back : List SetElement) (default : SetElement) :
    ∀ count, (front ++ back).takeD (front.length + count) default =
      front ++ back.takeD count default := by
  induction front with
  | nil => exact fun count => by rw [length_nil, Nat.zero_add, nil_append, nil_append]
  | cons head rest induction =>
    intro count
    rw [length_cons, Nat.add_right_comm]
    exact congrArg (head :: ·) (induction count)

theorem clearSet_allocated : set.clearSet.Allocated := Nat.zero_le _

end

theorem addEntry_entries {set : TMMBRSet} (room : set.lengthOfSet < set.sizeOfSet)
    (element : SetElement) :
    ∃ next, set.addEntry element = some next ∧ next.Allocated ∧
      next.lengthOfSet = set.lengthOfSet + 1 ∧ next.entries = set.entries ++ [element] := by
  have length : max set.lengthOfSet (set.lengthOfSet + 1) = set.lengthOfSet + 1 :=
    Nat.max_eq_right (Nat.le_succ _)
  refine ⟨{ data := set.data.set set.lengthOfSet element, lengthOfSet := set.lengthOfSet + 1 },
    ?_, ?_, rfl, ?_⟩
  · rw [TMMBRSet.addEntry, TMMBRSet.setEntry, if_pos room, length]
  · rw [Allocated, sizeOfSet, length_set]
    exact room
  · rw [entries, take_succ_eq_append_getElem (by rw [length_set]; exact room),
      getElem_set_self, take_set, set_eq_of_length_le]
    · rfl
    · exact length_take_le _ _

section Allocated

variable {set : TMMBRSet} (allocated : set.Allocated)

include allocated

theorem Allocated.length_entries : set.entries.length = set.lengthOfSet := by
  rw [entries, length_take]
  exact Nat.min_eq_left allocated

theorem Allocated.verifyAndAllocateSetKeepingData (minimumSize : Nat) :
    (set.verifyAndAllocateSetKeepingData minimumSize).Allocated := by
  rw [Allocated, sizeOfSet, TMMBRSet.verifyAndAllocateSetKeepingData, length_append]
  exact Nat.le_add_right_of_le allocated

theorem Allocated.entries_verifyAndAllocateSetKeepingData (minimumSize : Nat) :
    (set.verifyAndAllocateSetKeepingData minimumSize).entries = set.entries :=
  take_append_of_le_length allocated

theorem Allocated.setEntry {index : Nat} (inUse : index < set.lengthOfSet)
    (element : SetElement) :
    ∃ next, set.setEntry index element = some next ∧ next.Allocated ∧
      next.lengthOfSet = set.lengthOfSet ∧ next.entries = set.entries.set index element := by
  have length : max set.lengthOfSet (index + 1) = set.lengthOfSet := Nat.max_eq_left inUse
  refine ⟨{ data := set.data.set index element, lengthOfSet := set.lengthOfSet }, ?_, ?_, rfl, ?_⟩
  · rw [TMMBRSet.setEntry, if_pos (Nat.lt_of_lt_of_le inUse allocated), length]
  · rw [Allocated, sizeOfSet, length_set]
    exact allocated
  · exact take_set

theorem Allocated.removeEntry {sourceIdx : Nat} (inUse : sourceIdx < set.lengthOfSet) :
    ∃ next, set.removeEntry sourceIdx = some next ∧ next.Allocated ∧
      next.lengthOfSet = set.lengthOfSet - 1 ∧ next.entries = set.entries.eraseIdx sourceIdx := by
  refine ⟨{
    data := (set.data.eraseIdx sourceIdx).takeD set.sizeOfSet .zero
    lengthOfSet := set.lengthOfSet - 1 }, if_pos inUse, ?_, rfl, ?_⟩
  · change set.lengthOfSet - 1 ≤ List.length (List.takeD _ _ _)
    rw [takeD_length]
    exact (Nat.sub_le _ _).trans allocated
  · have count : (set.data.take set.lengthOfSet).length = set.lengthOfSet :=
      allocated.length_entries
    have used : sourceIdx < (set.data.take set.lengthOfSet).length := by
      rw [count]
      exact inUse
    have parts : set.data.eraseIdx sourceIdx =
        (set.data.take set.lengthOfSet).eraseIdx sourceIdx ++ set.data.drop set.lengthOfSet := by
      rw [← eraseIdx_append_of_lt_length used, take_append_drop]
    have length : ((set.data.take set.lengthOfSet).eraseIdx sourceIdx).length =
        set.lengthOfSet - 1 := by
      rw [length_eraseIdx_of_lt used, count]
    have size : set.sizeOfSet = ((set.data.take set.lengthOfSet).eraseIdx sourceIdx).length +
        (set.sizeOfSet - (set.lengthOfSet - 1)) := by
      rw [length]
      exact (Nat.add_sub_cancel' ((Nat.sub_le _ _).trans allocated)).symm
    rw [parts, size, takeD_append]
    exact take_left' length

end Allocated

end TMMBRSet

end ZyWebRtc.Rtcp
