import Mathlib.Tactic

namespace ZyWebRtc.SortedMap

/-! Maps as the list of their entries in the order of the keys. -/

open List

universe u v

variable {Key : Type u} {Value : Type v} [LT Key] [DecidableLT Key] [DecidableEq Key]

/-- Put a value under a key, in place of the one that may be there. -/
def insert (key : Key) (value : Value) : List (Key × Value) → List (Key × Value)
  | [] => [(key, value)]
  | entry :: rest =>
    if key < entry.1 then (key, value) :: entry :: rest
    else if key = entry.1 then (key, value) :: rest
    else entry :: insert key value rest

def erase (key : Key) (entries : List (Key × Value)) : List (Key × Value) :=
  entries.filter fun entry => entry.1 ≠ key

theorem insert_length_le (key : Key) (value : Value) (entries : List (Key × Value)) :
    (insert key value entries).length ≤ entries.length + 1 := by
  induction entries with
  | nil => exact le_rfl
  | cons entry rest induction =>
    rw [insert]
    split
    · exact le_rfl
    split
    · exact Nat.le_succ _
    · exact Nat.succ_le_succ induction

omit [LT Key] [DecidableLT Key] in
theorem erase_length_le (key : Key) (entries : List (Key × Value)) :
    (erase key entries).length ≤ entries.length :=
  List.length_filter_le _ _

def find (key : Key) (entries : List (Key × Value)) : Option Value :=
  (entries.find? fun entry => entry.1 = key).map Prod.snd

/-! ## What is found -/

omit [LT Key] [DecidableLT Key] in
theorem mem_of_find {key : Key} {value : Value} {entries : List (Key × Value)}
    (found : find key entries = some value) : (key, value) ∈ entries := by
  rcases Option.map_eq_some_iff.mp found with ⟨entry, first, rfl⟩
  have same : entry.1 = key := by simpa using List.find?_some first
  rw [← same]
  exact List.mem_of_find?_eq_some first

omit [LT Key] [DecidableLT Key] in
theorem find_eq_none_iff {key : Key} {entries : List (Key × Value)} :
    find key entries = none ↔ ∀ entry ∈ entries, entry.1 ≠ key := by
  simp [find]

theorem mem_insert {key : Key} {value : Value} {entries : List (Key × Value)}
    {entry : Key × Value} (member : entry ∈ insert key value entries) :
    entry = (key, value) ∨ entry ∈ entries := by
  induction entries with
  | nil => exact .inl (mem_singleton.mp member)
  | cons head rest induction =>
    rw [insert] at member
    split at member
    · exact mem_cons.mp member
    split at member
    · rcases mem_cons.mp member with new | old
      · exact .inl new
      · exact .inr (mem_cons_of_mem head old)
    · rcases mem_cons.mp member with first | later
      · exact .inr (first ▸ mem_cons_self)
      · rcases induction later with new | old
        · exact .inl new
        · exact .inr (mem_cons_of_mem head old)

/-! ## Maps in order -/

def Sorted (entries : List (Key × Value)) : Prop :=
  entries.Pairwise fun first second => first.1 < second.1

section Sorted

variable [IsTrans Key fun first second => first < second]

theorem Sorted.insert [Std.Trichotomous fun first second : Key => first < second]
    {entries : List (Key × Value)} (sorted : Sorted entries) (key : Key)
    (value : Value) : Sorted (SortedMap.insert key value entries) := by
  induction entries with
  | nil => exact pairwise_singleton _ _
  | cons head rest induction =>
    rcases pairwise_cons.mp sorted with ⟨least, later⟩
    rw [SortedMap.insert]
    split
    · rename_i before
      apply pairwise_cons.mpr
      refine ⟨fun entry member => ?_, sorted⟩
      rcases mem_cons.mp member with rfl | other
      · exact before
      · exact trans_of (· < ·) before (least entry other)
    split
    · rename_i same
      apply pairwise_cons.mpr
      exact ⟨fun entry member => same ▸ least entry member, later⟩
    · rename_i notBefore different
      have after : head.1 < key := by
        rcases trichotomous_of (· < ·) key head.1 with less | equal | greater
        · exact absurd less notBefore
        · exact absurd equal different
        · exact greater
      apply pairwise_cons.mpr
      refine ⟨fun entry member => ?_, induction later⟩
      rcases mem_insert member with rfl | other
      · exact after
      · exact least entry other

/-- An insertion replaces the entry of its key. -/
theorem Sorted.mem_insert [Std.Irrefl fun first second : Key => first < second]
    {entries : List (Key × Value)} (sorted : Sorted entries) {key : Key}
    {value : Value} {entry : Key × Value} (member : entry ∈ SortedMap.insert key value entries) :
    entry = (key, value) ∨ entry ∈ entries ∧ entry.1 ≠ key := by
  induction entries with
  | nil => exact .inl (mem_singleton.mp member)
  | cons head rest induction =>
    rcases pairwise_cons.mp sorted with ⟨least, later⟩
    rw [SortedMap.insert] at member
    split at member
    · rename_i before
      rcases mem_cons.mp member with new | old
      · exact .inl new
      · refine .inr ⟨old, fun same => ?_⟩
        rcases mem_cons.mp old with rfl | other
        · exact irrefl_of (· < ·) key (same ▸ before)
        · exact irrefl_of (· < ·) key (trans_of (· < ·) before (same ▸ least entry other))
    split at member
    · rename_i equal
      rcases mem_cons.mp member with new | old
      · exact .inl new
      · refine .inr ⟨mem_cons_of_mem head old, fun same => ?_⟩
        have less := least entry old
        rw [same, equal] at less
        exact irrefl_of (· < ·) head.1 less
    · rename_i different
      rcases mem_cons.mp member with rfl | other
      · exact .inr ⟨mem_cons_self, fun same => different same.symm⟩
      · rcases induction later other with new | ⟨old, distinct⟩
        · exact .inl new
        · exact .inr ⟨mem_cons_of_mem head old, distinct⟩

end Sorted

end ZyWebRtc.SortedMap

namespace ZyWebRtc

/-- A map that its users keep from growing beyond a limit. -/
structure BoundedMap (Key : Type) (Value : Type) (limit : Nat) where
  entries : List (Key × Value)
  entries_le : entries.length ≤ limit

namespace BoundedMap

variable {Key Value : Type} {limit : Nat} [LT Key] [DecidableLT Key] [DecidableEq Key]

def empty : BoundedMap Key Value limit := { entries := [], entries_le := Nat.zero_le limit }

/-- Put a value under a key, unless the map is full. -/
def insert (key : Key) (value : Value) (map : BoundedMap Key Value limit) :
    Option (BoundedMap Key Value limit) :=
  if below : map.entries.length < limit then
    some {
      entries := SortedMap.insert key value map.entries
      entries_le := (SortedMap.insert_length_le key value map.entries).trans below }
  else none

def erase (key : Key) (map : BoundedMap Key Value limit) : BoundedMap Key Value limit where
  entries := SortedMap.erase key map.entries
  entries_le := (SortedMap.erase_length_le key map.entries).trans map.entries_le

end BoundedMap

end ZyWebRtc
