import Mathlib.Data.Tree.Basic
import Mathlib.Order.RelClasses
import Mathlib.Tactic

namespace ZyWebRtc.OrderedMap

/-! Maps that are kept as binary search trees under a comparison of their keys.

The operations are defined for every comparison. What they find is known when the comparison
is a strict weak order on the keys that are used: the entry with an equivalent key. Nothing is
said about how a tree is balanced; two trees with the same entries in the same order are two
shapes of one map. -/

open List

universe u v

variable {Key : Type u} {Value : Type v}

/-- The entries in the order of a traversal. -/
def entries : BinaryTree (Key × Value) → List (Key × Value)
  | .nil => []
  | .node entry left right => entries left ++ entry :: entries right

variable (less : Key → Key → Prop)

def Sorted (tree : BinaryTree (Key × Value)) : Prop :=
  (entries tree).Pairwise fun first second => less first.1 second.1

/-! ## Strict weak orders -/

section Ordered

variable {less} {keys : Set Key}
  [order : IsStrictWeakOrder keys fun first second => less first second]

section

variable {first second third : Key} (firstIn : first ∈ keys) (secondIn : second ∈ keys)
  (thirdIn : third ∈ keys) (before : less first second)

include firstIn secondIn thirdIn before

theorem less_trans (after : less second third) :
    less first third :=
  order.trans ⟨first, firstIn⟩ ⟨second, secondIn⟩ ⟨third, thirdIn⟩ before after

theorem less_of_less_of_not_less (notLess : ¬ less third second) : less first third := by
  by_contra unrelated
  by_cases backwards : less third first
  · exact notLess (less_trans thirdIn firstIn secondIn backwards before)
  · by_cases onwards : less second third
    · exact unrelated (less_trans firstIn secondIn thirdIn before onwards)
    · exact (order.incomp_trans ⟨first, firstIn⟩ ⟨third, thirdIn⟩ ⟨second, secondIn⟩
        ⟨unrelated, backwards⟩ ⟨notLess, onwards⟩).1 before

end

theorem Sorted.partitioned {tree : BinaryTree (Key × Value)} (sorted : Sorted less tree)
    (inside : ∀ entry ∈ entries tree, entry.1 ∈ keys) {key : Key} (keyIn : key ∈ keys) :
    (entries tree).Pairwise fun first second => less second.1 key → less first.1 key := by
  apply List.Pairwise.imp_of_mem _ sorted
  intro first second firstMember secondMember before smaller
  exact less_trans (inside first firstMember) (inside second secondMember) keyIn before smaller

end Ordered

/-! ## Operations -/

section Operations

variable [DecidableRel less]

/-- The descent of `lower_bound`: the last entry on the way that is not less than the key. -/
def lowerBound (key : Key) :
    BinaryTree (Key × Value) → Option (Key × Value) → Option (Key × Value)
  | .nil, best => best
  | .node entry left right, best =>
    if less entry.1 key then lowerBound key right best
    else lowerBound key left (some entry)

def find (key : Key) (tree : BinaryTree (Key × Value)) : Option (Key × Value) :=
  match lowerBound less key tree none with
  | none => none
  | some entry => if less key entry.1 then none else some entry

/-- A new leaf at the end of the descent. -/
def insert (key : Key) (value : Value) :
    BinaryTree (Key × Value) → BinaryTree (Key × Value)
  | .nil => .node (key, value) .nil .nil
  | .node entry left right =>
    if less entry.1 key then .node entry left (insert key value right)
    else .node entry (insert key value left) right

/-! ## What a descent does under any comparison -/

theorem entries_insert_perm (key : Key) (value : Value) (tree : BinaryTree (Key × Value)) :
    (entries (insert less key value tree)).Perm ((key, value) :: entries tree) := by
  induction tree with
  | nil => exact List.Perm.refl _
  | node entry left right inductionLeft inductionRight =>
    rw [insert]
    by_cases smaller : less entry.1 key
    · simp only [smaller, if_true, entries]
      have swapped : (entries left ++ entry :: (key, value) :: entries right).Perm
          (entries left ++ (key, value) :: entry :: entries right) :=
        (List.Perm.swap (key, value) entry (entries right)).append_left (entries left)
      have added := (inductionRight.cons entry).append_left (entries left)
      exact added.trans (swapped.trans perm_middle)
    · simp only [smaller, if_false, entries]
      exact inductionLeft.append_right _

/-- The answer is an entry of the map, and neither its key nor the key asked for is the
smaller one. -/
theorem find_sound {key : Key} {tree : BinaryTree (Key × Value)} {entry : Key × Value}
    (found : find less key tree = some entry) :
    entry ∈ entries tree ∧ ¬ less entry.1 key ∧ ¬ less key entry.1 := by
  have descent (tree : BinaryTree (Key × Value)) (best : Option (Key × Value))
      (result : Key × Value) (bound : lowerBound less key tree best = some result) :
      (result ∈ entries tree ∧ ¬ less result.1 key) ∨ best = some result := by
    induction tree generalizing best with
    | nil => exact .inr bound
    | node entry left right inductionLeft inductionRight =>
      rw [lowerBound] at bound
      by_cases smaller : less entry.1 key
      · simp only [smaller, if_true] at bound
        rcases inductionRight best bound with ⟨member, bounded⟩ | same
        · exact .inl ⟨by simp [entries, member], bounded⟩
        · exact .inr same
      · simp only [smaller, if_false] at bound
        rcases inductionLeft (some entry) bound with ⟨member, bounded⟩ | same
        · exact .inl ⟨by simp [entries, member], bounded⟩
        · cases same
          exact .inl ⟨by simp [entries], smaller⟩
  rw [find] at found
  cases bound : lowerBound less key tree none with
  | none => simp [bound] at found
  | some result =>
    rw [bound] at found
    by_cases larger : less key result.1
    · simp [larger] at found
    · simp only [larger, if_false, Option.some.injEq] at found
      subst found
      rcases descent tree none result bound with ⟨member, bounded⟩ | absurdity
      · exact ⟨member, bounded, larger⟩
      · cases absurdity

/-- Where the smaller entries come first, the descent ends at the first of the others. -/
theorem lowerBound_eq {key : Key} {tree : BinaryTree (Key × Value)}
    (partitioned : (entries tree).Pairwise fun first second =>
      less second.1 key → less first.1 key) (best : Option (Key × Value)) :
    lowerBound less key tree best =
      ((entries tree).find? fun entry => ¬ less entry.1 key).or best := by
  induction tree generalizing best with
  | nil => rfl
  | node entry left right inductionLeft inductionRight =>
    rw [entries, pairwise_append, pairwise_cons] at partitioned
    rcases partitioned with ⟨onLeft, ⟨_, onRight⟩, across⟩
    rw [lowerBound, entries, List.find?_append]
    by_cases smaller : less entry.1 key
    · have leftSmaller :
          ((entries left).find? fun entry => ¬ less entry.1 key) = none := by
        rw [List.find?_eq_none]
        intro other member
        simpa using across other member entry mem_cons_self smaller
      simp only [smaller, if_true, leftSmaller, Option.none_or]
      rw [inductionRight onRight, List.find?_cons_of_neg (by simpa using smaller)]
    · simp only [smaller, if_false]
      rw [inductionLeft onLeft, List.find?_cons_of_pos (by simpa using smaller)]
      cases (entries left).find? fun entry => ¬ less entry.1 key <;> rfl

/-! ## What a lookup finds under a strict weak order -/

section Ordered

variable {less} {keys : Set Key}
  [order : IsStrictWeakOrder keys fun first second => less first second]

variable {tree : BinaryTree (Key × Value)} (sorted : Sorted less tree)
  (inside : ∀ entry ∈ entries tree, entry.1 ∈ keys) {key : Key} (keyIn : key ∈ keys)

include sorted inside keyIn

/-- A lookup answers with the entry whose key is equivalent. -/
theorem find_eq_some_iff {entry : Key × Value} :
    find less key tree = some entry ↔
      entry ∈ entries tree ∧ ¬ less entry.1 key ∧ ¬ less key entry.1 := by
  constructor
  · exact find_sound less
  · rintro ⟨member, notSmaller, notLarger⟩
    rw [find, lowerBound_eq less (sorted.partitioned inside keyIn), Option.or_none]
    rcases append_of_mem member with ⟨before, after, split⟩
    have first : ((entries tree).find? fun entry => ¬ less entry.1 key) = some entry := by
      rw [List.find?_eq_some_iff_append]
      refine ⟨by simpa using notSmaller, before, after, split, ?_⟩
      intro other earlier
      have otherMember : other ∈ entries tree := by
        rw [split]
        exact mem_append_left _ earlier
      have precedes : less other.1 entry.1 := by
        rw [Sorted, split, pairwise_append] at sorted
        exact sorted.2.2 other earlier entry mem_cons_self
      simpa using less_of_less_of_not_less (inside other otherMember) (inside entry member)
        keyIn precedes notLarger
    simp only [first, notLarger, if_false]

/-- The entries stay sorted when the key of a new one is comparable with all keys. -/
theorem Sorted.insert (comparable : ∀ entry ∈ entries tree, less entry.1 key ∨ less key entry.1)
    (value : Value) :
    Sorted less (insert less key value tree) := by
  induction tree with
  | nil => exact pairwise_singleton _ _
  | node entry left right inductionLeft inductionRight =>
    simp only [Sorted, entries, pairwise_append, pairwise_cons] at sorted
    rcases sorted with ⟨onLeft, ⟨beforeRight, onRight⟩, across⟩
    have leftMember {other} (member : other ∈ entries left) :
        other ∈ entries (.node entry left right) := by simp [entries, member]
    have rightMember {other} (member : other ∈ entries right) :
        other ∈ entries (.node entry left right) := by simp [entries, member]
    have rootMember : entry ∈ entries (.node entry left right) := by simp [entries]
    rw [OrderedMap.insert]
    by_cases smaller : less entry.1 key
    · simp only [smaller, if_true, Sorted, entries, pairwise_append, pairwise_cons]
      have later := inductionRight onRight (fun other member => inside other (rightMember member))
        (fun other member => comparable other (rightMember member))
      have added {other} (member : other ∈ entries (OrderedMap.insert less key value right)) :
          other = (key, value) ∨ other ∈ entries right :=
        mem_cons.mp ((entries_insert_perm less key value right).mem_iff.mp member)
      refine ⟨onLeft, ⟨?_, later⟩, ?_⟩
      · intro other member
        rcases added member with rfl | member
        · exact smaller
        · exact beforeRight other member
      · intro first firstMember second secondMember
        rcases mem_cons.mp secondMember with rfl | secondMember
        · exact across first firstMember second mem_cons_self
        rcases added secondMember with rfl | secondMember
        · exact less_trans (inside first (leftMember firstMember)) (inside entry rootMember)
            keyIn (across first firstMember entry mem_cons_self) smaller
        · exact across first firstMember second (mem_cons_of_mem _ secondMember)
    · simp only [smaller, if_false, Sorted, entries, pairwise_append, pairwise_cons]
      have larger : less key entry.1 := (comparable entry rootMember).resolve_left smaller
      have earlier := inductionLeft onLeft (fun other member => inside other (leftMember member))
        (fun other member => comparable other (leftMember member))
      refine ⟨earlier, ⟨beforeRight, onRight⟩, ?_⟩
      intro first firstMember second secondMember
      rcases mem_cons.mp
        ((entries_insert_perm less key value left).mem_iff.mp firstMember) with rfl | firstMember
      · rcases mem_cons.mp secondMember with rfl | secondMember
        · exact larger
        · exact less_trans keyIn (inside entry rootMember)
            (inside second (rightMember secondMember)) larger (beforeRight second secondMember)
      · exact across first firstMember second secondMember

end Ordered

end Operations

end ZyWebRtc.OrderedMap
