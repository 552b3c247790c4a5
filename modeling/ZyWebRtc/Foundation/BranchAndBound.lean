import Mathlib.Tactic

namespace ZyWebRtc.BranchAndBound

/-! Depth-first search for a cheapest leaf of a binary tree that is built while it is searched. Of
two children the cheaper one is searched first, and the other one only when its own cost, taken as
an estimate for its leaves, does not exceed the cost of the leaf that was found. -/

variable {Node Cost : Type} [LinearOrder Cost] (children : Node → Option Node × Option Node)
  (cost : Node → Cost)

/-- The search down to some depth. -/
def search : (depth : Nat) → Node → Node
  | 0, node => node
  | depth + 1, node =>
    match children node with
    | (none, none) => node
    | (none, some right) => search depth right
    | (some left, none) => search depth left
    | (some left, some right) =>
      let first := if cost left ≤ cost right then left else right
      let second := if cost left ≤ cost right then right else left
      let found := search depth first
      if cost second ≤ cost found then
        let other := search depth second
        if cost other < cost found then other else found
      else found

/-- A child of a node. -/
def Child (node child : Node) : Prop :=
  (children node).1 = some child ∨ (children node).2 = some child

/-- `Leaf children depth node leaf`: a node without children that is reached in at most `depth`
steps. -/
inductive Leaf : Nat → Node → Node → Prop
  | here {depth node} : children node = (none, none) → Leaf depth node node
  | descend {depth node child leaf} : Child children node child → Leaf depth child leaf →
      Leaf (depth + 1) node leaf

/-- The tree below a node has at most this depth. -/
def Within : Nat → Node → Prop
  | 0, node => children node = (none, none)
  | depth + 1, node => ∀ child, Child children node child → Within depth child

variable {children cost}

theorem search_leaf : ∀ (depth : Nat) (node : Node), Within children depth node →
    Leaf children depth node (search children cost depth node) := by
  intro depth
  induction depth with
  | zero => exact fun node within => .here within
  | succ depth induction =>
    intro node within
    rw [search]
    rcases split : children node with ⟨_ | left, _ | right⟩
    · exact .here split
    · have child : Child children node right := .inr (by rw [split])
      exact .descend child (induction right (within right child))
    · have child : Child children node left := .inl (by rw [split])
      exact .descend child (induction left (within left child))
    · have leftChild : Child children node left := .inl (by rw [split])
      have rightChild : Child children node right := .inr (by rw [split])
      have leftLeaf := Leaf.descend leftChild (induction left (within left leftChild))
      have rightLeaf := Leaf.descend rightChild (induction right (within right rightChild))
      dsimp only
      split_ifs <;> assumption

/-- Among the leaves below a node the search finds one of minimal cost, when from there on no child
costs less than its parent. -/
theorem search_minimal {Good : Node → Prop}
    (kept : ∀ node child, Good node → Child children node child → Good child)
    (monotone : ∀ node child, Good node → Child children node child → cost node ≤ cost child) :
    ∀ (depth : Nat) (node leaf : Node), Good node → Leaf children depth node leaf →
      cost (search children cost depth node) ≤ cost leaf := by
  have estimate : ∀ {depth node leaf}, Leaf children depth node leaf → Good node →
      cost node ≤ cost leaf := by
    intro depth node leaf reached
    induction reached with
    | here _ => exact fun _ => le_rfl
    | descend step _ induction =>
      intro good
      exact (monotone _ _ good step).trans (induction (kept _ _ good step))
  intro depth
  induction depth with
  | zero =>
    intro node leaf good reached
    cases reached
    exact le_rfl
  | succ depth induction =>
    intro node leaf good reached
    rw [search]
    cases reached with
    | here leafHere => rw [leafHere]
    | descend step reached =>
      rename_i between
      have found := induction between leaf (kept _ _ good step) reached
      have bound := estimate reached (kept _ _ good step)
      rcases split : children node with ⟨_ | left, _ | right⟩ <;>
        rw [Child, split] at step
      · rcases step with none | none <;> cases none
      · rcases step with none | same
        · cases none
        · cases same
          exact found
      · rcases step with same | none
        · cases same
          exact found
        · cases none
      · -- Either the leaf is below the child that was searched, or its estimate is above.
        rcases step with same | same <;> cases same <;> dsimp only <;> split_ifs <;> order

end ZyWebRtc.BranchAndBound
