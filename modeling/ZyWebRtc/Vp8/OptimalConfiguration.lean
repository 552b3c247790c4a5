import ZyWebRtc.Vp8.PartitionAggregator

namespace ZyWebRtc.Vp8

/-! The configurations that `FindOptimalConfiguration` chooses from, and that it chooses the
cheapest one. -/

open List

/-! ## Groupings

A configuration puts consecutive partitions into groups, one for each packet. -/

def largest (prior : Int) (sizes : List Int) : Int := sizes.foldl max prior

def smallest (prior : Int) (sizes : List Int) : Int := sizes.foldl min prior

def packetSizes (groups : List (List Int)) : List Int := groups.map List.sum

/-- The spread of the sizes, with the prior ones, and the penalties. -/
def spreadCost (minSize maxSize penalty : Int) (packets : Nat) (sizes : List Int) : Int :=
  largest maxSize sizes - smallest minSize sizes + packets * penalty

/-- Groups without an empty one, of the given partitions in their order. -/
structure Grouping (sizes : List Int) where
  groups : List (List Int)
  consecutive : groups.flatten = sizes
  nonempty : ∀ group ∈ groups, group ≠ []

namespace Grouping

variable {sizes : List Int}

def Fits (maxSize : Int) (grouping : Grouping sizes) : Prop :=
  ∀ group ∈ grouping.groups, group.sum ≤ maxSize

def cost (minSize maxSize penalty : Int) (grouping : Grouping sizes) : Int :=
  spreadCost minSize maxSize penalty grouping.groups.length (packetSizes grouping.groups)

end Grouping

def packetIndices (groups : List (List Int)) : List Int :=
  groups.zipIdx.flatMap fun group => List.replicate group.1.length (group.2 : Int)

example : packetIndices [[5, 3], [4, 2]] = [0, 0, 1, 1] := by decide

def groupStarts (groups : List (List Int)) : List Bool :=
  groups.flatMap fun group => true :: List.replicate (group.length - 1) false

/-! ## Completions

What is still to be decided at a node: the partitions that continue its packet, and the groups
behind it. -/

namespace PartitionTreeNode

open BranchAndBound

variable {maxSize penalty : Int} {node child leaf : PartitionTreeNode} {depth : Nat}

structure Completes (maxSize : Int) (node : PartitionTreeNode) (extra : List Int)
    (more : List (List Int)) : Prop where
  consecutive : extra ++ more.flatten = node.sizeVector
  nonempty : ∀ group ∈ more, group ≠ []
  extraFits : node.thisSize + extra.sum ≤ maxSize
  moreFits : ∀ group ∈ more, group.sum ≤ maxSize

def completionCost (penalty : Int) (node : PartitionTreeNode) (extra : List Int)
    (more : List (List Int)) : Int :=
  spreadCost node.minParentSize node.maxParentSize penalty (node.numPackets + more.length)
    ((node.thisSize + extra.sum) :: packetSizes more)

/-- The packet starts of the partitions that are left. -/
def completionStarts (extra : List Int) (more : List (List Int)) : List Bool :=
  List.replicate extra.length false ++ groupStarts more

/-- What holds of every node that the search comes to. -/
structure Sound (maxSize : Int) (node : PartitionTreeNode) : Prop where
  nonnegative : 0 ≤ node.thisSize
  fits : node.thisSize ≤ maxSize
  sizesNonnegative : ∀ size ∈ node.sizeVector, 0 ≤ size
  sizesFit : ∀ size ∈ node.sizeVector, size ≤ maxSize
  maxNonnegative : 0 ≤ node.maxParentSize

theorem child_cases (below : Child (createChildren maxSize) node child) :
    ∃ next rest, node.sizeVector = next :: rest ∧
      ((node.thisSize + next ≤ maxSize ∧ child = { node with
          packetStart := false
          parents := node.packetStart :: node.parents
          thisSize := node.thisSize + next
          sizeVector := rest }) ∨
        (0 < node.thisSize ∧ child = {
          packetStart := true
          parents := node.packetStart :: node.parents
          thisSize := next
          sizeVector := rest
          maxParentSize := max node.maxParentSize node.thisSize
          minParentSize := min node.minParentSize node.thisSize })) := by
  rw [Child, createChildren] at below
  cases sizes : node.sizeVector with
  | nil =>
    rw [sizes] at below
    rcases below with none | none <;> cases none
  | cons next rest =>
    rw [sizes] at below
    refine ⟨next, rest, rfl, ?_⟩
    dsimp only at below
    rcases below with left | right
    · split_ifs at left with enough
      exact .inl ⟨enough, (Option.some.inj left).symm⟩
    · split_ifs at right with positive
      exact .inr ⟨positive, (Option.some.inj right).symm⟩

theorem Sound.below (sound : node.Sound maxSize)
    (below : Child (createChildren maxSize) node child) : child.Sound maxSize := by
  rcases child_cases below with ⟨next, rest, sizes, ⟨enough, rfl⟩ | ⟨positive, rfl⟩⟩
  all_goals
    have nextNonnegative := sound.sizesNonnegative next (sizes ▸ mem_cons_self)
    have nextFits := sound.sizesFit next (sizes ▸ mem_cons_self)
    have later : ∀ size ∈ rest, size ∈ node.sizeVector :=
      fun size member => sizes ▸ mem_cons_of_mem next member
    have nonnegative := sound.nonnegative
    have maxNonnegative := sound.maxNonnegative
    refine ⟨?_, ?_, fun size member => sound.sizesNonnegative size (later size member),
      fun size member => sound.sizesFit size (later size member), ?_⟩ <;> dsimp only <;> omega

theorem numPackets_left (node : PartitionTreeNode) {size : Int} {rest : List Int} :
    numPackets { node with
      packetStart := false
      parents := node.packetStart :: node.parents
      thisSize := size
      sizeVector := rest } = node.numPackets := rfl

theorem numPackets_right (node : PartitionTreeNode) {size maxSize minSize : Int}
    {rest : List Int} :
    numPackets {
      packetStart := true
      parents := node.packetStart :: node.parents
      thisSize := size
      sizeVector := rest
      maxParentSize := maxSize
      minParentSize := minSize } = node.numPackets + 1 := Nat.add_comm 1 _

theorem cost_child (penaltyNonnegative : 0 ≤ penalty) (sound : node.Sound maxSize)
    (below : Child (createChildren maxSize) node child) : cost penalty node ≤ cost penalty child := by
  rcases child_cases below with ⟨next, rest, sizes, ⟨enough, rfl⟩ | ⟨positive, rfl⟩⟩
  · have nextNonnegative := sound.sizesNonnegative next (sizes ▸ mem_cons_self)
    rw [cost, cost, numPackets_left, sizes]
    dsimp only
    rw [if_neg (cons_ne_nil next rest)]
    split_ifs <;> omega
  · have nextNonnegative := sound.sizesNonnegative next (sizes ▸ mem_cons_self)
    have morePackets : ((node.numPackets + 1 : Nat) : Int) * penalty =
        node.numPackets * penalty + penalty := by
      push_cast
      ring
    rw [cost, cost, numPackets_right, sizes, morePackets]
    dsimp only
    rw [if_neg (cons_ne_nil next rest)]
    split_ifs <;> omega

theorem within_sizeVector (maxSize : Int) : ∀ (depth : Nat) (node : PartitionTreeNode),
    node.sizeVector.length = depth → Within (createChildren maxSize) depth node := by
  intro depth
  induction depth with
  | zero =>
    intro node none
    change createChildren maxSize node = (Option.none, Option.none)
    rw [createChildren, length_eq_zero_iff.mp none]
  | succ depth induction =>
    intro node length child below
    apply induction
    rcases child_cases below with ⟨next, rest, sizes, ⟨-, rfl⟩ | ⟨-, rfl⟩⟩ <;>
      · rw [sizes, length_cons] at length
        exact Nat.succ.inj length

theorem Sound.sizeVector_of_leaf (sound : node.Sound maxSize)
    (isLeaf : createChildren maxSize node = (none, none)) : node.sizeVector = [] := by
  cases sizes : node.sizeVector with
  | nil => rfl
  | cons next rest =>
    have nonnegative := sound.nonnegative
    have nextFits := sound.sizesFit next (sizes ▸ mem_cons_self)
    rw [createChildren, sizes] at isLeaf
    rcases Prod.mk.inj isLeaf with ⟨noLeft, noRight⟩
    split_ifs at noLeft with enough
    split_ifs at noRight with positive
    omega

theorem completes_of_leaf (reached : Leaf (createChildren maxSize) depth node leaf) :
    node.Sound maxSize → ∃ extra more, Completes maxSize node extra more ∧
      cost penalty leaf = completionCost penalty node extra more ∧
      leaf.packetStart :: leaf.parents =
        (completionStarts extra more).reverse ++ node.packetStart :: node.parents := by
  induction reached with
  | here isLeaf =>
    rename_i node
    intro sound
    have noneLeft := sound.sizeVector_of_leaf isLeaf
    refine ⟨[], [], ⟨noneLeft.symm, by simp, ?_, by simp⟩, ?_, rfl⟩
    · rw [sum_nil, Int.add_zero]
      exact sound.fits
    · rw [cost, noneLeft, if_pos rfl, completionCost, sum_nil, Int.add_zero]
      rfl
  | descend below _ induction =>
    rename_i node child leaf
    intro sound
    rcases induction (sound.below below) with ⟨extra, more,
      ⟨consecutive, nonempty, extraFits, moreFits⟩, costEq, startsEq⟩
    rcases child_cases below with ⟨next, rest, sizes, ⟨enough, rfl⟩ | ⟨positive, rfl⟩⟩
    · dsimp only at consecutive extraFits
      refine ⟨next :: extra, more, ⟨?_, nonempty, ?_, moreFits⟩, ?_, ?_⟩
      · rw [sizes, cons_append, consecutive]
      · rw [sum_cons, ← Int.add_assoc]
        exact extraFits
      · rw [costEq, completionCost, completionCost, numPackets_left, sum_cons, ← Int.add_assoc]
      · rw [startsEq]
        simp [completionStarts, replicate_succ]
    · dsimp only at consecutive extraFits
      refine ⟨[], (next :: extra) :: more, ⟨?_, ?_, ?_, ?_⟩, ?_, ?_⟩
      · rw [sizes, flatten_cons, ← consecutive]
        rfl
      · exact forall_mem_cons.mpr ⟨cons_ne_nil _ _, nonempty⟩
      · rw [sum_nil, Int.add_zero]
        exact sound.fits
      · rw [forall_mem_cons, sum_cons]
        exact ⟨extraFits, moreFits⟩
      · rw [costEq, completionCost, completionCost, numPackets_right, length_cons,
          sum_nil, Int.add_zero, packetSizes, packetSizes, map_cons, sum_cons,
          Nat.add_assoc, Nat.add_comm 1]
        rfl
      · rw [startsEq]
        simp [completionStarts, groupStarts]

theorem smallest_mono {first second : Int} (le : first ≤ second) (sizes : List Int) :
    smallest first sizes ≤ smallest second sizes := by
  induction sizes generalizing first second with
  | nil => exact le
  | cons size sizes induction => exact induction (by omega : min first size ≤ min second size)

theorem completionCost_merge (penaltyNonnegative : 0 ≤ penalty) (sound : node.Sound maxSize)
    (empty : node.thisSize = 0) (group : List Int) (more : List (List Int)) :
    completionCost penalty node group more ≤ completionCost penalty node [] (group :: more) := by
  have maxNonnegative := sound.maxNonnegative
  have sameLargest : max node.maxParentSize 0 = node.maxParentSize := by omega
  have smaller := smallest_mono (Int.min_le_left node.minParentSize 0)
    (group.sum :: packetSizes more)
  have packets : ((node.numPackets + (more.length + 1) : Nat) : Int) * penalty =
      (node.numPackets + more.length : Nat) * penalty + penalty := by
    push_cast
    ring
  rw [completionCost, completionCost, spreadCost, spreadCost, length_cons, packets, empty,
    sum_nil, Int.zero_add, Int.zero_add]
  change _ ≤ largest (max node.maxParentSize 0) (group.sum :: packetSizes more) -
    smallest (min node.minParentSize 0) (group.sum :: packetSizes more) + _
  rw [sameLargest]
  omega

theorem exists_leaf_of_completes (penaltyNonnegative : 0 ≤ penalty) (sizes : List Int) :
    ∀ (node : PartitionTreeNode) (extra : List Int) (more : List (List Int)),
      node.sizeVector = sizes → node.Sound maxSize → Completes maxSize node extra more →
      ∃ leaf, Leaf (createChildren maxSize) sizes.length node leaf ∧
        cost penalty leaf ≤ completionCost penalty node extra more := by
  induction sizes with
  | nil =>
    intro node extra more noneLeft sound completes
    have consecutive := completes.consecutive
    rw [noneLeft, append_eq_nil_iff, flatten_eq_nil_iff] at consecutive
    rcases consecutive with ⟨rfl, allEmpty⟩
    cases more with
    | cons group more =>
      exact absurd (allEmpty group mem_cons_self)
        (completes.nonempty group mem_cons_self)
    | nil =>
      refine ⟨node, .here (by rw [createChildren, noneLeft]), ?_⟩
      rw [cost, noneLeft, if_pos rfl, completionCost, sum_nil, Int.add_zero]
      exact Int.le_refl _
  | cons next rest induction =>
    intro node extra more split sound completes
    have later : ∀ size ∈ rest, 0 ≤ size := fun size member =>
      sound.sizesNonnegative size (split ▸ mem_cons_of_mem next member)
    have continued : ∀ extra more, Completes maxSize node (next :: extra) more →
        ∃ leaf, Leaf (createChildren maxSize) (next :: rest).length node leaf ∧
          cost penalty leaf ≤ completionCost penalty node (next :: extra) more := by
      intro extra more ⟨consecutive, nonempty, extraFits, moreFits⟩
      rw [split, cons_append, List.cons.injEq] at consecutive
      have extraNonnegative : 0 ≤ extra.sum := sum_nonneg fun size member =>
        later size (consecutive.2 ▸ mem_append_left _ member)
      rw [sum_cons] at extraFits
      have enough : node.thisSize + next ≤ maxSize := by omega
      have below : Child (createChildren maxSize) node { node with
          packetStart := false
          parents := node.packetStart :: node.parents
          thisSize := node.thisSize + next
          sizeVector := rest } := by
        left
        rw [createChildren, split]
        exact if_pos enough
      rcases induction _ extra more rfl (sound.below below)
        ⟨consecutive.2, nonempty, by dsimp only; omega, moreFits⟩ with ⟨leaf, reached, cheap⟩
      refine ⟨leaf, .descend below reached, ?_⟩
      rw [completionCost, numPackets_left] at cheap
      rw [completionCost, sum_cons, ← Int.add_assoc]
      exact cheap
    cases extra with
    | cons first extra =>
      have consecutive := completes.consecutive
      rw [split, cons_append, List.cons.injEq] at consecutive
      rcases consecutive with ⟨rfl, -⟩
      exact continued extra more completes
    | nil =>
      rcases completes with ⟨consecutive, nonempty, -, moreFits⟩
      rw [split, nil_append] at consecutive
      cases more with
      | nil => cases consecutive
      | cons group more =>
        rcases exists_cons_of_ne_nil (nonempty group mem_cons_self) with
          ⟨first, group, rfl⟩
        rw [flatten_cons, cons_append, List.cons.injEq] at consecutive
        rcases consecutive with ⟨rfl, consecutive⟩
        have groupFits := moreFits _ mem_cons_self
        have moreNonempty := fun other member => nonempty other (mem_cons_of_mem _ member)
        have othersFit := fun other member => moreFits other (mem_cons_of_mem _ member)
        by_cases positive : 0 < node.thisSize
        · -- The next partition starts a packet.
          have below : Child (createChildren maxSize) node {
              packetStart := true
              parents := node.packetStart :: node.parents
              thisSize := first
              sizeVector := rest
              maxParentSize := max node.maxParentSize node.thisSize
              minParentSize := min node.minParentSize node.thisSize } := by
            right
            rw [createChildren, split]
            exact if_pos positive
          rw [sum_cons] at groupFits
          rcases induction _ group more rfl (sound.below below)
            ⟨consecutive, moreNonempty, groupFits, othersFit⟩ with ⟨leaf, reached, cheap⟩
          refine ⟨leaf, .descend below reached, cheap.trans (Int.le_of_eq ?_)⟩
          rw [completionCost, completionCost, numPackets_right, length_cons,
            sum_nil, Int.add_zero, packetSizes, packetSizes, map_cons,
            sum_cons, Nat.add_assoc, Nat.add_comm 1]
          rfl
        · have empty : node.thisSize = 0 := by
            have nonnegative := sound.nonnegative
            omega
          rcases continued group more ⟨by rw [split, cons_append, consecutive],
            moreNonempty, by rw [empty, Int.zero_add]; exact groupFits, othersFit⟩ with
            ⟨leaf, reached, cheap⟩
          exact ⟨leaf, reached, cheap.trans
            (completionCost_merge penaltyNonnegative sound empty _ more)⟩

theorem getOptimalNode_minimal (penaltyNonnegative : 0 ≤ penalty) (sound : node.Sound maxSize)
    {extra : List Int} {more : List (List Int)} (completes : Completes maxSize node extra more) :
    cost penalty (node.getOptimalNode maxSize penalty) ≤ completionCost penalty node extra more := by
  rcases exists_leaf_of_completes penaltyNonnegative _ node extra more rfl sound completes with
    ⟨leaf, reached, cheap⟩
  exact (search_minimal (fun _ _ good below => good.below below)
    (fun _ _ good below => cost_child penaltyNonnegative good below) _ node leaf sound
    reached).trans cheap

theorem getOptimalNode_leaf (maxSize penalty : Int) (node : PartitionTreeNode) :
    Leaf (createChildren maxSize) node.sizeVector.length node
      (node.getOptimalNode maxSize penalty) :=
  search_leaf _ node (within_sizeVector maxSize _ node rfl)

end PartitionTreeNode

/-! ## The configuration vector -/

theorem groupStarts_append (groups : List (List Int)) (group : List Int) :
    (groupStarts (groups ++ [group])).reverse =
      List.replicate (group.length - 1) false ++ true :: (groupStarts groups).reverse := by
  simp [groupStarts]

theorem packetIndices_append (groups : List (List Int)) (group : List Int) :
    packetIndices (groups ++ [group]) =
      packetIndices groups ++ List.replicate group.length (groups.length : Int) := by
  rw [packetIndices, zipIdx_append, flatMap_append]
  simp [packetIndices]

theorem length_packetIndices (groups : List (List Int)) :
    (packetIndices groups).length = groups.flatten.length := by
  induction groups using List.reverseRecOn with
  | nil => rfl
  | append_singleton groups group induction =>
    rw [packetIndices_append, length_append, induction, flatten_append,
      length_append, length_replicate, flatten_singleton]

theorem count_groupStarts (groups : List (List Int)) :
    (groupStarts groups).count true = groups.length := by
  induction groups with
  | nil => rfl
  | cons group groups induction =>
    rw [groupStarts, flatMap_cons, count_append, count_cons_self,
      count_replicate, ← groupStarts, induction, length_cons]
    simp [Nat.add_comm]

theorem countPackets_eq (parents : List Bool) : ∀ start,
    (start :: parents).getLast (cons_ne_nil _ _) = true →
      PartitionTreeNode.countPackets start parents = (start :: parents).count true := by
  induction parents with
  | nil =>
    intro start root
    rw [getLast_singleton] at root
    rw [root]
    rfl
  | cons parent parents induction =>
    intro start root
    rw [getLast_cons (cons_ne_nil _ _)] at root
    have packets := induction parent root
    cases start with
    | false =>
      rw [PartitionTreeNode.countPackets, packets, count_cons_of_ne (show false ≠ true by decide)]
    | true =>
      rw [PartitionTreeNode.countPackets, packets, count_cons_self, Nat.add_comm]

namespace Vp8PartitionAggregator

theorem fillConfig_group (partitions continued : Nat) (starts : List Bool) (packetIndex : Int) :
    fillConfig (partitions + (continued + 1))
        (List.replicate continued false ++ true :: starts) packetIndex =
      (fillConfig partitions starts (packetIndex - 1)).map
        (· ++ List.replicate (continued + 1) packetIndex) := by
  induction continued with
  | zero => rfl
  | succ continued induction =>
    rw [replicate_succ, cons_append, ← Nat.add_assoc, fillConfig]
    rw [if_neg (by decide), induction, Option.map_map, replicate_succ' (n := continued + 1)]
    congr 1
    funext config
    exact append_assoc _ _ _

theorem fillConfig_groups (groups : List (List Int)) (nonempty : ∀ group ∈ groups, group ≠ []) :
    fillConfig groups.flatten.length (groupStarts groups).reverse ((groups.length : Int) - 1) =
      some (packetIndices groups) := by
  induction groups using List.reverseRecOn with
  | nil => rfl
  | append_singleton groups group induction =>
    have earlier := induction fun other member => nonempty other (mem_append_left _ member)
    have positive := length_pos_iff.mpr (nonempty group (by simp))
    have length : (groups ++ [group]).flatten.length =
        groups.flatten.length + (group.length - 1 + 1) := by
      rw [flatten_append, length_append, flatten_singleton]
      omega
    have index : ((groups ++ [group]).length : Int) - 1 = groups.length := by
      rw [length_append, length_singleton]
      omega
    rw [length, groupStarts_append, index, fillConfig_group, earlier, packetIndices_append,
      Nat.sub_add_cancel positive]
    rfl

variable (aggregator : Vp8PartitionAggregator) (maxSize penalty : Int)

theorem root_sound (fits : ∀ size ∈ aggregator.sizeVector, size ≤ maxSize) :
    aggregator.root.Sound maxSize where
  nonnegative := aggregator.nonnegative _ mem_cons_self
  fits := fits _ mem_cons_self
  sizesNonnegative := fun size member => aggregator.nonnegative size (mem_cons_of_mem _ member)
  sizesFit := fun size member => fits size (mem_cons_of_mem _ member)
  maxNonnegative := aggregator.maxNonnegative

theorem exists_completes (grouping : Grouping aggregator.sizeVector) (fits : grouping.Fits maxSize) :
    ∃ extra more, grouping.groups = (aggregator.first :: extra) :: more ∧
      PartitionTreeNode.Completes maxSize aggregator.root extra more := by
  rcases grouping with ⟨groups, consecutive, nonempty⟩
  cases groups with
  | nil => cases consecutive
  | cons group more =>
    rcases exists_cons_of_ne_nil (nonempty group mem_cons_self) with ⟨first, extra, rfl⟩
    have split := consecutive
    rw [flatten_cons, cons_append, sizeVector, List.cons.injEq] at split
    rcases split with ⟨rfl, left⟩
    have groupFits := fits _ mem_cons_self
    rw [sum_cons] at groupFits
    exact ⟨extra, more, rfl, left,
      fun other member => nonempty other (mem_cons_of_mem _ member), groupFits,
      fun other member => fits other (mem_cons_of_mem _ member)⟩

theorem completionCost_root (extra : List Int) (more : List (List Int)) :
    PartitionTreeNode.completionCost penalty aggregator.root extra more =
      spreadCost aggregator.minParentSize aggregator.maxParentSize penalty
        ((aggregator.first :: extra) :: more).length
        (packetSizes ((aggregator.first :: extra) :: more)) := by
  rw [PartitionTreeNode.completionCost, length_cons, Nat.add_comm, packetSizes, packetSizes,
    map_cons, sum_cons]
  rfl

theorem exists_grouping (partitionsFit : ∀ size ∈ aggregator.sizeVector, size ≤ maxSize) :
    ∃ grouping : Grouping aggregator.sizeVector,
      aggregator.findOptimalConfiguration maxSize penalty = some (packetIndices grouping.groups) ∧
      grouping.Fits maxSize ∧
      (aggregator.root.getOptimalNode maxSize penalty).cost penalty =
        grouping.cost aggregator.minParentSize aggregator.maxParentSize penalty := by
  rcases @PartitionTreeNode.completes_of_leaf maxSize penalty _ _ _
    (aggregator.root.getOptimalNode_leaf maxSize penalty)
    (aggregator.root_sound maxSize partitionsFit) with ⟨extra, more, completes, costEq, startsEq⟩
  let groups := (aggregator.first :: extra) :: more
  have nonempty : ∀ group ∈ groups, group ≠ [] :=
    forall_mem_cons.mpr ⟨cons_ne_nil _ _, completes.nonempty⟩
  have consecutive : groups.flatten = aggregator.sizeVector :=
    congrArg (aggregator.first :: ·) completes.consecutive
  have starts : (aggregator.root.getOptimalNode maxSize penalty).packetStart ::
      (aggregator.root.getOptimalNode maxSize penalty).parents = (groupStarts groups).reverse := by
    rw [startsEq]
    simp [groups, groupStarts, PartitionTreeNode.completionStarts, root]
  have packets : (aggregator.root.getOptimalNode maxSize penalty).numPackets = groups.length := by
    rw [PartitionTreeNode.numPackets, countPackets_eq, starts, count_reverse, count_groupStarts]
    simp only [starts, groups, groupStarts, flatMap_cons, cons_append, reverse_cons,
      getLast_append_singleton]
  refine ⟨⟨groups, consecutive, nonempty⟩, ?_, ?_, ?_⟩
  · have filled := fillConfig_groups groups nonempty
    rw [consecutive] at filled
    rw [findOptimalConfiguration, starts, packets]
    exact filled
  · refine forall_mem_cons.mpr ⟨?_, completes.moreFits⟩
    rw [sum_cons]
    exact completes.extraFits
  · exact costEq.trans (aggregator.completionCost_root penalty extra more)

theorem cost_getOptimalNode_le (penaltyNonnegative : 0 ≤ penalty)
    (partitionsFit : ∀ size ∈ aggregator.sizeVector, size ≤ maxSize)
    (grouping : Grouping aggregator.sizeVector) (fits : grouping.Fits maxSize) :
    (aggregator.root.getOptimalNode maxSize penalty).cost penalty ≤
      grouping.cost aggregator.minParentSize aggregator.maxParentSize penalty := by
  rcases aggregator.exists_completes maxSize grouping fits with ⟨extra, more, groupsEq, completes⟩
  have minimal := PartitionTreeNode.getOptimalNode_minimal penaltyNonnegative
    (aggregator.root_sound maxSize partitionsFit) completes
  rw [completionCost_root, ← groupsEq] at minimal
  exact minimal

end Vp8PartitionAggregator

end ZyWebRtc.Vp8
