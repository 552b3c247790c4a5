import ZyWebRtc.Vp8.EqualPackets
import ZyWebRtc.Vp8.OptimalConfiguration
import Mathlib.Data.List.TakeWhile

namespace ZyWebRtc.Vp8

/-! When `GeneratePacketsBalancedAggregates` queues no empty packet and divides by no zero. -/

open List Option

/-! ## The number of fragments -/

def fragmentSize (largePartitionSize n : Int) : Int := (largePartitionSize + n - 1) / n

/-- Either there is no fragment, or the one behind the full ones has bytes. -/
def LastFragmentHasBytes (largePartitionSize n : Int) : Prop :=
  n = -1 ∨ 1 ≤ n ∧ (n - 1) * fragmentSize largePartitionSize n < largePartitionSize

section Fragments

variable {largePartitionSize maxPayloadSize penalty minSize maxSize n : Int}

theorem le_fragmentSize_iff (positive : 0 < n) {size : Int} :
    size ≤ fragmentSize largePartitionSize n ↔ size * n ≤ largePartitionSize + n - 1 :=
  Int.le_ediv_iff_mul_le positive

theorem fragmentSize_le_iff (positive : 0 < n) {size : Int} :
    fragmentSize largePartitionSize n ≤ size ↔ largePartitionSize ≤ size * n := by
  rw [← Int.lt_add_one_iff, fragmentSize, Int.ediv_lt_iff_lt_mul positive, add_mul]
  omega

theorem fragmentSize_pred (positive : 1 < n) (bytes : 0 < largePartitionSize)
    (emptyLast : largePartitionSize ≤ (n - 1) * fragmentSize largePartitionSize n) :
    fragmentSize largePartitionSize (n - 1) = fragmentSize largePartitionSize n := by
  have atLeastOne : 1 ≤ fragmentSize largePartitionSize n :=
    (le_fragmentSize_iff (by omega)).mpr (by omega)
  have fits := (le_fragmentSize_iff (n := n) (by omega)).mp (Int.le_refl
    (fragmentSize largePartitionSize n))
  generalize fragmentSize largePartitionSize n = size at *
  apply Int.le_antisymm
  · rw [fragmentSize_le_iff (by omega)]
    linarith
  · rw [le_fragmentSize_iff (by omega)]
    linarith

def fragmentCost (penalty minSize maxSize fragmentSize n : Int) : Int :=
  if fragmentSize < minSize then minSize - fragmentSize + n * penalty
  else if maxSize < fragmentSize then fragmentSize - maxSize + n * penalty
  else n * penalty

theorem fragmentCost_pred (size : Int) : fragmentCost penalty minSize maxSize size (n - 1) =
    fragmentCost penalty minSize maxSize size n - penalty := by
  rw [fragmentCost, fragmentCost]
  split_ifs <;> ring

theorem bestFragments_succ (bytes : 0 < largePartitionSize) (positive : 0 < n) (rounds : Nat)
    (numFragments bestCost : Int) :
    bestFragments largePartitionSize maxPayloadSize penalty minSize maxSize (rounds + 1) n
        numFragments bestCost =
      if fragmentSize largePartitionSize n ≤ maxPayloadSize ∧
          fragmentCost penalty minSize maxSize (fragmentSize largePartitionSize n) n < bestCost then
        bestFragments largePartitionSize maxPayloadSize penalty minSize maxSize rounds (n + 1) n
          (fragmentCost penalty minSize maxSize (fragmentSize largePartitionSize n) n)
      else
        bestFragments largePartitionSize maxPayloadSize penalty minSize maxSize rounds (n + 1)
          numFragments bestCost := by
  rw [bestFragments, divide_of_nonneg (by omega) positive]
  rfl

theorem bestFragments_spec (penaltyPositive : 1 ≤ penalty) (bytes : 0 < largePartitionSize)
    (payloadPositive : 0 < maxPayloadSize) (minNumber : Int)
    (minNumberEq : minNumber = fragmentSize largePartitionSize maxPayloadSize) :
    ∀ (rounds : Nat) (n numFragments bestCost : Int), 1 ≤ n →
      LastFragmentHasBytes largePartitionSize numFragments →
      (minNumber < n → fragmentSize largePartitionSize (n - 1) ≤ maxPayloadSize →
        bestCost ≤ fragmentCost penalty minSize maxSize
          (fragmentSize largePartitionSize (n - 1)) (n - 1)) →
      ∃ chosen, bestFragments largePartitionSize maxPayloadSize penalty minSize maxSize rounds n
        numFragments bestCost = some chosen ∧ LastFragmentHasBytes largePartitionSize chosen := by
  intro rounds
  induction rounds with
  | zero => exact fun n numFragments bestCost _ hasBytes _ => ⟨numFragments, rfl, hasBytes⟩
  | succ rounds induction =>
    intro n numFragments bestCost positive hasBytes earlier
    rw [bestFragments_succ bytes positive]
    by_cases better : fragmentSize largePartitionSize n ≤ maxPayloadSize ∧
      fragmentCost penalty minSize maxSize (fragmentSize largePartitionSize n) n < bestCost
    · rw [if_pos better]
      apply induction
      · omega
      · right
        refine ⟨positive, ?_⟩
        by_contra emptyLast
        have emptyLast := Int.not_lt.mp emptyLast
        have several : 1 < n := by
          rcases Int.lt_or_eq_of_le positive with several | rfl
          · exact several
          · omega
        have same := fragmentSize_pred several bytes emptyLast
        have inRange : minNumber ≤ n - 1 := by
          rw [minNumberEq, fragmentSize_le_iff payloadPositive]
          nlinarith
        have cheaper := earlier (by omega) (by rw [same]; exact better.1)
        rw [same, fragmentCost_pred] at cheaper
        omega
      · intro _ _
        rw [Int.add_sub_cancel]
    · rw [if_neg better]
      apply induction
      · omega
      · exact hasBytes
      · intro _ fits
        rw [Int.add_sub_cancel] at fits ⊢
        exact Int.not_lt.mp fun cheaper => better ⟨fits, cheaper⟩

theorem calcNumberOfFragments_spec (maxSize : Int) (penaltyPositive : 1 ≤ penalty)
    (bytes : 0 < largePartitionSize)
    (payloadPositive : 0 < maxPayloadSize) (nonzero : minSize ≠ 0) :
    ∃ chosen, calcNumberOfFragments largePartitionSize maxPayloadSize penalty minSize maxSize =
      some chosen ∧ LastFragmentHasBytes largePartitionSize chosen := by
  rw [calcNumberOfFragments, divide_of_nonneg (by omega) payloadPositive]
  rcases show ∃ minNumber, minNumber = fragmentSize largePartitionSize maxPayloadSize from
    ⟨_, rfl⟩ with ⟨minNumber, minNumberEq⟩
  have positive : 1 ≤ minNumber := by
    rw [minNumberEq, le_fragmentSize_iff payloadPositive]
    omega
  rw [← fragmentSize, ← minNumberEq]
  simp only [bind_eq_bind, bind_some]
  split_ifs with noBounds
  · refine ⟨minNumber, rfl, .inr ⟨positive, ?_⟩⟩
    by_contra emptyLast
    have fits : fragmentSize largePartitionSize minNumber ≤ maxPayloadSize := by
      rw [fragmentSize_le_iff (by omega), Int.mul_comm, ← fragmentSize_le_iff payloadPositive,
        minNumberEq]
    have fewer : minNumber ≤ minNumber - 1 := by
      nth_rewrite 1 [minNumberEq]
      rw [fragmentSize_le_iff payloadPositive]
      nlinarith
    omega
  · rw [divide_of_nonneg (by omega) (by omega), bind_some]
    exact bestFragments_spec penaltyPositive bytes payloadPositive minNumber minNumberEq _ minNumber
      (-1) intMax positive (.inl rfl) (by omega)

end Fragments

/-! ## Optimal groups -/

theorem largest_mono {first second : Int} (le : first ≤ second) (sizes : List Int) :
    largest first sizes ≤ largest second sizes := by
  induction sizes generalizing first second with
  | nil => exact le
  | cons size sizes induction => exact induction (by omega : max first size ≤ max second size)

theorem spreadCost_remove (minSize maxSize penalty : Int) (packets : Nat) (before after : List Int)
    (size : Int) :
    spreadCost minSize maxSize penalty packets (before ++ after) + penalty ≤
      spreadCost minSize maxSize penalty (packets + 1) (before ++ size :: after) := by
  have larger := largest_mono (Int.le_max_left (largest maxSize before) size) after
  have smaller := PartitionTreeNode.smallest_mono
    (Int.min_le_left (smallest minSize before) size) after
  have penalties : ((packets + 1 : Nat) : Int) * penalty = packets * penalty + penalty := by
    push_cast
    ring
  rw [spreadCost, spreadCost, penalties, largest, largest, smallest, smallest]
  simp only [foldl_append, foldl_cons]
  rw [largest, largest] at larger
  rw [smallest, smallest] at smaller
  rw [largest] at larger
  rw [smallest] at smaller
  omega

namespace Grouping

variable {sizes : List Int}

def merge (before after : List (List Int)) (first second : List Int) (grouping : Grouping sizes)
    (split : grouping.groups = before ++ first :: second :: after) : Grouping sizes where
  groups := before ++ (first ++ second) :: after
  consecutive := by
    have consecutive := grouping.consecutive
    rw [split] at consecutive
    rw [← consecutive]
    simp
  nonempty := by
    have nonempty := grouping.nonempty
    rw [split] at nonempty
    intro group member
    rcases mem_append.mp member with earlier | later
    · exact nonempty group (mem_append_left _ earlier)
    · rcases mem_cons.mp later with rfl | later
      · exact append_ne_nil_of_left_ne_nil (nonempty first (by simp)) second
      · exact nonempty group (by simp [later])

theorem exists_cheaper {maxSize : Int} (minParentSize maxParentSize penalty : Int)
    (penaltyPositive : 1 ≤ penalty) (grouping : Grouping sizes) (fits : grouping.Fits maxSize)
    {before after : List (List Int)} {first second : List Int}
    (split : grouping.groups = before ++ first :: second :: after)
    (empty : first.sum = 0 ∨ second.sum = 0) :
    ∃ other : Grouping sizes, other.Fits maxSize ∧ other.cost minParentSize maxParentSize penalty <
        grouping.cost minParentSize maxParentSize penalty := by
  rw [Fits, split] at fits
  have sum : (first ++ second).sum = first.sum ∨ (first ++ second).sum = second.sum := by
    rw [sum_append]
    omega
  refine ⟨grouping.merge before after first second split, ?_, ?_⟩
  · intro group member
    rcases mem_append.mp member with earlier | later
    · exact fits group (mem_append_left _ earlier)
    · rcases mem_cons.mp later with rfl | later
      · have firstFits := fits first (by simp)
        have secondFits := fits second (by simp)
        omega
      · exact fits group (by simp [later])
  · have lengths : grouping.groups.length = (before ++ (first ++ second) :: after).length + 1 := by
      rw [split]
      simp only [length_append, length_cons]
      omega
    rw [cost, cost, lengths, split]
    change spreadCost _ _ _ (before ++ (first ++ second) :: after).length
      (packetSizes (before ++ (first ++ second) :: after)) < _
    apply Int.lt_of_lt_of_le (Int.lt_add_of_pos_right _ penaltyPositive)
    simp only [packetSizes, map_append, map_cons]
    rcases empty with empty | empty
    · have same : (first ++ second).sum = second.sum := by
        rw [sum_append]
        omega
      rw [same]
      exact spreadCost_remove _ _ _ _ _ _ _
    · have same : (first ++ second).sum = first.sum := by
        rw [sum_append]
        omega
      rw [same]
      have removed := spreadCost_remove minParentSize maxParentSize penalty
        (before ++ (first ++ second) :: after).length (before.map List.sum ++ [first.sum])
        (after.map List.sum) second.sum
      rw [append_assoc, append_assoc] at removed
      exact removed

theorem groups_positive {maxSize : Int} (minParentSize maxParentSize penalty : Int)
    (penaltyPositive : 1 ≤ penalty) (nonnegative : ∀ size ∈ sizes, 0 ≤ size)
    (bytes : 0 < sizes.sum) (grouping : Grouping sizes) (fits : grouping.Fits maxSize)
    (cheapest : ∀ other : Grouping sizes, other.Fits maxSize →
      grouping.cost minParentSize maxParentSize penalty ≤
        other.cost minParentSize maxParentSize penalty) :
    ∀ group ∈ grouping.groups, 0 < group.sum := by
  intro group member
  by_contra notPositive
  have nonnegative : 0 ≤ group.sum := sum_nonneg fun size inside =>
    nonnegative size (grouping.consecutive ▸ mem_flatten.mpr ⟨group, member, inside⟩)
  have empty : group.sum = 0 := by omega
  rcases append_of_mem member with ⟨before, after, split⟩
  have noOther : ∀ {before after : List (List Int)} {first second : List Int},
      grouping.groups = before ++ first :: second :: after →
      ¬ (first.sum = 0 ∨ second.sum = 0) := by
    intro before after first second split empty
    rcases grouping.exists_cheaper minParentSize maxParentSize penalty penaltyPositive fits split
      empty with ⟨other, otherFits, cheaper⟩
    have atMost := cheapest other otherFits
    omega
  cases after with
  | cons next after => exact noOther split (.inl empty)
  | nil =>
    rcases eq_nil_or_concat before with rfl | ⟨front, last, rfl⟩
    · have consecutive := grouping.consecutive
      rw [split, nil_append, flatten_singleton] at consecutive
      rw [← consecutive] at bytes
      omega
    · rw [concat_append] at split
      exact noOther split (.inr empty)

end Grouping

/-! ## Decisions -/

/-- The decisions for consecutive groups, from an index on. -/
def indicesFrom : (index : Int) → (groups : List (List Int)) → List Int
  | _, [] => []
  | index, group :: groups => List.replicate group.length index ++ indicesFrom (index + 1) groups

theorem packetIndices_eq (index : Int) (groups : List (List Int)) :
    (packetIndices groups).map (index + ·) = indicesFrom index groups := by
  have general : ∀ (groups : List (List Int)) (first : Nat) (index : Int),
      ((groups.zipIdx first).flatMap fun group =>
        List.replicate group.1.length (group.2 : Int)).map (index + ·) =
        indicesFrom (index + first) groups := by
    intro groups
    induction groups with
    | nil => exact fun _ _ => rfl
    | cons group groups induction =>
      intro first index
      rw [zipIdx_cons, flatMap_cons, map_append, induction, indicesFrom, map_replicate]
      push_cast
      rw [Int.add_assoc]
  have fromZero := general groups 0 index
  rw [Int.natCast_zero, Int.add_zero] at fromZero
  exact fromZero

theorem length_indicesFrom (index : Int) (groups : List (List Int)) :
    (indicesFrom index groups).length = groups.flatten.length := by
  induction groups generalizing index with
  | nil => rfl
  | cons group groups induction =>
    rw [indicesFrom, length_append, length_replicate, induction, flatten_cons, length_append]

theorem exists_getLast_packetIndices (groups : List (List Int)) (some : groups.flatten ≠ []) :
    ∃ last, (packetIndices groups).getLast? = .some last ∧ 0 ≤ last := by
  have nonempty : packetIndices groups ≠ [] := by
    rw [← length_pos_iff, length_packetIndices]
    exact length_pos_iff.mpr some
  refine ⟨_, List.getLast?_eq_some_getLast nonempty, ?_⟩
  have member := getLast_mem nonempty
  rcases mem_flatMap.mp member with ⟨group, -, inside⟩
  rw [eq_of_mem_replicate inside]
  exact Int.natCast_nonneg group.2

namespace Vp8PartitionAggregator

theorem calcMinMaxFrom_group (group : List Int) (entries : List (Int × Int)) (index thisSize : Int)
    (bounds : Int × Int) :
    calcMinMaxFrom ((List.replicate group.length index).zip group ++ entries) index thisSize bounds =
      calcMinMaxFrom entries index (thisSize + group.sum) bounds := by
  induction group generalizing thisSize with
  | nil => rw [sum_nil, Int.add_zero]; rfl
  | cons size group induction =>
    rw [length_cons, replicate_succ, zip_cons_cons, cons_append,
      calcMinMaxFrom, if_pos rfl, induction, sum_cons, Int.add_assoc]

theorem calcMinMaxFrom_groups (groups : List (List Int)) (nonempty : ∀ group ∈ groups, group ≠ [])
    (index other thisSize : Int) (differs : index ≠ other) (bounds : Int × Int) :
    calcMinMaxFrom ((indicesFrom index groups).zip groups.flatten) other thisSize bounds =
      (packetSizes groups).foldl updateMinMax (updateMinMax bounds thisSize) := by
  induction groups generalizing index other thisSize bounds with
  | nil => rfl
  | cons group groups induction =>
    rcases exists_cons_of_ne_nil (nonempty group mem_cons_self) with ⟨size, sizes, rfl⟩
    rw [indicesFrom, flatten_cons, zip_append (by rw [length_replicate]),
      length_cons, replicate_succ, zip_cons_cons, cons_append,
      calcMinMaxFrom, if_neg differs, calcMinMaxFrom_group,
      induction (fun other member => nonempty other (mem_cons_of_mem _ member)) _ _ _
        (by omega), ← sum_cons]
    rfl

theorem calcMinMax_eq (aggregator : Vp8PartitionAggregator) (groups : List (List Int))
    (consecutive : groups.flatten = aggregator.sizeVector)
    (nonempty : ∀ group ∈ groups, group ≠ []) (minSize maxSize : Int) :
    aggregator.calcMinMax (packetIndices groups) minSize maxSize =
      (packetSizes groups).foldl updateMinMax
        (if minSize < 0 then intMax else minSize, if maxSize < 0 then 0 else maxSize) := by
  have indices := packetIndices_eq 0 groups
  simp only [Int.zero_add, List.map_id'] at indices
  rw [calcMinMax, indices, ← consecutive]
  cases groups with
  | nil => rfl
  | cons group groups =>
    rcases exists_cons_of_ne_nil (nonempty group mem_cons_self) with ⟨size, sizes, rfl⟩
    rw [indicesFrom, flatten_cons, zip_append (by rw [length_replicate]),
      length_cons, replicate_succ, zip_cons_cons, cons_append]
    dsimp only
    rw [calcMinMaxFrom_group, calcMinMaxFrom_groups _
      (fun other member => nonempty other (mem_cons_of_mem _ member)) _ _ _ (by decide),
      ← sum_cons]
    rfl

theorem foldl_updateMinMax (sizes : List Int) (bounds : Int × Int) :
    (∀ size ∈ sizes, (sizes.foldl updateMinMax bounds).1 ≤ size ∧
      size ≤ (sizes.foldl updateMinMax bounds).2) ∧
    (sizes.foldl updateMinMax bounds).1 ≤ bounds.1 ∧
    bounds.2 ≤ (sizes.foldl updateMinMax bounds).2 ∧
    ∀ low, low ≤ bounds.1 → (∀ size ∈ sizes, low ≤ size) →
      low ≤ (sizes.foldl updateMinMax bounds).1 := by
  induction sizes generalizing bounds with
  | nil => exact ⟨by simp, Int.le_refl _, Int.le_refl _, fun _ below _ => below⟩
  | cons size sizes induction =>
    rcases induction (updateMinMax bounds size) with ⟨between, less, more, above⟩
    have updated : (updateMinMax bounds size).1 ≤ size ∧ (updateMinMax bounds size).1 ≤ bounds.1 ∧
        size ≤ (updateMinMax bounds size).2 ∧ bounds.2 ≤ (updateMinMax bounds size).2 ∧
        ∀ low, low ≤ bounds.1 → low ≤ size → low ≤ (updateMinMax bounds size).1 := by
      rw [updateMinMax]
      dsimp only
      refine ⟨?_, ?_, ?_, ?_, fun low below member => ?_⟩
      all_goals split_ifs <;> omega
    rcases updated with ⟨lessSize, lessBound, moreSize, moreBound, aboveBoth⟩
    rw [foldl_cons]
    refine ⟨forall_mem_cons.mpr ⟨⟨less.trans lessSize, moreSize.trans more⟩, between⟩,
      less.trans lessBound, moreBound.trans more, fun low below all => ?_⟩
    rw [forall_mem_cons] at all
    exact above low (aboveBoth low below all.1) all.2

end Vp8PartitionAggregator

/-- The smallest and the largest packet, without a value before the first one. -/
def Bounds (bounds : Int × Int) : Prop := bounds = (-1, -1) ∨ 0 ≤ bounds.1 ∧ bounds.1 ≤ bounds.2

namespace Vp8PartitionAggregator

theorem aggregates (aggregator : Vp8PartitionAggregator) {maxSize penalty : Int}
    (bounds : Int × Int) (penaltyPositive : 1 ≤ penalty)
    (fits : ∀ size ∈ aggregator.sizeVector, size ≤ maxSize) :
    ∃ groups, aggregator.findOptimalConfiguration maxSize penalty = some (packetIndices groups) ∧
      groups.flatten = aggregator.sizeVector ∧ (∀ group ∈ groups, group ≠ []) ∧
      Bounds (aggregator.calcMinMax (packetIndices groups) bounds.1 bounds.2) ∧
      (0 < aggregator.sizeVector.sum → (∀ group ∈ groups, 0 < group.sum) ∧ (bounds.1 ≠ 0 →
          (aggregator.calcMinMax (packetIndices groups) bounds.1 bounds.2).1 ≠ 0)) := by
  rcases aggregator.exists_grouping maxSize penalty fits with ⟨grouping, configEq, groupsFit, costEq⟩
  have nonnegative : ∀ group ∈ grouping.groups, 0 ≤ group.sum := fun group member =>
    sum_nonneg fun size inside => aggregator.nonnegative size
      (grouping.consecutive ▸ mem_flatten.mpr ⟨group, member, inside⟩ :
        size ∈ aggregator.sizeVector)
  rcases show ∃ prior : Int × Int, prior =
    (if bounds.1 < 0 then intMax else bounds.1, if bounds.2 < 0 then 0 else bounds.2) from
    ⟨_, rfl⟩ with ⟨prior, priorEq⟩
  have boundsEq := aggregator.calcMinMax_eq grouping.groups grouping.consecutive grouping.nonempty
    bounds.1 bounds.2
  rw [← priorEq] at boundsEq
  rcases foldl_updateMinMax (packetSizes grouping.groups) prior with ⟨between, -, -, above⟩
  have priorNonnegative : 0 ≤ prior.1 := by
    rw [priorEq]
    dsimp only
    rw [intMax]
    split_ifs <;> omega
  refine ⟨grouping.groups, configEq, grouping.consecutive, grouping.nonempty, ?_⟩
  rw [boundsEq]
  refine ⟨.inr ⟨?_, ?_⟩, ?_⟩
  · exact above 0 priorNonnegative (List.forall_mem_map.mpr nonnegative)
  · have some : grouping.groups ≠ [] := by
      intro none
      have consecutive := grouping.consecutive
      rw [none] at consecutive
      cases consecutive
    rcases exists_mem_of_ne_nil _ some with ⟨group, member⟩
    have inside := between group.sum (List.mem_map_of_mem member)
    exact inside.1.trans inside.2
  · intro bytes
    have positive := grouping.groups_positive aggregator.minParentSize aggregator.maxParentSize
      penalty penaltyPositive aggregator.nonnegative bytes groupsFit
      (fun other otherFits => costEq ▸ aggregator.cost_getOptimalNode_le maxSize penalty
        (by omega) fits other otherFits)
    refine ⟨positive, fun nonzero => ?_⟩
    have atLeastOne := above 1 (by
      rw [priorEq]
      dsimp only
      rw [intMax]
      split_ifs <;> omega) (List.forall_mem_map.mpr positive)
    omega

end Vp8PartitionAggregator

/-- The decisions for the partitions: large ones are split, and the partitions between them are
aggregated together. -/
inductive Decided (maxPayloadLen : Int) : (lengths : List Nat) → (decisions : List Int) → Prop
  | nil : Decided maxPayloadLen [] []
  | large {length : Nat} {lengths : List Nat} {decisions : List Int}
      (isLarge : maxPayloadLen ≤ length) (later : Decided maxPayloadLen lengths decisions) :
      Decided maxPayloadLen (length :: lengths) (-1 :: decisions)
  | run {run rest : List Nat} {index : Int} {groups : List (List Int)} {decisions : List Int}
      (nonnegative : 0 ≤ index) (someLength : run ≠ [])
      (small : ∀ length ∈ run, (length : Int) < maxPayloadLen)
      (ends : ∀ next ∈ rest.head?, maxPayloadLen ≤ (next : Nat))
      (consecutive : groups.flatten = run.map Nat.cast)
      (nonempty : ∀ group ∈ groups, group ≠ [])
      (positive : 0 < run.sum → ∀ group ∈ groups, 0 < group.sum)
      (later : Decided maxPayloadLen rest decisions) :
      Decided maxPayloadLen (run ++ rest) (indicesFrom index groups ++ decisions)

/-- The partitions between large ones have bytes, where there are any. -/
def RunsHaveBytes (maxPayloadLen : Int) (lengths : List Nat) : Prop :=
  ∀ run ∈ lengths.splitOnP fun (length : Nat) => decide (maxPayloadLen ≤ (length : Int)),
    run ≠ [] → 0 < run.sum

section Runs

variable {maxPayloadLen : Int}

theorem runsHaveBytes_nil : RunsHaveBytes maxPayloadLen [] := by
  intro run member nonempty
  rw [splitOnP_nil, mem_singleton] at member
  exact absurd member nonempty

theorem runsHaveBytes_large {length : Nat} (isLarge : maxPayloadLen ≤ length) (lengths : List Nat) :
    RunsHaveBytes maxPayloadLen (length :: lengths) ↔ RunsHaveBytes maxPayloadLen lengths := by
  rw [RunsHaveBytes, splitOnP_cons_eq_if_modifyHead, if_pos (decide_eq_true isLarge), forall_mem_cons]
  exact and_iff_right fun nonempty => absurd rfl nonempty

theorem runsHaveBytes_run {run rest : List Nat} (someLength : run ≠ [])
    (small : ∀ length ∈ run, (length : Int) < maxPayloadLen)
    (ends : ∀ next ∈ rest.head?, maxPayloadLen ≤ (next : Nat)) :
    RunsHaveBytes maxPayloadLen (run ++ rest) ↔ 0 < run.sum ∧ RunsHaveBytes maxPayloadLen rest := by
  have notLarge : ∀ length ∈ run, decide (maxPayloadLen ≤ (length : Int)) = false :=
    fun length member => decide_eq_false (Int.not_le.mpr (small length member))
  cases rest with
  | nil =>
    rw [append_nil, RunsHaveBytes, splitOnP_eq_singleton notLarge, forall_mem_singleton]
    exact ⟨fun bytes => ⟨bytes someLength, runsHaveBytes_nil⟩, fun bytes _ => bytes.1⟩
  | cons next rest =>
    have isLarge := ends next rfl
    rw [runsHaveBytes_large isLarge, RunsHaveBytes,
      splitOnP_append_cons_of_forall_mem notLarge _ (decide_eq_true isLarge), forall_mem_cons]
    exact and_congr_left fun _ => ⟨fun bytes => bytes someLength, fun bytes _ => bytes⟩

theorem takeWhile_small {lengths more : List Nat}
    (moreEq : more = lengths.takeWhile fun (length : Nat) =>
      decide ((length : Int) < maxPayloadLen)) :
    lengths = more ++ lengths.drop more.length ∧ (∀ length ∈ more, (length : Int) < maxPayloadLen) ∧
      ∀ next ∈ (lengths.drop more.length).head?, maxPayloadLen ≤ (next : Nat) := by
  have split := takeWhile_append_dropWhile
    (p := fun (length : Nat) => decide ((length : Int) < maxPayloadLen)) (l := lengths)
  rw [← moreEq] at split
  have dropped : lengths.drop more.length =
      lengths.dropWhile fun (length : Nat) => decide ((length : Int) < maxPayloadLen) := by
    conv_lhs => rw [← split]
    exact drop_left
  rw [dropped, split]
  refine ⟨rfl, fun length member => ?_, fun next isHead => ?_⟩
  · rw [moreEq] at member
    have isSmall := mem_takeWhile_imp member
    exact of_decide_eq_true isSmall
  · have stops := List.head?_dropWhile_not
      (fun (length : Nat) => decide ((length : Int) < maxPayloadLen)) lengths
    rw [mem_def.mp isHead] at stops
    exact Int.not_lt.mp (of_decide_eq_false stops)

end Runs

namespace RtpFormatVp8

variable {maxPayloadLen overhead : Int}

variable {bounds : Int × Int}

theorem exists_setAggregator (length : Nat) (more : List Nat) (isBounds : Bounds bounds) :
    ∃ aggregator, setAggregator length more bounds = some aggregator ∧
      aggregator.sizeVector = (length :: more).map Nat.cast := by
  rw [setAggregator]
  split_ifs with hasBounds asserted
  · exact ⟨_, rfl, rfl⟩
  · rcases isBounds with none | ordered
    · rw [none] at hasBounds
      omega
    · exact absurd ordered asserted
  · exact ⟨_, rfl, rfl⟩

theorem aggregateFrom_run (overheadPositive : 1 ≤ overhead) {length : Nat} {rest : List Nat}
    (isSmall : (length : Int) < maxPayloadLen) {index : Int}
    (isBounds : Bounds bounds) {more : List Nat}
    (moreEq : more = rest.takeWhile fun (length : Nat) => decide ((length : Int) < maxPayloadLen)) :
    ∃ groups bounds' last, groups.flatten = (length :: more).map Nat.cast ∧
      (∀ group ∈ groups, group ≠ []) ∧ Bounds bounds' ∧ 0 ≤ last ∧
      (0 < (length :: more).sum → (∀ group ∈ groups, 0 < group.sum) ∧
        (bounds.1 ≠ 0 → bounds'.1 ≠ 0)) ∧
      ∀ fuel, aggregateFrom maxPayloadLen overhead (fuel + 1) (length :: rest) index bounds =
        (aggregateFrom maxPayloadLen overhead fuel (rest.drop more.length) (index + (last + 1))
          bounds').map fun result => (indicesFrom index groups ++ result.1, result.2) := by
  rcases exists_setAggregator length more isBounds with ⟨aggregator, aggregatorEq, sizes⟩
  have fits : ∀ size ∈ aggregator.sizeVector, size ≤ maxPayloadLen := by
    rw [sizes, List.forall_mem_map, forall_mem_cons]
    exact ⟨isSmall.le, fun other member => ((takeWhile_small moreEq).2.1 other member).le⟩
  rcases aggregator.aggregates bounds overheadPositive fits with
    ⟨groups, configEq, consecutive, nonempty, isBounds', positive⟩
  rw [sizes] at consecutive positive
  rcases exists_getLast_packetIndices groups (by
    rw [consecutive]
    exact cons_ne_nil _ _) with ⟨last, lastEq, lastNonnegative⟩
  refine ⟨groups, aggregator.calcMinMax (packetIndices groups) bounds.1 bounds.2, last, consecutive,
    nonempty, isBounds', lastNonnegative, ?_, fun fuel => ?_⟩
  · intro bytes
    apply positive
    rw [← Nat.cast_list_sum]
    exact Int.natCast_pos.mpr bytes
  · rw [aggregateFrom, if_pos isSmall, ← moreEq]
    dsimp only
    rw [aggregatorEq]
    simp only [bind_eq_bind, bind_some, configEq, lastEq, packetIndices_eq]
    cases aggregateFrom maxPayloadLen overhead fuel (rest.drop more.length) (index + (last + 1))
      (aggregator.calcMinMax (packetIndices groups) bounds.1 bounds.2) <;> rfl

theorem aggregateFrom_spec (maxPayloadLen : Int) (overheadPositive : 1 ≤ overhead) :
    ∀ (fuel : Nat) (lengths : List Nat) (index : Int) (bounds : Int × Int),
      lengths.length < fuel → 0 ≤ index → Bounds bounds →
      ∃ decisions bounds', aggregateFrom maxPayloadLen overhead fuel lengths index bounds =
          some (decisions, bounds') ∧
        Decided maxPayloadLen lengths decisions ∧
        (RunsHaveBytes maxPayloadLen lengths → bounds.1 ≠ 0 → bounds'.1 ≠ 0) := by
  intro fuel
  induction fuel with
  | zero =>
    intro lengths index bounds small
    omega
  | succ fuel induction =>
    intro lengths index bounds enough indexNonnegative isBounds
    cases lengths with
    | nil => exact ⟨[], bounds, rfl, .nil, fun _ nonzero => nonzero⟩
    | cons length rest =>
      rw [length_cons] at enough
      by_cases isSmall : (length : Int) < maxPayloadLen
      · rcases show ∃ more, more = rest.takeWhile fun (length : Nat) =>
          decide ((length : Int) < maxPayloadLen) from ⟨_, rfl⟩ with ⟨more, moreEq⟩
        rcases aggregateFrom_run overheadPositive isSmall isBounds moreEq with
          ⟨groups, bounds', last, consecutive, nonempty, isBounds', lastNonnegative, positive,
            aggregated⟩
        rcases induction (rest.drop more.length) (index + (last + 1)) bounds'
          (by rw [length_drop]; omega) (by omega) isBounds' with
          ⟨decisions, bounds'', laterEq, later, nonzero⟩
        rcases takeWhile_small moreEq with ⟨split, moreSmall, ends⟩
        have small : ∀ other ∈ length :: more, (other : Int) < maxPayloadLen :=
          forall_mem_cons.mpr ⟨isSmall, moreSmall⟩
        refine ⟨indicesFrom index groups ++ decisions, bounds'', ?_, ?_, ?_⟩
        · rw [aggregated, laterEq]
          rfl
        · have decided := Decided.run indexNonnegative (cons_ne_nil length more) small ends
            consecutive nonempty (fun bytes => (positive bytes).1) later
          rw [cons_append, ← split] at decided
          exact decided
        · intro runs positiveBound
          rw [split, ← cons_append, runsHaveBytes_run (cons_ne_nil length more) small ends] at runs
          exact nonzero runs.2 ((positive runs.1).2 positiveBound)
      · rcases induction rest index bounds (by omega) indexNonnegative isBounds with
          ⟨decisions, bounds', laterEq, later, nonzero⟩
        refine ⟨-1 :: decisions, bounds', ?_, .large (Int.not_lt.mp isSmall) later, ?_⟩
        · rw [aggregateFrom, if_neg isSmall, laterEq]
          rfl
        · rw [runsHaveBytes_large (Int.not_lt.mp isSmall)]
          exact nonzero

/-! ## Packets -/

theorem splitPartition_spec {packetBytes : Int} (partIx : Nat) (positive : 1 ≤ packetBytes) :
    ∀ (rounds : Nat) (first : Bool) (total remaining : Int) (bounds : Int × Int),
      ((rounds : Int) - 1) * packetBytes < remaining → bounds.1 ≠ 0 →
      (∀ packet ∈ (splitPartition packetBytes partIx rounds first total remaining bounds).1,
        1 ≤ packet.size) ∧
      (splitPartition packetBytes partIx rounds first total remaining bounds).2.1 ≠ 0 := by
  intro rounds
  induction rounds with
  | zero => exact fun _ _ _ bounds _ nonzero => ⟨by simp [splitPartition], nonzero⟩
  | succ rounds induction =>
    intro first total remaining bounds enough nonzero
    have size : 1 ≤ if packetBytes < remaining then packetBytes else remaining := by
      have nonnegative : 0 ≤ (rounds : Int) * packetBytes := by positivity
      push_cast at enough
      rw [Int.add_sub_cancel] at enough
      split_ifs <;> omega
    have left : ((rounds : Int) - 1) * packetBytes <
        remaining - if packetBytes < remaining then packetBytes else remaining := by
      push_cast at enough
      rw [Int.add_sub_cancel] at enough
      rw [Int.sub_mul, Int.one_mul]
      split_ifs <;> omega
    rw [splitPartition]
    dsimp only
    generalize (if packetBytes < remaining then packetBytes else remaining) = thisPacketBytes
      at size left ⊢
    have updated : (Vp8PartitionAggregator.updateMinMax bounds thisPacketBytes).1 ≠ 0 := by
      rw [Vp8PartitionAggregator.updateMinMax]
      dsimp only
      split_ifs <;> omega
    rcases induction false (total + thisPacketBytes) (remaining - thisPacketBytes) _ left
      updated with ⟨later, nonzeroLater⟩
    exact ⟨forall_mem_cons.mpr ⟨size, later⟩, nonzeroLater⟩

theorem generateAggregatesFrom_large (overheadPositive : 1 ≤ overhead) (room : 0 < maxPayloadLen)
    {length : Nat} (isLarge : maxPayloadLen ≤ length) (total : Int) (partIx : Nat)
    (nonzero : bounds.1 ≠ 0) :
    ∃ packets total' bounds', (∀ packet ∈ packets, 1 ≤ packet.size) ∧ bounds'.1 ≠ 0 ∧
      ∀ fuel entries,
        generateAggregatesFrom maxPayloadLen overhead (fuel + 1) ((length, -1) :: entries) total
          partIx bounds =
        (generateAggregatesFrom maxPayloadLen overhead fuel entries total' (partIx + 1) bounds').map
          (packets ++ ·) := by
  have bytes : 0 < (length : Int) := by omega
  rcases calcNumberOfFragments_spec bounds.2 overheadPositive bytes room nonzero with
    ⟨numFragments, numFragmentsEq, hasBytes⟩
  rcases show ∃ packetBytes, divide (length + numFragments - 1) numFragments = some packetBytes ∧
      (numFragments = -1 ∨ 1 ≤ packetBytes ∧
        (((numFragments.toNat : Nat) : Int) - 1) * packetBytes < length) from by
    rcases hasBytes with rfl | ⟨positive, lastHasBytes⟩
    · exact ⟨_, rfl, .inl rfl⟩
    · refine ⟨_, divide_of_nonneg (by omega) (by omega), .inr ⟨?_, ?_⟩⟩
      · exact (le_fragmentSize_iff (by omega)).mpr (by omega)
      · rw [Int.toNat_of_nonneg (by omega)]
        exact lastHasBytes with ⟨packetBytes, packetBytesEq, fragments⟩
  rcases show ∃ result, splitPartition packetBytes partIx numFragments.toNat true total length
      bounds = result from ⟨_, rfl⟩ with ⟨result, resultEq⟩
  refine ⟨result.1, total + (result.1.map InfoStruct.size).sum, result.2, ?_, ?_, fun fuel entries => ?_⟩
  · rcases fragments with rfl | ⟨positive, lastHasBytes⟩
    · rw [← resultEq]
      simp [splitPartition]
    · rw [← resultEq]
      exact (splitPartition_spec partIx positive _ true total length bounds lastHasBytes nonzero).1
  · rcases fragments with rfl | ⟨positive, lastHasBytes⟩
    · rw [← resultEq]
      exact nonzero
    · rw [← resultEq]
      exact (splitPartition_spec partIx positive _ true total length bounds lastHasBytes nonzero).2
  · rw [generateAggregatesFrom, if_pos rfl]
    simp only [numFragmentsEq, packetBytesEq, resultEq, bind_eq_bind, bind_some]
    cases generateAggregatesFrom maxPayloadLen overhead fuel entries
      (total + (result.1.map InfoStruct.size).sum) (partIx + 1) result.2 <;> rfl

theorem exists_of_generateAggregatesFrom_large {fuel length partIx : Nat} {total : Int}
    {entries : List (Nat × Int)} {packets : List InfoStruct}
    (packetsEq : generateAggregatesFrom maxPayloadLen overhead (fuel + 1) ((length, -1) :: entries)
      total partIx bounds = some packets) :
    ∃ earlier later total' bounds', packets = earlier ++ later ∧
      generateAggregatesFrom maxPayloadLen overhead fuel entries total' (partIx + 1) bounds' =
        some later := by
  rw [generateAggregatesFrom, if_pos rfl] at packetsEq
  rcases bind_eq_some_iff.mp packetsEq with ⟨numFragments, -, packetsEq⟩
  rcases bind_eq_some_iff.mp packetsEq with ⟨packetBytes, -, packetsEq⟩
  rcases bind_eq_some_iff.mp packetsEq with ⟨later, laterEq, packetsEq⟩
  exact ⟨_, later, _, _, (Option.some.inj packetsEq).symm, laterEq⟩

variable {lengths : List Nat}

theorem generateAggregatesFrom_group (maxPayloadLen overhead : Int) (fuel : Nat)
    (nonempty : lengths ≠ []) (decision : Int) (aggregated : decision ≠ -1)
    {entries : List (Nat × Int)}
    (ends : ∀ entry ∈ entries.head?, entry.2 ≠ decision) (total : Int) (partIx : Nat)
    (bounds : Int × Int) :
    ∃ packet : InfoStruct, packet.size = (lengths.sum : Nat) ∧
      generateAggregatesFrom maxPayloadLen overhead (fuel + 1)
        (lengths.map (·, decision) ++ entries) total partIx bounds =
      (generateAggregatesFrom maxPayloadLen overhead fuel entries (total + (lengths.sum : Nat))
        (partIx + lengths.length) bounds).map (packet :: ·) := by
  rcases exists_cons_of_ne_nil nonempty with ⟨length, rest, rfl⟩
  have collected : (rest.map (·, decision) ++ entries).takeWhile (fun entry => entry.2 = decision) =
      rest.map (·, decision) := by
    rw [takeWhile_append_of_pos, append_right_eq_self]
    · cases entries with
      | nil => rfl
      | cons entry entries =>
        rw [takeWhile_cons_of_neg]
        exact fun same => ends entry rfl (of_decide_eq_true same)
    · intro entry member
      rcases List.mem_map.mp member with ⟨other, -, rfl⟩
      exact decide_eq_true rfl
  refine ⟨{
    payloadStartPos := total
    size := ((length :: rest).sum : Nat)
    firstPartitionIx := partIx
    firstFragment := true }, rfl, ?_⟩
  have dropped : (rest.map (·, decision) ++ entries).drop
      (((length, decision) :: rest.map (·, decision)).length - 1) = entries := by
    rw [length_cons, Nat.add_sub_cancel]
    exact drop_left
  rw [map_cons, cons_append, generateAggregatesFrom, if_neg aggregated]
  simp only [collected, dropped]
  have lengths : (((length, decision) :: rest.map (·, decision)).map Prod.fst) = length :: rest := by
    rw [map_cons, List.map_map]
    exact congrArg (length :: ·) (List.map_id rest)
  rw [lengths, length_cons, length_map, length_cons]
  cases generateAggregatesFrom maxPayloadLen overhead fuel entries _ _ bounds <;> rfl

theorem zip_replicate (lengths : List Nat) (decision : Int) :
    lengths.zip (List.replicate lengths.length decision) = lengths.map (·, decision) := by
  induction lengths with
  | nil => rfl
  | cons length rest induction =>
    rw [length_cons, replicate_succ, zip_cons_cons, induction, map_cons]

theorem generateAggregatesFrom_groups (maxPayloadLen overhead : Int) (fuel : Nat)
    (groups : List (List Int)) :
    ∀ (run : List Nat) (index : Int) (entries : List (Nat × Int)) (total : Int) (partIx : Nat)
      (bounds : Int × Int),
      groups.flatten = run.map Nat.cast → (∀ group ∈ groups, group ≠ []) → 0 ≤ index →
      (∀ entry ∈ entries.head?, entry.2 = -1) →
      ∃ packets : List InfoStruct, packets.map InfoStruct.size = packetSizes groups ∧
        generateAggregatesFrom maxPayloadLen overhead (groups.length + fuel)
          (run.zip (indicesFrom index groups) ++ entries) total partIx bounds =
        (generateAggregatesFrom maxPayloadLen overhead fuel entries (total + (run.sum : Nat))
          (partIx + run.length) bounds).map (packets ++ ·) := by
  induction groups with
  | nil =>
    intro run index entries total partIx bounds consecutive _ _ _
    rcases map_eq_nil_iff.mp consecutive.symm with rfl
    refine ⟨[], rfl, ?_⟩
    rw [length_nil, Nat.zero_add, sum_nil, length_nil, Int.natCast_zero,
      Int.add_zero, Nat.add_zero, zip_nil_left, nil_append]
    cases generateAggregatesFrom maxPayloadLen overhead fuel entries total partIx bounds <;> rfl
  | cons group groups induction =>
    intro run index entries total partIx bounds consecutive nonempty nonnegative ends
    rcases map_eq_append_iff.mp consecutive.symm with ⟨first, rest, rfl, firstEq, restEq⟩
    have groupSome := nonempty group mem_cons_self
    have othersSome := fun other member => nonempty other (mem_cons_of_mem group member)
    have lengthEq : group.length = first.length := by
      rw [← firstEq, length_map]
    have entriesEq : (first ++ rest).zip (indicesFrom index (group :: groups)) ++ entries =
        first.map (·, index) ++ (rest.zip (indicesFrom (index + 1) groups) ++ entries) := by
      rw [indicesFrom, zip_append (by rw [length_replicate, lengthEq]), lengthEq,
        zip_replicate, append_assoc]
    rcases induction rest (index + 1) entries (total + (first.sum : Nat)) (partIx + first.length)
      bounds restEq.symm othersSome (by omega) ends with ⟨packets, sizes, laterEq⟩
    have firstSome : first ≠ [] := by
      rintro rfl
      exact groupSome firstEq.symm
    have laterDiffers : ∀ entry ∈ (rest.zip (indicesFrom (index + 1) groups) ++ entries).head?,
        entry.2 ≠ index := by
      intro entry isHead
      cases groups with
      | nil =>
        rw [indicesFrom, zip_nil_right, nil_append] at isHead
        have isLarge := ends entry isHead
        omega
      | cons other groups =>
        rcases exists_cons_of_ne_nil (othersSome other mem_cons_self) with
          ⟨size, sizes, rfl⟩
        cases rest with
        | nil => cases restEq
        | cons length rest =>
          cases isHead
          dsimp only
          omega
    rcases generateAggregatesFrom_group maxPayloadLen overhead (groups.length + fuel) firstSome
      index (by omega) laterDiffers total partIx bounds with ⟨packet, size, firstPacketEq⟩
    refine ⟨packet :: packets, ?_, ?_⟩
    · rw [map_cons, sizes, size, ← firstEq, Nat.cast_list_sum]
      rfl
    · rw [entriesEq, length_cons, Nat.add_right_comm, firstPacketEq, laterEq, Option.map_map,
        sum_append, length_append, Nat.add_assoc, Nat.cast_add, Int.add_assoc]
      rfl

theorem decided_head {decisions : List Int} (decided : Decided maxPayloadLen lengths decisions)
    (ends : ∀ next ∈ lengths.head?, maxPayloadLen ≤ (next : Nat)) :
    ∀ entry ∈ (lengths.zip decisions).head?, entry.2 = -1 := by
  intro entry isHead
  cases decided with
  | nil => cases isHead
  | large isLarge later =>
    cases isHead
    rfl
  | run nonnegative someLength small _ _ _ _ later =>
    rcases exists_cons_of_ne_nil someLength with ⟨length, rest, rfl⟩
    have isLarge := ends length rfl
    have isSmall := small length mem_cons_self
    omega

theorem length_le_length_flatten {groups : List (List Int)}
    (nonempty : ∀ group ∈ groups, group ≠ []) : groups.length ≤ groups.flatten.length := by
  induction groups with
  | nil => exact Nat.le_refl 0
  | cons group groups induction =>
    have positive := length_pos_iff.mpr (nonempty group mem_cons_self)
    have later := induction fun other member => nonempty other (mem_cons_of_mem _ member)
    rw [flatten_cons, length_append, length_cons]
    omega

/-- The packets that the decisions lead to have bytes exactly when the aggregated partitions do. -/
theorem generateAggregatesFrom_decided (overheadPositive : 1 ≤ overhead) (room : 0 < maxPayloadLen)
    {decisions : List Int} (decided : Decided maxPayloadLen lengths decisions) :
    ∀ (fuel : Nat) (total : Int) (partIx : Nat) (bounds : Int × Int), lengths.length < fuel →
      (RunsHaveBytes maxPayloadLen lengths → bounds.1 ≠ 0 →
        ∃ packets, generateAggregatesFrom maxPayloadLen overhead fuel (lengths.zip decisions) total
          partIx bounds = some packets ∧ ∀ packet ∈ packets, 1 ≤ packet.size) ∧
      (∀ packets, generateAggregatesFrom maxPayloadLen overhead fuel (lengths.zip decisions) total
          partIx bounds = some packets → (∀ packet ∈ packets, 1 ≤ packet.size) →
        RunsHaveBytes maxPayloadLen lengths) := by
  induction decided with
  | nil =>
    intro fuel total partIx bounds enough
    rcases Nat.exists_eq_succ_of_ne_zero (show fuel ≠ 0 by omega) with ⟨fuel, rfl⟩
    exact ⟨fun _ _ => ⟨[], rfl, by simp⟩, fun _ _ _ => runsHaveBytes_nil⟩
  | @large length lengths decisions isLarge later induction =>
    intro fuel total partIx bounds enough
    rcases Nat.exists_eq_succ_of_ne_zero (show fuel ≠ 0 by omega) with ⟨fuel, rfl⟩
    rw [length_cons] at enough
    rw [zip_cons_cons, runsHaveBytes_large isLarge]
    constructor
    · intro runs nonzero
      rcases generateAggregatesFrom_large overheadPositive room isLarge total partIx nonzero with
        ⟨packets, total', bounds', nonempty, nonzero', split⟩
      rcases (induction fuel total' (partIx + 1) bounds' (by omega)).1 runs nonzero' with
        ⟨others, othersEq, othersNonempty⟩
      refine ⟨packets ++ others, ?_, forall_mem_append.mpr ⟨nonempty, othersNonempty⟩⟩
      rw [split, othersEq]
      rfl
    · intro packets packetsEq nonempty
      rcases exists_of_generateAggregatesFrom_large packetsEq with
        ⟨earlier, others, total', bounds', rfl, othersEq⟩
      exact (induction fuel total' (partIx + 1) bounds' (by omega)).2 others othersEq
        (forall_mem_append.mp nonempty).2
  | @run run rest index groups decisions nonnegative someLength small ends consecutive nonempty
      positive later induction =>
      intro fuel total partIx bounds enough
      have runLength := congrArg List.length consecutive
      rw [length_map] at runLength
      have fewer := length_le_length_flatten nonempty
      rw [length_append] at enough
      rcases show ∃ left, fuel = groups.length + left from ⟨fuel - groups.length, by omega⟩ with
        ⟨fuel, rfl⟩
      rcases generateAggregatesFrom_groups maxPayloadLen overhead fuel groups run index
        (rest.zip decisions) total partIx bounds consecutive nonempty nonnegative
        (decided_head later ends) with ⟨packets, sizes, split⟩
      rw [← zip_append (by rw [length_indicesFrom, runLength])] at split
      rw [split, runsHaveBytes_run someLength small ends]
      rcases induction fuel (total + (run.sum : Nat)) (partIx + run.length) bounds (by omega) with
        ⟨whenBytes, bytesWhen⟩
      constructor
      · intro runs nonzero
        rcases whenBytes runs.2 nonzero with ⟨others, othersEq, othersNonempty⟩
        refine ⟨packets ++ others, by rw [othersEq]; rfl,
          forall_mem_append.mpr ⟨fun packet member => ?_, othersNonempty⟩⟩
        have isSize : packet.size ∈ packetSizes groups := sizes ▸ List.mem_map_of_mem member
        rcases List.mem_map.mp isSize with ⟨group, inGroups, sizeEq⟩
        rw [← sizeEq]
        exact positive runs.1 group inGroups
      · intro all allEq allNonempty
        rcases map_eq_some_iff.mp allEq with ⟨others, othersEq, rfl⟩
        rcases forall_mem_append.mp allNonempty with ⟨packetsNonempty, othersNonempty⟩
        refine ⟨?_, bytesWhen others othersEq othersNonempty⟩
        have sum : (run.sum : Int) = (packets.map InfoStruct.size).sum := by
          rw [sizes, packetSizes, ← sum_flatten, consecutive, Nat.cast_list_sum]
        have somePacket : packets.map InfoStruct.size ≠ [] := by
          rw [sizes, packetSizes]
          intro none
          rw [map_eq_nil_iff.mp none] at consecutive
          exact someLength (map_eq_nil_iff.mp consecutive.symm)
        have bytes := sum_pos _ (List.forall_mem_map.mpr packetsNonempty) somePacket
        omega

theorem generatePacketsBalancedAggregates_spec (format : RtpFormatVp8)
    (accepted : format.hdrInfo.overhead + 1 ≤ format.maxPayloadLen) :
    (∃ packets, format.generatePacketsBalancedAggregates = some (0, packets) ∧
      ∀ packet ∈ packets, 1 ≤ packet.size) ↔
    RunsHaveBytes (format.maxPayloadLen - format.hdrInfo.overhead) format.fragmentationLength := by
  rcases aggregateFrom_spec (format.maxPayloadLen - format.hdrInfo.overhead)
    format.hdrInfo.overhead_pos (format.fragmentationLength.length + 1)
    format.fragmentationLength 0 (-1, -1) (Nat.lt_succ_self _) (Int.le_refl 0) (.inl rfl) with
    ⟨decisions, bounds, aggregatedEq, decided, nonzero⟩
  rcases generateAggregatesFrom_decided format.hdrInfo.overhead_pos (by omega) decided
    (format.fragmentationLength.length + 1) 0 0 bounds (Nat.lt_succ_self _) with
    ⟨whenBytes, bytesWhen⟩
  rw [generatePacketsBalancedAggregates, if_neg (by omega)]
  simp only [aggregatedEq, bind_eq_bind, bind_some]
  constructor
  · intro ⟨packets, packetsEq, nonempty⟩
    rcases bind_eq_some_iff.mp packetsEq with ⟨packets, generatedEq, same⟩
    cases same
    exact bytesWhen packets generatedEq nonempty
  · intro runs
    rcases whenBytes runs (nonzero runs (by decide)) with ⟨packets, packetsEq, nonempty⟩
    exact ⟨packets, by rw [packetsEq]; rfl, nonempty⟩

end RtpFormatVp8

end ZyWebRtc.Vp8
