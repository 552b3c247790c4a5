import ZyWebRtc.Foundation.BranchAndBound

namespace ZyWebRtc.Vp8

/-! `PartitionTreeNode` and `Vp8PartitionAggregator`: the search for the packets that small
partitions are sent in. Sizes are numbers of bytes, far from the ends of an `int`. -/

/-- `std::numeric_limits<int>::max()`. -/
def intMax : Int := 2147483647

/-- A node decides for the partitions up to one of them which packet they start in. The size vector
holds the partitions behind that one. Of the parents only the packet starts are kept, from the
nearest one to the root. -/
structure PartitionTreeNode where
  packetStart : Bool
  parents : List Bool
  thisSize : Int
  sizeVector : List Int
  maxParentSize : Int
  minParentSize : Int
  deriving DecidableEq, Repr

namespace PartitionTreeNode

/-- The packets on the way from the root, which starts one by definition. -/
def countPackets : (packetStart : Bool) → (parents : List Bool) → Nat
  | _, [] => 1
  | false, start :: parents => countPackets start parents
  | true, start :: parents => 1 + countPackets start parents

def numPackets (node : PartitionTreeNode) : Nat := countPackets node.packetStart node.parents

def cost (penalty : Int) (node : PartitionTreeNode) : Int :=
  let cost :=
    if node.sizeVector = [] then
      max node.maxParentSize node.thisSize - min node.minParentSize node.thisSize
    else max node.maxParentSize node.thisSize - node.minParentSize
  cost + node.numPackets * penalty

/-- The left child continues the packet, the right one starts another. -/
def createChildren (maxSize : Int) (node : PartitionTreeNode) :
    Option PartitionTreeNode × Option PartitionTreeNode :=
  match node.sizeVector with
  | [] => (none, none)
  | next :: rest =>
    (if node.thisSize + next ≤ maxSize then
        some { node with
          packetStart := false
          parents := node.packetStart :: node.parents
          thisSize := node.thisSize + next
          sizeVector := rest }
      else none,
    if 0 < node.thisSize then
        some {
          packetStart := true
          parents := node.packetStart :: node.parents
          thisSize := next
          sizeVector := rest
          maxParentSize := max node.maxParentSize node.thisSize
          minParentSize := min node.minParentSize node.thisSize }
      else none)

/-- Every level takes a partition, so their number bounds the recursion. -/
def getOptimalNode (maxSize penalty : Int) (node : PartitionTreeNode) : PartitionTreeNode :=
  BranchAndBound.search (createChildren maxSize) (cost penalty) node.sizeVector.length node

end PartitionTreeNode

/-- The sizes of the partitions, and what the packets before them give the root. -/
structure Vp8PartitionAggregator where
  first : Int
  rest : List Int
  minParentSize : Int
  maxParentSize : Int
  nonnegative : ∀ size ∈ first :: rest, 0 ≤ size
  maxNonnegative : 0 ≤ maxParentSize

namespace Vp8PartitionAggregator

section

variable (aggregator : Vp8PartitionAggregator)

def sizeVector : List Int :=
  aggregator.first :: aggregator.rest

def new (first : Nat) (rest : List Nat) : Vp8PartitionAggregator where
  first := first
  rest := rest.map Nat.cast
  minParentSize := intMax
  maxParentSize := 0
  nonnegative := by
    intro size member
    rcases List.mem_cons.mp member with rfl | later
    · exact Int.natCast_nonneg first
    · rcases List.mem_map.mp later with ⟨length, -, rfl⟩
      exact Int.natCast_nonneg length
  maxNonnegative := Int.le_refl 0

def setPriorMinMax (minSize maxSize : Int)
    (asserted : 0 ≤ minSize ∧ minSize ≤ maxSize) : Vp8PartitionAggregator :=
  { aggregator with
    minParentSize := minSize
    maxParentSize := maxSize
    maxNonnegative := asserted.1.trans asserted.2 }

def root : PartitionTreeNode where
  packetStart := true
  parents := []
  thisSize := aggregator.first
  sizeVector := aggregator.rest
  maxParentSize := aggregator.maxParentSize
  minParentSize := aggregator.minParentSize

/-- The loop of `FindOptimalConfiguration` from the last partition on; it has no value when the
nodes end before the partitions. -/
def fillConfig : (partitions : Nat) → (starts : List Bool) → (packetIndex : Int) → Option (List Int)
  | 0, _, _ => some []
  | _ + 1, [], _ => none
  | partitions + 1, start :: parents, packetIndex =>
    (fillConfig partitions parents (if start then packetIndex - 1 else packetIndex)).map
      (· ++ [packetIndex])

def findOptimalConfiguration (maxSize penalty : Int) :
    Option (List Int) :=
  let opt := aggregator.root.getOptimalNode maxSize penalty
  fillConfig aggregator.sizeVector.length (opt.packetStart :: opt.parents)
    ((opt.numPackets : Int) - 1)

def updateMinMax (bounds : Int × Int) (thisSize : Int) : Int × Int :=
  (if thisSize < bounds.1 then thisSize else bounds.1,
    if bounds.2 < thisSize then thisSize else bounds.2)

/-- The loops of `CalcMinMax`, in a packet with the index and size so far. -/
def calcMinMaxFrom : (entries : List (Int × Int)) → (index thisSize : Int) → Int × Int → Int × Int
  | [], _, thisSize, bounds => updateMinMax bounds thisSize
  | (other, size) :: entries, index, thisSize, bounds =>
    if other = index then calcMinMaxFrom entries index (thisSize + size) bounds
    else calcMinMaxFrom entries other size (updateMinMax bounds thisSize)

def calcMinMax (config : List Int) (minSize maxSize : Int) :
    Int × Int :=
  let minSize := if minSize < 0 then intMax else minSize
  let maxSize := if maxSize < 0 then 0 else maxSize
  match config.zip aggregator.sizeVector with
  | [] => (minSize, maxSize)
  | (index, size) :: entries => calcMinMaxFrom entries index size (minSize, maxSize)

end

end Vp8PartitionAggregator

end ZyWebRtc.Vp8
