import ZyWebRtc.Rtcp.TmmbrSet

namespace ZyWebRtc.Rtcp

/-! `TMMBRHelp::FindTMMBRBoundingSet`: the requests that bound the bit rate at some packet rate.
The slots of the candidate set are a list, in which an empty slot has a bit rate of zero. -/

/-- A quotient of floating point numbers, with the quotient of two finite ones taken as exact. -/
inductive PacketRate
  | number (value : ℚ)
  | infinite
  | undefined
  deriving DecidableEq

namespace PacketRate

def quotient (numerator denominator : Nat) : PacketRate :=
  if denominator = 0 then if numerator = 0 then .undefined else .infinite
  else .number (numerator / denominator)

/-- What is undefined compares as false. -/
def le : PacketRate → PacketRate → Bool
  | number first, number second => first ≤ second
  | number _, infinite => true
  | infinite, infinite => true
  | _, _ => false

def lt : PacketRate → PacketRate → Bool
  | number first, number second => first < second
  | number _, infinite => true
  | _, _ => false

end PacketRate

/-- Where the line of an entry falls to zero. -/
def maxPacketRate (element : SetElement) : PacketRate :=
  .quotient (element.tmmbr * 1000).toNat (8 * element.packetOH).toNat

/-- Where the line of the current candidate meets that of the last entry. The differences are
unsigned. -/
def packetRate (current last : SetElement) : PacketRate :=
  .quotient ((current.tmmbr - last.tmmbr).toNat * 1000)
    (8 * (current.packetOH - last.packetOH)).toNat

/-! ## The slots -/

/-- The slot holds a candidate. -/
def SetElement.used (element : SetElement) : Bool := 0 < element.tmmbr

/-- The loop that moves the largest overhead of the first slots behind the others. -/
def bubble : (steps : Nat) → List SetElement → List SetElement
  | steps + 1, first :: second :: rest =>
    if first.packetOH > second.packetOH then second :: bubble steps (first :: rest)
    else first :: bubble steps (second :: rest)
  | _, slots => slots

def bubbleRounds : (count : Nat) → List SetElement → List SetElement
  | 0, slots => slots
  | count + 1, slots => bubbleRounds count (bubble count slots)

def sortByOverhead (slots : List SetElement) : List SetElement :=
  bubbleRounds slots.length slots

/-- The loop over the slots behind a candidate, for the least bit rate of its overhead. -/
def leastIndex (packetOH : UInt32) : List SetElement → (j : Nat) → (minTMMBR : UInt32) →
    (minIndex : Nat) → Nat
  | [], _, _, minIndex => minIndex
  | element :: rest, j, minTMMBR, minIndex =>
    if element.packetOH = packetOH ∧ element.tmmbr < minTMMBR then
      leastIndex packetOH rest (j + 1) element.tmmbr j
    else leastIndex packetOH rest (j + 1) minTMMBR minIndex

def clearOverhead (packetOH : UInt32) (element : SetElement) : SetElement :=
  if element.packetOH = packetOH then .zero else element

/-- Clear the slots of an overhead, except for one. -/
def clearOthers (packetOH : UInt32) : List SetElement → (keep : Nat) → List SetElement
  | [], _ => []
  | element :: rest, 0 => element :: rest.map (clearOverhead packetOH)
  | element :: rest, keep + 1 => clearOverhead packetOH element :: clearOthers packetOH rest keep

def discardSameOverhead (i : Nat) (slots : List SetElement) : List SetElement :=
  match slots.drop i with
  | [] => slots
  | element :: rest =>
    if element.used then
      (slots.take i).map (clearOverhead element.packetOH) ++
        clearOthers element.packetOH (element :: rest)
          (leastIndex element.packetOH rest 1 element.tmmbr 0)
    else slots

def discardFrom : (count i : Nat) → List SetElement → List SetElement
  | 0, _, slots => slots
  | count + 1, i, slots => discardFrom count (i + 1) (discardSameOverhead i slots)

/-- Step 2: of the candidates with the same overhead keep the one with the lowest bit rate. -/
def discardHigherBitRates (slots : List SetElement) : List SetElement :=
  discardFrom slots.length 0 slots

/-- The loop for the lowest bit rate, and the last one of several. -/
def lowestIndex : List SetElement → (i : Nat) → (minTMMBR : UInt32) → (minIndex : Nat) → Nat
  | [], _, _, minIndex => minIndex
  | element :: rest, i, minTMMBR, minIndex =>
    if element.used ∧ element.tmmbr ≤ minTMMBR then lowestIndex rest (i + 1) element.tmmbr i
    else lowestIndex rest (i + 1) minTMMBR minIndex

/-- Step 3: the tuple with the lowest bit rate. The search begins with the first candidate. -/
def selectLowest (slots : List SetElement) : Nat :=
  let minIndex := if slots.any SetElement.used then slots.findIdx SetElement.used else 0
  let minTMMBR := ((slots.find? SetElement.used).map SetElement.tmmbr).getD 0
  lowestIndex slots 0 minTMMBR minIndex

/-- A candidate that step 4 discards. -/
def lowerOverhead (packetOH : UInt32) (element : SetElement) : Bool :=
  element.used ∧ element.packetOH < packetOH

def discardLowerOverhead (packetOH : UInt32) (slots : List SetElement) : List SetElement :=
  slots.map fun element => if lowerOverhead packetOH element then .zero else element

def takeFirst : List SetElement → Option (SetElement × List SetElement)
  | [] => none
  | element :: rest =>
    if element.used then some (element, .zero :: rest)
    else (takeFirst rest).map fun found => (found.1, element :: found.2)

/-! ## The selection -/

/-- An entry of the bounding set, with the rate at which its line meets the line of the entry
before it, and the rate at which it falls to zero. -/
structure SelectedEntry where
  element : SetElement
  intersection : PacketRate
  maxPR : PacketRate

/-- The state of the loop over steps 5 to 9. The last selected entry is the first one of the list;
entries that have been removed are left out. -/
structure Selection where
  slots : List SetElement
  numCandidates : Nat
  selected : List SelectedEntry
  current : SetElement
  getNewCandidate : Bool

namespace Selection

/-- Without a remaining tuple the current candidate stays what it is. -/
def fetch (selection : Selection) : Selection :=
  if selection.getNewCandidate then
    match takeFirst selection.slots with
    | none => selection
    | some (current, slots) => { selection with current, slots }
  else selection

/-- Steps 6 to 8. There is no value where an entry before the first one is looked at, or one
behind the allocated ones is set. -/
def compare (size : Nat) (selection : Selection) : Option Selection :=
  match selection.selected with
  | [] => none
  | last :: below =>
    let rate := packetRate selection.current last.element
    if rate.le last.intersection then
      some { selection with selected := below, getNewCandidate := false }
    else if rate.lt last.maxPR then
      if size ≤ selection.selected.length then none
      else some { selection with
        selected := { element := selection.current, intersection := rate,
                      maxPR := maxPacketRate selection.current } :: selection.selected
        numCandidates := selection.numCandidates - 1
        getNewCandidate := true }
    else some { selection with
      numCandidates := selection.numCandidates - 1, getNewCandidate := true }

/-- The loop, which ends when no candidate is left. -/
def loop (size : Nat) : (fuel : Nat) → Selection → Option Selection
  | 0, _ => none
  | fuel + 1, selection => do
    let next ← selection.fetch.compare size
    if 0 < next.numCandidates then loop size fuel next else pure next

/-- The entries, the first one first. -/
def entries (selection : Selection) : List SetElement :=
  (selection.selected.map SelectedEntry.element).reverse

end Selection

/-- Steps 3 to 9 on the slots that step 2 leaves. Each round of the loop removes an entry or
counts a candidate, so twice their number is enough fuel. -/
def selectBounding (numCandidates : Nat) (slots : List SetElement) :
    Option (List SetElement) := do
  let minIndex := selectLowest slots
  let first ← slots[minIndex]?
  let others := slots.set minIndex .zero
  let remaining := numCandidates - 1 - others.countP (lowerOverhead first.packetOH)
  if remaining = 0 then pure [first]
  else do
    let selection ← Selection.loop slots.length (2 * numCandidates + 1) {
      slots := discardLowerOverhead first.packetOH others
      numCandidates := remaining
      selected := [{ element := first, intersection := .number 0, maxPR := maxPacketRate first }]
      current := .zero
      getNewCandidate := true }
    pure selection.entries

/-- The inner function. One candidate needs no search; any other number of used slots there is a
failure, as no entry is for the caller. -/
def boundingEntries (numCandidates : Nat) (slots : List SetElement) :
    Option (List SetElement) :=
  if numCandidates = 1 then
    let found := slots.filter SetElement.used
    some (if found.length = 1 then found else [])
  else selectBounding numCandidates (discardHigherBitRates (sortByOverhead slots))

/-- The slots of the local set: the candidates, and behind them the empty slots. -/
def candidateSlots (candidateSet : TMMBRSet) : List SetElement :=
  let candidates := candidateSet.data.filter SetElement.used
  candidates ++ List.replicate (candidateSet.sizeOfSet - candidates.length) .zero

/-- The number that is returned, and the entries of the bounding set up to it. There is no value
where an assertion fails. -/
def findTMMBRBoundingSet (candidateSet : TMMBRSet) : Option (Int × List SetElement) :=
  if candidateSet.data.any fun element => !element.used && element.packetOH != 0 then none
  else
    let numSetCandidates := (candidateSet.data.filter SetElement.used).length
    if numSetCandidates = 0 then some (0, [])
    else do
      let found ← boundingEntries numSetCandidates (candidateSlots candidateSet)
      if found.length < 1 ∨ candidateSet.sizeOfSet < found.length then pure (-1, [])
      else pure (found.length, found)

end ZyWebRtc.Rtcp
