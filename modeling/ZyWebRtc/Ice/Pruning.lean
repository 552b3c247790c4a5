import ZyWebRtc.Foundation.WrappingOrder
import ZyWebRtc.Ice.PairPriority

namespace ZyWebRtc.Ice.ChannelSystem

/-! What `SortConnections` prunes, and when the connections can be put in order. -/

open Option

/-- The state in which the connections are sorted. -/
def sorting (system : ChannelSystem) (now : UInt32) : ChannelSystem :=
  (system.updateConnectionStates now).modifyChannel fun channel =>
    { channel with sortDirty := false }

/-- The state in which connections are pruned. -/
def chosen (system : ChannelSystem) (now : UInt32) : ChannelSystem :=
  (system.sorting now).orderConnections.chooseBest

def networks (system : ChannelSystem) : List Nat :=
  (system.channel.connections.filterMap system.networkOf).dedup

theorem sortConnections_eq (system : ChannelSystem) (now : UInt32) :
    system.sortConnections now = ((system.sorting now).networks.foldl pruneNetwork
        (system.chosen now)).updateWritableState.updateChannelState.logSort := rfl

variable {system before after : ChannelSystem}

/-! ## Pruning -/

/-- The fields of a connection that pruning leaves alone. -/
def fixedPart (connection : Connection) : Nat × Nat × Candidate :=
  (connection.port, connection.localCandidateIndex, connection.remoteCandidate)

/-- Nothing but states of connections has changed. -/
structure SameFrame (before after : ChannelSystem) : Prop where
  ports : after.ports = before.ports
  listed : after.channel.connections = before.channel.connections
  best : after.channel.bestConnection = before.channel.bestConnection
  fixed : ∀ id, (after.connection? id).map fixedPart = (before.connection? id).map fixedPart

theorem SameFrame.refl (system : ChannelSystem) : SameFrame system system :=
  ⟨rfl, rfl, rfl, fun _ => rfl⟩

theorem SameFrame.trans {middle : ChannelSystem} (first : SameFrame before middle)
    (second : SameFrame middle after) : SameFrame before after where
  ports := second.ports.trans first.ports
  listed := second.listed.trans first.listed
  best := second.best.trans first.best
  fixed id := (second.fixed id).trans (first.fixed id)

variable {change : Connection → Connection}

theorem connection?_modifyConnection (id other : Nat)
    (sameId : ∀ connection, (change connection).id = connection.id) :
    (system.modifyConnection id change).connection? other =
      (system.connection? other).map fun connection =>
        if connection.id = id then change connection else connection := by
  rw [connection?, connection?, modifyConnection, List.find?_map]
  have same : ((fun connection : Connection => decide (connection.id = other)) ∘
      fun connection => if connection.id = id then change connection else connection) =
      fun connection : Connection => decide (connection.id = other) := by
    funext connection
    change decide ((if connection.id = id then change connection else connection).id = other) = _
    split
    · rw [sameId]
    · rfl
  rw [same]

theorem id_of_connection? {id : Nat} {connection : Connection}
    (found : system.connection? id = some connection) : connection.id = id := by
  simpa using List.find?_some found

theorem connection?_modifyConnection_other {id other : Nat} (different : other ≠ id)
    (sameId : ∀ connection, (change connection).id = connection.id) :
    (system.modifyConnection id change).connection? other = system.connection? other := by
  rw [connection?_modifyConnection id other sameId]
  cases found : system.connection? other with
  | none => rfl
  | some connection =>
    rw [map_some, if_neg]
    rw [id_of_connection? found]
    exact different

theorem sameFrame_modifyConnection (id : Nat)
    (sameId : ∀ connection, (change connection).id = connection.id)
    (sameFixed : ∀ connection, fixedPart (change connection) = fixedPart connection) :
    SameFrame system (system.modifyConnection id change) := by
  refine ⟨rfl, rfl, rfl, fun other => ?_⟩
  rw [connection?_modifyConnection id other sameId, Option.map_map]
  apply congrArg (fun part => (system.connection? other).map part)
  funext connection
  change fixedPart (if connection.id = id then change connection else connection) = _
  split
  · exact sameFixed connection
  · rfl

/-- Pruning changes the pruned connection alone. -/
structure PrunesOnly (id : Nat) (before after : ChannelSystem) : Prop where
  frame : SameFrame before after
  others : ∀ other, other ≠ id → after.connection? other = before.connection? other

theorem PrunesOnly.refl (id : Nat) (system : ChannelSystem) : PrunesOnly id system system :=
  ⟨.refl system, fun _ _ => rfl⟩

theorem PrunesOnly.trans {id : Nat} {middle : ChannelSystem} (first : PrunesOnly id before middle)
    (second : PrunesOnly id middle after) : PrunesOnly id before after :=
  ⟨first.frame.trans second.frame, fun other different =>
    (second.others other different).trans (first.others other different)⟩

theorem prunesOnly_modifyConnection (id : Nat)
    (sameId : ∀ connection, (change connection).id = connection.id)
    (sameFixed : ∀ connection, fixedPart (change connection) = fixedPart connection) :
    PrunesOnly id system (system.modifyConnection id change) :=
  ⟨sameFrame_modifyConnection id sameId sameFixed,
    fun _ different => connection?_modifyConnection_other different sameId⟩

theorem prunesOnly_onConnectionStateChange (id : Nat) (notWritable : system.isWritable id = false) :
    PrunesOnly id system (system.onConnectionStateChange id) := by
  rw [onConnectionStateChange, if_neg]
  · exact ⟨⟨rfl, rfl, rfl, fun _ => rfl⟩, fun _ _ => rfl⟩
  · rintro ⟨-, -, -, writable⟩
    rw [notWritable] at writable
    cases writable

theorem prunesOnly_setWriteState (id : Nat) :
    PrunesOnly id system (system.setWriteState id .writeTimeout) := by
  rw [setWriteState]
  split
  · rename_i connection found
    split
    · exact .refl id system
    · have changed : PrunesOnly id system
          (system.modifyConnection id ({ · with writeState := .writeTimeout })) :=
        prunesOnly_modifyConnection id (fun _ => rfl) fun _ => rfl
      have lookup : (system.modifyConnection id
            ({ · with writeState := .writeTimeout })).connection? id =
          some { connection with writeState := .writeTimeout } := by
        have mapped := @connection?_modifyConnection system
          ({ · with writeState := .writeTimeout }) id id fun _ => rfl
        rw [found, map_some, if_pos (id_of_connection? found)] at mapped
        exact mapped
      have notWritable : (system.modifyConnection id
          ({ · with writeState := .writeTimeout })).isWritable id = false := by
        rw [isWritable, lookup]
        rfl
      apply (changed.trans (prunesOnly_onConnectionStateChange id notWritable)).trans
      apply prunesOnly_modifyConnection id
      · intro connection
        split <;> rfl
      · intro connection
        split <;> rfl
  · exact .refl id system

theorem prunesOnly_prune (id : Nat) : PrunesOnly id system (system.prune id) := by
  rw [prune]
  split
  · split
    · exact .refl id system
    · have changed : PrunesOnly id system
          (system.modifyConnection id ({ · with pruned := true, requests := [] })) :=
        prunesOnly_modifyConnection id (fun _ => rfl) fun _ => rfl
      exact changed.trans (prunesOnly_setWriteState id)
  · exact .refl id system

/-! ## What depends on the frame -/

section Frame

variable (frame : SameFrame before after)

include frame

theorem SameFrame.networkOf (id : Nat) : after.networkOf id = before.networkOf id := by
  have fixed := frame.fixed id
  rw [ChannelSystem.networkOf, ChannelSystem.networkOf]
  cases found : before.connection? id with
  | none =>
    rw [found] at fixed
    rw [map_eq_none_iff.mp fixed]
    rfl
  | some connection =>
    rw [found] at fixed
    rcases map_eq_some_iff.mp fixed with ⟨other, otherFound, same⟩
    rw [fixedPart, fixedPart, Prod.mk.injEq] at same
    rw [otherFound]
    simp only [bind_eq_bind, bind_some, ChannelSystem.portOf, port?, frame.ports, same.1]

theorem SameFrame.getBestConnectionOnNetwork (network : Nat) :
    after.getBestConnectionOnNetwork network = before.getBestConnectionOnNetwork network := by
  have same : after.networkOf = before.networkOf := funext frame.networkOf
  rw [ChannelSystem.getBestConnectionOnNetwork, ChannelSystem.getBestConnectionOnNetwork,
    frame.best, frame.listed, same]

theorem SameFrame.portOf {connection same : Connection}
    (sameFixed : fixedPart same = fixedPart connection) :
    after.portOf same = before.portOf connection := by
  rw [fixedPart, fixedPart, Prod.mk.injEq] at sameFixed
  rw [ChannelSystem.portOf, ChannelSystem.portOf, port?, port?, frame.ports, sameFixed.1]

theorem SameFrame.priority {connection same : Connection}
    (sameFixed : fixedPart same = fixedPart connection) :
    after.priority same = before.priority connection := by
  have samePort := frame.portOf sameFixed
  rw [fixedPart, fixedPart, Prod.mk.injEq, Prod.mk.injEq] at sameFixed
  rw [ChannelSystem.priority, ChannelSystem.priority, samePort, sameFixed.2.1, sameFixed.2.2]

theorem SameFrame.generation {connection same : Connection}
    (sameFixed : fixedPart same = fixedPart connection) :
    after.generation same = before.generation connection := by
  have samePort := frame.portOf sameFixed
  rw [fixedPart, fixedPart, Prod.mk.injEq, Prod.mk.injEq] at sameFixed
  rw [ChannelSystem.generation, ChannelSystem.generation, samePort, sameFixed.2.2]

theorem SameFrame.compareConnectionCandidates {first second firstAfter secondAfter : Connection}
    (firstSame : fixedPart firstAfter = fixedPart first)
    (secondSame : fixedPart secondAfter = fixedPart second) :
    after.compareConnectionCandidates firstAfter secondAfter =
      before.compareConnectionCandidates first second := by
  rw [ChannelSystem.compareConnectionCandidates, ChannelSystem.compareConnectionCandidates,
    frame.priority firstSame, frame.priority secondSame, frame.generation firstSame,
    frame.generation secondSame]

theorem SameFrame.isNoBetter (primier id : Nat) :
    after.isNoBetter primier id = before.isNoBetter primier id := by
  have firstFixed := frame.fixed primier
  have otherFixed := frame.fixed id
  rw [ChannelSystem.isNoBetter, ChannelSystem.isNoBetter]
  cases foundFirst : before.connection? primier with
  | none =>
    rw [foundFirst] at firstFixed
    rw [map_eq_none_iff.mp firstFixed]
  | some first =>
    rw [foundFirst] at firstFixed
    rcases map_eq_some_iff.mp firstFixed with ⟨firstAfter, foundAfter, firstSame⟩
    rw [foundAfter]
    cases foundOther : before.connection? id with
    | none =>
      rw [foundOther] at otherFixed
      rw [map_eq_none_iff.mp otherFixed]
    | some other =>
      rw [foundOther] at otherFixed
      rcases map_eq_some_iff.mp otherFixed with ⟨otherAfter, foundOther, otherSame⟩
      rw [foundOther]
      simp only [frame.compareConnectionCandidates firstSame otherSame]

end Frame

/-! ## The pruned connections -/

/-- A connection behind a writable one that has been chosen for its network, whose candidates
are no better than those. -/
def Prunable (system : ChannelSystem) (id : Nat) : Prop :=
  ∃ network primier, system.networkOf id = some network ∧
    system.getBestConnectionOnNetwork network = some primier ∧
    system.isWritable primier = true ∧ id ≠ primier ∧ system.isNoBetter primier id = true

theorem networkOf_primier {network primier : Nat}
    (isPrimier : system.getBestConnectionOnNetwork network = some primier) :
    system.networkOf primier = some network := by
  have found (chosen : system.channel.connections.find? (system.networkOf · = some network) =
      some primier) : system.networkOf primier = some network := by
    simpa using List.find?_some chosen
  rw [getBestConnectionOnNetwork] at isPrimier
  split at isPrimier
  · split at isPrimier
    · rename_i best isBest onNetwork
      cases isPrimier
      exact onNetwork
    · exact found isPrimier
  · exact found isPrimier

theorem not_prunable_primier {network primier : Nat}
    (isPrimier : system.getBestConnectionOnNetwork network = some primier) :
    ¬ Prunable system primier := by
  rintro ⟨other, chosen, onOther, isChosen, -, different, -⟩
  rw [networkOf_primier isPrimier, Option.some.injEq] at onOther
  rw [← onOther, isPrimier, Option.some.injEq] at isChosen
  exact different isChosen

theorem not_prunable_best {best : Nat} (isBest : system.channel.bestConnection = some best) :
    ¬ Prunable system best := by
  intro prunable
  have onNetwork := prunable
  rcases onNetwork with ⟨network, -, onNetwork, -⟩
  apply not_prunable_primier _ prunable
  · exact network
  · rw [getBestConnectionOnNetwork, isBest]
    simp only [onNetwork, if_true]

/-- Only prunable connections have been pruned. -/
structure PrunesBehind (before after : ChannelSystem) : Prop where
  frame : SameFrame before after
  kept : ∀ id, ¬ Prunable before id → after.connection? id = before.connection? id

theorem PrunesBehind.refl (system : ChannelSystem) : PrunesBehind system system :=
  ⟨.refl system, fun _ _ => rfl⟩

theorem PrunesBehind.prunesOnly {id : Nat} (behind : PrunesBehind before system)
    (only : PrunesOnly id system after) (prunable : Prunable before id) :
    PrunesBehind before after := by
  refine ⟨behind.frame.trans only.frame, fun other kept => ?_⟩
  have different : other ≠ id := fun same => kept (same ▸ prunable)
  rw [only.others other different, behind.kept other kept]

theorem PrunesBehind.pruneNetwork (behind : PrunesBehind before system) (network : Nat) :
    PrunesBehind before (system.pruneNetwork network) := by
  rw [ChannelSystem.pruneNetwork]
  split
  case h_2 => exact behind
  rename_i primier isPrimier
  split
  case isFalse => exact behind
  rename_i writable
  rw [behind.frame.getBestConnectionOnNetwork] at isPrimier
  rw [isWritable, behind.kept primier (not_prunable_primier isPrimier)] at writable
  generalize system.channel.connections = ids
  induction ids generalizing system with
  | nil => exact behind
  | cons id rest induction =>
    rw [List.foldl_cons]
    apply induction
    · rw [pruneBehind]
      split
      · rename_i worse
        rcases worse with ⟨different, onNetwork, noBetter⟩
        rw [behind.frame.networkOf] at onNetwork
        rw [behind.frame.isNoBetter] at noBetter
        exact behind.prunesOnly (prunesOnly_prune id)
          ⟨network, primier, onNetwork, isPrimier, writable, different, noBetter⟩
      · exact behind

theorem PrunesBehind.foldl (behind : PrunesBehind before system) (networks : List Nat) :
    PrunesBehind before (networks.foldl ChannelSystem.pruneNetwork system) := by
  induction networks generalizing system with
  | nil => exact behind
  | cons network rest induction => exact induction (behind.pruneNetwork network)

theorem settle_sameFrame :
    SameFrame system system.updateWritableState.updateChannelState.logSort ∧
      system.updateWritableState.updateChannelState.logSort.connections = system.connections := by
  have handled : SameFrame system system.updateWritableState ∧
      system.updateWritableState.connections = system.connections := by
    rw [updateWritableState]
    split
    · exact ⟨⟨rfl, rfl, rfl, fun _ => rfl⟩, rfl⟩
    rw [handleAllTimedOut, ite_self, handleNotWritable]
    split
    · exact ⟨⟨rfl, rfl, rfl, fun _ => rfl⟩, rfl⟩
    · exact ⟨.refl system, rfl⟩
  exact ⟨⟨handled.1.ports, handled.1.listed, handled.1.best, handled.1.fixed⟩, handled.2⟩

theorem PrunesBehind.sortConnections (system : ChannelSystem) (now : UInt32) :
    PrunesBehind (system.chosen now) (system.sortConnections now) := by
  rw [sortConnections_eq]
  have pruned := (PrunesBehind.refl (system.chosen now)).foldl (system.sorting now).networks
  generalize (system.sorting now).networks.foldl ChannelSystem.pruneNetwork (system.chosen now) =
    last at pruned
  rcases @settle_sameFrame last with ⟨frame, connections⟩
  refine ⟨pruned.frame.trans frame, fun id kept => ?_⟩
  rw [connection?, connections]
  exact pruned.kept id kept

/-! ## The order -/

def listedConnections (system : ChannelSystem) : List Connection :=
  system.channel.connections.filterMap system.connection?

/-- Two connections that are compared by their generations. -/
def Tied (system : ChannelSystem) (first second : Connection) : Prop :=
  first.writeState = second.writeState ∧ system.priority first = system.priority second

/-- The generations of connections that are tied lie on less than half of the circle of their
32 bits; or there are only two opposite ones, and connections with the same one have the same
round trip time. -/
def GenerationsFit (system : ChannelSystem) : Prop :=
  ∀ connection ∈ system.listedConnections,
    (∃ oldest, ∀ other ∈ system.listedConnections, Tied system other connection →
        (system.generation other - oldest).toNat < 2147483648) ∨
      (∀ other ∈ system.listedConnections, Tied system other connection →
          system.generation other = system.generation connection ∨
            system.generation other = system.generation connection + 0x80000000) ∧
        ∀ first ∈ system.listedConnections, ∀ second ∈ system.listedConnections,
          Tied system first connection → Tied system second connection →
            system.generation first = system.generation second → first.rtt = second.rtt

/-- The write state and, against its order, the pair priority. -/
def sortRank (system : ChannelSystem) (connection : Connection) : Nat :=
  connection.writeState.value * 2 ^ 64 + (2 ^ 64 - 1 - (system.priority connection).toNat)

theorem writeState_value_inj {first second : WriteState} (same : first.value = second.value) :
    first = second := by
  cases first <;> cases second <;> first | rfl | cases same

theorem sortRank_eq_iff {first second : Connection} :
    system.sortRank first = system.sortRank second ↔ Tied system first second := by
  have firstBound := (system.priority first).toNat_lt
  have secondBound := (system.priority second).toNat_lt
  rw [sortRank, sortRank, Tied, ← UInt64.toNat_inj]
  constructor
  · intro same
    exact ⟨writeState_value_inj (by omega), by omega⟩
  · rintro ⟨sameState, samePriority⟩
    rw [sameState, samePriority]

theorem sortRank_lt_iff {first second : Connection} :
    system.sortRank first < system.sortRank second ↔
      first.writeState.value < second.writeState.value ∨
        first.writeState.value = second.writeState.value ∧
          system.priority second < system.priority first := by
  have firstBound := (system.priority first).toNat_lt
  have secondBound := (system.priority second).toNat_lt
  rw [sortRank, sortRank, UInt64.lt_iff_toNat_lt]
  omega

theorem connectionCompare_iff {first second : Connection} :
    system.connectionCompare first second = true ↔
      WrappingOrder.Precedes system.sortRank system.generation
        (fun connection => connection.rtt.toNat) first second := by
  have states : first.writeState = second.writeState ↔
      first.writeState.value = second.writeState.value :=
    ⟨congrArg WriteState.value, writeState_value_inj⟩
  have signed : (system.generation first - system.generation second).toInt32.toInt =
      WrappingOrder.ahead (system.generation first) (system.generation second) := rfl
  rw [WrappingOrder.Precedes, sortRank_lt_iff, sortRank_eq_iff, Tied, connectionCompare,
    compareConnections, compareConnectionCandidates, states, signed, ← UInt32.lt_iff_toNat_lt]
  generalize WrappingOrder.ahead (system.generation first) (system.generation second) = ahead
  generalize first.writeState.value = firstState
  generalize second.writeState.value = secondState
  generalize system.priority first = firstPriority
  generalize system.priority second = secondPriority
  by_cases lowerState : firstState < secondState
  · simp [lowerState]
  by_cases higherState : secondState < firstState
  · have different : firstState ≠ secondState := by omega
    simp [lowerState, higherState, different]
  have sameState : firstState = secondState := by omega
  by_cases higherPriority : secondPriority < firstPriority
  · simp [sameState, higherPriority]
  by_cases lowerPriority : firstPriority < secondPriority
  · have different : firstPriority ≠ secondPriority := UInt64.ne_of_lt lowerPriority
    simp [sameState, higherPriority, lowerPriority, different]
  have samePriority : firstPriority = secondPriority := by
    rw [UInt64.lt_iff_toNat_lt] at higherPriority lowerPriority
    apply UInt64.toNat_inj.mp
    omega
  subst sameState samePriority
  by_cases before : 0 < ahead
  · simp [before]
  by_cases behind : ahead < 0
  · have different : ahead ≠ 0 := by omega
    simp [before, behind, different]
  have same : ahead = 0 := by omega
  simp [same]

theorem isStrictWeakOrder_connectionCompare_iff :
    IsStrictWeakOrder { connection // connection ∈ system.listedConnections }
        (fun first second => system.connectionCompare first second = true) ↔
      GenerationsFit system := by
  let Listed := { connection // connection ∈ system.listedConnections }
  have finite : Finite Listed := (List.finite_toSet system.listedConnections).to_subtype
  have compared : (fun first second : Listed =>
      system.connectionCompare first second = true) =
      WrappingOrder.Precedes (fun connection : Listed => system.sortRank connection)
        (fun connection => system.generation connection)
        (fun connection => connection.1.rtt.toNat) := by
    funext first second
    exact propext connectionCompare_iff
  rw [compared, WrappingOrder.isStrictWeakOrder_iff]
  constructor
  · intro fits connection member
    apply (fits ⟨connection, member⟩).imp
    · rintro ⟨oldest, inside⟩
      refine ⟨oldest, fun other otherMember tied => ?_⟩
      exact inside ⟨other, otherMember⟩ (sortRank_eq_iff.mpr tied)
    · rintro ⟨two, latencies⟩
      refine ⟨fun other otherMember tied => ?_, ?_⟩
      · exact two ⟨other, otherMember⟩ (sortRank_eq_iff.mpr tied)
      · intro first firstMember second secondMember firstTied secondTied same
        apply UInt32.toNat_inj.mp
        exact latencies ⟨first, firstMember⟩ ⟨second, secondMember⟩
          (sortRank_eq_iff.mpr firstTied) (sortRank_eq_iff.mpr secondTied) same
  · intro fits connection
    apply (fits connection.1 connection.2).imp
    · rintro ⟨oldest, inside⟩
      refine ⟨oldest, fun other tied => ?_⟩
      exact inside other.1 other.2 (sortRank_eq_iff.mp tied)
    · rintro ⟨two, latencies⟩
      refine ⟨fun other tied => ?_, ?_⟩
      · exact two other.1 other.2 (sortRank_eq_iff.mp tied)
      · intro first second firstTied secondTied same
        apply congrArg UInt32.toNat
        exact latencies first.1 first.2 second.1 second.2 (sortRank_eq_iff.mp firstTied)
          (sortRank_eq_iff.mp secondTied) same

/-! ## Safe sorting -/

/-- The connections that the channel may send on: those on its list and the best one. -/
def OnChannel (system : ChannelSystem) (id : Nat) : Prop :=
  id ∈ system.channel.connections ∨ system.channel.bestConnection = some id

/-- What sorting promises. The comparison is a strict weak order of the listed connections, and
they are put in its order. The best connection is not pruned, and others only behind a writable
connection that has been chosen for their network and whose pair priority is no lower. A network
with a writable connection keeps one. -/
structure SortsSafely (system : ChannelSystem) (now : UInt32) : Prop where
  order : IsStrictWeakOrder { connection // connection ∈ (system.sorting now).listedConnections }
    fun first second => (system.sorting now).connectionCompare first second = true
  permuted : (system.sortConnections now).channel.connections.Perm
    (system.sorting now).channel.connections
  sorted : (system.sortConnections now).channel.connections.Pairwise fun front back =>
    (system.sorting now).before back front = false
  best : ∀ id ∈ (system.sortConnections now).channel.bestConnection,
    (system.sortConnections now).connection? id = (system.sorting now).connection? id
  pruned : ∀ id, (system.sortConnections now).connection? id ≠
      (system.sorting now).connection? id →
    ∃ network primier first other, (system.chosen now).networkOf id = some network ∧
      (system.chosen now).getBestConnectionOnNetwork network = some primier ∧
      (system.chosen now).isWritable primier = true ∧
      (system.chosen now).connection? primier = some first ∧
      (system.chosen now).connection? id = some other ∧
      ¬ (system.chosen now).priority first < (system.chosen now).priority other
  networks : ∀ network,
    (∃ id, (system.chosen now).OnChannel id ∧ (system.chosen now).networkOf id = some network ∧
      (system.chosen now).isWritable id = true) →
    ∃ id, (system.sortConnections now).OnChannel id ∧
      (system.sortConnections now).networkOf id = some network ∧
      (system.sortConnections now).isWritable id = true

theorem chosen_eq (system : ChannelSystem) (now : UInt32) :
    system.chosen now = (system.sorting now).orderConnections ∨
      system.chosen now = (system.sorting now).orderConnections.switchBestConnectionTo
        (system.sorting now).orderConnections.channel.connections.head? := by
  rw [chosen, chooseBest]
  split
  · exact .inr rfl
  · exact .inl rfl

theorem chosen_connection? (system : ChannelSystem) (now : UInt32) (id : Nat) :
    (system.chosen now).connection? id = (system.sorting now).connection? id := by
  rcases chosen_eq system now with same | same
  · rw [same]
    rfl
  · rw [same]
    rfl

theorem chosen_listed (system : ChannelSystem) (now : UInt32) :
    (system.chosen now).channel.connections =
      (system.sorting now).channel.connections.insertionSort fun front back =>
        (system.sorting now).before back front = false := by
  rcases chosen_eq system now with same | same
  · rw [same]
    rfl
  · rw [same]
    rfl

theorem isStrictWeakOrder_before
    (resolved : ∀ id ∈ system.channel.connections, (system.connection? id).isSome)
    (order : IsStrictWeakOrder { connection // connection ∈ system.listedConnections }
      fun first second => system.connectionCompare first second = true) :
    IsStrictWeakOrder { id // id ∈ system.channel.connections } fun first second =>
      system.before first second = true := by
  have lookup (id : { id // id ∈ system.channel.connections }) :
      ∃ connection : { connection // connection ∈ system.listedConnections },
        system.connection? id = some connection.1 := by
    rcases isSome_iff_exists.mp (resolved id.1 id.2) with ⟨connection, found⟩
    exact ⟨⟨connection, List.mem_filterMap.mpr ⟨id.1, id.2, found⟩⟩, found⟩
  choose connection found using lookup
  have compared (first second : { id // id ∈ system.channel.connections }) :
      system.before first second =
        system.connectionCompare (connection first) (connection second) := by
    rw [before, found, found]
  have same : (fun first second : { id // id ∈ system.channel.connections } =>
      system.before first second = true) = fun first second =>
      system.connectionCompare (connection first) (connection second) = true := by
    funext first second
    rw [compared]
  rw [same]
  exact {
    irrefl := fun id => order.irrefl (connection id)
    trans := fun first second third => order.trans (connection first) (connection second)
      (connection third)
    incomp_trans := fun first second third => order.incomp_trans (connection first)
      (connection second) (connection third) }

theorem mem_primier {network primier : Nat}
    (isPrimier : system.getBestConnectionOnNetwork network = some primier) :
    system.OnChannel primier := by
  rw [getBestConnectionOnNetwork] at isPrimier
  split at isPrimier
  · rename_i best isBest
    split at isPrimier
    · cases isPrimier
      exact .inr isBest
    · exact .inl (List.mem_of_find?_eq_some isPrimier)
  · exact .inl (List.mem_of_find?_eq_some isPrimier)

/-- Sorting is safe exactly if the comparison of generations does not go round in a circle. -/
theorem sortsSafely_iff {now : UInt32} (resolved : ∀ id ∈ (system.sorting now).channel.connections,
      ((system.sorting now).connection? id).isSome = true) :
    SortsSafely system now ↔ GenerationsFit (system.sorting now) := by
  constructor
  · exact fun safely => isStrictWeakOrder_connectionCompare_iff.mp safely.order
  intro fits
  have order := isStrictWeakOrder_connectionCompare_iff.mpr fits
  have behind := PrunesBehind.sortConnections system now
  have listed : (system.sortConnections now).channel.connections =
      (system.sorting now).channel.connections.insertionSort fun front back =>
        (system.sorting now).before back front = false :=
    behind.frame.listed.trans (chosen_listed system now)
  constructor
  case order => exact order
  case permuted =>
    rw [listed]
    exact List.perm_insertionSort _ _
  case sorted =>
    rw [listed]
    exact WrappingOrder.pairwise_insertionSort (isStrictWeakOrder_before resolved order)
  case best =>
    intro id isBest
    rw [behind.frame.best] at isBest
    rw [behind.kept id (not_prunable_best isBest), chosen_connection?]
  case pruned =>
    intro id changed
    rw [← chosen_connection?] at changed
    have prunable : Prunable (system.chosen now) id := by
      by_contra kept
      exact changed (behind.kept id kept)
    rcases prunable with ⟨network, primier, onNetwork, isPrimier, writable, -, noBetter⟩
    rw [isNoBetter] at noBetter
    split at noBetter
    · rename_i first other isFirst isOther
      refine ⟨network, primier, first, other, onNetwork, isPrimier, writable, isFirst, isOther, ?_⟩
      intro higher
      have lower : ¬ (system.chosen now).priority other < (system.chosen now).priority first := by
        rw [UInt64.lt_iff_toNat_lt] at higher ⊢
        omega
      rw [compareConnectionCandidates, if_neg lower, if_pos higher] at noBetter
      exact absurd noBetter (by decide)
    · cases noBetter
  case networks =>
    rintro network ⟨id, onChannel, onNetwork, writable⟩
    have stays (other : Nat) (kept : ¬ Prunable (system.chosen now) other)
        (onChannel : (system.chosen now).OnChannel other)
        (onNetwork : (system.chosen now).networkOf other = some network)
        (writable : (system.chosen now).isWritable other = true) :
        ∃ id, (system.sortConnections now).OnChannel id ∧
          (system.sortConnections now).networkOf id = some network ∧
          (system.sortConnections now).isWritable id = true := by
      refine ⟨other, ?_, ?_, ?_⟩
      · rw [OnChannel, behind.frame.listed, behind.frame.best]
        exact onChannel
      · rw [behind.frame.networkOf]
        exact onNetwork
      · rw [isWritable, behind.kept other kept]
        exact writable
    by_cases prunable : Prunable (system.chosen now) id
    · rcases prunable with ⟨other, primier, onOther, isPrimier, primierWritable, -, -⟩
      rw [onNetwork, Option.some.injEq] at onOther
      cases onOther
      exact stays primier (not_prunable_primier isPrimier) (mem_primier isPrimier)
        (networkOf_primier isPrimier) primierWritable
    · exact stays id prunable onChannel onNetwork writable

/-- Three connections of one port, of which the candidates have these generations. -/
def threeConnections (first second third : UInt32) : ChannelSystem :=
  let connectionOf (id : Nat) (generation : UInt32) : Connection :=
    Connection.new id 0 0 true { sampleCandidate with generation }
  { controllingAgent 5 with
    channel := { (controllingAgent 5).channel with connections := [0, 1, 2], bestConnection := none }
    connections := [connectionOf 0 first, connectionOf 1 second, connectionOf 2 third] }

theorem sortsSafely_threeConnections :
    SortsSafely (threeConnections 0 1 2) 1 ↔ GenerationsFit ((threeConnections 0 1 2).sorting 1) :=
  sortsSafely_iff (by decide +kernel)

/-- Each of three connections goes before the next one. -/
theorem not_sortsSafely_circle :
    ¬ ∀ (system : ChannelSystem) (now : UInt32), (∀ id ∈ (system.sorting now).channel.connections,
          ((system.sorting now).connection? id).isSome = true) →
        SortsSafely system now := by
  intro every
  have safely := every (threeConnections 0xC0000000 0x60000000 0) 1 (by decide +kernel)
  have listed : ((threeConnections 0xC0000000 0x60000000 0).sorting 1).listedConnections =
      (threeConnections 0xC0000000 0x60000000 0).connections := by decide +kernel
  have order := safely.order
  rw [listed] at order
  have across := order.trans
    ⟨(threeConnections 0xC0000000 0x60000000 0).connections[0], by decide⟩
    ⟨(threeConnections 0xC0000000 0x60000000 0).connections[1], by decide⟩
    ⟨(threeConnections 0xC0000000 0x60000000 0).connections[2], by decide⟩
    (by decide +kernel) (by decide +kernel)
  exact absurd across (by decide +kernel)

end ZyWebRtc.Ice.ChannelSystem
