import ZyWebRtc.Ice.ChannelEvents

namespace ZyWebRtc.Ice

/-! Everything the channel does is a sequence of small moves. What may happen in the moves of an
event (which connections become readable or writable, what is delivered, which connections are
new) is asked of the event. -/

open Option Stun StunMessage

/-- What the moves of an event may do. -/
structure Cause where
  reads : Nat → Prop
  writes : Nat → Prop
  uploads : Nat → Prop
  adds : Nat → Candidate → Prop
  /-- A connection that the channel does not list may be nominated. -/
  strays : Prop

/-- A change of a connection that keeps what it connects, and does not make it readable or
writable. -/
structure Steady (change : Connection → Connection) : Prop where
  id : ∀ connection, (change connection).id = connection.id
  port : ∀ connection, (change connection).port = connection.port
  remoteCandidate : ∀ connection, (change connection).remoteCandidate = connection.remoteCandidate
  readState : ∀ connection, (change connection).readState = .readable →
    connection.readState = .readable
  writeState : ∀ connection, (change connection).writeState = .writable →
    connection.writeState = .writable

namespace ChannelSystem

/-- The channel and its ports are in standard ICE. -/
structure Standard (system : ChannelSystem) : Prop where
  channel : system.channel.protocolType = .rfc5245
  ports : ∀ port ∈ system.ports, port.iceProtocol = .rfc5245

/-- Nothing has changed but ports, settings of the channel and replies. -/
structure SameConnections (before after : ChannelSystem) : Prop where
  connections : after.connections = before.connections
  nextConnection : after.nextConnection = before.nextConnection
  delivered : after.delivered = before.delivered
  sorts : after.sorts = before.sorts
  listed : after.channel.connections = before.channel.connections
  best : after.channel.bestConnection = before.channel.bestConnection
  pending : after.channel.pendingBestConnection = before.channel.pendingBestConnection
  writable : after.channel.writable = before.channel.writable
  wasWritable : after.channel.wasWritable = before.channel.wasWritable
  standard : before.Standard → after.Standard

inductive Move (cause : Cause) : ChannelSystem → ChannelSystem → Prop
  | settings (before after : ChannelSystem) (same : SameConnections before after) :
      Move cause before after
  | connection (system : ChannelSystem) (id : Nat) (change : Connection → Connection)
      (steady : Steady change) : Move cause system (system.modifyConnection id change)
  | read (system : ChannelSystem) (id : Nat) (allowed : cause.reads id) :
      Move cause system (system.modifyConnection id ({ · with readState := .readable }))
  | write (system : ChannelSystem) (id : Nat) (allowed : cause.writes id) :
      Move cause system (system.modifyConnection id ({ · with writeState := .writable }))
  | best (system : ChannelSystem) (next : Option Nat)
      (listed : ∀ id ∈ next, id ∈ system.channel.connections ∨ cause.strays) :
      Move cause system (system.switchBestConnectionTo next)
  | promote (system : ChannelSystem) (id : Nat)
      (isPending : system.channel.pendingBestConnection = some id) :
      Move cause system (system.clearPendingBestConnection.switchBestConnectionTo (some id))
  | pend (system : ChannelSystem) (next : Option Nat)
      (listed : ∀ id ∈ next, id ∈ system.channel.connections ∨ cause.strays) :
      Move cause system
        (system.modifyChannel fun channel => { channel with pendingBestConnection := next })
  | order (system : ChannelSystem) (connections : List Nat)
      (same : connections.Perm system.channel.connections) :
      Move cause system
        (system.modifyChannel fun channel => { channel with connections := connections })
  | add (system : ChannelSystem) (port index : Nat) (connected : Bool)
      (remoteCandidate : Candidate)
      (free : system.getConnection port remoteCandidate.address = none)
      (allowed : cause.adds port remoteCandidate) :
      Move cause system (system.addConnection port index connected remoteCandidate)
  | deliver (system : ChannelSystem) (id : Nat) (data : Bytes) (allowed : cause.uploads id) :
      Move cause system { system with delivered := system.delivered ++ [(id, data)] }
  | settle (system : ChannelSystem) :
      Move cause system system.updateWritableState.updateChannelState.logSort

/-- A sequence of moves. -/
abbrev Moves (cause : Cause) : ChannelSystem → ChannelSystem → Prop :=
  Relation.ReflTransGen (Move cause)

variable {cause : Cause} {env : IceEnv} {system : ChannelSystem}

/-! ## States of connections -/

theorem moves_settings {after : ChannelSystem} (same : SameConnections system after) :
    Moves cause system after :=
  .single (.settings system after same)

theorem moves_connection {id : Nat} {change : Connection → Connection} (steady : Steady change) :
    Moves cause system (system.modifyConnection id change) :=
  .single (.connection system id change steady)

theorem moves_modifyChannel {change : P2PTransportChannel → P2PTransportChannel}
    (listed : (change system.channel).connections = system.channel.connections)
    (best : (change system.channel).bestConnection = system.channel.bestConnection)
    (pending : (change system.channel).pendingBestConnection = system.channel.pendingBestConnection)
    (writable : (change system.channel).writable = system.channel.writable)
    (wasWritable : (change system.channel).wasWritable = system.channel.wasWritable)
    (protocolType : (change system.channel).protocolType = system.channel.protocolType) :
    Moves cause system (system.modifyChannel change) :=
  moves_settings ⟨rfl, rfl, rfl, rfl, listed, best, pending, writable, wasWritable,
    fun standard => ⟨protocolType.trans standard.channel, standard.ports⟩⟩

theorem moves_requestSort : Moves cause system system.requestSort :=
  moves_modifyChannel rfl rfl rfl rfl rfl rfl

section

variable (id : Nat)

theorem moves_onConnectionStateChange : Moves cause system (system.onConnectionStateChange id) := by
  unfold onConnectionStateChange
  split
  · rename_i selected
    exact .trans (.single (.promote system id selected.2.2.1)) moves_requestSort
  · exact moves_requestSort

theorem moves_checkTimeout : Moves cause system (system.checkTimeout id) := by
  apply moves_connection
  constructor <;> intro connection <;> split <;> simp

theorem steady_readState {value : ReadState} (lower : value ≠ .readable) :
    Steady ({ · with readState := value }) :=
  ⟨fun _ => rfl, fun _ => rfl, fun _ => rfl, fun _ raised => absurd raised lower,
    fun _ writable => writable⟩

theorem steady_writeState {value : WriteState} (lower : value ≠ .writable) :
    Steady ({ · with writeState := value }) :=
  ⟨fun _ => rfl, fun _ => rfl, fun _ => rfl, fun _ readable => readable,
    fun _ raised => absurd raised lower⟩

theorem moves_setReadState {value : ReadState} (allowed : value = .readable → cause.reads id) :
    Moves cause system (system.setReadState id value) := by
  unfold setReadState
  split
  · split
    · exact .refl
    · refine .trans ?_ (.trans (moves_onConnectionStateChange id) (moves_checkTimeout id))
      by_cases raised : value = .readable
      · subst raised
        exact .single (.read system id (allowed rfl))
      · exact moves_connection (steady_readState raised)
  · exact .refl

theorem moves_setWriteState {value : WriteState} (allowed : value = .writable → cause.writes id) :
    Moves cause system (system.setWriteState id value) := by
  unfold setWriteState
  split
  · split
    · exact .refl
    · refine .trans ?_ (.trans (moves_onConnectionStateChange id) (moves_checkTimeout id))
      by_cases raised : value = .writable
      · subst raised
        exact .single (.write system id (allowed rfl))
      · exact moves_connection (steady_writeState raised)
  · exact .refl

theorem moves_receivedPing {id : Nat} (now : UInt32) (allowed : cause.reads id) :
    Moves cause system (system.receivedPing id now) := by
  refine .trans (moves_connection ?_) (moves_setReadState id fun _ => allowed)
  constructor <;> intro connection <;> simp

theorem moves_prune : Moves cause system (system.prune id) := by
  unfold prune
  split
  · split
    · exact .refl
    · refine .trans (moves_connection ?_) (moves_setWriteState id fun raised => nomatch raised)
      constructor <;> intro connection <;> simp
  · exact .refl

theorem moves_restartTimedOut : Moves cause system (system.restartTimedOut id) := by
  unfold restartTimedOut
  split
  · split
    · exact moves_setWriteState id fun raised => nomatch raised
    · exact .refl
  · exact .refl

theorem moves_whenConnection {id : Nat} {test : Connection → Bool}
    {change : ChannelSystem → ChannelSystem}
    (changes : ∀ system, Moves cause system (change system)) :
    Moves cause system (system.whenConnection id test change) := by
  unfold whenConnection
  split
  · exact changes system
  · exact .refl

theorem moves_updateState (now : UInt32) :
    Moves cause system (system.updateState id now) := by
  unfold updateState
  refine .trans (moves_whenConnection fun _ => ?_)
    (.trans (moves_whenConnection fun _ => ?_) (moves_whenConnection fun _ => ?_))
  · exact moves_setReadState id fun raised => nomatch raised
  · exact moves_setWriteState id fun raised => nomatch raised
  · exact moves_setWriteState id fun raised => nomatch raised

theorem moves_foldl {Item : Type} {change : ChannelSystem → Item → ChannelSystem}
    (changes : ∀ system item, Moves cause system (change system item)) (items : List Item) :
    ∀ system, Moves cause system (items.foldl change system) := by
  induction items with
  | nil => exact fun _ => .refl
  | cons item rest induction =>
    exact fun system => .trans (changes system item) (induction _)

theorem moves_updateConnectionStates (now : UInt32) :
    Moves cause system (system.updateConnectionStates now) :=
  moves_foldl (fun _ id => moves_updateState id now) _ system

theorem moves_orderConnections : Moves cause system system.orderConnections :=
  .single (.order system _ (List.perm_insertionSort _ _))

theorem moves_chooseBest : Moves cause system system.chooseBest := by
  unfold chooseBest
  dsimp only
  split
  · exact .single (.best system _ fun id top => .inl (List.mem_of_mem_head? top))
  · exact .refl

theorem moves_pruneNetwork (network : Nat) : Moves cause system (system.pruneNetwork network) := by
  unfold pruneNetwork
  split
  · split
    · apply moves_foldl
      intro system id
      unfold pruneBehind
      split
      · exact moves_prune id
      · exact .refl
    · exact .refl
  · exact .refl

theorem moves_sortConnections (now : UInt32) :
    Moves cause system (system.sortConnections now) := by
  unfold sortConnections
  refine .trans (moves_updateConnectionStates now) (.trans ?_ (.trans moves_orderConnections
    (.trans moves_chooseBest (.trans (moves_foldl (fun _ => moves_pruneNetwork) _ _)
      (.single (.settle _))))))
  exact moves_modifyChannel rfl rfl rfl rfl rfl rfl

/-! ## What connections connect -/

/-- The numbers of the connections, with what they connect. -/
def identities (system : ChannelSystem) : List (Nat × Nat × Candidate) :=
  system.connections.map fun connection =>
    (connection.id, connection.port, connection.remoteCandidate)

theorem getConnection_id (port : Nat) (address : SocketAddress) :
    (system.getConnection port address).map Connection.id = (system.identities.find? fun identity =>
        identity.2.1 = port ∧ identity.2.2.address.equal address).map Prod.fst := by
  rw [getConnection, identities, List.find?_map, Option.map_map]
  rfl

theorem getConnection_congr {other : ChannelSystem} (same : other.identities = system.identities)
    (port : Nat) (address : SocketAddress) :
    (other.getConnection port address).map Connection.id =
      (system.getConnection port address).map Connection.id := by
  rw [getConnection_id, getConnection_id, same]

theorem identities_modifyConnection {change : Connection → Connection}
    (kept : ∀ connection, ((change connection).id, (change connection).port,
      (change connection).remoteCandidate) =
        (connection.id, connection.port, connection.remoteCandidate)) :
    (system.modifyConnection id change).identities = system.identities := by
  rw [identities, modifyConnection, List.map_map]
  apply List.map_congr_left
  intro connection _
  rw [Function.comp_apply]
  split
  · exact kept connection
  · rfl

theorem identities_onConnectionStateChange :
    (system.onConnectionStateChange id).identities = system.identities := by
  unfold onConnectionStateChange
  split <;> rfl

theorem identities_setReadState (value : ReadState) :
    (system.setReadState id value).identities = system.identities := by
  unfold setReadState
  split
  · split
    · rfl
    · refine (identities_modifyConnection id fun connection => ?_).trans
        ((identities_onConnectionStateChange id).trans
          (identities_modifyConnection id fun _ => rfl))
      split <;> rfl
  · rfl

theorem identities_receivedPing (now : UInt32) :
    (system.receivedPing id now).identities = system.identities :=
  (identities_setReadState id .readable).trans (identities_modifyConnection id fun _ => rfl)

end

theorem identities_addConnection (port index : Nat) (connected : Bool) (candidate : Candidate) :
    (system.addConnection port index connected candidate).identities =
      system.identities ++ [(system.nextConnection, port, candidate)] := by
  rw [identities, addConnection, List.map_append]
  rfl

theorem equal_trans {first second third : SocketAddress} (left : first.equal second)
    (right : second.equal third) : first.equal third := by
  rw [SocketAddress.equal_iff_key] at left right ⊢
  exact left.trans right

theorem equal_symm {first second : SocketAddress} (same : first.equal second) :
    second.equal first := by
  rw [SocketAddress.equal_iff_key] at same ⊢
  exact same.symm

variable {address : SocketAddress}

theorem getConnection_addConnection {port : Nat} {candidate : Candidate}
    (free : system.getConnection port candidate.address = none)
    (here : candidate.address.equal address) (index : Nat) (connected : Bool) :
    ((system.addConnection port index connected candidate).getConnection port address).map
      Connection.id = some system.nextConnection := by
  have absent : system.identities.find? (fun identity =>
      identity.2.1 = port ∧ identity.2.2.address.equal address) = none := by
    rw [← map_eq_none_iff (f := Prod.fst), ← getConnection_id, map_eq_none_iff,
      getConnection, List.find?_eq_none]
    intro connection member found
    rw [getConnection, List.find?_eq_none] at free
    apply free connection member
    simp only [decide_eq_true_eq] at found ⊢
    exact ⟨found.1, equal_trans found.2 (equal_symm here)⟩
  rw [getConnection_id, identities_addConnection, List.find?_append, absent]
  simp [here]

/-! ## New connections -/

theorem moves_reply (address : SocketAddress) (error : Option StunError) :
    Moves cause system (system.reply address error) :=
  moves_settings ⟨rfl, rfl, rfl, rfl, rfl, rfl, rfl, rfl, rfl,
    fun standard => ⟨standard.channel, standard.ports⟩⟩

theorem moves_sendBindingErrorResponse (address : SocketAddress) (error : StunError) :
    Moves cause system (system.sendBindingErrorResponse address error) :=
  moves_reply address (some error)

theorem moves_sendBindingResponse {port : Nat} {request : StunMessage} (now : UInt32)
    (allowed : ∀ connection, system.getConnection port address = some connection →
      cause.reads connection.id) :
    Moves cause system (system.sendBindingResponse port request address now) := by
  unfold sendBindingResponse
  split
  · exact .refl
  · apply Relation.ReflTransGen.trans (moves_reply address none)
    dsimp only
    split
    · rename_i connection found
      exact moves_receivedPing now (allowed connection found)
    · exact .refl

/-- All connections to a candidate, and all reading of them, are allowed. -/
structure AllowsCreation (cause : Cause) (remoteCandidate : Candidate) (readable : Bool) :
    Prop where
  adds : ∀ port, cause.adds port remoteCandidate
  reads : readable = true → ∀ id, cause.reads id

variable {readable : Bool}

theorem moves_whenReadable {id : Nat} (now : UInt32)
    (allowed : readable = true → ∀ id, cause.reads id) :
    Moves cause system (if readable then system.receivedPing id now else system) := by
  split
  · rename_i isReadable
    exact moves_receivedPing now (allowed isReadable id)
  · exact .refl

variable {remoteCandidate : Candidate}

theorem moves_createConnection (portId : Nat) (originPort : Option Nat) (now : UInt32)
    (allowed : AllowsCreation cause remoteCandidate readable) :
    Moves cause system
      (createConnection env system portId remoteCandidate originPort readable now).1 := by
  unfold createConnection
  split
  · exact .refl
  · split
    · split
      · exact moves_whenReadable now allowed.reads
      · exact .refl
    · exact .refl
    · rename_i free _
      dsimp only
      split
      · exact .refl
      · split
        · exact .refl
        · rename_i index connected _
          exact .trans (.single (.add system portId index connected remoteCandidate free
            (allowed.adds portId))) (moves_whenReadable now allowed.reads)

theorem moves_rememberRemoteCandidate (remoteCandidate : Candidate) (originPort : Option Nat) :
    Moves cause system (system.rememberRemoteCandidate remoteCandidate originPort) := by
  apply moves_modifyChannel <;> dsimp only <;> split <;> rfl

theorem moves_createConnections (env : IceEnv) (originPort : Option Nat) (now : UInt32)
    (allowed : AllowsCreation cause (completeCandidate system.channel remoteCandidate) readable) :
    Moves cause system
      (createConnections env system remoteCandidate originPort readable now).1 := by
  have creates (state : ChannelSystem × Bool) (port : Nat) :
      Moves cause state.1 (createOn env (completeCandidate system.channel remoteCandidate)
        originPort readable now state port).1 :=
    moves_createConnection port originPort now allowed
  have onPorts (ports : List Nat) (state : ChannelSystem × Bool) :
      Moves cause state.1 (ports.foldl (createOn env
        (completeCandidate system.channel remoteCandidate) originPort readable now) state).1 := by
    induction ports generalizing state with
    | nil => exact .refl
    | cons port rest induction => exact .trans (creates state port) (induction _)
  unfold createConnections
  refine .trans ?_ (moves_rememberRemoteCandidate _ _)
  split
  · split
    · exact onPorts _ (system, false)
    · exact .trans (onPorts _ (system, false)) (creates _ _)
  · exact onPorts _ (system, false)

theorem moves_onCandidate (now : UInt32)
    (allowed : AllowsCreation cause (completeCandidate system.channel remoteCandidate) false) :
    Moves cause system (system.onCandidate env remoteCandidate now) :=
  .trans (moves_createConnections env none now allowed) (moves_sortConnections now)

theorem moves_onPortReady {origin : ChannelSystem} {id : Nat} (now : UInt32)
    (adopted : SameConnections origin (system.adoptPort id))
    (allowed : ∀ candidate, AllowsCreation cause candidate false) :
    Moves cause origin (system.onPortReady env id now) :=
  .trans (moves_settings adopted)
    (.trans (moves_foldl (fun _ _ => moves_createConnection id _ now (allowed _)) _ _)
      (moves_sortConnections now))

/-! ## Packets from unknown addresses -/

variable {proto : ProtocolType}

/-- A candidate that the search finds has the username, and the address unless every port has
its own fragment. -/
theorem searchCandidates_found {perPort : Bool}
    {username : Bytes} {known : Candidate} {remoteCandidates : List RemoteCandidate}
    {found : Option Bytes} :
    ∀ {password : Option Bytes},
      searchCandidates perPort address proto username remoteCandidates password =
        (some known, found) →
      known.username = username ∧ (perPort = false → known.address.equal address) := by
  induction remoteCandidates with
  | nil => exact fun search => nomatch search
  | cons first rest induction =>
    intro password search
    unfold searchCandidates at search
    split at search
    · rename_i same
      split at search
      · rename_i fits
        cases search
        refine ⟨same, fun shared => ?_⟩
        rw [shared] at fits
        exact (fits.resolve_left Bool.false_ne_true).1
      · exact induction search
    · exact induction search

theorem moves_connectPeerReflexive {port : Port} {stunMsg : StunMessage}
    {candidate : Candidate} (now : UInt32) (here : candidate.address.equal address)
    (adds : cause.adds port.id candidate) (reads : cause.reads system.nextConnection) :
    Moves cause system (system.connectPeerReflexive env port address stunMsg candidate now) := by
  unfold connectPeerReflexive
  split
  · split
    · exact .refl
    · exact moves_sendBindingErrorResponse _ _
  · rename_i unoccupied
    rw [not_or, Bool.not_eq_true, isSome_eq_false_iff, isNone_iff_eq_none]
      at unoccupied
    split
    · exact moves_sendBindingErrorResponse _ _
    · rename_i index connected _
      refine .trans (.single (.add system port.id index connected _ unoccupied.1 adds))
        (.trans (moves_receivedPing now reads) (.trans
          (moves_sendBindingResponse now fun connection found => ?_)
          (moves_sortConnections now)))
      have made := getConnection_addConnection unoccupied.1 here index connected
      rw [← getConnection_congr (identities_receivedPing system.nextConnection now), found,
        map_some, Option.some.injEq] at made
      rw [made]
      exact reads

theorem equal_self (address : SocketAddress) : address.equal address :=
  (SocketAddress.equal_iff_key address address).mpr rfl

theorem unknownCandidate_fits {channel : P2PTransportChannel} {port : Port}
    {username randomId : Bytes}
    {found : Option Candidate} {password : Option Bytes} (search :
      searchCandidates (ufragPerPort channel.remoteCandidates) address proto username
        channel.remoteCandidates none = (found, password)) (own : Bytes) :
    (unknownCandidate env channel port address proto username own randomId found).username =
        username ∧
      (unknownCandidate env channel port address proto username own randomId
        found).address.equal address := by
  cases found with
  | none => exact ⟨rfl, equal_self address⟩
  | some known =>
    rcases searchCandidates_found search with ⟨same, shared⟩
    simp only [unknownCandidate]
    split
    · exact ⟨same, equal_self address⟩
    · rename_i notPerPort
      exact ⟨same, shared (Bool.eq_false_iff.mpr notPerPort)⟩

theorem moves_onUnknownAddress {port : Port}
    {stunMsg : StunMessage} {remoteUsername randomId : Bytes} (now : UInt32)
    (adds : ∀ candidate : Candidate, candidate.username = remoteUsername →
      candidate.address.equal address → cause.adds port.id candidate)
    (reads : cause.reads system.nextConnection)
    (otherwise : system.channel.protocolType ≠ .rfc5245 →
      ∀ candidate, AllowsCreation cause candidate true) :
    Moves cause system (system.onUnknownAddress env port address proto stunMsg remoteUsername
      randomId now) := by
  unfold onUnknownAddress
  dsimp only
  split
  · split
    · exact .refl
    · exact moves_sendBindingErrorResponse _ _
  · rename_i found password search
    rcases unknownCandidate_fits search password with ⟨username, here⟩
    split
    · split
      · exact moves_sendBindingErrorResponse _ _
      · exact moves_connectPeerReflexive now here (adds _ username here) reads
    · rename_i notStandard
      have allowed := otherwise notStandard (completeCandidate system.channel
        (unknownCandidate env system.channel port address proto remoteUsername password randomId
          found))
      have creates := moves_createConnections env (some port.id) now allowed
      split
      · rename_i created made
        rw [made] at creates
        exact .trans creates (.trans
          (moves_sendBindingResponse now fun connection _ => allowed.reads rfl connection.id)
          (moves_sortConnections now))
      · rename_i created made
        rw [made] at creates
        exact .trans creates (moves_sendBindingErrorResponse _ _)

end ChannelSystem

end ZyWebRtc.Ice
