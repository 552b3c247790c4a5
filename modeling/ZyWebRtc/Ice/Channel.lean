import ZyWebRtc.Ice.Connection

namespace ZyWebRtc.Ice

/-! The transport channel with its ports and connections: how it keeps its connections in order
and chooses the best of them.

Ports and connections are known by numbers. A signal of a connection is handled where it is
sent, in the middle of what the connection does. Messages that were posted are handled by later
events. Every function that asks for the time is told it. -/

open Stun StunMessage

structure P2PTransportChannel where
  component : Nat
  incomingOnly : Bool
  ports : List Nat
  connections : List Nat
  bestConnection : Option Nat
  /-- The connection that the controlling agent has selected before it was writable. -/
  pendingBestConnection : Option Nat
  remoteCandidates : List RemoteCandidate
  sortDirty : Bool
  wasWritable : Bool
  remoteIceUfrag : Bytes
  remoteIcePwd : Bytes
  protocolType : IceProtocolType
  remoteIceMode : IceMode
  iceRole : IceRole
  tiebreaker : UInt64
  remoteCandidateGeneration : UInt32
  readable : Bool
  writable : Bool
  deriving DecidableEq, Repr

/-- What holds at the end of `SortConnections`: what the channel tells of itself, and what is
true of its connections. -/
structure SortResult where
  writable : Bool
  readable : Bool
  bestWritable : Bool
  someReadable : Bool
  deriving DecidableEq, Repr

/-- A response to a binding request; the error, if it is one. -/
structure BindingReply where
  address : SocketAddress
  error : Option StunError
  deriving DecidableEq, Repr

/-- The channel, and all ports and connections that exist. The replies, the delivered data and
the results of sorting are history. -/
structure ChannelSystem where
  channel : P2PTransportChannel
  ports : List Port
  connections : List Connection
  nextConnection : Nat
  replies : List BindingReply
  delivered : List (Nat × Bytes)
  sorts : List SortResult
  deriving DecidableEq, Repr

namespace ChannelSystem

/-- `P2PTransportChannel::P2PTransportChannel`, with a protocol set. -/
def create (component : Nat) (protocolType : IceProtocolType) : ChannelSystem where
  channel :=
    { component, incomingOnly := false, ports := [], connections := [], bestConnection := none,
      pendingBestConnection := none, remoteCandidates := [], sortDirty := false,
      wasWritable := false, remoteIceUfrag := [], remoteIcePwd := [], protocolType,
      remoteIceMode := .full, iceRole := .unknown, tiebreaker := 0,
      remoteCandidateGeneration := 0, readable := false, writable := false }
  ports := []
  connections := []
  nextConnection := 0
  replies := []
  delivered := []
  sorts := []

variable (system : ChannelSystem)

def port? (id : Nat) : Option Port := system.ports.find? (·.id = id)

def connection? (id : Nat) : Option Connection :=
  system.connections.find? (·.id = id)

def modifyChannel (change : P2PTransportChannel → P2PTransportChannel) :
    ChannelSystem :=
  { system with channel := change system.channel }

def modifyPort (id : Nat) (change : Port → Port) : ChannelSystem :=
  { system with
    ports := system.ports.map fun port => if port.id = id then change port else port }

def modifyConnection (id : Nat) (change : Connection → Connection) :
    ChannelSystem :=
  { system with
    connections := system.connections.map fun connection =>
      if connection.id = id then change connection else connection }

/-- `GetConnection`, where it finds a connection of this channel. -/
def getConnection (port : Nat) (address : SocketAddress) :
    Option Connection :=
  system.connections.find? fun connection =>
    connection.port = port ∧ connection.remoteCandidate.address.equal address

/-- `GetConnection`, where it finds a connection of another channel: its remote candidate. -/
def getOther (port : Port) (address : SocketAddress) : Option Candidate :=
  port.others.find? (·.address.equal address)

def isWritable (id : Nat) : Bool :=
  (system.connection? id).any Connection.writable

def isReadable (id : Nat) : Bool :=
  (system.connection? id).any Connection.readable

def bestWritable : Bool :=
  system.channel.bestConnection.any system.isWritable

def portOf (connection : Connection) : Option Port :=
  system.port? connection.port

def networkOf (id : Nat) : Option Nat := do
  let connection ← system.connection? id
  let port ← system.portOf connection
  pure port.network

/-- `RequestSort`; the message that it posts is an event that can always come. -/
def requestSort : ChannelSystem :=
  system.modifyChannel fun channel => { channel with sortDirty := true }

def switchBestConnectionTo (connection : Option Nat) : ChannelSystem :=
  system.modifyChannel fun channel => { channel with bestConnection := connection }

def clearPendingBestConnection : ChannelSystem :=
  system.modifyChannel fun channel => { channel with pendingBestConnection := none }

def onConnectionStateChange (id : Nat) : ChannelSystem :=
  let switched :=
    if system.channel.protocolType = .rfc5245 ∧ system.channel.iceRole = .controlled ∧
        system.channel.pendingBestConnection = some id ∧ system.isWritable id then
      system.clearPendingBestConnection.switchBestConnectionTo (some id)
    else system
  switched.requestSort

def checkTimeout (id : Nat) : ChannelSystem :=
  system.modifyConnection id fun connection =>
    if connection.isUseless then { connection with deletePosted := true } else connection

def setReadState (id : Nat) (value : ReadState) : ChannelSystem :=
  match system.connection? id with
  | some connection =>
    if connection.readState = value then system
    else
      let changed := system.modifyConnection id ({ · with readState := value })
      (changed.onConnectionStateChange id).checkTimeout id
  | none => system

def setWriteState (id : Nat) (value : WriteState) : ChannelSystem :=
  match system.connection? id with
  | some connection =>
    if connection.writeState = value then system
    else
      let changed := system.modifyConnection id ({ · with writeState := value })
      (changed.onConnectionStateChange id).checkTimeout id
  | none => system

def receivedPing (id : Nat) (now : UInt32) : ChannelSystem :=
  (system.modifyConnection id ({ · with lastPingReceived := now })).setReadState id .readable

def prune (id : Nat) : ChannelSystem :=
  match system.connection? id with
  | some connection =>
    if connection.pruned then system
    else
      (system.modifyConnection id ({ · with pruned := true, requests := [] })).setWriteState id
        .writeTimeout
  | none => system

def restartTimedOut (id : Nat) : ChannelSystem :=
  match system.connection? id with
  | some connection =>
    if ¬ connection.pruned ∧ connection.writeState = .writeTimeout then
      system.setWriteState id .writeInit
    else system
  | none => system

def whenConnection (id : Nat) (test : Connection → Bool)
    (next : ChannelSystem → ChannelSystem) : ChannelSystem :=
  if (system.connection? id).any test then next system else system

def updateState (id : Nat) (now : UInt32) : ChannelSystem :=
  let isGoogle (connection : Connection) : Bool :=
    (system.portOf connection).any Port.isGoogleIce
  let read := system.whenConnection id
    (fun connection => isGoogle connection ∧ connection.readTimedOut now)
    (·.setReadState id .readTimeout)
  let unreliable := read.whenConnection id (·.becomesUnreliable now)
    (·.setWriteState id .writeUnreliable)
  unreliable.whenConnection id (·.writeTimedOut now) (·.setWriteState id .writeTimeout)

def updateConnectionStates (now : UInt32) : ChannelSystem :=
  system.channel.connections.foldl (fun updated id => updated.updateState id now) system

/-! ## The order of connections -/

/-- The pair priority. The sum is computed in 32 bits. -/
def priority (system : ChannelSystem) (connection : Connection) : UInt64 :=
  match system.portOf connection with
  | none => 0
  | some port =>
    let localPriority :=
      (port.candidates[connection.localCandidateIndex]?.map LocalCandidate.priority).getD 0
    let remotePriority := connection.remoteCandidate.priority
    let pair (g d : UInt32) : UInt64 :=
      ((min g d).toUInt64 <<< 32) + (2 * max g d + if d < g then 1 else 0).toUInt64
    match port.iceRole with
    | .unknown => 0
    | .controlling => pair localPriority remotePriority
    | .controlled => pair remotePriority localPriority

def generation (system : ChannelSystem) (connection : Connection) : UInt32 :=
  connection.remoteCandidate.generation + ((system.portOf connection).map Port.generation).getD 0

def compareConnectionCandidates (a b : Connection) : Int :=
  if system.priority b < system.priority a then 1
  else if system.priority a < system.priority b then -1
  else (system.generation a - system.generation b).toInt32.toInt

def compareConnections (a b : Connection) : Int :=
  if a.writeState.value < b.writeState.value then 1
  else if b.writeState.value < a.writeState.value then -1
  else system.compareConnectionCandidates a b

def connectionCompare (a b : Connection) : Bool :=
  let cmp := system.compareConnections a b
  if 0 < cmp then true
  else if cmp < 0 then false
  else a.rtt < b.rtt

def before (a b : Nat) : Bool :=
  match system.connection? a, system.connection? b with
  | some a, some b => system.connectionCompare a b
  | _, _ => false

def orderConnections : ChannelSystem :=
  system.modifyChannel fun channel => { channel with
      connections := channel.connections.insertionSort fun a b => system.before b a = false }

def kMinImprovement : Nat := 10

def shouldSwitch (a b : Option Nat) : Bool :=
  if a = b then false
  else
    match a.bind system.connection?, b.bind system.connection? with
    | some a, some b =>
      let prefsCmp := system.compareConnections a b
      if prefsCmp < 0 then true
      else if 0 < prefsCmp then false
      else b.rtt.toNat ≤ a.rtt.toNat + kMinImprovement
    | _, _ => true

/-- The choice of the top connection, which the controlled agent does not make. -/
def chooseBest : ChannelSystem :=
  let topConnection := system.channel.connections.head?
  if (system.channel.protocolType ≠ .rfc5245 ∨ system.channel.iceRole = .controlling) ∧
      system.shouldSwitch system.channel.bestConnection topConnection then
    system.switchBestConnectionTo topConnection
  else system

def getBestConnectionOnNetwork (network : Nat) : Option Nat :=
  match system.channel.bestConnection with
  | some best =>
    if system.networkOf best = some network then some best
    else system.channel.connections.find? (system.networkOf · = some network)
  | none => system.channel.connections.find? (system.networkOf · = some network)

def isNoBetter (primier id : Nat) : Bool :=
  match system.connection? primier, system.connection? id with
  | some first, some other => 0 ≤ system.compareConnectionCandidates first other
  | _, _ => false

def pruneBehind (network primier : Nat) (system : ChannelSystem) (id : Nat) : ChannelSystem :=
  if id ≠ primier ∧ system.networkOf id = some network ∧ system.isNoBetter primier id then
    system.prune id
  else system

def pruneNetwork (network : Nat) : ChannelSystem :=
  match system.getBestConnectionOnNetwork network with
  | some primier =>
    if system.isWritable primier then
      system.channel.connections.foldl (pruneBehind network primier) system
    else system
  | none => system

def allConnectionsTimedOut : Bool :=
  system.channel.connections.all fun id =>
    (system.connection? id).all fun connection => connection.writeState = .writeTimeout

def handleWritable : ChannelSystem :=
  system.modifyChannel fun channel => { channel with wasWritable := true, writable := true }

def handleNotWritable : ChannelSystem :=
  if system.channel.wasWritable then
    system.modifyChannel fun channel => { channel with wasWritable := false, writable := false }
  else system

def handleAllTimedOut : ChannelSystem := system.handleNotWritable

def updateWritableState : ChannelSystem :=
  if system.bestWritable then system.handleWritable
  else if system.allConnectionsTimedOut then system.handleAllTimedOut
  else system.handleNotWritable

def someReadable : Bool :=
  system.channel.connections.any system.isReadable

def updateChannelState : ChannelSystem :=
  system.modifyChannel fun channel => { channel with readable := system.someReadable }

def logSort : ChannelSystem :=
  { system with
    sorts := system.sorts ++ [⟨system.channel.writable, system.channel.readable,
      system.bestWritable, system.someReadable⟩] }

def sortConnections (now : UInt32) : ChannelSystem :=
  let updated := (system.updateConnectionStates now).modifyChannel fun channel =>
    { channel with sortDirty := false }
  let networks := updated.channel.connections.filterMap updated.networkOf
  let chosen := updated.orderConnections.chooseBest
  let pruned := networks.dedup.foldl pruneNetwork chosen
  pruned.updateWritableState.updateChannelState.logSort

end ChannelSystem

end ZyWebRtc.Ice
