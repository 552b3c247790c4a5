import ZyWebRtc.Ice.Channel

namespace ZyWebRtc.Ice

/-! What the channel, its ports and its connections do when something happens: packets, pings,
candidates, ports, timers, and the calls of the session. -/

open Stun StunMessage

namespace ChannelSystem

section

variable (system : ChannelSystem)

def reply (address : SocketAddress) (error : Option StunError) :
    ChannelSystem :=
  { system with replies := system.replies ++ [⟨address, error⟩] }

def sendBindingErrorResponse (address : SocketAddress)
    (error : StunError) : ChannelSystem :=
  system.reply address (some error)

def sendBindingResponse (port : Nat) (request : StunMessage)
    (address : SocketAddress) (now : UInt32) : ChannelSystem :=
  if request.getByteString STUN_ATTR_USERNAME = none then system
  else
    let replied := system.reply address none
    match replied.getConnection port address with
    | some connection => replied.receivedPing connection.id now
    | none => replied

/-! ## New connections -/

def addConnection (port index : Nat) (connected : Bool)
    (remoteCandidate : Candidate) : ChannelSystem :=
  let connection := { Connection.new system.nextConnection port index connected remoteCandidate with
    remoteIceMode := system.channel.remoteIceMode }
  { system with
    channel := { system.channel with
      connections := system.channel.connections ++ [system.nextConnection] }
    connections := system.connections ++ [connection]
    nextConnection := system.nextConnection + 1 }

def getOrigin (port : Nat) (originPort : Option Nat) : CandidateOrigin :=
  match originPort with
  | none => .message
  | some origin => if port = origin then .thisPort else .otherPort

/-- `CreateConnection`, with its result. -/
def createConnection (env : IceEnv) (system : ChannelSystem) (portId : Nat)
    (remoteCandidate : Candidate) (originPort : Option Nat) (readable : Bool) (now : UInt32) :
    ChannelSystem × Bool :=
  match system.port? portId with
  | none => (system, false)
  | some port =>
    match system.getConnection portId remoteCandidate.address,
        getOther port remoteCandidate.address with
    | some connection, _ =>
      if remoteCandidate.isEquivalent connection.remoteCandidate then
        (if readable then system.receivedPing connection.id now else system, true)
      else (system, false)
    | none, some other => (system, remoteCandidate.isEquivalent other)
    | none, none =>
      let origin := getOrigin portId originPort
      if origin = .message ∧ system.channel.incomingOnly then (system, false)
      else
        match env.createConnection port remoteCandidate origin with
        | none => (system, false)
        | some (index, connected) =>
          let added := system.addConnection portId index connected remoteCandidate
          (if readable then added.receivedPing system.nextConnection now else added, true)

def rememberRemoteCandidate (remoteCandidate : Candidate)
    (originPort : Option Nat) : ChannelSystem :=
  system.modifyChannel fun channel =>
    let current := channel.remoteCandidates.filter fun remembered =>
      ¬ remembered.candidate.generation < remoteCandidate.generation
    if current.any (·.candidate.isEquivalent remoteCandidate) then
      { channel with remoteCandidates := current }
    else { channel with remoteCandidates := current ++ [⟨remoteCandidate, originPort⟩] }

/-- The candidate that `CreateConnections` makes connections to. -/
def completeCandidate (channel : P2PTransportChannel) (remoteCandidate : Candidate) : Candidate :=
  { remoteCandidate with
    generation :=
      if channel.protocolType = .google then remoteCandidate.generation
      else channel.remoteCandidateGeneration
    username :=
      if remoteCandidate.username = [] then channel.remoteIceUfrag else remoteCandidate.username
    password :=
      if remoteCandidate.password = [] then channel.remoteIcePwd else remoteCandidate.password }

def createOn (env : IceEnv) (candidate : Candidate) (originPort : Option Nat) (readable : Bool)
    (now : UInt32) (state : ChannelSystem × Bool) (port : Nat) : ChannelSystem × Bool :=
  let (next, made) := createConnection env state.1 port candidate originPort readable now
  (next, state.2 || (made && originPort = some port))

/-- `CreateConnections`, with its result: whether the origin port has a connection. -/
def createConnections (env : IceEnv) (system : ChannelSystem) (remoteCandidate : Candidate)
    (originPort : Option Nat) (readable : Bool) (now : UInt32) : ChannelSystem × Bool :=
  let candidate := completeCandidate system.channel remoteCandidate
  let create := createOn env candidate originPort readable now
  let onPorts := system.channel.ports.reverse.foldl create (system, false)
  let created :=
    match originPort with
    | some origin => if origin ∈ system.channel.ports then onPorts else create onPorts origin
    | none => onPorts
  (created.1.rememberRemoteCandidate candidate originPort, created.2)

def adoptPort (id : Nat) : ChannelSystem :=
  (system.modifyPort id fun port => { port with
      iceProtocol := system.channel.protocolType
      iceRole := system.channel.iceRole
      tiebreaker := system.channel.tiebreaker
      signals := true }).modifyChannel fun channel =>
    { channel with ports := channel.ports ++ [id] }

/-- Connections from a new port to the remote candidates that are known. -/
def connectRemembered (env : IceEnv) (id : Nat) (now : UInt32) (system : ChannelSystem)
    (remote : RemoteCandidate) : ChannelSystem :=
  (createConnection env system id remote.candidate remote.originPort false now).1

def onPortReady (env : IceEnv) (id : Nat) (now : UInt32) :
    ChannelSystem :=
  let adopted := system.adoptPort id
  (adopted.channel.remoteCandidates.foldl (connectRemembered env id now) adopted).sortConnections
    now

def onCandidate (env : IceEnv) (candidate : Candidate) (now : UInt32) :
    ChannelSystem :=
  (createConnections env system candidate none false now).1.sortConnections now

end

/-! ## Requests from unknown addresses -/

def ufragPerPort (remoteCandidates : List RemoteCandidate) : Bool :=
  match remoteCandidates with
  | [] => false
  | first :: rest => rest.any (·.candidate.username ≠ first.candidate.username)

/-- The search for a remote candidate: the candidate that fits the address, and the password of
the last one with the username. -/
def searchCandidates (perPort : Bool) (address : SocketAddress) (proto : ProtocolType)
    (username : Bytes) :
    List RemoteCandidate → Option Bytes → Option Candidate × Option Bytes
  | [], password => (none, password)
  | ⟨candidate, _⟩ :: rest, password =>
    if candidate.username = username then
      if perPort ∨ (candidate.address.equal address ∧ candidate.protocol = proto.name) then
        (some candidate, some candidate.password)
      else searchCandidates perPort address proto username rest (some candidate.password)
    else searchCandidates perPort address proto username rest password

section

variable (env : IceEnv) (channel : P2PTransportChannel) (port : Port) (address : SocketAddress)
  (proto : ProtocolType) (username password randomId : Bytes)

/-- The candidate that is made for an unknown address, under a random name. -/
def newRemoteCandidate : Candidate :=
  let type :=
    if channel.protocolType = .rfc5245 then PRFLX_PORT_TYPE
    else if port.type = RELAY_PORT_TYPE ∨ port.sharedSocket then STUN_PORT_TYPE
    else port.type
  let candidate : Candidate :=
    { id := randomId, component := channel.component, protocol := proto.name, address,
      priority := 0, username, password, type, generation := 0,
      foundation := (Nat.toDigits 10 (env.crc randomId).toNat).map fun digit =>
        UInt8.ofNat digit.toNat
      relatedAddress := SocketAddress.nil }
  { candidate with priority := candidate.getPriority ICE_TYPE_PREFERENCE_SRFLX }

/-- The candidate for an unknown address: the one that was found, or a new one. -/
def unknownCandidate : Option Candidate → Candidate
  | some known => if ufragPerPort channel.remoteCandidates then { known with address } else known
  | none => newRemoteCandidate env channel port address proto username password randomId

end

section

variable (system : ChannelSystem)

def connectPeerReflexive (env : IceEnv) (port : Port)
    (address : SocketAddress) (stunMsg : StunMessage) (candidate : Candidate) (now : UInt32) :
    ChannelSystem :=
  if (system.getConnection port.id candidate.address).isSome ∨
      (getOther port candidate.address).isSome then
    if port.muxed then system
    else system.sendBindingErrorResponse address .serverError
  else
    match env.createConnection port candidate .thisPort with
    | none => system.sendBindingErrorResponse address .serverError
    | some (index, connected) =>
      let added := system.addConnection port.id index connected candidate
      let pinged := added.receivedPing system.nextConnection now
      (pinged.sendBindingResponse port.id stunMsg address now).sortConnections now

def STUN_ERROR_STALE_CREDENTIALS : StunError := ⟨430, ascii "Stale Credentials"⟩

def onUnknownAddress (env : IceEnv) (port : Port)
    (address : SocketAddress) (proto : ProtocolType) (stunMsg : StunMessage)
    (remoteUsername randomId : Bytes) (now : UInt32) : ChannelSystem :=
  let channel := system.channel
  match searchCandidates (ufragPerPort channel.remoteCandidates) address proto remoteUsername
      channel.remoteCandidates none with
  | (_, none) =>
    if port.muxed then system
    else system.sendBindingErrorResponse address STUN_ERROR_STALE_CREDENTIALS
  | (found, some password) =>
    let candidate := unknownCandidate env channel port address proto remoteUsername password
      randomId found
    if channel.protocolType = .rfc5245 then
      match stunMsg.getUInt32 STUN_ATTR_PRIORITY with
      | none => system.sendBindingErrorResponse address .badRequest
      | some priority =>
        system.connectPeerReflexive env port address stunMsg { candidate with priority } now
    else
      match createConnections env system candidate (some port.id) true now with
      | (created, true) =>
        (created.sendBindingResponse port.id stunMsg address now).sortConnections now
      | (created, false) => created.sendBindingErrorResponse address .serverError

/-- `Port::OnReadPacket`. -/
def portReadPacket (env : IceEnv) (id : Nat) (address : SocketAddress)
    (proto : ProtocolType) (packet : Packet) (randomId : Bytes) (now : UInt32) : ChannelSystem :=
  match system.port? id with
  | none => system
  | some port =>
    match port.getStunMessage env packet with
    | .notStun => system
    | .handled none => system
    | .handled (some error) => system.sendBindingErrorResponse address error
    | .message stunMsg remoteUfrag =>
      if stunMsg.type = STUN_BINDING_REQUEST then
        if port.isStandardIce ∧
            port.rolePort.maybeIceRoleConflict stunMsg remoteUfrag = .reject then
          system.sendBindingErrorResponse address .roleConflict
        else if port.signals then
          system.onUnknownAddress env port address proto stunMsg remoteUfrag randomId now
        else system
      else system

/-! ## Packets of a connection -/

def onUseCandidate (id : Nat) : ChannelSystem :=
  if system.isWritable id then
    if system.channel.bestConnection ≠ some id then
      (system.clearPendingBestConnection.switchBestConnectionTo (some id)).requestSort
    else system
  else
    system.modifyChannel fun channel => { channel with pendingBestConnection := some id }

def onReadPacket (id : Nat) (data : Bytes) : ChannelSystem :=
  if id ∈ system.channel.connections then
    { system with delivered := system.delivered ++ [(id, data)] }
  else system

end

/-- The request makes the connection a nominated one, once it has passed all checks. -/
def isNomination (port : Port) (stunMsg : StunMessage) : Bool :=
  port.isStandardIce ∧ port.iceRole = .controlled ∧
    (stunMsg.getByteString STUN_ATTR_USE_CANDIDATE).isSome

section

variable (system : ChannelSystem) (connection : Connection)

def onBindingRequest (port : Port)
    (stunMsg : StunMessage) (remoteUfrag : Bytes) (now : UInt32) : ChannelSystem :=
  let address := connection.remoteCandidate.address
  if remoteUfrag ≠ connection.remoteCandidate.username then
    system.sendBindingErrorResponse address .unauthorized
  else if port.isStandardIce ∧ port.rolePort.maybeIceRoleConflict stunMsg remoteUfrag = .reject then
    system.sendBindingErrorResponse address .roleConflict
  else
    let answered := system.sendBindingResponse port.id stunMsg address now
    let restarted := answered.restartTimedOut connection.id
    if isNomination port stunMsg then restarted.onUseCandidate connection.id else restarted

def addPrflxCandidate (system : ChannelSystem) (connection : Connection) (port : Port)
    (candidate : LocalCandidate) : ChannelSystem :=
  let added := system.modifyPort port.id (·.addPrflxCandidate candidate)
  let moved := added.modifyConnection connection.id (·.useLocalCandidate port.candidates.length)
  moved.onConnectionStateChange connection.id

def maybeAddPrflxCandidate (request : ConnectionRequest) (response : StunMessage) : ChannelSystem :=
  match response.getAddress STUN_ATTR_XOR_MAPPED_ADDRESS, system.portOf connection,
      request.msg.getUInt32 STUN_ATTR_PRIORITY with
  | some address, some port, some priority =>
    if port.candidates.any (·.address.equal address) then system
    else system.addPrflxCandidate connection port ⟨address, priority⟩
  | _, _, _ => system

/-- A lite peer never pings, so its response makes the connection readable as well. -/
def recordSuccess (now : UInt32) :
    ChannelSystem :=
  let written := (system.setWriteState connection.id .writable).modifyConnection connection.id
    Connection.succeed
  if connection.remoteIceMode = .lite then written.receivedPing connection.id now else written

def onConnectionRequestResponse (request : ConnectionRequest) (response : StunMessage)
    (now : UInt32) : ChannelSystem :=
  let measured := (system.recordSuccess connection now).modifyConnection connection.id
    (·.measure (now - request.tstamp))
  if (system.portOf connection).any Port.isStandardIce then
    measured.maybeAddPrflxCandidate connection request response
  else measured

/-- The code of an error response. Google ICE writes it in another way. -/
def connectionErrorCode (port : Port) (response : StunMessage) : Nat :=
  match response.getAttribute STUN_ATTR_ERROR_CODE with
  | some ⟨_, .errorCode eclass number _⟩ =>
    if port.isGoogleIce then eclass.toNat * 256 + number.toNat
    else eclass.toNat * 100 + number.toNat
  | _ => 600

/-- The errors after which the request is tried again: unknown attribute, server error,
unauthorized and stale credentials. -/
def recoverableErrors : List Nat := [420, 500, 401, 430]

def onConnectionRequestErrorResponse (port : Port) (response : StunMessage) : ChannelSystem :=
  let errorCode := connectionErrorCode port response
  if errorCode ∈ recoverableErrors ∨ errorCode = StunError.roleConflict.code then system
  else
    (system.modifyConnection connection.id ({ · with state := .failed })).setWriteState
      connection.id .writeTimeout

/-- `CheckResponse`. A request that is answered is deleted. -/
def checkResponse (port : Port)
    (response : StunMessage) (now : UInt32) : ChannelSystem :=
  match connection.findRequest response.transactionId with
  | none => system
  | some request =>
    if some response.type = getStunSuccessResponseType request.msg.type then
      (system.onConnectionRequestResponse connection request response now).modifyConnection
        connection.id (·.removeRequest request.id)
    else if some response.type = getStunErrorResponseType request.msg.type then
      (system.onConnectionRequestErrorResponse connection port response).modifyConnection
        connection.id (·.removeRequest request.id)
    else system

/-- `Connection::OnReadPacket`. -/
def connectionReadPacket (system : ChannelSystem) (env : IceEnv) (connection : Connection)
    (packet : Packet) (now : UInt32) : ChannelSystem :=
  match system.portOf connection with
  | none => system
  | some port =>
    match port.getStunMessage env packet with
    | .notStun =>
      if connection.readable then
        let received := system.modifyConnection connection.id
          ({ · with lastDataReceived := now })
        (received.onReadPacket connection.id packet.data).restartTimedOut connection.id
      else system
    | .handled none => system
    | .handled (some error) =>
      system.sendBindingErrorResponse connection.remoteCandidate.address error
    | .message stunMsg remoteUfrag =>
      if stunMsg.type = STUN_BINDING_REQUEST then
        system.onBindingRequest connection port stunMsg remoteUfrag now
      else if stunMsg.type = STUN_BINDING_RESPONSE ∨ stunMsg.type = STUN_BINDING_ERROR_RESPONSE then
        if port.iceProtocol = .google ∨ validateMessageIntegrity env.hmac packet.data packet.beyond
              connection.remoteCandidate.password = some true then
          system.checkResponse connection port stunMsg now
        else system
      else if stunMsg.type = STUN_BINDING_INDICATION ∧ port.isStandardIce ∧ connection.readable then
        system.receivedPing connection.id now
      else system

def MAX_CURRENT_WRITABLE_DELAY : UInt32 := 900

def isPingable : Bool :=
  connection.connected ∧ (connection.writeState ≠ .writeTimeout ∨
      (¬ system.channel.writable ∧ connection.readState ≠ .readTimeout))

end

variable (system : ChannelSystem)

def oldestPingable (oldest : Option Nat × UInt32) (id : Nat) :
    Option Nat × UInt32 :=
  match system.connection? id with
  | some connection =>
    if system.isPingable connection ∧ connection.lastPingSent < oldest.2 then
      (some id, connection.lastPingSent)
    else oldest
  | none => oldest

def findNextPingableConnection (now : UInt32) : Option Nat :=
  let due : Option Connection := do
    let id ← system.channel.bestConnection
    let best ← system.connection? id
    if best.writable ∧ best.lastPingSent + MAX_CURRENT_WRITABLE_DELAY ≤ now then some best
    else none
  match due with
  | some best => some best.id
  | none => (system.channel.connections.foldl system.oldestPingable (none, 0xFFFFFFFF)).1

def usesCandidate (connection : Connection) : Bool :=
  let channel := system.channel
  let best := channel.bestConnection.bind system.connection?
  if channel.protocolType ≠ .rfc5245 then false
  else if channel.remoteIceMode = .full ∧ channel.iceRole = .controlling then
    match best with
    | none => true
    | some best =>
      connection.id = best.id ∨ ¬ best.writable ∨ system.priority best < system.priority connection
  else if channel.remoteIceMode = .lite ∧ channel.bestConnection = some connection.id then
    system.bestWritable
  else false

def pingConnection (id : Nat) (now : UInt32) (transactionId : Bytes) :
    ChannelSystem :=
  match system.connection? id with
  | none => system
  | some connection =>
    match system.portOf connection with
    | none => system
    | some port =>
      let localPriority :=
        (port.candidates[connection.localCandidateIndex]?.map LocalCandidate.priority).getD 0
      let useCandidate := system.usesCandidate connection
      system.modifyConnection id fun connection =>
        { connection with useCandidateAttr := useCandidate }.ping port localPriority now
          transactionId

def onPing (now : UInt32) (transactionId : Bytes) : ChannelSystem :=
  let updated := system.updateConnectionStates now
  match updated.findNextPingableConnection now with
  | some id => updated.pingConnection id now transactionId
  | none => updated

/-- The message of a request: it sends the request, and the next one is its timeout. -/
def onRequestMessage (id : Nat) (transactionId : Bytes) (now : UInt32) :
    ChannelSystem :=
  system.modifyConnection id fun connection => match connection.findRequest transactionId with
    | some request =>
      if request.timeout then connection.removeRequest transactionId
      else connection.sendRequest transactionId now
    | none => connection

/-- `OnConnectionDestroyed`. Erasing what is not in the list is undefined. -/
def onConnectionDestroyed (id : Nat) : Option ChannelSystem :=
  if id ∈ system.channel.connections then
    let erased := system.modifyChannel fun channel => { channel with
        connections := channel.connections.erase id
        pendingBestConnection :=
          if channel.pendingBestConnection = some id then none
          else channel.pendingBestConnection }
    if system.channel.bestConnection = some id then
      some (erased.switchBestConnectionTo none).requestSort
    else some erased
  else none

def deleteConnection (id : Nat) : Option ChannelSystem := do
  let connection ← system.connection? id
  if connection.deletePosted then
    let destroyed ← system.onConnectionDestroyed id
    pure { destroyed with connections := destroyed.connections.filter (·.id ≠ id) }
  else none

/-- `OnPortDestroyed`, for a port that has no connections. -/
def onPortDestroyed (id : Nat) : Option ChannelSystem :=
  match system.port? id with
  | some port =>
    if port.others = [] ∧ ∀ connection ∈ system.connections, connection.port ≠ id then
      some { system with
        channel := { system.channel with ports := system.channel.ports.erase id }
        ports := system.ports.filter (·.id ≠ id) }
    else none
  | none => none

/-- `Reset`: with its sessions the ports and their connections are deleted, but a port that is
shared with other channels may be kept. -/
def reset (kept : List Nat) : ChannelSystem :=
  let ports := (system.ports.filter fun port => port.muxed ∧ port.id ∈ kept).map fun port =>
    { port with signals := false }
  { system with
    channel := { system.channel with
      ports := []
      connections := []
      bestConnection := none
      remoteCandidates := []
      readable := false
      writable := false
      sortDirty := false }
    ports
    connections := system.connections.filter fun connection => ports.any (·.id = connection.port) }

end ChannelSystem

/-! ## Events -/

inductive ChannelEvent where
  | portReady (port : Port)
  | portReadyAgain (port : Nat)
  | portDestroyed (port : Nat)
  | otherConnection (port : Nat) (remoteCandidate : Candidate)
  | otherDestroyed (port : Nat) (address : SocketAddress)
  | otherSetIceRole (port : Nat) (role : IceRole)
  | candidate (candidate : Candidate)
  | setRemoteIceCredentials (iceUfrag icePwd : Bytes)
  | setRemoteIceMode (mode : IceMode)
  | setIceProtocolType (type : IceProtocolType)
  | setIceRole (role : IceRole)
  | setIceTiebreaker (tiebreaker : UInt64)
  | setIncomingOnly (value : Bool)
  | addAllocatorSession
  | reset (kept : List Nat)
  | portPacket (port : Nat) (address : SocketAddress) (proto : ProtocolType) (packet : Packet)
      (randomId : Bytes)
  | connectionPacket (connection : Nat) (packet : Packet)
  | requestMessage (connection : Nat) (transactionId : Bytes)
  | deleteMessage (connection : Nat)
  | tcpConnect (connection : Nat)
  | tcpClose (connection : Nat)
  | sort
  | ping (transactionId : Bytes)

namespace ChannelSystem

def setIceRole (system : ChannelSystem) (role : IceRole) : ChannelSystem :=
  if system.channel.iceRole ≠ role then
    { system with
      channel := { system.channel with iceRole := role }
      ports := system.ports.map fun port =>
        if port.id ∈ system.channel.ports then { port with iceRole := role } else port }
  else system

def setIceProtocolType (system : ChannelSystem) (type : IceProtocolType) : ChannelSystem :=
  { system with
    channel := { system.channel with protocolType := type }
    ports := system.ports.map fun port =>
      if port.id ∈ system.channel.ports then { port with iceProtocol := type } else port }

def setRemoteIceCredentials (system : ChannelSystem) (iceUfrag icePwd : Bytes) : ChannelSystem :=
  system.modifyChannel fun channel =>
    let iceRestart := channel.remoteIceUfrag ≠ [] ∧ channel.remoteIcePwd ≠ [] ∧
      (channel.remoteIceUfrag ≠ iceUfrag ∨ channel.remoteIcePwd ≠ icePwd)
    { channel with
      remoteIceUfrag := iceUfrag
      remoteIcePwd := icePwd
      remoteCandidateGeneration :=
        if iceRestart then channel.remoteCandidateGeneration + 1
        else channel.remoteCandidateGeneration }

/-- What happens at a time. An event that cannot happen, or whose effect is undefined, has no
next state. -/
def step (env : IceEnv) (system : ChannelSystem) (event : UInt32 × ChannelEvent) :
    Option ChannelSystem :=
  let now := event.1
  match event.2 with
  | .portReady port =>
    if (system.port? port.id).isSome then none
    else some ({ system with ports := system.ports ++ [port] }.onPortReady env port.id now)
  | .portReadyAgain id =>
    if (system.port? id).any Port.muxed then some (system.onPortReady env id now) else none
  | .portDestroyed id => system.onPortDestroyed id
  | .otherConnection id remoteCandidate =>
    if (system.port? id).any Port.muxed ∧
        system.getConnection id remoteCandidate.address = none then
      some (system.modifyPort id fun port =>
        { port with others := port.others ++ [remoteCandidate] })
    else none
  | .otherDestroyed id address =>
    some (system.modifyPort id fun port =>
      { port with others := port.others.filter (¬ ·.address.equal address) })
  | .otherSetIceRole id role =>
    if (system.port? id).any Port.muxed then
      some (system.modifyPort id fun port => { port with iceRole := role })
    else none
  | .candidate candidate => some (system.onCandidate env candidate now)
  | .setRemoteIceCredentials iceUfrag icePwd =>
    some (system.setRemoteIceCredentials iceUfrag icePwd)
  | .setRemoteIceMode mode =>
    some (system.modifyChannel fun channel => { channel with remoteIceMode := mode })
  | .setIceProtocolType type => some (system.setIceProtocolType type)
  | .setIceRole role => some (system.setIceRole role)
  | .setIceTiebreaker tiebreaker =>
    some (if system.channel.ports = [] then
      system.modifyChannel fun channel => { channel with tiebreaker := tiebreaker }
    else system)
  | .setIncomingOnly value =>
    some (system.modifyChannel fun channel => { channel with incomingOnly := value })
  | .addAllocatorSession =>
    some (system.modifyChannel fun channel => { channel with ports := [] })
  | .reset kept => some (system.reset kept)
  | .portPacket port address proto packet randomId =>
    some (system.portReadPacket env port address proto packet randomId now)
  | .connectionPacket id packet => do
    let connection ← system.connection? id
    pure (system.connectionReadPacket env connection packet now)
  | .requestMessage id transactionId => some (system.onRequestMessage id transactionId now)
  | .deleteMessage id => system.deleteConnection id
  | .tcpConnect id => some (system.modifyConnection id ({ · with connected := true }))
  | .tcpClose id =>
    some ((system.modifyConnection id ({ · with connected := false })).setWriteState id
      .writeTimeout)
  | .sort => some (system.sortConnections now)
  | .ping transactionId => some (system.onPing now transactionId)

end ChannelSystem

end ZyWebRtc.Ice
