import ZyWebRtc.Turn.Allocation

namespace ZyWebRtc.Turn

/-! The TURN server as a machine: its internal sockets, its live allocations and the clock.

The events are accepted connections, packets from clients and from peers, closed sockets,
timers and the passing of time. A step has no value where the event cannot happen, or where
the code reads outside of its memory or follows a pointer to a socket that is deleted.

What a lookup in the table of allocations answers is a part of a packet: any live allocation
of an equal connection, or none. The table itself is the subject of `AllocationTable`. -/

open Stun StunMessage

structure InternalSocket where
  id : Nat
  proto : ProtocolType
  remoteAddress : SocketAddress
  accepted : Bool
  deriving DecidableEq, Repr

structure TurnServer where
  now : Nat
  serverSockets : List InternalSocket
  allocations : List Allocation
  nextAllocation : Nat
  deriving DecidableEq, Repr

/-- A packet from a client: the socket it comes from, its bytes and what stands behind them
in memory, its source, the allocation that the lookups find for its connection, and the
address of the external socket if one is asked for and can be created. -/
structure InternalPacket where
  socket : Nat
  data : Bytes
  beyond : Bytes
  addr : SocketAddress
  found : Option Nat
  external : Option SocketAddress

inductive Event where
  | tick (time : Nat)
  | accept (listener socket : Nat) (remoteAddress : SocketAddress)
  | close (socket : Nat)
  | internalPacket (packet : InternalPacket)
  | externalPacket (allocation : Nat) (data : Bytes) (addr : SocketAddress)
      (transactionId : Bytes)
  | allocationTimeout (allocation : Nat)
  | permissionTimeout (allocation : Nat) (perm : Permission)
  | channelTimeout (allocation : Nat) (channel : Channel)

namespace TurnServer

def initial (serverSockets : List InternalSocket) : TurnServer :=
  { now := 0, serverSockets, allocations := [], nextAllocation := 0 }

section

variable (server : TurnServer)

def findSocket (socket : Nat) : Option InternalSocket :=
  server.serverSockets.find? (·.id = socket)

def allocation (id : Nat) : Option Allocation :=
  server.allocations.find? (·.id = id)

def update (changed : Allocation) : TurnServer :=
  { server with
    allocations := server.allocations.map fun other =>
      if other.id = changed.id then changed else other }

def destroyInternalSocket (socket : Nat) : TurnServer :=
  { server with serverSockets := server.serverSockets.filter (·.id ≠ socket) }

def dueTimes (allocation : Allocation) : List Nat :=
  allocation.timers ++ allocation.perms.map Permission.due ++ allocation.channels.map Channel.due

def findAllocation (conn : Connection) :
    Option Nat → Option (Option Allocation)
  | none => some none
  | some id =>
    (server.allocations.find? fun allocation =>
      allocation.id = id ∧ allocation.conn.equal conn).map some

end

variable (settings : Settings)

/-! ## Messages from clients -/

def getKey (msg : StunMessage) : Bytes :=
  match settings.authHook, msg.getByteString STUN_ATTR_USERNAME with
  | some authHook, some username => (authHook username settings.realm).getD []
  | _, _ => []

section

variable (server : TurnServer) (conn : Connection) (msg : StunMessage)

/-- The response for an unauthorized request, or the nonce of an authorized one. -/
def checkAuthorization (packet : InternalPacket) (key : Bytes) (allocation : Option Allocation) :
    Option (Output ⊕ Bytes) :=
  let refuse := settings.sendErrorResponseWithRealmAndNonce server.now conn msg
  match msg.getByteString STUN_ATTR_MESSAGE_INTEGRITY with
  | none => some (.inl (refuse .unauthorized))
  | some _ =>
    match msg.getByteString STUN_ATTR_USERNAME, msg.getByteString STUN_ATTR_REALM,
        msg.getByteString STUN_ATTR_NONCE with
    | some _, some _, some nonce =>
      if validateNonce settings.hmacMd5 settings.nonceKey server.now nonce = false then
        some (.inl (refuse .staleNonce))
      else if key = [] then some (.inl (refuse .unauthorized))
      else do
        let valid ← validateMessageIntegrity settings.hmac packet.data packet.beyond key
        if valid = false then pure (.inl (refuse .unauthorized))
        else if settings.enableOtuNonce ∧ allocation.map Allocation.lastNonce = some nonce then
          pure (.inl (refuse .staleNonce))
        else pure (.inr nonce)
    | _, _, _ => some (.inl (settings.sendErrorResponse conn msg .badRequest))

def handleBindingRequest (conn : Connection) (req : StunMessage) : Output :=
  settings.sendStun conn ((initResponse .stunMessage req).add STUN_ATTR_XOR_MAPPED_ADDRESS
    (.xorAddress conn.src.ip conn.src.port))

def handleAllocateRequest (key : Bytes) (external : Option SocketAddress) : TurnServer × List Output :=
  match msg.getUInt32 STUN_ATTR_REQUESTED_TRANSPORT with
  | none => (server, [settings.sendErrorResponse conn msg .badRequest])
  | some transport =>
    if transport >>> 24 ≠ IPPROTO_UDP then
      (server, [settings.sendErrorResponse conn msg .unsupportedProtocol])
    else
      match external with
      | none => (server, [settings.sendErrorResponse conn msg
          ⟨500, ascii "Failed to allocate socket"⟩])
      | some externalAddress =>
        let (created, outputs) := (Allocation.create server.nextAllocation conn key
          externalAddress).handleTurnMessage settings server.now msg
        ({ server with
          allocations := server.allocations ++ [created]
          nextAllocation := server.nextAllocation + 1 }, outputs)

/-- The end of `HandleStunMessage`, for a message that needs no authorization or has it. -/
def dispatch (key : Bytes)
    (external : Option SocketAddress) : Option Allocation → TurnServer × List Output
  | none =>
    if msg.type = STUN_ALLOCATE_REQUEST then
      server.handleAllocateRequest settings conn msg key external
    else (server, [settings.sendErrorResponse conn msg .allocationMismatch])
  | some allocation =>
    if msg.type ≠ STUN_ALLOCATE_REQUEST ∨ msg.transactionId = allocation.transactionId then
      if isStunRequestType msg.type ∧
          msg.getByteString STUN_ATTR_USERNAME ≠ some allocation.username then
        (server, [settings.sendErrorResponse conn msg .wrongCredentials])
      else
        let (changed, outputs) := allocation.handleTurnMessage settings server.now msg
        (server.update changed, outputs)
    else (server, [settings.sendErrorResponse conn msg .allocationMismatch])

end

variable (server : TurnServer)

def handleStunMessage (conn : Connection) (packet : InternalPacket)
    (allocation : Option Allocation) : Option (TurnServer × List Output) :=
  match StunMessage.read .turnMessage packet.data with
  | none => some (server, [])
  | some (msg, rest) =>
    if rest ≠ [] then some (server, [])
    else if msg.type = STUN_BINDING_REQUEST then
      some (server, [handleBindingRequest settings conn msg])
    else
      let key := match allocation with
        | none => getKey settings msg
        | some allocation => allocation.key
      if isStunRequestType msg.type then do
        match ← server.checkAuthorization settings conn msg packet key allocation with
        | .inl response => pure (server, [response])
        | .inr nonce =>
          match allocation with
          | none => pure (server.dispatch settings conn msg key packet.external none)
          | some allocation =>
            let allocation := { allocation with lastNonce := nonce }
            pure ((server.update allocation).dispatch settings conn msg key packet.external
              (some allocation))
      else some (server.dispatch settings conn msg key packet.external allocation)

def onInternalPacket (packet : InternalPacket) :
    Option (TurnServer × List Output) := do
  let socket ← server.findSocket packet.socket
  if socket.accepted ∧ packet.addr ≠ socket.remoteAddress then none
  else if packet.data.length < TURN_CHANNEL_HEADER_SIZE then pure (server, [])
  else do
    let conn : Connection := ⟨packet.addr, socket.remoteAddress, socket.proto, socket.id⟩
    let msgType ← packet.data.uint16At 0
    let allocation ← server.findAllocation conn packet.found
    if isTurnChannelData msgType then
      match allocation with
      | none => pure (server, [])
      | some allocation =>
        pure (server, allocation.handleChannelData msgType.toNat packet.data)
    else server.handleStunMessage settings conn packet allocation

/-- `OnAllocationDestroyed`, and the end of the allocation. -/
def onAllocationTimeout (destroyed : Allocation) : Option TurnServer := do
  let socket ← server.findSocket destroyed.conn.socket
  let server :=
    if socket.proto ≠ .udp then server.destroyInternalSocket destroyed.conn.socket else server
  pure { server with allocations := server.allocations.filter (·.id ≠ destroyed.id) }

def step : Event → Option (TurnServer × List Output)
  | .tick time =>
    if server.now ≤ time ∧
        ∀ allocation ∈ server.allocations, ∀ due ∈ dueTimes allocation, time ≤ due then
      some ({ server with now := time }, [])
    else none
  | .accept listener socket remoteAddress => do
    let proto ← settings.listenSockets.lookup listener
    if (server.findSocket socket).isSome then none
    else pure ({ server with
      serverSockets := server.serverSockets ++ [⟨socket, proto, remoteAddress, true⟩] }, [])
  | .close id => do
    let socket ← server.findSocket id
    if socket.accepted then pure (server.destroyInternalSocket id, []) else none
  | .internalPacket packet => server.onInternalPacket settings packet
  | .externalPacket id data addr transactionId => do
    let allocation ← server.allocation id
    if transactionId.length = kStunTransactionIdLength then
      pure (server, allocation.onExternalPacket settings data addr transactionId)
    else none
  | .allocationTimeout id => do
    let allocation ← server.allocation id
    if ∃ due ∈ allocation.timers, due ≤ server.now then do
      let server ← server.onAllocationTimeout allocation
      pure (server, [])
    else none
  | .permissionTimeout id perm => do
    let allocation ← server.allocation id
    if perm ∈ allocation.perms ∧ perm.due ≤ server.now then
      pure (server.update { allocation with perms := allocation.perms.erase perm }, [])
    else none
  | .channelTimeout id channel => do
    let allocation ← server.allocation id
    if channel ∈ allocation.channels ∧ channel.due ≤ server.now then
      pure (server.update
        { allocation with channels := allocation.channels.erase channel }, [])
    else none

/-- The state after a step. -/
def next (event : Event) : Option TurnServer :=
  (server.step settings event).map Prod.fst

end TurnServer

/-- A server with one user, one listening socket and digests that are all zero. -/
def smallServer : Settings where
  realm := ascii "r"
  software := []
  nonceKey := []
  authHook := some fun username _ => if username = ascii "u" then some [7] else none
  enableOtuNonce := false
  listenSockets := [(1, .tcp)]
  hmac := fun _ _ => ⟨List.replicate 20 0, by decide⟩
  hmacMd5 := fun _ _ => ⟨List.replicate 16 0, by decide⟩

def smallRequest (type : UInt16) (nonce : Bytes) (attributes : List StunAttribute) : Bytes :=
  (do
    let credentials : List StunAttribute := [⟨STUN_ATTR_USERNAME, .byteString (ascii "u")⟩,
      ⟨STUN_ATTR_REALM, .byteString (ascii "r")⟩, ⟨STUN_ATTR_NONCE, .byteString nonce⟩]
    let message ← (StunMessage.new .turnMessage type (List.replicate 12 1)).addAttributes
      (credentials ++ attributes)
    let signed ← message.addMessageIntegrity smallServer.hmac [7]
    signed.write).getD []

def allocateRequest (nonce : Bytes) : Bytes :=
  smallRequest STUN_ALLOCATE_REQUEST nonce
    [⟨STUN_ATTR_REQUESTED_TRANSPORT, .uint32 (IPPROTO_UDP <<< 24)⟩]

def smallNonce (now : Nat) : Bytes := generateNonce smallServer.hmacMd5 smallServer.nonceKey now

example : (smallNonce 5).take 8 = ascii "05000000" := by decide +kernel

def clientAddress : SocketAddress := ⟨[], .ipv4 0x0A000003, 5000⟩

def relayAddress : SocketAddress := ⟨[], .ipv4 0xC0000201, 49152⟩

def connected : List Event :=
  [.accept 1 7 clientAddress,
    .internalPacket ⟨7, allocateRequest (smallNonce 0), [], clientAddress, none, some relayAddress⟩]

def connectedAllocation : Allocation :=
  { id := 0
    conn := ⟨clientAddress, clientAddress, .tcp, 7⟩
    key := [7]
    externalAddress := relayAddress
    transactionId := List.replicate 12 1
    username := ascii "u"
    lastNonce := []
    timers := [600000]
    perms := []
    channels := [] }

end ZyWebRtc.Turn
