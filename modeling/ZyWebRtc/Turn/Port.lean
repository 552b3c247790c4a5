import ZyWebRtc.Turn.Allocation

namespace ZyWebRtc.Turn

/-! `TurnPort`, the client of a TURN server: its entries and the connections to their addresses,
its pending requests, and what it does with a packet from the server.

An entry is known by its channel number, which comes from a counter. Each request is posted
under a new transaction id; the ids of the requests that a step may post are given to it. There
is no value where an attribute is looked into that is missing, or a byte is read that is not in
the packet. -/

open Stun StunMessage Bytes

def TURN_CHANNEL_NUMBER_START : Nat := 0x4000

def kStunTransactionIdOffset : Nat := 8

/-- What the client is given: the digest of a message, and the hash of the credentials of the
user in a realm. -/
structure ClientSettings where
  hmac : Hmac
  credentialHash : Bytes → Bytes

inductive BindState
  | unbound
  | binding
  | bound
  deriving DecidableEq, Repr

structure TurnEntry where
  channelId : Nat
  extAddr : SocketAddress
  state : BindState
  deriving DecidableEq, Repr

/-- The four classes of requests. Those about an entry lose it when it is destroyed. -/
inductive TurnRequest
  | allocate
  | refresh
  | createPermission (entry : Option Nat)
  | channelBind (entry : Option Nat)
  deriving DecidableEq, Repr

namespace TurnRequest

def type : TurnRequest → UInt16
  | allocate => STUN_ALLOCATE_REQUEST
  | refresh => TURN_REFRESH_REQUEST
  | createPermission _ => TURN_CREATE_PERMISSION_REQUEST
  | channelBind _ => TURN_CHANNEL_BIND_REQUEST

def onEntryDestroyed (channelId : Nat) : TurnRequest → TurnRequest
  | allocate => allocate
  | refresh => refresh
  | createPermission entry => createPermission (if entry = some channelId then none else entry)
  | channelBind entry => channelBind (if entry = some channelId then none else entry)

end TurnRequest

/-- A connection to the address of a remote candidate. -/
structure ProxyConnection where
  id : Nat
  remoteAddress : SocketAddress
  deriving DecidableEq, Repr

/-- Where data from a peer goes: to a connection, or to the port with the address. -/
inductive Delivery
  | connection (conn : ProxyConnection) (data : Bytes)
  | port (data : Bytes) (remoteAddr : SocketAddress)
  deriving DecidableEq, Repr

structure TurnPort where
  realm : Bytes
  nonce : Bytes
  hash : Bytes
  connected : Bool
  requests : List (Bytes × TurnRequest)
  nextChannelNumber : Nat
  entries : List TurnEntry
  connections : List ProxyConnection
  deriving DecidableEq, Repr

namespace TurnPort

def new : TurnPort where
  realm := []
  nonce := []
  hash := []
  connected := false
  requests := []
  nextChannelNumber := TURN_CHANNEL_NUMBER_START
  entries := []
  connections := []

/-! ## Requests -/

def sendRequest (id : Bytes) (request : TurnRequest) (port : TurnPort) : TurnPort :=
  { port with requests := (id, request) :: port.requests.filter fun pending => pending.1 ≠ id }

def removeRequest (id : Bytes) (port : TurnPort) : TurnPort :=
  { port with requests := port.requests.filter fun pending => pending.1 ≠ id }

variable (settings : ClientSettings)

def setRealm (realm : Bytes) (port : TurnPort) : TurnPort :=
  if realm ≠ port.realm then { port with realm, hash := settings.credentialHash realm }
  else port

/-- A refresh for one minute before the end, unless the lifetime is too short. -/
def scheduleRefresh (newId : Bytes) (lifetime : UInt32) (port : TurnPort) : TurnPort :=
  if lifetime.toInt32 < 2 * 60 then port else port.sendRequest newId .refresh

/-- Whether both attributes are there; the realm is set even without the nonce. -/
def updateNonce (response : StunMessage) (port : TurnPort) :
    Bool × TurnPort :=
  match response.getByteString STUN_ATTR_REALM with
  | none => (false, port)
  | some realm =>
    let port := port.setRealm settings realm
    match response.getByteString STUN_ATTR_NONCE with
    | none => (false, port)
    | some nonce => (true, { port with nonce })

def onAuthChallenge (newId : Bytes) (response : StunMessage)
    (port : TurnPort) : TurnPort :=
  if port.hash ≠ [] then port
  else
    let (updated, port) := port.updateNonce settings response
    if updated then port.sendRequest newId .allocate else port

def onChannelBindSuccess (channelId : Nat) (port : TurnPort) : TurnPort :=
  { port with
    entries := port.entries.map fun entry : TurnEntry =>
      if entry.channelId = channelId then { entry with state := .bound } else entry }

def onResponse (newId : Bytes) (response : StunMessage) (port : TurnPort) :
    TurnRequest → TurnPort
  | .allocate =>
    match response.getAddress STUN_ATTR_XOR_MAPPED_ADDRESS,
      response.getAddress STUN_ATTR_XOR_RELAYED_ADDRESS,
      response.getUInt32 STUN_ATTR_TURN_LIFETIME with
    | some _, some _, some lifetime =>
      { port with connected := true }.scheduleRefresh newId lifetime
    | _, _, _ => port
  | .refresh =>
    match response.getUInt32 STUN_ATTR_TURN_LIFETIME with
    | none => port
    | some lifetime => port.scheduleRefresh newId lifetime
  | .createPermission _ => port
  | .channelBind none => port
  | .channelBind (some channelId) =>
    (port.onChannelBindSuccess channelId).sendRequest newId (.channelBind (some channelId))

/-- The `OnErrorResponse` of the four classes. The code is looked at without a check that the
attribute is there. -/
def onErrorResponse (newId : Bytes) (response : StunMessage)
    (port : TurnPort) (request : TurnRequest) : Option TurnPort :=
  match request with
  | .allocate => do
    let code ← response.getErrorCode
    if code = StunError.unauthorized.code then
      pure (port.onAuthChallenge settings newId response)
    else pure port
  | .refresh => do
    let code ← response.getErrorCode
    if code = StunError.staleNonce.code then
      let (updated, port) := port.updateNonce settings response
      pure (if updated then port.sendRequest newId .refresh else port)
    else pure port
  | .createPermission none | .channelBind none => some port
  | .createPermission (some _) | .channelBind (some _) => do
    let code ← response.getErrorCode
    if code = StunError.staleNonce.code then
      let (updated, port) := port.updateNonce settings response
      pure (if updated then port.sendRequest newId request else port)
    else pure port

/-- `StunRequestManager::CheckResponse` for a message that was read. -/
def checkMessage (newId : Bytes) (message : StunMessage)
    (port : TurnPort) : Option TurnPort :=
  match port.requests.lookup message.transactionId with
  | none => some port
  | some request =>
    if some message.type = getStunSuccessResponseType request.type then
      some ((port.onResponse newId message request).removeRequest message.transactionId)
    else if some message.type = getStunErrorResponseType request.type then do
      let port ← port.onErrorResponse settings newId message request
      pure (port.removeRequest message.transactionId)
    else some port

/-- `StunRequestManager::CheckResponse` for the bytes of a packet. -/
def checkResponse (newId : Bytes) (data : Bytes)
    (port : TurnPort) : Option TurnPort :=
  if data.length < 20 then some port
  else do
    let id ← data.bytesAt kStunTransactionIdOffset kStunTransactionIdLength
    match port.requests.lookup id, StunMessage.read .turnMessage data with
    | some _, some (message, _) => port.checkMessage settings newId message
    | _, _ => some port

def findEntry (addr : SocketAddress) (port : TurnPort) : Option TurnEntry :=
  port.entries.find? fun entry => entry.extAddr.equal addr

def findEntryOfChannel (channelId : Nat) (port : TurnPort) : Option TurnEntry :=
  port.entries.find? fun entry => entry.channelId = channelId

def hasPermission (ipaddr : IPAddress) (port : TurnPort) : Bool :=
  port.entries.any fun entry => entry.extAddr.ip = ipaddr

/-- The connections are kept in a map in the order of their addresses. -/
def sameKey (first second : SocketAddress) : Bool := !first.less second && !second.less first

def getConnection (remoteAddr : SocketAddress) (port : TurnPort) : Option ProxyConnection :=
  port.connections.find? fun conn => sameKey conn.remoteAddress remoteAddr

def addConnection (conn : ProxyConnection) (port : TurnPort) : TurnPort :=
  { port with
    connections := conn :: port.connections.filter fun other =>
      !sameKey other.remoteAddress conn.remoteAddress }

/-- A new entry with the next channel number, and its request for a permission. -/
def addEntry (newId : Bytes) (addr : SocketAddress) (port : TurnPort) : TurnPort :=
  let entry : TurnEntry := {
    channelId := port.nextChannelNumber
    extAddr := addr
    state := .unbound }
  { port.sendRequest newId (.createPermission (some entry.channelId)) with
    nextChannelNumber := port.nextChannelNumber + 1
    entries := port.entries ++ [entry] }

/-- No entry may have the address, as is asserted. -/
def createEntry (newId : Bytes) (addr : SocketAddress) (port : TurnPort) : Option TurnPort :=
  match port.findEntry addr with
  | some _ => none
  | none => some (port.addEntry newId addr)

def createConnection (newId : Bytes) (conn : ProxyConnection) (port : TurnPort) :
    Option TurnPort := do
  let port ← port.createEntry newId conn.remoteAddress
  pure (port.addConnection conn)

/-- An entry with the address is there, as is asserted. -/
def destroyEntry (addr : SocketAddress) (port : TurnPort) : Option TurnPort := do
  let entry ← port.findEntry addr
  pure { port with
    requests := port.requests.map fun (id, request) =>
      (id, request.onEntryDestroyed entry.channelId)
    entries := port.entries.erase entry }

def onConnectionDestroyed (conn : ProxyConnection) (port : TurnPort) : Option TurnPort := do
  let port ← port.destroyEntry conn.remoteAddress
  let found ← port.getConnection conn.remoteAddress
  pure { port with connections := port.connections.erase found }

def dispatchPacket (data : Bytes) (remoteAddr : SocketAddress) (port : TurnPort) : Delivery :=
  match port.getConnection remoteAddr with
  | some conn => .connection conn data
  | none => .port data remoteAddr

/-- A packet of at least a header. Padding behind the data is allowed. -/
def onChannelData (channelId : Nat) (data : Bytes) (port : TurnPort) :
    Option (Option Delivery) := do
  let len ← data.uint16At 2
  if data.length - TURN_CHANNEL_HEADER_SIZE < len.toNat then pure none
  else
    match port.findEntryOfChannel channelId with
    | none => pure none
    | some entry => do
      let payload ← data.bytesAt TURN_CHANNEL_HEADER_SIZE len.toNat
      pure (some (port.dispatchPacket payload entry.extAddr))

def onDataIndication (data : Bytes) (port : TurnPort) : Option Delivery := do
  let (message, _) ← StunMessage.read .turnMessage data
  let extAddr ← message.getAddress STUN_ATTR_XOR_PEER_ADDRESS
  let payload ← message.getByteString STUN_ATTR_DATA
  if port.hasPermission extAddr.ip then some (port.dispatchPacket payload extAddr) else none

/-- Success responses, but not errors, are checked for their integrity. -/
def acceptsResponse (msgType : UInt16) (data : Bytes)
    (port : TurnPort) : Option Bool :=
  if isStunSuccessResponseType msgType then
    validateMessageIntegrity settings.hmac data [] port.hash
  else some true

/-- What is handed on of the data of a packet, if it is data, and the port. -/
def onReadPacket (newId : Bytes) (data : Bytes) (port : TurnPort) :
    Option (Option Delivery × TurnPort) :=
  if data.length < TURN_CHANNEL_HEADER_SIZE then some (none, port)
  else do
    let msgType ← data.uint16At 0
    if isTurnChannelData msgType then
      let delivery ← port.onChannelData msgType.toNat data
      pure (delivery, port)
    else if msgType = TURN_DATA_INDICATION then pure (port.onDataIndication data, port)
    else do
      let accepted ← port.acceptsResponse settings msgType data
      if accepted then do
        let port ← port.checkResponse settings newId data
        pure (none, port)
      else pure (none, port)

end TurnPort

end ZyWebRtc.Turn
