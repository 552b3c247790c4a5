import ZyWebRtc.Turn.Connection
import ZyWebRtc.Turn.Nonce

namespace ZyWebRtc.Turn

/-! The allocations of a TURN server: their permissions and channels, the handlers of the
messages that reach them, and what they send.

Times are milliseconds of the clock. An object that posts a message to itself keeps the time
at which it did; a timer is such a time together with its delay. -/

open Stun StunMessage Bytes

def kDefaultAllocationTimeout : Nat := 10 * 60 * 1000
def kPermissionTimeout : Nat := 5 * 60 * 1000
def kChannelTimeout : Nat := 10 * 60 * 1000
def kMinChannelNumber : Nat := 0x4000
def kMaxChannelNumber : Nat := 0x7FFF
def TURN_CHANNEL_HEADER_SIZE : Nat := 4
def IPPROTO_UDP : UInt32 := 17

/-- The first two bits are 0b01. The server and the port have a copy each of this function. -/
def isTurnChannelData (msgType : UInt16) : Bool := msgType &&& 0xC000 = 0x4000

/-- The members of the server that do not change while it runs, and the functions that it is
given. `GetKey` of the authentication hook has no value where it returns false. -/
structure Settings where
  realm : Bytes
  software : Bytes
  nonceKey : Bytes
  authHook : Option (Bytes → Bytes → Option Bytes)
  enableOtuNonce : Bool
  listenSockets : List (Nat × ProtocolType)
  hmac : Hmac
  hmacMd5 : HmacMd5

/-- What the server sends: STUN messages and channel messages through the internal sockets,
and the data of an allocation through its external socket. -/
inductive Output where
  | stun (socket : Nat) (destination : SocketAddress) (message : StunMessage)
  | channelData (socket : Nat) (destination : SocketAddress) (data : Bytes)
  | external (allocation : Nat) (peer : SocketAddress) (data : Bytes)
  deriving DecidableEq, Repr

/-- `InitResponse`, whose result no caller looks at. -/
def initResponse (messageClass : MessageClass) (req : StunMessage) : StunMessage :=
  match getStunSuccessResponseType req.type with
  | none => blank messageClass
  | some type => StunMessage.new messageClass type req.transactionId

def initErrorResponse (req : StunMessage) (error : StunError) : StunMessage :=
  match getStunErrorResponseType req.type with
  | none => blank .turnMessage
  | some type =>
    (StunMessage.new .turnMessage type req.transactionId).add STUN_ATTR_ERROR_CODE error.value

namespace Settings

def sendStun (settings : Settings) (conn : Connection) (message : StunMessage) : Output :=
  .stun conn.socket conn.src
    (if settings.software ≠ [] then
      message.add STUN_ATTR_SOFTWARE (.byteString settings.software)
    else message)

def sendErrorResponse (settings : Settings) (conn : Connection) (req : StunMessage)
    (error : StunError) : Output :=
  settings.sendStun conn (initErrorResponse req error)

def sendErrorResponseWithRealmAndNonce (settings : Settings) (now : Nat) (conn : Connection)
    (req : StunMessage) (error : StunError) : Output :=
  let nonce := generateNonce settings.hmacMd5 settings.nonceKey now
  settings.sendStun conn (((initErrorResponse req error).add STUN_ATTR_NONCE
    (.byteString nonce)).add STUN_ATTR_REALM (.byteString settings.realm))

/-- The message with its MESSAGE-INTEGRITY; where the message cannot be written the dummy
value stays. -/
def signed (settings : Settings) (key : Bytes) (message : StunMessage) : StunMessage :=
  (message.addMessageIntegrity settings.hmac key).getD
    (message.add STUN_ATTR_MESSAGE_INTEGRITY
      (.byteString (List.replicate kStunMessageIntegritySize 48)))

end Settings

structure Permission where
  peer : IPAddress
  refreshed : Nat
  deriving DecidableEq, Repr

structure Channel where
  id : Nat
  peer : SocketAddress
  refreshed : Nat
  deriving DecidableEq, Repr

def Permission.due (perm : Permission) : Nat := perm.refreshed + kPermissionTimeout

def Channel.due (channel : Channel) : Nat := channel.refreshed + kChannelTimeout

structure Allocation where
  id : Nat
  conn : Connection
  key : Bytes
  externalAddress : SocketAddress
  transactionId : Bytes
  username : Bytes
  lastNonce : Bytes
  timers : List Nat
  perms : List Permission
  channels : List Channel
  deriving DecidableEq, Repr

namespace Allocation

def create (id : Nat) (conn : Connection) (key : Bytes) (externalAddress : SocketAddress) :
    Allocation :=
  { id, conn, key, externalAddress, transactionId := [], username := [], lastNonce := [],
    timers := [], perms := [], channels := [] }

section

variable (allocation : Allocation)

def hasPermission (addr : IPAddress) : Bool :=
  allocation.perms.any (·.peer = addr)

def addPermission (now : Nat) (addr : IPAddress) : Allocation :=
  { allocation with
    perms :=
      if allocation.hasPermission addr then
        allocation.perms.map fun perm => if perm.peer = addr then ⟨addr, now⟩ else perm
      else allocation.perms ++ [⟨addr, now⟩] }

def findChannel (id : Nat) : Option Channel :=
  allocation.channels.find? (·.id = id)

def findChannelByPeer (addr : SocketAddress) : Option Channel :=
  allocation.channels.find? (·.peer.equal addr)

def bindChannel (now : Nat) (id : Nat) (peer : SocketAddress) :
    Allocation :=
  { allocation with
    channels :=
      match allocation.findChannel id with
      | none => allocation.channels ++ [⟨id, peer, now⟩]
      | some _ => allocation.channels.map fun channel =>
        if channel.id = id then { channel with refreshed := now } else channel }

end

/-! ## Handlers -/

variable (settings : Settings) (now : Nat)

def sendResponse (allocation : Allocation) (message : StunMessage) : Output :=
  settings.sendStun allocation.conn (settings.signed allocation.key message)

def sendBadRequestResponse (allocation : Allocation) (req : StunMessage) : Output :=
  settings.sendErrorResponse allocation.conn req .badRequest

/-- The smaller of the default lifetime and the requested one, in seconds. -/
def computeLifetime (msg : StunMessage) : UInt32 :=
  let lifetime := UInt32.ofNat (kDefaultAllocationTimeout / 1000)
  match msg.getUInt32 STUN_ATTR_LIFETIME with
  | some requested => if requested < lifetime then requested else lifetime
  | none => lifetime

variable (allocation : Allocation) (msg : StunMessage)

/-- A retransmitted request posts another timer and leaves the earlier ones. -/
def handleAllocateRequest : Allocation × List Output :=
  let lifetime := computeLifetime msg
  let response := (((initResponse .turnMessage msg).add STUN_ATTR_XOR_MAPPED_ADDRESS
    (.xorAddress allocation.conn.src.ip allocation.conn.src.port)).add
      STUN_ATTR_XOR_RELAYED_ADDRESS
      (.xorAddress allocation.externalAddress.ip allocation.externalAddress.port)).add
      STUN_ATTR_LIFETIME (.uint32 lifetime)
  ({ allocation with
      transactionId := msg.transactionId
      username := (msg.getByteString STUN_ATTR_USERNAME).getD []
      timers := allocation.timers ++ [now + lifetime.toNat * 1000] },
    [allocation.sendResponse settings response])

def handleRefreshRequest : Allocation × List Output :=
  let lifetime := computeLifetime msg
  let response := (initResponse .turnMessage msg).add STUN_ATTR_LIFETIME (.uint32 lifetime)
  ({ allocation with timers := [now + lifetime.toNat * 1000] },
    [allocation.sendResponse settings response])

def handleSendIndication : List Output :=
  match msg.getByteString STUN_ATTR_DATA, msg.getAddress STUN_ATTR_XOR_PEER_ADDRESS with
  | some data, some peer =>
    if allocation.hasPermission peer.ip then [.external allocation.id peer data] else []
  | _, _ => []

def handleCreatePermissionRequest : Allocation × List Output :=
  match msg.getAddress STUN_ATTR_XOR_PEER_ADDRESS with
  | none => (allocation, [allocation.sendBadRequestResponse settings msg])
  | some peer =>
    (allocation.addPermission now peer.ip,
      [allocation.sendResponse settings (initResponse .turnMessage msg)])

def handleChannelBindRequest : Allocation × List Output :=
  match msg.getUInt32 STUN_ATTR_CHANNEL_NUMBER, msg.getAddress STUN_ATTR_XOR_PEER_ADDRESS with
  | some number, some peer =>
    let channelId := (number >>> 16).toNat
    if channelId < kMinChannelNumber ∨ kMaxChannelNumber < channelId ∨
        allocation.findChannel channelId ≠ allocation.findChannelByPeer peer then
      (allocation, [allocation.sendBadRequestResponse settings msg])
    else
      ((allocation.bindChannel now channelId peer).addPermission now peer.ip,
        [allocation.sendResponse settings (initResponse .turnMessage msg)])
  | _, _ => (allocation, [allocation.sendBadRequestResponse settings msg])

def handleTurnMessage : Allocation × List Output :=
  if msg.type = STUN_ALLOCATE_REQUEST then allocation.handleAllocateRequest settings now msg
  else if msg.type = TURN_REFRESH_REQUEST then allocation.handleRefreshRequest settings now msg
  else if msg.type = TURN_SEND_INDICATION then (allocation, allocation.handleSendIndication msg)
  else if msg.type = TURN_CREATE_PERMISSION_REQUEST then
    allocation.handleCreatePermissionRequest settings now msg
  else if msg.type = TURN_CHANNEL_BIND_REQUEST then
    allocation.handleChannelBindRequest settings now msg
  else (allocation, [])

/-- Data that the client sends on a channel. Only the channel is looked up. -/
def handleChannelData (allocation : Allocation) (channelId : Nat) (data : Bytes) :
    List Output :=
  match allocation.findChannel channelId with
  | none => []
  | some channel => [.external allocation.id channel.peer (data.drop TURN_CHANNEL_HEADER_SIZE)]

/-- Data from a peer, with the transaction id that an indication draws. -/
def onExternalPacket (allocation : Allocation) (data : Bytes) (addr : SocketAddress)
    (transactionId : Bytes) : List Output :=
  match allocation.findChannelByPeer addr with
  | some channel =>
    [.channelData allocation.conn.socket allocation.conn.src
      (uint16Bytes (UInt16.ofNat channel.id) ++ (uint16Bytes (UInt16.ofNat data.length) ++ data))]
  | none =>
    if allocation.hasPermission addr.ip then
      [settings.sendStun allocation.conn
        (((StunMessage.new .turnMessage TURN_DATA_INDICATION transactionId).add
          STUN_ATTR_XOR_PEER_ADDRESS (.xorAddress addr.ip addr.port)).add STUN_ATTR_DATA
            (.byteString data))]
    else []

theorem handleTurnMessage_frame :
    (allocation.handleTurnMessage settings now msg).1.id = allocation.id ∧
      (allocation.handleTurnMessage settings now msg).1.conn = allocation.conn ∧
      (allocation.handleTurnMessage settings now msg).1.key = allocation.key := by
  unfold handleTurnMessage
  split
  · exact ⟨rfl, rfl, rfl⟩
  split
  · exact ⟨rfl, rfl, rfl⟩
  split
  · exact ⟨rfl, rfl, rfl⟩
  split
  · unfold handleCreatePermissionRequest
    split <;> exact ⟨rfl, rfl, rfl⟩
  split
  · unfold handleChannelBindRequest
    split
    · simp only
      split <;> exact ⟨rfl, rfl, rfl⟩
    · exact ⟨rfl, rfl, rfl⟩
  · exact ⟨rfl, rfl, rfl⟩

end Allocation

end ZyWebRtc.Turn
