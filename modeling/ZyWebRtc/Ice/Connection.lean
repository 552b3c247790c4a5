import ZyWebRtc.Ice.Port

namespace ZyWebRtc.Ice

/-! A connection between a port and a remote candidate: its state, its outstanding requests, and
what its timers decide. -/

open Stun StunMessage

inductive ReadState where
  | readInit
  | readable
  | readTimeout
  deriving DecidableEq, Repr

inductive WriteState where
  | writable
  | writeUnreliable
  | writeInit
  | writeTimeout
  deriving DecidableEq, Repr

/-- The number of the enumerator. -/
def WriteState.value : WriteState → Nat
  | writable => 0
  | writeUnreliable => 1
  | writeInit => 2
  | writeTimeout => 3

inductive CheckState where
  | waiting
  | inprogress
  | succeeded
  | failed
  deriving DecidableEq, Repr

/-- A ping that waits for its response. It is sent once, and times out with its second
message. -/
structure ConnectionRequest where
  msg : StunMessage
  tstamp : UInt32
  timeout : Bool
  deriving DecidableEq, Repr

def ConnectionRequest.id (request : ConnectionRequest) : Bytes := request.msg.transactionId

/-- A connection. Times are in milliseconds. -/
structure Connection where
  id : Nat
  port : Nat
  localCandidateIndex : Nat
  remoteCandidate : Candidate
  readState : ReadState
  writeState : WriteState
  connected : Bool
  pruned : Bool
  useCandidateAttr : Bool
  remoteIceMode : IceMode
  requests : List ConnectionRequest
  rtt : UInt32
  lastPingSent : UInt32
  lastPingReceived : UInt32
  lastDataReceived : UInt32
  pingsSinceLastResponse : List UInt32
  state : CheckState
  /-- A message that deletes the connection has been posted. -/
  deletePosted : Bool
  deriving DecidableEq, Repr

def CONNECTION_READ_TIMEOUT : UInt32 := 30 * 1000
def CONNECTION_WRITE_TIMEOUT : UInt32 := 15 * 1000
def CONNECTION_WRITE_CONNECT_TIMEOUT : UInt32 := 5 * 1000
def CONNECTION_WRITE_CONNECT_FAILURES : Nat := 5

def MINIMUM_RTT : UInt32 := 100
def MAXIMUM_RTT : UInt32 := 3000
def DEFAULT_RTT : UInt32 := MAXIMUM_RTT
def RTT_RATIO : UInt32 := 3

def conservativeRTTEstimate (rtt : UInt32) : UInt32 := max MINIMUM_RTT (min MAXIMUM_RTT (2 * rtt))

def tooManyFailures (pingsSinceLastResponse : List UInt32) (maximumFailures : Nat)
    (rttEstimate now : UInt32) : Bool :=
  match pingsSinceLastResponse[maximumFailures - 1]? with
  | some sent => sent + rttEstimate < now
  | none => false

def tooLongWithoutResponse (pingsSinceLastResponse : List UInt32) (maximumTime now : UInt32) :
    Bool :=
  match pingsSinceLastResponse.head? with
  | some sent => sent + maximumTime < now
  | none => false

namespace Connection

/-- `Connection::Connection`. -/
def new (id port localCandidateIndex : Nat) (connected : Bool) (remoteCandidate : Candidate) :
    Connection :=
  { id, port, localCandidateIndex, remoteCandidate, readState := .readInit, writeState := .writeInit,
    connected, pruned := false, useCandidateAttr := false, remoteIceMode := .full,
    requests := [], rtt := DEFAULT_RTT, lastPingSent := 0, lastPingReceived := 0,
    lastDataReceived := 0, pingsSinceLastResponse := [], state := .waiting,
    deletePosted := false }

def writable (connection : Connection) : Bool := connection.writeState = .writable
def readable (connection : Connection) : Bool := connection.readState = .readable

section

variable (connection : Connection)

/-- The test of `CheckTimeout`. -/
def isUseless : Bool :=
  (connection.readState = .readTimeout ∨ connection.readState = .readInit) ∧
    connection.writeState = .writeTimeout

/-- The first test of `UpdateState`, which is only made in Google ICE. -/
def readTimedOut (now : UInt32) : Bool :=
  connection.readable ∧ connection.lastPingReceived + CONNECTION_READ_TIMEOUT ≤ now ∧
    connection.lastDataReceived + CONNECTION_READ_TIMEOUT ≤ now

/-- The second test of `UpdateState`. -/
def becomesUnreliable (now : UInt32) : Bool :=
  connection.writable ∧
    tooManyFailures connection.pingsSinceLastResponse CONNECTION_WRITE_CONNECT_FAILURES
      (conservativeRTTEstimate connection.rtt) now ∧
    tooLongWithoutResponse connection.pingsSinceLastResponse CONNECTION_WRITE_CONNECT_TIMEOUT now

/-- The third test of `UpdateState`. -/
def writeTimedOut (now : UInt32) : Bool :=
  (connection.writeState = .writeUnreliable ∨ connection.writeState = .writeInit) ∧
    tooLongWithoutResponse connection.pingsSinceLastResponse CONNECTION_WRITE_TIMEOUT now

def findRequest (id : Bytes) : Option ConnectionRequest :=
  connection.requests.find? (·.id = id)

def removeRequest (id : Bytes) : Connection :=
  { connection with requests := connection.requests.filter (·.id ≠ id) }

/-- The priority that a request tells of: that of a peer reflexive candidate. -/
def prflxPriority (localPriority : UInt32) : UInt32 :=
  (ICE_TYPE_PREFERENCE_PRFLX <<< 24) ||| (localPriority &&& 0x00FFFFFF)

/-- `ConnectionRequest::Prepare`, up to the attributes that protect the message. -/
def prepare (connection : Connection) (port : Port) (localPriority : UInt32)
    (transactionId : Bytes) : StunMessage :=
  let ping : Ping :=
    { transactionId
      username := port.createStunUsername connection.remoteCandidate.username
      retransmitCount :=
        if port.sendRetransmitCountAttribute then
          some (UInt32.ofNat connection.pingsSinceLastResponse.length - 1)
        else none
      useCandidate := connection.useCandidateAttr
      priority := prflxPriority localPriority }
  if port.isStandardIce then port.rolePort.prepare ping else RolePort.unroled ping

/-- `Ping`: the request that is sent replaces one under its transaction id. -/
def ping (port : Port) (localPriority now : UInt32)
    (transactionId : Bytes) : Connection :=
  let pinged := { connection with
    lastPingSent := now
    pingsSinceLastResponse := connection.pingsSinceLastResponse ++ [now]
    state := .inprogress }
  let request : ConnectionRequest :=
    ⟨pinged.prepare port localPriority transactionId, 0, false⟩
  { pinged with requests := (pinged.removeRequest transactionId).requests ++ [request] }

/-- The connection after the first message of a request, which sends it. -/
def sendRequest (id : Bytes) (now : UInt32) : Connection :=
  { connection with
    requests := connection.requests.map fun request =>
      if request.id = id then { request with tstamp := now, timeout := true } else request }

def succeed : Connection := { connection with state := .succeeded }

/-- The new estimate of the round trip, after a response. -/
def measure (rtt : UInt32) : Connection :=
  { connection with
    pingsSinceLastResponse := []
    rtt := ( RTT_RATIO * connection.rtt + rtt) / ( RTT_RATIO + 1) }

def useLocalCandidate (index : Nat) : Connection :=
  { connection with localCandidateIndex := index }

end

/-- A success response with a valid fingerprint to one of the connection's requests, with a
MESSAGE-INTEGRITY under the remote password. -/
structure AuthenticResponse (connection : Connection) (env : IceEnv) (packet : Packet) :
    Prop where
  fingerprint : validateFingerprint env.crc packet.data = some true
  response : ∃ stunMsg : StunMessage,
    StunMessage.read .iceMessage packet.data = some (stunMsg, []) ∧
      stunMsg.type = STUN_BINDING_RESPONSE ∧
      ∃ request ∈ connection.requests, request.id = stunMsg.transactionId
  integrity : validateMessageIntegrity env.hmac packet.data packet.beyond
    connection.remoteCandidate.password = some true

end Connection

end ZyWebRtc.Ice
