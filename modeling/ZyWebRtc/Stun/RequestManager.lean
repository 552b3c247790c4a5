import ZyWebRtc.Foundation.Run
import ZyWebRtc.Stun.Codec

namespace ZyWebRtc.Stun

/-! `StunRequestManager` and its requests: the map of the pending requests, the messages that they
have posted to themselves, and the handlers that are running.

A handler is the code of an owner that the manager calls: one of the three callbacks of a request,
or a receiver of `SignalSendPacket`. What it does is not fixed; the calls that are made between its
begin and its end are its own. There is no step where an assertion fails or a deleted request is
used. -/

def MAX_SENDS : Nat := 9
def DELAY_UNIT : Nat := 100
def DELAY_MAX_FACTOR : Nat := 16
def CONNECTION_RESPONSE_TIMEOUT : Nat := 5 * 1000

/-- The classes that differ in `GetNextDelay`: the base class, the requests of a relay port and
the pings of a connection. -/
inductive RequestClass
  | stunRequest
  | allocateRequest
  | connectionRequest
  deriving DecidableEq, Repr

/-- A request that lives, with a number for its address. -/
structure StunRequest where
  key : Nat
  requestClass : RequestClass
  messageClass : MessageClass
  id : Bytes
  type : UInt16
  count : Nat
  timeout : Bool
  deriving DecidableEq, Repr

/-- What came of a request. -/
inductive RequestRecord
  | sent (key : Nat)
  | response (key : Nat)
  | errorResponse (key : Nat)
  | timedOut (key : Nat)
  | removed (key : Nat)
  deriving DecidableEq, Repr

namespace StunRequest

/-- The delay up to the next message, and the request with its counter. -/
def getNextDelay (request : StunRequest) : Nat × StunRequest :=
  match request.requestClass with
  | .stunRequest =>
    (DELAY_UNIT * min (1 <<< request.count) DELAY_MAX_FACTOR, { request with
        count := request.count + 1
        timeout := request.timeout || request.count + 1 = MAX_SENDS })
  | .allocateRequest =>
    (100 * max (1 <<< request.count) 2, { request with
        count := request.count + 1
        timeout := request.timeout || request.count + 1 = 5 })
  | .connectionRequest => (CONNECTION_RESPONSE_TIMEOUT, { request with timeout := true })

/-- The callback for a message with the id of the request, if it has the type of a response. -/
def answer (message : StunMessage) (request : StunRequest) : Option RequestRecord :=
  if some message.type = getStunSuccessResponseType request.type then
    some (.response request.key)
  else if some message.type = getStunErrorResponseType request.type then
    some (.errorResponse request.key)
  else none

end StunRequest

/-! ## The manager -/

inductive Handler
  | sending
  | callback
  deriving DecidableEq, Repr

/-- The map from transaction ids to requests, the requests that live, the messages that wait with
their delays, the handlers that run with the innermost one first, and what has happened with the
last record first. -/
structure StunRequestManager where
  requests : List (Bytes × Nat)
  objects : List StunRequest
  posted : List (Nat × Nat)
  running : List (Nat × Handler)
  created : Nat
  log : List RequestRecord
  deriving DecidableEq, Repr

/-- The calls of the owner, whether from a handler or not; the message of a request that is due;
and the end of the innermost handler. -/
inductive RequestEvent
  | send (requestClass : RequestClass) (messageClass : MessageClass) (id : Bytes) (type : UInt16)
      (delay : Nat)
  | remove (key : Nat)
  | clear
  | delete (key : Nat)
  | checkResponse (message : StunMessage)
  | checkPacket (data : Bytes)
  | message (key : Nat)
  | returned

namespace StunRequestManager

def new : StunRequestManager where
  requests := []
  objects := []
  posted := []
  running := []
  created := 0
  log := []

section

variable (key : Nat) (manager : StunRequestManager)

def object : Option StunRequest :=
  manager.objects.find? fun request => request.key = key

def record (entry : RequestRecord) (manager : StunRequestManager) : StunRequestManager :=
  { manager with log := entry :: manager.log }

def begin (key : Nat) (handler : Handler) (manager : StunRequestManager) : StunRequestManager :=
  { manager with running := (key, handler) :: manager.running }

local instance lawfulBytes : LawfulBEq Bytes := inferInstance

def sendDelayed (requestClass : RequestClass) (messageClass : MessageClass) (id : Bytes)
    (type : UInt16) (delay : Nat) (manager : StunRequestManager) : Option StunRequestManager :=
  if type = 0 ∨ id ∈ manager.objects.map StunRequest.id then none
  else some { manager with
    requests := (id, manager.created) :: manager.requests
    objects := ⟨manager.created, requestClass, messageClass, id, type, 0, false⟩ :: manager.objects
    posted := (manager.created, delay) :: manager.posted
    created := manager.created + 1 }

def remove (request : StunRequest) (manager : StunRequestManager) : Option StunRequestManager :=
  match manager.requests.lookup request.id with
  | none => some manager
  | some key =>
    if key ≠ request.key then none
    else some { manager with
      requests := manager.requests.filter fun entry => entry.1 ≠ request.id
      posted := manager.posted.filter fun message => message.1 ≠ request.key }

def destroy (request : StunRequest) (manager : StunRequestManager) : Option StunRequestManager := do
  let manager ← manager.remove request
  pure { manager with
    posted := manager.posted.filter fun message => message.1 ≠ request.key
    objects := manager.objects.filter fun other => other.key ≠ request.key }

def delete : Option StunRequestManager := do
  let request ← manager.object key
  (manager.record (.removed key)).destroy request

def deleteAll : List Nat → StunRequestManager → Option StunRequestManager
  | [], manager => some manager
  | key :: keys, manager => do
    let manager ← manager.delete key
    deleteAll keys manager

def clear (manager : StunRequestManager) : Option StunRequestManager :=
  deleteAll (manager.requests.map Prod.snd) manager

def checkResponse (message : StunMessage) (manager : StunRequestManager) :
    Option StunRequestManager :=
  match manager.requests.lookup message.transactionId with
  | none => some manager
  | some key => do
    let request ← manager.object key
    match request.answer message with
    | none => pure manager
    | some entry => pure ((manager.record entry).begin key .callback)

/-- The message in a packet, which is read as one of the class of the pending request. The
transaction id stands behind eight bytes. -/
def readResponse (data : Bytes) (manager : StunRequestManager) : Option StunMessage :=
  if data.length < 20 then none
  else do
    let id ← data.bytesAt 8 kStunTransactionIdLength
    let key ← manager.requests.lookup id
    let request ← manager.object key
    let (message, _) ← StunMessage.read request.messageClass data
    pure message

def onMessage : Option StunRequestManager :=
  if manager.running ≠ [] ∨ key ∉ manager.posted.map Prod.fst then none
  else do
    let request ← manager.object key
    let taken := { manager with
      posted := manager.posted.eraseP fun message => message.1 = key }
    if request.timeout then pure ((taken.record (.timedOut key)).begin key .callback)
    else pure ((taken.record (.sent key)).begin key .sending)

end

/-- What follows the innermost handler: `OnMessage` posts the next message, and a request that had
its callback is deleted. -/
def afterHandler (manager : StunRequestManager) : Option StunRequestManager :=
  match manager.running with
  | [] => none
  | (key, .callback) :: running => do
    let request ← manager.object key
    { manager with running }.destroy request
  | (key, .sending) :: running => do
    let request ← manager.object key
    let (delay, next) := request.getNextDelay
    pure { manager with
      running
      objects := manager.objects.map fun other => if other.key = key then next else other
      posted := (key, delay) :: manager.posted }

def step (manager : StunRequestManager) : RequestEvent → Option StunRequestManager
  | .send requestClass messageClass id type delay =>
    manager.sendDelayed requestClass messageClass id type delay
  | .remove key => do
    let request ← manager.object key
    (manager.record (.removed key)).remove request
  | .clear => manager.clear
  | .delete key => manager.delete key
  | .checkResponse message => manager.checkResponse message
  | .checkPacket data =>
    match manager.readResponse data with
    | none => some manager
    | some message => manager.checkResponse message
  | .message key => manager.onMessage key
  | .returned => manager.afterHandler

end StunRequestManager

end ZyWebRtc.Stun
