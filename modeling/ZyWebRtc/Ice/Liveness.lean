import ZyWebRtc.Foundation.WrappingClock
import ZyWebRtc.Ice.ConnectionLife

namespace ZyWebRtc.Ice

/-! A connection from its creation to its deletion, with the time that has really passed: when
its writable state is given up, and when it is deleted. -/

open Stun StunMessage WrappingClock

/-- What happens to a connection. Time passes between the other events. -/
inductive LifeEvent where
  | elapse (milliseconds : Nat)
  | ping (useCandidate : Bool) (port : Port) (localPriority : UInt32) (transactionId : Bytes)
  | requestMessage (transactionId : Bytes)
  | response (transactionId : Bytes)
  | errorResponse (transactionId : Bytes) (errorCode : Nat)
  | bindingRequest
  | receivedPing
  | data
  | updateState (isGoogle : Bool)
  | prune
  | destroy
  | connect
  | close
  | deleteMessage
  deriving DecidableEq, Repr

namespace LifeEvent

/-- The time that passes. -/
def elapsed : LifeEvent → Nat
  | .elapse milliseconds => milliseconds
  | _ => 0

def isPing : LifeEvent → Bool
  | .ping .. => true
  | _ => false

end LifeEvent

namespace Connection

/-- What an event does to the connection. The message that was posted deletes it. -/
def act (connection : Connection) (now : UInt32) : LifeEvent → Option Connection
  | .elapse _ => some connection
  | .ping useCandidate port localPriority transactionId =>
    some ({ connection with useCandidateAttr := useCandidate }.ping port localPriority now
      transactionId)
  | .requestMessage transactionId => some (connection.onRequestMessage transactionId now)
  | .response transactionId => some (connection.onResponse transactionId now)
  | .errorResponse transactionId errorCode =>
    some (connection.onErrorResponse transactionId errorCode)
  | .bindingRequest => some (connection.onBindingRequest now)
  | .receivedPing => some (connection.receivedPing now)
  | .data => some (connection.onData now)
  | .updateState isGoogle => some (connection.updateState isGoogle now)
  | .prune => some connection.prune
  | .destroy => some connection.destroy
  | .connect => some { connection with connected := true }
  | .close => some connection.close
  | .deleteMessage => if connection.deletePosted then none else some connection

def answers (connection : Connection) : LifeEvent → Bool
  | .response transactionId => (connection.findRequest transactionId).isSome
  | _ => false

/-- The event shows that the remote end is there. -/
def hears (connection : Connection) (event : LifeEvent) : Bool :=
  connection.answers event ∨ event = .bindingRequest ∨ event = .receivedPing

/-- `CheckTimeout` has posted the message that deletes the connection: a state has changed, and
the connection is useless. -/
def posts (before after : Connection) : Bool :=
  after.isUseless ∧ (after.readState ≠ before.readState ∨ after.writeState ≠ before.writeState)

end Connection

/-- A connection, until it is deleted, and its history: the real time in milliseconds, the times
of the pings since the last response, the time of that response, and whether the remote end was
heard since the message that deletes the connection was last posted. -/
structure Life where
  connection : Option Connection
  clock : Nat
  unanswered : List Nat
  lastResponse : Option Nat
  heard : Bool
  deriving DecidableEq, Repr

namespace Life

def create (id port localCandidateIndex : Nat) (connected : Bool) (remoteCandidate : Candidate)
    (remoteIceMode : IceMode) (clock : Nat) : Life where
  connection := some
    { Connection.new id port localCandidateIndex connected remoteCandidate with remoteIceMode }
  clock := clock
  unanswered := []
  lastResponse := none
  heard := false

/-- The time that the connection is told. -/
def now (life : Life) : UInt32 := reading life.clock

def step (life : Life) (event : LifeEvent) : Life :=
  match life.connection with
  | none => life
  | some connection =>
    let next := connection.act life.now event
    let answered := connection.answers event
    { connection := next
      clock := life.clock + event.elapsed
      unanswered :=
        if answered then []
        else if event.isPing then life.unanswered ++ [life.clock]
        else life.unanswered
      lastResponse := if answered then some life.clock else life.lastResponse
      heard := (life.heard || connection.hears event) && !next.any connection.posts }

def isWritable (life : Life) : Bool := life.connection.any Connection.writable

def isTimedOut (life : Life) : Bool := life.connection.any (·.writeState = .writeTimeout)

/-- The first ping without a response was sent a time ago. -/
def Waited (life : Life) (timeout : UInt32) : Prop :=
  ∃ sent ∈ life.unanswered.head?, sent + timeout.toNat ≤ life.clock

/-- There was no response for a time. -/
def Unanswered (life : Life) (timeout : UInt32) : Prop :=
  ∀ response ∈ life.lastResponse, response + timeout.toNat ≤ life.clock

/-- `UpdateState` gives up the writable state, and then the connection, in due time; and only a
connection that is of no more use is deleted. -/
structure KeepsTime (life : Life) (event : LifeEvent) : Prop where
  unreliable : ∀ isGoogle, event = .updateState isGoogle → life.isWritable →
    (life.step event).isWritable = false →
    CONNECTION_WRITE_CONNECT_FAILURES ≤ life.unanswered.length ∧
      life.Waited CONNECTION_WRITE_CONNECT_TIMEOUT
  timesOut : ∀ isGoogle, event = .updateState isGoogle → life.isTimedOut = false →
    (life.step event).isTimedOut →
    life.Waited CONNECTION_WRITE_TIMEOUT ∧ life.Unanswered CONNECTION_WRITE_TIMEOUT
  deleted : ∀ connection ∈ life.connection, (life.step event).connection = none →
    connection.writeState = .writeTimeout ∧ connection.readable = false

/-- The clock does not still have to wrap before a time has passed since the first ping without a
response. -/
def Near (life : Life) (timeout : UInt32) : Prop :=
  ∀ sent ∈ life.unanswered.head?, wraps (sent + timeout.toNat) ≤ wraps life.clock

/-- Enough pings have failed for the writable state to be given up. -/
def hasFailures (connection : Connection) (now : UInt32) : Bool :=
  connection.writable ∧
    tooManyFailures connection.pingsSinceLastResponse CONNECTION_WRITE_CONNECT_FAILURES
      (conservativeRTTEstimate connection.rtt) now

def awaitsTimeout (connection : Connection) (now : UInt32) : Bool :=
  connection.writeState = .writeUnreliable ∨ connection.writeState = .writeInit ∨
    connection.becomesUnreliable now

/-- No deadline that `UpdateState` looks for lies beyond a wrap of the clock, and the remote end
stays silent between the posting of the message that deletes the connection and that message. -/
structure InTime (life : Life) (event : LifeEvent) : Prop where
  unreliable : ∀ isGoogle, event = .updateState isGoogle → ∀ connection ∈ life.connection,
    hasFailures connection life.now → life.Near CONNECTION_WRITE_CONNECT_TIMEOUT
  timesOut : ∀ isGoogle, event = .updateState isGoogle → ∀ connection ∈ life.connection,
    awaitsTimeout connection life.now → life.Near CONNECTION_WRITE_TIMEOUT
  silent : event = .deleteMessage → ∀ connection ∈ life.connection, connection.deletePosted →
    life.heard = false

end Life

end ZyWebRtc.Ice
