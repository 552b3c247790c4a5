import ZyWebRtc.Ice.Pruning

namespace ZyWebRtc.Ice

/-! What the functions of a connection do to the connection itself. Each is the function of the
channel with the rest of the channel left out. -/

open Stun StunMessage

namespace Connection

variable (connection : Connection)

def checkTimeout : Connection :=
  if connection.isUseless then { connection with deletePosted := true } else connection

def setReadState (value : ReadState) : Connection :=
  if connection.readState = value then connection
  else { connection with readState := value }.checkTimeout

def setWriteState (value : WriteState) : Connection :=
  if connection.writeState = value then connection
  else { connection with writeState := value }.checkTimeout

def receivedPing (now : UInt32) : Connection :=
  { connection with lastPingReceived := now }.setReadState .readable

def prune : Connection :=
  if connection.pruned then connection
  else { connection with pruned := true, requests := [] }.setWriteState .writeTimeout

def destroy : Connection :=
  (connection.setReadState .readTimeout).setWriteState .writeTimeout

def restartTimedOut : Connection :=
  if ¬ connection.pruned ∧ connection.writeState = .writeTimeout then
    connection.setWriteState .writeInit
  else connection

/-- The first part of `UpdateState`, which looks at the readable state. -/
def updateReadState (isGoogle : Bool) (now : UInt32) : Connection :=
  if isGoogle ∧ connection.readTimedOut now then connection.setReadState .readTimeout
  else connection

def updateWritable (now : UInt32) : Connection :=
  if connection.becomesUnreliable now then connection.setWriteState .writeUnreliable
  else connection

def updateWriteTimeout (now : UInt32) : Connection :=
  if connection.writeTimedOut now then connection.setWriteState .writeTimeout else connection

def updateState (isGoogle : Bool) (now : UInt32) : Connection :=
  ((connection.updateReadState isGoogle now).updateWritable now).updateWriteTimeout now

def onBindingRequest (now : UInt32) : Connection :=
  (connection.receivedPing now).restartTimedOut

/-- A packet that is not a message. -/
def onData (now : UInt32) : Connection :=
  if connection.readable then { connection with lastDataReceived := now }.restartTimedOut
  else connection

def recordSuccess (now : UInt32) : Connection :=
  let written := (connection.setWriteState .writable).succeed
  if connection.remoteIceMode = .lite then written.receivedPing now else written

def onConnectionRequestResponse (request : ConnectionRequest)
    (now : UInt32) : Connection :=
  (connection.recordSuccess now).measure (now - request.tstamp)

def onConnectionRequestErrorResponse (errorCode : Nat) : Connection :=
  if errorCode ∈ ChannelSystem.recoverableErrors ∨ errorCode = StunError.roleConflict.code then
    connection
  else { connection with state := .failed }.setWriteState .writeTimeout

/-- `CheckResponse`, for a success response. -/
def onResponse (transactionId : Bytes) (now : UInt32) :
    Connection :=
  match connection.findRequest transactionId with
  | some request =>
    (connection.onConnectionRequestResponse request now).removeRequest request.id
  | none => connection

/-- `CheckResponse`, for an error response. -/
def onErrorResponse (transactionId : Bytes) (errorCode : Nat) :
    Connection :=
  match connection.findRequest transactionId with
  | some request =>
    (connection.onConnectionRequestErrorResponse errorCode).removeRequest request.id
  | none => connection

def onRequestMessage (transactionId : Bytes) (now : UInt32) :
    Connection :=
  match connection.findRequest transactionId with
  | some request =>
    if request.timeout then connection.removeRequest transactionId
    else connection.sendRequest transactionId now
  | none => connection

def close : Connection :=
  { connection with connected := false }.setWriteState .writeTimeout

end Connection

namespace ChannelSystem

variable {system before middle after : ChannelSystem} {id : Nat}
  {change next : Connection → Connection}

end ChannelSystem

end ZyWebRtc.Ice
