import ZyWebRtc.DataChannel.Config

namespace ZyWebRtc.DataChannel

/-! A data channel: its state, its three queues, and what it hands to the provider that sends
its messages and to the observer that receives them. -/

def kMaxQueuedReceivedDataPackets : Nat := 100
def kMaxQueuedSendDataPackets : Nat := 100

inductive DataMessageType
  | none
  | control
  | binary
  | text
  deriving DecidableEq

inductive SendDataResult
  | success
  | error
  | block
  deriving DecidableEq

structure SendDataParams where
  ssrc : UInt32 := 0
  type : DataMessageType := .text
  ordered : Bool := false
  reliable : Bool := false
  maxRtxCount : Int := 0
  maxRtxMs : Int := 0
  deriving DecidableEq

structure DataBuffer where
  data : Bytes
  binary : Bool
  deriving DecidableEq

inductive DataState
  | connecting
  | open
  | closing
  | closed
  deriving DecidableEq

/-- A call of `SendData`. -/
structure ProviderCall where
  params : SendDataParams
  payload : Bytes
  result : SendDataResult
  deriving DecidableEq

/-- The last two fields are what the provider was called with and what observers were given. -/
structure Channel where
  dataChannelType : DataChannelType
  config : DataChannelInit
  hasObserver : Bool
  state : DataState
  wasEverWritable : Bool
  connectedToProvider : Bool
  sendSsrcSet : Bool
  sendSsrc : UInt32
  receiveSsrcSet : Bool
  receiveSsrc : UInt32
  queuedControlData : List Bytes
  queuedReceivedData : List DataBuffer
  queuedSendData : List DataBuffer
  calls : List ProviderCall
  messages : List DataBuffer
  deriving DecidableEq

namespace Channel

def new (dataChannelType : DataChannelType) (config : DataChannelInit) : Channel :=
  { dataChannelType := dataChannelType
    config := config
    hasObserver := false
    state := .connecting
    wasEverWritable := false
    connectedToProvider := false
    sendSsrcSet := false
    sendSsrc := 0
    receiveSsrcSet := false
    receiveSsrc := 0
    queuedControlData := []
    queuedReceivedData := []
    queuedSendData := []
    calls := []
    messages := [] }

section

variable (channel : Channel)

def hasNegotiationCompleted : Bool :=
  channel.sendSsrcSet == channel.receiveSsrcSet

/-- The loop gives every message that is queued to the observer. -/
def deliverQueuedReceivedData : Channel :=
  if !channel.wasEverWritable || !channel.hasObserver then channel
  else
    { channel with
      messages := channel.messages ++ channel.queuedReceivedData
      queuedReceivedData := [] }

def registerObserver : Channel :=
  { channel with hasObserver := true }.deliverQueuedReceivedData

def unregisterObserver : Channel := { channel with hasObserver := false }

/-- When too many messages are queued, all of them are dropped. -/
def queueReceivedData (buffer : DataBuffer) (channel : Channel) : Channel :=
  let kept :=
    if kMaxQueuedReceivedDataPackets < channel.queuedReceivedData.length then []
    else channel.queuedReceivedData
  { channel with queuedReceivedData := kept ++ [buffer] }

def onDataReceived (ssrc : UInt32) (type : DataMessageType) (payload : Bytes)
    (channel : Channel) : Channel :=
  if ssrc ≠ channel.receiveSsrc then channel
  else
    let buffer : DataBuffer := ⟨payload, type = .binary⟩
    if channel.wasEverWritable && channel.hasObserver then
      { channel with messages := channel.messages ++ [buffer] }
    else channel.queueReceivedData buffer

/-- The observer is told, but no message. -/
def setState (state : DataState) (channel : Channel) : Channel := { channel with state := state }

def connectToDataSession (connects : Bool) (channel : Channel) : Channel :=
  { channel with connectedToProvider := connects }

def disconnectFromDataSession : Channel :=
  { channel with connectedToProvider := false }

def updateState (connects : Bool) (channel : Channel) : Channel :=
  match channel.state with
  | .connecting =>
    if channel.hasNegotiationCompleted then
      let connected :=
        if channel.connectedToProvider then channel else channel.connectToDataSession connects
      if connected.wasEverWritable then (connected.setState .open).deliverQueuedReceivedData
      else connected
    else channel
  | .open => channel
  | .closing =>
    let disconnected :=
      if channel.connectedToProvider then channel.disconnectFromDataSession else channel
    if disconnected.hasNegotiationCompleted then disconnected.setState .closed
    else disconnected
  | .closed => channel

def close (connects : Bool) (channel : Channel) : Channel :=
  if channel.state = .closed then channel
  else
    ({ channel with sendSsrc := 0, sendSsrcSet := false }.setState .closing).updateState connects

def doClose (connects : Bool) (channel : Channel) : Channel :=
  ({ channel with receiveSsrcSet := false, sendSsrcSet := false }.setState .closing).updateState
    connects

def setReceiveSsrc (receiveSsrc : UInt32) (connects : Bool) (channel : Channel) : Channel :=
  if channel.receiveSsrcSet then channel
  else { channel with receiveSsrc := receiveSsrc, receiveSsrcSet := true }.updateState connects

def setSendSsrc (sendSsrc : UInt32) (connects : Bool) (channel : Channel) : Channel :=
  if channel.sendSsrcSet then channel
  else { channel with sendSsrc := sendSsrc, sendSsrcSet := true }.updateState connects

/-! ## Sending -/

def provide (params : SendDataParams) (payload : Bytes) (result : SendDataResult)
    (channel : Channel) : Channel :=
  { channel with calls := channel.calls ++ [⟨params, payload, result⟩] }

def dataParams (buffer : DataBuffer) : SendDataParams :=
  let type := if buffer.binary then .binary else .text
  match channel.dataChannelType with
  | .rtp => { ssrc := channel.sendSsrc, type := type }
  | .sctp =>
    { ssrc := channel.sendSsrc
      type := type
      ordered := channel.config.ordered
      maxRtxCount := channel.config.maxRetransmits
      maxRtxMs := channel.config.maxRetransmitTime }

def internalSendWithoutQueueing (buffer : DataBuffer) (result : SendDataResult)
    (channel : Channel) : Channel :=
  channel.provide (channel.dataParams buffer) buffer.data result

def queueSendData (buffer : DataBuffer) (channel : Channel) : Bool × Channel :=
  if kMaxQueuedSendDataPackets < channel.queuedSendData.length then (false, channel)
  else (true, { channel with queuedSendData := channel.queuedSendData ++ [buffer] })

/-- `result` is what the provider answers, if it is called. -/
def send (buffer : DataBuffer) (result : SendDataResult) (channel : Channel) : Bool × Channel :=
  if channel.state ≠ .open then (false, channel)
  else if channel.queuedSendData ≠ [] then channel.queueSendData buffer
  else
    let provided := channel.internalSendWithoutQueueing buffer result
    match result with
    | .success => (true, provided)
    | .block => provided.queueSendData buffer
    | .error => (false, provided)

def controlParams : SendDataParams :=
  { ssrc := UInt32.ofInt channel.config.id, ordered := true, type := .control }

end

def queueControl (buffer : Bytes) (channel : Channel) : Channel :=
  { channel with queuedControlData := channel.queuedControlData ++ [buffer] }

def sendControl (buffer : Bytes) (result : SendDataResult) (channel : Channel) : Bool × Channel :=
  if channel.dataChannelType = .rtp then (false, channel)
  else if channel.state ≠ .open then (true, channel.queueControl buffer)
  else
    let provided := channel.provide channel.controlParams buffer result
    match result with
    | .success => (true, provided)
    | .block => (false, provided.queueControl buffer)
    | .error => (false, provided)

/-- The loop of `DeliverQueuedControlData`, with the answers of the provider to what it sends. A
message that `SendControl` queues again is sent again, so the loop may not end: it has a result
when the answers are enough to empty the queue. -/
def deliverControlData : List SendDataResult → Channel → Option (List SendDataResult × Channel)
  | [], channel => if channel.queuedControlData = [] then some ([], channel) else none
  | result :: results, channel =>
    match channel.queuedControlData with
    | [] => some (result :: results, channel)
    | buffer :: others =>
      deliverControlData results
        ({ channel with queuedControlData := others }.sendControl buffer result).2

def deliverQueuedControlData (results : List SendDataResult) (channel : Channel) :
    Option (List SendDataResult × Channel) :=
  if channel.wasEverWritable then deliverControlData results channel else some (results, channel)

/-- The loop of `DeliverQueuedSendData`, which the first message that is not sent ends. -/
def deliverSendData : List SendDataResult → Channel → Option Channel
  | [], channel => if channel.queuedSendData = [] then some channel else none
  | result :: results, channel =>
    match channel.queuedSendData with
    | [] => some channel
    | buffer :: others =>
      let provided := channel.internalSendWithoutQueueing buffer result
      if result = .success then
        deliverSendData results { provided with queuedSendData := others }
      else some provided

def deliverQueuedSendData (results : List SendDataResult) (channel : Channel) :
    Option Channel := do
  let (left, delivered) ← channel.deliverQueuedControlData results
  if delivered.wasEverWritable then deliverSendData left delivered else pure delivered

/-- There is no result when the loops do not end with the given answers of the provider. -/
def onChannelReady (writable connects : Bool) (results : List SendDataResult)
    (channel : Channel) : Option Channel :=
  if writable = false then some channel
  else if channel.wasEverWritable = false then do
    let (_, delivered) ←
      ({ channel with wasEverWritable := true }.updateState connects).deliverQueuedControlData
        results
    pure delivered
  else if channel.state = .open then channel.deliverQueuedSendData results
  else some channel

end Channel

end ZyWebRtc.DataChannel
