import ZyWebRtc.Foundation.Run
import ZyWebRtc.Stun.Message

namespace ZyWebRtc.Stun

/-! `AsyncStunTCPSocket`: STUN and ChannelData messages over a TCP connection, and the buffers of
`AsyncTCPSocketBase` on both of its ends. A read outside of a message, an assertion that fails
and a loop that does not end have no value. -/

def kTcpMaxPacketSize : Nat := 64 * 1024

def kTcpBufSize : Nat := kTcpMaxPacketSize + kStunHeaderSize

def kTurnChannelDataHdrSize : Nat := 4

/-- The length that a header gives, and the bytes that are added up to the next multiple of
four. Only ChannelData is padded. -/
def expectedLength (msgType pktLen : UInt16) : Nat × Nat :=
  if msgType &&& 0xC000 = 0 then (kStunHeaderSize + pktLen.toNat, 0)
  else
    let expectedPktLen := kTurnChannelDataHdrSize + pktLen.toNat
    (expectedPktLen, if expectedPktLen % 4 = 0 then 0 else 4 - expectedPktLen % 4)

def getExpectedLength (data : Bytes) : Option (Nat × Nat) := do
  let pktLen ← data.uint16At 2
  let msgType ← data.uint16At 0
  pure (expectedLength msgType pktLen)

/-- What `Send` of the connection below does: it takes up to a number of bytes, or fails. -/
abbrev SocketRoom := Option Nat

/-- The status, the bytes that go out and the bytes that stay in the buffer. -/
def flushOutBuffer (room : SocketRoom) (outBuffer : Bytes) : Int × Bytes × Bytes :=
  match room with
  | none => (-1, [], outBuffer)
  | some room =>
    (min room outBuffer.length, outBuffer.take room, outBuffer.drop room)

def appendToOutBuffer (data outBuffer : Bytes) : Option Bytes :=
  if outBuffer.length + data.length < kTcpBufSize then some (outBuffer ++ data) else none

/-- The status, the bytes that go out and the buffer afterwards. A message that comes while bytes
wait in the buffer is dropped, and its length is returned all the same. -/
def send (packet : Bytes) (room : SocketRoom) (outBuffer : Bytes) :
    Option (Int × Bytes × Bytes) := do
  if kTcpBufSize < packet.length ∨ packet.length < 4 then pure (-1, [], outBuffer)
  else if outBuffer ≠ [] then pure (packet.length, [], outBuffer)
  else
    let (expectedPktLen, padBytes) ← getExpectedLength packet
    if packet.length ≠ expectedPktLen then pure (-1, [], outBuffer)
    else
      let outBuffer ← appendToOutBuffer packet outBuffer
      let outBuffer ← appendToOutBuffer (List.replicate padBytes 0) outBuffer
      let (res, sent, outBuffer) := flushOutBuffer room outBuffer
      if res ≤ 0 then pure (res, sent, []) else pure (packet.length, sent, outBuffer)

/-- The loop over the received bytes: the packets that are signalled, and the bytes that are
left. -/
def processInput : (iterations : Nat) → Bytes → Option (List Bytes × Bytes)
  | 0, _ => none
  | iterations + 1, data =>
    if data.length < 4 then some ([], data)
    else do
      let (expectedPktLen, padBytes) ← getExpectedLength data
      let actualLength := expectedPktLen + padBytes
      if data.length < actualLength then pure ([], data)
      else
        let (packets, rest) ← processInput iterations (data.drop actualLength)
        pure (data.take expectedPktLen :: packets, rest)

/-- The packets and the buffer after bytes were received. A buffer that overflows is emptied. -/
def onReadEvent (received inBuffer : Bytes) : Option (List Bytes × Bytes) := do
  let inBuffer := inBuffer ++ received
  let (packets, rest) ← processInput (inBuffer.length + 1) inBuffer
  pure (packets, if kTcpBufSize ≤ rest.length then [] else rest)

/-- Both ends of a connection with the bytes between them, the messages that `Send` took with
their whole length while no bytes were waiting, and the packets that were signalled. -/
structure TcpConnection where
  outBuffer : Bytes
  inFlight : Bytes
  inBuffer : Bytes
  sent : List Bytes
  signalled : List Bytes
  deriving DecidableEq, Repr

inductive TcpEvent
  | send (packet : Bytes) (room : SocketRoom)
  | writeEvent (room : SocketRoom)
  | readEvent (count : Nat)
  deriving DecidableEq, Repr

namespace TcpConnection

def new : TcpConnection where
  outBuffer := []
  inFlight := []
  inBuffer := []
  sent := []
  signalled := []

/-- A read event gives as many bytes as have arrived, at most those that have room in the
buffer. -/
def step (connection : TcpConnection) : TcpEvent → Option TcpConnection
  | .send packet room => do
    let (status, bytes, outBuffer) ← Stun.send packet room connection.outBuffer
    pure { connection with
      outBuffer
      inFlight := connection.inFlight ++ bytes
      sent :=
        if connection.outBuffer = [] ∧ status = packet.length then connection.sent ++ [packet]
        else connection.sent }
  | .writeEvent room =>
    if connection.outBuffer = [] then some connection
    else
      let (_, bytes, outBuffer) := flushOutBuffer room connection.outBuffer
      some { connection with outBuffer, inFlight := connection.inFlight ++ bytes }
  | .readEvent count => do
    let count := min count (kTcpBufSize - connection.inBuffer.length)
    let (packets, inBuffer) ←
      onReadEvent (connection.inFlight.take count) connection.inBuffer
    pure { connection with
      inFlight := connection.inFlight.drop count
      inBuffer
      signalled := connection.signalled ++ packets }

end TcpConnection

end ZyWebRtc.Stun
