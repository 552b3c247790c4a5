import ZyWebRtc.Foundation.ByteString
import ZyWebRtc.PseudoTcp.FifoBuffer

namespace ZyWebRtc

namespace PseudoTcp

/-! The members of `PseudoTcp`, its constants, and the world it calls. Sequence
numbers, sizes and times are 32 bits wide and wrap. -/

inductive TcpState
  | listen
  | synSent
  | synReceived
  | established
  | closed
  deriving DecidableEq, Repr

inductive Shutdown
  | none
  | graceful
  | forceful
  deriving DecidableEq, Repr

inductive SocketError
  | none
  | einval
  | enotconn
  | ewouldblock
  | econnreset
  | econnaborted
  deriving DecidableEq, Repr

inductive SendFlags
  | none
  | delayedAck
  | immediateAck
  deriving DecidableEq, Repr

inductive WriteResult
  | success
  | tooLarge
  | fail
  deriving DecidableEq, Repr

/-- The callbacks of `IPseudoTcpNotify` other than the writing of packets. -/
inductive TcpEvent
  | opened
  | readable
  | writeable
  | closed (error : SocketError)
  deriving DecidableEq, Repr

/-- What the calls of `Now` and of `TcpWritePacket` return, each by its number. -/
structure Environment where
  clock : Nat → UInt32
  tcpWritePacket : Nat → WriteResult

/-- `PACKET_MAXIMUMS`; the list ends with a zero. -/
def packetMaximums : List UInt32 :=
  [65535, 32000, 17914, 8166, 4352, 2002, 1492, 1006, 508, 296, 0]

def packetMaximum (level : Nat) : UInt32 := packetMaximums.getD level 0

def maxPacket : UInt32 := 65535

def minPacket : UInt32 := 296

def headerSize : UInt32 := 24

/-- With the headers of UDP, IP and the relay framing. -/
def packetOverhead : UInt32 := headerSize + 8 + 20 + 64

def defaultRcvBufSize : UInt32 := 60 * 1024

def defaultSndBufSize : UInt32 := 90 * 1024

def minRto : UInt32 := 250

def defRto : UInt32 := 3000

def maxRto : UInt32 := 60000

def defAckDelay : UInt32 := 100

def flagCtl : UInt8 := 0x02

def flagRst : UInt8 := 0x04

def ctlConnect : UInt8 := 0

def tcpOptEol : UInt8 := 0

def tcpOptNoop : UInt8 := 1

def tcpOptWndScale : UInt8 := 3

/-! ## Members -/

structure SSegment where
  seq : UInt32
  len : UInt32
  xmit : UInt8
  bCtrl : Bool
  deriving DecidableEq, Repr

structure RSegment where
  seq : UInt32
  len : UInt32
  deriving DecidableEq, Repr

/-- A received segment. Its data is the memory behind the header. -/
structure Segment where
  conv : UInt32
  seq : UInt32
  ack : UInt32
  flags : UInt8
  wnd : UInt16
  data : Nat → UInt8
  len : UInt32
  tsval : UInt32
  tsecr : UInt32

/-- How often the environment was called, and what it was given. A packet whose
writing did not succeed is not on the network. -/
structure Network where
  ticks : Nat
  writes : Nat
  packets : List Bytes
  events : List TcpEvent

structure Incoming where
  rlist : List RSegment
  rbufLen : UInt32
  rcvNxt : UInt32
  rcvWnd : UInt32
  lastrecv : UInt32
  rwndScale : UInt8
  rbuf : FifoBuffer

structure Outgoing where
  slist : List SSegment
  sbufLen : UInt32
  sndNxt : UInt32
  sndWnd : UInt32
  lastsend : UInt32
  sndUna : UInt32
  swndScale : UInt8
  sbuf : FifoBuffer

end PseudoTcp

open PseudoTcp in
structure PseudoTcp extends Network, Incoming, Outgoing where
  shutdown : Shutdown
  error : SocketError
  state : TcpState
  conv : UInt32
  bReadEnable : Bool
  bWriteEnable : Bool
  bOutgoing : Bool
  lasttraffic : UInt32
  mss : UInt32
  msslevel : Nat
  largest : UInt32
  mtuAdvise : UInt32
  rtoBase : UInt32
  tsRecent : UInt32
  tsLastack : UInt32
  rxRttvar : UInt32
  rxSrtt : UInt32
  rxRto : UInt32
  ssthresh : UInt32
  cwnd : UInt32
  dupAcks : UInt8
  recover : UInt32
  tAck : UInt32
  useNagling : Bool
  ackDelay : UInt32
  supportWndScale : Bool

namespace PseudoTcp

/-- The constructor, at the given time and with memory that is not initialized. -/
def create (conv now : UInt32) (memory : Nat → UInt8) : PseudoTcp where
  ticks := 0
  writes := 0
  packets := []
  events := []
  rlist := []
  rbufLen := defaultRcvBufSize
  rcvNxt := 0
  rcvWnd := defaultRcvBufSize
  lastrecv := now
  rwndScale := 0
  rbuf := FifoBuffer.create defaultRcvBufSize.toNat memory
  slist := []
  sbufLen := defaultSndBufSize
  sndNxt := 0
  sndWnd := 1
  lastsend := now
  sndUna := 0
  swndScale := 0
  sbuf := FifoBuffer.create defaultSndBufSize.toNat memory
  shutdown := .none
  error := .none
  state := .listen
  conv := conv
  bReadEnable := true
  bWriteEnable := false
  bOutgoing := false
  lasttraffic := now
  mss := minPacket - packetOverhead
  msslevel := 0
  largest := 0
  mtuAdvise := maxPacket
  rtoBase := 0
  tsRecent := 0
  tsLastack := 0
  rxRttvar := 0
  rxSrtt := 0
  rxRto := defRto
  ssthresh := defaultRcvBufSize
  cwnd := 2 * (minPacket - packetOverhead)
  dupAcks := 0
  recover := 0
  tAck := 0
  useNagling := true
  ackDelay := defAckDelay
  supportWndScale := true

def timeDiff (later earlier : UInt32) : Int := (later - earlier).toBitVec.toInt

example : timeDiff 5 0xFFFFFFFE = 7 := by decide

def bound (lower middle upper : UInt32) : UInt32 := min (max lower middle) upper

def longToBytes (value : UInt32) : Bytes :=
  [(value >>> 24).toUInt8, (value >>> 16).toUInt8, (value >>> 8).toUInt8, value.toUInt8]

def shortToBytes (value : UInt16) : Bytes := [(value >>> 8).toUInt8, value.toUInt8]

def bytesToLong (memory : Nat → UInt8) (offset : Nat) : UInt32 :=
  ((memory offset).toUInt32 <<< 24) + ((memory (offset + 1)).toUInt32 <<< 16) +
    ((memory (offset + 2)).toUInt32 <<< 8) + (memory (offset + 3)).toUInt32

def bytesToShort (memory : Nat → UInt8) (offset : Nat) : UInt16 :=
  ((memory offset).toUInt16 <<< 8) + (memory (offset + 1)).toUInt16

/-- The bytes of a list as a memory; behind them it is not initialized. -/
def asMemory (bytes : Bytes) : Nat → UInt8 := fun position => bytes.getD position 0

end PseudoTcp

end ZyWebRtc
