import ZyWebRtc.Foundation.Run
import ZyWebRtc.PseudoTcp.Process

namespace ZyWebRtc.PseudoTcp

/-! The calls that an application and a network make. A call that returns -1 has no
value here. -/

variable (env : Environment)

def connect (tcp : PseudoTcp) : Bool × PseudoTcp :=
  if tcp.state ≠ .listen then (false, { tcp with error := .einval })
  else (true, attemptSend env .none (queueConnectMessage { tcp with state := .synSent }))

def notifyMTU (mtu : UInt16) (tcp : PseudoTcp) : PseudoTcp :=
  let tcp := { tcp with mtuAdvise := mtu.toUInt32 }
  if tcp.state = .established then adjustMTU tcp else tcp

def setNoDelay (value : Bool) (tcp : PseudoTcp) : PseudoTcp := { tcp with useNagling := !value }

def setAckDelay (value : UInt32) (tcp : PseudoTcp) : PseudoTcp := { tcp with ackDelay := value }

def close (force : Bool) (tcp : PseudoTcp) : PseudoTcp :=
  { tcp with shutdown := if force then .forceful else .graceful }

def recv (len : Nat) (tcp : PseudoTcp) : Option Bytes × PseudoTcp :=
  if tcp.state ≠ .established then (none, { tcp with error := .enotconn })
  else
    match tcp.rbuf.read len with
    | (none, _) => (none, { tcp with bReadEnable := true, error := .ewouldblock })
    | (some bytes, rbuf) =>
      let tcp := { tcp with rbuf := rbuf }
      let availableSpace := UInt32.ofNat rbuf.getWriteRemaining
      if min (tcp.rbufLen / 2) tcp.mss ≤ availableSpace - tcp.rcvWnd then
        let wasClosed := tcp.rcvWnd = 0
        let tcp := { tcp with rcvWnd := availableSpace }
        (some bytes, if wasClosed then attemptSend env .immediateAck tcp else tcp)
      else (some bytes, tcp)

def send (buffer : Bytes) (tcp : PseudoTcp) : Option UInt32 × PseudoTcp :=
  if tcp.state ≠ .established then (none, { tcp with error := .enotconn })
  else if tcp.sbuf.getWriteRemaining = 0 then
    (none, { tcp with bWriteEnable := true, error := .ewouldblock })
  else
    let (written, tcp) := queue (asMemory buffer) (UInt32.ofNat buffer.length) false tcp
    (some written, attemptSend env .none tcp)

section

variable (now : UInt32) (tcp : PseudoTcp)

/-- The retransmission of `NotifyClock`. No value when it failed. -/
def retransmit : Bool × PseudoTcp :=
  if tcp.rtoBase ≠ 0 ∧ timeDiff (tcp.rtoBase + tcp.rxRto) now ≤ 0 ∧ tcp.slist ≠ [] then
    match transmit env 0 now tcp with
    | (false, tcp) => (false, closedown .econnaborted tcp)
    | (true, tcp) =>
      let nInFlight := tcp.sndNxt - tcp.sndUna
      let rtoLimit := if tcp.state = .established then maxRto else defRto
      (true, { tcp with
        ssthresh := max (nInFlight / 2) (2 * tcp.mss)
        cwnd := tcp.mss
        rxRto := min rtoLimit (tcp.rxRto * 2)
        rtoBase := now })
  else (true, tcp)

/-- The probe of a closed window. No value when the peer was silent for too long. -/
def probeWindow : Bool × PseudoTcp :=
  if tcp.sndWnd = 0 ∧ timeDiff (tcp.lastsend + tcp.rxRto) now ≤ 0 then
    if 15000 ≤ timeDiff now tcp.lastrecv then (false, closedown .econnaborted tcp)
    else
      let tcp := (packet env (tcp.sndNxt - 1) 0 0 0 tcp).2
      (true, { tcp with lastsend := now, rxRto := min maxRto (tcp.rxRto * 2) })
  else (true, tcp)

def sendDelayedAck : PseudoTcp :=
  if tcp.tAck ≠ 0 ∧ timeDiff (tcp.tAck + tcp.ackDelay) now ≤ 0 then
    (packet env tcp.sndNxt 0 0 0 tcp).2
  else tcp

def notifyClock : PseudoTcp :=
  if tcp.state = .closed then tcp
  else
    match retransmit env now tcp with
    | (false, tcp) => tcp
    | (true, tcp) =>
      match probeWindow env now tcp with
      | (false, tcp) => tcp
      | (true, tcp) => sendDelayedAck env now tcp

end

/-- A packet in memory, and what else the memory holds. -/
def notifyPacket (buffer : Nat → UInt8) (len : Nat) (tcp : PseudoTcp) : Bool × PseudoTcp :=
  if maxPacket.toNat < len then (false, tcp) else parse env buffer (UInt32.ofNat len) tcp

/-- The calls, with what they are given. -/
inductive Operation
  | connect
  | notifyMTU (mtu : UInt16)
  | setNoDelay (value : Bool)
  | setAckDelay (value : UInt32)
  | close (force : Bool)
  | recv (len : Nat)
  | send (buffer : Bytes)
  | notifyClock (now : UInt32)
  | notifyPacket (buffer : Nat → UInt8) (len : Nat)

def step (tcp : PseudoTcp) : Operation → PseudoTcp
  | .connect => (connect env tcp).2
  | .notifyMTU mtu => notifyMTU mtu tcp
  | .setNoDelay value => setNoDelay value tcp
  | .setAckDelay value => setAckDelay value tcp
  | .close force => close force tcp
  | .recv len => (recv env len tcp).2
  | .send buffer => (send env buffer tcp).2
  | .notifyClock now => notifyClock env now tcp
  | .notifyPacket buffer len => (notifyPacket env buffer len tcp).2

end ZyWebRtc.PseudoTcp
