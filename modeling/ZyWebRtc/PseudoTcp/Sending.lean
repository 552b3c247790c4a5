import ZyWebRtc.PseudoTcp.State

namespace ZyWebRtc.PseudoTcp

/-! How `PseudoTcp` queues bytes and writes packets. -/

variable (env : Environment)

variable (tcp : PseudoTcp)

def now : UInt32 := env.clock tcp.ticks

def tick : PseudoTcp := { tcp with ticks := tcp.ticks + 1 }

def notifyEvent (event : TcpEvent) (tcp : PseudoTcp) : PseudoTcp :=
  { tcp with events := tcp.events ++ [event] }

def closedown (error : SocketError) (tcp : PseudoTcp) : PseudoTcp :=
  notifyEvent (.closed error) { tcp with state := .closed }

/-- Bytes join the last segment when it has the same type and was not sent yet. -/
def appendSegment (slist : List SSegment) (seq len : UInt32) (bCtrl : Bool) : List SSegment :=
  match slist.getLast? with
  | some last =>
    if last.bCtrl = bCtrl ∧ last.xmit = 0 then
      slist.dropLast ++ [{ last with len := last.len + len }]
    else slist ++ [{ seq, len, xmit := 0, bCtrl }]
  | none => [{ seq, len, xmit := 0, bCtrl }]

/-- `queue`: the number of bytes written, and the connection after it. -/
def queue (data : Nat → UInt8) (len : UInt32) (bCtrl : Bool) (tcp : PseudoTcp) :
    UInt32 × PseudoTcp :=
  let available := UInt32.ofNat tcp.sbuf.getWriteRemaining
  let len := if available < len then available else len
  let seq := tcp.sndUna + UInt32.ofNat tcp.sbuf.getBuffered
  let (written, sbuf) := tcp.sbuf.write data len.toNat
  (UInt32.ofNat written, { tcp with slist := appendSegment tcp.slist seq len bCtrl, sbuf := sbuf })

/-- The options of the connect message announce the scale of the own window. -/
def connectMessage : Bytes :=
  if tcp.supportWndScale then [ctlConnect, tcpOptWndScale, 1, tcp.rwndScale] else [ctlConnect]

def queueConnectMessage : PseudoTcp :=
  let message := tcp.connectMessage
  (queue (asMemory message) (UInt32.ofNat message.length) true
    { tcp with sndWnd := UInt32.ofNat message.length }).2

/-! ## Packets -/

/-- The bytes that `packet` writes. The part of the payload that is not buffered
stays as the new memory has it. -/
def packetBytes (seq : UInt32) (flags : UInt8) (offset len : UInt32) (tcp : PseudoTcp) : Bytes :=
  let payload := (tcp.sbuf.readOffset len.toNat offset.toNat).getD []
  longToBytes tcp.conv ++ longToBytes seq ++ longToBytes tcp.rcvNxt ++ [0, flags] ++
    shortToBytes (tcp.rcvWnd >>> tcp.rwndScale.toUInt32).toUInt16 ++
    longToBytes (tcp.now env) ++ longToBytes tcp.tsRecent ++
    (payload ++ List.replicate (len.toNat - payload.length) 0)

/-- `packet`: the result of writing it. An acknowledgement alone counts as written. -/
def packet (seq : UInt32) (flags : UInt8) (offset len : UInt32) (tcp : PseudoTcp) :
    WriteResult × PseudoTcp :=
  let now := tcp.now env
  let bytes := tcp.packetBytes env seq flags offset len
  let result := env.tcpWritePacket tcp.writes
  let tcp := { tcp.tick with
    tsLastack := tcp.rcvNxt
    writes := tcp.writes + 1
    packets := if result = .success then tcp.packets ++ [bytes] else tcp.packets }
  if result ≠ .success ∧ len ≠ 0 then (result, tcp)
  else (.success, { tcp with
    tAck := 0
    lastsend := if 0 < len then now else tcp.lastsend
    lasttraffic := now
    bOutgoing := true })

/-- The inner loop of `transmit`: the next smaller packet size that is smaller than
the packet that was too large. -/
def reduceMss : (fuel : Nat) → (nTransmit : UInt32) → PseudoTcp → Option UInt32 × PseudoTcp
  | 0, _, tcp => (none, tcp)
  | fuel + 1, nTransmit, tcp =>
    if packetMaximum (tcp.msslevel + 1) = 0 then (none, tcp)
    else
      let mss := packetMaximum (tcp.msslevel + 1) - packetOverhead
      let reduced := { tcp with msslevel := tcp.msslevel + 1, mss, cwnd := 2 * mss }
      if mss < nTransmit then (some mss, reduced) else reduceMss fuel nTransmit reduced

def transmitLoop (seg : SSegment) : (fuel : Nat) → (nTransmit : UInt32) → PseudoTcp →
    Option UInt32 × PseudoTcp
  | 0, _, tcp => (none, tcp)
  | fuel + 1, nTransmit, tcp =>
    let flags := if seg.bCtrl then flagCtl else 0
    match packet env seg.seq flags (seg.seq - tcp.sndUna) nTransmit tcp with
    | (.success, tcp) => (some nTransmit, tcp)
    | (.fail, tcp) => (none, tcp)
    | (.tooLarge, tcp) =>
      match reduceMss packetMaximums.length nTransmit tcp with
      | (none, tcp) => (none, tcp)
      | (some nTransmit, tcp) => transmitLoop seg fuel nTransmit tcp

def splitSegment (index : Nat) (len : UInt32) (slist : List SSegment) : List SSegment :=
  match slist[index]? with
  | none => slist
  | some seg =>
    if len < seg.len then
      slist.take index ++
        [{ seg with len }, { seg with seq := seg.seq + len, len := seg.len - len }] ++
        slist.drop (index + 1)
    else slist

def countTransmission (index : Nat) (slist : List SSegment) : List SSegment :=
  slist.modify index fun seg => { seg with xmit := seg.xmit + 1 }

/-- `transmit`, for the segment at a position of the send queue. There is one at every
position that `transmit` is called for. -/
def transmit (index : Nat) (now : UInt32) (tcp : PseudoTcp) : Bool × PseudoTcp :=
  match tcp.slist[index]? with
  | none => (false, tcp)
  | some seg =>
    if (if tcp.state = .established then 15 else 30) ≤ seg.xmit then (false, tcp)
    else
      match transmitLoop env seg packetMaximums.length (min seg.len tcp.mss) tcp with
      | (none, tcp) => (false, tcp)
      | (some nTransmit, tcp) =>
        (true, { tcp with
          slist := countTransmission index (splitSegment index nTransmit tcp.slist)
          sndNxt := if seg.xmit = 0 then tcp.sndNxt + min nTransmit seg.len else tcp.sndNxt
          rtoBase := if tcp.rtoBase = 0 then now else tcp.rtoBase })

def sendableBytes : UInt32 :=
  let cwnd :=
    if tcp.dupAcks = 1 ∨ tcp.dupAcks = 2 then tcp.cwnd + tcp.dupAcks.toUInt32 * tcp.mss
    else tcp.cwnd
  let nWindow := min tcp.sndWnd cwnd
  let nInFlight := tcp.sndNxt - tcp.sndUna
  let nUseable := if nInFlight < nWindow then nWindow - nInFlight else 0
  let nAvailable := min (UInt32.ofNat tcp.sbuf.getBuffered - nInFlight) tcp.mss
  if nUseable < nAvailable then
    if nUseable * 4 < nWindow then 0 else nUseable
  else nAvailable

/-- With nothing to send, an acknowledgement may be due now or later. -/
def sendAck (sflags : SendFlags) (tcp : PseudoTcp) : PseudoTcp :=
  match sflags with
  | .none => tcp
  | .immediateAck => (packet env tcp.sndNxt 0 0 0 tcp).2
  | .delayedAck =>
    if tcp.tAck ≠ 0 then (packet env tcp.sndNxt 0 0 0 tcp).2
    else { tcp.tick with tAck := tcp.now env }

def attemptSendLoop (now : UInt32) : (fuel : Nat) → SendFlags → PseudoTcp → PseudoTcp
  | 0, _, tcp => tcp
  | fuel + 1, sflags, tcp =>
    let nAvailable := tcp.sendableBytes
    if nAvailable = 0 then sendAck env sflags tcp
    else if tcp.useNagling ∧ tcp.sndUna < tcp.sndNxt ∧ nAvailable < tcp.mss then tcp
    else
      let index := tcp.slist.findIdx (·.xmit = 0)
      match transmit env index now
          { tcp with slist := splitSegment index nAvailable tcp.slist } with
      | (false, tcp) => tcp
      | (true, tcp) => attemptSendLoop now fuel .none tcp

/-- `attemptSend`. Every round sends bytes or an empty segment, so the fuel is enough. -/
def attemptSend (sflags : SendFlags) (tcp : PseudoTcp) : PseudoTcp :=
  let now := tcp.now env
  let tcp := tcp.tick
  let tcp :=
    if (tcp.rxRto.toNat : Int) < timeDiff now tcp.lastsend then { tcp with cwnd := tcp.mss } else tcp
  attemptSendLoop env now (2 * tcp.sbuf.dataLength + tcp.slist.length + 1) sflags tcp

def mssLevel (mtuAdvise : UInt32) : (fuel level : Nat) → Nat
  | 0, level => level
  | fuel + 1, level =>
    if packetMaximum (level + 1) = 0 then level
    else if packetMaximum level ≤ mtuAdvise then level
    else mssLevel mtuAdvise fuel (level + 1)

def adjustMTU : PseudoTcp :=
  let mss := tcp.mtuAdvise - packetOverhead
  { tcp with
    msslevel := mssLevel tcp.mtuAdvise packetMaximums.length 0
    mss
    ssthresh := max tcp.ssthresh (2 * mss)
    cwnd := max tcp.cwnd mss }

end ZyWebRtc.PseudoTcp
