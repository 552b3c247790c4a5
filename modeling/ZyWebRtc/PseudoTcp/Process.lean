import ZyWebRtc.PseudoTcp.Sending

namespace ZyWebRtc.PseudoTcp

/-! How `PseudoTcp` takes in a packet. The body of `process` is cut where one concern
ends and the next one begins. -/

variable (env : Environment)

def scaleFactor : (fuel : Nat) → (newSize : UInt32) → UInt8
  | 0, _ => 0
  | fuel + 1, newSize => if 0xFFFF < newSize then scaleFactor fuel (newSize >>> 1) + 1 else 0

/-- `resizeReceiveBuffer`; the new memory is not initialized. -/
def resizeReceiveBuffer (newSize : UInt32) (tcp : PseudoTcp) : PseudoTcp :=
  let scale := scaleFactor 17 newSize
  let newSize := (newSize >>> scale.toUInt32) <<< scale.toUInt32
  let rbuf := (tcp.rbuf.setCapacity newSize.toNat fun _ => 0).2
  { tcp with
    rbuf := rbuf
    rbufLen := newSize
    rwndScale := scale
    ssthresh := newSize
    rcvWnd := UInt32.ofNat rbuf.getWriteRemaining }

def applyOption (kind : UInt8) (data : Bytes) (swndScale : UInt8) : UInt8 :=
  if kind = tcpOptWndScale ∧ data.length = 1 then data.headD 0 else swndScale

/-- The loop of `parseOptions`: whether the window scale was specified, unless an option
was longer than the data, and the scale that was applied at last. -/
def parseOptionsLoop : (fuel : Nat) → Bytes → (specified : Bool) → (swndScale : UInt8) →
    Option Bool × UInt8
  | 0, _, specified, swndScale => (some specified, swndScale)
  | _ + 1, [], specified, swndScale => (some specified, swndScale)
  | fuel + 1, kind :: data, specified, swndScale =>
    if kind = tcpOptEol then (some specified, swndScale)
    else if kind = tcpOptNoop then parseOptionsLoop fuel data specified swndScale
    else
      let optLen := (data.headD 0).toNat
      let data := data.tail
      if optLen ≤ data.length then
        parseOptionsLoop fuel (data.drop optLen) (specified || kind == tcpOptWndScale)
          (applyOption kind (data.take optLen) swndScale)
      else (none, swndScale)

def parseOptions (data : Bytes) (tcp : PseudoTcp) : PseudoTcp :=
  match parseOptionsLoop data.length data false tcp.swndScale with
  | (some false, swndScale) =>
    if 0 < tcp.rwndScale then
      { resizeReceiveBuffer defaultRcvBufSize tcp with swndScale := 0 }
    else { tcp with swndScale := swndScale }
  | (_, swndScale) => { tcp with swndScale := swndScale }

/-! ## The stages of `process` -/

def dataBytes (data : Nat → UInt8) (count : Nat) : Bytes := (List.range count).map data

/-- Control data: whether the segment is a connect message, and none when it is
neither that nor plain data. -/
def processControl (seg : Segment) (tcp : PseudoTcp) : Option Bool × PseudoTcp :=
  if seg.flags &&& flagCtl = 0 then (some false, tcp)
  else if seg.len = 0 then (none, tcp)
  else if seg.data 0 = ctlConnect then
    let tcp := parseOptions (dataBytes (fun index => seg.data (index + 1)) (seg.len - 1).toNat) tcp
    match tcp.state with
    | .listen => (some true, queueConnectMessage { tcp with state := .synReceived })
    | .synSent =>
      (some true, notifyEvent .opened (adjustMTU { tcp with state := .established }))
    | _ => (some true, tcp)
  else (none, tcp)

def updateTimestamp (seg : Segment) (tcp : PseudoTcp) : PseudoTcp :=
  if seg.seq ≤ tcp.tsLastack ∧ tcp.tsLastack < seg.seq + seg.len then
    { tcp with tsRecent := seg.tsval }
  else tcp

section

variable (now : UInt32) (seg : Segment) (tcp : PseudoTcp)

def updateRoundTrip : PseudoTcp :=
  if seg.tsecr = 0 ∨ timeDiff now seg.tsecr < 0 then tcp
  else
    let rtt := now - seg.tsecr
    let rxRttvar :=
      if tcp.rxSrtt = 0 then rtt / 2
      else (3 * tcp.rxRttvar + UInt32.ofNat (timeDiff rtt tcp.rxSrtt).natAbs) / 4
    let rxSrtt := if tcp.rxSrtt = 0 then rtt else (7 * tcp.rxSrtt + rtt) / 8
    { tcp with
      rxRttvar
      rxSrtt
      rxRto := bound minRto (rxSrtt + max 1 (4 * rxRttvar)) maxRto }

/-- Free the acknowledged bytes of the send queue; also the largest segment freed. -/
def freeAcked : (nFree : UInt32) → (largest : UInt32) → List SSegment → UInt32 × List SSegment
  | _, largest, [] => (largest, [])
  | nFree, largest, front :: rest =>
    if nFree = 0 then (largest, front :: rest)
    else if nFree < front.len then (largest, { front with len := front.len - nFree } :: rest)
    else freeAcked (nFree - front.len) (max largest front.len) rest

/-- The congestion window after a valuable acknowledgement outside of recovery. -/
def growCwnd (tcp : PseudoTcp) : UInt32 :=
  if tcp.cwnd < tcp.ssthresh then tcp.cwnd + tcp.mss
  else tcp.cwnd + max 1 (tcp.mss * tcp.mss / tcp.cwnd)

/-- The windows and the queues after a valuable acknowledgement. -/
def advanceUna : PseudoTcp :=
  let nAcked := seg.ack - tcp.sndUna
  let (largest, slist) := freeAcked nAcked tcp.largest tcp.slist
  { tcp with
    sndWnd := seg.wnd.toUInt32 <<< tcp.swndScale.toUInt32
    sndUna := seg.ack
    rtoBase := if seg.ack = tcp.sndNxt then 0 else now
    sbuf := tcp.sbuf.consumeReadData nAcked.toNat
    slist := slist
    largest := largest }

/-- A valuable acknowledgement. No value when the retransmission failed. -/
def valuableAck : Bool × PseudoTcp :=
  let nAcked := seg.ack - tcp.sndUna
  let tcp := advanceUna now seg (updateRoundTrip now seg tcp)
  if 3 ≤ tcp.dupAcks then
    if tcp.recover ≤ tcp.sndUna then
      let nInFlight := tcp.sndNxt - tcp.sndUna
      (true, { tcp with cwnd := min tcp.ssthresh (nInFlight + tcp.mss), dupAcks := 0 })
    else
      match transmit env 0 now tcp with
      | (false, tcp) => (false, closedown .econnaborted tcp)
      | (true, tcp) => (true, { tcp with cwnd := tcp.cwnd + (tcp.mss - min nAcked tcp.cwnd) })
  else (true, { tcp with cwnd := tcp.growCwnd, dupAcks := 0 })

/-- An acknowledgement of nothing new. -/
def duplicateAck : Bool × PseudoTcp :=
  let tcp := { tcp with sndWnd := seg.wnd.toUInt32 <<< tcp.swndScale.toUInt32 }
  if 0 < seg.len then (true, tcp)
  else if tcp.sndUna ≠ tcp.sndNxt then
    let tcp := { tcp with dupAcks := tcp.dupAcks + 1 }
    if tcp.dupAcks = 3 then
      match transmit env 0 now tcp with
      | (false, tcp) => (false, closedown .econnaborted tcp)
      | (true, tcp) =>
        let nInFlight := tcp.sndNxt - tcp.sndUna
        let ssthresh := max (nInFlight / 2) (2 * tcp.mss)
        (true, { tcp with recover := tcp.sndNxt, ssthresh, cwnd := ssthresh + 3 * tcp.mss })
    else if 3 < tcp.dupAcks then (true, { tcp with cwnd := tcp.cwnd + tcp.mss })
    else (true, tcp)
  else (true, { tcp with dupAcks := 0 })

def processAck : Bool × PseudoTcp :=
  if tcp.sndUna < seg.ack ∧ seg.ack ≤ tcp.sndNxt then valuableAck env now seg tcp
  else if seg.ack = tcp.sndUna then duplicateAck env now seg tcp
  else (true, tcp)

end

def confirmConnect (bConnect : Bool) (tcp : PseudoTcp) : PseudoTcp :=
  if tcp.state = .synReceived ∧ bConnect = false then
    notifyEvent .opened (adjustMTU { tcp with state := .established })
  else tcp

def notifyWriteable (tcp : PseudoTcp) : PseudoTcp :=
  let idealRefillSize := (tcp.sbufLen + tcp.rbufLen) / 2
  if tcp.bWriteEnable ∧ UInt32.ofNat tcp.sbuf.getBuffered < idealRefillSize then
    notifyEvent .writeable { tcp with bWriteEnable := false }
  else tcp

/-- Which acknowledgement the position of the segment asks for. -/
def ackFlags (seg : Segment) (tcp : PseudoTcp) : SendFlags :=
  if seg.seq ≠ tcp.rcvNxt then .immediateAck
  else if seg.len = 0 then .none
  else if tcp.ackDelay = 0 then .immediateAck
  else .delayedAck

def adjustFront (rcvNxt : UInt32) (seg : Segment) : Segment :=
  if seg.seq < rcvNxt then
    let nAdjust := rcvNxt - seg.seq
    if nAdjust < seg.len then
      { seg with
        seq := seg.seq + nAdjust
        data := fun index => seg.data (index + nAdjust.toNat)
        len := seg.len - nAdjust }
    else { seg with len := 0 }
  else seg

/-- Cut off the bytes for which the receive buffer has no room. -/
def adjustBack (rcvNxt availableSpace : UInt32) (seg : Segment) : Segment :=
  if availableSpace < seg.seq + seg.len - rcvNxt then
    let nAdjust := seg.seq + seg.len - rcvNxt - availableSpace
    if nAdjust < seg.len then { seg with len := seg.len - nAdjust }
    else { seg with len := 0 }
  else seg

def adjustSegment (seg : Segment) (incoming : Incoming) : Segment :=
  adjustBack incoming.rcvNxt (UInt32.ofNat incoming.rbuf.getWriteRemaining)
    (adjustFront incoming.rcvNxt seg)

def advanceRcvNxt (count : UInt32) (incoming : Incoming) : Incoming :=
  { incoming with
    rbuf := incoming.rbuf.consumeWriteBuffer count.toNat
    rcvNxt := incoming.rcvNxt + count
    rcvWnd := incoming.rcvWnd - count }

/-- The loop over `rlist` that takes over what was received ahead; also whether
anything was taken over. -/
def recoverRlist : List RSegment → Incoming → Bool × Incoming
  | [], incoming => (false, { incoming with rlist := [] })
  | front :: rest, incoming =>
    if front.seq ≤ incoming.rcvNxt then
      if incoming.rcvNxt < front.seq + front.len then
        (true, (recoverRlist rest
          (advanceRcvNxt (front.seq + front.len - incoming.rcvNxt) incoming)).2)
      else recoverRlist rest incoming
    else (false, { incoming with rlist := front :: rest })

/-- Keep a segment that was received ahead, in the order of the sequence numbers. -/
def insertRlist (seg : RSegment) : List RSegment → List RSegment
  | [] => [seg]
  | front :: rest =>
    if front.seq < seg.seq then front :: insertRlist seg rest else seg :: front :: rest

/-- What became of the data of a segment. -/
inductive Taken
  | ignored
  | ahead
  | inOrder (recovered : Bool)
  deriving DecidableEq, Repr

def takeData (bIgnoreData : Bool) (seg : Segment) (incoming : Incoming) : Taken × Incoming :=
  if seg.len = 0 then (.ignored, incoming)
  else if bIgnoreData then
    (.ignored,
      if seg.seq = incoming.rcvNxt then { incoming with rcvNxt := incoming.rcvNxt + seg.len }
      else incoming)
  else
    let nOffset := seg.seq - incoming.rcvNxt
    let incoming := { incoming with
      rbuf := (incoming.rbuf.writeOffset seg.data seg.len.toNat nOffset.toNat).2 }
    if seg.seq = incoming.rcvNxt then
      let (recovered, incoming) := recoverRlist incoming.rlist (advanceRcvNxt seg.len incoming)
      (.inOrder recovered, incoming)
    else
      (.ahead, { incoming with
        rlist := insertRlist { seq := seg.seq, len := seg.len } incoming.rlist })

def notifyReadable (tcp : PseudoTcp) : PseudoTcp :=
  if tcp.bReadEnable then notifyEvent .readable { tcp with bReadEnable := false } else tcp

/-- The data of the segment, and what is to be sent after it. -/
def processData (seg : Segment) (tcp : PseudoTcp) : PseudoTcp :=
  let bIgnoreData := seg.flags &&& flagCtl ≠ 0 || tcp.shutdown ≠ .none
  let (taken, incoming) :=
    takeData bIgnoreData (adjustSegment seg tcp.toIncoming) tcp.toIncoming
  let sflags := if taken = .inOrder true then .immediateAck else ackFlags seg tcp
  let tcp := attemptSend env sflags { tcp with toIncoming := incoming }
  match taken with
  | .inOrder _ => notifyReadable tcp
  | _ => tcp

def noteTraffic (tcp : PseudoTcp) : PseudoTcp :=
  { tcp.tick with lasttraffic := tcp.now env, lastrecv := tcp.now env, bOutgoing := false }

def process (seg : Segment) (tcp : PseudoTcp) : Bool × PseudoTcp :=
  if seg.conv ≠ tcp.conv then (false, tcp)
  else
    let now := tcp.now env
    let tcp := noteTraffic env tcp
    if tcp.state = .closed then (false, tcp)
    else if seg.flags &&& flagRst ≠ 0 then (false, closedown .econnreset tcp)
    else
      match processControl seg tcp with
      | (none, tcp) => (false, tcp)
      | (some bConnect, tcp) =>
        match processAck env now seg (updateTimestamp seg tcp) with
        | (false, tcp) => (false, tcp)
        | (true, tcp) =>
          (true, processData env seg (notifyWriteable (confirmConnect bConnect tcp)))

/-- A header that is cut off is read from the memory behind the packet. -/
def parseSegment (buffer : Nat → UInt8) (size : UInt32) : Segment where
  conv := bytesToLong buffer 0
  seq := bytesToLong buffer 4
  ack := bytesToLong buffer 8
  flags := buffer 13
  wnd := bytesToShort buffer 14
  tsval := bytesToLong buffer 16
  tsecr := bytesToLong buffer 20
  data := fun index => buffer (headerSize.toNat + index)
  len := size - headerSize

def parse (buffer : Nat → UInt8) (size : UInt32) (tcp : PseudoTcp) : Bool × PseudoTcp :=
  if size < 12 then (false, tcp) else process env (parseSegment buffer size) tcp

end ZyWebRtc.PseudoTcp
