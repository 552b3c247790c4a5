import ZyWebRtc.PseudoTcp.Operations
import ZyWebRtc.PseudoTcp.SendQueue

namespace ZyWebRtc.PseudoTcp

/-! Which acknowledgements keep the send queue. `process` shortens the first segment
by the bytes that were acknowledged and leaves its sequence number, so only an
acknowledgement of whole segments leaves the queue starting at `sndUna`. -/

open Tiling

variable (env : Environment) {tcp : PseudoTcp}

/-- A valuable acknowledgement ends where a segment that was sent ends. -/
def AckOnBoundary (tcp : PseudoTcp) (ack : UInt32) : Prop :=
  tcp.sndUna < ack → ack ≤ tcp.sndNxt → ∃ seg ∈ tcp.slist, seg.xmit ≠ 0 ∧ ack = seg.seq + seg.len

instance (tcp : PseudoTcp) (ack : UInt32) : Decidable (AckOnBoundary tcp ack) :=
  inferInstanceAs (Decidable (_ → _ → _))

/-! ## Freeing -/

theorem freeAcked_boundary {slist before after : List SSegment} {nFree : UInt32}
    (parts : slist = before ++ after) (boundary : bytesIn before = nFree.toNat)
    (sent : nFree.toNat ≤ bytesIn (sentPart slist)) (largest : UInt32) :
    ∃ acked, slist = acked ++ (freeAcked nFree largest slist).2 ∧
      bytesIn acked = nFree.toNat ∧ ∀ seg ∈ acked, seg.xmit ≠ 0 := by
  induction slist generalizing nFree before largest with
  | nil =>
    rw [sentPart_nil] at sent
    exact ⟨[], rfl, (Nat.le_zero.mp sent).symm, by simp⟩
  | cons front rest induction =>
    rw [freeAcked]
    by_cases done : nFree = 0
    · rw [if_pos done]
      exact ⟨[], rfl, by simp [done], by simp⟩
    rw [if_neg done]
    have positive : 0 < nFree.toNat :=
      Nat.pos_of_ne_zero fun wrong => done (UInt32.toNat_inj.mp wrong)
    have frontSent : front.xmit ≠ 0 := by
      intro unsent
      rw [sentPart_cons, if_pos unsent, bytesIn_nil] at sent
      omega
    rw [sentPart_cons, if_neg frontSent, bytesIn_cons] at sent
    cases before with
    | nil =>
      rw [bytesIn_nil] at boundary
      omega
    | cons first before =>
      rcases List.cons.inj parts with ⟨rfl, tail⟩
      rw [bytesIn_cons] at boundary
      have whole : front.len ≤ nFree := UInt32.le_iff_toNat_le.mpr (by omega)
      have remaining := UInt32.toNat_sub_of_le _ _ whole
      rw [if_neg (UInt32.not_lt.mpr whole)]
      have fewer : bytesIn before = (nFree - front.len).toNat := by omega
      rcases induction tail fewer (by omega)
        (max largest front.len) with ⟨acked, split, bytes, allSent⟩
      refine ⟨front :: acked, ?_, ?_, ?_⟩
      · rw [List.cons_append, ← split]
      · rw [bytesIn_cons]
        omega
      · rintro seg (_ | ⟨_, member⟩)
        · exact frontSent
        · exact allSent seg member

section

variable (queue : SendQueue tcp)

include queue

theorem SendQueue.exists_boundary {ack : UInt32} {seg : SSegment}
    (member : seg ∈ tcp.slist) (ends : ack = seg.seq + seg.len) :
    ∃ before after, tcp.slist = before ++ after ∧ bytesIn before = (ack - tcp.sndUna).toNat := by
  rcases List.append_of_mem member with ⟨front, back, slist⟩
  have tiles := queue.tiles
  have small := queue.bytesIn_lt
  rw [slist] at tiles small
  have start := start_eq_of_tiles _ _ tiles
  refine ⟨front ++ [seg], back, by simp [slist], ?_⟩
  have distance : ack - tcp.sndUna = extent SSegment.len (front ++ [seg]) := by
    rw [ends, start, extent_append, extent_cons, extent_nil, add_zero, add_assoc,
      add_sub_cancel_left]
  rw [distance, toNat_extent]
  simp only [bytesIn_append, bytesIn_cons, bytesIn_nil] at small ⊢
  omega

theorem sendQueue_advanceUna (now : UInt32) {seg : Segment}
    (newer : tcp.sndUna < seg.ack) (inside : seg.ack ≤ tcp.sndNxt)
    (boundary : AckOnBoundary tcp seg.ack) : SendQueue (advanceUna now seg tcp) := by
  rcases boundary newer inside with ⟨last, member, -, ends⟩
  rcases queue.exists_boundary member ends with ⟨before, after, parts, bytes⟩
  have inFlight := queue.toNat_inFlight
  have sentBytes := queue.bytesIn_sentPart_le
  have order : (seg.ack - tcp.sndUna).toNat ≤ (tcp.sndNxt - tcp.sndUna).toNat := by
    rw [UInt32.toNat_sub_of_le _ _ (UInt32.le_of_lt newer),
      UInt32.toNat_sub_of_le _ _ (UInt32.le_trans (UInt32.le_of_lt newer) inside)]
    have reach := UInt32.le_iff_toNat_le.mp inside
    omega
  rcases freeAcked_boundary parts bytes (by omega) tcp.largest with
    ⟨acked, slist, ackedBytes, ackedSent⟩
  have tiles := queue.tiles
  have total := queue.total
  have unsentLast := queue.unsentLast
  have sentTo := queue.sentTo
  have capacity := queue.capacity
  have inside' := queue.valid.dataLength_le
  have ackedExtent : tcp.sndUna + extent SSegment.len acked = seg.ack := by
    rw [extent_eq_ofNat, ackedBytes, UInt32.ofNat_toNat, add_sub_cancel]
  unfold advanceUna
  dsimp only
  generalize (freeAcked (seg.ack - tcp.sndUna) tcp.largest tcp.slist).2 = rest at slist ⊢
  rw [slist] at tiles total unsentLast sentTo
  rw [tiles_append, ackedExtent] at tiles
  rw [unsentPart_append ackedSent] at unsentLast
  rw [sentPart_append ackedSent, extent_append, ← add_assoc, ackedExtent] at sentTo
  rw [bytesIn_append] at total
  have consumed : (tcp.sbuf.consumeReadData (seg.ack - tcp.sndUna).toNat).dataLength =
      tcp.sbuf.dataLength - (seg.ack - tcp.sndUna).toNat :=
    sizeSub_of_le (by omega)
  refine ⟨⟨?_, ?_, ?_⟩, capacity, tiles.2, ?_, unsentLast, sentTo, ?_⟩
  · exact queue.valid.positive
  · dsimp only
    rw [consumed]
    change _ ≤ tcp.sbuf.bufferLength
    omega
  · exact Nat.mod_lt _ queue.valid.positive
  · dsimp only
    rw [consumed]
    omega
  · intro recovering
    have before : tcp.sndUna < tcp.recover := UInt32.lt_trans newer recovering
    rcases queue.recover before with reached | wrapped
    · exact .inl reached
    · exact absurd (UInt32.lt_of_lt_of_le newer inside)
        (UInt32.not_lt.mpr (UInt32.le_of_lt wrapped))

/-! ## `process` -/

theorem sendQueue_retransmitFront (now : UInt32) :
    SendQueue (transmit env 0 now tcp).2 := by
  cases slist : tcp.slist with
  | nil =>
    rw [transmit, slist]
    exact queue
  | cons seg back =>
    exact sendQueue_transmit env queue (show tcp.slist = [] ++ seg :: back from slist) (by simp) now

theorem sendQueue_queueConnectMessage : SendQueue (queueConnectMessage tcp) := by
  unfold queueConnectMessage
  apply sendQueue_queue
  exact queue.of_eq rfl rfl rfl rfl rfl

theorem sendQueue_parseOptions (data : Bytes) :
    SendQueue (parseOptions data tcp) := by
  unfold parseOptions
  split
  · split <;> exact queue.of_eq rfl rfl rfl rfl rfl
  · exact queue.of_eq rfl rfl rfl rfl rfl

theorem sendQueue_processControl (seg : Segment) :
    SendQueue (processControl seg tcp).2 := by
  unfold processControl
  split
  · exact queue
  split
  · exact queue
  split
  · have parsed := sendQueue_parseOptions queue
      (dataBytes (fun index => seg.data (index + 1)) (seg.len - 1).toNat)
    dsimp only
    split
    · exact sendQueue_queueConnectMessage (parsed.of_eq rfl rfl rfl rfl rfl)
    · exact parsed.of_eq rfl rfl rfl rfl rfl
    · exact parsed
  · exact queue

theorem ackOnBoundary_processControl (seg : Segment) {ack : UInt32}
    (boundary : AckOnBoundary tcp ack) : AckOnBoundary (processControl seg tcp).2 ack := by
  have queued : ∀ tcp' : PseudoTcp, tcp'.slist = tcp.slist → tcp'.sndUna = tcp.sndUna →
      tcp'.sndNxt = tcp.sndNxt → AckOnBoundary (queueConnectMessage tcp') ack := by
    intro tcp' slist sndUna sndNxt newer inside
    rcases boundary (sndUna ▸ newer) (sndNxt ▸ inside) with ⟨last, member, sent, ends⟩
    refine ⟨last, ?_, sent, ends⟩
    have lastSent : last ∈ sentPart tcp.slist := by
      rw [← filter_eq_sentPart queue.unsentLast]
      simp [member, sent]
    have unsentLast := queue.unsentLast
    rw [← slist] at lastSent unsentLast
    change last ∈ appendSegment tcp'.slist _ _ _
    rw [← sentPart_append_unsentPart (appendSegment tcp'.slist _ _ _),
      (sentPart_appendSegment _ _ _ unsentLast).1]
    exact List.mem_append_left _ lastSent
  have parsed : ∀ data, (parseOptions data tcp).slist = tcp.slist ∧
      (parseOptions data tcp).sndUna = tcp.sndUna ∧
      (parseOptions data tcp).sndNxt = tcp.sndNxt := by
    intro data
    unfold parseOptions
    split
    · split <;> exact ⟨rfl, rfl, rfl⟩
    · exact ⟨rfl, rfl, rfl⟩
  unfold processControl
  split
  · exact boundary
  split
  · exact boundary
  split
  · rcases parsed (dataBytes (fun index => seg.data (index + 1)) (seg.len - 1).toNat) with
      ⟨slist, sndUna, sndNxt⟩
    dsimp only
    split
    · exact queued _ slist sndUna sndNxt
    all_goals
      intro newer inside
      rcases boundary (sndUna ▸ newer) (sndNxt ▸ inside) with ⟨last, member, ends⟩
      exact ⟨last, slist ▸ member, ends⟩
  · exact boundary

theorem sendQueue_valuableAck (now : UInt32) {seg : Segment}
    (newer : tcp.sndUna < seg.ack) (inside : seg.ack ≤ tcp.sndNxt)
    (boundary : AckOnBoundary tcp seg.ack) : SendQueue (valuableAck env now seg tcp).2 := by
  have measured : (updateRoundTrip now seg tcp).toOutgoing = tcp.toOutgoing ∧
      (updateRoundTrip now seg tcp).recover = tcp.recover := by
    unfold updateRoundTrip
    split <;> exact ⟨rfl, rfl⟩
  have outgoing := measured.1
  have advanced : SendQueue (advanceUna now seg (updateRoundTrip now seg tcp)) := by
    apply sendQueue_advanceUna
    · exact queue.of_eq (congrArg Outgoing.slist outgoing) (congrArg Outgoing.sbuf outgoing)
        (congrArg Outgoing.sndUna outgoing) (congrArg Outgoing.sndNxt outgoing) measured.2
    · rwa [outgoing]
    · rwa [outgoing]
    · unfold AckOnBoundary at boundary ⊢
      rwa [outgoing]
  unfold valuableAck
  dsimp only
  generalize advanceUna now seg (updateRoundTrip now seg tcp) = moved at advanced ⊢
  split
  · split
    · exact advanced.of_eq rfl rfl rfl rfl rfl
    · have resent := sendQueue_retransmitFront env advanced now
      split
      next equal => exact (equal ▸ resent).of_eq rfl rfl rfl rfl rfl
      next equal => exact (equal ▸ resent).of_eq rfl rfl rfl rfl rfl
  · exact advanced.of_eq rfl rfl rfl rfl rfl

theorem sendQueue_duplicateAck (now : UInt32) (seg : Segment) :
    SendQueue (duplicateAck env now seg tcp).2 := by
  unfold duplicateAck
  dsimp only
  split
  · exact queue.of_eq rfl rfl rfl rfl rfl
  split
  · have counted : SendQueue { tcp with
        sndWnd := seg.wnd.toUInt32 <<< tcp.swndScale.toUInt32, dupAcks := tcp.dupAcks + 1 } :=
      queue.of_eq rfl rfl rfl rfl rfl
    split
    · have resent := sendQueue_retransmitFront env counted now
      split
      next equal => exact (equal ▸ resent).of_eq rfl rfl rfl rfl rfl
      next equal =>
        rw [equal] at resent
        exact ⟨resent.valid, resent.capacity, resent.tiles, resent.total, resent.unsentLast,
          resent.sentTo, fun _ => .inl (UInt32.le_refl _)⟩
    · split <;> exact counted.of_eq rfl rfl rfl rfl rfl
  · exact queue.of_eq rfl rfl rfl rfl rfl

theorem sendQueue_processAck (now : UInt32) {seg : Segment}
    (boundary : AckOnBoundary tcp seg.ack) : SendQueue (processAck env now seg tcp).2 := by
  unfold processAck
  split
  next valuable => exact sendQueue_valuableAck env queue now valuable.1 valuable.2 boundary
  next =>
    split
    · exact sendQueue_duplicateAck env queue now seg
    · exact queue

theorem sendQueue_notifyReadable : SendQueue (notifyReadable tcp) := by
  unfold notifyReadable
  split
  · exact queue.of_eq rfl rfl rfl rfl rfl
  · exact queue

theorem sendQueue_processData (seg : Segment) :
    SendQueue (processData env seg tcp) := by
  have sent : ∀ incoming sflags,
      SendQueue (attemptSend env sflags { tcp with toIncoming := incoming }) := by
    intro incoming sflags
    apply sendQueue_attemptSend env
    exact queue.of_eq rfl rfl rfl rfl rfl
  unfold processData
  dsimp only
  generalize takeData _ _ tcp.toIncoming = outcome
  rcases outcome with ⟨taken, incoming⟩
  dsimp only
  generalize (if taken = .inOrder true then SendFlags.immediateAck else ackFlags seg tcp) = sflags
  split
  · exact sendQueue_notifyReadable (sent incoming sflags)
  · exact sent incoming sflags

theorem sendQueue_process {seg : Segment}
    (boundary : AckOnBoundary tcp seg.ack) : SendQueue (process env seg tcp).2 := by
  unfold process
  split
  · exact queue
  dsimp only
  have counted : SendQueue (noteTraffic env tcp) := queue.of_eq rfl rfl rfl rfl rfl
  have sameBoundary : AckOnBoundary (noteTraffic env tcp) seg.ack := boundary
  generalize noteTraffic env tcp = noted at counted sameBoundary ⊢
  split
  · exact counted
  split
  · exact counted.of_eq rfl rfl rfl rfl rfl
  have controlled := sendQueue_processControl counted seg
  have stillBoundary := ackOnBoundary_processControl counted seg sameBoundary
  split
  next equal =>
    rw [equal] at controlled
    exact controlled
  next bConnect after equal =>
    rw [equal] at controlled stillBoundary
    have stamped : SendQueue (updateTimestamp seg after) ∧
        AckOnBoundary (updateTimestamp seg after) seg.ack := by
      unfold updateTimestamp
      split
      · exact ⟨controlled.of_eq rfl rfl rfl rfl rfl, stillBoundary⟩
      · exact ⟨controlled, stillBoundary⟩
    have acked := sendQueue_processAck env stamped.1 (tcp.now env) stamped.2
    split
    next equal =>
      rw [equal] at acked
      exact acked
    next acknowledged equal =>
      rw [equal] at acked
      apply sendQueue_processData env
      have confirmed : SendQueue (confirmConnect bConnect acknowledged) := by
        unfold confirmConnect
        split
        · exact acked.of_eq rfl rfl rfl rfl rfl
        · exact acked
      unfold notifyWriteable
      dsimp only
      split
      · exact confirmed.of_eq rfl rfl rfl rfl rfl
      · exact confirmed

end

/-! ## Runs -/

/-- A packet may acknowledge whole segments only; every other call is allowed. -/
def BoundaryAcks (tcp : PseudoTcp) : Operation → Prop
  | .notifyPacket buffer _ => AckOnBoundary tcp (bytesToLong buffer 8)
  | _ => True

instance (tcp : PseudoTcp) : ∀ operation, Decidable (BoundaryAcks tcp operation)
  | .notifyPacket buffer _ => inferInstanceAs (Decidable (AckOnBoundary tcp (bytesToLong buffer 8)))
  | .connect | .notifyMTU _ | .setNoDelay _ | .setAckDelay _ | .close _ | .recv _ | .send _
  | .notifyClock _ => .isTrue trivial

theorem sendQueue_notifyClock (queue : SendQueue tcp) (now : UInt32) :
    SendQueue (notifyClock env now tcp) := by
  have resent : SendQueue (retransmit env now tcp).2 := by
    unfold retransmit
    split
    · have sent := sendQueue_retransmitFront env queue now
      split
      next equal => exact (equal ▸ sent).of_eq rfl rfl rfl rfl rfl
      next equal => exact (equal ▸ sent).of_eq rfl rfl rfl rfl rfl
    · exact queue
  have probed : ∀ {tcp}, SendQueue tcp → SendQueue (probeWindow env now tcp).2 := by
    intro tcp held
    unfold probeWindow
    split
    · split
      · exact held.of_eq rfl rfl rfl rfl rfl
      · have probe := held.of_sameStream (packet_sameStream env (tcp.sndNxt - 1) 0 0 0 tcp)
        exact probe.of_eq rfl rfl rfl rfl rfl
    · exact held
  unfold notifyClock
  split
  · exact queue
  split
  next equal =>
    rw [equal] at resent
    exact resent
  next equal =>
    rw [equal] at resent
    have next := probed resent
    split
    next equal =>
      rw [equal] at next
      exact next
    next equal =>
      rw [equal] at next
      unfold sendDelayedAck
      split
      · exact next.of_sameStream (packet_sameStream env _ _ _ _ _)
      · exact next

theorem sendQueue_recv (queue : SendQueue tcp) (len : Nat) : SendQueue (recv env len tcp).2 := by
  unfold recv
  split
  · exact queue.of_eq rfl rfl rfl rfl rfl
  split
  · exact queue.of_eq rfl rfl rfl rfl rfl
  · dsimp only
    split
    · dsimp only
      split
      · apply sendQueue_attemptSend env
        exact queue.of_eq rfl rfl rfl rfl rfl
      · exact queue.of_eq rfl rfl rfl rfl rfl
    · exact queue.of_eq rfl rfl rfl rfl rfl

theorem sendQueue_send (queue : SendQueue tcp) (buffer : Bytes) :
    SendQueue (send env buffer tcp).2 := by
  unfold send
  split
  · exact queue.of_eq rfl rfl rfl rfl rfl
  split
  · exact queue.of_eq rfl rfl rfl rfl rfl
  · have queued := sendQueue_queue queue (asMemory buffer) (UInt32.ofNat buffer.length) false
    revert queued
    generalize PseudoTcp.queue (asMemory buffer) _ false tcp = outcome
    rcases outcome with ⟨written, after⟩
    exact fun queued => sendQueue_attemptSend env queued _

theorem sendQueue_step (operation : Operation) (queue : SendQueue tcp)
    (allowed : BoundaryAcks tcp operation) : SendQueue (step env tcp operation) := by
  cases operation with
  | connect =>
    change SendQueue (connect env tcp).2
    unfold connect
    split
    · exact queue.of_eq rfl rfl rfl rfl rfl
    · apply sendQueue_attemptSend env
      apply sendQueue_queueConnectMessage
      exact queue.of_eq rfl rfl rfl rfl rfl
  | notifyMTU mtu =>
    change SendQueue (notifyMTU mtu tcp)
    unfold notifyMTU
    dsimp only
    split <;> exact queue.of_eq rfl rfl rfl rfl rfl
  | setNoDelay value => exact queue.of_eq rfl rfl rfl rfl rfl
  | setAckDelay value => exact queue.of_eq rfl rfl rfl rfl rfl
  | close force => exact queue.of_eq rfl rfl rfl rfl rfl
  | recv len => exact sendQueue_recv env queue len
  | send buffer => exact sendQueue_send env queue buffer
  | notifyClock now => exact sendQueue_notifyClock env queue now
  | notifyPacket buffer len =>
    change SendQueue (notifyPacket env buffer len tcp).2
    unfold notifyPacket
    split
    · exact queue
    unfold parse
    split
    · exact queue
    · exact sendQueue_process env queue allowed

/-- The send queue and the send buffer tell the same, and every segment finds its
bytes at the offset that `transmit` computes. -/
structure QueueMatchesBuffer (tcp : PseudoTcp) : Prop where
  contiguous : Tiles SSegment.seq SSegment.len tcp.sndUna tcp.slist
  total : bytesIn tcp.slist = tcp.sbuf.dataLength
  sentContiguous : Tiles SSegment.seq SSegment.len tcp.sndUna (tcp.slist.filter (·.xmit ≠ 0))
  sentBytes : bytesIn (tcp.slist.filter (·.xmit ≠ 0)) = (tcp.sndNxt - tcp.sndUna).toNat
  offset : ∀ front seg back, tcp.slist = front ++ seg :: back →
    (seg.seq - tcp.sndUna).toNat = bytesIn front
  payload : ∀ front seg back, tcp.slist = front ++ seg :: back → 0 < seg.len →
    tcp.sbuf.readOffset seg.len.toNat (seg.seq - tcp.sndUna).toNat =
      some ((tcp.sbuf.contents.drop (bytesIn front)).take seg.len.toNat)

theorem SendQueue.queueMatchesBuffer (queue : SendQueue tcp) : QueueMatchesBuffer tcp := by
  have offset : ∀ front seg back, tcp.slist = front ++ seg :: back →
      (seg.seq - tcp.sndUna).toNat = bytesIn front := by
    intro front seg back slist
    have tiles := queue.tiles
    have small := queue.bytesIn_lt
    rw [slist] at tiles small
    rw [bytesIn_append] at small
    rw [start_eq_of_tiles _ _ tiles, add_sub_cancel_left, toNat_extent (by omega)]
  have sent := filter_eq_sentPart queue.unsentLast
  refine ⟨queue.tiles, queue.total, ?_, ?_, offset, ?_⟩
  · have tiles := queue.tiles
    rw [← sentPart_append_unsentPart tcp.slist, tiles_append] at tiles
    rw [sent]
    exact tiles.1
  · rw [sent, queue.toNat_inFlight]
  · intro front seg back slist some_bytes
    have total := queue.total
    rw [slist, bytesIn_append, bytesIn_cons] at total
    have positive : 0 < seg.len.toNat := UInt32.lt_iff_toNat_lt.mp some_bytes
    rw [offset front seg back slist]
    exact FifoBuffer.readOffset_eq_contents queue.valid (by omega)

/-- As long as every acknowledgement is one of whole segments, the queue matches the
buffer. -/
theorem queueMatchesBuffer_of_boundaryAcks (env : Environment) (conv now : UInt32)
    (memory : Nat → UInt8) (operations : List Operation)
    (allowed : Run.Allowed (step env) BoundaryAcks (create conv now memory) operations) :
    QueueMatchesBuffer (Run.final (step env) (create conv now memory) operations) :=
  (Run.invariant_final (step env) (fun _ operation => sendQueue_step env operation)
    (SendQueue.create conv now memory) allowed).queueMatchesBuffer

def stillWorld : Environment := ⟨fun _ => 0, fun _ => .success⟩

def headerBytes (seq ack : UInt32) (flags : UInt8) : Bytes :=
  longToBytes 0 ++ longToBytes seq ++ longToBytes ack ++ [0, flags] ++ shortToBytes 0xF000 ++
    longToBytes 0 ++ longToBytes 0

def deliver (bytes : Bytes) : Operation := .notifyPacket (asMemory bytes) bytes.length

/-- A peer connects, and acknowledges ten bytes that are sent to it up to `ack`. -/
def tenBytesAcked (ack : UInt32) : List Operation :=
  [deliver (headerBytes 0 0 flagCtl ++ [ctlConnect, tcpOptWndScale, 1, 0]),
    deliver (headerBytes 4 4 0),
    .send (List.replicate 10 7),
    deliver (headerBytes 4 ack 0)]

/-- All ten bytes are acknowledged at once. -/
theorem queueMatchesBuffer_tenBytesAcked :
    QueueMatchesBuffer
      (Run.final (step stillWorld) (create 0 0 fun _ => 0) (tenBytesAcked 14)) :=
  queueMatchesBuffer_of_boundaryAcks stillWorld 0 0 (fun _ => 0) (tenBytesAcked 14)
    (by decide +kernel)

/-- After four of ten bytes, the segment still starts where it did. -/
theorem not_queueMatchesBuffer_fourBytesAcked :
    ¬ QueueMatchesBuffer
      (Run.final (step stillWorld) (create 0 0 fun _ => 0) (tenBytesAcked 8)) := by
  intro matching
  have slist : (Run.final (step stillWorld) (create 0 0 fun _ => 0) (tenBytesAcked 8)).slist =
      [{ seq := 4, len := 6, xmit := 1, bCtrl := false }] := by decide +kernel
  have sndUna : (Run.final (step stillWorld) (create 0 0 fun _ => 0) (tenBytesAcked 8)).sndUna =
      8 := by decide +kernel
  have start := matching.contiguous
  rw [slist, sndUna, tiles_cons] at start
  exact absurd start.1 (by decide)

end ZyWebRtc.PseudoTcp
