import ZyWebRtc.PseudoTcp.DataAcks
import ZyWebRtc.PseudoTcp.Reassembly

namespace ZyWebRtc.PseudoTcp

/-! The window that a connection announces, next to the free room of its receive buffer. -/

open FifoBuffer

variable (env : Environment)

/-- The window does not exceed the free room, so what lies in the window is written. -/
structure WindowFits (incoming : Incoming) : Prop where
  fits : incoming.rcvWnd.toNat + incoming.rbuf.dataLength ≤ incoming.rbuf.bufferLength
  accepts : ∀ source offset bytes, 0 < bytes → offset + bytes ≤ incoming.rcvWnd.toNat →
    (incoming.rbuf.writeOffset source bytes offset).1 = some bytes

theorem windowFits_iff (incoming : Incoming) :
    WindowFits incoming ↔
      incoming.rcvWnd.toNat + incoming.rbuf.dataLength ≤ incoming.rbuf.bufferLength := by
  refine ⟨WindowFits.fits, fun fits => ⟨fits, ?_⟩⟩
  intro source offset bytes some_bytes inWindow
  rw [writeOffset, if_neg (by omega)]
  exact congrArg some (min_eq_left (by omega))

/-! ## Data that comes in -/

/-- How many bytes of the list follow on without a gap. -/
def readableAhead : List RSegment → (rcvNxt : UInt32) → Nat
  | [], _ => 0
  | front :: rest, rcvNxt =>
    if front.seq ≤ rcvNxt then
      if rcvNxt < front.seq + front.len then
        (front.seq + front.len - rcvNxt).toNat + readableAhead rest (front.seq + front.len)
      else readableAhead rest rcvNxt
    else 0

theorem recoverRlist_window (rlist : List RSegment) (incoming : Incoming) :
    (recoverRlist rlist incoming).2.rcvWnd =
        incoming.rcvWnd - UInt32.ofNat (readableAhead rlist incoming.rcvNxt) ∧
      (recoverRlist rlist incoming).2.rbuf.dataLength =
        incoming.rbuf.dataLength + readableAhead rlist incoming.rcvNxt ∧
      (recoverRlist rlist incoming).2.rbuf.bufferLength = incoming.rbuf.bufferLength := by
  induction rlist generalizing incoming with
  | nil => exact ⟨(sub_zero _).symm, rfl, rfl⟩
  | cons front rest induction =>
    rw [recoverRlist, readableAhead]
    split
    · split
      · have advanced := induction
          (advanceRcvNxt (front.seq + front.len - incoming.rcvNxt) incoming)
        have reached : (advanceRcvNxt (front.seq + front.len - incoming.rcvNxt)
            incoming).rcvNxt = front.seq + front.len := add_sub_cancel _ _
        rw [reached] at advanced
        rcases advanced with ⟨rcvWnd, dataLength, bufferLength⟩
        refine ⟨?_, ?_, bufferLength⟩
        · dsimp only
          rw [rcvWnd, UInt32.ofNat_add, UInt32.ofNat_toNat]
          exact sub_sub _ _ _
        · exact dataLength.trans (Nat.add_assoc _ _ _)
      · exact induction incoming
    · exact ⟨(sub_zero _).symm, rfl, rfl⟩

/-- Data in order, with the held bytes that follow on, end inside the window. -/
def EndsInWindow (seg : Segment) (incoming : Incoming) : Prop :=
  seg.len ≠ 0 → seg.seq = incoming.rcvNxt →
    seg.len.toNat + readableAhead incoming.rlist (incoming.rcvNxt + seg.len) ≤ incoming.rcvWnd.toNat

theorem writeOffset_lengths (fifo : FifoBuffer) (source : Nat → UInt8) (bytes offset : Nat) :
    (fifo.writeOffset source bytes offset).2.dataLength = fifo.dataLength ∧
      (fifo.writeOffset source bytes offset).2.bufferLength = fifo.bufferLength := by
  unfold writeOffset
  split <;> exact ⟨rfl, rfl⟩

theorem takeData_bufferLength (bIgnoreData : Bool) (seg : Segment) (incoming : Incoming) :
    (takeData bIgnoreData seg incoming).2.rbuf.bufferLength = incoming.rbuf.bufferLength := by
  have lengths := writeOffset_lengths incoming.rbuf seg.data seg.len.toNat
    (seg.seq - incoming.rcvNxt).toNat
  unfold takeData
  split
  · rfl
  · split
    · split <;> rfl
    · dsimp only
      split
      · exact (recoverRlist_window _ _).2.2.trans lengths.2
      · exact lengths.2

theorem takeData_ignored (seg : Segment) (incoming : Incoming) :
    (takeData true seg incoming).2.rbuf = incoming.rbuf ∧
      (takeData true seg incoming).2.rcvWnd = incoming.rcvWnd := by
  unfold takeData
  split
  · exact ⟨rfl, rfl⟩
  · rw [if_pos rfl]
    dsimp only
    split <;> exact ⟨rfl, rfl⟩

theorem windowFits_takeData_iff {seg : Segment} {incoming : Incoming}
    (small : incoming.rbuf.bufferLength < 2 ^ 32) (fits : WindowFits incoming) :
    WindowFits (takeData false seg incoming).2 ↔ EndsInWindow seg incoming := by
  have room := fits.fits
  rw [windowFits_iff, EndsInWindow]
  by_cases empty : seg.len = 0
  · rw [takeData, if_pos empty]
    exact iff_of_true room fun some_data => absurd empty some_data
  by_cases inOrder : seg.seq = incoming.rcvNxt
  · rw [takeData_inOrder empty inOrder]
    rcases recoverRlist_window incoming.rlist (advanceRcvNxt seg.len { incoming with
      rbuf := (incoming.rbuf.writeOffset seg.data seg.len.toNat 0).2 }) with
      ⟨rcvWnd, dataLength, bufferLength⟩
    rcases writeOffset_lengths incoming.rbuf seg.data seg.len.toNat 0 with
      ⟨sameLength, sameCapacity⟩
    rw [rcvWnd, dataLength, bufferLength]
    change (incoming.rcvWnd - seg.len - UInt32.ofNat (readableAhead incoming.rlist
      (incoming.rcvNxt + seg.len))).toNat + ((incoming.rbuf.writeOffset _ _ 0).2.dataLength +
        seg.len.toNat + readableAhead incoming.rlist (incoming.rcvNxt + seg.len)) ≤
          (incoming.rbuf.writeOffset _ _ 0).2.bufferLength ↔ _
    rw [sameLength, sameCapacity]
    generalize readableAhead incoming.rlist (incoming.rcvNxt + seg.len) = ahead
    have window := incoming.rcvWnd.toNat_lt
    have length := seg.len.toNat_lt
    rw [UInt32.toNat_sub, UInt32.toNat_sub, UInt32.toNat_ofNat']
    constructor
    · intro after _ _
      omega
    · intro within
      have inside := within empty inOrder
      omega
  · rw [takeData_ahead empty inOrder]
    rcases writeOffset_lengths incoming.rbuf seg.data seg.len.toNat
      (seg.seq - incoming.rcvNxt).toNat with ⟨sameLength, sameCapacity⟩
    dsimp only
    rw [sameLength, sameCapacity]
    exact iff_of_true room fun _ wrong => absurd wrong inOrder

/-! ## Everything else -/

/-- A window that fits still fits, in a buffer whose size is a number of 32 bits. -/
structure KeepsWindow (before after : Incoming) : Prop where
  small : before.rbuf.bufferLength < 2 ^ 32 → after.rbuf.bufferLength < 2 ^ 32
  fits : before.rbuf.bufferLength < 2 ^ 32 → WindowFits before → WindowFits after

namespace KeepsWindow

theorem refl (incoming : Incoming) : KeepsWindow incoming incoming := ⟨id, fun _ => id⟩

theorem trans {first second third : Incoming} (front : KeepsWindow first second)
    (back : KeepsWindow second third) : KeepsWindow first third :=
  ⟨fun small => back.small (front.small small),
    fun small fits => back.fits (front.small small) (front.fits small fits)⟩

theorem of_eq {before after : Incoming} (rbuf : after.rbuf = before.rbuf)
    (rcvWnd : after.rcvWnd = before.rcvWnd) : KeepsWindow before after where
  small := by
    rw [rbuf]
    exact id
  fits := by
    intro _ fits
    rw [windowFits_iff] at fits ⊢
    rw [rbuf, rcvWnd]
    exact fits

theorem of_toIncoming {before after : Incoming} (same : after = before) :
    KeepsWindow before after := of_eq (congrArg Incoming.rbuf same) (congrArg Incoming.rcvWnd same)

theorem refresh {before after : Incoming} (small : after.rbuf.bufferLength < 2 ^ 32)
    (filled : before.rbuf.dataLength ≤ before.rbuf.bufferLength →
      after.rbuf.dataLength ≤ after.rbuf.bufferLength)
    (rcvWnd : after.rcvWnd = UInt32.ofNat after.rbuf.getWriteRemaining) :
    KeepsWindow before after where
  small := fun _ => small
  fits := by
    intro _ fits
    have room := filled ((Nat.le_add_left _ _).trans fits.fits)
    rw [windowFits_iff, rcvWnd, getWriteRemaining, sizeSub_of_le room, UInt32.toNat_ofNat']
    omega

end KeepsWindow

theorem setCapacity_lengths (fifo : FifoBuffer) (size : Nat) (memory : Nat → UInt8) :
    (fifo.setCapacity size memory).2 = fifo ∨
      fifo.dataLength ≤ size ∧ (fifo.setCapacity size memory).2.bufferLength = size ∧
        (fifo.setCapacity size memory).2.dataLength = fifo.dataLength := by
  unfold setCapacity
  split
  · exact .inl rfl
  next room =>
    split
    · exact .inl rfl
    · exact .inr ⟨not_lt.mp room, rfl, rfl⟩

variable {tcp : PseudoTcp}

theorem resizeReceiveBuffer_keeps (newSize : UInt32) (small : tcp.rbuf.bufferLength < 2 ^ 32) :
    KeepsWindow tcp.toIncoming (resizeReceiveBuffer newSize tcp).toIncoming := by
  unfold resizeReceiveBuffer
  dsimp only
  generalize (newSize >>> (scaleFactor 17 newSize).toUInt32) <<< (scaleFactor 17 newSize).toUInt32 =
    size
  have bound := size.toNat_lt
  rcases setCapacity_lengths tcp.rbuf size.toNat (fun _ => 0) with
    same | ⟨room, bufferLength, dataLength⟩
  · apply KeepsWindow.refresh _ _ rfl
    · rw [same]
      exact small
    · rw [same]
      exact id
  · apply KeepsWindow.refresh _ _ rfl
    · rw [bufferLength]
      exact bound
    · rw [bufferLength, dataLength]
      exact fun _ => room

theorem parseOptions_keeps (data : Bytes) (small : tcp.rbuf.bufferLength < 2 ^ 32) :
    KeepsWindow tcp.toIncoming (parseOptions data tcp).toIncoming ∧
      (parseOptions data tcp).shutdown = tcp.shutdown := by
  unfold parseOptions
  split
  · split
    · exact ⟨resizeReceiveBuffer_keeps defaultRcvBufSize small, rfl⟩
    · exact ⟨KeepsWindow.refl _, rfl⟩
  · exact ⟨KeepsWindow.refl _, rfl⟩

theorem processControl_keeps (seg : Segment) {tcp : PseudoTcp}
    (small : tcp.rbuf.bufferLength < 2 ^ 32) :
    KeepsWindow tcp.toIncoming (processControl seg tcp).2.toIncoming ∧
      (processControl seg tcp).2.shutdown = tcp.shutdown := by
  have same : KeepsWindow tcp.toIncoming tcp.toIncoming ∧ tcp.shutdown = tcp.shutdown :=
    ⟨KeepsWindow.refl _, rfl⟩
  unfold processControl
  split
  · exact same
  split
  · exact same
  split
  · have parsed := parseOptions_keeps
      (dataBytes (fun index => seg.data (index + 1)) (seg.len - 1).toNat) small
    dsimp only
    split <;> exact parsed
  · exact same

/-- The data of a segment get to the receive buffer. -/
structure DataTaken (seg : Segment) (tcp : PseudoTcp) : Prop where
  conv : seg.conv = tcp.conv
  stillOpen : tcp.state ≠ .closed
  notReset : seg.flags &&& flagRst = 0
  plain : seg.flags &&& flagCtl = 0
  notShut : tcp.shutdown = .none
  acked : (processAck env (tcp.now env) seg (updateTimestamp seg (noteTraffic env tcp))).1 = true

theorem processControl_plain {seg : Segment} (plain : seg.flags &&& flagCtl = 0)
    (tcp : PseudoTcp) : processControl seg tcp = (some false, tcp) := by
  rw [processControl, if_pos plain]

theorem process_taken {seg : Segment} (taken : DataTaken env seg tcp) :
    ∃ lastrecv, (process env seg tcp).2.toIncoming =
      (takeData false (adjustSegment seg { tcp.toIncoming with lastrecv })
        { tcp.toIncoming with lastrecv }).2 := by
  apply (process_plain env taken.plain taken.notShut).2.1
  have acked := taken.acked
  rw [process, if_neg (not_not.mpr taken.conv)]
  dsimp only
  rw [if_neg (show (noteTraffic env tcp).state ≠ .closed from taken.stillOpen),
    if_neg (not_not.mpr taken.notReset), processControl_plain taken.plain]
  dsimp only
  generalize processAck env (tcp.now env) seg (updateTimestamp seg (noteTraffic env tcp)) = outcome
    at acked ⊢
  rcases outcome with ⟨_ | _, after⟩
  · exact absurd acked Bool.false_ne_true
  · rfl

theorem process_keeps {seg : Segment} (small : tcp.rbuf.bufferLength < 2 ^ 32)
    (notTaken : ¬DataTaken env seg tcp) :
    KeepsWindow tcp.toIncoming (process env seg tcp).2.toIncoming := by
  have noted : KeepsWindow tcp.toIncoming (noteTraffic env tcp).toIncoming :=
    KeepsWindow.of_eq rfl rfl
  have controlled := @processControl_keeps seg (noteTraffic env tcp) small
  have plainly := fun plain => @processControl_plain seg plain (noteTraffic env tcp)
  unfold process
  split
  · exact KeepsWindow.refl _
  next conv =>
    dsimp only
    split
    · exact noted
    next stillOpen =>
      split
      · exact noted
      next notReset =>
        revert controlled plainly
        generalize processControl seg (noteTraffic env tcp) = outcome
        rcases outcome with ⟨_ | bConnect, control⟩
        · exact fun controlled _ => noted.trans controlled.1
        · rintro ⟨keeps, sameShutdown⟩ plainly
          have stamped : SameReceiver control (updateTimestamp seg control) := by
            unfold updateTimestamp
            split <;> exact ⟨rfl, rfl, rfl⟩
          have acked := processAck_receiver env (tcp.now env) seg (updateTimestamp seg control)
          have acknowledged : KeepsWindow tcp.toIncoming
              (processAck env (tcp.now env) seg (updateTimestamp seg control)).2.toIncoming :=
            (noted.trans keeps).trans
              (KeepsWindow.of_toIncoming (acked.toIncoming.trans stamped.toIncoming))
          have shutdown := acked.shutdown.trans (stamped.shutdown.trans sameShutdown)
          have verdict : seg.flags &&& flagCtl = 0 → (noteTraffic env tcp).shutdown = .none →
              (processAck env (tcp.now env) seg (updateTimestamp seg control)).1 = true →
                False := by
            intro plain notShut success
            have same := (Prod.mk.inj (plainly plain)).2
            rw [same] at success
            exact notTaken
              ⟨not_not.mp conv, stillOpen, not_not.mp notReset, plain, notShut, success⟩
          revert acknowledged shutdown verdict
          dsimp only
          generalize processAck env (tcp.now env) seg (updateTimestamp seg control) = outcome
          rcases outcome with ⟨_ | _, after⟩
          · exact fun acknowledged _ _ => acknowledged
          · intro acknowledged shutdown verdict
            dsimp only at acknowledged shutdown verdict ⊢
            have confirmed := confirm_sameReceiver bConnect after
            have data := processData_receiver env seg
              (notifyWriteable (confirmConnect bConnect after))
            have ignored : (seg.flags &&& flagCtl ≠ 0 ||
                (notifyWriteable (confirmConnect bConnect after)).shutdown ≠ .none) = true := by
              rw [confirmed.shutdown, shutdown]
              by_contra both
              rw [Bool.or_eq_true, not_or, decide_eq_true_eq, decide_eq_true_eq, not_not,
                not_not] at both
              exact verdict both.1 both.2 rfl
            rw [ignored] at data
            apply acknowledged.trans
            rcases takeData_ignored (adjustSegment seg
              (notifyWriteable (confirmConnect bConnect after)).toIncoming)
              (notifyWriteable (confirmConnect bConnect after)).toIncoming with ⟨rbuf, rcvWnd⟩
            rw [← confirmed.toIncoming, data.toIncoming]
            exact KeepsWindow.of_eq rbuf rcvWnd

/-! ## Calls -/

theorem read_lengths (fifo : FifoBuffer) (bytes : Nat) :
    (fifo.read bytes).2.bufferLength = fifo.bufferLength ∧
      (fifo.read bytes).2.dataLength ≤ fifo.dataLength := by
  unfold FifoBuffer.read
  split
  · exact ⟨rfl, le_rfl⟩
  · exact ⟨rfl, Nat.sub_le _ _⟩

theorem recv_keeps (len : Nat) (tcp : PseudoTcp) :
    KeepsWindow tcp.toIncoming (recv env len tcp).2.toIncoming := by
  have lengths := read_lengths tcp.rbuf len
  unfold recv
  split
  · exact KeepsWindow.refl _
  · revert lengths
    generalize tcp.rbuf.read len = outcome
    rcases outcome with ⟨_ | copied, rbuf⟩
    · exact fun _ => KeepsWindow.refl _
    · rintro ⟨bufferLength, dataLength⟩
      dsimp only at bufferLength dataLength ⊢
      have announced : KeepsWindow tcp.toIncoming { tcp.toIncoming with
          rbuf := rbuf
          rcvWnd := UInt32.ofNat rbuf.getWriteRemaining } := by
        constructor
        · exact fun small => bufferLength.trans_lt small
        · intro small fits
          exact (@KeepsWindow.refresh tcp.toIncoming { tcp.toIncoming with
            rbuf := rbuf
            rcvWnd := UInt32.ofNat rbuf.getWriteRemaining } (bufferLength.trans_lt small)
            (fun filled => (dataLength.trans filled).trans bufferLength.ge) rfl).fits small fits
      split
      · dsimp only
        split
        · exact announced.trans
            (KeepsWindow.of_toIncoming (attemptSend_sameReceiver env .immediateAck _).toIncoming)
        · exact announced
      · constructor
        · exact fun small => bufferLength.trans_lt small
        · intro small fits
          have room := fits.fits
          rw [windowFits_iff]
          dsimp only
          rw [bufferLength]
          exact (Nat.add_le_add_left dataLength _).trans room

theorem retransmit_incoming (now : UInt32) (tcp : PseudoTcp) :
    (retransmit env now tcp).2.toIncoming = tcp.toIncoming := by
  have resent := (transmit_sameReceiver env 0 now tcp).toIncoming
  unfold retransmit
  split
  · split
    all_goals
      next equal =>
        rw [equal] at resent
        exact resent
  · rfl

theorem probeWindow_incoming (now : UInt32) (tcp : PseudoTcp) :
    (probeWindow env now tcp).2.toIncoming = tcp.toIncoming := by
  unfold probeWindow
  split
  · split
    · rfl
    · exact (packet_sameStream env (tcp.sndNxt - 1) 0 0 0 tcp).toIncoming
  · rfl

theorem notifyClock_incoming (now : UInt32) (tcp : PseudoTcp) :
    (notifyClock env now tcp).toIncoming = tcp.toIncoming := by
  have resent := retransmit_incoming env now tcp
  unfold notifyClock
  split
  · rfl
  · revert resent
    generalize retransmit env now tcp = outcome
    rcases outcome with ⟨_ | _, after⟩
    · exact id
    · intro resent
      have probed := probeWindow_incoming env now after
      dsimp only at resent ⊢
      revert probed
      generalize probeWindow env now after = outcome
      rcases outcome with ⟨_ | _, last⟩
      · exact fun probed => probed.trans resent
      · intro probed
        dsimp only at probed ⊢
        unfold sendDelayedAck
        split
        · exact (packet_sameStream env _ _ _ _ _).toIncoming.trans (probed.trans resent)
        · exact probed.trans resent

theorem send_incoming (buffer : Bytes) (tcp : PseudoTcp) :
    (send env buffer tcp).2.toIncoming = tcp.toIncoming := by
  unfold send
  split
  · rfl
  · split
    · rfl
    · exact (attemptSend_sameReceiver env .none _).toIncoming

/-- The calls, and a new size of the receive buffer. -/
inductive ReceiverOperation
  | call (operation : Operation)
  | resizeReceiveBuffer (newSize : UInt32)

def receiverStep (tcp : PseudoTcp) : ReceiverOperation → PseudoTcp
  | .call operation => step env tcp operation
  | .resizeReceiveBuffer newSize => resizeReceiveBuffer newSize tcp

/-- The peer sends no more than the window allows: the data that a packet adds in order, with
those that follow on, end in the window. -/
def RespectsWindow (tcp : PseudoTcp) : ReceiverOperation → Prop
  | .call (.notifyPacket buffer len) =>
    12 ≤ len ∧ len ≤ maxPacket.toNat → DataTaken env (parseSegment buffer (UInt32.ofNat len)) tcp →
        EndsInWindow (adjustSegment (parseSegment buffer (UInt32.ofNat len)) tcp.toIncoming)
          tcp.toIncoming
  | _ => True

theorem notifyPacket_window {buffer : Nat → UInt8} {len : Nat}
    (small : tcp.rbuf.bufferLength < 2 ^ 32) :
    (notifyPacket env buffer len tcp).2.rbuf.bufferLength < 2 ^ 32 ∧ (WindowFits tcp.toIncoming →
        (WindowFits (notifyPacket env buffer len tcp).2.toIncoming ↔
          RespectsWindow env tcp (.call (.notifyPacket buffer len)))) := by
  have maximum : maxPacket.toNat = 65535 := rfl
  rw [notifyPacket]
  split
  next long =>
    exact ⟨small, fun fits => iff_of_true fits fun inside => absurd inside.2 (not_le.mpr long)⟩
  next short =>
    have length : (UInt32.ofNat len).toNat = len := by
      rw [UInt32.toNat_ofNat']
      omega
    rw [parse]
    split
    next tiny =>
      have order := UInt32.lt_iff_toNat_lt.mp tiny
      rw [length] at order
      exact ⟨small, fun fits => iff_of_true fits fun inside => absurd inside.1 (not_le.mpr order)⟩
    next enough =>
      rw [UInt32.not_lt, UInt32.le_iff_toNat_le, length] at enough
      rw [RespectsWindow]
      generalize parseSegment buffer (UInt32.ofNat len) = seg
      by_cases taken : DataTaken env seg tcp
      · rcases process_taken env taken with ⟨lastrecv, incoming⟩
        rw [incoming]
        refine ⟨?_, fun fits => ?_⟩
        · rw [takeData_bufferLength]
          exact small
        · have noted : WindowFits { tcp.toIncoming with lastrecv } := ⟨fits.fits, fits.accepts⟩
          rw [@windowFits_takeData_iff _ { tcp.toIncoming with lastrecv } small noted]
          exact ⟨fun within _ _ => within, fun within => within ⟨enough, not_lt.mp short⟩ taken⟩
      · have keeps := process_keeps env small taken
        exact ⟨keeps.small small,
          fun fits => iff_of_true (keeps.fits small fits) fun _ wrong => absurd wrong taken⟩

theorem receiverStep_keeps (small : tcp.rbuf.bufferLength < 2 ^ 32) {operation : ReceiverOperation}
    (other : ∀ buffer len, operation ≠ .call (.notifyPacket buffer len)) :
    KeepsWindow tcp.toIncoming (receiverStep env tcp operation).toIncoming := by
  cases operation with
  | resizeReceiveBuffer newSize => exact resizeReceiveBuffer_keeps newSize small
  | call operation =>
    cases operation with
    | connect =>
      change KeepsWindow _ (connect env tcp).2.toIncoming
      unfold connect
      split
      · exact KeepsWindow.refl _
      · exact KeepsWindow.of_toIncoming (attemptSend_sameReceiver env .none _).toIncoming
    | notifyMTU mtu =>
      change KeepsWindow _ (notifyMTU mtu tcp).toIncoming
      unfold notifyMTU
      dsimp only
      split <;> exact KeepsWindow.refl _
    | setNoDelay value => exact KeepsWindow.refl _
    | setAckDelay value => exact KeepsWindow.refl _
    | close force => exact KeepsWindow.refl _
    | recv len => exact recv_keeps env len tcp
    | send buffer => exact KeepsWindow.of_toIncoming (send_incoming env buffer tcp)
    | notifyClock now => exact KeepsWindow.of_toIncoming (notifyClock_incoming env now tcp)
    | notifyPacket buffer len => exact absurd rfl (other buffer len)

theorem receiverStep_window (tcp : PseudoTcp) (operation : ReceiverOperation)
    (small : tcp.rbuf.bufferLength < 2 ^ 32) :
    (receiverStep env tcp operation).rbuf.bufferLength < 2 ^ 32 ∧ (WindowFits tcp.toIncoming →
        (WindowFits (receiverStep env tcp operation).toIncoming ↔
          RespectsWindow env tcp operation)) := by
  by_cases packet : ∃ buffer len, operation = .call (.notifyPacket buffer len)
  · rcases packet with ⟨buffer, len, rfl⟩
    exact notifyPacket_window env small
  · have keeps := receiverStep_keeps env small fun buffer len same => packet ⟨buffer, len, same⟩
    refine ⟨keeps.small small, fun fits => iff_of_true (keeps.fits small fits) ?_⟩
    unfold RespectsWindow
    split
    next buffer len => exact absurd ⟨buffer, len, rfl⟩ packet
    next => trivial

theorem windowFits_create (conv now : UInt32) (memory : Nat → UInt8) :
    WindowFits (create conv now memory).toIncoming := by
  rw [windowFits_iff]
  exact le_rfl

/-- In all states of a run, the window fits the free room exactly when all data that a peer sends
in order end in the window that they meet. -/
theorem windowFits_iff_respectsWindow (conv now : UInt32) (memory : Nat → UInt8)
    (operations : List ReceiverOperation) :
    (∀ count, WindowFits (Run.final (receiverStep env) (create conv now memory)
        (operations.take count)).toIncoming) ↔
      Run.Allowed (receiverStep env) (RespectsWindow env) (create conv now memory) operations :=
  @Run.good_iff_allowed _ _ (receiverStep env) (RespectsWindow env)
    (fun tcp => tcp.rbuf.bufferLength < 2 ^ 32) (fun tcp => WindowFits tcp.toIncoming)
    (receiverStep_window env) _ operations
    (show (defaultRcvBufSize).toNat < 2 ^ 32 from UInt32.toNat_lt _)
    (windowFits_create conv now memory)

/-- A peer connects to a receiver with a buffer of eight bytes, and sends three bytes, which are
read. -/
def threeBytesRead : List ReceiverOperation :=
  [.resizeReceiveBuffer 8,
    .call (deliver (headerBytes 0 0 flagCtl ++ [ctlConnect, tcpOptWndScale, 1, 0])),
    .call (deliver (headerBytes 4 4 0)),
    .call (deliver (headerBytes 4 4 0 ++ [1, 2, 3])),
    .call (.recv 3)]

/-- The window has room for five bytes after three were read, and the buffer for eight. The eight
bytes that come next are written, and the window falls below zero. -/
theorem not_windowFits_eightBytes :
    ¬∀ count, WindowFits (Run.final (receiverStep stillWorld) (create 0 0 fun _ => 0)
      ((threeBytesRead ++ [ReceiverOperation.call
        (deliver (headerBytes 7 4 0 ++ [4, 5, 6, 7, 8, 9, 10, 11]))]).take count)).toIncoming := by
  intro always
  have fits := (always 6).fits
  exact absurd fits (by decide +kernel)

end ZyWebRtc.PseudoTcp
