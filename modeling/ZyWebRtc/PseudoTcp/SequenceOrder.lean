import ZyWebRtc.PseudoTcp.SendQueueSafety

namespace ZyWebRtc.PseudoTcp

/-! Sequence numbers wrap at 2^32, so which of two comes first is told by their
difference. `process` compares the numbers themselves. Both tell the same exactly as
long as no wrap lies between the numbers. -/

open FifoBuffer
open UInt32

variable (env : Environment)

/-! ## Receiving -/

/-- The place of a byte of the segment in the window: its distance from `rcvNxt`. -/
def windowOffset (incoming : Incoming) (seq : UInt32) (index : Nat) : Nat :=
  (seq + UInt32.ofNat index - incoming.rcvNxt).toNat

/-- A byte of the segment for which the receive buffer has room. -/
def InWindow (incoming : Incoming) (seg : Segment) (index : Nat) : Prop :=
  index < seg.len.toNat ∧ windowOffset incoming seg.seq index < incoming.rbuf.getWriteRemaining

/-- The byte stands at its place of the buffer, and it can be read or is registered as
received ahead. -/
def Kept (before after : Incoming) (seg : Segment) (index : Nat) : Prop :=
  let position := before.rbuf.dataLength + windowOffset before seg.seq index
  after.rbuf.byteAt position = seg.data index ∧ (position < after.rbuf.dataLength ∨
      ∃ held ∈ after.rlist, (seg.seq + UInt32.ofNat index - held.seq).toNat < held.len.toNat)

/-- Between the segment and `rcvNxt` no number wraps. -/
structure WindowOrdered (incoming : Incoming) (seg : Segment) : Prop where
  ahead : 0 < seg.len → windowOffset incoming seg.seq 0 < incoming.rbuf.getWriteRemaining →
    incoming.rcvNxt ≤ seg.seq
  behind : 0 < incoming.rbuf.getWriteRemaining → incoming.rcvNxt - seg.seq < seg.len →
    seg.seq ≤ incoming.rcvNxt

theorem recoverRlist_rbuf (rlist : List RSegment) (incoming : Incoming) :
    ∃ count, (recoverRlist rlist incoming).2.rbuf = incoming.rbuf.consumeWriteBuffer count := by
  induction rlist generalizing incoming with
  | nil => exact ⟨0, rfl⟩
  | cons front rest induction =>
    rw [recoverRlist]
    split
    · split
      · rcases induction (advanceRcvNxt (front.seq + front.len - incoming.rcvNxt) incoming) with
          ⟨count, rbuf⟩
        refine ⟨(front.seq + front.len - incoming.rcvNxt).toNat + count, ?_⟩
        rw [rbuf]
        simp [advanceRcvNxt, consumeWriteBuffer, Nat.add_assoc]
      · exact induction incoming
    · exact ⟨0, rfl⟩

theorem mem_insertRlist (seg : RSegment) (rlist : List RSegment) : seg ∈ insertRlist seg rlist := by
  induction rlist with
  | nil => simp [insertRlist]
  | cons front rest induction =>
    rw [insertRlist]
    split
    · exact List.mem_cons_of_mem _ induction
    · exact List.mem_cons_self

section

variable {incoming : Incoming}

theorem takeData_inOrder {seg : Segment} (some_data : seg.len ≠ 0)
    (inOrder : seg.seq = incoming.rcvNxt) :
    (takeData false seg incoming).2 =
      (recoverRlist incoming.rlist (advanceRcvNxt seg.len { incoming with
        rbuf := (incoming.rbuf.writeOffset seg.data seg.len.toNat 0).2 })).2 := by
  rw [takeData, if_neg some_data, if_neg Bool.false_ne_true]
  dsimp only
  rw [if_pos inOrder, inOrder, sub_self]
  rfl

variable {seg : Segment}

theorem takeData_ahead (some_data : seg.len ≠ 0) (ahead : seg.seq ≠ incoming.rcvNxt) :
    (takeData false seg incoming).2 = { incoming with
      rbuf := (incoming.rbuf.writeOffset seg.data seg.len.toNat
        (seg.seq - incoming.rcvNxt).toNat).2
      rlist := insertRlist { seq := seg.seq, len := seg.len } incoming.rlist } := by
  rw [takeData, if_neg some_data, if_neg Bool.false_ne_true]
  dsimp only
  rw [if_neg ahead]

/-- A receive buffer as the program has it. -/
structure ReceiveBuffer (incoming : Incoming) : Prop where
  valid : incoming.rbuf.Valid
  capacity : incoming.rbuf.bufferLength < 2 ^ 31

theorem ReceiveBuffer.getWriteRemaining_lt (buffer : ReceiveBuffer incoming) :
    incoming.rbuf.getWriteRemaining < 2 ^ 31 := by
  rw [getWriteRemaining_eq buffer.valid]
  have capacity := buffer.capacity
  omega

theorem windowOffset_eq (incoming : Incoming) (seq : UInt32) (index : Nat)
    (small : (seq - incoming.rcvNxt).toNat + index < 2 ^ 32) :
    windowOffset incoming seq index = (seq - incoming.rcvNxt).toNat + index := by
  have rearranged : seq + UInt32.ofNat index - incoming.rcvNxt =
      (seq - incoming.rcvNxt) + UInt32.ofNat index := (sub_add_eq_add_sub _ _ _).symm
  rw [windowOffset, rearranged, UInt32.toNat_add, toNat_ofNat']
  omega

theorem kept_takeData (buffer : ReceiveBuffer incoming)
    (fits : (seg.seq - incoming.rcvNxt).toNat + seg.len.toNat ≤
      incoming.rbuf.getWriteRemaining) {index : Nat} (inside : index < seg.len.toNat) :
    Kept incoming (takeData false seg incoming).2 seg index := by
  have remaining := getWriteRemaining_eq buffer.valid
  have small := buffer.getWriteRemaining_lt
  have lengths := buffer.valid.dataLength_le
  have some_data : seg.len ≠ 0 := by
    rintro wrong
    rw [wrong] at inside
    exact absurd inside (Nat.not_lt_zero _)
  have offset := windowOffset_eq incoming seg.seq index (by omega)
  have room : incoming.rbuf.dataLength + (seg.seq - incoming.rcvNxt).toNat + seg.len.toNat ≤
      incoming.rbuf.bufferLength := by omega
  rcases writeOffset_eq buffer.valid seg.data room (by omega) with
    ⟨written, result, bufferLength, dataLength, readPosition, bytes⟩
  have byte : written.byteAt (incoming.rbuf.dataLength +
      ((seg.seq - incoming.rcvNxt).toNat + index)) = seg.data index := by
    rw [bytes _ (by omega), if_pos (by omega)]
    congr 1
    omega
  rw [Kept, offset]
  by_cases inOrder : seg.seq = incoming.rcvNxt
  · have start : (seg.seq - incoming.rcvNxt).toNat = 0 := by simp [inOrder]
    rw [start] at result byte ⊢
    rw [takeData_inOrder some_data inOrder, result]
    rcases recoverRlist_rbuf incoming.rlist
      (advanceRcvNxt seg.len { incoming with rbuf := written }) with ⟨count, rbuf⟩
    simp only [rbuf]
    refine ⟨byte, .inl ?_⟩
    change _ < written.dataLength + seg.len.toNat + count
    omega
  · rw [takeData_ahead some_data inOrder, result]
    refine ⟨byte, .inr ⟨_, mem_insertRlist _ _, ?_⟩⟩
    dsimp only
    rw [add_sub_cancel_left, toNat_ofNat']
    omega

theorem Kept.of_eq {before after : Incoming} {seg' : Segment} {index index' : Nat}
    (kept : Kept before after seg' index')
    (number : seg.seq + UInt32.ofNat index = seg'.seq + UInt32.ofNat index')
    (byte : seg.data index = seg'.data index') : Kept before after seg index := by
  unfold Kept windowOffset at kept ⊢
  rwa [number, byte]

theorem adjustBack_eq (rcvNxt available : UInt32)
    (small : (seg.seq - rcvNxt).toNat + seg.len.toNat < 2 ^ 32) :
    ∃ len : UInt32, adjustBack rcvNxt available seg = { seg with len } ∧
      len.toNat = min seg.len.toNat (available.toNat - (seg.seq - rcvNxt).toNat) := by
  have reach : (seg.seq + seg.len - rcvNxt).toNat = (seg.seq - rcvNxt).toNat + seg.len.toNat := by
    rw [← sub_add_eq_add_sub, UInt32.toNat_add]
    omega
  unfold adjustBack
  dsimp only
  split
  next beyond =>
    have order := lt_iff_toNat_lt.mp beyond
    have excess := UInt32.toNat_sub_of_le _ _ (UInt32.le_of_lt beyond)
    split
    next fewer =>
      have less := lt_iff_toNat_lt.mp fewer
      refine ⟨_, rfl, ?_⟩
      rw [UInt32.toNat_sub_of_le _ _ (UInt32.le_of_lt fewer)]
      omega
    next all =>
      rw [UInt32.not_lt, le_iff_toNat_le] at all
      refine ⟨0, rfl, ?_⟩
      change 0 = _
      omega
  next inside =>
    rw [UInt32.not_lt, le_iff_toNat_le] at inside
    exact ⟨seg.len, rfl, by omega⟩

theorem adjustBack_seq (rcvNxt available : UInt32) (seg : Segment) :
    (adjustBack rcvNxt available seg).seq = seg.seq := by
  unfold adjustBack
  dsimp only
  split
  · split <;> rfl
  · rfl

theorem toNat_available (buffer : ReceiveBuffer incoming) :
    (UInt32.ofNat incoming.rbuf.getWriteRemaining).toNat = incoming.rbuf.getWriteRemaining := by
  have small := buffer.getWriteRemaining_lt
  rw [toNat_ofNat']
  omega

theorem toNat_sub_add_toNat_sub {left right : UInt32} (different : left ≠ right) :
    (left - right).toNat + (right - left).toNat = 2 ^ 32 := by
  have distinct : left.toNat ≠ right.toNat := fun equal => different (UInt32.toNat_inj.mp equal)
  have leftBound := left.toNat_lt
  have rightBound := right.toNat_lt
  rw [UInt32.toNat_sub, UInt32.toNat_sub]
  omega

/-- With no wrap between the numbers, every byte in the window is kept. -/
theorem kept_of_windowOrdered (buffer : ReceiveBuffer incoming)
    (short : seg.len.toNat < 2 ^ 31) (ordered : WindowOrdered incoming seg)
    {index : Nat} (inWindow : InWindow incoming seg index) :
    Kept incoming (takeData false (adjustSegment seg incoming) incoming).2 seg index := by
  rcases inWindow with ⟨inside, offset⟩
  have small := buffer.getWriteRemaining_lt
  have available := toNat_available buffer
  unfold adjustSegment
  by_cases wraps : (seg.seq - incoming.rcvNxt).toNat + index < 2 ^ 32
  · -- The segment starts in the window.
    have offset_eq := windowOffset_eq incoming seg.seq index wraps
    have start := windowOffset_eq incoming seg.seq 0 (by omega)
    have order := ordered.ahead (lt_iff_toNat_lt.mpr (by show 0 < _; omega)) (by omega)
    rw [adjustFront, if_neg (UInt32.not_lt.mpr order)]
    have reach : (seg.seq - incoming.rcvNxt).toNat + seg.len.toNat < 2 ^ 32 := by omega
    rcases adjustBack_eq incoming.rcvNxt (UInt32.ofNat incoming.rbuf.getWriteRemaining) reach with
      ⟨len, adjusted, lenEq⟩
    rw [adjusted]
    rw [available] at lenEq
    have kept : Kept incoming (takeData false { seg with len } incoming).2 { seg with len } index :=
      kept_takeData buffer (by dsimp only; omega) (by dsimp only; omega)
    exact kept.of_eq rfl rfl
  · -- Its first bytes were received before.
    have different : seg.seq ≠ incoming.rcvNxt := by
      rintro equal
      rw [equal, sub_self] at wraps
      exact wraps (by show 0 + index < _; omega)
    have round := toNat_sub_add_toNat_sub different
    have older : incoming.rcvNxt - seg.seq < seg.len :=
      lt_iff_toNat_lt.mpr (by omega)
    have order : seg.seq < incoming.rcvNxt := UInt32.lt_of_le_of_ne
      (ordered.behind (by omega) older) different
    rw [adjustFront, if_pos order]
    dsimp only
    rw [if_pos older]
    have lengths := UInt32.toNat_sub_of_le _ _ (UInt32.le_of_lt older)
    have number : seg.seq + (incoming.rcvNxt - seg.seq) = incoming.rcvNxt := add_sub_cancel _ _
    have zero : (0 : UInt32).toNat = 0 := rfl
    have reach : (seg.seq + (incoming.rcvNxt - seg.seq) - incoming.rcvNxt).toNat +
        (seg.len - (incoming.rcvNxt - seg.seq)).toNat < 2 ^ 32 := by
      rw [number, sub_self]
      omega
    rcases adjustBack_eq incoming.rcvNxt (UInt32.ofNat incoming.rbuf.getWriteRemaining)
      (show (Segment.seq { seg with
        seq := seg.seq + (incoming.rcvNxt - seg.seq)
        data := fun index => seg.data (index + (incoming.rcvNxt - seg.seq).toNat)
        len := seg.len - (incoming.rcvNxt - seg.seq) } - incoming.rcvNxt).toNat + _ < _ from reach)
      with ⟨len, adjusted, lenEq⟩
    rw [adjusted]
    dsimp only at lenEq
    rw [available, number, sub_self] at lenEq
    have offset_eq : windowOffset incoming seg.seq index =
        index - (incoming.rcvNxt - seg.seq).toNat := by
      have rearranged : seg.seq + UInt32.ofNat index - incoming.rcvNxt =
          (seg.seq - incoming.rcvNxt) + UInt32.ofNat index := (sub_add_eq_add_sub _ _ _).symm
      rw [windowOffset, rearranged, UInt32.toNat_add, toNat_ofNat']
      omega
    apply Kept.of_eq (kept_takeData buffer _ (_ :
      index - (incoming.rcvNxt - seg.seq).toNat < _))
    · dsimp only
      apply UInt32.toNat_inj.mp
      simp only [UInt32.toNat_add, toNat_ofNat']
      omega
    · dsimp only
      congr 1
      omega
    · dsimp only
      rw [number, sub_self]
      omega
    · dsimp only
      omega

/-! ## Not receiving -/

theorem takeData_rbuf_of_far (far : incoming.rbuf.bufferLength ≤
      incoming.rbuf.dataLength + (seg.seq - incoming.rcvNxt).toNat)
    (different : seg.seq ≠ incoming.rcvNxt) :
    (takeData false seg incoming).2.rbuf = incoming.rbuf := by
  by_cases empty : seg.len = 0
  · rw [takeData, if_pos empty]
  · rw [takeData_ahead empty different]
    change (writeOffset _ _ _ _).2 = _
    rw [writeOffset, if_pos far]

theorem exists_not_kept {before : Incoming} {after : (Nat → UInt8) → Incoming} (seg : Segment)
    (same : ∀ data, (after data).rbuf = before.rbuf) (index : Nat) :
    ∃ data, ¬ Kept before (after data) { seg with data } index := by
  refine ⟨fun _ => before.rbuf.byteAt
    (before.rbuf.dataLength + windowOffset before seg.seq index) + 1, ?_⟩
  rintro ⟨byte, -⟩
  rw [same] at byte
  have changed := congrArg (· - before.rbuf.byteAt
    (before.rbuf.dataLength + windowOffset before seg.seq index)) byte
  simp at changed

/-- A wrap between the numbers loses bytes that are in the window. -/
theorem exists_not_kept_of_not_windowOrdered (buffer : ReceiveBuffer incoming)
    (short : seg.len.toNat < 2 ^ 31)
    (disordered : ¬ WindowOrdered incoming seg) :
    ∃ data index, InWindow incoming { seg with data } index ∧
      ¬ Kept incoming (takeData false (adjustSegment { seg with data } incoming) incoming).2
        { seg with data } index := by
  have small := buffer.getWriteRemaining_lt
  have zero : (0 : UInt32).toNat = 0 := rfl
  by_cases ahead : 0 < seg.len → windowOffset incoming seg.seq 0 <
      incoming.rbuf.getWriteRemaining → incoming.rcvNxt ≤ seg.seq
  · by_cases behind : 0 < incoming.rbuf.getWriteRemaining →
        incoming.rcvNxt - seg.seq < seg.len → seg.seq ≤ incoming.rcvNxt
    · exact absurd ⟨ahead, behind⟩ disordered
    · -- Bytes that were received before are not cut off, and the write fails.
      simp only [Classical.not_imp, UInt32.not_le] at behind
      rcases behind with ⟨room, older, larger⟩
      have olderBytes := lt_iff_toNat_lt.mp older
      have different : seg.seq ≠ incoming.rcvNxt := (UInt32.ne_of_lt larger).symm
      have round := toNat_sub_add_toNat_sub different
      have unchanged : ∀ data, (takeData false
          (adjustSegment { seg with data } incoming) incoming).2.rbuf = incoming.rbuf := by
        intro data
        have start : (adjustSegment { seg with data } incoming).seq = seg.seq := by
          rw [adjustSegment, adjustBack_seq, adjustFront,
            if_neg (UInt32.not_lt.mpr (UInt32.le_of_lt larger))]
        apply takeData_rbuf_of_far
        · have capacity := buffer.capacity
          rw [start]
          omega
        · rwa [start]
      rcases exists_not_kept seg unchanged (incoming.rcvNxt - seg.seq).toNat with ⟨data, lost⟩
      refine ⟨data, _, ⟨olderBytes, ?_⟩, lost⟩
      change (seg.seq + _ - incoming.rcvNxt).toNat < _
      rw [UInt32.ofNat_toNat, add_sub_cancel, sub_self]
      omega
  · -- The segment counts as one that was received before.
    simp only [Classical.not_imp, UInt32.not_le] at ahead
    rcases ahead with ⟨some_data, offset, smaller⟩
    have some_bytes := lt_iff_toNat_lt.mp some_data
    have different : seg.seq ≠ incoming.rcvNxt := UInt32.ne_of_lt smaller
    have round := toNat_sub_add_toNat_sub different
    have distance := windowOffset_eq incoming seg.seq 0 (toNat_lt _)
    have unchanged : ∀ data, (takeData false
        (adjustSegment { seg with data } incoming) incoming).2.rbuf = incoming.rbuf := by
      intro data
      have cutOff : ¬ incoming.rcvNxt - seg.seq < seg.len := by
        rw [lt_iff_toNat_lt]
        omega
      rw [adjustSegment, adjustFront, if_pos smaller]
      dsimp only
      rw [if_neg cutOff]
      have reach : (seg.seq - incoming.rcvNxt).toNat + (0 : UInt32).toNat < 2 ^ 32 := by omega
      rcases adjustBack_eq incoming.rcvNxt (UInt32.ofNat incoming.rbuf.getWriteRemaining)
        (show (Segment.seq { seg with data := data, len := 0 } - incoming.rcvNxt).toNat + _ < _
          from reach) with ⟨len, adjusted, lenEq⟩
      have none : len = 0 := UInt32.toNat_inj.mp (by rw [lenEq]; exact Nat.zero_min _)
      rw [adjusted, takeData, if_pos none]
    rcases exists_not_kept seg unchanged 0 with ⟨data, lost⟩
    exact ⟨data, 0, ⟨some_bytes, offset⟩, lost⟩

/-- The bytes of a segment in the window are kept, whatever they are, exactly when no
number wraps between the segment and `rcvNxt`. -/
theorem kept_iff_windowOrdered (buffer : ReceiveBuffer incoming) (short : seg.len.toNat < 2 ^ 31) :
    (∀ data index, InWindow incoming { seg with data } index →
        Kept incoming (takeData false (adjustSegment { seg with data } incoming) incoming).2
          { seg with data } index) ↔
      WindowOrdered incoming seg := by
  constructor
  · intro kept
    by_contra disordered
    rcases exists_not_kept_of_not_windowOrdered buffer short disordered with
      ⟨data, index, inWindow, lost⟩
    exact lost (kept data index inWindow)
  · intro ordered data index inWindow
    have same : WindowOrdered incoming { seg with data } := ⟨ordered.ahead, ordered.behind⟩
    refine kept_of_windowOrdered buffer ?_ same inWindow
    exact short

end

/-! ## `process` -/

/-- A segment of the conversation that `process` looks at beyond its flags. -/
structure Regular (tcp : PseudoTcp) (seg : Segment) : Prop where
  conv : seg.conv = tcp.conv
  notReset : seg.flags &&& flagRst = 0
  control : seg.flags &&& flagCtl = 0 ∨ seg.len ≠ 0 ∧ seg.data 0 = ctlConnect

/-- On the circle of sequence numbers, `ack` lies behind `sndUna` and not behind `sndNxt`. -/
def AcksNewByte (tcp : PseudoTcp) (ack : UInt32) : Prop :=
  0 < ack - tcp.sndUna ∧ ack - tcp.sndUna ≤ tcp.sndNxt - tcp.sndUna

theorem acksNewByte_iff {tcp : PseudoTcp} (order : tcp.sndUna ≤ tcp.sndNxt) (ack : UInt32) :
    AcksNewByte tcp ack ↔ tcp.sndUna < ack ∧ ack ≤ tcp.sndNxt := by
  have zero : (0 : UInt32).toNat = 0 := rfl
  have unaBound := tcp.sndUna.toNat_lt
  have nxtBound := tcp.sndNxt.toNat_lt
  have ackBound := ack.toNat_lt
  simp only [AcksNewByte, lt_iff_toNat_lt, le_iff_toNat_le,
    UInt32.toNat_sub, zero] at order ⊢
  omega

section

variable (now : UInt32) (seg : Segment) (tcp : PseudoTcp)

theorem valuableAck_receiver :
    SameReceiver { tcp with sndUna := seg.ack } (valuableAck env now seg tcp).2 := by
  have advanced : SameReceiver { tcp with sndUna := seg.ack }
      (advanceUna now seg (updateRoundTrip now seg tcp)) := by
    unfold updateRoundTrip
    split <;> exact ⟨rfl, rfl, rfl⟩
  unfold valuableAck
  dsimp only
  generalize advanceUna now seg (updateRoundTrip now seg tcp) = moved at advanced ⊢
  split
  · split
    · exact advanced.trans ⟨rfl, rfl, rfl⟩
    · have resent := advanced.trans (transmit_sameReceiver env 0 now moved)
      split
      all_goals
        next equal =>
          rw [equal] at resent
          exact resent.trans ⟨rfl, rfl, rfl⟩
  · exact advanced.trans ⟨rfl, rfl, rfl⟩

theorem duplicateAck_sameReceiver : SameReceiver tcp (duplicateAck env now seg tcp).2 := by
  unfold duplicateAck
  dsimp only
  split
  · exact ⟨rfl, rfl, rfl⟩
  split
  · split
    · have resent := transmit_sameReceiver env 0 now { tcp with
        sndWnd := seg.wnd.toUInt32 <<< tcp.swndScale.toUInt32, dupAcks := tcp.dupAcks + 1 }
      split
      all_goals
        next equal =>
          rw [equal] at resent
          exact ⟨resent.toIncoming, resent.sndUna, resent.shutdown⟩
    · split <;> exact ⟨rfl, rfl, rfl⟩
  · exact ⟨rfl, rfl, rfl⟩

/-- The acknowledgement moves `sndUna` when the comparisons say so, and nothing that the
data of the segment meets. -/
theorem processAck_receiver : SameReceiver { tcp with
      sndUna := if tcp.sndUna < seg.ack ∧ seg.ack ≤ tcp.sndNxt then seg.ack else tcp.sndUna }
      (processAck env now seg tcp).2 := by
  unfold processAck
  split
  · exact valuableAck_receiver env now seg tcp
  · split
    · exact duplicateAck_sameReceiver env now seg tcp
    · exact ⟨rfl, rfl, rfl⟩

end

theorem confirm_sameReceiver (bConnect : Bool) (tcp : PseudoTcp) :
    SameReceiver tcp (notifyWriteable (confirmConnect bConnect tcp)) := by
  have confirmed : SameReceiver tcp (confirmConnect bConnect tcp) := by
    unfold confirmConnect
    split <;> exact ⟨rfl, rfl, rfl⟩
  apply confirmed.trans
  unfold notifyWriteable
  dsimp only
  split <;> exact ⟨rfl, rfl, rfl⟩

theorem processData_receiver (seg : Segment) (tcp : PseudoTcp) :
    SameReceiver { tcp with
      toIncoming := (takeData (seg.flags &&& flagCtl ≠ 0 || tcp.shutdown ≠ .none)
        (adjustSegment seg tcp.toIncoming) tcp.toIncoming).2 }
      (processData env seg tcp) := by
  unfold processData
  dsimp only
  generalize takeData _ _ tcp.toIncoming = outcome
  rcases outcome with ⟨taken, incoming⟩
  dsimp only
  generalize (if taken = .inOrder true then SendFlags.immediateAck else ackFlags seg tcp) = sflags
  have sent := attemptSend_sameReceiver env sflags { tcp with toIncoming := incoming }
  generalize attemptSend env sflags { tcp with toIncoming := incoming } = after at sent
  split
  · unfold notifyReadable
    split
    · exact sent.trans ⟨rfl, rfl, rfl⟩
    · exact sent
  · exact sent

section

variable {tcp : PseudoTcp} (established : tcp.state = .established) {seg : Segment}
  (regular : Regular tcp seg)

include established regular

theorem processControl_established :
    ∃ bConnect after, processControl seg tcp = (some bConnect, after) ∧
      after.sndUna = tcp.sndUna ∧ after.sndNxt = tcp.sndNxt ∧
      (seg.flags &&& flagCtl = 0 → after = tcp) := by
  unfold processControl
  by_cases plain : seg.flags &&& flagCtl = 0
  · exact ⟨false, tcp, by rw [if_pos plain], rfl, rfl, fun _ => rfl⟩
  rcases regular.control.resolve_left plain with ⟨some_data, code⟩
  rw [if_neg plain, if_neg some_data, if_pos code]
  have parsed : ∀ data, (parseOptions data tcp).state = .established ∧
      (parseOptions data tcp).sndUna = tcp.sndUna ∧
      (parseOptions data tcp).sndNxt = tcp.sndNxt := by
    intro data
    unfold parseOptions
    split
    · split <;> exact ⟨established, rfl, rfl⟩
    · exact ⟨established, rfl, rfl⟩
  rcases parsed (dataBytes (fun index => seg.data (index + 1)) (seg.len - 1).toNat) with
    ⟨state, sndUna, sndNxt⟩
  dsimp only
  rw [state]
  exact ⟨true, _, rfl, sndUna, sndNxt, fun wrong => absurd wrong plain⟩

/-- Where a regular segment leaves an established connection: the acknowledgement first,
and the data unless the connection was closed. -/
theorem process_established : (process env seg tcp).2.sndUna =
        (if tcp.sndUna < seg.ack ∧ seg.ack ≤ tcp.sndNxt then seg.ack else tcp.sndUna) ∧
      (seg.flags &&& flagCtl = 0 → (process env seg tcp).1 =
        (processAck env (tcp.now env) seg (updateTimestamp seg (noteTraffic env tcp))).1) ∧
      (seg.flags &&& flagCtl = 0 → tcp.shutdown = .none → (process env seg tcp).1 = true →
        (process env seg tcp).2.toIncoming =
          (takeData false (adjustSegment seg { tcp.toIncoming with lastrecv := tcp.now env })
            { tcp.toIncoming with lastrecv := tcp.now env }).2) := by
  unfold process
  rw [if_neg (not_not_intro regular.conv)]
  dsimp only
  rw [if_neg (by show ¬ tcp.state = .closed; rw [established]; decide),
    if_neg (not_not_intro regular.notReset)]
  have sameRegular : Regular (noteTraffic env tcp) seg :=
    ⟨regular.conv, regular.notReset, regular.control⟩
  have stillEstablished : (noteTraffic env tcp).state = .established := established
  rcases processControl_established stillEstablished sameRegular with
    ⟨bConnect, after, result, sndUna, sndNxt, plain⟩
  rw [result]
  dsimp only
  have stamped : SameReceiver after (updateTimestamp seg after) ∧
      (updateTimestamp seg after).sndNxt = after.sndNxt := by
    unfold updateTimestamp
    split <;> exact ⟨⟨rfl, rfl, rfl⟩, rfl⟩
  have acked := processAck_receiver env (tcp.now env) seg (updateTimestamp seg after)
  have answer : seg.flags &&& flagCtl = 0 →
      (processAck env (tcp.now env) seg (updateTimestamp seg after)).1 =
        (processAck env (tcp.now env) seg (updateTimestamp seg (noteTraffic env tcp))).1 :=
    fun control => by rw [plain control]
  rw [stamped.2, stamped.1.sndUna, sndUna, sndNxt] at acked
  revert acked answer
  generalize processAck env (tcp.now env) seg (updateTimestamp seg after) = outcome
  rcases outcome with ⟨_ | _, acknowledged⟩
  · exact fun acked answer => ⟨acked.sndUna, answer, nofun⟩
  · intro acked answer
    have confirmed := confirm_sameReceiver bConnect acknowledged
    dsimp only
    generalize notifyWriteable (confirmConnect bConnect acknowledged) = before at confirmed ⊢
    have data := processData_receiver env seg before
    generalize processData env seg before = final at data ⊢
    refine ⟨data.sndUna.trans (confirmed.sndUna.trans acked.sndUna), answer, ?_⟩
    intro control shutdown _
    have toIncoming := data.toIncoming
    have sameShutdown := confirmed.shutdown.trans (acked.shutdown.trans stamped.1.shutdown)
    have sameIncoming := confirmed.toIncoming.trans
      (acked.toIncoming.trans stamped.1.toIncoming)
    rw [plain control] at sameShutdown sameIncoming
    rw [sameShutdown, sameIncoming] at toIncoming
    have notShut : (noteTraffic env tcp).shutdown = .none := shutdown
    rw [control, notShut] at toIncoming
    exact toIncoming

theorem process_fst_data (plain : seg.flags &&& flagCtl = 0) (data : Nat → UInt8) :
    (process env { seg with data } tcp).1 = (process env seg tcp).1 := by
  have sameRegular : Regular tcp { seg with data } :=
    ⟨regular.conv, regular.notReset, .inl plain⟩
  rw [(process_established env established regular).2.1 plain,
    (process_established env established sameRegular).2.1 plain]
  rfl

end

/-! ## The order of sequence numbers -/

/-- An acknowledgement of new bytes moves `sndUna` to it. -/
def TakesAck (env : Environment) (tcp : PseudoTcp) (seg : Segment) : Prop :=
  AcksNewByte tcp seg.ack → (process env seg tcp).2.sndUna = seg.ack

/-- Whatever its bytes are, those of the segment in the window are kept. -/
def TakesData (env : Environment) (tcp : PseudoTcp) (seg : Segment) : Prop :=
  ∀ data index, InWindow tcp.toIncoming { seg with data } index →
    Kept tcp.toIncoming (process env { seg with data } tcp).2.toIncoming { seg with data } index

/-- A connection with ten bytes in flight, the number of the first one given. -/
def tenBytesInFlight (sndUna : UInt32) : PseudoTcp :=
  { create 0 0 fun _ => 0 with
    state := .established
    sndUna := sndUna
    sndNxt := sndUna + 10
    sndWnd := 0xF000
    slist := [{ seq := sndUna, len := 10, xmit := 1, bCtrl := false }]
    sbuf := { FifoBuffer.create 92160 fun _ => 0 with dataLength := 10 } }

def ackSegment (ack : UInt32) : Segment where
  conv := 0
  seq := 0
  ack := ack
  flags := 0
  wnd := 0xF000
  data := fun _ => 0
  len := 0
  tsval := 0
  tsecr := 0

theorem regular_ackSegment (sndUna ack : UInt32) :
    Regular (tenBytesInFlight sndUna) (ackSegment ack) :=
  ⟨rfl, show (0 : UInt8) &&& 4 = 0 by decide, .inl (show (0 : UInt8) &&& 2 = 0 by decide)⟩

theorem receiveBuffer_tenBytesInFlight (sndUna : UInt32) :
    ReceiveBuffer (tenBytesInFlight sndUna).toIncoming :=
  ⟨valid_create (by decide) _, by show (61440 : UInt32).toNat < _; decide⟩

end ZyWebRtc.PseudoTcp
