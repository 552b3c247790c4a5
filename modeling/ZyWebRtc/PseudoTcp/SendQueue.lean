import Mathlib.Data.UInt
import ZyWebRtc.Foundation.Tiling
import ZyWebRtc.PseudoTcp.Process
import ZyWebRtc.PseudoTcp.SendingFrame

namespace ZyWebRtc.PseudoTcp

/-! The send queue describes the send buffer: its segments lie end to end from
`sndUna` on, and those that were sent come first and end at `sndNxt`. -/

open List FifoBuffer Tiling UInt32

variable (env : Environment)

section

variable (slist : List SSegment)

def sentPart : List SSegment := slist.takeWhile (·.xmit ≠ 0)

def unsentPart : List SSegment := slist.dropWhile (·.xmit ≠ 0)

theorem sentPart_append_unsentPart :
    sentPart slist ++ unsentPart slist = slist := takeWhile_append_dropWhile

theorem xmit_of_mem_sentPart {slist : List SSegment} {seg : SSegment}
    (member : seg ∈ sentPart slist) : seg.xmit ≠ 0 := by
  simpa using List.all_eq_true.mp all_takeWhile seg member

theorem sentPart_append {front : List SSegment} (sent : ∀ seg ∈ front, seg.xmit ≠ 0)
    (back : List SSegment) : sentPart (front ++ back) = front ++ sentPart back :=
  takeWhile_append_of_pos (by simpa using sent)

theorem unsentPart_append {front : List SSegment} (sent : ∀ seg ∈ front, seg.xmit ≠ 0)
    (back : List SSegment) : unsentPart (front ++ back) = unsentPart back :=
  dropWhile_append_of_pos (by simpa using sent)

@[simp] theorem sentPart_nil : sentPart [] = [] := rfl

theorem sentPart_cons (seg : SSegment) (rest : List SSegment) :
    sentPart (seg :: rest) = if seg.xmit = 0 then [] else seg :: sentPart rest := by
  simp only [sentPart, takeWhile_cons]
  split <;> simp_all

theorem unsentPart_cons (seg : SSegment) (rest : List SSegment) :
    unsentPart (seg :: rest) = if seg.xmit = 0 then seg :: rest else unsentPart rest := by
  simp only [unsentPart, dropWhile_cons]
  split <;> simp_all

theorem sentPart_eq_nil {slist : List SSegment} (unsent : ∀ seg ∈ slist, seg.xmit = 0) :
    sentPart slist = [] := by
  cases slist with
  | nil => rfl
  | cons seg rest => rw [sentPart_cons, if_pos (unsent seg (by simp))]

theorem unsentPart_eq_self {slist : List SSegment} (unsent : ∀ seg ∈ slist, seg.xmit = 0) :
    unsentPart slist = slist := by
  have parts := sentPart_append_unsentPart slist
  rwa [sentPart_eq_nil unsent] at parts

theorem filter_eq_sentPart {slist : List SSegment}
    (unsentLast : ∀ seg ∈ unsentPart slist, seg.xmit = 0) :
    slist.filter (·.xmit ≠ 0) = sentPart slist := by
  conv_lhs => rw [← sentPart_append_unsentPart slist, filter_append]
  rw [filter_eq_self.mpr fun seg member => by simpa using xmit_of_mem_sentPart member,
    filter_eq_nil_iff.mpr fun seg member => by simpa using unsentLast seg member,
    append_nil]

/-- The bytes of all segments, counted without wrapping. -/
def bytesIn : Nat := extent (fun seg => seg.len.toNat) slist

@[simp] theorem bytesIn_nil : bytesIn [] = 0 := rfl

@[simp] theorem bytesIn_cons (seg : SSegment) (rest : List SSegment) :
    bytesIn (seg :: rest) = seg.len.toNat + bytesIn rest := extent_cons _ _ _

@[simp] theorem bytesIn_append (front back : List SSegment) :
    bytesIn (front ++ back) = bytesIn front + bytesIn back := extent_append _ _ _

theorem toNat_extent {slist : List SSegment} (small : bytesIn slist < 2 ^ 32) :
    (extent SSegment.len slist).toNat = bytesIn slist := by
  induction slist with
  | nil => rfl
  | cons seg rest induction =>
    simp only [bytesIn_cons, extent_cons] at small ⊢
    rw [UInt32.toNat_add, induction (by omega)]
    omega

theorem extent_eq_ofNat : extent SSegment.len slist = UInt32.ofNat (bytesIn slist) := by
  induction slist with
  | nil => rfl
  | cons seg rest induction => simp [induction, ofNat_add]

theorem bytesIn_sentPart :
    bytesIn (sentPart slist) + bytesIn (unsentPart slist) = bytesIn slist := by
  conv_rhs => rw [← sentPart_append_unsentPart slist]
  rw [bytesIn_append]

end

/-! ## The operations on segments -/

section

variable (seg : SSegment) (len : UInt32)

theorem extent_cut : extent SSegment.len (cut seg len) = seg.len := by
  unfold cut
  split <;> simp

theorem bytesIn_cut : bytesIn (cut seg len) = seg.len.toNat := by
  unfold cut
  split
  next shorter =>
    have order := lt_iff_toNat_lt.mp shorter
    have lengths := UInt32.toNat_sub_of_le _ _ (UInt32.le_of_lt shorter)
    simp only [bytesIn_cons, bytesIn_nil, lengths]
    omega
  next => simp

theorem tiles_cut : Tiles SSegment.seq SSegment.len seg.seq (cut seg len) := by
  unfold cut
  split <;> simp

theorem cut_eq_cons : ∃ rest, cut seg len = { seg with len := min len seg.len } :: rest ∧
      ∀ piece ∈ rest, piece.xmit = seg.xmit := by
  unfold cut
  split
  next shorter =>
    have minimum : min len seg.len = len := if_pos (UInt32.le_of_lt shorter)
    exact ⟨_, by rw [minimum], by simp⟩
  next longer =>
    have minimum : min len seg.len = seg.len := by
      apply UInt32.toNat_inj.mp
      rw [UInt32.toNat_min]
      exact Nat.min_eq_right (le_iff_toNat_le.mp (UInt32.not_lt.mp longer))
    exact ⟨[], by rw [minimum], by simp⟩

end

section

variable (seg : SSegment) (sent : UInt32)

theorem transmitted_eq_cons : ∃ rest, transmitted seg sent =
        { seg with len := min sent seg.len, xmit := seg.xmit + 1 } :: rest ∧
      cut seg sent = { seg with len := min sent seg.len } :: rest ∧
      ∀ piece ∈ rest, piece.xmit = seg.xmit := by
  rcases cut_eq_cons seg sent with ⟨rest, pieces, same⟩
  exact ⟨rest, by rw [transmitted, pieces]; rfl, pieces, same⟩

theorem extent_transmitted : extent SSegment.len (transmitted seg sent) = seg.len := by
  rcases transmitted_eq_cons seg sent with ⟨rest, after, before, -⟩
  have whole := extent_cut seg sent
  rw [before] at whole
  simpa [after] using whole

theorem bytesIn_transmitted : bytesIn (transmitted seg sent) = seg.len.toNat := by
  rcases transmitted_eq_cons seg sent with ⟨rest, after, before, -⟩
  have whole := bytesIn_cut seg sent
  rw [before] at whole
  simpa [after] using whole

theorem tiles_transmitted : Tiles SSegment.seq SSegment.len seg.seq (transmitted seg sent) := by
  rcases transmitted_eq_cons seg sent with ⟨rest, after, before, -⟩
  simpa [after, before] using tiles_cut seg sent

end

theorem xmit_add_one_ne_zero {xmit : UInt8} (few : xmit < 30) : xmit + 1 ≠ 0 := by
  have bound : xmit.toNat < 30 := UInt8.lt_iff_toNat_lt.mp few
  intro wrong
  have wrapped : (xmit.toNat + 1) % 256 = 0 := congrArg UInt8.toNat wrong
  omega

theorem parts_transmitted_of_sent {front : List SSegment}
    (frontSent : ∀ seg ∈ front, seg.xmit ≠ 0) {seg : SSegment} (few : seg.xmit < 30)
    (sentBefore : seg.xmit ≠ 0) (sent : UInt32) (back : List SSegment) :
    sentPart (front ++ (transmitted seg sent ++ back)) =
        front ++ (transmitted seg sent ++ sentPart back) ∧
      unsentPart (front ++ (transmitted seg sent ++ back)) = unsentPart back := by
  rcases transmitted_eq_cons seg sent with ⟨rest, pieces, -, same⟩
  have allSent : ∀ piece ∈ transmitted seg sent, piece.xmit ≠ 0 := by
    rw [pieces]
    intro piece member
    rcases mem_cons.mp member with rfl | member
    · exact xmit_add_one_ne_zero few
    · exact same piece member ▸ sentBefore
  rw [sentPart_append frontSent, unsentPart_append frontSent, sentPart_append allSent,
    unsentPart_append allSent]
  exact ⟨rfl, rfl⟩

theorem parts_transmitted_of_unsent {front : List SSegment}
    (frontSent : ∀ seg ∈ front, seg.xmit ≠ 0) {seg : SSegment} {back : List SSegment}
    (few : seg.xmit < 30) (unsent : ∀ piece ∈ seg :: back, piece.xmit = 0) (sent : UInt32) :
    sentPart (front ++ (transmitted seg sent ++ back)) =
        front ++ [{ seg with len := min sent seg.len, xmit := seg.xmit + 1 }] ∧
      ∀ piece ∈ unsentPart (front ++ (transmitted seg sent ++ back)), piece.xmit = 0 := by
  rcases transmitted_eq_cons seg sent with ⟨rest, pieces, -, same⟩
  have remaining : ∀ piece ∈ rest ++ back, piece.xmit = 0 := by
    intro piece member
    rcases mem_append.mp member with member | member
    · exact (same piece member).trans (unsent seg (by simp))
    · exact unsent piece (by simp [member])
  rw [pieces, sentPart_append frontSent, unsentPart_append frontSent, cons_append,
    sentPart_cons, unsentPart_cons, if_neg (xmit_add_one_ne_zero few),
    if_neg (xmit_add_one_ne_zero few), sentPart_eq_nil remaining, unsentPart_eq_self remaining]
  exact ⟨rfl, remaining⟩

theorem tiles_appendSegment {una seq len : UInt32} {bCtrl : Bool} {slist : List SSegment}
    (tiles : Tiles SSegment.seq SSegment.len una slist)
    (behind : seq = una + extent SSegment.len slist) :
    Tiles SSegment.seq SSegment.len una (appendSegment slist seq len bCtrl) := by
  unfold appendSegment
  split
  next last found =>
    rcases List.getLast?_eq_some_iff.mp found with ⟨front, rfl⟩
    rw [tiles_append] at tiles
    split
    · simpa [tiles_append] using tiles
    · simpa [tiles_append, behind, add_assoc] using tiles
  next found => simp [List.getLast?_eq_none_iff.mp found, behind]

theorem bytesIn_appendSegment {seq len : UInt32} {bCtrl : Bool} {slist : List SSegment}
    (small : bytesIn slist + len.toNat < 2 ^ 32) :
    bytesIn (appendSegment slist seq len bCtrl) = bytesIn slist + len.toNat := by
  unfold appendSegment
  split
  next last found =>
    rcases List.getLast?_eq_some_iff.mp found with ⟨front, rfl⟩
    simp only [bytesIn_append, bytesIn_cons, bytesIn_nil, Nat.add_zero] at small
    split
    · simp only [dropLast_concat, bytesIn_append, bytesIn_cons, bytesIn_nil,
        UInt32.toNat_add, Nat.add_zero]
      omega
    · simp [Nat.add_assoc]
  next found => simp [List.getLast?_eq_none_iff.mp found]

theorem sentPart_appendSegment (seq len : UInt32) (bCtrl : Bool) {slist : List SSegment}
    (unsentLast : ∀ seg ∈ unsentPart slist, seg.xmit = 0) :
    sentPart (appendSegment slist seq len bCtrl) = sentPart slist ∧
      ∀ seg ∈ unsentPart (appendSegment slist seq len bCtrl), seg.xmit = 0 := by
  have parts := sentPart_append_unsentPart slist
  have sent : ∀ seg ∈ sentPart slist, seg.xmit ≠ 0 := fun seg => xmit_of_mem_sentPart
  -- The queue after the call is the sent part and unsent segments behind it.
  have shape : ∃ unsent, appendSegment slist seq len bCtrl = sentPart slist ++ unsent ∧
      ∀ seg ∈ unsent, seg.xmit = 0 := by
    unfold appendSegment
    rcases eq_nil_or_concat (unsentPart slist) with none | ⟨front, last, unsent⟩
    · rw [none, append_nil] at parts
      rw [parts] at sent ⊢
      split
      next last found =>
        have lastSent : last.xmit ≠ 0 := sent last (List.mem_of_getLast? found)
        simp only [lastSent, and_false, if_false]
        exact ⟨_, rfl, by simp⟩
      next found => exact ⟨_, by rw [List.getLast?_eq_none_iff.mp found]; rfl, by simp⟩
    · rw [unsent] at parts unsentLast
      have found : slist.getLast? = some last := by rw [← parts]; simp
      simp only [found]
      split
      · refine ⟨front ++ [{ last with len := last.len + len }], ?_, ?_⟩
        · conv_lhs => rw [← parts]
          simp [dropLast_append_of_ne_nil]
        · intro seg member
          rcases mem_append.mp member with member | member
          · exact unsentLast seg (by simp [member])
          · rw [mem_singleton.mp member]
            exact unsentLast last (by simp)
      · refine ⟨front ++ [last] ++ [{ seq, len, xmit := 0, bCtrl }], ?_, ?_⟩
        · conv_lhs => rw [← parts]
          simp
        · intro seg member
          rcases mem_append.mp member with member | member
          · exact unsentLast seg (by simpa using member)
          · rw [mem_singleton.mp member]
  rcases shape with ⟨unsent, equal, allUnsent⟩
  rw [equal, sentPart_append sent, unsentPart_append sent, sentPart_eq_nil allUnsent,
    unsentPart_eq_self allUnsent]
  exact ⟨append_nil _, allUnsent⟩

/-- The send queue covers the send buffer, and its sent part what is in flight. -/
structure SendQueue (tcp : PseudoTcp) : Prop where
  valid : tcp.sbuf.Valid
  capacity : tcp.sbuf.bufferLength < 2 ^ 31
  tiles : Tiles SSegment.seq SSegment.len tcp.sndUna tcp.slist
  total : bytesIn tcp.slist = tcp.sbuf.dataLength
  unsentLast : ∀ seg ∈ unsentPart tcp.slist, seg.xmit = 0
  sentTo : tcp.sndNxt = tcp.sndUna + extent SSegment.len (sentPart tcp.slist)
  recover : tcp.sndUna < tcp.recover → tcp.recover ≤ tcp.sndNxt ∨ tcp.sndNxt < tcp.sndUna

namespace SendQueue

variable {tcp : PseudoTcp}

theorem of_eq {before after : PseudoTcp} (queue : SendQueue before)
    (slist : after.slist = before.slist) (sbuf : after.sbuf = before.sbuf)
    (sndUna : after.sndUna = before.sndUna) (sndNxt : after.sndNxt = before.sndNxt)
    (recover : after.recover = before.recover) : SendQueue after where
  valid := sbuf ▸ queue.valid
  capacity := sbuf ▸ queue.capacity
  tiles := by simpa only [slist, sndUna] using queue.tiles
  total := by simpa only [slist, sbuf] using queue.total
  unsentLast := by simpa only [slist] using queue.unsentLast
  sentTo := by simpa only [slist, sndUna, sndNxt] using queue.sentTo
  recover := by simpa only [sndUna, sndNxt, recover] using queue.recover

theorem of_sameStream {before after : PseudoTcp} (queue : SendQueue before)
    (same : SameStream before after) : SendQueue after :=
  queue.of_eq same.slist same.sbuf same.sndUna same.sndNxt same.recover

theorem bytesIn_lt (queue : SendQueue tcp) : bytesIn tcp.slist < 2 ^ 31 := by
  have inside := queue.valid.dataLength_le
  have capacity := queue.capacity
  rw [queue.total]
  omega

theorem bytesIn_sentPart_le (queue : SendQueue tcp) :
    bytesIn (sentPart tcp.slist) ≤ tcp.sbuf.dataLength := by
  have parts := bytesIn_sentPart tcp.slist
  rw [queue.total] at parts
  omega

theorem toNat_inFlight (queue : SendQueue tcp) :
    (tcp.sndNxt - tcp.sndUna).toNat = bytesIn (sentPart tcp.slist) := by
  have small := queue.bytesIn_lt
  have parts := bytesIn_sentPart tcp.slist
  rw [queue.sentTo, add_sub_cancel_left, toNat_extent (by omega)]

theorem end_eq (queue : SendQueue tcp) :
    tcp.sndUna + UInt32.ofNat tcp.sbuf.dataLength = tcp.sndUna + extent SSegment.len tcp.slist := by
  rw [extent_eq_ofNat, queue.total]

theorem create (conv now : UInt32) (memory : Nat → UInt8) :
    SendQueue (PseudoTcp.create conv now memory) where
  valid := valid_create (by decide) memory
  capacity := by show (92160 : UInt32).toNat < _; decide
  tiles := trivial
  total := rfl
  unsentLast := nofun
  sentTo := rfl
  recover := fun wrong => absurd wrong (by show ¬(0 : UInt32) < 0; decide)

end SendQueue

theorem recover_advance {una nxt count recover : UInt32}
    (small : (nxt - una).toNat + count.toNat < 2 ^ 32)
    (inside : una < recover → recover ≤ nxt ∨ nxt < una) :
    una < recover → recover ≤ nxt + count ∨ nxt + count < una := by
  simp only [lt_iff_toNat_lt, le_iff_toNat_le, UInt32.toNat_add,
    UInt32.toNat_sub] at *
  have unaBound := una.toNat_lt
  have nxtBound := nxt.toNat_lt
  omega

/-! ## Sending -/

/-- `transmit` of the first segment, or of the first one that was not sent yet. -/
theorem sendQueue_transmit {tcp : PseudoTcp} (queue : SendQueue tcp)
    {front back : List SSegment} {seg : SSegment} (slist : tcp.slist = front ++ seg :: back)
    (frontSent : ∀ seg ∈ front, seg.xmit ≠ 0) (now : UInt32) :
    SendQueue (transmit env front.length now tcp).2 := by
  rcases transmit_cases env slist now with ⟨-, same, -⟩ | ⟨sent, -, few, bound, -, same, -⟩
  · exact queue.of_sameStream same
  have tiles := queue.tiles
  have total := queue.total
  have unsentLast := queue.unsentLast
  have sentTo := queue.sentTo
  have inFlight := queue.toNat_inFlight
  have small := queue.bytesIn_lt
  rw [slist] at tiles total unsentLast sentTo small inFlight
  rw [unsentPart_append frontSent, unsentPart_cons] at unsentLast
  rw [sentPart_append frontSent, sentPart_cons] at sentTo inFlight
  have inside : sent.toNat ≤ seg.len.toNat := by
    rw [le_iff_toNat_le, UInt32.toNat_min] at bound
    omega
  have newTiles : Tiles SSegment.seq SSegment.len tcp.sndUna
      (front ++ (transmitted seg sent ++ back)) := by
    have segStart := start_eq_of_tiles _ _ tiles
    rw [show seg :: back = [seg] ++ back from rfl] at tiles
    refine tiles_replace _ _ ?_ ?_ tiles
    · simp [extent_transmitted]
    · exact segStart ▸ tiles_transmitted seg sent
  have newTotal : bytesIn (front ++ (transmitted seg sent ++ back)) = tcp.sbuf.dataLength := by
    rw [← total]
    simp only [bytesIn_append, bytesIn_cons]
    rw [← bytesIn_transmitted seg sent]
  refine SendQueue.of_sameStream ?_ same
  by_cases unsent : seg.xmit = 0
  · rw [if_pos unsent] at unsentLast sentTo inFlight
    rcases parts_transmitted_of_unsent frontSent few unsentLast sent with ⟨newSent, newUnsent⟩
    have minimum : min sent seg.len = sent := if_pos (le_iff_toNat_le.mpr inside)
    refine ⟨queue.valid, queue.capacity, newTiles, newTotal, newUnsent, ?_, ?_⟩
    all_goals dsimp only
    all_goals rw [if_pos unsent]
    · rw [newSent, sentTo, minimum]
      simp [add_assoc]
    · apply recover_advance _ queue.recover
      rw [inFlight]
      simp only [bytesIn_append, bytesIn_cons, bytesIn_nil] at small ⊢
      omega
  · rw [if_neg unsent] at unsentLast sentTo
    rcases parts_transmitted_of_sent frontSent few unsent sent back with ⟨newSent, newUnsent⟩
    refine ⟨queue.valid, queue.capacity, newTiles, newTotal, ?_, ?_, ?_⟩
    all_goals dsimp only
    · rw [newUnsent]
      exact unsentLast
    · rw [if_neg unsent, newSent, sentTo]
      simp [extent_transmitted]
    · rw [if_neg unsent]
      exact queue.recover

/-- What may be sent is buffered and not sent yet, and fits a packet and the window. -/
theorem sendableBytes_le (tcp : PseudoTcp) :
    tcp.sendableBytes.toNat ≤
        (UInt32.ofNat tcp.sbuf.getBuffered - (tcp.sndNxt - tcp.sndUna)).toNat ∧
      tcp.sendableBytes.toNat ≤ tcp.mss.toNat ∧
      (tcp.sendableBytes ≠ 0 →
        (tcp.sndNxt - tcp.sndUna).toNat + tcp.sendableBytes.toNat ≤ tcp.sndWnd.toNat) := by
  unfold sendableBytes
  dsimp only
  generalize (if tcp.dupAcks = 1 ∨ tcp.dupAcks = 2 then _ else _ : UInt32) = cwnd
  generalize tcp.sndNxt - tcp.sndUna = inFlight
  generalize UInt32.ofNat tcp.sbuf.getBuffered - inFlight = unsent
  have window : (min tcp.sndWnd cwnd).toNat ≤ tcp.sndWnd.toNat := by
    rw [UInt32.toNat_min]
    omega
  have available : (min unsent tcp.mss).toNat ≤ unsent.toNat ∧
      (min unsent tcp.mss).toNat ≤ tcp.mss.toNat := by
    rw [UInt32.toNat_min]
    omega
  generalize min tcp.sndWnd cwnd = nWindow at window ⊢
  generalize min unsent tcp.mss = nAvailable at available ⊢
  have useable : (if inFlight < nWindow then nWindow - inFlight else 0) = 0 ∨
      inFlight.toNat + (if inFlight < nWindow then nWindow - inFlight else 0).toNat =
        nWindow.toNat := by
    split
    next inside =>
      have order := lt_iff_toNat_lt.mp inside
      right
      rw [UInt32.toNat_sub_of_le _ _ (UInt32.le_of_lt inside)]
      omega
    next => exact .inl rfl
  generalize (if inFlight < nWindow then nWindow - inFlight else 0) = nUseable at useable ⊢
  have notZero : nUseable ≠ 0 → inFlight.toNat + nUseable.toNat = nWindow.toNat :=
    useable.resolve_left
  split
  next fewer =>
    rw [lt_iff_toNat_lt] at fewer
    split
    · simp
    · refine ⟨by omega, by omega, fun more => ?_⟩
      have equal := notZero more
      omega
  next enough =>
    rw [UInt32.not_lt, le_iff_toNat_le] at enough
    refine ⟨available.1, available.2, fun more => ?_⟩
    have positive : 0 < nAvailable.toNat :=
      Nat.pos_of_ne_zero fun wrong => more (UInt32.toNat_inj.mp wrong)
    have equal := notZero fun wrong => by simp [wrong] at enough; omega
    omega

theorem SendQueue.exists_unsent {tcp : PseudoTcp} (queue : SendQueue tcp)
    (sendable : tcp.sendableBytes ≠ 0) :
    ∃ seg back, tcp.slist = sentPart tcp.slist ++ seg :: back ∧
      (∀ piece ∈ seg :: back, piece.xmit = 0) ∧
      tcp.slist.findIdx (·.xmit = 0) = (sentPart tcp.slist).length := by
  have parts := sentPart_append_unsentPart tcp.slist
  have unsentLast := queue.unsentLast
  have unsentBytes := (sendableBytes_le tcp).1
  rw [getBuffered] at unsentBytes
  have positive : 0 < tcp.sendableBytes.toNat :=
    Nat.pos_of_ne_zero fun wrong => sendable (UInt32.toNat_inj.mp wrong)
  cases unsent : unsentPart tcp.slist with
  | nil =>
    -- Everything that is buffered is in flight.
    rw [unsent, append_nil] at parts
    have all := queue.toNat_inFlight
    rw [parts, queue.total] at all
    rw [← all, UInt32.ofNat_toNat, sub_self] at unsentBytes
    simp at unsentBytes
    omega
  | cons seg back =>
    rw [unsent] at parts unsentLast
    refine ⟨seg, back, parts.symm, unsentLast, ?_⟩
    have isUnsent : seg.xmit = 0 := unsentLast seg (by simp)
    conv_lhs => rw [← parts]
    rw [findIdx_append, findIdx_eq_length_of_false (by
      intro piece member
      simpa using xmit_of_mem_sentPart member)]
    simp [findIdx_cons, isUnsent]

/-- Cutting the segment that is sent next keeps the queue. -/
theorem sendQueue_prepareNext {tcp : PseudoTcp} (queue : SendQueue tcp)
    {seg : SSegment} {back : List SSegment}
    (slist : tcp.slist = sentPart tcp.slist ++ seg :: back)
    (unsent : ∀ piece ∈ seg :: back, piece.xmit = 0)
    (index : tcp.slist.findIdx (·.xmit = 0) = (sentPart tcp.slist).length) :
    tcp.prepareNext.slist = sentPart tcp.slist ++ (cut seg tcp.sendableBytes ++ back) ∧
      SendQueue tcp.prepareNext := by
  have frontSent : ∀ piece ∈ sentPart tcp.slist, piece.xmit ≠ 0 :=
    fun piece => xmit_of_mem_sentPart
  have newSlist : tcp.prepareNext.slist =
      sentPart tcp.slist ++ (cut seg tcp.sendableBytes ++ back) := by
    have split := splitSegment_append (sentPart tcp.slist) back seg tcp.sendableBytes
    rw [← slist] at split
    rw [prepareNext, index]
    exact split
  rcases cut_eq_cons seg tcp.sendableBytes with ⟨rest, pieces, same⟩
  have newUnsent : ∀ piece ∈ cut seg tcp.sendableBytes ++ back, piece.xmit = 0 := by
    rw [pieces]
    intro piece member
    rcases mem_append.mp member with member | member
    · rcases mem_cons.mp member with rfl | member
      · exact unsent seg (by simp)
      · exact (same piece member).trans (unsent seg (by simp))
    · exact unsent piece (by simp [member])
  have tiles := queue.tiles
  have total := queue.total
  rw [slist] at tiles total
  refine ⟨newSlist, queue.valid, queue.capacity, ?_, ?_, ?_, ?_, queue.recover⟩
  · rw [newSlist]
    have segStart := start_eq_of_tiles _ _ tiles
    rw [show seg :: back = [seg] ++ back from rfl] at tiles
    refine tiles_replace _ _ ?_ ?_ tiles
    · simp [extent_cut]
    · exact segStart ▸ tiles_cut seg _
  · rw [newSlist]
    change _ = tcp.sbuf.dataLength
    rw [← total]
    simp only [bytesIn_append, bytesIn_cons]
    rw [← bytesIn_cut seg tcp.sendableBytes]
  · rw [newSlist, unsentPart_append frontSent, unsentPart_eq_self newUnsent]
    exact newUnsent
  · rw [newSlist, sentPart_append frontSent, sentPart_eq_nil newUnsent, append_nil]
    exact queue.sentTo

theorem sendQueue_attemptSend {tcp : PseudoTcp} (queue : SendQueue tcp) (sflags : SendFlags) :
    SendQueue (attemptSend env sflags tcp) := by
  apply attemptSend_induction env _ _ _ _ queue
  · exact fun before after same _ held => held.of_sameStream same
  · exact fun sflags tcp held => held.of_sameStream (sendAck_spec env sflags tcp).1
  · intro now tcp held sendable
    rcases held.exists_unsent sendable with ⟨seg, back, slist, unsent, index⟩
    rcases sendQueue_prepareNext held slist unsent index with ⟨newSlist, prepared⟩
    rcases cut_eq_cons seg tcp.sendableBytes with ⟨rest, pieces, -⟩
    rw [pieces, cons_append] at newSlist
    rw [index]
    exact sendQueue_transmit env prepared newSlist (fun piece => xmit_of_mem_sentPart) now

theorem write_eq {fifo : FifoBuffer} (valid : fifo.Valid) (source : Nat → UInt8) (bytes : Nat) :
    (fifo.write source bytes).2.bufferLength = fifo.bufferLength ∧
      (fifo.write source bytes).2.readPosition = fifo.readPosition ∧
      (fifo.write source bytes).2.dataLength =
        fifo.dataLength + min bytes (fifo.bufferLength - fifo.dataLength) := by
  have inside := valid.dataLength_le
  unfold FifoBuffer.write writeOffset
  split
  next result written =>
    split at written
    · exact ⟨rfl, rfl, by dsimp only; omega⟩
    · simp at written
  next copy after written =>
    split at written
    · simp at written
    · rcases Prod.mk.inj written with ⟨copied, rfl⟩
      have copied := Option.some.inj copied
      refine ⟨rfl, rfl, ?_⟩
      dsimp only
      omega

theorem sendQueue_queue {tcp : PseudoTcp} (queued : SendQueue tcp) (data : Nat → UInt8)
    (len : UInt32) (bCtrl : Bool) : SendQueue (queue data len bCtrl tcp).2 := by
  unfold queue
  dsimp only
  have capacity := queued.capacity
  have inside := queued.valid.dataLength_le
  have total := queued.total
  have remaining := getWriteRemaining_eq queued.valid
  have room : (UInt32.ofNat tcp.sbuf.getWriteRemaining).toNat =
      tcp.sbuf.bufferLength - tcp.sbuf.dataLength := by
    rw [remaining, toNat_ofNat']
    omega
  have fits : (if UInt32.ofNat tcp.sbuf.getWriteRemaining < len then
      UInt32.ofNat tcp.sbuf.getWriteRemaining else len).toNat ≤
        tcp.sbuf.bufferLength - tcp.sbuf.dataLength := by
    split
    · exact room.le
    next fits =>
      rw [UInt32.not_lt, le_iff_toNat_le] at fits
      omega
  generalize (if UInt32.ofNat tcp.sbuf.getWriteRemaining < len then _ else _ : UInt32) = len
    at fits ⊢
  rcases write_eq queued.valid data len.toNat with ⟨bufferLength, readPosition, dataLength⟩
  rw [Nat.min_eq_left fits] at dataLength
  rcases sentPart_appendSegment (tcp.sndUna + UInt32.ofNat tcp.sbuf.getBuffered) len bCtrl
    queued.unsentLast with ⟨sent, unsent⟩
  refine ⟨⟨?_, ?_, ?_⟩, ?_, ?_, ?_, unsent, ?_, queued.recover⟩
  · exact bufferLength ▸ queued.valid.positive
  · dsimp only
    omega
  · exact bufferLength ▸ readPosition ▸ queued.valid.readPosition_lt
  · exact bufferLength ▸ capacity
  · exact tiles_appendSegment queued.tiles queued.end_eq
  · dsimp only
    rw [bytesIn_appendSegment (by omega), dataLength, total]
  · dsimp only
    rw [sent]
    exact queued.sentTo

end ZyWebRtc.PseudoTcp
