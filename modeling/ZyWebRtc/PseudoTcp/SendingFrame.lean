import ZyWebRtc.PseudoTcp.Sending

namespace ZyWebRtc.PseudoTcp

/-! What the writing of packets changes: clocks, congestion control and the network,
and none of the members that say where the streams stand. -/

variable (env : Environment)

/-- The members that say where the streams stand are the same. -/
structure SameStream (before after : PseudoTcp) : Prop where
  toIncoming : after.toIncoming = before.toIncoming
  slist : after.slist = before.slist
  sndNxt : after.sndNxt = before.sndNxt
  sndUna : after.sndUna = before.sndUna
  sndWnd : after.sndWnd = before.sndWnd
  swndScale : after.swndScale = before.swndScale
  sbuf : after.sbuf = before.sbuf
  state : after.state = before.state
  shutdown : after.shutdown = before.shutdown
  conv : after.conv = before.conv
  recover : after.recover = before.recover
  rtoBase : after.rtoBase = before.rtoBase
  supportWndScale : after.supportWndScale = before.supportWndScale
  mss : 0 < before.mss → 0 < after.mss

namespace SameStream

theorem refl (tcp : PseudoTcp) : SameStream tcp tcp :=
  ⟨rfl, rfl, rfl, rfl, rfl, rfl, rfl, rfl, rfl, rfl, rfl, rfl, rfl, id⟩

theorem trans {first second third : PseudoTcp} (front : SameStream first second)
    (back : SameStream second third) : SameStream first third where
  toIncoming := back.toIncoming.trans front.toIncoming
  slist := back.slist.trans front.slist
  sndNxt := back.sndNxt.trans front.sndNxt
  sndUna := back.sndUna.trans front.sndUna
  sndWnd := back.sndWnd.trans front.sndWnd
  swndScale := back.swndScale.trans front.swndScale
  sbuf := back.sbuf.trans front.sbuf
  state := back.state.trans front.state
  shutdown := back.shutdown.trans front.shutdown
  conv := back.conv.trans front.conv
  recover := back.recover.trans front.recover
  rtoBase := back.rtoBase.trans front.rtoBase
  supportWndScale := back.supportWndScale.trans front.supportWndScale
  mss := fun positive => back.mss (front.mss positive)

end SameStream

/-- At most one packet was added to the network, with this header and payload. -/
def Emits (env : Environment) (seq : UInt32) (flags : UInt8) (offset len : UInt32)
    (before after : PseudoTcp) : Prop :=
  after.packets = before.packets ∨ ∃ source, SameStream before source ∧
    after.packets = before.packets ++ [packetBytes env seq flags offset len source]

section

variable (seq : UInt32) (flags : UInt8) (offset len : UInt32) (tcp : PseudoTcp)

theorem packet_sameStream : SameStream tcp (packet env seq flags offset len tcp).2 := by
  unfold packet
  dsimp only
  split <;> exact ⟨rfl, rfl, rfl, rfl, rfl, rfl, rfl, rfl, rfl, rfl, rfl, rfl, rfl, id⟩

theorem packet_emits :
    Emits env seq flags offset len tcp (packet env seq flags offset len tcp).2 := by
  unfold packet Emits
  dsimp only [tick]
  by_cases written : env.tcpWritePacket tcp.writes = .success
  · exact .inr ⟨tcp, SameStream.refl tcp, by simp [written]⟩
  · left
    simp [written, apply_ite]

theorem packet_packets_of_ne_success (failed : (packet env seq flags offset len tcp).1 ≠ .success) :
    (packet env seq flags offset len tcp).2.packets = tcp.packets := by
  unfold packet at failed ⊢
  dsimp only [tick] at failed ⊢
  split at failed
  next condition => simp [condition]
  next => exact absurd rfl failed

end

/-! ## `transmit` -/

theorem packetMaximum_cases (level : Nat) :
    packetMaximum level = 0 ∨ packetOverhead < packetMaximum level := by
  rcases Nat.lt_or_ge level packetMaximums.length with inside | outside
  · have all : ∀ level < packetMaximums.length,
        packetMaximum level = 0 ∨ packetOverhead < packetMaximum level := by decide
    exact all level inside
  · left
    simp [packetMaximum, List.getElem?_eq_none outside]

theorem mss_pos {level : Nat} (more : packetMaximum level ≠ 0) :
    0 < packetMaximum level - packetOverhead := by
  have larger := (packetMaximum_cases level).resolve_left more
  simp only [UInt32.lt_iff_toNat_lt] at larger ⊢
  rw [UInt32.toNat_sub_of_le _ _ (UInt32.le_iff_toNat_le.mpr (Nat.le_of_lt larger))]
  change 0 < _ - _
  omega

theorem reduceMss_spec (fuel : Nat) (nTransmit : UInt32) (tcp : PseudoTcp) :
    SameStream tcp (reduceMss fuel nTransmit tcp).2 ∧
      (reduceMss fuel nTransmit tcp).2.packets = tcp.packets ∧
      ∀ mss, (reduceMss fuel nTransmit tcp).1 = some mss → 0 < mss ∧ mss < nTransmit := by
  induction fuel generalizing tcp with
  | zero => exact ⟨SameStream.refl tcp, rfl, nofun⟩
  | succ fuel induction =>
    rw [reduceMss]
    split
    · exact ⟨SameStream.refl tcp, rfl, nofun⟩
    next more =>
      dsimp only
      have reduced : SameStream tcp { tcp with
          msslevel := tcp.msslevel + 1
          mss := packetMaximum (tcp.msslevel + 1) - packetOverhead
          cwnd := 2 * (packetMaximum (tcp.msslevel + 1) - packetOverhead) } :=
        ⟨rfl, rfl, rfl, rfl, rfl, rfl, rfl, rfl, rfl, rfl, rfl, rfl, rfl, fun _ => mss_pos more⟩
      split
      next smaller =>
        refine ⟨reduced, rfl, ?_⟩
        rintro mss found
        rw [← Option.some.inj found]
        exact ⟨mss_pos more, smaller⟩
      next =>
        rcases induction { tcp with
          msslevel := tcp.msslevel + 1
          mss := packetMaximum (tcp.msslevel + 1) - packetOverhead
          cwnd := 2 * (packetMaximum (tcp.msslevel + 1) - packetOverhead) }
          with ⟨same, packets, bounds⟩
        exact ⟨reduced.trans same, packets, bounds⟩

/-- The loop writes the front of the segment, at most as much as it was asked for. -/
theorem transmitLoop_spec (seg : SSegment) (fuel : Nat) (nTransmit : UInt32) (tcp : PseudoTcp) :
    SameStream tcp (transmitLoop env seg fuel nTransmit tcp).2 ∧
      ((transmitLoop env seg fuel nTransmit tcp).1 = none ∧
          (transmitLoop env seg fuel nTransmit tcp).2.packets = tcp.packets ∨
        ∃ sent, (transmitLoop env seg fuel nTransmit tcp).1 = some sent ∧ sent ≤ nTransmit ∧
          (0 < nTransmit → 0 < sent) ∧
          Emits env seg.seq (if seg.bCtrl then flagCtl else 0) (seg.seq - tcp.sndUna) sent tcp
            (transmitLoop env seg fuel nTransmit tcp).2) := by
  induction fuel generalizing nTransmit tcp with
  | zero => exact ⟨SameStream.refl tcp, .inl ⟨rfl, rfl⟩⟩
  | succ fuel induction =>
    rw [transmitLoop]
    have written := packet_sameStream env seg.seq (if seg.bCtrl then flagCtl else 0)
      (seg.seq - tcp.sndUna) nTransmit tcp
    have emits := packet_emits env seg.seq (if seg.bCtrl then flagCtl else 0)
      (seg.seq - tcp.sndUna) nTransmit tcp
    have failed := packet_packets_of_ne_success env seg.seq
      (if seg.bCtrl then flagCtl else 0) (seg.seq - tcp.sndUna) nTransmit tcp
    revert written emits failed
    generalize packet env seg.seq _ (seg.seq - tcp.sndUna) nTransmit tcp = outcome
    rcases outcome with ⟨result, after⟩
    intro written emits failed
    rcases result with _ | _ | _
    · exact ⟨written, .inr ⟨nTransmit, rfl, UInt32.le_refl _, id, emits⟩⟩
    · dsimp only
      have reduced := reduceMss_spec packetMaximums.length nTransmit after
      revert reduced
      generalize reduceMss packetMaximums.length nTransmit after = outcome
      rcases outcome with ⟨_ | mss, smaller⟩ <;> rintro ⟨same, packets, bounds⟩
      · exact ⟨written.trans same, .inl ⟨rfl, packets.trans (failed nofun)⟩⟩
      · have reach := written.trans same
        have none_sent : smaller.packets = tcp.packets := packets.trans (failed nofun)
        rcases bounds mss rfl with ⟨positive, shorter⟩
        rcases induction mss smaller with ⟨last, outcome⟩
        refine ⟨reach.trans last, ?_⟩
        rcases outcome with ⟨result, unsent⟩ | ⟨sent, result, bound, progress, emits⟩
        · exact .inl ⟨result, unsent.trans none_sent⟩
        · refine .inr ⟨sent, result, UInt32.le_trans bound (UInt32.le_of_lt shorter),
            fun _ => progress positive, ?_⟩
          rw [Emits, none_sent, reach.sndUna] at emits
          rcases emits with unsent | ⟨source, sameSource, added⟩
          · exact .inl unsent
          · exact .inr ⟨source, reach.trans sameSource, added⟩
    · exact ⟨written, .inl ⟨rfl, failed nofun⟩⟩

/-- The segment in two pieces, unless it is not longer than the first one. -/
def cut (seg : SSegment) (len : UInt32) : List SSegment :=
  if len < seg.len then
    [{ seg with len }, { seg with seq := seg.seq + len, len := seg.len - len }]
  else [seg]

theorem splitSegment_append (front back : List SSegment) (seg : SSegment) (len : UInt32) :
    splitSegment front.length len (front ++ seg :: back) = front ++ (cut seg len ++ back) := by
  rw [splitSegment, cut, List.getElem?_append_right (Nat.le_refl _), Nat.sub_self]
  dsimp only [List.getElem?_cons_zero]
  split
  · simp [List.drop_append]
  · simp

theorem countTransmission_append (front back : List SSegment) (seg : SSegment) :
    countTransmission front.length (front ++ seg :: back) =
      front ++ { seg with xmit := seg.xmit + 1 } :: back := by
  rw [countTransmission]
  induction front with
  | nil => rfl
  | cons head front induction => simpa using induction

def transmitted (seg : SSegment) (sent : UInt32) : List SSegment :=
  countTransmission 0 (cut seg sent)

/-- What `transmit` does to a segment of the send queue: nothing when it fails, else
the front of the segment is on the network once more. -/
theorem transmit_cases {tcp : PseudoTcp} {front back : List SSegment} {seg : SSegment}
    (slist : tcp.slist = front ++ seg :: back) (now : UInt32) :
    ((transmit env front.length now tcp).1 = false ∧
        SameStream tcp (transmit env front.length now tcp).2 ∧
        (transmit env front.length now tcp).2.packets = tcp.packets) ∨
      ∃ sent, (transmit env front.length now tcp).1 = true ∧ seg.xmit < 30 ∧
        sent ≤ min seg.len tcp.mss ∧ (0 < min seg.len tcp.mss → 0 < sent) ∧
        SameStream { tcp with
          slist := front ++ (transmitted seg sent ++ back)
          sndNxt := if seg.xmit = 0 then tcp.sndNxt + sent else tcp.sndNxt
          rtoBase := if tcp.rtoBase = 0 then now else tcp.rtoBase }
          (transmit env front.length now tcp).2 ∧
        Emits env seg.seq (if seg.bCtrl then flagCtl else 0) (seg.seq - tcp.sndUna) sent tcp
          (transmit env front.length now tcp).2 := by
  have found : tcp.slist[front.length]? = some seg := by simp [slist]
  have limit_le : (if tcp.state = .established then 15 else 30 : UInt8) ≤ 30 := by
    split <;> decide
  revert limit_le
  rw [transmit, found]
  dsimp only
  generalize (if tcp.state = .established then 15 else 30 : UInt8) = limit
  intro limit_le
  split
  · exact .inl ⟨rfl, SameStream.refl tcp, rfl⟩
  next few =>
    have written := transmitLoop_spec env seg packetMaximums.length
      (min seg.len tcp.mss) tcp
    revert written
    generalize transmitLoop env seg packetMaximums.length (min seg.len tcp.mss) tcp = outcome
    rcases outcome with ⟨_ | sent, after⟩
    · rintro ⟨same, ⟨-, packets⟩ | ⟨sent, wrong, -⟩⟩
      · exact .inl ⟨rfl, same, packets⟩
      · exact absurd wrong nofun
    · rintro ⟨same, ⟨wrong, -⟩ | ⟨sent', result, bound, progress, emits⟩⟩
      · exact absurd wrong nofun
      · rcases Option.some.inj result
        have inside : sent ≤ seg.len := by
          rw [UInt32.le_iff_toNat_le, UInt32.toNat_min] at bound
          exact UInt32.le_iff_toNat_le.mpr (by omega)
        refine .inr ⟨sent, rfl, ?_, bound, progress, ?_, emits⟩
        · exact UInt8.lt_of_lt_of_le (UInt8.not_le.mp few) limit_le
        · have slist' : countTransmission front.length (splitSegment front.length sent after.slist) =
              front ++ (transmitted seg sent ++ back) := by
            rw [same.slist, slist, splitSegment_append, transmitted, cut]
            split <;> exact countTransmission_append _ _ _
          have minimum : min sent seg.len = sent := if_pos inside
          dsimp only
          rw [slist', minimum, same.sndNxt, same.rtoBase]
          exact { same with slist := rfl, sndNxt := rfl, rtoBase := rfl }

theorem sendAck_spec (sflags : SendFlags) (tcp : PseudoTcp) :
    SameStream tcp (sendAck env sflags tcp) ∧
      Emits env tcp.sndNxt 0 0 0 tcp (sendAck env sflags tcp) := by
  have acked := packet_sameStream env tcp.sndNxt 0 0 0 tcp
  have emits := packet_emits env tcp.sndNxt 0 0 0 tcp
  unfold sendAck
  split
  · exact ⟨SameStream.refl tcp, .inl rfl⟩
  · exact ⟨acked, emits⟩
  · split
    · exact ⟨acked, emits⟩
    · exact ⟨⟨rfl, rfl, rfl, rfl, rfl, rfl, rfl, rfl, rfl, rfl, rfl, rfl, rfl, id⟩, .inl rfl⟩

/-- The first segment that was not sent yet, cut to the bytes that may be sent. -/
def prepareNext (tcp : PseudoTcp) : PseudoTcp :=
  { tcp with
    slist := splitSegment (tcp.slist.findIdx (·.xmit = 0)) tcp.sendableBytes tcp.slist }

/-- What an acknowledgement and each transmission of a segment preserve, the whole
loop preserves. -/
theorem attemptSendLoop_induction {holds : PseudoTcp → Prop} {now : UInt32}
    (ack : ∀ sflags tcp, holds tcp → holds (sendAck env sflags tcp))
    (round : ∀ tcp, holds tcp → tcp.sendableBytes ≠ 0 →
      holds (transmit env (tcp.slist.findIdx (·.xmit = 0)) now tcp.prepareNext).2)
    (fuel : Nat) (sflags : SendFlags) {tcp : PseudoTcp} (start : holds tcp) :
    holds (attemptSendLoop env now fuel sflags tcp) := by
  induction fuel generalizing sflags tcp with
  | zero => exact start
  | succ fuel induction =>
    rw [attemptSendLoop]
    dsimp only
    split
    · exact ack sflags tcp start
    next some_bytes =>
      split
      · exact start
      · have next := round tcp start some_bytes
        revert next
        rw [prepareNext]
        generalize transmit env _ now _ = outcome
        rcases outcome with ⟨_ | _, after⟩
        · exact id
        · exact induction .none

theorem attemptSend_induction {holds : PseudoTcp → Prop}
    (same : ∀ before after, SameStream before after → after.packets = before.packets →
      holds before → holds after)
    (ack : ∀ sflags tcp, holds tcp → holds (sendAck env sflags tcp))
    (round : ∀ now tcp, holds tcp → tcp.sendableBytes ≠ 0 →
      holds (transmit env (tcp.slist.findIdx (·.xmit = 0)) now tcp.prepareNext).2)
    (sflags : SendFlags) {tcp : PseudoTcp} (start : holds tcp) :
    holds (attemptSend env sflags tcp) := by
  unfold attemptSend
  apply attemptSendLoop_induction env ack (round _)
  refine same tcp _ ?_ ?_ start
  · split <;> exact ⟨rfl, rfl, rfl, rfl, rfl, rfl, rfl, rfl, rfl, rfl, rfl, rfl, rfl, id⟩
  · split <;> rfl

/-- The members that the data of a segment meets are the same. -/
structure SameReceiver (before after : PseudoTcp) : Prop where
  toIncoming : after.toIncoming = before.toIncoming
  sndUna : after.sndUna = before.sndUna
  shutdown : after.shutdown = before.shutdown

theorem SameReceiver.trans {first second third : PseudoTcp} (front : SameReceiver first second)
    (back : SameReceiver second third) : SameReceiver first third :=
  ⟨back.toIncoming.trans front.toIncoming, back.sndUna.trans front.sndUna,
    back.shutdown.trans front.shutdown⟩

theorem SameStream.sameReceiver {before after : PseudoTcp} (same : SameStream before after) :
    SameReceiver before after := ⟨same.toIncoming, same.sndUna, same.shutdown⟩

theorem transmit_sameReceiver (index : Nat) (now : UInt32) (tcp : PseudoTcp) :
    SameReceiver tcp (transmit env index now tcp).2 := by
  rcases Nat.lt_or_ge index tcp.slist.length with inside | outside
  · have slist := (List.take_append_drop index tcp.slist).symm
    rw [List.drop_eq_getElem_cons inside] at slist
    have position : (tcp.slist.take index).length = index := by simp; omega
    rcases transmit_cases env slist now with ⟨-, same, -⟩ | ⟨sent, -, -, -, -, same, -⟩
    all_goals
      rw [position] at same
      exact ⟨same.toIncoming, same.sndUna, same.shutdown⟩
  · rw [transmit, List.getElem?_eq_none outside]
    exact ⟨rfl, rfl, rfl⟩

theorem attemptSend_sameReceiver (sflags : SendFlags) (tcp : PseudoTcp) :
    SameReceiver tcp (attemptSend env sflags tcp) := by
  apply attemptSend_induction env _ _ _ _ ⟨rfl, rfl, rfl⟩
  · exact fun before after same _ held => held.trans same.sameReceiver
  · exact fun sflags middle held => held.trans (sendAck_spec env sflags middle).1.sameReceiver
  · intro now middle held _
    have prepared : SameReceiver middle middle.prepareNext := ⟨rfl, rfl, rfl⟩
    exact (held.trans prepared).trans (transmit_sameReceiver env _ _ _)

end ZyWebRtc.PseudoTcp
