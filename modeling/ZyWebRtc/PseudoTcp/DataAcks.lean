import ZyWebRtc.PseudoTcp.SendQueueSafety

namespace ZyWebRtc.PseudoTcp

/-! Whether the data of a segment are acknowledged, now or by the timer. -/

open List

variable (env : Environment)

/-! ## Packet sizes -/

/-- How many of the smaller packet sizes are left for a packet that is too large. -/
def smallerSizes (level : Nat) (size : UInt32) : Nat :=
  ((packetMaximums.drop (level + 1)).filter fun maximum =>
    maximum ≠ 0 ∧ maximum - packetOverhead < size).length

/-- The network takes the packet in one of the sizes in which it is tried. A packet without data
counts as taken. -/
def TakesPacket (writes level : Nat) (size : UInt32) : Prop :=
  size = 0 ∨ ∃ tries ≤ smallerSizes level size,
    (∀ earlier < tries, env.tcpWritePacket (writes + earlier) = .tooLarge) ∧
      env.tcpWritePacket (writes + tries) = .success

theorem drop_of_packetMaximum_eq_zero {level : Nat} (last : packetMaximum level = 0) :
    packetMaximums.drop level = [0] ∨ packetMaximums.drop level = [] := by
  rcases Nat.lt_or_ge level packetMaximums.length with inside | outside
  · have all : ∀ level < packetMaximums.length, packetMaximum level = 0 →
        packetMaximums.drop level = [0] ∨ packetMaximums.drop level = [] := by decide
    exact all level inside last
  · exact .inr (drop_eq_nil_of_le outside)

theorem drop_packetMaximums {level : Nat} (more : packetMaximum level ≠ 0) :
    packetMaximums.drop level = packetMaximum level :: packetMaximums.drop (level + 1) := by
  rcases Nat.lt_or_ge level packetMaximums.length with inside | outside
  · have all : ∀ level < packetMaximums.length, packetMaximums.drop level =
        packetMaximum level :: packetMaximums.drop (level + 1) := by decide
    exact all level inside
  · rw [packetMaximum, getD_eq_getElem?_getD, List.getElem?_eq_none outside] at more
    exact absurd rfl more

theorem smaller_of_mem_drop {level : Nat} (more : packetMaximum level ≠ 0) {maximum : UInt32}
    (behind : maximum ∈ packetMaximums.drop (level + 1)) (nonzero : maximum ≠ 0) :
    maximum - packetOverhead < packetMaximum level - packetOverhead := by
  rcases Nat.lt_or_ge level packetMaximums.length with inside | outside
  · have all : ∀ level < packetMaximums.length,
        (packetMaximums.drop (level + 1)).all (fun maximum => maximum = 0 ∨
          maximum - packetOverhead < packetMaximum level - packetOverhead) = true := by decide
    have smaller := List.all_eq_true.mp (all level inside) maximum behind
    exact (of_decide_eq_true smaller).resolve_left nonzero
  · rw [packetMaximum, getD_eq_getElem?_getD, List.getElem?_eq_none outside] at more
    exact absurd rfl more

/-- The next smaller size is the first one of those that are left. -/
theorem reduceMss_sizes (fuel : Nat) (nTransmit : UInt32) (tcp : PseudoTcp)
    (enough : (packetMaximums.drop (tcp.msslevel + 1)).length ≤ fuel) :
    (reduceMss fuel nTransmit tcp).2.writes = tcp.writes ∧
      ((reduceMss fuel nTransmit tcp).1 = none → smallerSizes tcp.msslevel nTransmit = 0) ∧
      ∀ mss, (reduceMss fuel nTransmit tcp).1 = some mss → smallerSizes tcp.msslevel nTransmit =
          smallerSizes (reduceMss fuel nTransmit tcp).2.msslevel mss + 1 := by
  induction fuel generalizing tcp with
  | zero =>
    refine ⟨rfl, fun _ => ?_, nofun⟩
    rw [smallerSizes, eq_nil_of_length_eq_zero (Nat.le_zero.mp enough)]
    rfl
  | succ fuel induction =>
    rw [reduceMss]
    split
    next last =>
      refine ⟨rfl, fun _ => ?_, by rintro mss ⟨⟩⟩
      rw [smallerSizes]
      rcases drop_of_packetMaximum_eq_zero last with only | none
      · rw [only]
        rfl
      · rw [none]
        rfl
    next more =>
      have sizes := drop_packetMaximums more
      rw [sizes, length_cons] at enough
      dsimp only
      split
      next smaller =>
        refine ⟨rfl, by rintro ⟨⟩, ?_⟩
        intro mss found
        rw [← Option.some.inj found, smallerSizes, sizes,
          filter_cons_of_pos (by simp [more, smaller]), length_cons, smallerSizes]
        congr 2
        apply filter_congr
        intro maximum behind
        apply decide_eq_decide.mpr
        apply and_congr_right
        intro nonzero
        have less := smaller_of_mem_drop more behind nonzero
        exact iff_of_true (UInt32.lt_trans less smaller) less
      next notSmaller =>
        have skipped : smallerSizes tcp.msslevel nTransmit =
            smallerSizes (tcp.msslevel + 1) nTransmit := by
          rw [smallerSizes, sizes, filter_cons_of_neg (by simp [notSmaller])]
          rfl
        rw [skipped]
        exact induction _ (Nat.le_of_succ_le_succ enough)

/-! ## What is noted about a packet -/

theorem packet_outgoing (seq : UInt32) (flags : UInt8) (offset len : UInt32) (tcp : PseudoTcp) :
    ((packet env seq flags offset len tcp).1 = .success ∧
        (len = 0 ∨ env.tcpWritePacket tcp.writes = .success) ∧
        (packet env seq flags offset len tcp).2.bOutgoing = true) ∨
      ((packet env seq flags offset len tcp).1 = env.tcpWritePacket tcp.writes ∧
        env.tcpWritePacket tcp.writes ≠ .success ∧ len ≠ 0 ∧
        (packet env seq flags offset len tcp).2.writes = tcp.writes + 1 ∧
        (packet env seq flags offset len tcp).2.msslevel = tcp.msslevel ∧
        (packet env seq flags offset len tcp).2.bOutgoing = tcp.bOutgoing ∧
        (packet env seq flags offset len tcp).2.tAck = tcp.tAck) := by
  unfold packet
  dsimp only [tick]
  split
  next failed => exact .inr ⟨rfl, failed.1, failed.2, rfl, rfl, rfl, rfl⟩
  next written =>
    refine .inl ⟨rfl, ?_, rfl⟩
    by_cases empty : len = 0
    · exact .inl empty
    · exact .inr (by_contra fun failed => written ⟨failed, empty⟩)

theorem reduceMss_outgoing (fuel : Nat) (nTransmit : UInt32) (tcp : PseudoTcp) :
    (reduceMss fuel nTransmit tcp).2.bOutgoing = tcp.bOutgoing ∧
      (reduceMss fuel nTransmit tcp).2.tAck = tcp.tAck := by
  induction fuel generalizing tcp with
  | zero => exact ⟨rfl, rfl⟩
  | succ fuel induction =>
    rw [reduceMss]
    split
    · exact ⟨rfl, rfl⟩
    · dsimp only
      split
      · exact ⟨rfl, rfl⟩
      · exact induction _

theorem takesPacket_of_tooLarge {writes level nextLevel : Nat} {size next : UInt32}
    (tooLarge : env.tcpWritePacket writes = .tooLarge) (some_data : size ≠ 0)
    (some_next : next ≠ 0) (fewer : smallerSizes level size = smallerSizes nextLevel next + 1) :
    TakesPacket env writes level size ↔ TakesPacket env (writes + 1) nextLevel next := by
  constructor
  · rintro (empty | ⟨tries, few, earlier, success⟩)
    · exact absurd empty some_data
    · cases tries with
      | zero => exact absurd (tooLarge.symm.trans success) nofun
      | succ tries =>
        refine .inr ⟨tries, by omega, fun index before => ?_, ?_⟩
        · rw [Nat.add_assoc, Nat.add_comm 1]
          exact earlier (index + 1) (Nat.succ_lt_succ before)
        · rw [Nat.add_assoc, Nat.add_comm 1]
          exact success
  · rintro (empty | ⟨tries, few, earlier, success⟩)
    · exact absurd empty some_next
    · refine .inr ⟨tries + 1, by omega, fun index before => ?_, ?_⟩
      · cases index with
        | zero => exact tooLarge
        | succ index =>
          have reply := earlier index (Nat.lt_of_succ_lt_succ before)
          rw [Nat.add_assoc, Nat.add_comm 1] at reply
          exact reply
      · rw [Nat.add_assoc, Nat.add_comm 1] at success
        exact success

/-- The loop ends with a written packet exactly when the network takes it. -/
theorem transmitLoop_outgoing (seg : SSegment) (fuel : Nat) (nTransmit : UInt32) (tcp : PseudoTcp)
    (enough : smallerSizes tcp.msslevel nTransmit < fuel) :
    (TakesPacket env tcp.writes tcp.msslevel nTransmit ∧
        (transmitLoop env seg fuel nTransmit tcp).1.isSome ∧
        (transmitLoop env seg fuel nTransmit tcp).2.bOutgoing = true) ∨
      (¬TakesPacket env tcp.writes tcp.msslevel nTransmit ∧
        (transmitLoop env seg fuel nTransmit tcp).1 = none ∧
        (transmitLoop env seg fuel nTransmit tcp).2.bOutgoing = tcp.bOutgoing ∧
        (transmitLoop env seg fuel nTransmit tcp).2.tAck = tcp.tAck) := by
  induction fuel generalizing nTransmit tcp with
  | zero => exact absurd enough (Nat.not_lt_zero _)
  | succ fuel induction =>
    rw [transmitLoop]
    have outgoing := packet_outgoing env seg.seq (if seg.bCtrl then flagCtl else 0)
      (seg.seq - tcp.sndUna) nTransmit tcp
    revert outgoing
    generalize packet env seg.seq _ (seg.seq - tcp.sndUna) nTransmit tcp = outcome
    rcases outcome with ⟨result, after⟩
    rintro (⟨written, taken, noted⟩ | ⟨reply, refused, some_data, writes, level, bOutgoing, tAck⟩)
    · dsimp only at written noted ⊢
      rw [written]
      refine .inl ⟨?_, rfl, noted⟩
      rcases taken with empty | success
      · exact .inl empty
      · exact .inr ⟨0, Nat.zero_le _, fun _ none => absurd none (Nat.not_lt_zero _), success⟩
    · dsimp only at reply writes level bOutgoing tAck ⊢
      cases result with
      | success => exact absurd reply.symm refused
      | fail =>
        refine .inr ⟨?_, rfl, bOutgoing, tAck⟩
        rintro (empty | ⟨tries, _, tooLarge, success⟩)
        · exact some_data empty
        · cases tries with
          | zero => exact refused success
          | succ tries => cases reply.trans (tooLarge 0 tries.succ_pos)
      | tooLarge =>
        dsimp only
        have sizes := reduceMss_sizes packetMaximums.length nTransmit after (by
          rw [length_drop]
          exact Nat.sub_le _ _)
        have unchanged := reduceMss_outgoing packetMaximums.length nTransmit after
        have positive := (reduceMss_spec packetMaximums.length nTransmit after).2.2
        revert sizes unchanged positive
        generalize reduceMss packetMaximums.length nTransmit after = smaller
        rcases smaller with ⟨_ | mss, reduced⟩
        · rintro ⟨_, none_left, _⟩ ⟨sameOutgoing, sameAck⟩ _
          dsimp only at sameOutgoing sameAck ⊢
          refine .inr ⟨?_, rfl, sameOutgoing.trans bOutgoing, sameAck.trans tAck⟩
          rintro (empty | ⟨tries, few, _, success⟩)
          · exact some_data empty
          · rw [← level, none_left rfl, Nat.le_zero] at few
            rw [few] at success
            exact refused success
        · rintro ⟨sameWrites, _, oneFewer⟩ ⟨sameOutgoing, sameAck⟩ positive
          dsimp only at sameWrites oneFewer sameOutgoing sameAck ⊢
          have fewer := oneFewer mss rfl
          rw [level] at fewer
          rw [takesPacket_of_tooLarge env reply.symm some_data
            (UInt32.pos_iff_ne_zero.mp (positive mss rfl).1) fewer, ← writes, ← sameWrites]
          rcases induction mss reduced (by omega) with ⟨taken, some_sent, noted⟩ |
            ⟨refusedAll, none_sent, still, stillAck⟩
          · exact .inl ⟨taken, some_sent, noted⟩
          · exact .inr ⟨refusedAll, none_sent, still.trans (sameOutgoing.trans bOutgoing),
              stillAck.trans (sameAck.trans tAck)⟩

theorem smallerSizes_lt (level : Nat) (size : UInt32) :
    smallerSizes level size < packetMaximums.length := by
  refine (List.length_filter_le _ _).trans_lt ?_
  rw [length_drop]
  exact Nat.sub_lt (by decide) (Nat.succ_pos level)

theorem transmit_outgoing {index : Nat} {seg : SSegment} {tcp : PseudoTcp}
    (found : tcp.slist[index]? = some seg) (unsent : seg.xmit = 0) (now : UInt32) :
    (TakesPacket env tcp.writes tcp.msslevel (min seg.len tcp.mss) ∧
        (transmit env index now tcp).1 = true ∧
        (transmit env index now tcp).2.bOutgoing = true) ∨
      (¬TakesPacket env tcp.writes tcp.msslevel (min seg.len tcp.mss) ∧
        (transmit env index now tcp).1 = false ∧
        (transmit env index now tcp).2.bOutgoing = tcp.bOutgoing ∧
        (transmit env index now tcp).2.tAck = tcp.tAck) := by
  have few : ¬(if tcp.state = .established then 15 else 30 : UInt8) ≤ 0 := by
    split <;> decide
  rw [transmit, found]
  dsimp only
  rw [unsent, if_neg few]
  have outgoing := transmitLoop_outgoing env seg packetMaximums.length (min seg.len tcp.mss) tcp
    (smallerSizes_lt _ _)
  revert outgoing
  generalize transmitLoop env seg packetMaximums.length (min seg.len tcp.mss) tcp = outcome
  rcases outcome with ⟨_ | sent, after⟩
  · rintro (⟨_, wrong, _⟩ | ⟨refused, _, bOutgoing, tAck⟩)
    · exact absurd wrong Bool.false_ne_true
    · exact .inr ⟨refused, rfl, bOutgoing, tAck⟩
  · rintro (⟨taken, _, bOutgoing⟩ | ⟨_, wrong, _⟩)
    · exact .inl ⟨taken, rfl, bOutgoing⟩
    · cases wrong

/-- Nothing that is written later takes back that something was written. -/
theorem attemptSendLoop_bOutgoing (now : UInt32) (fuel : Nat) (sflags : SendFlags)
    {tcp : PseudoTcp} (outgoing : tcp.bOutgoing = true) :
    (attemptSendLoop env now fuel sflags tcp).bOutgoing = true := by
  have written : ∀ seq (before : PseudoTcp), before.bOutgoing = true →
      (packet env seq 0 0 0 before).2.bOutgoing = true := by
    intro seq before noted
    rcases packet_outgoing env seq 0 0 0 before with ⟨_, _, still⟩ | ⟨_, _, wrong, _⟩
    · exact still
    · exact absurd rfl wrong
  apply @attemptSendLoop_induction env (fun after => after.bOutgoing = true) now _ _ fuel sflags
    tcp outgoing
  · intro sflags before noted
    unfold sendAck
    split
    · exact noted
    · exact written _ before noted
    · split
      · exact written _ before noted
      · exact noted
  · intro before noted _
    cases found : before.prepareNext.slist[before.slist.findIdx (·.xmit = 0)]? with
    | none =>
      rw [transmit, found]
      exact noted
    | some seg =>
      have still : (transmitLoop env seg packetMaximums.length
          (min seg.len before.prepareNext.mss) before.prepareNext).2.bOutgoing = true := by
        rcases transmitLoop_outgoing env seg packetMaximums.length
          (min seg.len before.prepareNext.mss) before.prepareNext (smallerSizes_lt _ _) with
          ⟨_, _, written⟩ | ⟨_, _, unchanged, _⟩
        · exact written
        · exact unchanged.trans noted
      revert still
      rw [transmit, found]
      dsimp only
      generalize (if before.prepareNext.state = .established then 15 else 30 : UInt8) = limit
      generalize transmitLoop env seg packetMaximums.length
        (min seg.len before.prepareNext.mss) before.prepareNext = outcome
      rcases outcome with ⟨_ | sent, after⟩
      all_goals
        intro still
        split
        · exact noted
        · exact still

/-! ## The first round of `attemptSend` -/

def roundStart (tcp : PseudoTcp) : PseudoTcp :=
  { tcp.tick with
    cwnd :=
      if (tcp.rxRto.toNat : Int) < timeDiff (tcp.now env) tcp.lastsend then tcp.mss else tcp.cwnd }

/-- Nagle's algorithm holds a small segment back while others are in flight. -/
def HeldBack (tcp : PseudoTcp) : Prop :=
  tcp.useNagling = true ∧ tcp.sndUna < tcp.sndNxt ∧ tcp.sendableBytes < tcp.mss

/-- There is a segment that was not sent yet, and the network takes what may be sent of it. -/
def CanSend (tcp : PseudoTcp) : Prop :=
  ∃ seg, tcp.slist[tcp.slist.findIdx (·.xmit = 0)]? = some seg ∧
    TakesPacket env tcp.writes tcp.msslevel (min (min seg.len tcp.sendableBytes) tcp.mss)

section

variable (sflags : SendFlags)

theorem attemptSend_eq (tcp : PseudoTcp) :
    attemptSend env sflags tcp = attemptSendLoop env (tcp.now env)
      (2 * tcp.sbuf.dataLength + tcp.slist.length + 1) sflags (roundStart env tcp) := by
  unfold attemptSend roundStart
  dsimp only [tick]
  split <;> rfl

theorem attemptSend_nothing {tcp : PseudoTcp}
    (nothing : (roundStart env tcp).sendableBytes = 0) :
    attemptSend env sflags tcp = sendAck env sflags (roundStart env tcp) := by
  rw [attemptSend_eq, attemptSendLoop]
  dsimp only
  rw [if_pos nothing]

theorem attemptSend_heldBack {tcp : PseudoTcp}
    (some_bytes : (roundStart env tcp).sendableBytes ≠ 0)
    (heldBack : HeldBack (roundStart env tcp)) :
    attemptSend env sflags tcp = roundStart env tcp := by
  rw [attemptSend_eq, attemptSendLoop]
  dsimp only
  rw [if_neg some_bytes]
  exact if_pos heldBack

theorem splitSegment_getElem? {slist : List SSegment} {index : Nat} {seg : SSegment}
    (found : slist[index]? = some seg) (len : UInt32) :
    (splitSegment index len slist)[index]? = some { seg with len := min seg.len len } := by
  rcases List.getElem?_eq_some_iff.mp found with ⟨inside, _⟩
  rw [splitSegment, found]
  dsimp only
  split
  next longer =>
    have minimum : min seg.len len = len := if_neg (UInt32.not_le.mpr longer)
    rw [minimum, append_assoc, List.getElem?_append_right (length_take_le _ _),
      length_take_of_le inside.le, Nat.sub_self]
    rfl
  next short =>
    have minimum : min seg.len len = seg.len := if_pos (UInt32.not_lt.mp short)
    rw [minimum]
    exact found

theorem attemptSend_sends {tcp : PseudoTcp}
    (some_bytes : (roundStart env tcp).sendableBytes ≠ 0)
    (notHeldBack : ¬HeldBack (roundStart env tcp)) :
    (CanSend env (roundStart env tcp) ∧ (attemptSend env sflags tcp).bOutgoing = true) ∨
      (¬CanSend env (roundStart env tcp) ∧ (attemptSend env sflags tcp).bOutgoing = tcp.bOutgoing ∧
        (attemptSend env sflags tcp).tAck = tcp.tAck) := by
  have sameOutgoing : (roundStart env tcp).bOutgoing = tcp.bOutgoing := rfl
  have sameAck : (roundStart env tcp).tAck = tcp.tAck := rfl
  rw [attemptSend_eq, attemptSendLoop, ← sameOutgoing, ← sameAck]
  generalize roundStart env tcp = start at *
  dsimp only
  rw [if_neg some_bytes]
  rw [HeldBack] at notHeldBack
  rw [if_neg notHeldBack]
  cases found : start.slist[start.slist.findIdx (·.xmit = 0)]? with
  | none =>
    have missing : (splitSegment (start.slist.findIdx (·.xmit = 0)) start.sendableBytes
        start.slist)[start.slist.findIdx (·.xmit = 0)]? = none := by
      rw [splitSegment, found]
      exact found
    rw [transmit, missing]
    refine .inr ⟨?_, rfl, rfl⟩
    rintro ⟨seg, wrong, _⟩
    rw [found] at wrong
    cases wrong
  | some seg =>
    have first : decide (seg.xmit = 0) = true :=
      @List.findIdx_of_getElem?_eq_some _ (fun piece : SSegment => decide (piece.xmit = 0)) _ _
        found
    have unsent := of_decide_eq_true first
    have canSend : CanSend env start ↔ TakesPacket env start.writes start.msslevel
        (min (min seg.len start.sendableBytes) start.mss) := by
      constructor
      · rintro ⟨other, same, takes⟩
        rw [found] at same
        rcases Option.some.inj same
        exact takes
      · exact fun takes => ⟨seg, found, takes⟩
    rw [canSend]
    have outgoing := @transmit_outgoing env _ _ { start with
      slist := splitSegment (start.slist.findIdx (·.xmit = 0)) start.sendableBytes start.slist }
      (splitSegment_getElem? found start.sendableBytes) unsent (tcp.now env)
    revert outgoing
    generalize transmit env _ (tcp.now env) _ = outcome
    rcases outcome with ⟨_ | _, after⟩
    · rintro (⟨_, wrong, _⟩ | ⟨refused, _, bOutgoing, tAck⟩)
      · exact absurd wrong Bool.false_ne_true
      · exact .inr ⟨refused, bOutgoing, tAck⟩
    · rintro (⟨taken, _, bOutgoing⟩ | ⟨_, wrong, _⟩)
      · exact .inl ⟨taken, attemptSendLoop_bOutgoing env _ _ _ bOutgoing⟩
      · exact absurd wrong.symm Bool.false_ne_true

/-! ## The answer to data -/

/-- What makes `attemptSend` answer data, from the state that it starts in. -/
def AckIssued (tcp : PseudoTcp) : Prop :=
  tcp.tAck ≠ 0 ∨ if (roundStart env tcp).sendableBytes = 0 then
      sflags = .immediateAck ∨ env.clock (tcp.ticks + 1) ≠ 0
    else ¬HeldBack (roundStart env tcp) ∧ CanSend env (roundStart env tcp)

/-- The flag tells whether anything was written since it was cleared. -/
def cleared (tcp : PseudoTcp) : PseudoTcp := { tcp with bOutgoing := false }

theorem sendAck_answers {sflags : SendFlags} (due : sflags ≠ .none) (tcp : PseudoTcp) :
    (sendAck env sflags (cleared tcp)).bOutgoing = true ∨ (sendAck env sflags tcp).tAck ≠ 0 ↔
      tcp.tAck ≠ 0 ∨ sflags = .immediateAck ∨ tcp.now env ≠ 0 := by
  have written : ∀ seq, (packet env seq 0 0 0 (cleared tcp)).2.bOutgoing = true := by
    intro seq
    rcases packet_outgoing env seq 0 0 0 (cleared tcp) with ⟨_, _, noted⟩ | ⟨_, _, wrong, _⟩
    · exact noted
    · exact absurd rfl wrong
  cases sflags with
  | none => exact absurd rfl due
  | immediateAck => exact iff_of_true (.inl (written _)) (.inr (.inl rfl))
  | delayedAck =>
    rw [sendAck, sendAck]
    by_cases armed : tcp.tAck = 0
    · rw [if_neg (not_not.mpr armed), if_neg (show ¬(cleared tcp).tAck ≠ 0 from not_not.mpr armed)]
      constructor
      · rintro (wrong | ticking)
        · exact absurd wrong Bool.false_ne_true
        · exact .inr (.inr ticking)
      · rintro (wrong | wrong | ticking)
        · exact absurd armed wrong
        · exact absurd wrong nofun
        · exact .inr ticking
    · rw [if_pos armed, if_pos (show (cleared tcp).tAck ≠ 0 from armed)]
      exact iff_of_true (.inl (written _)) (.inl armed)

theorem attemptSend_answers {sflags : SendFlags} (due : sflags ≠ .none) (tcp : PseudoTcp) :
    (attemptSend env sflags (cleared tcp)).bOutgoing = true ∨
      (attemptSend env sflags tcp).tAck ≠ 0 ↔ AckIssued env sflags tcp := by
  have sameStart : roundStart env (cleared tcp) = cleared (roundStart env tcp) := rfl
  rw [AckIssued]
  split
  next nothing =>
    have nothingCleared : (roundStart env (cleared tcp)).sendableBytes = 0 := nothing
    rw [attemptSend_nothing env sflags nothing, attemptSend_nothing env sflags nothingCleared,
      sameStart, sendAck_answers env due]
    rfl
  next some_bytes =>
    have some_bytesCleared : (roundStart env (cleared tcp)).sendableBytes ≠ 0 := some_bytes
    by_cases heldBack : HeldBack (roundStart env tcp)
    · have heldBackCleared : HeldBack (roundStart env (cleared tcp)) := heldBack
      rw [attemptSend_heldBack env sflags some_bytes heldBack,
        attemptSend_heldBack env sflags some_bytesCleared heldBackCleared]
      constructor
      · rintro (wrong | armed)
        · exact absurd wrong Bool.false_ne_true
        · exact .inl armed
      · rintro (armed | ⟨wrong, _⟩)
        · exact .inr armed
        · exact absurd heldBack wrong
    · have notHeldBackCleared : ¬HeldBack (roundStart env (cleared tcp)) := heldBack
      have sameCanSend : CanSend env (roundStart env (cleared tcp)) ↔
          CanSend env (roundStart env tcp) := Iff.rfl
      rcases attemptSend_sends env sflags some_bytesCleared notHeldBackCleared with
        ⟨canSend, written⟩ | ⟨cannot, unwritten, _⟩
      · exact iff_of_true (.inl written) (.inr ⟨heldBack, sameCanSend.mp canSend⟩)
      · rcases attemptSend_sends env sflags some_bytes heldBack with ⟨wrong, _⟩ | ⟨_, _, tAck⟩
        · exact absurd (sameCanSend.mpr wrong) cannot
        · rw [tAck, unwritten]
          constructor
          · rintro (wrong | armed)
            · exact absurd wrong Bool.false_ne_true
            · exact .inl armed
          · rintro (armed | ⟨_, wrong⟩)
            · exact .inr armed
            · exact absurd (sameCanSend.mpr wrong) cannot

def acknowledgementOf (packet : Bytes) : UInt32 :=
  (parseSegment (asMemory packet) (UInt32.ofNat packet.length)).ack

theorem bytesToLong_longToBytes {memory : Nat → UInt8} {offset : Nat} {value : UInt32}
    (stored : ∀ index < 4, memory (offset + index) = (longToBytes value).getD index 0) :
    bytesToLong memory offset = value := by
  have first : memory offset = (value >>> 24).toUInt8 := stored 0 (by decide)
  have second : memory (offset + 1) = (value >>> 16).toUInt8 := stored 1 (by decide)
  have third : memory (offset + 2) = (value >>> 8).toUInt8 := stored 2 (by decide)
  have fourth : memory (offset + 3) = value.toUInt8 := stored 3 (by decide)
  rw [bytesToLong, first, second, third, fourth]
  apply UInt32.toNat_inj.mp
  have bound := value.toNat_lt
  simp [UInt32.toNat_add, UInt32.toNat_shiftLeft, UInt32.toNat_shiftRight,
    Nat.shiftLeft_eq, Nat.shiftRight_eq_div_pow]
  omega

theorem acknowledgementOf_packetBytes (seq : UInt32) (flags : UInt8) (offset len : UInt32)
    (tcp : PseudoTcp) :
    acknowledgementOf (packetBytes env seq flags offset len tcp) = tcp.rcvNxt := by
  apply bytesToLong_longToBytes
  intro index inside
  interval_cases index <;> rfl

theorem attemptSend_acknowledges (tcp : PseudoTcp) :
    ∀ packet ∈ (attemptSend env sflags tcp).packets,
      packet ∈ tcp.packets ∨ acknowledgementOf packet = tcp.rcvNxt := by
  have emitted : ∀ {seq : UInt32} {flags : UInt8} {offset len : UInt32} {before after : PseudoTcp},
      Emits env seq flags offset len before after → before.toIncoming = tcp.toIncoming →
      (∀ packet ∈ before.packets, packet ∈ tcp.packets ∨ acknowledgementOf packet = tcp.rcvNxt) →
      ∀ packet ∈ after.packets, packet ∈ tcp.packets ∨ acknowledgementOf packet = tcp.rcvNxt := by
    rintro seq flags offset len before after emits incoming known packet member
    rcases emits with same | ⟨source, sameSource, added⟩
    · rw [same] at member
      exact known packet member
    · rw [added] at member
      rcases mem_append.mp member with old | new
      · exact known packet old
      · rw [mem_singleton.mp new, acknowledgementOf_packetBytes, sameSource.toIncoming, incoming]
        exact .inr rfl
  refine (@attemptSend_induction env (fun after => after.toIncoming = tcp.toIncoming ∧
    ∀ packet ∈ after.packets, packet ∈ tcp.packets ∨ acknowledgementOf packet = tcp.rcvNxt)
    ?_ ?_ ?_ sflags tcp ⟨rfl, fun _ => .inl⟩).2
  · rintro before after same packets ⟨incoming, known⟩
    exact ⟨same.toIncoming.trans incoming, packets ▸ known⟩
  · rintro flags before ⟨incoming, known⟩
    rcases sendAck_spec env flags before with ⟨same, emits⟩
    exact ⟨same.toIncoming.trans incoming, emitted emits incoming known⟩
  · rintro now before ⟨incoming, known⟩ _
    refine ⟨(transmit_sameReceiver env _ now before.prepareNext).toIncoming.trans incoming, ?_⟩
    rcases Nat.lt_or_ge (before.slist.findIdx (·.xmit = 0)) before.prepareNext.slist.length with
      inside | outside
    · have slist := (take_append_drop (before.slist.findIdx (·.xmit = 0))
        before.prepareNext.slist).symm
      rw [drop_eq_getElem_cons inside] at slist
      have position : (before.prepareNext.slist.take
          (before.slist.findIdx (·.xmit = 0))).length = before.slist.findIdx (·.xmit = 0) :=
        length_take_of_le inside.le
      rcases transmit_cases env slist now with ⟨_, _, packets⟩ | ⟨sent, _, _, _, _, _, emits⟩
      · rw [position] at packets
        rw [packets]
        exact known
      · rw [position] at emits
        exact emitted emits incoming known
    · rw [transmit, List.getElem?_eq_none outside]
      exact known

end

section

variable (seg : Segment) (tcp : PseudoTcp)

/-- The connection when `process` comes to the data of a segment. -/
def beforeData : PseudoTcp :=
  match processControl seg (noteTraffic env tcp) with
  | (none, controlled) => controlled
  | (some bConnect, controlled) =>
    notifyWriteable (confirmConnect bConnect
      (processAck env (tcp.now env) seg (updateTimestamp seg controlled)).2)

theorem process_accepted {seg : Segment} {tcp : PseudoTcp}
    (accepted : (process env seg tcp).1 = true) :
    (process env seg tcp).2 = processData env seg (beforeData env seg tcp) := by
  unfold process at accepted ⊢
  unfold beforeData
  split at accepted
  · exact absurd accepted Bool.false_ne_true
  next conv =>
    rw [if_neg conv]
    dsimp only at accepted ⊢
    split at accepted
    · exact absurd accepted Bool.false_ne_true
    next still =>
      rw [if_neg still]
      split at accepted
      · exact absurd accepted Bool.false_ne_true
      next notReset =>
        rw [if_neg notReset]
        generalize processControl seg (noteTraffic env tcp) = controlled at accepted ⊢
        rcases controlled with ⟨_ | bConnect, controlled⟩
        · exact absurd accepted Bool.false_ne_true
        · dsimp only at accepted ⊢
          generalize processAck env (tcp.now env) seg (updateTimestamp seg controlled) = acked
            at accepted ⊢
          rcases acked with ⟨_ | _, acked⟩
          · exact absurd accepted Bool.false_ne_true
          · rfl

/-- What `process` does with the data, and the connection when it then sends. -/
def takenData : Taken × PseudoTcp :=
  let taken := takeData (seg.flags &&& flagCtl ≠ 0 || tcp.shutdown ≠ .none)
    (adjustSegment seg tcp.toIncoming) tcp.toIncoming
  (taken.1, { tcp with toIncoming := taken.2 })

/-- The acknowledgement that the data ask for. -/
def requestedAck : SendFlags :=
  if (takenData seg tcp).1 = .inOrder true then .immediateAck else ackFlags seg tcp

theorem requestedAck_ne_none {seg : Segment} (some_data : 0 < seg.len) (tcp : PseudoTcp) :
    requestedAck seg tcp ≠ .none := by
  have nonzero := UInt32.pos_iff_ne_zero.mp some_data
  rw [requestedAck, ackFlags, if_neg nonzero]
  split
  · exact nofun
  · split
    · exact nofun
    · split <;> exact nofun

theorem processData_eq : (processData env seg tcp).tAck =
        (attemptSend env (requestedAck seg tcp) (takenData seg tcp).2).tAck ∧
      (processData env seg tcp).bOutgoing =
        (attemptSend env (requestedAck seg tcp) (takenData seg tcp).2).bOutgoing ∧
      (processData env seg tcp).packets =
        (attemptSend env (requestedAck seg tcp) (takenData seg tcp).2).packets ∧
      (processData env seg tcp).rcvNxt = (takenData seg tcp).2.rcvNxt := by
  have same := attemptSend_sameReceiver env (requestedAck seg tcp) (takenData seg tcp).2
  have rcvNxt := congrArg Incoming.rcvNxt same.toIncoming
  revert rcvNxt
  rw [requestedAck, takenData, processData]
  dsimp only
  generalize takeData (seg.flags &&& flagCtl ≠ 0 || tcp.shutdown ≠ .none)
    (adjustSegment seg tcp.toIncoming) tcp.toIncoming = outcome
  rcases outcome with ⟨taken, incoming⟩
  dsimp only
  generalize attemptSend env _ { tcp with toIncoming := incoming } = after
  intro rcvNxt
  split
  · unfold notifyReadable
    split <;> exact ⟨rfl, rfl, rfl, rcvNxt⟩
  · exact ⟨rfl, rfl, rfl, rcvNxt⟩

/-- The data of an accepted segment are answered: since they were taken, something was written,
and whatever was written acknowledges all that is readable; or the timer is armed. -/
def Answered : Prop :=
  ((processData env seg (cleared (beforeData env seg tcp))).bOutgoing = true ∧
      ∀ packet ∈ (processData env seg (cleared (beforeData env seg tcp))).packets,
        packet ∈ (beforeData env seg tcp).packets ∨
          acknowledgementOf packet = (process env seg tcp).2.rcvNxt) ∨
    (process env seg tcp).2.tAck ≠ 0

end

/-- A world whose clock moves on with every look at it, and in which every packet can be
written. -/
def tickingWorld : Environment := ⟨fun ticks => UInt32.ofNat (1000 + ticks), fun _ => .success⟩

/-- A peer connects, and bytes are sent to it. -/
def connectedAndSent (buffers : List Bytes) : PseudoTcp :=
  Run.final (step tickingWorld) (create 0 1000 fun _ => 0)
    (deliver (headerBytes 0 0 flagCtl ++ [ctlConnect, tcpOptWndScale, 1, 0]) ::
      deliver (headerBytes 4 4 0) :: buffers.map .send)

/-- Three bytes of the peer, which acknowledge none of those that were sent to it. -/
def threeBytes : Bytes := headerBytes 4 4 0 ++ [1, 2, 3]

end ZyWebRtc.PseudoTcp
