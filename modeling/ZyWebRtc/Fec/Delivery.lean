import ZyWebRtc.Fec.Receiver
import ZyWebRtc.Fec.RecoverySafety
import ZyWebRtc.Fec.RedRoundTrip

namespace ZyWebRtc.Fec

/-! When every packet is handed to the callback exactly once. -/

open List Option

def AllReturned (recoveredPacketList : List RecoveredPacket) : Prop :=
  ∀ packet ∈ recoveredPacketList, packet.returned = true

theorem notReturned_eq_nil {recoveredPacketList : List RecoveredPacket}
    (returned : AllReturned recoveredPacketList) : notReturned recoveredPacketList = [] := by
  rw [notReturned, map_eq_nil_iff, filter_eq_nil_iff]
  intro packet member
  simp [returned packet member]

theorem allReturned_markReturned (recoveredPacketList : List RecoveredPacket) :
    AllReturned (markReturned recoveredPacketList) := by
  intro packet member
  rcases List.mem_map.mp member with ⟨before, _, same⟩
  rw [← same]

theorem notReturned_perm {first second : List RecoveredPacket} (perm : first.Perm second) :
    (notReturned first).Perm (notReturned second) := (perm.filter _).map _

theorem notReturned_append (front back : List RecoveredPacket) :
    notReturned (front ++ back) = notReturned front ++ notReturned back := by
  simp [notReturned]

theorem notReturned_drop {recoveredPacketList : List RecoveredPacket} {count : Nat}
    (returned : AllReturned (recoveredPacketList.take count)) :
    notReturned (recoveredPacketList.drop count) = notReturned recoveredPacketList := by
  have split := notReturned_append (recoveredPacketList.take count) (recoveredPacketList.drop count)
  rw [take_append_drop, notReturned_eq_nil returned, nil_append] at split
  exact split.symm

section

variable {receivedPacketList : List ReceivedPacket} {decoder next : Decoder}
  (returned : AllReturned decoder.recoveredPacketList)

include returned

theorem allReturned_insertEach (inserted : insertEach receivedPacketList decoder = some next) :
    AllReturned next.recoveredPacketList := by
  induction receivedPacketList generalizing decoder with
  | nil => exact Option.some.inj inserted ▸ returned
  | cons rxPacket rest induction =>
    simp only [insertEach, bind_eq_bind, bind_eq_some_iff] at inserted
    rcases inserted with ⟨middle, first, later⟩
    apply induction _ later
    intro packet member
    rcases recovered_of_insertPacket first member with before | ⟨_, same⟩
    · exact returned packet before
    · rw [same, receivedMedia]

theorem allReturned_insertPackets (inserted : insertPackets receivedPacketList decoder = some next) :
    AllReturned next.recoveredPacketList ∧ next.recoveredPacketList.length ≤ kMaxMediaPackets := by
  simp only [insertPackets, bind_eq_bind, bind_eq_some_iff] at inserted
  rcases inserted with ⟨middle, each, result⟩
  rw [← Option.some.inj result]
  refine ⟨fun packet member => ?_, length_discardOldPackets_le _⟩
  exact allReturned_insertEach returned each packet (mem_of_mem_discardOldPackets member)

theorem allReturned_resetAtGap (reset : resetAtGap receivedPacketList decoder = some next) :
    AllReturned next.recoveredPacketList := by
  rcases resetAtGap_cases reset with rfl | rfl
  · exact returned
  · exact fun packet member => nomatch member

end

/-! ## Recovery -/

/-- The sequence numbers of the recovered list, and which of its packets were returned. -/
def listed (decoder : Decoder) : List (UInt16 × Bool) :=
  decoder.recoveredPacketList.map fun packet => (packet.seqNum, packet.returned)

/-- When the recovered list is full, the oldest of its packets and the missing one is a packet
that was returned before. -/
def DiscardsReturned (decoder : Decoder) (fecPacket : FecPacket) : Prop :=
  decoder.recoveredPacketList.length = kMaxMediaPackets →
    ∀ missing, missingSeqNum fecPacket.protectedPktList none = some missing →
      ∀ oldest, (sortBySeqNum Prod.fst (listed decoder ++ [(missing, false)])).head? = some oldest →
        oldest.2 = true

instance (decoder : Decoder) (fecPacket : FecPacket) :
    Decidable (DiscardsReturned decoder fecPacket) :=
  inferInstanceAs (Decidable (_ → ∀ missing, missingSeqNum fecPacket.protectedPktList none =
    some missing → ∀ oldest, _ = some oldest → _))

theorem map_sortBySeqNum (list : List RecoveredPacket) :
    (sortBySeqNum RecoveredPacket.seqNum list).map (fun packet => (packet.seqNum, packet.returned)) =
      sortBySeqNum Prod.fst (list.map fun packet => (packet.seqNum, packet.returned)) :=
  map_insertionSort _ _ _ _ fun _ _ _ _ => Iff.rfl

theorem recoverPacket_fields {fecPacket : FecPacket} {packet : RecoveredPacket}
    (recovered : recoverPacket fecPacket = some packet) :
    missingSeqNum fecPacket.protectedPktList none = some packet.seqNum ∧
      packet.returned = false := by
  simp only [recoverPacket, bind_eq_bind, bind_eq_some_iff] at recovered
  rcases recovered with ⟨start, _, ⟨number, result⟩, xored, seqNum, numberEq, packetEq⟩
  rw [← Option.some.inj packetEq]
  refine ⟨?_, rfl⟩
  rw [xorProtected_seqNum xored]
  exact numberEq

theorem notReturned_insertRecovered {decoder : Decoder} {fecPacket : FecPacket}
    {packet : RecoveredPacket} (others : List FecPacket)
    (short : decoder.recoveredPacketList.length ≤ kMaxMediaPackets)
    (discards : DiscardsReturned decoder fecPacket)
    (recovered : recoverPacket fecPacket = some packet) :
    (notReturned (insertRecovered packet others decoder).recoveredPacketList).Perm
      (notReturned decoder.recoveredPacketList ++ [packet.pkt]) := by
  rcases recoverPacket_fields recovered with ⟨missing, fresh⟩
  have appended : notReturned (decoder.recoveredPacketList ++ [packet]) =
      notReturned decoder.recoveredPacketList ++ [packet.pkt] := by
    rw [notReturned_append]
    simp [notReturned, fresh]
  have sorted := notReturned_perm (sortBySeqNum_perm RecoveredPacket.seqNum
    (decoder.recoveredPacketList ++ [packet]))
  rw [appended] at sorted
  have length : (sortBySeqNum RecoveredPacket.seqNum
      (decoder.recoveredPacketList ++ [packet])).length =
      decoder.recoveredPacketList.length + 1 := by simp
  rw [insertRecovered, discardOldPackets, notReturned_drop]
  · exact sorted
  rw [length]
  by_cases full : decoder.recoveredPacketList.length = kMaxMediaPackets
  case neg =>
    rw [Nat.sub_eq_zero_of_le (by omega), take_zero]
    rintro packet ⟨⟩
  case pos =>
    have oldest := discards full packet.seqNum missing
    have entry : (packet.seqNum, false) = (packet.seqNum, packet.returned) := by rw [fresh]
    have mapped := map_sortBySeqNum (decoder.recoveredPacketList ++ [packet])
    rw [map_append, map_singleton, ← entry] at mapped
    rw [listed, ← mapped] at oldest
    rw [full, Nat.add_sub_cancel_left]
    intro first member
    cases sortedEq : sortBySeqNum RecoveredPacket.seqNum
        (decoder.recoveredPacketList ++ [packet]) with
    | nil => simp [sortedEq] at member
    | cons front rest =>
      rw [sortedEq] at member oldest
      rw [take_succ_cons, take_zero, mem_singleton] at member
      rw [member]
      exact oldest _ rfl

theorem notReturned_attemptRecover {turns : Nat} {decoder result : Decoder}
    {packets : List RecoveredPacket}
    (short : decoder.recoveredPacketList.length ≤ kMaxMediaPackets)
    (discards : EachRecovery DiscardsReturned turns decoder)
    (attempted : attemptRecover turns decoder = some (result, packets)) :
    (notReturned result.recoveredPacketList).Perm
      (notReturned decoder.recoveredPacketList ++ packets.map (·.pkt)) := by
  induction turns generalizing decoder packets with
  | zero =>
    cases attempted
    simp
  | succ turns induction =>
    unfold EachRecovery at discards
    unfold attemptRecover at attempted
    rcases search : findRecoverable decoder.fecPacketList with ⟨others, _ | fecPacket⟩
    · rw [search] at attempted
      cases attempted
      simp
    · rw [search] at attempted discards
      simp only [bind_eq_bind, bind_eq_some_iff] at attempted
      rcases attempted with ⟨packet, recovered, ⟨last, later⟩, rest, resultEq⟩
      cases resultEq
      have now := notReturned_insertRecovered others short discards.1 recovered
      have onwards := induction (length_discardOldPackets_le _)
        (discards.2 packet recovered) rest
      apply onwards.trans
      rw [map_cons, ← singleton_append, ← append_assoc]
      exact now.append_right _

/-- No recovery of a decoding call discards a packet that was not returned. -/
def KeepsRecovered (receivedPacketList : List ReceivedPacket) (decoder : Decoder) : Prop :=
  ∀ reset, resetAtGap receivedPacketList decoder = some reset →
    ∀ inserted, insertPackets receivedPacketList reset = some inserted →
      EachRecovery DiscardsReturned inserted.fecPacketList.length inserted

instance (receivedPacketList : List ReceivedPacket) (decoder : Decoder) :
    Decidable (KeepsRecovered receivedPacketList decoder) :=
  inferInstanceAs (Decidable (∀ reset, resetAtGap receivedPacketList decoder = some reset →
    ∀ inserted, insertPackets receivedPacketList reset = some inserted → _))

theorem notReturned_decodeReceived {receivedPacketList : List ReceivedPacket}
    {decoder next : Decoder} {packets : List RecoveredPacket}
    (returned : AllReturned decoder.recoveredPacketList)
    (keeps : receivedPacketList ≠ [] → KeepsRecovered receivedPacketList decoder)
    (decoded : decodeReceived receivedPacketList decoder = some (next, packets)) :
    (notReturned next.recoveredPacketList).Perm (packets.map (·.pkt)) := by
  unfold decodeReceived at decoded
  split at decoded
  case isTrue =>
    cases decoded
    rw [notReturned_eq_nil returned]
    rfl
  case isFalse nonempty =>
    simp only [decodeFec, bind_eq_bind, bind_eq_some_iff] at decoded
    rcases decoded with ⟨reset, resetEq, inserted, insertedEq, attempted⟩
    rcases allReturned_insertPackets (allReturned_resetAtGap returned resetEq) insertedEq with
      ⟨insertedReturned, short⟩
    have kept := notReturned_attemptRecover short (keeps nonempty reset resetEq inserted insertedEq)
      attempted
    rwa [notReturned_eq_nil insertedReturned, nil_append] at kept

theorem mediaOf_append (front back : List ReceivedPacket) :
    mediaOf (front ++ back) = mediaOf front ++ mediaOf back := by
  simp [mediaOf]

/-- Only the front of the received list may be a media packet. -/
def OnlyFrontMedia (receivedPacketList : List ReceivedPacket) : Prop :=
  ∀ packet ∈ receivedPacketList.tail, packet.isFec = true

instance (receivedPacketList : List ReceivedPacket) :
    Decidable (OnlyFrontMedia receivedPacketList) :=
  inferInstanceAs (Decidable (∀ packet ∈ receivedPacketList.tail, _))

theorem frontMedia_eq {receivedPacketList : List ReceivedPacket}
    (front : OnlyFrontMedia receivedPacketList) :
    frontMedia receivedPacketList = mediaOf receivedPacketList := by
  cases receivedPacketList with
  | nil => rfl
  | cons first rest =>
    have behind : mediaOf rest = [] := by
      rw [mediaOf, map_eq_nil_iff, filter_eq_nil_iff]
      intro packet member
      simp [front packet member]
    rw [← singleton_append, mediaOf_append, behind, append_nil]
    cases isFec : first.isFec <;> simp [frontMedia, mediaOf, isFec]

theorem addReceivedRedPacket_appends {unset : UInt32} {header : Rtp.RTPHeader} {incoming : Bytes}
    {ulpfecPayloadType : UInt8} {before after : List ReceivedPacket} {code : Int}
    (added : addReceivedRedPacket unset header incoming ulpfecPayloadType before =
      some (code, after)) : ∃ packets, after = before ++ packets := by
  simp only [addReceivedRedPacket, bind_eq_bind, bind_eq_some_iff] at added
  rcases added with ⟨first, _, red, _, result⟩
  cases red with
  | none =>
    cases result
    exact ⟨[], (append_nil _).symm⟩
  | some red =>
    simp only [bind_eq_some_iff] at result
    rcases result with ⟨⟨received, second⟩, _, result⟩
    split at result
    · cases result
      exact ⟨[], (append_nil _).symm⟩
    · cases result
      exact ⟨_, rfl⟩

/-! ## Runs -/

namespace History

/-- A call of `ProcessReceivedFec` finds media only at the front of the received list, and keeps
what it recovers. -/
def DeliversAll (history : History) : Call → Prop
  | .addReceivedRedPacket .. => True
  | .processReceivedFec =>
    OnlyFrontMedia history.receiver.receivedPacketList ∧ (history.receiver.receivedPacketList ≠ [] →
        KeepsRecovered history.receiver.receivedPacketList history.receiver.decoder)

instance (history : History) (call : Call) : Decidable (history.DeliversAll call) :=
  match call with
  | .addReceivedRedPacket .. => .isTrue trivial
  | .processReceivedFec => inferInstanceAs (Decidable (_ ∧ (_ → _)))

/-- Everything received and recovered was handed on once, or is a media packet that still waits
in the received list. -/
structure Delivered (history : History) : Prop where
  returned : AllReturned history.receiver.decoder.recoveredPacketList
  counts : (history.delivered ++ mediaOf history.receiver.receivedPacketList).Perm
    (history.received ++ history.recovered)

theorem delivered_new : Delivered new where
  returned := fun _ member => nomatch member
  counts := List.Perm.refl _

theorem delivered_step {history next : History} {call : Call} (delivered : history.Delivered)
    (deliversAll : history.DeliversAll call) (stepped : history.step call = some next) :
    next.Delivered := by
  cases call with
  | addReceivedRedPacket unset header incoming ulpfecPayloadType =>
    simp only [step, bind_eq_bind, bind_eq_some_iff] at stepped
    rcases stepped with ⟨⟨code, after⟩, added, nextEq⟩
    rcases addReceivedRedPacket_appends added with ⟨packets, rfl⟩
    rw [← Option.some.inj nextEq]
    refine ⟨delivered.returned, ?_⟩
    change (history.delivered ++ mediaOf (_ ++ packets)).Perm
      (history.received ++ mediaOf ((_ ++ packets).drop _) ++ history.recovered)
    rw [drop_left, mediaOf_append, ← append_assoc]
    apply (delivered.counts.append_right (mediaOf packets)).trans
    rw [append_assoc, append_assoc]
    exact perm_append_comm.append_left _
  | processReceivedFec =>
    simp only [step, processReceivedFec, bind_eq_bind, bind_eq_some_iff] at stepped
    rcases stepped with ⟨processed, ⟨⟨decoder, packets⟩, decoded, processedEq⟩, nextEq⟩
    cases processedEq
    rw [← Option.some.inj nextEq]
    refine ⟨allReturned_markReturned _, ?_⟩
    have recovered := notReturned_decodeReceived delivered.returned deliversAll.2 decoded
    have counts := delivered.counts
    rw [← frontMedia_eq deliversAll.1] at counts
    change (history.delivered ++ (frontMedia _ ++ notReturned _) ++ []).Perm
      (history.received ++ (history.recovered ++ packets.map RecoveredPacket.pkt))
    rw [append_nil, ← append_assoc, ← append_assoc]
    exact counts.append recovered

/-- In runs whose calls deliver all, every received media packet and every recovered packet is
handed on exactly once, when the received list has been processed. -/
theorem delivered_perm {calls : List Call} {last : History}
    (run : Run.reached step new calls = some last)
    (deliversAll : Run.Permitted step DeliversAll new calls) :
    (last.delivered ++ mediaOf last.receiver.receivedPacketList).Perm
      (last.received ++ last.recovered) :=
  (Run.invariant_of_reached step (fun _ _ _ delivered all stepped =>
    delivered_step delivered all stepped) delivered_new deliversAll run).counts

def mediaCall (seqNum : UInt16) : Call :=
  .addReceivedRedPacket 0 { exampleHeader with sequenceNumber := seqNum }
    (oneBlockPacket exampleRtpHeader 116 96 [1, 2]) 97

def fecCall (seqNum : UInt16) (payload : Bytes) : Call :=
  .addReceivedRedPacket 0 { exampleHeader with sequenceNumber := seqNum }
    (oneBlockPacket exampleRtpHeader 116 97 payload) 97

/-- The second of two media packets that are processed together is not handed on. -/
theorem not_delivered_perm :
    ¬ ∀ (calls : List Call) (last : History), Run.reached step new calls = some last →
        (last.delivered ++ mediaOf last.receiver.receivedPacketList).Perm
          (last.received ++ last.recovered) := by
  intro once
  have counts : (Run.reached step new [mediaCall 1, mediaCall 2, .processReceivedFec]).map
      (fun last => ((last.delivered ++ mediaOf last.receiver.receivedPacketList).length,
        (last.received ++ last.recovered).length)) = some (1, 2) := by decide +kernel
  rcases map_eq_some_iff.mp counts with ⟨last, run, lengths⟩
  have length := (once _ last run).length_eq
  have delivered := congrArg Prod.fst lengths
  have received := congrArg Prod.snd lengths
  simp only at delivered received
  omega

def exampleCalls : List Call :=
  [mediaCall 1, .processReceivedFec,
    fecCall 3 [0, 0, 0, 1, 0, 0, 0, 0, 0, 3, 0, 3, 0xc0, 0, 5, 6, 7], .processReceivedFec]

theorem delivered_perm_example :
    ∃ last, Run.reached step new exampleCalls = some last ∧ last.delivered.length = 2 ∧
      (last.delivered ++ mediaOf last.receiver.receivedPacketList).Perm
        (last.received ++ last.recovered) := by
  have delivered : (Run.reached step new exampleCalls).map (·.delivered.length) = some 2 := by
    decide +kernel
  rcases map_eq_some_iff.mp delivered with ⟨last, run, length⟩
  exact ⟨last, run, length, delivered_perm run (by decide +kernel)⟩

end History

end ZyWebRtc.Fec
