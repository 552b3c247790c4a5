import ZyWebRtc.Foundation.Run
import ZyWebRtc.Fec.Decoder

namespace ZyWebRtc.Fec

/-! What the functions of the decoder do to its lists, and the loops of a decoding call. -/

open List Option

theorem sortBySeqNum_perm {Element : Type} (seqNum : Element → UInt16) (list : List Element) :
    (sortBySeqNum seqNum list).Perm list := perm_insertionSort _ _

@[simp] theorem mem_sortBySeqNum {Element : Type} {seqNum : Element → UInt16}
    {list : List Element} {element : Element} :
    element ∈ sortBySeqNum seqNum list ↔ element ∈ list :=
  (sortBySeqNum_perm seqNum list).mem_iff

@[simp] theorem length_sortBySeqNum {Element : Type} (seqNum : Element → UInt16)
    (list : List Element) : (sortBySeqNum seqNum list).length = list.length :=
  (sortBySeqNum_perm seqNum list).length_eq

variable {packet : RecoveredPacket}

theorem mem_of_mem_discardOldPackets {list : List RecoveredPacket}
    (kept : packet ∈ discardOldPackets list) : packet ∈ list := mem_of_mem_drop kept

theorem length_discardOldPackets_le (list : List RecoveredPacket) :
    (discardOldPackets list).length ≤ kMaxMediaPackets := by
  rw [discardOldPackets, length_drop]
  omega

theorem insertFecPacket_recovered {rxPacket : ReceivedPacket} {decoder next : Decoder}
    (inserted : insertFecPacket rxPacket decoder = some next) :
    next.recoveredPacketList = decoder.recoveredPacketList := by
  unfold insertFecPacket at inserted
  split at inserted
  · rw [Option.some.inj inserted]
  · split at inserted
    · rw [Option.some.inj inserted]
    · simp only [bind_eq_bind, bind_eq_some_iff] at inserted
      rcases inserted with ⟨_, _, nextEq⟩
      rw [← Option.some.inj nextEq]

theorem recovered_of_insertPacket {rxPacket : ReceivedPacket} {decoder next : Decoder}
    (inserted : insertPacket rxPacket decoder = some next)
    (member : packet ∈ next.recoveredPacketList) :
    packet ∈ decoder.recoveredPacketList ∨
      rxPacket.isFec = false ∧ packet = receivedMedia rxPacket := by
  unfold insertPacket at inserted
  split at inserted
  case isTrue =>
    rw [insertFecPacket_recovered inserted] at member
    exact .inl member
  case isFalse media =>
    rw [← Option.some.inj inserted] at member
    unfold insertMediaPacket at member
    split at member
    case isTrue => exact .inl member
    case isFalse =>
      rw [mem_sortBySeqNum, mem_append, mem_singleton] at member
      exact member.imp_right fun same => ⟨Bool.not_eq_true _ ▸ media, same⟩

theorem resetAtGap_cases {receivedPacketList : List ReceivedPacket} {decoder next : Decoder}
    (reset : resetAtGap receivedPacketList decoder = some next) :
    next = decoder ∨ next = Decoder.new := by
  unfold resetAtGap at reset
  split at reset
  case isTrue =>
    simp only [bind_eq_bind, bind_eq_some_iff] at reset
    rcases reset with ⟨front, _, back, _, result⟩
    split at result
    · exact .inr (Option.some.inj result).symm
    · exact .inl (Option.some.inj result).symm
  case isFalse => exact .inl (Option.some.inj reset).symm

/-! ## Recovery -/

theorem mem_of_mem_findRecoverable {list : List FecPacket} {fecPacket : FecPacket}
    (kept : fecPacket ∈ (findRecoverable list).1 ∨ (findRecoverable list).2 = some fecPacket) :
    fecPacket ∈ list := by
  induction list with
  | nil => simp [findRecoverable] at kept
  | cons first rest induction =>
    unfold findRecoverable at kept
    split at kept
    · exact mem_cons_of_mem _ (induction kept)
    · rcases kept with kept | found
      · exact mem_cons_of_mem _ kept
      · rw [← Option.some.inj found]
        exact mem_cons_self
    · rcases kept with kept | found
      · rcases mem_cons.mp kept with same | kept
        · rw [same]
          exact mem_cons_self
        · exact mem_cons_of_mem _ (induction (.inl kept))
      · exact mem_cons_of_mem _ (induction (.inr found))

theorem missing_of_findRecoverable {list : List FecPacket} {fecPacket : FecPacket}
    (found : (findRecoverable list).2 = some fecPacket) :
    fecPacket.protectedPktList.countP (·.pkt.isNone) = 1 := by
  induction list with
  | nil => simp [findRecoverable] at found
  | cons first rest induction =>
    unfold findRecoverable at found
    split at found
    case h_1 => exact induction found
    case h_2 one =>
      rw [← Option.some.inj found]
      unfold numCoveredPacketsMissing at one
      omega
    case h_3 => exact induction found

def EachRecovery (allowed : Decoder → FecPacket → Prop) : (turns : Nat) → Decoder → Prop
  | 0, _ => True
  | turns + 1, decoder =>
    match findRecoverable decoder.fecPacketList with
    | (_, none) => True
    | (others, some fecPacket) =>
      allowed decoder fecPacket ∧ ∀ packet, recoverPacket fecPacket = some packet →
          EachRecovery allowed turns (insertRecovered packet others decoder)

def decideEachRecovery (allowed : Decoder → FecPacket → Prop)
    [∀ decoder fecPacket, Decidable (allowed decoder fecPacket)] :
    ∀ turns decoder, Decidable (EachRecovery allowed turns decoder)
  | 0, _ => .isTrue trivial
  | turns + 1, decoder =>
    match search : findRecoverable decoder.fecPacketList with
    | (_, none) => .isTrue (by simp [EachRecovery, search])
    | (others, some fecPacket) =>
      have := decideEachRecovery allowed turns
      decidable_of_iff (allowed decoder fecPacket ∧
        ∀ packet, recoverPacket fecPacket = some packet →
          EachRecovery allowed turns (insertRecovered packet others decoder))
        (by simp [EachRecovery, search])

instance (allowed : Decoder → FecPacket → Prop)
    [∀ decoder fecPacket, Decidable (allowed decoder fecPacket)] (turns : Nat)
    (decoder : Decoder) : Decidable (EachRecovery allowed turns decoder) :=
  decideEachRecovery allowed turns decoder

theorem attemptRecover_invariant {allowed : Decoder → FecPacket → Prop}
    {invariant : Decoder → Prop} {recovered : RecoveredPacket → Prop}
    (discards : ∀ decoder, invariant decoder →
      invariant { decoder with fecPacketList := (findRecoverable decoder.fecPacketList).1 })
    (recovers : ∀ decoder fecPacket, invariant decoder →
      (findRecoverable decoder.fecPacketList).2 = some fecPacket → allowed decoder fecPacket →
      ∃ packet, recoverPacket fecPacket = some packet ∧ recovered packet ∧
        invariant (insertRecovered packet (findRecoverable decoder.fecPacketList).1 decoder)) :
    ∀ turns decoder, invariant decoder → EachRecovery allowed turns decoder →
      ∃ result packets, attemptRecover turns decoder = some (result, packets) ∧
        invariant result ∧ ∀ packet ∈ packets, recovered packet := by
  intro turns
  induction turns with
  | zero => exact fun decoder kept _ => ⟨decoder, [], rfl, kept, by simp⟩
  | succ turns induction =>
    intro decoder kept each
    have discarded := discards decoder kept
    have next := recovers decoder
    unfold EachRecovery at each
    unfold attemptRecover
    generalize findRecoverable decoder.fecPacketList = search at each discarded next ⊢
    rcases search with ⟨others, _ | fecPacket⟩
    · exact ⟨_, [], rfl, discarded, by simp⟩
    · rcases next fecPacket kept rfl each.1 with ⟨packet, recoverEq, good, keptNext⟩
      rcases induction _ keptNext (each.2 packet recoverEq) with
        ⟨result, packets, rest, keptResult, allGood⟩
      refine ⟨result, packet :: packets, ?_, keptResult, ?_⟩
      · simp only [recoverEq, bind_eq_bind, bind_some, rest]
        rfl
      · rintro member (_ | ⟨_, later⟩)
        · exact good
        · exact allGood member later

/-! ## What the lists store -/

/-- Every packet that is there is one that may be stored under its number. -/
def HoldsOnly (stored : UInt16 → Packet → Prop) (list : List ProtectedPacket) : Prop :=
  ∀ protectedPacket ∈ list, ∀ pkt, protectedPacket.pkt = some pkt →
    stored protectedPacket.seqNum pkt

/-- All packets of the lists may be stored under their numbers. -/
structure Stores (stored : UInt16 → Packet → Prop) (decoder : Decoder) : Prop where
  recovered : ∀ packet ∈ decoder.recoveredPacketList, stored packet.seqNum packet.pkt
  covered : ∀ fecPacket ∈ decoder.fecPacketList, HoldsOnly stored fecPacket.protectedPktList

variable {stored : UInt16 → Packet → Prop}

theorem stores_new : Stores stored Decoder.new where
  recovered := by simp [Decoder.new]
  covered := by simp [Decoder.new]

theorem holdsOnly_cons {first : ProtectedPacket} {rest : List ProtectedPacket} :
    HoldsOnly stored (first :: rest) ↔
      (∀ pkt, first.pkt = some pkt → stored first.seqNum pkt) ∧ HoldsOnly stored rest := by
  simp [HoldsOnly]

theorem holdsOnly_append {front back : List ProtectedPacket} :
    HoldsOnly stored (front ++ back) ↔ HoldsOnly stored front ∧ HoldsOnly stored back := by
  simp [HoldsOnly, or_imp, forall_and]

theorem holdsOnly_protectedPackets (pkt : Packet) : HoldsOnly stored (protectedPackets pkt) := by
  intro protectedPacket member pkt present
  rcases List.mem_map.mp member with ⟨index, _, same⟩
  rw [← same] at present
  cases present

theorem holdsOnly_assignCovered (good : stored packet.seqNum packet.pkt)
    {list : List ProtectedPacket} (holds : HoldsOnly stored list) :
    HoldsOnly stored (assignCovered packet list) := by
  induction list with
  | nil => exact holds
  | cons first rest induction =>
    rw [holdsOnly_cons] at holds
    unfold assignCovered
    split
    case isTrue less => exact holdsOnly_cons.mpr ⟨holds.1, induction holds.2⟩
    case isFalse =>
      split
      case isTrue same =>
        refine holdsOnly_cons.mpr ⟨?_, holds.2⟩
        intro pkt present
        rw [← Option.some.inj present]
        exact same ▸ good
      case isFalse => exact holdsOnly_cons.mpr holds

theorem alreadyRecovered_sublist (recoveredPackets : List RecoveredPacket)
    (notRecovered : List ProtectedPacket) :
    (alreadyRecovered recoveredPackets notRecovered).Sublist recoveredPackets := by
  induction recoveredPackets generalizing notRecovered with
  | nil => exact List.Sublist.refl _
  | cons recovered more induction =>
    unfold alreadyRecovered
    split
    · exact nil_sublist _
    · split
      · exact (induction _).cons _
      · exact (induction _).cons_cons _

theorem holdsOnly_assignEach {recoveredPackets : List RecoveredPacket}
    (good : ∀ packet ∈ recoveredPackets, stored packet.seqNum packet.pkt)
    {list assigned : List ProtectedPacket} (holds : HoldsOnly stored list)
    (assignedEq : assignEach recoveredPackets list = some assigned) :
    HoldsOnly stored assigned := by
  induction recoveredPackets generalizing list assigned with
  | nil =>
    cases assignedEq
    exact holds
  | cons recovered more induction =>
    have goodMore := fun packet member => good packet (mem_cons_of_mem _ member)
    have goodHere := good recovered mem_cons_self
    have stops := List.head?_dropWhile_not
      (fun protectedPacket : ProtectedPacket => protectedPacket.seqNum ≠ recovered.seqNum) list
    have split := takeWhile_append_dropWhile (l := list)
      (p := fun protectedPacket => protectedPacket.seqNum ≠ recovered.seqNum)
    unfold assignEach at assignedEq
    cases search : list.dropWhile (·.seqNum ≠ recovered.seqNum) with
    | nil =>
      rw [search] at assignedEq
      cases assignedEq
    | cons found behind =>
      rw [search] at assignedEq stops split
      rw [← split, holdsOnly_append, holdsOnly_cons] at holds
      simp only [bind_eq_bind, bind_eq_some_iff] at assignedEq
      rcases assignedEq with ⟨rest, restEq, result⟩
      rw [← Option.some.inj result, holdsOnly_append]
      refine ⟨holds.1, induction goodMore ?_ restEq⟩
      refine holdsOnly_cons.mpr ⟨?_, holds.2.2⟩
      intro pkt present
      rw [← Option.some.inj present]
      have same : found.seqNum = recovered.seqNum := by simpa using stops
      exact same ▸ goodHere

theorem stores_update (good : stored packet.seqNum packet.pkt) {fecPacketList : List FecPacket}
    (covered : ∀ fecPacket ∈ fecPacketList, HoldsOnly stored fecPacket.protectedPktList) :
    ∀ fecPacket ∈ updateCoveringFecPackets packet fecPacketList,
      HoldsOnly stored fecPacket.protectedPktList := by
  intro fecPacket member
  rcases List.mem_map.mp member with ⟨before, beforeMember, same⟩
  rw [← same]
  exact holdsOnly_assignCovered good (covered before beforeMember)

namespace Stores

theorem insertMediaPacket {decoder : Decoder} (stores : Stores stored decoder)
    {rxPacket : ReceivedPacket} (good : stored rxPacket.seqNum rxPacket.pkt) :
    Stores stored (insertMediaPacket rxPacket decoder) := by
  unfold Fec.insertMediaPacket
  split
  case isTrue => exact stores
  case isFalse =>
    constructor
    case recovered =>
      intro packet member
      rw [mem_sortBySeqNum, mem_append, mem_singleton] at member
      rcases member with before | rfl
      · exact stores.recovered packet before
      · exact good
    case covered => exact stores_update good stores.covered

theorem insertFecPacket {decoder next : Decoder} (stores : Stores stored decoder)
    {rxPacket : ReceivedPacket} (inserted : insertFecPacket rxPacket decoder = some next) :
    Stores stored next := by
  unfold Fec.insertFecPacket at inserted
  split at inserted
  case isTrue => exact Option.some.inj inserted ▸ stores
  case isFalse =>
    split at inserted
    case isTrue => exact Option.some.inj inserted ▸ stores
    case isFalse =>
      simp only [assignRecoveredPackets, bind_eq_bind, bind_eq_some_iff] at inserted
      rcases inserted with ⟨fecPacket, ⟨assigned, assignedEq, fecEq⟩, nextEq⟩
      have holds : HoldsOnly stored fecPacket.protectedPktList := by
        rw [← Option.some.inj fecEq]
        exact holdsOnly_assignEach
          (fun packet member => stores.recovered packet
            ((alreadyRecovered_sublist _ _).subset member))
          (holdsOnly_protectedPackets _) assignedEq
      rw [← Option.some.inj nextEq]
      refine ⟨stores.recovered, ?_⟩
      intro other member
      have inList : other ∈ decoder.fecPacketList ++ [fecPacket] := by
        change other ∈ ite _ _ _ at member
        split at member
        · exact mem_sortBySeqNum.mp (mem_of_mem_drop member)
        · exact mem_sortBySeqNum.mp member
      rcases mem_append.mp inList with before | here
      · exact stores.covered other before
      · rw [mem_singleton.mp here]
        exact holds

theorem insertPacket {decoder next : Decoder} (stores : Stores stored decoder)
    {rxPacket : ReceivedPacket} (good : rxPacket.isFec = false → stored rxPacket.seqNum rxPacket.pkt)
    (inserted : insertPacket rxPacket decoder = some next) : Stores stored next := by
  unfold Fec.insertPacket at inserted
  split at inserted
  case isTrue => exact stores.insertFecPacket inserted
  case isFalse media =>
    rw [← Option.some.inj inserted]
    exact stores.insertMediaPacket (good (Bool.not_eq_true _ ▸ media))

section

variable {decoder : Decoder} (stores : Stores stored decoder)

include stores

theorem discardOldPackets : Stores stored { decoder with
      recoveredPacketList := discardOldPackets decoder.recoveredPacketList } where
  recovered := fun packet member => stores.recovered packet (mem_of_mem_discardOldPackets member)
  covered := stores.covered

theorem findRecoverable : Stores stored { decoder with
      fecPacketList := (findRecoverable decoder.fecPacketList).1 } where
  recovered := stores.recovered
  covered := fun fecPacket member =>
    stores.covered fecPacket (mem_of_mem_findRecoverable (.inl member))

theorem insertRecovered {packet : RecoveredPacket} (good : stored packet.seqNum packet.pkt) :
    Stores stored (insertRecovered packet (Fec.findRecoverable decoder.fecPacketList).1 decoder) where
  recovered := by
    intro other member
    have inList := mem_of_mem_discardOldPackets member
    rw [mem_sortBySeqNum, mem_append, mem_singleton] at inList
    rcases inList with before | rfl
    · exact stores.recovered other before
    · exact good
  covered := stores_update good fun fecPacket member =>
    stores.covered fecPacket (mem_of_mem_findRecoverable (.inl member))

end

theorem resetAtGap {decoder next : Decoder} (stores : Stores stored decoder)
    {receivedPacketList : List ReceivedPacket}
    (reset : resetAtGap receivedPacketList decoder = some next) : Stores stored next := by
  rcases resetAtGap_cases reset with rfl | rfl
  · exact stores
  · exact stores_new

end Stores

end ZyWebRtc.Fec
