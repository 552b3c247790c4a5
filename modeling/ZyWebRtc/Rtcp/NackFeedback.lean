import Mathlib.Data.List.Chain
import Mathlib.Data.List.Perm.Basic
import Mathlib.Data.List.Range
import Mathlib.Data.List.TakeWhile
import ZyWebRtc.Foundation.SequenceNumber
import ZyWebRtc.Rtcp.CompoundRun
import ZyWebRtc.Rtcp.Parser

namespace ZyWebRtc.Rtcp

/-! `RTCPReceiver::HandleNACK`, and what it reads from the fields of `BuildNACK`: a number that
begins a field, and the numbers that its bit mask stands for. -/

open List Option Bytes RTCPParserV2 RTCPSender UInt16

def kSendSideNackListSizeSanity : Nat := 20000

/-- The members of `RTCPPacketInformation` that feedback about lost packets sets. -/
structure NackInformation where
  rtcpPacketTypeFlags : UInt32
  nackSequenceNumbers : List UInt16
  deriving DecidableEq

namespace NackInformation

def resetNACKPacketIdArray (information : NackInformation) : NackInformation :=
  { information with nackSequenceNumbers := [] }

def addNACKPacket (packetID : UInt16) (information : NackInformation) : NackInformation :=
  if kSendSideNackListSizeSanity ≤ information.nackSequenceNumbers.length then information
  else { information with
    nackSequenceNumbers := information.nackSequenceNumbers ++ [packetID] }

/-- The loop of `HandleNACKItem` over the bits, the first of which stands for the number `i`
after the identifier. -/
def addMaskedPackets (packetID : UInt16) : (count : Nat) → (i bitMask : UInt16) →
    NackInformation → NackInformation
  | 0, _, _, information => information
  | count + 1, i, bitMask, information =>
    addMaskedPackets packetID count (i + 1) (bitMask >>> 1)
      (if bitMask &&& 1 ≠ 0 then information.addNACKPacket (packetID + i) else information)

def handleNACKItem (item : RTCPPacketRTPFBNACKItem) (information : NackInformation) :
    NackInformation :=
  let first := information.addNACKPacket item.packetID
  let added :=
    if item.bitMask ≠ 0 then first.addMaskedPackets item.packetID 16 1 item.bitMask else first
  { added with rtcpPacketTypeFlags := added.rtcpPacketTypeFlags ||| kRtcpNack }

end NackInformation

/-- The loop over the items of a message. Each takes four bytes, so the length of the packet is
enough fuel. -/
def handleNACKItems (data : Bytes) : (fuel : Nat) → RTCPParserV2 → NackInformation →
    Option (RTCPParserV2 × NackInformation)
  | 0, _, _ => none
  | fuel + 1, parser, information =>
    if parser.packetType = .kRtcpRtpfbNackItemCode then
      match parser.packet with
      | .nackItem item => do
        let next ← parser.iterate data
        handleNACKItems data fuel next (information.handleNACKItem item)
      | _ => none
    else some (parser, information)

/-- The parser stands at a message of lost packets. -/
def handleNACK (mainSsrc : UInt32) (data : Bytes) (sources : FeedbackSources)
    (parser : RTCPParserV2) (information : NackInformation) :
    Option (RTCPParserV2 × NackInformation) := do
  let next ← parser.iterate data
  if mainSsrc ≠ sources.mediaSSRC then pure (next, information)
  else handleNACKItems data (data.length + 1) next information.resetNACKPacketIdArray

/-- A step of `IncomingRTCPPacket` to the next block, which handles a message of lost packets. -/
def receiveNACK (mainSsrc : UInt32) (data : Bytes) (parser : RTCPParserV2)
    (information : NackInformation) : Option (RTCPParserV2 × NackInformation) := do
  let next ← parser.iterate data
  match next.packetType, next.packet with
  | .kRtcpRtpfbNackCode, .nack sources => handleNACK mainSsrc data sources next information
  | _, _ => pure (next, information)

/-! ## The numbers of a field -/

/-- The numbers that a mask stands for, from the one that its lowest bit stands for. -/
def maskedNumbers (packetID : UInt16) : (count : Nat) → (i bitMask : UInt16) → List UInt16
  | 0, _, _ => []
  | count + 1, i, bitMask =>
    (if bitMask &&& 1 ≠ 0 then [packetID + i] else []) ++
      maskedNumbers packetID count (i + 1) (bitMask >>> 1)

def fieldNumbers (field : UInt16 × UInt16) : List UInt16 :=
  field.1 :: maskedNumbers field.1 16 1 field.2

namespace NackInformation

theorem maskedNumbers_zero (packetID : UInt16) (count : Nat) :
    ∀ i, maskedNumbers packetID count i 0 = [] := by
  induction count with
  | zero => exact fun _ => rfl
  | succ count induction => exact fun i => induction (i + 1)

theorem maskedNumbers_length_le (packetID : UInt16) (count : Nat) :
    ∀ i bitMask, (maskedNumbers packetID count i bitMask).length ≤ count := by
  induction count with
  | zero => exact fun _ _ => Nat.le_refl 0
  | succ count induction =>
    intro i bitMask
    have later := induction (i + 1) (bitMask >>> 1)
    rw [maskedNumbers, length_append]
    split
    · rw [length_singleton]
      omega
    · rw [length_nil]
      omega

def withNumbers (numbers : List UInt16) (information : NackInformation) : NackInformation :=
  { information with nackSequenceNumbers := information.nackSequenceNumbers ++ numbers }

theorem withNumbers_append (first second : List UInt16) (information : NackInformation) :
    (information.withNumbers first).withNumbers second =
      information.withNumbers (first ++ second) := by
  rw [withNumbers, withNumbers, withNumbers, append_assoc]

theorem addNACKPacket_room {packetID : UInt16} {information : NackInformation}
    (room : information.nackSequenceNumbers.length < kSendSideNackListSizeSanity) :
    information.addNACKPacket packetID = information.withNumbers [packetID] :=
  if_neg (Nat.not_le.mpr room)

theorem addMaskedPackets_room (packetID : UInt16) (count : Nat) :
    ∀ i bitMask (information : NackInformation),
      information.nackSequenceNumbers.length + count ≤ kSendSideNackListSizeSanity →
        information.addMaskedPackets packetID count i bitMask =
          information.withNumbers (maskedNumbers packetID count i bitMask) := by
  induction count with
  | zero =>
    intro i bitMask information room
    rw [maskedNumbers, withNumbers, append_nil]
    rfl
  | succ count induction =>
    intro i bitMask information room
    rw [addMaskedPackets, maskedNumbers]
    split
    · rw [addNACKPacket_room (by omega), induction, withNumbers_append]
      rw [withNumbers, length_append, length_singleton]
      omega
    · rw [nil_append, induction]
      omega

theorem handleNACKItem_nackSequenceNumbers {item : RTCPPacketRTPFBNACKItem}
    {information : NackInformation}
    (room : information.nackSequenceNumbers.length + 17 ≤ kSendSideNackListSizeSanity) :
    (information.handleNACKItem item).nackSequenceNumbers =
      information.nackSequenceNumbers ++ fieldNumbers (item.packetID, item.bitMask) := by
  have added : (information.addNACKPacket item.packetID).addMaskedPackets item.packetID 16 1
      item.bitMask = information.withNumbers (fieldNumbers (item.packetID, item.bitMask)) := by
    rw [addNACKPacket_room (by omega), addMaskedPackets_room, withNumbers_append]
    · rfl
    · rw [withNumbers, length_append, length_singleton]
      omega
  rw [handleNACKItem]
  dsimp only
  split
  · rw [added]
    rfl
  · rename_i unmasked
    rw [addNACKPacket_room (by omega), fieldNumbers, not_not.mp unmasked, maskedNumbers_zero]
    rfl

end NackInformation

/-! ## The numbers behind a first one -/

def ahead (nack number : UInt16) : Nat := (number - nack).toNat

/-- The mask of a field has a bit for the number. -/
def follows (nack number : UInt16) : Bool := 1 ≤ ahead nack number ∧ ahead nack number ≤ 16

theorem ahead_add {nack : UInt16} {offset : Nat} (bound : offset < 65536) :
    ahead nack (nack + UInt16.ofNat offset) = offset := by
  rw [ahead, add_sub_cancel_left, toNat_ofNat', Nat.mod_eq_of_lt bound]

theorem add_ahead (nack number : UInt16) : nack + UInt16.ofNat (ahead nack number) = number := by
  rw [ahead, UInt16.ofNat_toNat, add_sub_cancel]

theorem bit_one_iff (bitMask : UInt16) : bitMask &&& 1 ≠ 0 ↔ bitMask.toNat.testBit 0 = true := by
  rw [ne_eq, ← UInt16.toNat_inj, UInt16.toNat_and, Nat.testBit_zero, decide_eq_true_eq]
  change ¬ bitMask.toNat &&& 1 = 0 ↔ _
  rw [Nat.and_one_is_mod]
  omega

theorem testBit_shifted (bitMask : UInt16) (bit : Nat) :
    (bitMask >>> 1).toNat.testBit bit = bitMask.toNat.testBit (bit + 1) := by
  rw [UInt16.toNat_shiftRight, Nat.testBit_shiftRight, Nat.add_comm]
  rfl

theorem mem_maskedNumbers (packetID number : UInt16) (count : Nat) :
    ∀ (i : Nat) (bitMask : UInt16), number ∈ maskedNumbers packetID count (UInt16.ofNat i) bitMask ↔
        ∃ bit < count, bitMask.toNat.testBit bit = true ∧
          number = packetID + UInt16.ofNat (i + bit) := by
  induction count with
  | zero =>
    intro i bitMask
    simp only [maskedNumbers, not_mem_nil, Nat.not_lt_zero, false_and, exists_false]
  | succ count induction =>
    intro i bitMask
    have later := induction (i + 1) (bitMask >>> 1)
    rw [ofNat_add] at later
    rw [maskedNumbers, mem_append]
    change _ ∨ number ∈ maskedNumbers packetID count (UInt16.ofNat i + UInt16.ofNat 1) _ ↔ _
    rw [later]
    constructor
    · rintro (first | ⟨bit, inside, set, same⟩)
      · split at first
        · rename_i set
          exact ⟨0, Nat.succ_pos count, (bit_one_iff bitMask).mp set, mem_singleton.mp first⟩
        · cases first
      · rw [testBit_shifted] at set
        refine ⟨bit + 1, Nat.succ_lt_succ inside, set, ?_⟩
        rw [same, Nat.add_right_comm, Nat.add_assoc]
    · rintro ⟨bit, inside, set, same⟩
      cases bit with
      | zero =>
        left
        rw [if_pos ((bit_one_iff bitMask).mpr set), same]
        exact mem_singleton_self _
      | succ bit =>
        right
        rw [← testBit_shifted] at set
        refine ⟨bit, Nat.lt_of_succ_lt_succ inside, set, ?_⟩
        rw [same, Nat.add_right_comm, Nat.add_assoc]

theorem maskedNumbers_ascend (packetID : UInt16) (count : Nat) :
    ∀ (i : Nat) (bitMask : UInt16), i + count < 65536 →
      (maskedNumbers packetID count (UInt16.ofNat i) bitMask).Pairwise
        fun first second => ahead packetID first < ahead packetID second := by
  induction count with
  | zero => exact fun _ _ _ => List.Pairwise.nil
  | succ count induction =>
    intro i bitMask bound
    have later := induction (i + 1) (bitMask >>> 1) (by omega)
    have between (number : UInt16)
        (member : number ∈ maskedNumbers packetID count (UInt16.ofNat (i + 1)) (bitMask >>> 1)) :
        i < ahead packetID number := by
      rcases (mem_maskedNumbers packetID number count (i + 1) (bitMask >>> 1)).mp member with
        ⟨bit, inside, _, same⟩
      rw [same, ahead_add (by omega)]
      omega
    rw [ofNat_add] at later between
    rw [maskedNumbers]
    split
    · apply pairwise_cons.mpr
      refine ⟨fun number member => ?_, later⟩
      rw [ahead_add (by omega)]
      exact between number member
    · exact later

/-! ## The mask of a group -/

theorem nackBitmask_shift {nack next : UInt16} :
    (0 ≤ (((next - nack).toNat : Int) - 1) ∧ ((next - nack).toNat : Int) - 1 ≤ 15) ↔
      follows nack next = true := by
  rw [follows, decide_eq_true_eq, ahead]
  omega

theorem nackBitmask_cons (nack next : UInt16) (rest : List UInt16) :
    nackBitmask nack (next :: rest) = if follows nack next then
        ((1 <<< UInt16.ofNat (ahead nack next - 1)) ||| (nackBitmask nack rest).1,
          (nackBitmask nack rest).2)
      else (0, next :: rest) := by
  rw [nackBitmask]
  by_cases within : follows nack next = true
  · rw [if_pos within, if_pos (nackBitmask_shift.mpr within)]
    have shift : ((next - nack).toNat : Int) - 1 = (ahead nack next - 1 : Nat) := by
      rw [follows, decide_eq_true_eq] at within
      rw [ahead] at *
      omega
    have amount : UInt16.ofInt (ahead nack next - 1 : Nat) = UInt16.ofNat (ahead nack next - 1) := by
      apply UInt16.toNat_inj.mp
      rw [toNat_ofInt16_natCast, toNat_ofNat']
    rw [shift, amount]
  · rw [if_neg within, if_neg (mt nackBitmask_shift.mp within)]

theorem nackBitmask_rest (nack : UInt16) (list : List UInt16) :
    (nackBitmask nack list).2 = list.dropWhile (follows nack) := by
  induction list with
  | nil => rfl
  | cons next rest induction =>
    rw [nackBitmask_cons, dropWhile_cons]
    split
    · exact induction
    · rfl

theorem testBit_one_shiftLeft {shift : Nat} (bound : shift < 16) (bit : Nat) :
    (1 <<< UInt16.ofNat shift : UInt16).toNat.testBit bit = decide (shift = bit) := by
  rw [UInt16.toNat_shiftLeft, toNat_ofNat', Nat.mod_eq_of_lt (a := shift) (by omega),
    Nat.mod_eq_of_lt bound]
  change (1 <<< shift % 65536).testBit bit = _
  rw [Nat.one_shiftLeft, Nat.mod_eq_of_lt, Nat.testBit_two_pow]
  exact Nat.pow_lt_pow_right (by decide) bound

theorem nackBitmask_testBit (nack : UInt16) (bit : Nat) (list : List UInt16) :
    (nackBitmask nack list).1.toNat.testBit bit = true ↔
      bit < 16 ∧ nack + UInt16.ofNat (1 + bit) ∈ list.takeWhile (follows nack) := by
  induction list with
  | nil =>
    change Nat.testBit 0 bit = true ↔ _
    simp
  | cons next rest induction =>
    rw [nackBitmask_cons, takeWhile_cons]
    split
    · rename_i within
      rw [follows, decide_eq_true_eq] at within
      rw [UInt16.toNat_or, Nat.testBit_or, Bool.or_eq_true, induction,
        testBit_one_shiftLeft (by omega), decide_eq_true_eq, mem_cons]
      have same : ahead nack next - 1 = bit ↔ bit < 16 ∧ nack + UInt16.ofNat (1 + bit) = next := by
        constructor
        · intro shift
          refine ⟨by omega, ?_⟩
          rw [show 1 + bit = ahead nack next by omega, add_ahead]
        · rintro ⟨bound, named⟩
          rw [← named, ahead_add (by omega)]
          omega
      rw [same, ← and_or_left]
    · change Nat.testBit 0 bit = true ↔ _
      simp

theorem follows_ahead {nack number : UInt16} (within : follows nack number = true) :
    1 ≤ ahead nack number ∧ ahead nack number ≤ 16 := of_decide_eq_true within

theorem mem_maskedNumbers_nackBitmask (nack number : UInt16) (list : List UInt16) :
    number ∈ maskedNumbers nack 16 1 (nackBitmask nack list).1 ↔
      number ∈ list.takeWhile (follows nack) := by
  have bits := mem_maskedNumbers nack number 16 1 (nackBitmask nack list).1
  rw [show UInt16.ofNat 1 = 1 from rfl] at bits
  rw [bits]
  constructor
  · rintro ⟨bit, _, set, same⟩
    rw [same]
    exact ((nackBitmask_testBit nack bit list).mp set).2
  · intro member
    rcases follows_ahead (mem_takeWhile_imp member) with ⟨least, most⟩
    have named : nack + UInt16.ofNat (1 + (ahead nack number - 1)) = number := by
      rw [Nat.add_sub_cancel' least, add_ahead]
    refine ⟨ahead nack number - 1, by omega, ?_, named.symm⟩
    rw [nackBitmask_testBit, named]
    exact ⟨by omega, member⟩

/-- The order of a group is the order in which the receiver reads its mask. -/
def Ascends (group : UInt16 × List UInt16) : Prop :=
  group.2.Pairwise fun first second => ahead group.1 first < ahead group.1 second

section Group

variable {nack : UInt16} {rest : List UInt16}

theorem maskedNumbers_group_ascend :
    Ascends (nack, maskedNumbers nack 16 1 (nackBitmask nack rest).1) :=
  maskedNumbers_ascend nack 16 1 _ (by decide)

theorem maskedNumbers_perm (nack : UInt16) (distinct : rest.Nodup) :
    (maskedNumbers nack 16 1 (nackBitmask nack rest).1).Perm
      (rest.takeWhile (follows nack)) := by
  have once : (maskedNumbers nack 16 1 (nackBitmask nack rest).1).Nodup := by
    apply maskedNumbers_group_ascend.imp
    intro first second less same
    rw [same] at less
    exact Nat.lt_irrefl _ less
  apply (perm_ext_iff_of_nodup once
    (distinct.sublist (takeWhile_sublist _))).mpr
  exact fun number => mem_maskedNumbers_nackBitmask nack number rest

theorem maskedNumbers_eq_iff (distinct : rest.Nodup) :
    maskedNumbers nack 16 1 (nackBitmask nack rest).1 = rest.takeWhile (follows nack) ↔
      Ascends (nack, rest.takeWhile (follows nack)) := by
  constructor
  · intro same
    rw [← same]
    exact maskedNumbers_group_ascend
  · intro ascends
    apply List.Perm.eq_of_pairwise _ maskedNumbers_group_ascend ascends
      (maskedNumbers_perm nack distinct)
    intro first second _ _ less greater
    exact absurd less (Nat.lt_asymm greater)

end Group

/-- The groups that the fields of a list stand for: a number, and those that its mask covers. -/
def nackGroups : (maxNackFields : Nat) → List UInt16 → List (UInt16 × List UInt16)
  | 0, _ => []
  | _ + 1, [] => []
  | count + 1, nack :: rest =>
    (nack, rest.takeWhile (follows nack)) ::
      nackGroups count (rest.dropWhile (follows nack))

example : nackGroups 3 [7, 9, 8, 40] = [(7, [9, 8]), (40, [])] := by decide

theorem nackFields_cons (count : Nat) (nack : UInt16) (rest : List UInt16) :
    nackFields (count + 1) (nack :: rest) = ((nack, (nackBitmask nack rest).1) ::
          (nackFields count (rest.dropWhile (follows nack))).1,
        (nackFields count (rest.dropWhile (follows nack))).2) := by
  rw [← nackBitmask_rest]
  rfl

theorem fieldNumbers_perm (count : Nat) :
    ∀ list, list.Nodup → (nackFields count list).2 = [] →
      ((nackFields count list).1.flatMap fieldNumbers).Perm list := by
  induction count with
  | zero =>
    intro list _ whole
    change list = [] at whole
    rw [whole]
    exact List.Perm.nil
  | succ count induction =>
    intro list distinct whole
    cases list with
    | nil => exact List.Perm.nil
    | cons nack rest =>
      have later := (nodup_cons.mp distinct).2
      rw [nackFields_cons] at whole ⊢
      have tail := induction (rest.dropWhile (follows nack))
        (later.sublist (dropWhile_sublist _)) whole
      rw [flatMap_cons, fieldNumbers, cons_append]
      apply List.Perm.cons nack
      have parts := (maskedNumbers_perm nack later).append tail
      rw [takeWhile_append_dropWhile] at parts
      exact parts

theorem fieldNumbers_eq_iff (count : Nat) :
    ∀ list, list.Nodup → (nackFields count list).2 = [] →
      ((nackFields count list).1.flatMap fieldNumbers = list ↔
        ∀ group ∈ nackGroups count list, Ascends group) := by
  induction count with
  | zero =>
    intro list _ whole
    change list = [] at whole
    rw [whole]
    simp [nackFields, nackGroups]
  | succ count induction =>
    intro list distinct whole
    cases list with
    | nil => simp [nackFields, nackGroups]
    | cons nack rest =>
      have later := (nodup_cons.mp distinct).2
      rw [nackFields_cons] at whole ⊢
      have tail := induction (rest.dropWhile (follows nack))
        (later.sublist (dropWhile_sublist _)) whole
      have sizes := (maskedNumbers_perm nack later).length_eq
      have parts : maskedNumbers nack 16 1 (nackBitmask nack rest).1 ++
            (nackFields count (rest.dropWhile (follows nack))).1.flatMap fieldNumbers = rest ↔
          maskedNumbers nack 16 1 (nackBitmask nack rest).1 = rest.takeWhile (follows nack) ∧
            (nackFields count (rest.dropWhile (follows nack))).1.flatMap fieldNumbers =
              rest.dropWhile (follows nack) := by
        constructor
        · intro same
          apply append_inj _ sizes
          rw [same, takeWhile_append_dropWhile]
        · rintro ⟨group, others⟩
          rw [group, others, takeWhile_append_dropWhile]
      rw [flatMap_cons, fieldNumbers, cons_append, List.cons.injEq,
        parts, maskedNumbers_eq_iff later, tail, nackGroups, forall_mem_cons]
      exact and_iff_right rfl

/-- Every number of a list is newer than the one before it. -/
def Ascending (list : List UInt16) : Prop :=
  list.IsChain fun first second => isNewerSequenceNumber second first = true

theorem ahead_lt_of_newer {nack first second : UInt16} (firstFollows : follows nack first = true)
    (secondFollows : follows nack second = true)
    (newer : isNewerSequenceNumber second first = true) :
    ahead nack first < ahead nack second := by
  rcases follows_ahead firstFollows with ⟨_, firstMost⟩
  rcases follows_ahead secondFollows with ⟨_, secondMost⟩
  rw [isNewerSequenceNumber, Bool.and_eq_true, decide_eq_true_eq, decide_eq_true_eq,
    lt_iff_toNat_lt, ← add_ahead nack first, ← add_ahead nack second,
    add_sub_add_left_eq_sub, show (0x8000 : UInt16).toNat = 32768 from rfl] at newer
  rcases newer with ⟨different, near⟩
  have apart : ahead nack second ≠ ahead nack first := fun same => different (by rw [same])
  rw [UInt16.toNat_sub, toNat_ofNat', toNat_ofNat'] at near
  simp only [Nat.reducePow] at near
  omega

theorem Ascending.ascends {nack : UInt16} {rest : List UInt16} (ascending : Ascending rest) :
    Ascends (nack, rest.takeWhile (follows nack)) := by
  have group : Ascending (rest.takeWhile (follows nack)) :=
    List.IsChain.infix ascending ( takeWhile_prefix _).isInfix
  have chain : (rest.takeWhile (follows nack)).IsChain
      fun first second => ahead nack first < ahead nack second := by
    apply List.IsChain.imp_of_mem_imp _ group
    intro first second firstMember secondMember
    exact ahead_lt_of_newer (mem_takeWhile_imp firstMember)
      (mem_takeWhile_imp secondMember)
  have transitive : Trans (fun first second => ahead nack first < ahead nack second)
      (fun first second => ahead nack first < ahead nack second)
      (fun first second => ahead nack first < ahead nack second) := ⟨Nat.lt_trans⟩
  exact isChain_iff_pairwise.mp chain

theorem Ascending.groups (count : Nat) :
    ∀ list, Ascending list → ∀ group ∈ nackGroups count list, Ascends group := by
  induction count with
  | zero => exact fun _ _ _ member => absurd member not_mem_nil
  | succ count induction =>
    intro list ascending
    cases list with
    | nil => exact fun _ member => absurd member not_mem_nil
    | cons nack rest =>
      have later : Ascending rest := List.IsChain.tail ascending
      rw [nackGroups, forall_mem_cons]
      refine ⟨later.ascends, induction _ ?_⟩
      exact List.IsChain.infix later (dropWhile_suffix _).isInfix

/-! ## Reading the packet -/

def fieldBytes (field : UInt16 × UInt16) : Bytes :=
  uint16Bytes field.1 ++ uint16Bytes field.2

/-- The parser stands at the remaining fields of a message that ends with the packet. -/
structure AtFields (data : Bytes) (fields : List (UInt16 × UInt16)) (parser : RTCPParserV2) :
    Prop where
  valid : parser.validPacket = true
  item : parser.state = .rtpfbNackItem
  stops : parser.blockEnd = data.length
  reads : ∃ front, data = front ++ fields.flatMap fieldBytes ∧ parser.ptr = front.length

section Reading

variable {data : Bytes} {parser : RTCPParserV2}

theorem AtFields.iterate_field {field : UInt16 × UInt16} {rest : List (UInt16 × UInt16)}
    (stands : AtFields data (field :: rest) parser) :
    ∃ next, parser.iterate data = some next ∧ next.packetType = .kRtcpRtpfbNackItemCode ∧
      next.packet = .nackItem { packetID := field.1, bitMask := field.2 } ∧
      AtFields data rest next := by
  rcases stands with ⟨valid, item, stops, front, bytes, ptr⟩
  rw [flatMap_cons] at bytes
  have size : data.length = front.length + 4 + (rest.flatMap fieldBytes).length := by
    rw [bytes, length_append, length_append]
    exact (Nat.add_assoc _ _ _).symm
  have packetID : data.uint16At parser.ptr = some field.1 := by
    rw [bytes, ptr, fieldBytes, append_assoc]
    exact (uint16At_append front _ 0).trans (uint16At_uint16Bytes _ _)
  have bitMask : data.uint16At (parser.ptr + 2) = some field.2 := by
    rw [bytes, ptr, fieldBytes, append_assoc, ← append_assoc]
    have place : front.length + 2 = (front ++ uint16Bytes field.1).length + 0 := by
      rw [length_append]
      rfl
    rw [place, uint16At_append]
    exact uint16At_uint16Bytes _ _
  have long : ¬ parser.resetPacketType.length < 4 := by
    change ¬ parser.blockEnd - parser.ptr < 4
    omega
  have parsed : parser.resetPacketType.parseNACKItem data = some (true, { parser with
        ptr := parser.ptr + 4
        packetType := .kRtcpRtpfbNackItemCode
        packet := .nackItem { packetID := field.1, bitMask := field.2 } }) := by
    rw [parseNACKItem, if_neg long]
    change (data.uint16At parser.ptr).bind _ = _
    rw [packetID]
    change (data.uint16At (parser.ptr + 2)).bind _ = _
    rw [bitMask]
    rfl
  refine ⟨{ parser with
      ptr := parser.ptr + 4
      packetType := .kRtcpRtpfbNackItemCode
      packet := .nackItem { packetID := field.1, bitMask := field.2 } }, ?_, rfl, rfl,
    ⟨valid, item, stops, front ++ fieldBytes field, ?_, ?_⟩⟩
  · have atItem : parser.resetPacketType.state = .rtpfbNackItem := item
    rw [RTCPParserV2.iterate, iterateFrom, if_neg (by rw [valid]; decide),
      if_neg (by rw [item]; decide), parseItem, atItem]
    change (parser.resetPacketType.parseNACKItem data).bind _ = _
    rw [parsed]
    rfl
  · rw [bytes, append_assoc]
  · rw [length_append, ← ptr]
    rfl

theorem AtFields.iterate_end (stands : AtFields data [] parser) :
    ∃ next, parser.iterate data = some next ∧ next.packetType = .kRtcpNotValidCode := by
  rcases stands with ⟨valid, item, stops, front, bytes, ptr⟩
  rw [flatMap_nil, append_nil] at bytes
  have short : parser.resetPacketType.length < 4 := by
    change parser.blockEnd - parser.ptr < 4
    rw [stops, ptr, bytes]
    omega
  have atItem : parser.resetPacketType.state = .rtpfbNackItem := item
  have ended : rtcpParseCommonHeader data parser.blockEnd = some none := by
    rw [rtcpParseCommonHeader, if_pos (by omega)]
  refine ⟨parser.resetPacketType.leaveBlock.resetPacketType, ?_, rfl⟩
  have left : parser.resetPacketType.leaveBlock.validPacket = true := valid
  have leftState : parser.resetPacketType.leaveBlock.state = .topLevel := rfl
  rw [RTCPParserV2.iterate, iterateFrom, valid, item]
  simp only [Bool.not_true, Bool.false_eq_true, if_false, reduceCtorEq, parseItem,
    atItem, parseNACKItem, short, if_true, bind_eq_bind, bind_some]
  rw [iterateFrom, left, if_neg (by decide), if_pos leftState, iterateTopLevel]
  change (rtcpParseCommonHeader data parser.blockEnd).bind _ = _
  rw [ended]
  rfl

theorem AtFields.handled {fields : List (UInt16 × UInt16)} :
    ∀ {parser} (fuel : Nat) (information : NackInformation), AtFields data fields parser →
      fields.length < fuel →
      information.nackSequenceNumbers.length + 17 * fields.length ≤ kSendSideNackListSizeSanity →
      ∃ final received, (parser.iterate data).bind
            (fun next => handleNACKItems data fuel next information) = some (final, received) ∧
          received.nackSequenceNumbers =
            information.nackSequenceNumbers ++ fields.flatMap fieldNumbers := by
  induction fields with
  | nil =>
    intro parser fuel information stands enough _
    rcases stands.iterate_end with ⟨next, iterated, type⟩
    cases fuel with
    | zero => exact absurd enough (Nat.not_lt_zero _)
    | succ fuel =>
      refine ⟨next, information, ?_, (append_nil _).symm⟩
      rw [iterated, bind_some, handleNACKItems, type]
      rfl
  | cons field rest induction =>
    intro parser fuel information stands enough room
    rcases stands.iterate_field with ⟨next, iterated, type, packet, later⟩
    rw [length_cons] at enough room
    cases fuel with
    | zero => exact absurd enough (Nat.not_lt_zero _)
    | succ fuel =>
      have added : (information.handleNACKItem
            { packetID := field.1, bitMask := field.2 }).nackSequenceNumbers =
          information.nackSequenceNumbers ++ fieldNumbers field :=
        NackInformation.handleNACKItem_nackSequenceNumbers (by omega)
      have size := NackInformation.maskedNumbers_length_le field.1 16 1 field.2
      rcases induction fuel (information.handleNACKItem
        { packetID := field.1, bitMask := field.2 }) later (by omega) (by
          rw [added, length_append, fieldNumbers, length_cons]
          omega) with ⟨final, received, run, numbers⟩
      refine ⟨final, received, ?_, ?_⟩
      · rw [iterated, bind_some, handleNACKItems, if_pos type, packet]
        exact run
      · rw [numbers, added, append_assoc, flatMap_cons]

end Reading

/-! ## The message -/

def nackMessage (ssrc remoteSSRC : UInt32) (fields : List (UInt16 × UInt16)) : Bytes :=
  [0x80 + 1, 205, 0, UInt8.ofNat (2 + fields.length)] ++ uint32Bytes ssrc ++
    uint32Bytes remoteSSRC ++ fields.flatMap fieldBytes

theorem fieldBytes_flatMap_length (fields : List (UInt16 × UInt16)) :
    (fields.flatMap fieldBytes).length = 4 * fields.length :=
  flatMap_length_const fieldBytes 4 (fun _ => rfl) fields

theorem nackMessage_header (ssrc remoteSSRC : UInt32) {fields : List (UInt16 × UInt16)}
    (bound : fields.length ≤ kRtcpMaxNackFields) :
    ∃ header, rtcpParseCommonHeader (nackMessage ssrc remoteSSRC fields) 0 =
        some (some header) ∧ header.ic = 1 ∧ header.pt = ptRTPFB ∧
      header.lengthInOctets.toNat = 12 + 4 * fields.length := by
  have words : (UInt8.ofNat (2 + fields.length)).toNat = 2 + fields.length := by
    rw [UInt8.toNat_ofNat', Nat.mod_eq_of_lt]
    exact Nat.lt_of_le_of_lt (Nat.add_le_add_left bound 2) (by decide)
  have size : (octetsOfLength (UInt16.ofNat (2 + fields.length))).toNat =
      12 + 4 * fields.length := by
    rw [octetsOfLength_toNat (Nat.lt_of_le_of_lt (Nat.add_le_add_left bound 2) (by decide))]
    omega
  have nonzero : octetsOfLength (UInt16.ofNat (2 + fields.length)) ≠ 0 := by
    intro zero
    rw [zero, show (0 : UInt16).toNat = 0 from rfl] at size
    omega
  refine ⟨{
      v := 2, p := false, ic := 1, pt := 205,
      lengthInOctets := octetsOfLength (UInt16.ofNat (2 + fields.length)) }, ?_, rfl, rfl, size⟩
  have short := uint16Bytes_short (UInt8.ofNat (2 + fields.length))
  rw [words] at short
  rw [nackMessage, append_assoc, append_assoc]
  change rtcpParseCommonHeader (0x81 :: 205 :: ([0, UInt8.ofNat (2 + fields.length)] ++ _)) 0 = _
  rw [← short, rtcpParseCommonHeader_cons, if_neg nonzero, if_neg (by decide)]
  rfl

theorem iterate_nackMessage {front : Bytes} {parser : RTCPParserV2} (ssrc remoteSSRC : UInt32)
    {fields : List (UInt16 × UInt16)} (bound : fields.length ≤ kRtcpMaxNackFields)
    (valid : parser.validPacket = true) (top : parser.state = .topLevel)
    (stands : parser.ptr = front.length) :
    ∃ next, parser.iterate (front ++ nackMessage ssrc remoteSSRC fields) = some next ∧
      next.packetType = .kRtcpRtpfbNackCode ∧
      next.packet = .nack { senderSSRC := ssrc, mediaSSRC := remoteSSRC } ∧
      AtFields (front ++ nackMessage ssrc remoteSSRC fields) fields next := by
  rcases nackMessage_header ssrc remoteSSRC bound with ⟨header, parsed, ic, pt, size⟩
  have message : (nackMessage ssrc remoteSSRC fields).length = 12 + 4 * fields.length := by
    simp only [nackMessage, length_append, uint32Bytes_length,
      fieldBytes_flatMap_length, length_cons, length_nil]
  have total : (front ++ nackMessage ssrc remoteSSRC fields).length =
      front.length + (12 + 4 * fields.length) := by
    rw [length_append, message]
  have sender : (front ++ nackMessage ssrc remoteSSRC fields).uint32At (parser.ptr + 4) =
      some ssrc := by
    rw [stands, uint32At_append, nackMessage, append_assoc, append_assoc]
    exact (uint32At_append [_, _, _, _] _ 0).trans (uint32At_uint32Bytes _ _)
  have media : (front ++ nackMessage ssrc remoteSSRC fields).uint32At (parser.ptr + 8) =
      some remoteSSRC := by
    rw [stands, uint32At_append, nackMessage, append_assoc]
    exact (uint32At_append ([_, _, _, _] ++ uint32Bytes ssrc) _ 0).trans
      (uint32At_uint32Bytes _ _)
  generalize framed : front ++ nackMessage ssrc remoteSSRC fields = data at *
  have common : rtcpParseCommonHeader data parser.resetPacketType.ptr = some (some header) := by
    change rtcpParseCommonHeader data parser.ptr = _
    rw [← framed, stands]
    exact (rtcpParseCommonHeader_append front _ 0).trans parsed
  have stops : parser.ptr + header.lengthInOctets.toNat = data.length := by
    rw [stands, size, total]
  have handled : parseFBCommon data header
      { parser.resetPacketType with blockEnd := data.length } = some (true, { parser with
          ptr := parser.ptr + 12
          blockEnd := data.length
          packetType := .kRtcpRtpfbNackCode
          packet := .nack { senderSSRC := ssrc, mediaSSRC := remoteSSRC }
          state := .rtpfbNackItem }) := by
    have long : ¬ RTCPParserV2.length { parser.resetPacketType with blockEnd := data.length } <
        12 := by
      change ¬ data.length - parser.ptr < 12
      omega
    rw [parseFBCommon, if_neg long]
    change (data.uint32At (parser.ptr + 4)).bind _ = _
    rw [sender]
    change (data.uint32At (parser.ptr + 8)).bind _ = _
    rw [media]
    dsimp only [bind_some]
    rw [if_pos pt, rtpfbMessage, if_pos ic]
    rfl
  refine ⟨{ parser with
      ptr := parser.ptr + 12
      blockEnd := data.length
      packetType := .kRtcpRtpfbNackCode
      packet := .nack { senderSSRC := ssrc, mediaSSRC := remoteSSRC }
      state := .rtpfbNackItem }, ?_, rfl, rfl, ⟨valid, rfl, rfl,
        front ++ ([0x80 + 1, 205, 0, UInt8.ofNat (2 + fields.length)] ++
          uint32Bytes ssrc ++ uint32Bytes remoteSSRC), ?_, ?_⟩⟩
  · rw [RTCPParserV2.iterate, iterateFrom, if_neg (by rw [valid]; decide),
      if_pos top, iterateTopLevel]
    change (rtcpParseCommonHeader data parser.resetPacketType.ptr).bind _ = _
    rw [common]
    change (if data.length < parser.ptr + header.lengthInOctets.toNat then _ else _) = _
    rw [if_neg (by omega)]
    dsimp only
    have block : RTCPParserV2.parseBlock data header
        { parser.resetPacketType with
          blockEnd := parser.resetPacketType.ptr + header.lengthInOctets.toNat } =
        parseFBCommon data header
          { parser.resetPacketType with blockEnd := data.length } := by
      rw [RTCPParserV2.parseBlock, pt]
      change parseFBCommon data header { parser.resetPacketType with
        blockEnd := parser.ptr + header.lengthInOctets.toNat } = _
      rw [stops]
    rw [block, handled]
    rfl
  · rw [← framed, nackMessage]
    simp only [append_assoc]
  · rw [length_append, stands]
    rfl

theorem buildNACK_bytes {sender : RTCPSender} {nackList : List UInt16} {buffer : RtcpBuffer}
    (written : (sender.buildNACK nackList buffer).value = 0) :
    (sender.buildNACK nackList buffer).buffer.bytes = buffer.bytes ++
      nackMessage sender.ssrc sender.remoteSSRC
        (nackFields (maxNackFields buffer.position) nackList).1 := by
  rw [buildNACK, writeBlock] at written ⊢
  split at written
  · cases written
  · rename_i room
    rw [if_neg room]
    rfl

/-- What a receiver with the media source reads from a message is all that its fields stand
for. -/
theorem receiveNACK_buildNACK {sender : RTCPSender} {nackList : List UInt16}
    {buffer : RtcpBuffer} {parser : RTCPParserV2} (information : NackInformation)
    (written : (sender.buildNACK nackList buffer).value = 0)
    (valid : parser.validPacket = true) (top : parser.state = .topLevel)
    (stands : parser.ptr = buffer.position) :
    ∃ final received,
      receiveNACK sender.remoteSSRC (sender.buildNACK nackList buffer).buffer.bytes parser
          information = some (final, received) ∧
        received.nackSequenceNumbers =
          (nackFields (maxNackFields buffer.position) nackList).1.flatMap fieldNumbers := by
  have bound : (nackFields (maxNackFields buffer.position) nackList).1.length ≤
      kRtcpMaxNackFields := (nackFields_length_le _ _).trans (Nat.min_le_left _ _)
  rw [buildNACK_bytes written]
  generalize (nackFields (maxNackFields buffer.position) nackList).1 = fields at bound ⊢
  rcases iterate_nackMessage sender.ssrc sender.remoteSSRC bound valid top stands with
    ⟨next, iterated, type, packet, atFields⟩
  generalize buffer.bytes ++ nackMessage sender.ssrc sender.remoteSSRC fields = data at *
  have enough : fields.length < data.length + 1 := by
    rcases atFields.reads with ⟨front, bytes, _⟩
    rw [bytes, length_append, fieldBytes_flatMap_length]
    omega
  have room : 0 + 17 * fields.length ≤ kSendSideNackListSizeSanity := by
    rw [Nat.zero_add]
    exact (Nat.mul_le_mul_left 17 bound).trans (by decide)
  rcases atFields.handled (data.length + 1) information.resetNACKPacketIdArray enough room with
    ⟨final, received, handled, numbers⟩
  refine ⟨final, received, ?_, numbers⟩
  rw [receiveNACK, iterated]
  dsimp only [bind_eq_bind, bind_some]
  rw [type, packet]
  dsimp only
  rw [handleNACK]
  simp only [ne_eq, not_true_eq_false, if_false]
  exact handled

/-- A list that fits is received as the same numbers, once each. They come in the order of the
list exactly when the numbers behind the first one of every field ascend from it, as they do in
every ascending list. -/
theorem receiveNACK_roundTrip (sender : RTCPSender) (nackList : List UInt16)
    (buffer : RtcpBuffer) (parser : RTCPParserV2) (information : NackInformation)
    (distinct : nackList.Nodup) (written : (sender.buildNACK nackList buffer).value = 0)
    (whole : (nackFields (maxNackFields buffer.position) nackList).2 = [])
    (valid : parser.validPacket = true) (top : parser.state = .topLevel)
    (stands : parser.ptr = buffer.position) :
    ∃ final received,
      receiveNACK sender.remoteSSRC (sender.buildNACK nackList buffer).buffer.bytes parser
          information = some (final, received) ∧
        received.nackSequenceNumbers.Perm nackList ∧
        (received.nackSequenceNumbers = nackList ↔
          ∀ group ∈ nackGroups (maxNackFields buffer.position) nackList, Ascends group) ∧
        (Ascending nackList → received.nackSequenceNumbers = nackList) := by
  rcases receiveNACK_buildNACK information written valid top stands with
    ⟨final, received, run, numbers⟩
  have ordered := fieldNumbers_eq_iff (maxNackFields buffer.position) nackList distinct whole
  refine ⟨final, received, run, ?_, ?_, fun ascending => ?_⟩
  · rw [numbers]
    exact fieldNumbers_perm _ nackList distinct whole
  · rw [numbers]
    exact ordered
  · rw [numbers]
    exact ordered.mpr (ascending.groups _ nackList)

def beginningParser : RTCPParserV2 where
  validPacket := true
  ptr := 0
  blockEnd := 0
  state := .topLevel
  numberOfBlocks := 0
  packetType := .kRtcpNotValidCode
  packet := .nack { senderSSRC := 0, mediaSSRC := 0 }

def noInformation : NackInformation := { rtcpPacketTypeFlags := 0, nackSequenceNumbers := [] }

theorem receiveNACK_roundTrip_wrapping :
    ∃ final received,
      receiveNACK 0 ((create true).buildNACK [65535, 0, 40] .empty).buffer.bytes beginningParser
          noInformation = some (final, received) ∧
        received.nackSequenceNumbers.Perm [65535, 0, 40] ∧
        (received.nackSequenceNumbers = [65535, 0, 40] ↔
          ∀ group ∈ nackGroups (maxNackFields 0) [65535, 0, 40], Ascends group) ∧
        (Ascending [65535, 0, 40] → received.nackSequenceNumbers = [65535, 0, 40]) :=
  receiveNACK_roundTrip (create true) [65535, 0, 40] .empty beginningParser noInformation
    (by decide) rfl rfl rfl rfl rfl

/-- A mask has no order: of a list that does not ascend the order is lost. -/
theorem not_receiveNACK_sameOrder :
    ¬ ∀ (sender : RTCPSender) (nackList : List UInt16) (buffer : RtcpBuffer)
        (parser : RTCPParserV2) (information : NackInformation),
      nackList.Nodup → (sender.buildNACK nackList buffer).value = 0 →
      (nackFields (maxNackFields buffer.position) nackList).2 = [] →
      parser.validPacket = true → parser.state = .topLevel → parser.ptr = buffer.position →
      ∃ final received,
        receiveNACK sender.remoteSSRC (sender.buildNACK nackList buffer).buffer.bytes parser
            information = some (final, received) ∧
          received.nackSequenceNumbers = nackList := by
  intro same
  rcases same (create true) [1, 5, 3] .empty beginningParser noInformation (by decide) rfl rfl
    rfl rfl rfl with ⟨final, received, run, numbers⟩
  have sorted : (receiveNACK (create true).remoteSSRC
      ((create true).buildNACK [1, 5, 3] .empty).buffer.bytes beginningParser
        noInformation).map (·.2.nackSequenceNumbers) = some [1, 3, 5] := by decide +kernel
  rw [run, map_some, numbers] at sorted
  exact absurd sorted (by decide)

end ZyWebRtc.Rtcp
