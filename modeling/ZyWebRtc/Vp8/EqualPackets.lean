import ZyWebRtc.Vp8.Packetizer

namespace ZyWebRtc.Vp8

/-! When `GeneratePackets` queues no empty packet. -/

open List

/-- Whether the partitions that are left give no empty packet, at the start of a packet or in one
that has bytes already. An empty partition starts a packet of its own, unless it follows at once on
a partition that the packet ends. -/
def FillsPackets (mode : VP8PacketizerMode) : (inPacket : Bool) → (left : List Nat) → Prop
  | _, [] => True
  | true, 0 :: rest => FillsPackets mode false rest
  | false, 0 :: rest => rest.sum = 0
  | _, (_ + 1) :: rest => FillsPackets mode (mode = .kEqualSize) rest

section

variable (mode : VP8PacketizerMode) (inPacket : Bool)

theorem fillsPackets_succ (length : Nat)
    (rest : List Nat) : FillsPackets mode inPacket ((length + 1) :: rest) ↔
      FillsPackets mode (mode = .kEqualSize) rest := by
  cases inPacket <;> rfl

theorem fillsPackets_of_sum_zero (left : List Nat)
    (nothing : left.sum = 0) : FillsPackets mode inPacket left := by
  induction left generalizing inPacket with
  | nil => trivial
  | cons length rest induction =>
    rw [sum_cons, Nat.add_eq_zero_iff] at nothing
    rcases nothing with ⟨rfl, nothing⟩
    cases inPacket with
    | false => exact nothing
    | true => exact induction false nothing

/-- What an empty partition with bytes behind it may follow. -/
theorem fillsPackets_iff (left : List Nat) :
    FillsPackets mode inPacket left ↔ ∀ before after, left = before ++ 0 :: after → 0 < after.sum →
        (before = [] ∧ inPacket = true) ∨
          mode = .kEqualSize ∧ ∃ front length, before = front ++ [length] ∧ 0 < length := by
  induction left generalizing inPacket with
  | nil =>
    refine ⟨fun _ before after split => ?_, fun _ => trivial⟩
    cases before <;> cases split
  | cons length rest induction =>
    cases length with
    | zero =>
      cases inPacket with
      | false =>
        constructor
        · intro nothing before after split positive
          have nothing : rest.sum = 0 := nothing
          rcases cons_eq_append_iff.mp split with ⟨rfl, same⟩ | ⟨later, rfl, same⟩
          · cases same
            omega
          · rw [same, sum_append, sum_cons] at nothing
            omega
        · intro follows
          change rest.sum = 0
          by_contra some
          rcases follows [] rest rfl (Nat.pos_of_ne_zero some) with
            ⟨-, impossible⟩ | ⟨-, front, length, empty, -⟩
          · cases impossible
          · cases front <;> cases empty
      | true =>
        change FillsPackets mode false rest ↔ _
        rw [induction false]
        constructor
        · intro follows before after split positive
          rcases cons_eq_append_iff.mp split with ⟨rfl, -⟩ | ⟨later, rfl, same⟩
          · exact .inl ⟨rfl, rfl⟩
          · rcases follows later after same positive with
              ⟨-, impossible⟩ | ⟨isEqualSize, front, length, rfl, nonzero⟩
            · cases impossible
            · exact .inr ⟨isEqualSize, 0 :: front, length, rfl, nonzero⟩
        · intro follows before after split positive
          rcases follows (0 :: before) after (by rw [split]; rfl) positive with
            ⟨impossible, -⟩ | ⟨isEqualSize, front, length, same, nonzero⟩
          · cases impossible
          · cases front with
            | nil =>
              cases same
              cases nonzero
            | cons first front =>
              rw [cons_append, List.cons.injEq] at same
              exact .inr ⟨isEqualSize, front, length, same.2, nonzero⟩
    | succ length =>
      rw [fillsPackets_succ, induction]
      constructor
      · intro follows before after split positive
        rcases cons_eq_append_iff.mp split with ⟨rfl, impossible⟩ | ⟨later, rfl, same⟩
        · cases impossible
        · rcases follows later after same positive with
            ⟨rfl, isEqualSize⟩ | ⟨isEqualSize, front, last, rfl, nonzero⟩
          · exact .inr ⟨of_decide_eq_true isEqualSize, [], length + 1, rfl, Nat.succ_pos length⟩
          · exact .inr ⟨isEqualSize, (length + 1) :: front, last, rfl, nonzero⟩
      · intro follows before after split positive
        rcases follows ((length + 1) :: before) after (by rw [split]; rfl) positive with
          ⟨impossible, -⟩ | ⟨isEqualSize, front, last, same, nonzero⟩
        · cases impossible
        · cases front with
          | nil =>
            cases same
            exact .inl ⟨rfl, decide_eq_true isEqualSize⟩
          | cons first front =>
            rw [cons_append, List.cons.injEq] at same
            exact .inr ⟨isEqualSize, front, last, same.2, nonzero⟩

end

theorem divide_of_nonneg {dividend divisor : Int} (nonnegative : 0 ≤ dividend)
    (positive : 0 < divisor) : divide dividend divisor = some (dividend / divisor) := by
  rw [divide, if_neg (by omega), Int.tdiv_eq_ediv_of_nonneg nonnegative]

namespace RtpFormatVp8

variable (format : RtpFormatVp8)

theorem balanceMode_eq (mode : VP8PacketizerMode) : balanceMode mode = true := by
  cases mode <;> rfl

theorem calcNextSize_spec {maxPayloadLen remainingBytes : Int} (roomNonnegative : 0 ≤ maxPayloadLen)
    (remainingNonnegative : 0 ≤ remainingBytes) (splitPayload : Bool) :
    ∃ size, format.calcNextSize maxPayloadLen remainingBytes splitPayload = some size ∧
      0 ≤ size ∧ size ≤ maxPayloadLen ∧ size ≤ remainingBytes ∧
      (size = 0 ↔ maxPayloadLen = 0 ∨ remainingBytes = 0 ∨
        splitPayload = false ∧ maxPayloadLen < remainingBytes) := by
  rw [calcNextSize, balanceMode_eq, if_pos (rfl : true = true)]
  split_ifs with nothing whole fits
  · exact ⟨0, rfl, Int.le_refl 0, roomNonnegative, remainingNonnegative, by tauto⟩
  · exact ⟨remainingBytes, rfl, remainingNonnegative, fits, Int.le_refl _, by omega⟩
  · exact ⟨0, rfl, Int.le_refl 0, roomNonnegative, remainingNonnegative, by
      rw [whole]
      exact ⟨fun _ => .inr (.inr ⟨rfl, by omega⟩), fun _ => rfl⟩⟩
  · have room : 0 < maxPayloadLen := by omega
    have some : 0 < remainingBytes := by omega
    have quotientNonnegative : 0 ≤ remainingBytes / maxPayloadLen :=
      Int.ediv_nonneg remainingNonnegative roomNonnegative
    have quotientSmall : remainingBytes / maxPayloadLen ≤ remainingBytes :=
      Int.ediv_le_self _ remainingNonnegative
    have covered : remainingBytes < (remainingBytes / maxPayloadLen + 1) * maxPayloadLen :=
      Int.lt_ediv_add_one_mul_self _ room
    rw [divide_of_nonneg remainingNonnegative room]
    generalize remainingBytes / maxPayloadLen = quotient at *
    change ∃ size, divide (2 * remainingBytes + (quotient + 1)) (2 * (quotient + 1)) = _ ∧ _
    rw [divide_of_nonneg (by omega) (by omega)]
    have positive : 1 ≤ (2 * remainingBytes + (quotient + 1)) / (2 * (quotient + 1)) :=
      (Int.le_ediv_iff_mul_le (by omega)).mpr (by omega)
    have inRoom : (2 * remainingBytes + (quotient + 1)) / (2 * (quotient + 1)) < maxPayloadLen + 1 :=
      (Int.ediv_lt_iff_lt_mul (by omega)).mpr (by linarith)
    have inPartition :
        (2 * remainingBytes + (quotient + 1)) / (2 * (quotient + 1)) < remainingBytes + 1 :=
      (Int.ediv_lt_iff_lt_mul (by omega)).mpr (by nlinarith)
    refine ⟨_, rfl, by omega, by omega, by omega, ?_⟩
    constructor
    · omega
    · rintro (noRoom | noBytes | ⟨whole, -⟩)
      · omega
      · omega
      · contradiction

/-- The partitions that are not sent yet, the first of them in part. -/
structure Reached (total : Int) (partIx : Nat) (left : List Nat) : Prop where
  bytes : total + left.sum = format.payloadSize
  partitions : left = [] ∨ ∃ length, format.fragmentationLength.drop partIx = length :: left.tail

variable {format}

theorem drop_succ_of_cons {lengths rest : List Nat} {partIx length : Nat}
    (here : lengths.drop partIx = length :: rest) : lengths.drop (partIx + 1) = rest := by
  rw [← drop_drop, here]
  rfl

/-- The partitions from the one behind a packet that filled up. -/
def leftAfter (remaining : Nat) (rest : List Nat) : List Nat :=
  if remaining = 0 then rest else remaining :: rest

theorem fillPacket_break (format : RtpFormatVp8) {beginning start : Bool} {fuel : Nat}
    {filling : Filling} {size : Int}
    (sizeEq : format.calcNextSize filling.remPayloadLen filling.remainingInPartition
      filling.splitPayload = some size)
    (nonzero : size ≠ 0) (some : size < filling.remainingInPartition) :
    format.fillPacket beginning start (fuel + 1) filling = .some { filling with
      packetBytes := filling.packetBytes + size
      remPayloadLen := filling.remPayloadLen - size
      remainingInPartition := filling.remainingInPartition - size } := by
  rw [fillPacket, sizeEq]
  change (if size = 0 then _ else _) = _
  rw [if_neg nonzero, if_neg, if_pos]
  · rfl
  · exact ⟨balanceMode_eq _, by dsimp only; omega⟩
  · rintro ⟨whole, -⟩
    dsimp only at whole
    omega

/-- Behind the end of a partition the packet goes on with the next one, or with nothing. -/
theorem fillPacket_next (format : RtpFormatVp8) (equalOrStrict : format.mode ≠ .kAggregate)
    {beginning start : Bool} {fuel : Nat} {filling : Filling} {size : Int} {rest : List Nat}
    {length : Nat}
    (sizeEq : format.calcNextSize filling.remPayloadLen filling.remainingInPartition
      filling.splitPayload = some size)
    (nonzero : size ≠ 0) (whole : filling.remainingInPartition = size)
    (here : format.fragmentationLength.drop filling.partIx = length :: rest) :
    ((format.mode = .kStrict ∨ rest = []) ∧ format.fillPacket beginning start (fuel + 1) filling =
        format.fillPacket beginning start fuel { filling with
          packetBytes := filling.packetBytes + size
          remPayloadLen := filling.remPayloadLen - size
          remainingInPartition := 0 }) ∨
    format.mode = .kEqualSize ∧ ∃ next later, rest = next :: later ∧
      format.fillPacket beginning start (fuel + 1) filling =
        format.fillPacket beginning start fuel {
          packetBytes := filling.packetBytes + size
          remPayloadLen := filling.remPayloadLen - size
          remainingInPartition := (next : Nat)
          partIx := filling.partIx + 1
          splitPayload := true } := by
  have last : filling.remainingInPartition - size = 0 := by omega
  rw [fillPacket, sizeEq]
  simp only [Option.bind_eq_bind, Option.bind_some, if_neg nonzero, last, true_and,
    Int.lt_irrefl, and_false, if_false]
  cases isMode : format.mode with
  | kAggregate => exact absurd isMode equalOrStrict
  | kStrict =>
    left
    refine ⟨.inl rfl, ?_⟩
    have alone : ¬ (filling.partIx + 1 < format.fragmentationLength.length ∧
        (aggrMode .kStrict = .kAggrFragments ∨
          aggrMode .kStrict = .kAggrPartitions ∧ start = true)) := by
      rintro ⟨-, impossible | ⟨impossible, -⟩⟩ <;> cases impossible
    rw [if_neg alone, ite_self]
  | kEqualSize =>
    rw [if_pos (by simp [separateFirstMode])]
    cases rest with
    | nil =>
      have end_ := congrArg List.length (drop_succ_of_cons here)
      rw [length_drop, length_nil] at end_
      left
      refine ⟨.inr rfl, ?_⟩
      rw [if_neg (by omega)]
    | cons next later =>
      have following := drop_succ_of_cons here
      have inside := congrArg List.length following
      rw [length_drop, length_cons] at inside
      have nextEq : format.fragmentationLength[filling.partIx + 1]? = some next := by
        rw [← List.head?_drop, following]
        rfl
      right
      refine ⟨rfl, next, later, rfl, ?_⟩
      rw [if_pos ⟨by omega, .inl rfl⟩, nextEq]
      rfl

theorem leftAfter_sum (remaining : Nat) (rest : List Nat) :
    (leftAfter remaining rest).sum = remaining + rest.sum := by
  rw [leftAfter]
  split_ifs with none
  · omega
  · rfl

theorem Reached.remaining_eq {total : Int} {partIx remaining length : Nat} {rest : List Nat}
    (reached : Reached format total partIx (remaining :: rest))
    (here : format.fragmentationLength.drop partIx = length :: rest) :
    format.fragmentationOffset partIx - total + length = remaining := by
  have bytes := reached.bytes
  have whole := congrArg List.sum (take_append_drop partIx format.fragmentationLength)
  rw [sum_append, here, sum_cons] at whole
  rw [sum_cons, payloadSize, ← whole] at bytes
  rw [fragmentationOffset]
  push_cast at *
  omega

/-- How a packet takes the bytes that are left, in their order. -/
structure Fills (format : RtpFormatVp8) (filling : Filling) (remaining : Nat) (rest : List Nat)
    (filled : Filling) (remaining' : Nat) (rest' : List Nat) : Prop where
  remainingEq : filled.remainingInPartition = remaining'
  partitions : ∃ length, format.fragmentationLength.drop filled.partIx = length :: rest'
  fewer : rest'.length ≤ rest.length
  bytes : filled.packetBytes + ((remaining' + rest'.sum : Nat) : Int) =
    filling.packetBytes + ((remaining + rest.sum : Nat) : Int)
  grows : filling.packetBytes ≤ filled.packetBytes
  empty : remaining = 0 → remaining' = 0 ∧ filled.packetBytes = filling.packetBytes
  nonempty : 0 < remaining → 0 < filling.remPayloadLen → filling.packetBytes < filled.packetBytes
  fillsPackets : FillsPackets format.mode true (remaining :: rest) ↔
    FillsPackets format.mode false (leftAfter remaining' rest')

namespace Fills

variable {filling filled : Filling} {remaining remaining' : Nat} {rest rest' : List Nat}

theorem decreases (fills : Fills format filling remaining rest filled remaining' rest')
    (room : 0 < filling.remPayloadLen) :
    (leftAfter remaining' rest').sum + (leftAfter remaining' rest').length <
      (remaining :: rest).sum + (remaining :: rest).length := by
  have fewer := fills.fewer
  have bytes := fills.bytes
  have grows := fills.grows
  rw [leftAfter_sum, sum_cons, length_cons, leftAfter]
  by_cases some : 0 < remaining
  · have taken := fills.nonempty some room
    split_ifs
    · omega
    · rw [length_cons]
      omega
  · have none := (fills.empty (by omega)).1
    rw [if_pos none]
    omega

theorem reached {total : Int} {partIx : Nat}
    (before : Reached format total partIx (remaining :: rest)) (fromEmpty : filling.packetBytes = 0)
    (fills : Fills format filling remaining rest filled remaining' rest') :
    Reached format (total + filled.packetBytes)
      (if filled.remainingInPartition = 0 then filled.partIx + 1 else filled.partIx)
      (leftAfter remaining' rest') where
  bytes := by
    have bytes := fills.bytes
    have earlier := before.bytes
    rw [leftAfter_sum]
    rw [sum_cons] at earlier
    omega
  partitions := by
    rcases fills.partitions with ⟨length, here⟩
    rw [leftAfter, fills.remainingEq]
    by_cases none : remaining' = 0
    · rw [if_pos none, if_pos (by omega), drop_succ_of_cons here]
      cases rest' with
      | nil => exact .inl rfl
      | cons next later => exact .inr ⟨next, rfl⟩
    · rw [if_neg none, if_neg (by omega)]
      exact .inr ⟨length, here⟩

end Fills

theorem fillPacket_spec (equalOrStrict : format.mode ≠ .kAggregate) (beginning start : Bool) :
    ∀ (fuel : Nat) (filling : Filling) (remaining : Nat) (rest : List Nat) (length : Nat),
      filling.remainingInPartition = remaining →
      filling.splitPayload = true →
      0 ≤ filling.remPayloadLen →
      filling.remPayloadLen < fuel →
      format.fragmentationLength.drop filling.partIx = length :: rest →
      ∃ filled remaining' rest', format.fillPacket beginning start fuel filling = some filled ∧
        Fills format filling remaining rest filled remaining' rest' := by
  intro fuel
  induction fuel with
  | zero =>
    intro filling remaining rest length _ _ nonnegative small
    omega
  | succ fuel induction =>
    intro filling remaining rest length atRemaining splits roomNonnegative enough here
    rcases format.calcNextSize_spec roomNonnegative
      (atRemaining ▸ Int.natCast_nonneg remaining) filling.splitPayload with
      ⟨size, sizeEq, sizeNonnegative, inRoom, inPartition, zeroIff⟩
    rw [splits] at zeroIff
    by_cases none : size = 0
    · -- The packet or the partition is full.
      refine ⟨filling, remaining, rest, ?_, atRemaining, ⟨length, here⟩, Nat.le_refl _, rfl,
        Int.le_refl _, fun empty => ⟨empty, rfl⟩, ?_, ?_⟩
      · rw [fillPacket, sizeEq]
        exact if_pos none
      · intro some room
        rcases zeroIff.mp none with noRoom | noBytes | ⟨impossible, -⟩
        · omega
        · omega
        · cases impossible
      · cases remaining with
        | zero => exact Iff.rfl
        | succ remaining => exact Iff.rfl
    · rcases show ∃ left : Nat, (left : Int) = remaining - size from
        ⟨(remaining - size).toNat, by omega⟩ with ⟨left, leftEq⟩
      rcases Nat.exists_eq_succ_of_ne_zero (show remaining ≠ 0 by omega) with ⟨before, rfl⟩
      have smaller : filling.remPayloadLen - size < fuel := by
        push_cast at enough
        omega
      cases left with
      | succ left =>
        -- The partition goes on in another packet.
        refine ⟨_, left + 1, rest, fillPacket_break format sizeEq none (by omega), ?_,
          ⟨length, here⟩, Nat.le_refl _, ?_, ?_, by omega, ?_, Iff.rfl⟩
        all_goals
          dsimp only
          omega
      | zero =>
        have whole : filling.remainingInPartition = size := by omega
        rcases fillPacket_next format equalOrStrict sizeEq none whole here with
          ⟨ends, continues⟩ | ⟨isEqualSize, next, later, rfl, continues⟩
        · rcases induction { filling with
              packetBytes := filling.packetBytes + size
              remPayloadLen := filling.remPayloadLen - size
              remainingInPartition := 0 } 0 rest length rfl splits (by dsimp only; omega)
            smaller here with
            ⟨filled, remaining', rest', filledEq, fills⟩
          have bytes := fills.bytes
          have grows := fills.grows
          dsimp only at bytes grows
          refine ⟨filled, remaining', rest', continues.trans filledEq, fills.remainingEq,
            fills.partitions, fills.fewer, by push_cast at *; omega, by omega, by omega,
            by omega, ?_⟩
          rw [← fills.fillsPackets, fillsPackets_succ]
          rcases ends with isStrict | rfl
          · rw [isStrict]
            exact Iff.rfl
          · exact ⟨fun _ => trivial, fun _ => by cases format.mode <;> trivial⟩
        · rcases induction {
              packetBytes := filling.packetBytes + size
              remPayloadLen := filling.remPayloadLen - size
              remainingInPartition := (next : Nat)
              partIx := filling.partIx + 1
              splitPayload := true } next later next rfl rfl (by dsimp only; omega)
            smaller (drop_succ_of_cons here) with
            ⟨filled, remaining', rest', filledEq, fills⟩
          have bytes := fills.bytes
          have grows := fills.grows
          dsimp only at bytes grows
          refine ⟨filled, remaining', rest', continues.trans filledEq, fills.remainingEq,
            fills.partitions, fills.fewer.trans (Nat.le_succ _), ?_, by omega, by omega,
            by omega, ?_⟩
          · rw [sum_cons]
            push_cast at *
            omega
          · rw [← fills.fillsPackets, fillsPackets_succ, isEqualSize]
            exact Iff.rfl

theorem generatePacketsFrom_spec (equalOrStrict : format.mode ≠ .kAggregate)
    (accepted : format.hdrInfo.overhead + 1 ≤ format.maxPayloadLen) :
    ∀ (fuel : Nat) (total : Int) (partIx : Nat) (start beginning : Bool) (left : List Nat),
      Reached format total partIx left →
      left.sum + left.length < fuel →
      ∃ packets, format.generatePacketsFrom fuel total partIx start beginning = some packets ∧
        ((∀ packet ∈ packets, 1 ≤ packet.size) ↔ FillsPackets format.mode false left) := by
  have overheadPositive := format.hdrInfo.overhead_pos
  intro fuel
  induction fuel with
  | zero =>
    intro total partIx start beginning left _ small
    omega
  | succ fuel induction =>
    intro total partIx start beginning left reached enough
    have bytes := reached.bytes
    rw [generatePacketsFrom]
    by_cases done : format.payloadSize ≤ total
    · rw [if_pos done]
      exact ⟨[], rfl, fun _ => fillsPackets_of_sum_zero format.mode false left (by omega),
        fun _ => by simp⟩
    · rw [if_neg done]
      cases left with
      | nil =>
        rw [sum_nil] at bytes
        omega
      | cons remaining rest =>
        rcases reached.partitions with impossible | ⟨length, here⟩
        · cases impossible
        have lengthEq : format.fragmentationLength[partIx]? = some length := by
          rw [← List.head?_drop, here]
          rfl
        have remainingEq := reached.remaining_eq here
        rcases fillPacket_spec equalOrStrict beginning start (format.maxPayloadLen.toNat + 1) {
            packetBytes := 0
            remPayloadLen := format.maxPayloadLen - format.hdrInfo.overhead
            remainingInPartition := format.fragmentationOffset partIx - total + length
            partIx
            splitPayload := true } remaining rest length remainingEq rfl
            (by dsimp only; omega) (by dsimp only; omega) here with
          ⟨filled, remaining', rest', filledEq, fills⟩
        rcases induction (total + filled.packetBytes)
            (if filled.remainingInPartition = 0 then filled.partIx + 1 else filled.partIx)
            (filled.remainingInPartition = 0) false (leftAfter remaining' rest')
            (fills.reached reached rfl) (by
              have decreases := fills.decreases (by dsimp only; omega)
              omega) with
          ⟨packets, packetsEq, later⟩
        simp only [lengthEq, filledEq, packetsEq, Option.bind_eq_bind, Option.bind_some]
        refine ⟨_, rfl, ?_⟩
        rw [forall_mem_cons, later]
        cases remaining with
        | zero =>
          have none := (fills.empty rfl).2
          dsimp only at none ⊢
          change _ ↔ rest.sum = 0
          rw [sum_cons] at bytes
          omega
        | succ remaining =>
          have taken := fills.nonempty (Nat.succ_pos remaining) (by dsimp only; omega)
          exact (and_iff_right taken).trans fills.fillsPackets.symm

theorem generatePackets_spec (equalOrStrict : format.mode ≠ .kAggregate)
    (accepted : format.hdrInfo.overhead + 1 ≤ format.maxPayloadLen) :
    ∃ packets, format.generatePackets = some (0, packets) ∧ ((∀ packet ∈ packets, 1 ≤ packet.size) ↔
        FillsPackets format.mode false format.fragmentationLength) := by
  have begins : Reached format 0 0 format.fragmentationLength := by
    refine ⟨Int.zero_add _, ?_⟩
    cases lengths : format.fragmentationLength with
    | nil => exact .inl rfl
    | cons length rest => exact .inr ⟨length, rfl⟩
  rcases generatePacketsFrom_spec equalOrStrict accepted _ 0 0 true true
    format.fragmentationLength begins (Nat.lt_succ_self _) with ⟨packets, packetsEq, nonempty⟩
  refine ⟨packets, ?_, nonempty⟩
  rw [generatePackets, if_neg (by omega), packetsEq]
  rfl

end RtpFormatVp8

end ZyWebRtc.Vp8
