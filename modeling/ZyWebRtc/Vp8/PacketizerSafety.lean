import ZyWebRtc.Foundation.Tiling
import ZyWebRtc.Vp8.AggregatePackets

namespace ZyWebRtc.Vp8

/-! The frames that are packetized without an empty packet and without a division by zero. -/

namespace RtpFormatVp8

/-- A frame gets its packets, all of them with bytes, and as long as something can be sent the next
size is neither zero nor more than there is room for. -/
structure PacketizesSafely (format : RtpFormatVp8) : Prop where
  packets : ∃ packets, format.calculatePackets = some (0, packets) ∧
    ∀ packet ∈ packets, 1 ≤ packet.size
  nextSize : ∀ maxPayloadLen remainingBytes splitPayload, 0 < maxPayloadLen → 0 < remainingBytes →
      (splitPayload = true ∨ remainingBytes ≤ maxPayloadLen) →
        ∃ size, format.calcNextSize maxPayloadLen remainingBytes splitPayload = some size ∧
          1 ≤ size ∧ size ≤ maxPayloadLen

/-- Where an empty partition may stand: in strict mode only behind all bytes, with packets of equal
size also at once behind a partition that is not empty, and among the partitions that are aggregated
together when one of them has bytes. -/
def EmptyPartitionsHarmless (format : RtpFormatVp8) : Prop :=
  match format.mode with
  | .kAggregate =>
    ∀ run ∈ format.fragmentationLength.splitOnP fun (length : Nat) =>
      decide (format.maxPayloadLen - format.hdrInfo.overhead ≤ (length : Int)),
      run ≠ [] → 0 < run.sum
  | .kStrict =>
    ∀ before after, format.fragmentationLength = before ++ 0 :: after → after.sum = 0
  | .kEqualSize =>
    ∀ before after, format.fragmentationLength = before ++ 0 :: after → 0 < after.sum →
      ∃ front length, before = front ++ [length] ∧ 0 < length

variable (format : RtpFormatVp8)

theorem fillsPackets_iff_harmless (equalOrStrict : format.mode ≠ .kAggregate) :
    FillsPackets format.mode false format.fragmentationLength ↔ format.EmptyPartitionsHarmless := by
  rw [fillsPackets_iff, EmptyPartitionsHarmless]
  cases isMode : format.mode with
  | kAggregate => exact absurd isMode equalOrStrict
  | kStrict =>
    constructor
    · intro follows before after split
      by_contra bytes
      rcases follows before after split (Nat.pos_of_ne_zero bytes) with
        ⟨-, impossible⟩ | ⟨impossible, -⟩ <;> cases impossible
    · intro follows before after split positive
      rw [follows before after split] at positive
      cases positive
  | kEqualSize =>
    constructor
    · intro follows before after split positive
      rcases follows before after split positive with ⟨-, impossible⟩ | ⟨-, behind⟩
      · cases impossible
      · exact behind
    · exact fun follows before after split positive =>
        .inr ⟨rfl, follows before after split positive⟩

theorem calculatePackets_iff (accepted : format.hdrInfo.overhead + 1 ≤ format.maxPayloadLen) :
    (∃ packets, format.calculatePackets = some (0, packets) ∧
      ∀ packet ∈ packets, 1 ≤ packet.size) ↔ format.EmptyPartitionsHarmless := by
  by_cases equalOrStrict : format.mode ≠ .kAggregate
  · have notAggregated : ¬ (aggrMode format.mode = .kAggrPartitions ∧
        balanceMode format.mode = true) := by
      rintro ⟨aggregated, -⟩
      cases isMode : format.mode with
      | kAggregate => exact equalOrStrict isMode
      | kStrict =>
        rw [isMode] at aggregated
        cases aggregated
      | kEqualSize =>
        rw [isMode] at aggregated
        cases aggregated
    rw [calculatePackets, if_neg notAggregated, ← format.fillsPackets_iff_harmless equalOrStrict]
    rcases generatePackets_spec equalOrStrict accepted with ⟨packets, packetsEq, nonempty⟩
    rw [packetsEq, ← nonempty]
    constructor
    · intro ⟨_, same, allNonempty⟩
      cases same
      exact allNonempty
    · exact fun allNonempty => ⟨packets, rfl, allNonempty⟩
  · have isAggregate := Decidable.not_not.mp equalOrStrict
    rw [calculatePackets, isAggregate, if_pos ⟨rfl, rfl⟩,
      generatePacketsBalancedAggregates_spec format accepted, EmptyPartitionsHarmless, isAggregate]
    rfl

/-- With an accepted payload length the frame is packetized safely exactly when its empty partitions
do no harm. -/
theorem packetizesSafely_iff (accepted : format.hdrInfo.overhead + 1 ≤ format.maxPayloadLen) :
    format.PacketizesSafely ↔ format.EmptyPartitionsHarmless := by
  rw [← format.calculatePackets_iff accepted]
  refine ⟨PacketizesSafely.packets, fun packets => ⟨packets, ?_⟩⟩
  intro maxPayloadLen remainingBytes splitPayload room bytes sendable
  rcases format.calcNextSize_spec room.le bytes.le splitPayload with
    ⟨size, sizeEq, nonnegative, inRoom, -, zeroIff⟩
  refine ⟨size, sizeEq, ?_, inRoom⟩
  by_contra notPositive
  rcases zeroIff.mp (by omega) with noRoom | noBytes | ⟨whole, tooLarge⟩
  · omega
  · omega
  · rcases sendable with splits | fits
    · rw [whole] at splits
      cases splits
    · omega

def withoutExtensions : RTPVideoHeaderVP8 where
  pictureId := -1
  tl0PicIdx := -1
  temporalIdx := -1
  keyIdx := -1

theorem packetizesSafely_emptyPartition :
    PacketizesSafely ⟨withoutExtensions, .kAggregate, [5, 0, 70], 60⟩ ↔
      EmptyPartitionsHarmless ⟨withoutExtensions, .kAggregate, [5, 0, 70], 60⟩ :=
  packetizesSafely_iff ⟨withoutExtensions, .kAggregate, [5, 0, 70], 60⟩ (by decide)

/-- The smallest aggregate is empty, and the number of fragments of the large partition behind it is
computed with a division by its size. -/
theorem not_packetizesSafely_emptyFirst :
    ¬ PacketizesSafely ⟨withoutExtensions, .kAggregate, [0, 70], 60⟩ := by
  intro safely
  rcases safely.packets with ⟨packets, packetsEq, -⟩
  have divides : calculatePackets ⟨withoutExtensions, .kAggregate, [0, 70], 60⟩ = none := by
    decide
  rw [divides] at packetsEq
  cases packetsEq

/-! ## The layout of the packets -/

open List Tiling

/-- A packet that is being filled has its bytes and what is left of its room. -/
theorem fillPacket_room (format : RtpFormatVp8) (beginning start : Bool) {fuel : Nat} :
    ∀ {filling filled : Filling}, 0 ≤ filling.remPayloadLen → 0 ≤ filling.remainingInPartition →
      format.fillPacket beginning start fuel filling = some filled →
      filled.packetBytes ≤ filling.packetBytes + filling.remPayloadLen := by
  induction fuel with
  | zero => exact fun _ _ none => nomatch none
  | succ fuel induction =>
    intro filling filled room remaining run
    rcases format.calcNextSize_spec room remaining filling.splitPayload with
      ⟨size, sizeEq, nonnegative, inRoom, inPartition, -⟩
    rw [fillPacket, sizeEq] at run
    simp only [Option.bind_eq_bind, Option.bind_some] at run
    split_ifs at run
    · cases run
      omega
    · rcases Option.bind_eq_some_iff.mp run with ⟨length, -, onwards⟩
      have later := induction (by dsimp only; omega) (by dsimp only; omega) onwards
      dsimp only at later
      omega
    · have later := induction (by dsimp only; omega) (by dsimp only; omega) run
      dsimp only at later
      omega
    · cases run
      dsimp only
      omega
    · have later := induction (by dsimp only; omega) (by dsimp only; omega) run
      dsimp only at later
      omega

variable {format : RtpFormatVp8}

theorem generatePacketsFrom_tiles (equalOrStrict : format.mode ≠ .kAggregate)
    (accepted : format.hdrInfo.overhead + 1 ≤ format.maxPayloadLen) {fuel : Nat} :
    ∀ {total : Int} {partIx : Nat} {start beginning : Bool} {left : List Nat}
      {packets : List InfoStruct}, Reached format total partIx left →
      format.generatePacketsFrom fuel total partIx start beginning = some packets →
      Tiles InfoStruct.payloadStartPos InfoStruct.size total packets ∧
        total + extent InfoStruct.size packets = format.payloadSize ∧
        ∀ packet ∈ packets, packet.size ≤ format.maxPayloadLen - format.hdrInfo.overhead := by
  have overheadPositive := format.hdrInfo.overhead_pos
  induction fuel with
  | zero => exact fun _ none => nomatch none
  | succ fuel induction =>
    intro total partIx start beginning left packets reached run
    have bytes := reached.bytes
    rw [generatePacketsFrom] at run
    split_ifs at run with done
    · cases run
      refine ⟨trivial, by rw [extent_nil]; omega, ?_⟩
      rintro packet ⟨⟩
    cases left with
    | nil =>
      rw [sum_nil] at bytes
      omega
    | cons remaining rest =>
      rcases reached.partitions with impossible | ⟨length, here⟩
      · cases impossible
      have lengthEq : format.fragmentationLength[partIx]? = some length := by
        rw [← head?_drop, here]
        rfl
      have remainingEq := reached.remaining_eq here
      rw [lengthEq] at run
      simp only [Option.bind_eq_bind, Option.bind_some, Option.bind_eq_some_iff,
        Option.pure_def, Option.some.injEq] at run
      rcases run with ⟨filled, filledEq, later, laterEq, rfl⟩
      rcases fillPacket_spec equalOrStrict beginning start (format.maxPayloadLen.toNat + 1)
        ⟨0, format.maxPayloadLen - format.hdrInfo.overhead,
          format.fragmentationOffset partIx - total + length, partIx, true⟩
        remaining rest length remainingEq rfl (by dsimp only; omega) (by dsimp only; omega) here
        with ⟨same, remaining', rest', sameEq, fills⟩
      cases filledEq.symm.trans sameEq
      have inRoom := fillPacket_room format beginning start (by dsimp only; omega)
        (by dsimp only; omega) filledEq
      dsimp only at inRoom
      rcases induction (fills.reached reached rfl) laterEq with ⟨tiles, ends, sizes⟩
      refine ⟨⟨rfl, tiles⟩, ?_, forall_mem_cons.mpr ⟨by dsimp only; omega, sizes⟩⟩
      rw [extent_cons, ← ends]
      dsimp only
      omega

/-- In strict mode and with packets of equal size, the packets lie end to end over the whole frame,
and each fits behind its payload descriptor. -/
theorem generatePackets_tiles (equalOrStrict : format.mode ≠ .kAggregate)
    (accepted : format.hdrInfo.overhead + 1 ≤ format.maxPayloadLen) :
    ∃ packets, format.generatePackets = some (0, packets) ∧
      Tiles InfoStruct.payloadStartPos InfoStruct.size 0 packets ∧
      extent InfoStruct.size packets = format.payloadSize ∧
      ∀ packet ∈ packets, packet.size ≤ format.maxPayloadLen - format.hdrInfo.overhead := by
  rcases generatePackets_spec equalOrStrict accepted with ⟨packets, packetsEq, -⟩
  refine ⟨packets, packetsEq, ?_⟩
  rw [generatePackets, if_neg (by omega)] at packetsEq
  rcases Option.bind_eq_some_iff.mp packetsEq with ⟨others, generated, same⟩
  cases same
  have begins : Reached format 0 0 format.fragmentationLength := by
    refine ⟨Int.zero_add _, ?_⟩
    cases lengths : format.fragmentationLength with
    | nil => exact .inl rfl
    | cons length rest => exact .inr ⟨length, rfl⟩
  rcases generatePacketsFrom_tiles equalOrStrict accepted begins generated with ⟨tiles, ends, sizes⟩
  exact ⟨tiles, by rw [← ends, zero_add], sizes⟩

theorem generatePackets_tiles_equalSize : ∃ packets,
    generatePackets ⟨withoutExtensions, .kEqualSize, [5, 0, 170], 60⟩ = some (0, packets) ∧
      Tiles InfoStruct.payloadStartPos InfoStruct.size 0 packets ∧
      extent InfoStruct.size packets =
        payloadSize ⟨withoutExtensions, .kEqualSize, [5, 0, 170], 60⟩ ∧
      ∀ packet ∈ packets, packet.size ≤ 60 - withoutExtensions.overhead :=
  generatePackets_tiles (by decide) (by decide)

end RtpFormatVp8

end ZyWebRtc.Vp8
