import ZyWebRtc.Fec.MaskedPayload
import ZyWebRtc.Fec.Producer

namespace ZyWebRtc.Fec

/-! What a producer of FEC packets holds over a sequence of calls. -/

open List Option Buffer

/-! ## Generated packets -/

theorem protectPacket_length_le (lBit : Bool) {mediaPacket generated : Packet}
    (valid : validMediaPacket mediaPacket = true) (fits : generated.length.toNat ≤ ipPacketSize) :
    (protectPacket lBit mediaPacket generated).length.toNat ≤ ipPacketSize := by
  rcases (validMediaPacket_iff mediaPacket).mp valid with ⟨header, small⟩
  have sizes := ulpHeaderSizeFor_cases lBit
  rw [protectPacket]
  dsimp only
  split_ifs
  · rw [UInt16.toNat_add, UInt16.toNat_ofNat', kFecHeaderSize, kRtpHeaderSize, ipPacketSize]
    omega
  · exact fits

theorem protectAll_length_le (lBit : Bool) (mediaPackets : List Packet) {generated : Packet}
    (valid : ∀ packet ∈ mediaPackets, validMediaPacket packet = true)
    (fits : generated.length.toNat ≤ ipPacketSize) :
    (protectAll lBit mediaPackets generated).length.toNat ≤ ipPacketSize := by
  induction mediaPackets generalizing generated with
  | nil => exact fits
  | cons packet rest induction =>
    rw [forall_mem_cons] at valid
    exact induction valid.2 (protectPacket_length_le lBit valid.1 fits)

/-- The sequence numbers of media packets that a mask can be made for. -/
structure SeqNumsFit (mediaPackets : List Packet) : Prop where
  ascending : Ascending mediaPackets
  span : ∀ packet ∈ mediaPackets, offsetFrom (baseSeqNum mediaPackets) packet < 48
  starts : EveryByteStarts (baseSeqNum mediaPackets) mediaPackets

/-- An FEC packet over media packets, as it is buffered. -/
structure Protects (mediaPackets : List Packet) (fecPacket : Packet) : Prop where
  base : fecPacket.word 2 = baseSeqNum mediaPackets
  fits : fecPacket.length.toNat ≤ ipPacketSize

theorem getNumberOfFecPackets_zero (numMediaPackets : Nat) :
    getNumberOfFecPackets numMediaPackets 0 = 0 := by
  rw [getNumberOfFecPackets, UInt8.toNat_zero, Nat.mul_zero]
  rfl

theorem getNumberOfFecPackets_pos (numMediaPackets : Nat) {protectionFactor : UInt8}
    (protects : protectionFactor ≠ 0) :
    0 < getNumberOfFecPackets numMediaPackets protectionFactor := by
  have positive : 0 < protectionFactor := UInt8.pos_iff_ne_zero.mpr protects
  rw [getNumberOfFecPackets]
  split_ifs with none
  · exact Nat.one_pos
  · exact Nat.pos_of_ne_zero fun zero => none ⟨positive, zero⟩

section Generation

variable (generatePacketMasks : FecMaskType → (numMediaPackets numFecPackets : Nat) →
  (numImportantPackets : Int) → (useUnequalProtection : Bool) → Buffer)

theorem generateFec_protects {mediaPackets : List Packet} {protectionFactor : UInt8}
    {numImportantPackets : Int} (useUnequalProtection : Bool) (fecMaskType : FecMaskType)
    (valid : validMedia mediaPackets numImportantPackets = true)
    (seqNums : SeqNumsFit mediaPackets) (protects : protectionFactor ≠ 0) :
    ∃ fecPackets, generateFec generatePacketMasks mediaPackets protectionFactor
        numImportantPackets useUnequalProtection fecMaskType [] = some (0, fecPackets) ∧
      fecPackets ≠ [] ∧ ∀ fecPacket ∈ fecPackets, Protects mediaPackets fecPacket := by
  have positive := getNumberOfFecPackets_pos mediaPackets.length protects
  rw [generateFec, if_neg (by rw [valid]; decide)]
  dsimp only
  rw [if_neg (Nat.ne_of_gt positive)]
  generalize getNumberOfFecPackets mediaPackets.length protectionFactor = numFecPackets at positive ⊢
  generalize generatePacketMasks fecMaskType mediaPackets.length numFecPackets numImportantPackets
    useUnequalProtection = packetMask
  have rowLengths := maskRows_length packetMask mediaPackets.length numFecPackets
  have someRow := maskRows_ne_nil packetMask mediaPackets.length positive
  generalize maskRows packetMask mediaPackets.length numFecPackets = rows at rowLengths someRow ⊢
  rw [validMedia] at valid
  simp only [Bool.and_eq_true, decide_eq_true_eq, List.all_eq_true] at valid
  rcases valid with ⟨⟨⟨⟨some, accepted⟩, -⟩, -⟩, packetsValid⟩
  rcases exists_cons_of_ne_nil some with ⟨first, rest, rfl⟩
  rcases protectMedia_stops seqNums.ascending seqNums.span accepted rowLengths
    ((everyByteStarts_iff seqNums.ascending).mp seqNums.starts) with
    ⟨lBit, widened, protectedEq, sameLength, -⟩
  rw [protectedEq]
  refine ⟨_, rfl, ?_, List.forall_mem_map.mpr fun row _ => ⟨?_, ?_⟩⟩
  · rw [← length_pos_iff] at someRow ⊢
    rw [length_map]
    omega
  · exact writeUlpHeader_word lBit first _
  · change (protectAll lBit _ Packet.new).length.toNat ≤ ipPacketSize
    apply protectAll_length_le lBit _ _ (Nat.zero_le _)
    exact fun packet member => packetsValid packet (mem_filter.mp member).1

theorem generateFec_unprotected (mediaPackets : List Packet) (numImportantPackets : Int)
    (useUnequalProtection : Bool) (fecMaskType : FecMaskType) :
    ∃ ret, generateFec generatePacketMasks mediaPackets 0 numImportantPackets
      useUnequalProtection fecMaskType [] = some (ret, []) := by
  rw [generateFec]
  dsimp only
  rw [getNumberOfFecPackets_zero, if_pos rfl]
  split_ifs
  · exact ⟨-1, rfl⟩
  · exact ⟨0, rfl⟩

end Generation

namespace ProducerFec

/-- The buffers of a producer. -/
structure Consistent (producer : ProducerFec) : Prop where
  accepted : producer.mediaPacketsFec.length ≤ kMaxMediaPackets
  hasBase : producer.fecAvailable = true → producer.mediaPacketsFec ≠ [] ∧
    ∀ fecPacket ∈ producer.fecPackets, fecPacket.word 2 = baseSeqNum producer.mediaPacketsFec

/-- What the calls keep. -/
structure Invariant (producer : ProducerFec) : Prop where
  accepted : producer.mediaPacketsFec.length ≤ kMaxMediaPackets
  firstPartition : producer.numFirstPartition ≤ kMaxMediaPackets
  someMedia : producer.fecPackets ≠ [] → producer.mediaPacketsFec ≠ []
  fecPackets : ∀ fecPacket ∈ producer.fecPackets, Protects producer.mediaPacketsFec fecPacket

variable {producer : ProducerFec}

theorem fecAvailable_iff : producer.fecAvailable = true ↔ producer.fecPackets ≠ [] :=
  decide_eq_true_iff

theorem Invariant.consistent (invariant : producer.Invariant) : producer.Consistent where
  accepted := invariant.accepted
  hasBase := by
    intro available
    refine ⟨invariant.someMedia (fecAvailable_iff.mp available), fun fecPacket member => ?_⟩
    exact (invariant.fecPackets fecPacket member).base

theorem new_invariant : Invariant new where
  accepted := Nat.zero_le _
  firstPartition := Int.natCast_nonneg _
  someMedia := fun some => absurd rfl some
  fecPackets := fun _ member => by cases member

theorem setFecParameters_invariant (params : FecProtectionParams) (numFirstPartition : Int)
    (invariant : producer.Invariant) :
    (producer.setFecParameters params numFirstPartition).Invariant where
  accepted := invariant.accepted
  firstPartition := Int.min_le_right _ _
  someMedia := invariant.someMedia
  fecPackets := invariant.fecPackets

/-- The bytes of an RTP packet are in its buffer, and fit in the buffer of a packet. -/
structure ReadableBuffer (dataBuffer : Bytes) (payloadLength rtpHeaderLength : Nat) : Prop where
  marker : 2 ≤ dataBuffer.length
  inside : payloadLength + rtpHeaderLength ≤ dataBuffer.length
  fits : payloadLength + rtpHeaderLength ≤ ipPacketSize

section

variable {dataBuffer : Bytes} {payloadLength rtpHeaderLength : Nat}
  (readable : ReadableBuffer dataBuffer payloadLength rtpHeaderLength)

include readable

theorem mediaPacket_readable :
    ∃ packet, mediaPacket dataBuffer (UInt16.ofNat (payloadLength + rtpHeaderLength)) =
      some packet := by
  have inside := readable.inside
  have fits := readable.fits
  have length : (UInt16.ofNat (payloadLength + rtpHeaderLength)).toNat =
      payloadLength + rtpHeaderLength := by
    rw [ipPacketSize] at fits
    rw [UInt16.toNat_ofNat', Nat.mod_eq_of_lt (by omega)]
  rw [mediaPacket, length, Bytes.bytesAt_inside (by omega)]
  simp only [bind_eq_bind, bind_some]
  rw [copyIn_inside _ (by rw [length_take, length_drop]; omega)]
  exact ⟨_, rfl⟩

theorem pushMediaPacket_readable (accepted : producer.mediaPacketsFec.length ≤ kMaxMediaPackets) :
    ∃ mediaPackets, pushMediaPacket dataBuffer (UInt16.ofNat (payloadLength + rtpHeaderLength))
        producer = some { producer with mediaPacketsFec := mediaPackets } ∧
      mediaPackets ≠ [] ∧ mediaPackets.length ≤ kMaxMediaPackets := by
  rw [pushMediaPacket]
  split_ifs with room
  · rcases mediaPacket_readable readable with ⟨packet, packetEq⟩
    rw [packetEq]
    refine ⟨_, rfl, append_ne_nil_of_right_ne_nil _ (cons_ne_nil packet []), ?_⟩
    rw [length_append, length_singleton]
    exact room
  · refine ⟨producer.mediaPacketsFec, rfl, fun none => room ?_, accepted⟩
    rw [none]
    decide

theorem addRtpPacket_readable (invariant : producer.Invariant) (taken : producer.fecPackets = []) :
    ∃ stored, producer.addRtpPacket dataBuffer payloadLength rtpHeaderLength = some stored ∧
      stored.Invariant ∧ stored.fecPackets = [] ∧ stored.mediaPacketsFec ≠ [] := by
  have marker := readable.marker
  rw [addRtpPacket, if_neg (not_not_intro taken), Bytes.byteAt_inside (by omega)]
  simp only [bind_eq_bind, bind_some]
  generalize (if producer.mediaPacketsFec = [] then producer.newParams else producer.params) =
    params
  rcases pushMediaPacket_readable readable
    (show ({ producer with params := params } : ProducerFec).mediaPacketsFec.length ≤ _ from
      invariant.accepted) with ⟨mediaPackets, pushed, some, accepted⟩
  rw [pushed]
  refine ⟨_, rfl, ⟨accepted, invariant.firstPartition, fun _ => some, ?_⟩, taken, some⟩
  intro fecPacket member
  rw [show _ = _ from taken] at member
  cases member

end

/-- The buffered media packets are such that FEC packets can be made of them. -/
structure Protectable (producer : ProducerFec) : Prop where
  important : 0 ≤ producer.numFirstPartition ∧
    producer.numFirstPartition ≤ producer.mediaPacketsFec.length
  lengths : ∀ packet ∈ producer.mediaPacketsFec, validMediaPacket packet = true
  seqNums : SeqNumsFit producer.mediaPacketsFec

/-! ## Taking a packet -/

theorem setSeqNum_inside (packet : RedPacket) (seqNum : UInt16) (room : 4 ≤ packet.length) :
    ∃ written, packet.setSeqNum seqNum = some written ∧ written.length = packet.length ∧
      written.headerLength = packet.headerLength := by
  rw [RedPacket.setSeqNum, copyIn_inside _ (by rw [Bytes.uint16Bytes_length]; omega)]
  exact ⟨_, rfl, rfl, rfl⟩

theorem clearMarkerBit_inside (packet : RedPacket) (room : 2 ≤ packet.length) :
    ∃ written, packet.clearMarkerBit = some written ∧ written.length = packet.length ∧
      written.headerLength = packet.headerLength := by
  rw [RedPacket.clearMarkerBit, copyIn_inside _ (by rw [length_singleton]; omega)]
  exact ⟨_, rfl, rfl, rfl⟩

theorem assignPayload_inside (packet : RedPacket) {payload : Bytes} {length : Nat}
    (inside : length ≤ payload.length) (room : packet.headerLength + length ≤ packet.length) :
    ∃ written, packet.assignPayload payload length = some written := by
  rw [RedPacket.assignPayload, if_neg (by omega), Bytes.bytesAt_inside (by omega)]
  simp only [bind_eq_bind, bind_some]
  rw [copyIn_inside _ (by rw [length_take, length_drop]; omega)]
  exact ⟨_, rfl⟩

theorem createHeader_inside (packet : RedPacket) (rtpHeader : Buffer) (redPlType plType : UInt8)
    {headerLength : Nat} (fixed : 2 ≤ headerLength) (inside : headerLength ≤ ipPacketSize)
    (room : headerLength + 1 ≤ packet.length) :
    ∃ written, packet.createHeader (rtpHeader.slice 0 ipPacketSize) headerLength redPlType plType =
        some written ∧ written.length = packet.length ∧
      written.headerLength = headerLength + 1 := by
  have parts : rtpHeader.slice 0 ipPacketSize = rtpHeader.slice 0 headerLength ++
      rtpHeader.slice (0 + headerLength) (ipPacketSize - headerLength) := by
    rw [← slice_append, Nat.add_sub_cancel' inside]
  have sliceLength := slice_length rtpHeader 0 headerLength
  rcases createHeader_written packet
    (rtpHeader.slice (0 + headerLength) (ipPacketSize - headerLength)) redPlType plType
    (show 2 ≤ (rtpHeader.slice 0 headerLength).length by omega) (by omega) with ⟨data, created, -⟩
  rw [sliceLength, ← parts] at created
  exact ⟨_, created, rfl, rfl⟩

theorem buildFecPacket_inside (memory : Buffer) {packetToSend : Packet} (lastMediaPacket : Packet)
    (redPlType fecPlType : UInt8) (seqNum : UInt16) {rtpHeaderLength : Nat}
    (fits : packetToSend.length.toNat ≤ ipPacketSize) (fixed : 4 ≤ rtpHeaderLength)
    (inside : rtpHeaderLength ≤ ipPacketSize) :
    ∃ returnPacket, buildFecPacket memory packetToSend lastMediaPacket redPlType fecPlType seqNum
      rtpHeaderLength = some returnPacket := by
  have length : (RedPacket.new memory (packetToSend.length.toNat + kREDForFECHeaderLength +
      rtpHeaderLength)).length = packetToSend.length.toNat + 1 + rtpHeaderLength := rfl
  rw [buildFecPacket]
  generalize RedPacket.new memory (packetToSend.length.toNat + kREDForFECHeaderLength +
    rtpHeaderLength) = returnPacket at length ⊢
  rcases createHeader_inside returnPacket lastMediaPacket.data redPlType fecPlType
    (by omega) inside (by omega) with ⟨created, createdEq, createdLength, headerLength⟩
  rcases setSeqNum_inside created seqNum (by omega) with
    ⟨numbered, numberedEq, numberedLength, numberedHeader⟩
  rcases clearMarkerBit_inside numbered (by omega) with
    ⟨cleared, clearedEq, clearedLength, clearedHeader⟩
  rcases assignPayload_inside cleared
    (show packetToSend.length.toNat ≤ (packetToSend.data.slice 0 ipPacketSize).length by
      rw [slice_length]; exact fits) (by omega) with ⟨assigned, assignedEq⟩
  simp only [createdEq, numberedEq, clearedEq, assignedEq, bind_eq_bind, bind_some]
  exact ⟨assigned, rfl⟩

theorem getFecPacket_spec (memory : Buffer) (redPlType fecPlType : UInt8) (seqNum : UInt16)
    {rtpHeaderLength : Nat} (invariant : producer.Invariant)
    (header : producer.fecPackets ≠ [] → 4 ≤ rtpHeaderLength ∧ rtpHeaderLength ≤ ipPacketSize) :
    ∃ returnPacket next, producer.getFecPacket memory redPlType fecPlType seqNum rtpHeaderLength =
        some (returnPacket, next) ∧ next.Invariant ∧
      (producer.fecPackets ≠ [] → next.fecPackets = [] → next.mediaPacketsFec = []) := by
  cases buffered : producer.fecPackets with
  | nil =>
    refine ⟨none, producer, ?_, invariant, fun some => absurd rfl some⟩
    rw [getFecPacket, buffered]
  | cons packetToSend fecPackets =>
    have some := cons_ne_nil packetToSend fecPackets
    rw [← buffered] at some
    have protects := invariant.fecPackets
    rw [buffered, forall_mem_cons] at protects
    rcases header some with ⟨fixed, inside⟩
    have last := List.getLast?_eq_some_getLast (invariant.someMedia some)
    generalize producer.mediaPacketsFec.getLast _ = lastMediaPacket at last
    rcases buildFecPacket_inside memory lastMediaPacket redPlType fecPlType seqNum
      protects.1.fits fixed inside with ⟨returnPacket, built⟩
    rw [getFecPacket, buffered]
    simp only [last, built, bind_eq_bind, bind_some]
    refine ⟨_, _, rfl, ?_⟩
    split_ifs with none
    · refine ⟨⟨Nat.zero_le _, invariant.firstPartition, fun left => absurd none left, ?_⟩,
        fun _ _ => rfl⟩
      intro fecPacket member
      change fecPacket ∈ fecPackets at member
      rw [none] at member
      cases member
    · exact ⟨⟨invariant.accepted, invariant.firstPartition,
        fun _ => invariant.someMedia some, protects.2⟩, fun _ left => absurd left none⟩

/-! ## Runs -/

section Runs

variable (generatePacketMasks : FecMaskType → (numMediaPackets numFecPackets : Nat) →
  (numImportantPackets : Int) → (useUnequalProtection : Bool) → Buffer)

theorem generate_spec {stored : ProducerFec} (invariant : stored.Invariant)
    (taken : stored.fecPackets = []) (some : stored.mediaPacketsFec ≠ [])
    (protectable : stored.params.fecRate ≠ 0 → stored.Protectable) :
    ∃ ret next, stored.generate generatePacketMasks = Option.some (ret, next) ∧ next.Invariant ∧
      (stored.params.fecRate ≠ 0 → next.fecPackets ≠ []) ∧
      (ret ≠ 0 ∨ next.fecPackets = [] → next.mediaPacketsFec = [] ∧ next.fecPackets = []) := by
  rw [generate, if_neg (Int.not_lt.mpr invariant.firstPartition), taken]
  by_cases unprotected : stored.params.fecRate = 0
  · rcases generateFec_unprotected generatePacketMasks stored.mediaPacketsFec
      stored.numFirstPartition stored.params.useUepProtection stored.params.fecMaskType with
      ⟨ret, generated⟩
    rw [unprotected, generated]
    simp only [bind_eq_bind, bind_some, if_pos]
    refine ⟨ret, _, rfl, ⟨Nat.zero_le _, invariant.firstPartition, fun left => absurd rfl left, ?_⟩,
      fun rate => absurd rfl rate, fun _ => ⟨rfl, rfl⟩⟩
    exact fun _ member => by cases member
  · have protects := protectable unprotected
    have valid : validMedia stored.mediaPacketsFec stored.numFirstPartition = true := by
      rw [validMedia]
      simp only [Bool.and_eq_true, decide_eq_true_eq, List.all_eq_true]
      exact ⟨⟨⟨⟨some, invariant.accepted⟩, protects.important.2⟩, protects.important.1⟩,
        protects.lengths⟩
    rcases generateFec_protects generatePacketMasks stored.params.useUepProtection
      stored.params.fecMaskType valid protects.seqNums unprotected with
      ⟨fecPackets, generated, someFec, all⟩
    rw [generated]
    simp only [bind_eq_bind, bind_some, if_neg someFec]
    refine ⟨0, _, rfl, ⟨invariant.accepted, invariant.firstPartition, fun _ => some, all⟩,
      fun _ => someFec, fun fails => ?_⟩
    rcases fails with failed | none
    · exact absurd rfl failed
    · exact absurd none someFec

inductive Operation
  | setFecParameters (params : FecProtectionParams) (numFirstPartition : Int)
  | addRtpPacketAndGenerateFec (dataBuffer : Bytes) (payloadLength rtpHeaderLength : Nat)
  | getFecPacket (memory : Buffer) (redPlType fecPlType : UInt8) (seqNum : UInt16)
      (rtpHeaderLength : Nat)

/-- The state after a call. -/
def step (producer : ProducerFec) : Operation → Option ProducerFec
  | .setFecParameters params numFirstPartition =>
    some (producer.setFecParameters params numFirstPartition)
  | .addRtpPacketAndGenerateFec dataBuffer payloadLength rtpHeaderLength => do
    let (_, producer) ← producer.addRtpPacketAndGenerateFec generatePacketMasks dataBuffer
      payloadLength rtpHeaderLength
    pure producer
  | .getFecPacket memory redPlType fecPlType seqNum rtpHeaderLength => do
    let (_, producer) ← producer.getFecPacket memory redPlType fecPlType seqNum rtpHeaderLength
    pure producer

/-- What a call achieves: an attempt with protection gives an FEC packet, and nothing is left after an
attempt that fails or after the last FEC packet. -/
def Achieves (producer : ProducerFec) : Operation → Prop
  | .setFecParameters _ _ => True
  | .addRtpPacketAndGenerateFec dataBuffer payloadLength rtpHeaderLength =>
    ∃ stored ret next, producer.addRtpPacket dataBuffer payloadLength rtpHeaderLength = some stored ∧
      producer.addRtpPacketAndGenerateFec generatePacketMasks dataBuffer payloadLength
        rtpHeaderLength = some (ret, next) ∧
      (stored.generates = true → (stored.params.fecRate ≠ 0 → next.fecPackets ≠ []) ∧
        (ret ≠ 0 ∨ next.fecPackets = [] → next.mediaPacketsFec = [] ∧ next.fecPackets = []))
  | .getFecPacket memory redPlType fecPlType seqNum rtpHeaderLength =>
    ∃ returnPacket next, producer.getFecPacket memory redPlType fecPlType seqNum rtpHeaderLength =
        some (returnPacket, next) ∧
      (producer.fecPackets ≠ [] → next.fecPackets = [] → next.mediaPacketsFec = [])

/-- The calls that the buffers and the parameters are in order for. -/
def Permits (producer : ProducerFec) : Operation → Prop
  | .setFecParameters _ _ => True
  | .addRtpPacketAndGenerateFec dataBuffer payloadLength rtpHeaderLength =>
    producer.fecPackets = [] ∧ ReadableBuffer dataBuffer payloadLength rtpHeaderLength ∧
      ∀ stored, producer.addRtpPacket dataBuffer payloadLength rtpHeaderLength = some stored →
        stored.generates = true → stored.params.fecRate ≠ 0 → stored.Protectable
  | .getFecPacket _ _ _ _ rtpHeaderLength =>
    producer.fecPackets ≠ [] → 4 ≤ rtpHeaderLength ∧ rtpHeaderLength ≤ ipPacketSize

theorem step_invariant {operation : Operation} (invariant : producer.Invariant)
    (permitted : producer.Permits operation) :
    producer.Achieves generatePacketMasks operation ∧
      ∃ next, producer.step generatePacketMasks operation = some next ∧ next.Invariant := by
  cases operation with
  | setFecParameters params numFirstPartition =>
    exact ⟨trivial, _, rfl, setFecParameters_invariant params numFirstPartition invariant⟩
  | addRtpPacketAndGenerateFec dataBuffer payloadLength rtpHeaderLength =>
    rcases permitted with ⟨taken, readable, protectable⟩
    rcases addRtpPacket_readable readable invariant taken with
      ⟨stored, storedEq, storedInvariant, storedTaken, some⟩
    have added : producer.addRtpPacketAndGenerateFec generatePacketMasks dataBuffer payloadLength
        rtpHeaderLength = if stored.generates then stored.generate generatePacketMasks
          else Option.some (0, stored) := by
      rw [addRtpPacketAndGenerateFec, storedEq]
      rfl
    by_cases generates : stored.generates = true
    · rcases generate_spec generatePacketMasks storedInvariant storedTaken some
        (protectable stored storedEq generates) with
        ⟨ret, next, generated, nextInvariant, achieved⟩
      rw [if_pos generates, generated] at added
      refine ⟨⟨stored, ret, next, storedEq, added, fun _ => achieved⟩, next, ?_, nextInvariant⟩
      rw [step, added]
      rfl
    · rw [if_neg generates] at added
      refine ⟨⟨stored, 0, stored, storedEq, added, fun triggered => absurd triggered generates⟩,
        stored, ?_, storedInvariant⟩
      rw [step, added]
      rfl
  | getFecPacket memory redPlType fecPlType seqNum rtpHeaderLength =>
    rcases getFecPacket_spec memory redPlType fecPlType seqNum invariant permitted with
      ⟨returnPacket, next, taken, nextInvariant, achieved⟩
    refine ⟨⟨returnPacket, next, taken, achieved⟩, next, ?_, nextInvariant⟩
    rw [step, taken]
    rfl

/-- Every call of a run is permitted in the state before it. -/
def PermitsAll (producer : ProducerFec) : List Operation → Prop
  | [] => True
  | operation :: operations => producer.Permits operation ∧
      ∀ next, producer.step generatePacketMasks operation = some next → next.PermitsAll operations

/-- Every call of a run achieves what it should, and every state is consistent. -/
def AchievesAll (producer : ProducerFec) : List Operation → Prop
  | [] => producer.Consistent
  | operation :: operations => producer.Consistent ∧
      producer.Achieves generatePacketMasks operation ∧
      ∃ next, producer.step generatePacketMasks operation = some next ∧ next.AchievesAll operations

theorem achievesAll_of_invariant (operations : List Operation) (invariant : producer.Invariant)
    (permitted : producer.PermitsAll generatePacketMasks operations) :
    producer.AchievesAll generatePacketMasks operations := by
  induction operations generalizing producer with
  | nil => exact invariant.consistent
  | cons operation operations induction =>
    rcases step_invariant generatePacketMasks invariant permitted.1 with
      ⟨achieved, next, stepEq, nextInvariant⟩
    exact ⟨invariant.consistent, achieved, next, stepEq,
      induction nextInvariant (permitted.2 next stepEq)⟩

/-- Runs whose generation attempts can be made achieve what they should. -/
theorem new_achievesAll (operations : List Operation)
    (permitted : new.PermitsAll generatePacketMasks operations) :
    new.AchievesAll generatePacketMasks operations :=
  achievesAll_of_invariant generatePacketMasks operations new_invariant permitted

end Runs

/-- An RTP header with the marker bit, and nothing behind it. -/
def markedHeader : Bytes := [0x80, 0xe4, 0, 7, 0, 0, 0, 0, 0, 0, 0, 0]

def protectedFrame (numFirstPartition : Int) : List Operation :=
  [.setFecParameters ⟨60, false, 1, .kFecMaskRandom⟩ numFirstPartition,
    .addRtpPacketAndGenerateFec markedHeader 0 12]

theorem new_achievesAll_oneFrame :
    new.AchievesAll (fun _ _ _ _ _ => 0x80)
      (protectedFrame 1 ++ [.getFecPacket Buffer.zeros 96 97 8 12]) := by
  apply new_achievesAll
  refine ⟨trivial, fun next stepEq => ⟨?_, fun later _ => ⟨fun _ => by decide, fun _ _ => trivial⟩⟩⟩
  rw [← Option.some.inj stepEq]
  refine ⟨rfl, ⟨by decide, by decide, by decide⟩, fun stored storedEq _ _ => ?_⟩
  rw [← Option.some.inj storedEq]
  refine ⟨by decide, by decide, by rw [Ascending]; decide, by decide, fun byteIndex above => ?_⟩
  rcases above with ⟨packet, member, before⟩
  have isFirst := mem_singleton.mp member
  have zero : offsetFrom packet.parseSequenceNumber packet = 0 := offsetFrom_self packet
  rw [isFirst] at before zero
  refine ⟨_, mem_cons_self, zero.trans ?_⟩
  have start := before.trans zero.le
  omega

/-- The first partition of the frame before had two packets. -/
theorem not_new_achievesAll :
    ¬ new.AchievesAll (fun _ _ _ _ _ => 0x80) (protectedFrame 2) := by
  intro ⟨_, _, next, stepEq, _, ⟨stored, ret, after, storedEq, added, achieved⟩, _⟩
  rw [← Option.some.inj stepEq] at storedEq added
  have triggers : ((setFecParameters ⟨60, false, 1, .kFecMaskRandom⟩ 2 new).addRtpPacket markedHeader
      0 12).map (fun stored => (stored.generates, stored.params.fecRate)) = some (true, 60) := by
    decide
  have none : ((setFecParameters ⟨60, false, 1, .kFecMaskRandom⟩ 2 new).addRtpPacketAndGenerateFec
      (fun _ _ _ _ _ => 0x80) markedHeader 0 12).map (fun result => result.2.fecPackets.length) =
      some 0 := by
    decide
  rw [storedEq, map_some] at triggers
  rw [added, map_some] at none
  rcases Prod.mk.inj (Option.some.inj triggers) with ⟨trigger, rate⟩
  apply (achieved trigger).1
  · rw [rate]
    decide
  · exact length_eq_zero_iff.mp (Option.some.inj none)

end ProducerFec

end ZyWebRtc.Fec
