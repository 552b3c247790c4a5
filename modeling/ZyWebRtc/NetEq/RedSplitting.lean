import ZyWebRtc.NetEq.Packet
import ZyWebRtc.NetEq.RedPayload

namespace ZyWebRtc.NetEq

/-! `PayloadSplitter::SplitRed`. Pointers into a payload are the bytes from there on. There is no
value when a byte outside the payload is read, or a block of negative length is copied. -/

open Option RedPayload RedHeader List

open Rtp (RTPHeader)

def kOK : Int := 0

def kRedLengthMismatch : Int := -4

/-- A new packet whose payload is not there yet. -/
structure NewPacket where
  header : RTPHeader
  payloadLength : Int
  primary : Bool
  deriving DecidableEq, Repr

section

variable (redPacket : Packet)

/-- The primary block has what the others leave. -/
def readPrimary (first : UInt8) (sumLength : Int) : NewPacket where
  header := { redPacket.header with payloadType := first &&& 0x7F }
  payloadLength := redPacket.payloadLength - (sumLength + 1)
  primary := true

def readRedundant (first second third fourth : UInt8) : NewPacket where
  header :=
    let timestampOffset := (second.toNat <<< 6) + ((third &&& 0xFC) >>> 2).toNat
    { redPacket.header with
      payloadType := first &&& 0x7F
      timestamp := redPacket.header.timestamp - UInt32.ofNat timestampOffset }
  payloadLength := ((third &&& 0x03).toNat <<< 8) + fourth.toNat
  primary := false

/-- The loop over the RED headers, with what they and their blocks take so far. -/
def readRedHeaders (redPacket : Packet) :
    (payloadPtr : Bytes) → (sumLength : Int) → Option (List NewPacket × Bytes)
  | [], _ => none
  | first :: payloadPtr, sumLength =>
    -- without the F bit this was the last block
    if first &&& 0x80 = 0 then some ([readPrimary redPacket first sumLength], payloadPtr)
    else match payloadPtr with
      | second :: third :: fourth :: payloadPtr => do
        let newPacket := readRedundant redPacket first second third fourth
        let (newPackets, payloadPtr) ←
          readRedHeaders redPacket payloadPtr (sumLength + newPacket.payloadLength + 4)
        pure (newPacket :: newPackets, payloadPtr)
      | _ => none

/-- The new packets with their payloads, up to one that is not all there, and whether there is
such a one. -/
def populate : List NewPacket → (payloadPtr : Bytes) → Option (List Packet × Bool)
  | [], _ => some ([], false)
  | new :: newPackets, payloadPtr =>
    if payloadPtr.length < new.payloadLength then some ([], true)
    else if new.payloadLength < 0 then none
    else do
      let payload := payloadPtr.take new.payloadLength.toNat
      let (packets, mismatch) ← populate newPackets (payloadPtr.drop new.payloadLength.toNat)
      pure ({ header := new.header, payload, primary := new.primary, waitingTime := 0
              syncPacket := false } :: packets, mismatch)

def splitRedPacket : Option (List Packet × Bool) := do
  let (newPackets, payloadPtr) ← readRedHeaders redPacket redPacket.payload 0
  let (packets, mismatch) ← populate newPackets payloadPtr
  pure (packets.reverse, mismatch)

def splitRedFrom : List Packet → (ret : Int) → Option (Int × List Packet)
  | [], ret => some (ret, [])
  | redPacket :: packetList, ret => do
    let (newPackets, mismatch) ← splitRedPacket redPacket
    let (ret, packetList) ← splitRedFrom packetList (if mismatch then kRedLengthMismatch else ret)
    pure (ret, newPackets ++ packetList)

/-- The returned code and the list afterwards. -/
def splitRed (packetList : List Packet) : Option (Int × List Packet) := splitRedFrom packetList kOK

def redundantPacket (block : RedHeader × Bytes) : Packet where
  header := { redPacket.header with
    payloadType := block.1.payloadType
    timestamp := redPacket.header.timestamp - UInt32.ofNat block.1.timestampOffset }
  payload := block.2
  primary := false
  waitingTime := 0
  syncPacket := false

def primaryPacket (red : RedPayload) : Packet where
  header := { redPacket.header with payloadType := red.primaryType }
  payload := red.primaryBlock
  primary := true
  waitingTime := 0
  syncPacket := false

/-- The complete blocks of a payload, the last one first. -/
def blockPackets (red : RedPayload) : List Packet :=
  let redundant := ((completeBlocks red.headers red.data).map
    (redundantPacket redPacket)).reverse
  if red.Fits then primaryPacket redPacket red :: redundant else redundant

end

/-! ## Headers -/

section Headers

variable (redPacket : Packet)

def newRedundant (header : RedHeader) : NewPacket where
  header := { redPacket.header with
    payloadType := header.payloadType
    timestamp := redPacket.header.timestamp - UInt32.ofNat header.timestampOffset }
  payloadLength := header.blockLength
  primary := false

/-- What the headers and their blocks take of the payload. -/
def takenLength (headers : List RedHeader) : Nat :=
  4 * headers.length + redundantLength headers

theorem lengthBits_eq : ∀ third : UInt8, ((third &&& 0xFC) >>> 2).toNat = third.toNat / 4 ∧
    (third &&& 0x03).toNat = third.toNat % 4 := by
  intro third
  cases third with
  | ofBitVec bits =>
    cases bits with
    | ofFin value =>
      revert value
      decide +kernel

theorem readRedundant_encode {header : RedHeader} {second third fourth : UInt8}
    (offset : second.toNat * 64 + third.toNat / 4 = header.timestampOffset)
    (length : third.toNat % 4 * 256 + fourth.toNat = header.blockLength) :
    readRedundant redPacket (0x80 ||| header.payloadType) second third fourth =
      newRedundant redPacket header := by
  have bits := type_of_set_bit header.payloadType header.typeBits
  have parts := lengthBits_eq third
  simp only [readRedundant, newRedundant, bits.2.1, parts, Nat.shiftLeft_eq, Nat.reducePow, offset,
    NewPacket.mk.injEq, true_and, and_true]
  exact_mod_cast length

theorem readRedHeaders_last {first : UInt8} (last : first &&& 0x80 = 0) (payloadPtr : Bytes)
    (sumLength : Int) : readRedHeaders redPacket (first :: payloadPtr) sumLength =
      some ([readPrimary redPacket first sumLength], payloadPtr) := by
  rw [readRedHeaders.eq_def]
  exact if_pos last

theorem readRedHeaders_more {first : UInt8} (more : first &&& 0x80 ≠ 0) (second third fourth : UInt8)
    (payloadPtr : Bytes) (sumLength : Int) :
    readRedHeaders redPacket (first :: second :: third :: fourth :: payloadPtr) sumLength =
      (readRedHeaders redPacket payloadPtr (sumLength +
        (readRedundant redPacket first second third fourth).payloadLength + 4)).map
          fun result => (readRedundant redPacket first second third fourth :: result.1, result.2) := by
  rw [readRedHeaders.eq_def]
  dsimp only
  rw [if_neg more]
  cases readRedHeaders redPacket payloadPtr (sumLength +
    (readRedundant redPacket first second third fourth).payloadLength + 4) <;> rfl

theorem readRedHeaders_encode (headers : List RedHeader) {type : UInt8} (typeBits : type < 0x80)
    (data : Bytes) : ∀ sumLength : Int,
      readRedHeaders redPacket (headers.flatMap RedHeader.encode ++ type :: data) sumLength =
        some (headers.map (newRedundant redPacket) ++
          [readPrimary redPacket type (sumLength + takenLength headers)], data) := by
  induction headers with
  | nil =>
    intro sumLength
    have bits := type_of_set_bit type typeBits
    rw [flatMap_nil, nil_append, readRedHeaders_last redPacket bits.2.2.1]
    simp [takenLength]
  | cons head tail induction =>
    intro sumLength
    rcases head.encode_fields with ⟨second, third, fourth, encoded, offset, length⟩
    have bits := type_of_set_bit head.payloadType head.typeBits
    have total : sumLength + head.blockLength + 4 + takenLength tail =
        sumLength + takenLength (head :: tail) := by
      rw [takenLength, takenLength, length_cons, redundantLength_cons]
      push_cast
      omega
    rw [flatMap_cons, encoded, append_assoc, cons_append, cons_append,
      cons_append, cons_append, nil_append,
      readRedHeaders_more redPacket bits.1, readRedundant_encode redPacket offset length,
      induction, map_some]
    change some (newRedundant redPacket head :: (_ ++
      [readPrimary redPacket type (sumLength + head.blockLength + 4 + takenLength tail)]), data) = _
    rw [total]
    rfl

theorem exists_encode_of_readRedHeaders {payloadPtr : Bytes} {sumLength : Int}
    {result : List NewPacket × Bytes}
    (read : readRedHeaders redPacket payloadPtr sumLength = some result) :
    ∃ red : RedPayload, payloadPtr = red.encode := by
  induction payloadPtr, sumLength using readRedHeaders.induct redPacket generalizing result with
  | case1 sumLength => cases read
  | case2 first payloadPtr sumLength last =>
    have bits := lt_of_clear_bit first last
    exact ⟨{ headers := [], primaryType := first, typeBits := bits.1, data := payloadPtr }, rfl⟩
  | case3 first sumLength more second third fourth payloadPtr newPacket =>
    rename_i induction
    rw [readRedHeaders_more redPacket more] at read
    rcases map_eq_some_iff.mp read with ⟨rest, restRead, -⟩
    rcases induction restRead with ⟨red, rfl⟩
    refine ⟨{ red with headers := ofBytes first second third fourth :: red.headers }, ?_⟩
    change _ = List.flatMap RedHeader.encode (_ :: red.headers) ++ red.primaryType :: red.data
    rw [flatMap_cons, encode_ofBytes more, append_assoc]
    rfl
  | case4 first payloadPtr sumLength more short =>
    rw [readRedHeaders.eq_def] at read
    dsimp only at read
    rw [if_neg more] at read
    split at read
    · exact absurd rfl (short _ _ _ _)
    · cases read

end Headers

section Blocks

variable (redPacket : Packet)

theorem populate_redundant (headers : List RedHeader) (last : List NewPacket) (data : Bytes) :
    populate (headers.map (newRedundant redPacket) ++ last) data =
      if redundantLength headers ≤ data.length then
        (populate last (data.drop (redundantLength headers))).map fun result =>
          ((completeBlocks headers data).map (redundantPacket redPacket) ++ result.1, result.2)
      else some ((completeBlocks headers data).map (redundantPacket redPacket), true) := by
  induction headers generalizing data with
  | nil =>
    rw [redundantLength_nil, if_pos (Nat.zero_le _), map_nil, nil_append, drop_zero]
    cases populate last data <;> rfl
  | cons head tail induction =>
    rw [redundantLength_cons, map_cons, cons_append, populate, completeBlocks]
    have length : (newRedundant redPacket head).payloadLength = head.blockLength := rfl
    by_cases short : data.length < head.blockLength
    · rw [if_pos (by omega), if_neg (by omega), if_pos short]
      rfl
    rw [if_neg (by omega), if_neg (by omega), if_neg short, length, Int.toNat_natCast, induction,
      length_drop, drop_drop]
    by_cases fits : redundantLength tail ≤ data.length - head.blockLength
    · rw [if_pos fits, if_pos (by omega)]
      cases populate last (data.drop (head.blockLength + redundantLength tail)) <;> rfl
    · rw [if_neg fits, if_neg (by omega)]
      rfl

theorem encode_length (headers : List RedHeader) (type : UInt8) (data : Bytes) :
    (headers.flatMap RedHeader.encode ++ type :: data).length =
      4 * headers.length + 1 + data.length := by
  have each : (headers.flatMap RedHeader.encode).length = 4 * headers.length := by
    induction headers with
    | nil => rfl
    | cons head tail induction =>
      rw [flatMap_cons, length_append, induction, length_cons]
      change 4 + 4 * tail.length = _
      omega
  rw [length_append, each, length_cons]
  omega

theorem splitRedPacket_encode {red : RedPayload} (payload : redPacket.payload = red.encode) :
    splitRedPacket redPacket = some (blockPackets redPacket red, !decide red.Fits) := by
  rw [splitRedPacket, payload, RedPayload.encode,
    readRedHeaders_encode redPacket red.headers red.typeBits]
  simp only [bind_eq_bind, bind_some]
  rw [populate_redundant, blockPackets]
  by_cases fits : red.Fits
  · have inside : redundantLength red.headers ≤ red.data.length := fits
    have total : (redPacket.payloadLength : Int) - (0 + takenLength red.headers + 1) =
        (red.data.drop (redundantLength red.headers)).length := by
      rw [Packet.payloadLength, payload, RedPayload.encode, encode_length, takenLength,
        length_drop]
      omega
    have bits := type_of_set_bit red.primaryType red.typeBits
    rw [if_pos inside, if_pos fits, populate, readPrimary, total, if_neg (Int.lt_irrefl _),
      if_neg (Int.not_lt.mpr (Int.natCast_nonneg _)), Int.toNat_natCast, take_length, populate,
      bits.2.2.2]
    simp [fits, primaryPacket, primaryBlock]
  · have outside : ¬ redundantLength red.headers ≤ red.data.length := fits
    rw [if_neg outside, if_neg fits]
    simp [fits]

theorem exists_encode_of_splitRedPacket {result : List Packet × Bool}
    (split : splitRedPacket redPacket = some result) :
    ∃ red : RedPayload, redPacket.payload = red.encode := by
  rcases bind_eq_some_iff.mp split with ⟨read, readEq, -⟩
  exact exists_encode_of_readRedHeaders redPacket readEq

end Blocks

/-! ## Lists of packets -/

/-- The chain of headers ends inside the payload. -/
def HeadersEnd (payload : Bytes) : Prop := ∃ red : RedPayload, payload = red.encode

/-- A payload with all of its blocks. -/
def ValidRed (payload : Bytes) : Prop := ∃ red : RedPayload, payload = red.encode ∧ red.Fits

/-- A packet of its own for a block that is completely in the payload of another packet. -/
def CompleteBlock (redPacket packet : Packet) : Prop :=
  ∃ red : RedPayload, redPacket.payload = red.encode ∧
    (red.Fits ∧ packet = primaryPacket redPacket red ∨
      ∃ before header after, red.headers = before ++ header :: after ∧
        redundantLength before + header.blockLength ≤ red.data.length ∧
        packet = redundantPacket redPacket (header,
          (red.data.drop (redundantLength before)).take header.blockLength))

/-- `blocks` stand in the place of the packet. -/
def IsSplit (redPacket : Packet) (blocks : List Packet) : Prop :=
  ∃ red : RedPayload, redPacket.payload = red.encode ∧ blocks = blockPackets redPacket red

/-- Splitting ends, reads inside the payloads, tells whether all of them are valid, and leaves the
complete blocks, those of a valid payload with the primary one first. -/
structure SplitsProperly (packetList : List Packet) (ret : Int) (result : List Packet) : Prop where
  returned : splitRed packetList = some (ret, result)
  code : ret = kOK ∨ ret = kRedLengthMismatch
  ok_iff : ret = kOK ↔ ∀ packet ∈ packetList, ValidRed packet.payload
  replaced : ∃ groups, List.Forall₂ IsSplit packetList groups ∧ result = groups.flatten
  complete : ∀ packet ∈ result, ∃ redPacket ∈ packetList, CompleteBlock redPacket packet

def packetOf (payload : Bytes) : Packet where
  header := {
    markerBit := false, payloadType := 0x7F, sequenceNumber := 1, timestamp := 1000, ssrc := 7
    numCSRCs := 0, arrOfCSRCs := Vector.replicate _ 0, paddingLength := 0, headerLength := 0
    extension := { transmissionTimeOffset := 0, absoluteSendTime := 0 } }
  payload := payload
  primary := true
  waitingTime := 0
  syncPacket := false

theorem validRed_encode {red : RedPayload} : ValidRed red.encode ↔ red.Fits := by
  constructor
  · rintro ⟨other, same, fits⟩
    have first : splitRedPacket (packetOf red.encode) = some (blockPackets _ red, _) :=
      splitRedPacket_encode (packetOf red.encode) rfl
    have second : splitRedPacket (packetOf red.encode) = some (blockPackets _ other, _) :=
      splitRedPacket_encode (packetOf red.encode) same
    rw [first, Option.some.injEq, Prod.mk.injEq] at second
    simpa [fits] using second.2
  · exact fun fits => ⟨red, rfl, fits⟩

theorem exists_header_of_mem {redPacket packet : Packet} {red : RedPayload}
    (member : packet ∈ ((completeBlocks red.headers red.data).map
      (redundantPacket redPacket)).reverse) :
    ∃ before header after, red.headers = before ++ header :: after ∧
      redundantLength before + header.blockLength ≤ red.data.length ∧
      packet = redundantPacket redPacket (header,
        (red.data.drop (redundantLength before)).take header.blockLength) := by
  rcases List.mem_map.mp (List.mem_reverse.mp member) with ⟨⟨header, bytes⟩, block, rfl⟩
  rcases mem_completeBlocks block with ⟨before, after, split, inside, rfl⟩
  exact ⟨before, header, after, split, inside, rfl⟩

theorem completeBlock_of_isSplit {redPacket packet : Packet} {blocks : List Packet}
    (split : IsSplit redPacket blocks) (member : packet ∈ blocks) :
    CompleteBlock redPacket packet := by
  rcases split with ⟨red, payload, rfl⟩
  refine ⟨red, payload, ?_⟩
  rw [blockPackets] at member
  split at member
  case isTrue fits =>
    rcases List.mem_cons.mp member with rfl | redundant
    · exact Or.inl ⟨fits, rfl⟩
    · exact Or.inr (exists_header_of_mem redundant)
  case isFalse => exact Or.inr (exists_header_of_mem member)

theorem splitRedFrom_of_headersEnd {packetList : List Packet}
    (ends : ∀ packet ∈ packetList, HeadersEnd packet.payload) :
    ∀ ret, ∃ last groups, splitRedFrom packetList ret = some (last, groups.flatten) ∧
      List.Forall₂ IsSplit packetList groups ∧
      ((∀ packet ∈ packetList, ValidRed packet.payload) ∧ last = ret ∨
        (∃ packet ∈ packetList, ¬ ValidRed packet.payload) ∧ last = kRedLengthMismatch) := by
  induction packetList with
  | nil => exact fun ret => ⟨ret, [], rfl, .nil, Or.inl ⟨fun _ member => (by cases member), rfl⟩⟩
  | cons head tail induction =>
    intro ret
    rcases ends head mem_cons_self with ⟨red, payload⟩
    have valid : ValidRed head.payload ↔ red.Fits := by rw [payload, validRed_encode]
    have round := splitRedPacket_encode head payload
    rcases induction (fun packet member => ends packet (mem_cons_of_mem _ member))
      (if !decide red.Fits then kRedLengthMismatch else ret) with
      ⟨last, groups, rest, splits, codes⟩
    refine ⟨last, blockPackets head red :: groups, ?_, .cons ⟨red, payload, rfl⟩ splits, ?_⟩
    · rw [splitRedFrom, round]
      simp only [bind_eq_bind, bind_some, rest]
      rfl
    by_cases fits : red.Fits
    · rcases codes with ⟨allValid, same⟩ | ⟨⟨packet, member, invalid⟩, mismatch⟩
      · refine Or.inl ⟨fun packet member => ?_, by simpa [fits] using same⟩
        rcases List.mem_cons.mp member with rfl | later
        · exact valid.mpr fits
        · exact allValid packet later
      · exact Or.inr ⟨⟨packet, mem_cons_of_mem _ member, invalid⟩, mismatch⟩
    · refine Or.inr ⟨⟨head, mem_cons_self, fun isValid => fits (valid.mp isValid)⟩, ?_⟩
      rcases codes with ⟨-, same⟩ | ⟨-, mismatch⟩
      · simpa [fits] using same
      · exact mismatch

theorem headersEnd_of_splitRedFrom {packetList : List Packet} :
    ∀ {ret : Int} {result : Int × List Packet}, splitRedFrom packetList ret = some result →
      ∀ packet ∈ packetList, HeadersEnd packet.payload := by
  induction packetList with
  | nil => exact fun _ _ member => by cases member
  | cons head tail induction =>
    intro ret result split packet member
    rcases bind_eq_some_iff.mp split with ⟨first, firstSplit, rest⟩
    rcases bind_eq_some_iff.mp rest with ⟨second, secondSplit, -⟩
    rcases List.mem_cons.mp member with rfl | later
    · exact exists_encode_of_splitRedPacket packet firstSplit
    · exact induction secondSplit packet later

/-- Splitting is proper exactly when the chain of headers ends in every payload. -/
theorem splitsProperly_iff (packetList : List Packet) :
    (∃ ret result, SplitsProperly packetList ret result) ↔
      ∀ packet ∈ packetList, HeadersEnd packet.payload := by
  constructor
  · rintro ⟨ret, result, proper⟩
    exact headersEnd_of_splitRedFrom proper.returned
  intro ends
  rcases splitRedFrom_of_headersEnd ends kOK with ⟨ret, groups, returned, splits, codes⟩
  refine ⟨ret, groups.flatten, {
    returned
    code := codes.imp And.right And.right
    ok_iff := ?_
    replaced := ⟨groups, splits, rfl⟩
    complete := ?_ }⟩
  · rcases codes with ⟨allValid, same⟩ | ⟨⟨packet, member, invalid⟩, mismatch⟩
    · exact ⟨fun _ => allValid, fun _ => same⟩
    · refine ⟨fun ok => ?_, fun allValid => absurd (allValid packet member) invalid⟩
      rw [mismatch] at ok
      exact absurd ok (by decide)
  · intro packet member
    rcases List.mem_flatten.mp member with ⟨blocks, group, inBlocks⟩
    clear returned codes member ends
    induction splits with
    | nil => cases group
    | cons split _ induction =>
      rcases List.mem_cons.mp group with rfl | later
      · exact ⟨_, mem_cons_self, completeBlock_of_isSplit split inBlocks⟩
      · rcases induction later with ⟨redPacket, found, block⟩
        exact ⟨redPacket, mem_cons_of_mem _ found, block⟩

/-- The only header announces another one, which is not there. -/
theorem not_splitsProperly_unterminated :
    ¬ ∃ ret result, SplitsProperly [packetOf [0x80]] ret result := by
  rintro ⟨ret, result, proper⟩
  have outside : splitRed [packetOf [0x80]] = none := by decide
  rw [proper.returned] at outside
  cases outside

end ZyWebRtc.NetEq
