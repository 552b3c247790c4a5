import Mathlib.Data.Finset.Card
import ZyWebRtc.Fec.MaskWidening

namespace ZyWebRtc.Fec

/-! Whether the mask of an FEC packet names the media packets that were XORed into it. -/

open List Option Bytes Buffer

/-! ## The walk through the mask -/

theorem testMaskBit_eq (row : Bytes) (pktMaskIdx : Nat) {mediaPktIdx : Nat}
    (inside : pktMaskIdx < row.length) (small : mediaPktIdx ≤ 7) :
    testMaskBit row pktMaskIdx mediaPktIdx = some (rowBit row (8 * pktMaskIdx + mediaPktIdx)) := by
  have quotient : (8 * pktMaskIdx + mediaPktIdx) / 8 = pktMaskIdx := by omega
  have remainder : (8 * pktMaskIdx + mediaPktIdx) % 8 = mediaPktIdx := by omega
  have power : ((1 : UInt8) <<< UInt8.ofNat (7 - mediaPktIdx)).toNat = 2 ^ (7 - mediaPktIdx) := by
    have bound : 2 ^ (7 - mediaPktIdx) < 2 ^ 8 := Nat.pow_lt_pow_right (by decide) (by omega)
    rw [UInt8.toNat_shiftLeft, UInt8.toNat_ofNat',
      Nat.mod_eq_of_lt (show 7 - mediaPktIdx < 2 ^ 8 by omega),
      Nat.mod_eq_of_lt (show 7 - mediaPktIdx < 8 by omega), UInt8.toNat_one, Nat.shiftLeft_eq,
      Nat.one_mul, Nat.mod_eq_of_lt bound]
  rw [testMaskBit, if_pos small, byteAt_inside inside, rowBit, quotient, remainder]
  change some (decide _) = some _
  congr 1
  rw [Bool.eq_iff_iff, decide_eq_true_eq, ne_eq, ← UInt8.toNat_inj, UInt8.toNat_and, power,
    Nat.and_two_pow]
  cases Nat.testBit (row.byteValue pktMaskIdx).toNat (7 - mediaPktIdx) with
  | false => simp
  | true => simp

/-- The walk never jumps over the first column of a byte. -/
def StopsAtBytes (base : UInt16) : (mediaPackets : List Packet) → Prop
  | packet :: next :: rest =>
    (offsetFrom base next / 8 = offsetFrom base packet / 8 ∨
      offsetFrom base next = 8 * (offsetFrom base packet / 8 + 1)) ∧
    StopsAtBytes base (next :: rest)
  | _ => True

/-- Every first column of a byte up to the last packet is the column of a packet. -/
def EveryByteStarts (base : UInt16) (mediaPackets : List Packet) : Prop :=
  ∀ byteIndex, (∃ packet ∈ mediaPackets, 8 * byteIndex ≤ offsetFrom base packet) →
    ∃ packet ∈ mediaPackets, offsetFrom base packet = 8 * byteIndex

section Walk

variable {base : UInt16}

theorem stopsAtBytes_iff (mediaPackets : List Packet)
    (ascending : (mediaPackets.map (offsetFrom base)).Pairwise (· < ·)) :
    StopsAtBytes base mediaPackets ↔
      ∀ byteIndex, (∃ packet ∈ mediaPackets, 8 * byteIndex ≤ offsetFrom base packet) →
        (∃ packet ∈ mediaPackets, offsetFrom base packet ≤ 8 * byteIndex) →
        ∃ packet ∈ mediaPackets, offsetFrom base packet = 8 * byteIndex := by
  induction mediaPackets with
  | nil =>
    refine ⟨fun _ byteIndex ⟨packet, member, _⟩ _ => ?_, fun _ => trivial⟩
    cases member
  | cons packet mediaPackets induction =>
    cases mediaPackets with
    | nil =>
      refine ⟨fun _ byteIndex ⟨behind, isBehind, above⟩ ⟨before, isBefore, below⟩ => ?_,
        fun _ => trivial⟩
      rw [mem_singleton.mp isBehind] at above
      rw [mem_singleton.mp isBefore] at below
      exact ⟨packet, mem_cons_self, by omega⟩
    | cons next rest =>
      rcases pairwise_cons.mp ascending with ⟨first, later⟩
      have increases : offsetFrom base packet < offsetFrom base next :=
        first _ mem_cons_self
      have further : ∀ other ∈ next :: rest, offsetFrom base next ≤ offsetFrom base other := by
        refine forall_mem_cons.mpr ⟨Nat.le_refl _, fun other member => ?_⟩
        exact ((pairwise_cons.mp later).1 _ (List.mem_map_of_mem member)).le
      rw [StopsAtBytes, induction later]
      constructor
      · intro ⟨step, starts⟩ byteIndex ⟨behind, isBehind, above⟩ ⟨before, isBefore, below⟩
        have notBelow : offsetFrom base packet ≤ 8 * byteIndex := by
          rcases mem_cons.mp isBefore with rfl | member
          · exact below
          · have behindNext := further before member
            omega
        by_cases here : offsetFrom base packet = 8 * byteIndex
        · exact ⟨packet, mem_cons_self, here⟩
        · rcases mem_cons.mp isBehind with rfl | member
          · omega
          · rcases starts byteIndex ⟨behind, member, above⟩
              ⟨next, mem_cons_self, by omega⟩ with ⟨found, inside, isStart⟩
            exact ⟨found, mem_cons_of_mem _ inside, isStart⟩
      · intro starts
        constructor
        · by_cases sameByte : offsetFrom base next / 8 = offsetFrom base packet / 8
          · exact .inl sameByte
          · right
            rcases starts (offsetFrom base packet / 8 + 1)
              ⟨next, mem_cons_of_mem _ mem_cons_self, by omega⟩
              ⟨packet, mem_cons_self, by omega⟩ with ⟨found, isFound, isStart⟩
            rcases mem_cons.mp isFound with rfl | member
            · omega
            · have notBefore := further found member
              omega
        · intro byteIndex ⟨behind, isBehind, above⟩ ⟨before, isBefore, below⟩
          rcases starts byteIndex ⟨behind, mem_cons_of_mem _ isBehind, above⟩
            ⟨before, mem_cons_of_mem _ isBefore, below⟩ with ⟨found, isFound, isStart⟩
          rcases mem_cons.mp isFound with rfl | member
          · have notBefore := further before isBefore
            omega
          · exact ⟨found, member, isStart⟩

def selected (base : UInt16) (row : Bytes) (mediaPackets : List Packet) : List Packet :=
  mediaPackets.filter fun packet => rowBit row (offsetFrom base packet)

def protectAll (lBit : Bool) (mediaPackets : List Packet) (generated : Packet) : Packet :=
  mediaPackets.foldl (fun generated packet => protectPacket lBit packet generated) generated

theorem offsetFrom_next {packet : Packet} {rest : List Packet}
    (ascending : ((packet :: rest).map (offsetFrom base)).Pairwise (· < ·)) :
    ∀ next ∈ rest.head?, offsetFrom base packet + seqNumStep packet rest = offsetFrom base next := by
  intro next isNext
  cases rest with
  | nil => cases isNext
  | cons other rest =>
    cases isNext
    have increases : offsetFrom base packet < offsetFrom base next :=
      (pairwise_cons.mp ascending).1 _ mem_cons_self
    have difference := toNat_sub_offset base increases.le
    rw [seqNumStep, difference]
    rw [offsetFrom, offsetFrom] at increases ⊢
    omega

theorem generateBitString_stops (lBit : Bool) {row : Bytes} :
    ∀ (mediaPackets : List Packet) (pktMaskIdx mediaPktIdx : Nat) (generated : Packet),
      (mediaPackets.map (offsetFrom base)).Pairwise (· < ·) →
      (∀ packet ∈ mediaPackets.head?, offsetFrom base packet = 8 * pktMaskIdx + mediaPktIdx) →
      mediaPktIdx ≤ 7 →
      (∀ packet ∈ mediaPackets, offsetFrom base packet < 8 * row.length) →
      StopsAtBytes base mediaPackets →
      generateBitString lBit row mediaPackets pktMaskIdx mediaPktIdx generated =
        some (protectAll lBit (selected base row mediaPackets) generated) := by
  intro mediaPackets
  induction mediaPackets with
  | nil => exact fun _ _ _ _ _ _ _ _ => rfl
  | cons packet rest induction =>
    intro pktMaskIdx mediaPktIdx generated ascending here small inside stops
    have isHere := here packet rfl
    rw [forall_mem_cons] at inside
    have tested := testMaskBit_eq row pktMaskIdx (by omega) small
    rw [generateBitString, tested, ← isHere]
    simp only [bind_eq_bind, bind_some]
    have first : protectAll lBit (selected base row (packet :: rest)) generated =
        protectAll lBit (selected base row rest)
          (if rowBit row (offsetFrom base packet) = true then protectPacket lBit packet generated
            else generated) := by
      rw [selected, filter_cons]
      split_ifs <;> rfl
    rw [first]
    generalize (if rowBit row (offsetFrom base packet) = true then
      protectPacket lBit packet generated else generated) = generated
    have later := (pairwise_cons.mp ascending).2
    have restStops : StopsAtBytes base rest := by
      cases rest with
      | nil => trivial
      | cons next rest => exact stops.2
    have nextHere := offsetFrom_next ascending
    split_ifs with switches
    · apply induction (pktMaskIdx + 1) 0 generated later _ (Nat.zero_le 7) inside.2 restStops
      intro next isNext
      have following := nextHere next isNext
      omega
    · apply induction pktMaskIdx _ generated later _ _ inside.2 restStops
      · intro next isNext
        have following := nextHere next isNext
        omega
      · cases rest with
        | nil => exact small
        | cons next rest =>
          have following := nextHere next rfl
          have step := stops.1
          omega

theorem generateBitString_jumps (lBit : Bool) {row : Bytes} :
    ∀ (mediaPackets : List Packet) (pktMaskIdx mediaPktIdx : Nat) (generated : Packet),
      (mediaPackets.map (offsetFrom base)).Pairwise (· < ·) →
      (∀ packet ∈ mediaPackets.head?, offsetFrom base packet = 8 * pktMaskIdx + mediaPktIdx) →
      mediaPktIdx ≤ 7 →
      (∀ packet ∈ mediaPackets, offsetFrom base packet < 8 * row.length) →
      ¬ StopsAtBytes base mediaPackets →
      generateBitString lBit row mediaPackets pktMaskIdx mediaPktIdx generated = none := by
  intro mediaPackets
  induction mediaPackets with
  | nil => exact fun _ _ _ _ _ _ _ jumps => absurd trivial jumps
  | cons packet rest induction =>
    intro pktMaskIdx mediaPktIdx generated ascending here small inside jumps
    have isHere := here packet rfl
    rw [forall_mem_cons] at inside
    have tested := testMaskBit_eq row pktMaskIdx (by omega) small
    rw [generateBitString, tested]
    simp only [bind_eq_bind, bind_some]
    generalize (if rowBit row (8 * pktMaskIdx + mediaPktIdx) = true then
      protectPacket lBit packet generated else generated) = generated
    have later := (pairwise_cons.mp ascending).2
    cases rest with
    | nil => exact absurd trivial jumps
    | cons next rest =>
      have following := offsetFrom_next ascending next rfl
      split_ifs with switches
      · apply induction (pktMaskIdx + 1) 0 _ later _ (Nat.zero_le 7) inside.2
        · exact fun stops => jumps ⟨.inr (by omega), stops⟩
        · intro other isNext
          cases isNext
          omega
      · by_cases sameByte : mediaPktIdx + seqNumStep packet (next :: rest) ≤ 7
        · apply induction pktMaskIdx _ _ later _ sameByte inside.2
          · exact fun stops => jumps ⟨.inl (by omega), stops⟩
          · intro other isNext
            cases isNext
            omega
        · rw [generateBitString, testMaskBit, if_neg sameByte]
          rfl

end Walk

/-! ## The XOR -/

def xorOf (lBit : Bool) (mediaPackets : List Packet) (position : Nat) : UInt8 :=
  mediaPackets.foldl (fun byte packet => byte ^^^ protectedByte lBit packet position) 0

theorem overwrite_slice (buffer source : Buffer) {offset start count position : Nat}
    (after : offset ≤ position) (before : position < offset + count) :
    buffer.overwrite offset (source.slice start count) position =
      source (start + (position - offset)) := by
  rw [overwrite, if_pos after, Buffer.slice_getElem? source (by omega), getD_some]

theorem overwrite_byteValue (buffer : Buffer) {offset position : Nat} {bytes : Bytes}
    (after : offset ≤ position) (before : position < offset + bytes.length) :
    buffer.overwrite offset bytes position = bytes.byteValue (position - offset) := by
  rw [overwrite, if_pos after, byteValue, Bytes.byteAt,
    List.getElem?_eq_getElem (by omega), getD_some, getD_some]

theorem ulpHeaderSizeFor_cases (lBit : Bool) :
    ulpHeaderSizeFor lBit = 4 ∨ ulpHeaderSizeFor lBit = 8 := by
  cases lBit
  · exact .inl rfl
  · exact .inr rfl

theorem copied_eq_protectedByte (lBit : Bool) {mediaPacket : Packet}
    (header : 12 ≤ mediaPacket.length.toNat) (position : Nat) :
    (((Buffer.zeros.overwrite 0 (mediaPacket.data.slice 0 2)).overwrite 4
      (mediaPacket.data.slice 4 4)).overwrite 8
      (uint16Bytes (mediaPacket.length - 12))).overwrite
      (kFecHeaderSize + ulpHeaderSizeFor lBit) (mediaPacket.data.slice kRtpHeaderSize
        (mediaPacket.length.toNat - kRtpHeaderSize)) position =
      protectedByte lBit mediaPacket position := by
  have sizes := ulpHeaderSizeFor_cases lBit
  rw [protectedByte, kFecHeaderSize, kRtpHeaderSize]
  split_ifs with header' lengthField payload
  · rw [overwrite_outside _ (by rw [slice_length]; omega),
      overwrite_outside _ (by rw [uint16Bytes_length]; omega)]
    rcases header' with first | second
    · rw [overwrite_outside _ (by omega), overwrite_slice _ _ (Nat.zero_le _) (by omega)]
      congr 1
      omega
    · rw [overwrite_slice _ _ second.1 (by omega)]
      congr 1
      omega
  · rw [overwrite_outside _ (by rw [slice_length]; omega),
      overwrite_byteValue _ lengthField.1 (by rw [uint16Bytes_length]; omega)]
  · rw [overwrite_slice _ _ payload.1 (by omega)]
    congr 1
    omega
  · rw [overwrite_outside _ (by rw [slice_length]; omega),
      overwrite_outside _ (by rw [uint16Bytes_length]; omega),
      overwrite_outside _ (by rw [slice_length]; omega),
      overwrite_outside _ (by rw [slice_length]; omega)]
    rfl

/-- A packet that is being generated: untouched packets have no length. -/
def Untouched (generated : Packet) : Prop := generated.length = 0 → generated.data = Buffer.zeros

theorem validMediaPacket_iff (packet : Packet) : validMediaPacket packet = true ↔
    12 ≤ packet.length.toNat ∧ packet.length.toNat ≤ 1454 := by
  rw [validMediaPacket, Bool.and_eq_true, decide_eq_true_eq, decide_eq_true_eq]
  change 12 ≤ _ ∧ packet.length.toNat + 18 + 28 ≤ 1500 ↔ _
  omega

theorem protectPacket_spec (lBit : Bool) {mediaPacket generated : Packet}
    (valid : validMediaPacket mediaPacket = true) (untouched : Untouched generated) :
    Untouched (protectPacket lBit mediaPacket generated) ∧
      ∀ position, (protectPacket lBit mediaPacket generated).data position =
        generated.data position ^^^ protectedByte lBit mediaPacket position := by
  rcases (validMediaPacket_iff mediaPacket).mp valid with ⟨header, small⟩
  have sizes := ulpHeaderSizeFor_cases lBit
  constructor
  · intro noLength
    exfalso
    have length : (mediaPacket.length + UInt16.ofNat
        (kFecHeaderSize + ulpHeaderSizeFor lBit - kRtpHeaderSize)).toNat =
        mediaPacket.length.toNat + (kFecHeaderSize + ulpHeaderSizeFor lBit - kRtpHeaderSize) := by
      rw [UInt16.toNat_add, UInt16.toNat_ofNat']
      rw [kFecHeaderSize, kRtpHeaderSize]
      omega
    rw [protectPacket] at noLength
    dsimp only at noLength
    split_ifs at noLength with longer
    · rw [noLength] at length
      change 0 = _ at length
      omega
    · rw [UInt16.lt_iff_toNat_lt, length, noLength] at longer
      change ¬ 0 < _ at longer
      omega
  · intro position
    rw [protectPacket]
    dsimp only
    split_ifs with first
    · rw [untouched first, copied_eq_protectedByte lBit header]
      exact (UInt8.zero_xor).symm
    · rfl

theorem protectAll_data (lBit : Bool) (mediaPackets : List Packet)
    (valid : ∀ packet ∈ mediaPackets, validMediaPacket packet = true) (position : Nat) :
    (protectAll lBit mediaPackets Packet.new).data position = xorOf lBit mediaPackets position := by
  have general : ∀ (mediaPackets : List Packet) (generated : Packet),
      (∀ packet ∈ mediaPackets, validMediaPacket packet = true) → Untouched generated →
      (protectAll lBit mediaPackets generated).data position =
        mediaPackets.foldl (fun byte packet => byte ^^^ protectedByte lBit packet position)
          (generated.data position) := by
    intro mediaPackets
    induction mediaPackets with
    | nil => exact fun _ _ _ => rfl
    | cons packet rest induction =>
      intro generated valid untouched
      rw [forall_mem_cons] at valid
      rcases protectPacket_spec lBit valid.1 untouched with ⟨stillUntouched, data⟩
      have later := induction (protectPacket lBit packet generated) valid.2 stillUntouched
      rw [data] at later
      exact later
  exact general mediaPackets Packet.new valid fun _ => rfl

def maskBytes (lBit : Bool) : Nat := if lBit then kMaskSizeLBitSet else kMaskSizeLBitClear

section Headers

variable (lBit : Bool) (first generated : Packet) {row : Bytes}

theorem firstByte_longMask (byte : UInt8) :
    (if lBit then byte &&& 0x7f ||| 0x40 else byte &&& 0x7f &&& 0xbf) &&& 0x40 ≠ 0 ↔
      lBit = true := by
  cases lBit with
  | false =>
    have cleared : byte &&& 0x7f &&& 0xbf &&& 0x40 = 0 := by
      rw [UInt8.and_assoc, UInt8.and_assoc]
      exact UInt8.and_zero
    exact ⟨fun set => absurd cleared set, fun impossible => by cases impossible⟩
  | true =>
    refine ⟨fun _ => rfl, fun _ cleared => ?_⟩
    have bit : Nat.testBit (((if true = true then byte &&& 0x7f ||| 0x40
        else byte &&& 0x7f &&& 0xbf) &&& 0x40 : UInt8)).toNat 6 = Nat.testBit (0 : UInt8).toNat 6 :=
      congrArg (fun byte : UInt8 => byte.toNat.testBit 6) cleared
    rw [if_pos rfl, UInt8.toNat_and, UInt8.toNat_or, Nat.testBit_and, Nat.testBit_or,
      show Nat.testBit (0x40 : UInt8).toNat 6 = true by decide, Bool.or_true] at bit
    cases bit

theorem writeUlpHeader_longMask :
    (writeUlpHeader lBit first row generated).longMask = lBit := by
  have firstByte : (writeUlpHeader lBit first row generated).data 0 =
      if lBit then generated.data 0 &&& 0x7f ||| 0x40 else generated.data 0 &&& 0x7f &&& 0xbf := by
    rw [writeUlpHeader]
    dsimp only
    rw [overwrite_outside _ (.inl (by decide)), overwrite_outside _ (.inl (by decide)),
      overwrite_outside _ (.inl (by decide)),
      overwrite_byteValue _ (Nat.le_refl 0) (by rw [length_singleton]; decide)]
    rfl
  rw [Bool.eq_iff_iff, Packet.longMask, decide_eq_true_eq, firstByte]
  exact firstByte_longMask lBit (generated.data 0)

theorem writeUlpHeader_maskSizeBytes (length : row.length = maskBytes lBit) :
    (writeUlpHeader lBit first row generated).maskSizeBytes = row.length := by
  rw [Packet.maskSizeBytes, writeUlpHeader_longMask lBit first generated, length, maskBytes]
  rfl

theorem writeUlpHeader_word :
    (writeUlpHeader lBit first row generated).word 2 = first.parseSequenceNumber := by
  have bytes : ∀ position, 2 ≤ position → position < 4 →
      (writeUlpHeader lBit first row generated).data position = first.data position := by
    intro position after before
    rw [writeUlpHeader]
    dsimp only
    rw [overwrite_outside _ (by omega), overwrite_outside _ (by omega),
      overwrite_slice _ _ after (by omega)]
    congr 1
    omega
  rw [Packet.word, bytes 2 (by decide) (by decide), bytes (2 + 1) (by decide) (by decide)]
  rfl

theorem writeUlpHeader_maskBit {column : Nat} (inside : column < 8 * row.length) :
    maskBit (writeUlpHeader lBit first row generated) column = rowBit row column := by
  rw [maskBit, rowBit, writeUlpHeader]
  dsimp only
  rw [overwrite_byteValue _ (by omega) (by omega), Nat.add_sub_cancel_left]

theorem writeUlpHeader_data {position : Nat}
    (outside : 4 ≤ position ∧ position < 10 ∨ 12 + row.length ≤ position) :
    (writeUlpHeader lBit first row generated).data position = generated.data position := by
  rw [writeUlpHeader]
  dsimp only
  rw [overwrite_outside _ (by omega), overwrite_outside _ (by rw [uint16Bytes_length]; omega),
    overwrite_outside _ (by rw [slice_length]; omega),
    overwrite_outside _ (by rw [length_singleton]; omega)]

end Headers

/-! ## Masks that name what was protected -/

/-- The mask of an FEC packet, as it is read by a receiver, names the media packets that were XORed
into it. -/
structure Names (mediaPackets protectedMedia : List Packet) (fecPacket : Packet) : Prop where
  sublist : protectedMedia.Sublist mediaPackets
  base : fecPacket.word 2 = baseSeqNum mediaPackets
  bits : ∀ offset < 8 * fecPacket.maskSizeBytes, maskBit fecPacket offset = true ↔
    ∃ packet ∈ protectedMedia, packet.parseSequenceNumber = fecPacket.word 2 + UInt16.ofNat offset
  inside : ∀ packet ∈ protectedMedia,
    offsetFrom (fecPacket.word 2) packet < 8 * fecPacket.maskSizeBytes
  payload : ∀ position, 4 ≤ position ∧ position < kFecHeaderSize ∨
      kFecHeaderSize + fecPacket.ulpHeaderSize ≤ position →
    fecPacket.data position = xorOf fecPacket.longMask protectedMedia position

def MatchesMask (mediaPackets : List Packet) (fecPacket : Packet) : Prop :=
  ∃ protectedMedia, Names mediaPackets protectedMedia fecPacket

theorem seqNum_eq_iff (base : UInt16) (packet : Packet) {offset : Nat} (small : offset < 65536) :
    packet.parseSequenceNumber = base + UInt16.ofNat offset ↔ offsetFrom base packet = offset := by
  rw [← UInt16.toNat_inj, UInt16.toNat_add, UInt16.toNat_ofNat', offsetFrom, UInt16.toNat_sub]
  have seqNumBound := packet.parseSequenceNumber.toNat_lt
  have baseBound := base.toNat_lt
  omega

/-- A row has no bit but those of media packets. -/
def OnlyMedia (base : UInt16) (mediaPackets : List Packet) (row : Bytes) : Prop :=
  ∀ column < 8 * row.length, (∀ packet ∈ mediaPackets, offsetFrom base packet ≠ column) →
    rowBit row column = false

theorem matchesMask_iff {lBit : Bool} {first : Packet} {rest : List Packet} {row : Bytes}
    (valid : ∀ packet ∈ first :: rest, validMediaPacket packet = true)
    (length : row.length = maskBytes lBit)
    (inside : ∀ packet ∈ first :: rest,
      offsetFrom first.parseSequenceNumber packet < 8 * row.length) :
    MatchesMask (first :: rest) (writeUlpHeader lBit first row
        (protectAll lBit (selected first.parseSequenceNumber row (first :: rest)) Packet.new)) ↔
      OnlyMedia first.parseSequenceNumber (first :: rest) row := by
  have small : row.length ≤ 6 := by
    rw [length, maskBytes, kMaskSizeLBitSet, kMaskSizeLBitClear]
    split_ifs <;> decide
  constructor
  · rintro ⟨protectedMedia, names⟩ column inRow unused
    have bits := names.bits
    rw [writeUlpHeader_maskSizeBytes lBit first _ length, writeUlpHeader_word] at bits
    have bit := bits column inRow
    rw [writeUlpHeader_maskBit lBit first _ inRow] at bit
    by_contra set
    rcases bit.mp (Bool.not_eq_false _ ▸ set) with ⟨packet, member, seqNum⟩
    rw [seqNum_eq_iff _ packet (by omega)] at seqNum
    exact unused packet (names.sublist.subset member) seqNum
  · intro onlyMedia
    refine ⟨selected first.parseSequenceNumber row (first :: rest), filter_sublist, ?_, ?_, ?_, ?_⟩
    · exact writeUlpHeader_word lBit first _
    · intro offset inRow
      rw [writeUlpHeader_maskSizeBytes lBit first _ length] at inRow
      rw [writeUlpHeader_maskBit lBit first _ inRow, writeUlpHeader_word]
      constructor
      · intro set
        by_contra missing
        have unset := onlyMedia offset inRow fun packet member isOffset => missing
          ⟨packet, mem_filter.mpr ⟨member, by rw [isOffset]; exact set⟩,
            (seqNum_eq_iff _ packet (by omega)).mpr isOffset⟩
        rw [unset] at set
        cases set
      · rintro ⟨packet, member, seqNum⟩
        rw [seqNum_eq_iff _ packet (by omega)] at seqNum
        rw [← seqNum]
        exact (mem_filter.mp member).2
    · intro packet member
      rw [writeUlpHeader_maskSizeBytes lBit first _ length, writeUlpHeader_word]
      exact inside packet (mem_filter.mp member).1
    · intro position recovers
      rw [Packet.ulpHeaderSize, writeUlpHeader_maskSizeBytes lBit first _ length,
        kFecHeaderSize] at recovers
      rw [writeUlpHeader_data lBit first _ (by omega), writeUlpHeader_longMask]
      exact protectAll_data lBit _
        (fun packet member => valid packet (mem_filter.mp member).1) position

theorem mem_of_pairwise {numbers : List Nat} (increasing : numbers.Pairwise (· < ·))
    (below : ∀ number ∈ numbers, number < numbers.length) {number : Nat}
    (small : number < numbers.length) : number ∈ numbers := by
  have same : numbers.toFinset = Finset.range numbers.length := by
    apply Finset.eq_of_subset_of_card_le
    · intro number member
      exact Finset.mem_range.mpr (below number (List.mem_toFinset.mp member))
    · rw [Finset.card_range, toFinset_card_of_nodup (increasing.imp Nat.ne_of_lt)]
  rw [← List.mem_toFinset, same]
  exact Finset.mem_range.mpr small

theorem onlyMedia_iff_of_noGaps {base : UInt16} {mediaPackets : List Packet}
    (ascending : (mediaPackets.map (offsetFrom base)).Pairwise (· < ·))
    (below : ∀ packet ∈ mediaPackets, offsetFrom base packet < mediaPackets.length) (row : Bytes) :
    OnlyMedia base mediaPackets row ↔ ∀ column, mediaPackets.length ≤ column →
      column < 8 * row.length → rowBit row column = false := by
  constructor
  · intro onlyMedia column behind inRow
    apply onlyMedia column inRow
    intro packet member isColumn
    have before := below packet member
    omega
  · intro clear column inRow unused
    apply clear column _ inRow
    by_contra small
    have member := mem_of_pairwise ascending
      (by rw [length_map]; exact List.forall_mem_map.mpr below)
      (show column < _ by rw [length_map]; omega)
    rcases List.mem_map.mp member with ⟨packet, inside, isColumn⟩
    exact unused packet inside isColumn

/-- The mask has no bit behind the columns of the media packets, or is made anew because sequence
numbers are missing. -/
def UnusedColumnsClear (base : UInt16) (mediaPackets : List Packet) (packetMask : List Bytes) :
    Prop :=
  (∃ packet ∈ mediaPackets, mediaPackets.length ≤ offsetFrom base packet) ∨
    ∀ row ∈ packetMask, ∀ column, mediaPackets.length ≤ column → column < 8 * row.length →
      rowBit row column = false

theorem unusedColumnsClear_of_noGaps {base : UInt16} {mediaPackets : List Packet}
    (ascending : (mediaPackets.map (offsetFrom base)).Pairwise (· < ·))
    (below : ∀ packet ∈ mediaPackets, offsetFrom base packet < mediaPackets.length)
    (packetMask : List Bytes) :
    (∀ row ∈ packetMask, OnlyMedia base mediaPackets row) ↔
      UnusedColumnsClear base mediaPackets packetMask := by
  have noGaps : ¬ ∃ packet ∈ mediaPackets, mediaPackets.length ≤ offsetFrom base packet := by
    rintro ⟨packet, member, behind⟩
    have before := below packet member
    omega
  rw [UnusedColumnsClear, or_iff_right noGaps]
  exact forall₂_congr fun row _ => onlyMedia_iff_of_noGaps ascending below row

theorem exists_of_forall₂_right {Original Row : Type} {Holds : Original → Row → Prop}
    {originals : List Original} {rows : List Row} (all : List.Forall₂ Holds originals rows)
    {row : Row} (member : row ∈ rows) : ∃ original ∈ originals, Holds original row := by
  induction all with
  | nil => cases member
  | cons holds _ induction =>
    rcases mem_cons.mp member with rfl | later
    · exact ⟨_, mem_cons_self, holds⟩
    · rcases induction later with ⟨original, inside, holds⟩
      exact ⟨original, mem_cons_of_mem _ inside, holds⟩

theorem length_le_lastOffset {first second : Packet} {rest : List Packet}
    (ascending : Ascending (first :: second :: rest)) :
    (first :: second :: rest).length ≤ lastOffset first second rest + 1 := by
  have distinct : ((first :: second :: rest).map (offsetFrom first.parseSequenceNumber)).Nodup :=
    ascending.imp Nat.ne_of_lt
  have small : ((first :: second :: rest).map (offsetFrom first.parseSequenceNumber)) ⊆
      List.range (lastOffset first second rest + 1) := by
    intro column member
    rcases List.mem_map.mp member with ⟨packet, inside, rfl⟩
    exact mem_range.mpr (Nat.lt_succ_of_le (offsetFrom_le_last' ascending inside))
  have count := (subperm_of_subset distinct small).length_le
  rw [length_map, length_range] at count
  exact count

section Rows

variable {first : Packet} {rest : List Packet} {packetMask : List Bytes}

/-- The rows that the FEC packets are generated from. -/
theorem insertZerosInBitMasks_rows (ascending : Ascending (first :: rest))
    (span : ∀ packet ∈ first :: rest, offsetFrom first.parseSequenceNumber packet < 48)
    (accepted : (first :: rest).length ≤ 48)
    (rowLengths : ∀ row ∈ packetMask, row.length = maskSizeFor (first :: rest).length) :
    ∃ (numColumns : Nat) (rows : List Bytes),
      insertZerosInBitMasks (first :: rest) packetMask = some (numColumns, rows) ∧
      rows.length = packetMask.length ∧
      (∀ row ∈ rows, row.length = maskSizeFor numColumns) ∧
      (∀ packet ∈ first :: rest,
        offsetFrom first.parseSequenceNumber packet < 8 * maskSizeFor numColumns) ∧
      ((∀ row ∈ rows, OnlyMedia first.parseSequenceNumber (first :: rest) row) ↔
        UnusedColumnsClear first.parseSequenceNumber (first :: rest) packetMask) := by
  have columns := (maskSizeFor_spec (first :: rest).length accepted).2.2
  cases rest with
  | nil =>
    have below : ∀ packet ∈ [first], offsetFrom first.parseSequenceNumber packet < 1 := by
      intro packet member
      rw [mem_singleton.mp member, offsetFrom_self]
      decide
    refine ⟨1, packetMask, rfl, rfl, rowLengths, fun packet member => ?_,
      unusedColumnsClear_of_noGaps ascending below packetMask⟩
    exact (below packet member).trans (by decide)
  | cons second rest =>
    have last := fun packet member => @offsetFrom_le_last' first second rest ascending packet member
    by_cases noGaps : lastOffset first second rest + 1 = (first :: second :: rest).length
    · have below : ∀ packet ∈ first :: second :: rest,
          offsetFrom first.parseSequenceNumber packet < (first :: second :: rest).length := by
        intro packet member
        have before := last packet member
        omega
      refine ⟨_, packetMask, insertZerosInBitMasks_noGaps packetMask noGaps, rfl, rowLengths,
        fun packet member => (below packet member).trans_le columns,
        unusedColumnsClear_of_noGaps ascending below packetMask⟩
    · have short : lastOffset first second rest + 1 ≤ 48 :=
        span _ (mem_cons_of_mem first (getLast_mem (cons_ne_nil second rest)))
      rcases insertZerosInBitMasks_spec ascending columns rowLengths noGaps rfl short with
        ⟨rows, rowsEq, all⟩
      have enough := (maskSizeFor_spec _ short).2.2
      have behind : (first :: second :: rest).length ≤ lastOffset first second rest := by
        have count := length_le_lastOffset ascending
        omega
      refine ⟨_, rows, rowsEq, all.length_eq.symm, fun row member => ?_,
        fun packet member => ?_, iff_of_true (fun row member => ?_) (.inl ?_)⟩
      · rcases exists_of_forall₂_right all member with ⟨original, -, widened⟩
        exact widened.length
      · have before := last packet member
        omega
      · rcases exists_of_forall₂_right all member with ⟨original, -, widened⟩
        intro column inRow unused
        rw [widened.length] at inRow
        rw [widened.bits column inRow]
        exact (contents_widenedBit ascending).zeros original column (Nat.zero_le _) unused
      · exact ⟨_, mem_cons_of_mem first (getLast_mem (cons_ne_nil second rest)), behind⟩

end Rows

/-! ## Generation -/

theorem everyByteStarts_iff {first : Packet} {rest : List Packet}
    (ascending : Ascending (first :: rest)) :
    EveryByteStarts first.parseSequenceNumber (first :: rest) ↔
      StopsAtBytes first.parseSequenceNumber (first :: rest) := by
  refine Iff.trans ?_ (stopsAtBytes_iff (first :: rest) ascending).symm
  constructor
  · exact fun starts byteIndex above _ => starts byteIndex above
  · intro starts byteIndex above
    apply starts byteIndex above ⟨first, mem_cons_self, ?_⟩
    exact (offsetFrom_self first).le.trans (Nat.zero_le _)

theorem mapM_eq_some_of_forall {Row Next : Type} {step : Row → Option Next} {next : Row → Next}
    {rows : List Row} (each : ∀ row ∈ rows, step row = some (next row)) :
    rows.mapM step = some (rows.map next) := by
  induction rows with
  | nil => rfl
  | cons row rows induction =>
    rw [forall_mem_cons] at each
    rw [mapM_cons, each.1, induction each.2]
    rfl

theorem maskSizeFor_eq_maskBytes (columns : Nat) :
    maskSizeFor columns = maskBytes (decide (8 * kMaskSizeLBitClear < columns)) := by
  rw [maskSizeFor, maskBytes]
  by_cases long : 8 * kMaskSizeLBitClear < columns
  · rw [if_pos (by omega), if_pos (decide_eq_true long)]
  · rw [if_neg (by omega), if_neg (by rw [decide_eq_false long]; decide)]

section Protect

variable {first : Packet} {rest : List Packet} {packetMask : List Bytes}

theorem firstColumn_start :
    ∀ packet ∈ (first :: rest).head?, offsetFrom first.parseSequenceNumber packet = 8 * 0 + 0 := by
  intro packet isFirst
  cases isFirst
  exact offsetFrom_self first

variable (ascending : Ascending (first :: rest))
  (span : ∀ packet ∈ first :: rest, offsetFrom first.parseSequenceNumber packet < 48)
  (accepted : (first :: rest).length ≤ 48)

include ascending span accepted

theorem protectMedia_stops
    (rowLengths : ∀ row ∈ packetMask, row.length = maskSizeFor (first :: rest).length)
    (stops : StopsAtBytes first.parseSequenceNumber (first :: rest)) :
    ∃ (lBit : Bool) (rows : List Bytes),
      protectMedia (first :: rest) packetMask = some (rows.map fun row => writeUlpHeader lBit first row
        (protectAll lBit (selected first.parseSequenceNumber row (first :: rest)) Packet.new)) ∧
      rows.length = packetMask.length ∧
      (∀ row ∈ rows, row.length = maskBytes lBit) ∧
      (∀ row ∈ rows, ∀ packet ∈ first :: rest,
        offsetFrom first.parseSequenceNumber packet < 8 * row.length) ∧
      ((∀ row ∈ rows, OnlyMedia first.parseSequenceNumber (first :: rest) row) ↔
        UnusedColumnsClear first.parseSequenceNumber (first :: rest) packetMask) := by
  rcases insertZerosInBitMasks_rows ascending span accepted rowLengths with
    ⟨numColumns, rows, rowsEq, rowsLength, lengths, inside, onlyMedia⟩
  have within : ∀ row ∈ rows, ∀ packet ∈ first :: rest,
      offsetFrom first.parseSequenceNumber packet < 8 * row.length := by
    intro row member packet inMedia
    rw [lengths row member]
    exact inside packet inMedia
  refine ⟨decide (8 * kMaskSizeLBitClear < numColumns), rows, ?_, rowsLength, fun row member => ?_,
    within, onlyMedia⟩
  · rw [protectMedia, rowsEq]
    simp only [bind_eq_bind, bind_some, List.head?_cons]
    generalize decide (8 * kMaskSizeLBitClear < numColumns) = lBit
    rw [mapM_eq_some_of_forall fun row member => generateBitString_stops lBit (first :: rest) 0 0
      Packet.new ascending firstColumn_start (Nat.zero_le 7) (within row member) stops]
    rw [bind_some, zipWith_map_right, zipWith_self]
    rfl
  · rw [lengths row member, maskSizeFor_eq_maskBytes]

theorem protectMedia_jumps (someRow : packetMask ≠ [])
    (rowLengths : ∀ row ∈ packetMask, row.length = maskSizeFor (first :: rest).length)
    (jumps : ¬ StopsAtBytes first.parseSequenceNumber (first :: rest)) :
    protectMedia (first :: rest) packetMask = none := by
  rcases insertZerosInBitMasks_rows ascending span accepted rowLengths with
    ⟨numColumns, rows, rowsEq, rowsLength, lengths, inside, -⟩
  have someRows : rows ≠ [] := by
    rw [← length_pos_iff] at someRow ⊢
    omega
  rcases exists_cons_of_ne_nil someRows with ⟨row, others, rfl⟩
  have fails := generateBitString_jumps (decide (8 * kMaskSizeLBitClear < numColumns))
    (first :: rest) 0 0 Packet.new ascending firstColumn_start (Nat.zero_le 7)
    (fun packet inMedia => by
      rw [lengths row mem_cons_self]
      exact inside packet inMedia) jumps
  rw [protectMedia, rowsEq]
  simp only [bind_eq_bind, bind_some, List.head?_cons]
  rw [mapM_cons, fails]
  rfl

theorem protectMedia_matchesMask_iff (valid : ∀ packet ∈ first :: rest, validMediaPacket packet = true)
    (someRow : packetMask ≠ [])
    (rowLengths : ∀ row ∈ packetMask, row.length = maskSizeFor (first :: rest).length) :
    (∃ fecPackets, protectMedia (first :: rest) packetMask = some fecPackets ∧
      fecPackets.length = packetMask.length ∧
      ∀ fecPacket ∈ fecPackets, MatchesMask (first :: rest) fecPacket) ↔
    EveryByteStarts first.parseSequenceNumber (first :: rest) ∧
      UnusedColumnsClear first.parseSequenceNumber (first :: rest) packetMask := by
  rw [everyByteStarts_iff ascending]
  by_cases stops : StopsAtBytes first.parseSequenceNumber (first :: rest)
  · rcases protectMedia_stops ascending span accepted rowLengths stops with
      ⟨lBit, rows, protectedEq, rowsLength, sizes, within, onlyMedia⟩
    rw [and_iff_right stops, protectedEq, ← onlyMedia]
    have each := fun row member => matchesMask_iff valid (sizes row member) (within row member)
    constructor
    · intro ⟨fecPackets, generated, _, all⟩ row member
      apply (each row member).mp
      apply all
      rw [← Option.some.inj generated]
      exact List.mem_map_of_mem member
    · intro clear
      refine ⟨_, rfl, by rw [length_map, rowsLength], List.forall_mem_map.mpr ?_⟩
      exact fun row member => (each row member).mpr (clear row member)
  · rw [protectMedia_jumps ascending span accepted someRow rowLengths stops]
    constructor
    · intro ⟨_, impossible, _⟩
      cases impossible
    · exact fun condition => absurd condition.1 stops

end Protect

/-- `GenerateFEC` gives FEC packets whose masks name what they protect exactly when every byte of the
mask starts with a media packet, and no mask bit is left without one. -/
theorem generateFec_matchesMask_iff
    (generatePacketMasks : FecMaskType → (numMediaPackets numFecPackets : Nat) →
      (numImportantPackets : Int) → (useUnequalProtection : Bool) → Buffer)
    (mediaPackets : List Packet) (protectionFactor : UInt8) (numImportantPackets : Int)
    (useUnequalProtection : Bool) (fecMaskType : FecMaskType)
    (ascending : Ascending mediaPackets)
    (span : ∀ packet ∈ mediaPackets, offsetFrom (baseSeqNum mediaPackets) packet < 48)
    (valid : validMedia mediaPackets numImportantPackets = true)
    (protects : 0 < getNumberOfFecPackets mediaPackets.length protectionFactor) :
    (∃ fecPackets, generateFec generatePacketMasks mediaPackets protectionFactor
          numImportantPackets useUnequalProtection fecMaskType [] = some (0, fecPackets) ∧
        fecPackets.length = getNumberOfFecPackets mediaPackets.length protectionFactor ∧
        ∀ fecPacket ∈ fecPackets, MatchesMask mediaPackets fecPacket) ↔
      EveryByteStarts (baseSeqNum mediaPackets) mediaPackets ∧
        UnusedColumnsClear (baseSeqNum mediaPackets) mediaPackets
          (maskRows (generatePacketMasks fecMaskType mediaPackets.length
            (getNumberOfFecPackets mediaPackets.length protectionFactor) numImportantPackets
            useUnequalProtection) mediaPackets.length
            (getNumberOfFecPackets mediaPackets.length protectionFactor)) := by
  rw [generateFec, if_neg (by rw [valid]; decide)]
  dsimp only
  rw [if_neg (Nat.ne_of_gt protects)]
  generalize getNumberOfFecPackets mediaPackets.length protectionFactor = numFecPackets at protects ⊢
  generalize generatePacketMasks fecMaskType mediaPackets.length numFecPackets numImportantPackets
    useUnequalProtection = packetMask
  have rowLengths := maskRows_length packetMask mediaPackets.length numFecPackets
  have someRow := maskRows_ne_nil packetMask mediaPackets.length protects
  have count : (maskRows packetMask mediaPackets.length numFecPackets).length = numFecPackets := by
    rw [maskRows, length_map, length_range]
  generalize maskRows packetMask mediaPackets.length numFecPackets = rows at rowLengths someRow count ⊢
  rw [validMedia] at valid
  simp only [Bool.and_eq_true, decide_eq_true_eq, List.all_eq_true] at valid
  rcases valid with ⟨⟨⟨⟨some, accepted⟩, -⟩, -⟩, packetsValid⟩
  rcases exists_cons_of_ne_nil some with ⟨first, rest, rfl⟩
  refine Iff.trans ?_
    (protectMedia_matchesMask_iff ascending span accepted packetsValid someRow rowLengths)
  rw [count]
  cases protectMedia (first :: rest) rows with
  | none => simp
  | some generated => simp

/-- Two gaps, each with a packet in the first column of the byte behind it. -/
theorem generateFec_matchesMask_gaps :
    (∃ fecPackets, generateFec (fun _ _ _ _ _ => 0x80) [headerOnly 10, headerOnly 13,
          headerOnly 18] 60 0 false .kFecMaskRandom [] = some (0, fecPackets) ∧
        fecPackets.length = getNumberOfFecPackets 3 60 ∧
        ∀ fecPacket ∈ fecPackets,
          MatchesMask [headerOnly 10, headerOnly 13, headerOnly 18] fecPacket) ↔
      EveryByteStarts 10 [headerOnly 10, headerOnly 13, headerOnly 18] ∧
        UnusedColumnsClear 10 [headerOnly 10, headerOnly 13, headerOnly 18]
          (maskRows (fun _ => 0x80) 3 (getNumberOfFecPackets 3 60)) :=
  generateFec_matchesMask_iff (fun _ _ _ _ _ _ => 0x80)
    [headerOnly 10, headerOnly 13, headerOnly 18] 60 0 false .kFecMaskRandom
    (by rw [Ascending]; decide) (by decide) (by decide) (by decide)

/-- The loop comes from the last column of the first byte to the second column of the next one. It
stays in the first byte, where the count of its shift is `7 - 9`. -/
theorem not_generateFec_matchesMask :
    ¬ ∃ fecPackets, generateFec (fun _ _ _ _ _ _ => 0xe0) [headerOnly 10, headerOnly 17,
          headerOnly 19] 60 0 false .kFecMaskRandom [] = some (0, fecPackets) ∧
        fecPackets.length = getNumberOfFecPackets 3 60 ∧
        ∀ fecPacket ∈ fecPackets,
          MatchesMask [headerOnly 10, headerOnly 17, headerOnly 19] fecPacket := by
  intro ⟨fecPackets, generated, _⟩
  have jumps : (generateFec (fun _ _ _ _ _ _ => 0xe0) [headerOnly 10, headerOnly 17,
      headerOnly 19] 60 0 false .kFecMaskRandom []).isNone = true := by
    decide
  rw [generated] at jumps
  cases jumps

end ZyWebRtc.Fec
