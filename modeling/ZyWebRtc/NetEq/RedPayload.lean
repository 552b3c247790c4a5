import ZyWebRtc.Foundation.ByteString

namespace ZyWebRtc.NetEq

/-! Payloads with redundant audio: a chain of headers for the redundant blocks, the header of
the primary block, and the blocks one behind the other. -/

/-- The header of a redundant block. -/
structure RedHeader where
  payloadType : UInt8
  timestampOffset : Nat
  blockLength : Nat
  typeBits : payloadType < 0x80
  offsetBits : timestampOffset < 2 ^ 14
  lengthBits : blockLength < 2 ^ 10
  deriving DecidableEq

namespace RedHeader

def encode (header : RedHeader) : Bytes :=
  [0x80 ||| header.payloadType, UInt8.ofNat (header.timestampOffset / 64),
    UInt8.ofNat (header.timestampOffset % 64 * 4 + header.blockLength / 256),
    UInt8.ofNat (header.blockLength % 256)]

def ofBytes (first second third fourth : UInt8) : RedHeader where
  payloadType := first &&& 0x7F
  timestampOffset := second.toNat * 64 + third.toNat / 4
  blockLength := third.toNat % 4 * 256 + fourth.toNat
  typeBits := by
    rw [UInt8.lt_iff_toNat_lt, UInt8.toNat_and]
    exact Nat.lt_succ_of_le Nat.and_le_right
  offsetBits := by
    have secondBound := second.toNat_lt
    have thirdBound := third.toNat_lt
    omega
  lengthBits := by
    have fourthBound := fourth.toNat_lt
    omega

theorem set_bit_type : ∀ first : UInt8, first &&& 0x80 ≠ 0 → 0x80 ||| (first &&& 0x7F) = first := by
  intro first
  cases first with
  | ofBitVec bits =>
    cases bits with
    | ofFin value =>
      revert value
      decide +kernel

theorem type_of_set_bit : ∀ type : UInt8, type < 0x80 →
    (0x80 ||| type) &&& 0x80 ≠ 0 ∧ (0x80 ||| type) &&& 0x7F = type ∧
      type &&& 0x80 = 0 ∧ type &&& 0x7F = type := by
  intro type
  cases type with
  | ofBitVec bits =>
    cases bits with
    | ofFin value =>
      revert value
      decide +kernel

theorem lt_of_clear_bit : ∀ first : UInt8, first &&& 0x80 = 0 →
    first < 0x80 ∧ first &&& 0x7F = first := by
  intro first
  cases first with
  | ofBitVec bits =>
    cases bits with
    | ofFin value =>
      revert value
      decide +kernel

theorem encode_ofBytes {first : UInt8} (set : first &&& 0x80 ≠ 0) (second third fourth : UInt8) :
    (ofBytes first second third fourth).encode = [first, second, third, fourth] := by
  have thirdBound := third.toNat_lt
  have fourthBound := fourth.toNat_lt
  have secondByte : UInt8.ofNat ((second.toNat * 64 + third.toNat / 4) / 64) = second := by
    rw [show (second.toNat * 64 + third.toNat / 4) / 64 = second.toNat by omega, UInt8.ofNat_toNat]
  have thirdByte : UInt8.ofNat ((second.toNat * 64 + third.toNat / 4) % 64 * 4 +
      (third.toNat % 4 * 256 + fourth.toNat) / 256) = third := by
    rw [show (second.toNat * 64 + third.toNat / 4) % 64 * 4 +
      (third.toNat % 4 * 256 + fourth.toNat) / 256 = third.toNat by omega, UInt8.ofNat_toNat]
  have fourthByte : UInt8.ofNat ((third.toNat % 4 * 256 + fourth.toNat) % 256) = fourth := by
    rw [show (third.toNat % 4 * 256 + fourth.toNat) % 256 = fourth.toNat by omega,
      UInt8.ofNat_toNat]
  simp only [encode, ofBytes, set_bit_type first set, secondByte, thirdByte, fourthByte]

theorem encode_fields (header : RedHeader) :
    ∃ second third fourth, header.encode = [0x80 ||| header.payloadType, second, third, fourth] ∧
      second.toNat * 64 + third.toNat / 4 = header.timestampOffset ∧
      third.toNat % 4 * 256 + fourth.toNat = header.blockLength := by
  have offsetBits := header.offsetBits
  have lengthBits := header.lengthBits
  refine ⟨_, _, _, rfl, ?_, ?_⟩
  all_goals
    simp only [UInt8.toNat_ofNat']
    omega

end RedHeader

/-- A payload whose chain of headers comes to its end. -/
structure RedPayload where
  headers : List RedHeader
  primaryType : UInt8
  typeBits : primaryType < 0x80
  /-- The bytes behind the headers. -/
  data : Bytes

namespace RedPayload

def encode (red : RedPayload) : Bytes :=
  red.headers.flatMap RedHeader.encode ++ red.primaryType :: red.data

def redundantLength (headers : List RedHeader) : Nat := (headers.map RedHeader.blockLength).sum

/-- All redundant blocks are there; the primary block is what they leave. -/
def Fits (red : RedPayload) : Prop := redundantLength red.headers ≤ red.data.length

instance (red : RedPayload) : Decidable red.Fits :=
  inferInstanceAs (Decidable (redundantLength red.headers ≤ red.data.length))

/-- The redundant blocks that are completely there, from the first on. -/
def completeBlocks : List RedHeader → Bytes → List (RedHeader × Bytes)
  | [], _ => []
  | header :: headers, data =>
    if data.length < header.blockLength then []
    else (header, data.take header.blockLength) ::
      completeBlocks headers (data.drop header.blockLength)

/-- The primary block, when the payload fits. -/
def primaryBlock (red : RedPayload) : Bytes := red.data.drop (redundantLength red.headers)

@[simp] theorem redundantLength_nil : redundantLength [] = 0 := rfl

@[simp] theorem redundantLength_cons (header : RedHeader) (headers : List RedHeader) :
    redundantLength (header :: headers) = header.blockLength + redundantLength headers := by
  rw [redundantLength, redundantLength, List.map_cons, List.sum_cons]

theorem mem_completeBlocks {headers : List RedHeader} {data : Bytes} {header : RedHeader}
    {bytes : Bytes} (member : (header, bytes) ∈ completeBlocks headers data) :
    ∃ before after, headers = before ++ header :: after ∧
      redundantLength before + header.blockLength ≤ data.length ∧
      bytes = (data.drop (redundantLength before)).take header.blockLength := by
  induction headers generalizing data with
  | nil => cases member
  | cons head tail induction =>
    rw [completeBlocks] at member
    split at member
    case isTrue short => cases member
    case isFalse long =>
      rcases List.mem_cons.mp member with same | later
      · cases same
        exact ⟨[], tail, rfl, by simpa using long, by simp⟩
      · rcases induction later with ⟨before, after, split, inside, content⟩
        rw [List.length_drop] at inside
        refine ⟨head :: before, after, by rw [split]; rfl, ?_, ?_⟩
        · rw [redundantLength_cons]
          omega
        · rw [content, List.drop_drop, redundantLength_cons]

end RedPayload

end ZyWebRtc.NetEq
