import ZyWebRtc.Rtcp.NackFeedback

namespace ZyWebRtc.Rtcp

/-! `RTCPReceiver::HandleRPSI`, and what it reports of the block that `BuildRPSI` writes: a
picture identifier in bytes of seven bits each, the highest first. -/

open List RTCPSender Bytes UInt64

/-! ## The receiver -/

/-- What an item sets in the information about the packet: a flag, and the identifier of a
picture unless its bits are no whole bytes. -/
inductive RpsiReport
  | unknown
  | picture (pictureId : UInt64)
  deriving DecidableEq

def pictureIdLoop (bits : Bytes) : (count n : Nat) → (pictureId : UInt64) → Option UInt64
  | 0, _, pictureId => some pictureId
  | count + 1, n, pictureId => do
    let byte ← bits.byteAt n
    pictureIdLoop bits count (n + 1) ((pictureId + (byte &&& 0x7f).toUInt64) <<< 7)

/-- There is no value when a byte outside of the bit string is read. Without any byte that is
the one before it. -/
def readPictureId (bits : Bytes) (numberOfBytes : UInt8) : Option UInt64 :=
  if numberOfBytes = 0 then none
  else do
    let pictureId ← pictureIdLoop bits (numberOfBytes.toNat - 1) 0 0
    let last ← bits.byteAt (numberOfBytes.toNat - 1)
    pure (pictureId + (last &&& 0x7f).toUInt64)

def readRPSI (item : RTCPPacketPSFBRPSI) : Option RpsiReport :=
  if item.numberOfValidBits % 8 ≠ 0 then some .unknown
  else do
    let pictureId ← readPictureId item.nativeBitString (item.numberOfValidBits / 8).toUInt8
    pure (.picture pictureId)

/-- The parser that is left, and what is set. -/
def handleRPSI (data : Bytes) (parser : RTCPParserV2) :
    Option (RTCPParserV2 × List RpsiReport) := do
  let next ← parser.iterate data
  if next.packetType = .kRtcpPsfbRpsiCode then do
    match ← readRPSI next.packet.rpsiMember with
    | .unknown => do
      let skipped ← next.iterate data
      pure (skipped, [.unknown])
    | .picture pictureId => pure (next, [.picture pictureId])
  else pure (next, [])

/-- A round of the loop of `IncomingRTCPPacket`. To the parser the other handlers do nothing
but call `Iterate` until it finds something that is not theirs. -/
def incomingRound (data : Bytes) (parser : RTCPParserV2) :
    Option (RTCPParserV2 × List RpsiReport) :=
  if parser.packetType = .kRtcpPsfbRpsiCode then handleRPSI data parser
  else do
    let next ← parser.iterate data
    pure (next, [])

/-- The block that the parser comes to is consumed as one item, from which the identifier is
reported, and the round after it reports nothing and goes on behind the block. -/
def ReportedOnce (data : Bytes) (pictureID : UInt64) (stop : Nat) (parser : RTCPParserV2) :
    Prop :=
  ∃ header item next, parser.iterate data = some header ∧
    incomingRound data header = some (item, [.picture pictureID]) ∧
    incomingRound data item = some (next, []) ∧
    RTCPParserV2.iterate data { item with state := .topLevel, ptr := stop } = some next

/-- The bits of the item are counted without wrapping, and only they are read. -/
def ReadsItem (length : Nat) (paddingBits : UInt8) (item : RTCPPacketPSFBRPSI) : Prop :=
  item.numberOfValidBits.toNat + paddingBits.toNat = 8 * (length - 2) ∧ (readRPSI item).isSome

/-! ## Items -/

theorem pictureIdLoop_isSome {bits : Bytes} (count : Nat) :
    ∀ n pictureId, n + count ≤ bits.length → (pictureIdLoop bits count n pictureId).isSome := by
  induction count with
  | zero => exact fun _ _ _ => rfl
  | succ count induction =>
    intro n pictureId inside
    rcases exists_byteAt (show n < bits.length by omega) with ⟨byte, byteAt⟩
    rw [pictureIdLoop, byteAt]
    exact induction (n + 1) _ (by omega)

theorem readPictureId_isSome_iff {bits : Bytes} {numberOfBytes : UInt8}
    (inside : numberOfBytes.toNat ≤ bits.length) :
    (readPictureId bits numberOfBytes).isSome ↔ numberOfBytes ≠ 0 := by
  rw [readPictureId]
  by_cases none : numberOfBytes = 0
  · rw [if_pos none]
    exact iff_of_false Bool.false_ne_true fun some => some none
  · have positive : 0 < numberOfBytes.toNat := Nat.pos_of_ne_zero fun zero =>
      none (UInt8.toNat_inj.mp zero)
    have looped : (pictureIdLoop bits (numberOfBytes.toNat - 1) 0 0).isSome :=
      pictureIdLoop_isSome _ 0 0 (by omega)
    rcases Option.isSome_iff_exists.mp looped with ⟨pictureId, loop⟩
    rcases exists_byteAt (show numberOfBytes.toNat - 1 < bits.length by omega) with ⟨last, lastAt⟩
    rw [if_neg none, loop]
    simp [lastAt, none]

theorem bytesAt_length {data bytes : Bytes} {offset count : Nat}
    (read : data.bytesAt offset count = some bytes) : bytes.length = count := by
  rw [bytesAt] at read
  split at read
  · cases read
    rw [length_take, length_drop]
    omega
  · cases read

theorem parseRPSIItem_eq_some {data : Bytes} {parser next : RTCPParserV2}
    (parsed : parser.parseRPSIItem data = some (true, next)) :
    4 ≤ parser.length ∧ parser.length ≤ 32 ∧
      ∃ paddingBits, data.byteAt parser.ptr = some paddingBits ∧
        next.packet.rpsiMember.nativeBitString.length = parser.length - 2 ∧
        next.packet.rpsiMember.numberOfValidBits =
          UInt16.ofNat (parser.length - 2) * 8 - paddingBits.toUInt16 := by
  rw [RTCPParserV2.parseRPSIItem] at parsed
  split at parsed
  · cases parsed
  · next long =>
      split at parsed
      · cases parsed
      · next short =>
          rcases Option.bind_eq_some_iff.mp parsed with ⟨paddingBits, paddingAt, parsed⟩
          rcases Option.bind_eq_some_iff.mp parsed with ⟨payloadType, _, parsed⟩
          rcases Option.bind_eq_some_iff.mp parsed with ⟨bits, bitsAt, parsed⟩
          cases parsed
          rw [RTCP_RPSI_DATA_SIZE] at short
          exact ⟨by omega, by omega, paddingBits, paddingAt, bytesAt_length bitsAt, rfl⟩

theorem validBits_toNat (length : Nat) (paddingBits : UInt8) :
    (UInt16.ofNat (length - 2) * 8 - paddingBits.toUInt16).toNat =
      (65536 + 8 * (length - 2) - paddingBits.toNat) % 65536 := by
  have padding := paddingBits.toNat_lt
  rw [UInt16.toNat_sub, UInt16.toNat_mul, UInt16.toNat_ofNat', UInt8.toNat_toUInt16]
  change (65536 - paddingBits.toNat + (length - 2) % 65536 * 8 % 65536) % 65536 = _
  omega

theorem readRPSI_isSome_iff {item : RTCPPacketPSFBRPSI}
    (inside : item.numberOfValidBits.toNat ≤ 8 * item.nativeBitString.length)
    (bound : item.nativeBitString.length ≤ 30) :
    (readRPSI item).isSome ↔
      item.numberOfValidBits.toNat % 8 ≠ 0 ∨ item.numberOfValidBits.toNat ≠ 0 := by
  have remainder : item.numberOfValidBits % 8 ≠ 0 ↔ item.numberOfValidBits.toNat % 8 ≠ 0 := by
    rw [ne_eq, ← UInt16.toNat_inj, UInt16.toNat_mod]
    rfl
  have few := inside.trans (Nat.mul_le_mul_left 8 bound)
  have bytes : (item.numberOfValidBits / 8).toUInt8.toNat = item.numberOfValidBits.toNat / 8 := by
    rw [UInt16.toNat_toUInt8, UInt16.toNat_div]
    change item.numberOfValidBits.toNat / 8 % 256 = _
    omega
  rw [readRPSI]
  by_cases unknown : item.numberOfValidBits.toNat % 8 ≠ 0
  · rw [if_pos (remainder.mpr unknown)]
    exact iff_of_true rfl (.inl unknown)
  · rw [if_neg (mt remainder.mp unknown)]
    have read : (readPictureId item.nativeBitString
        (item.numberOfValidBits / 8).toUInt8).isSome ↔
          (item.numberOfValidBits / 8).toUInt8 ≠ 0 := readPictureId_isSome_iff (by omega)
    have some : (do
        let pictureId ← readPictureId item.nativeBitString (item.numberOfValidBits / 8).toUInt8
        pure (RpsiReport.picture pictureId) : Option RpsiReport).isSome ↔
          (readPictureId item.nativeBitString (item.numberOfValidBits / 8).toUInt8).isSome := by
      cases readPictureId item.nativeBitString (item.numberOfValidBits / 8).toUInt8 <;>
        exact Iff.rfl
    rw [some, read, ne_eq, ← UInt8.toNat_inj, bytes]
    change ¬ _ = 0 ↔ _
    omega

/-- An accepted item is read right exactly if its padding fits, and leaves a byte where it
leaves whole bytes. -/
theorem readsItem_iff {data : Bytes} {parser next : RTCPParserV2} {paddingBits : UInt8}
    (parsed : parser.parseRPSIItem data = some (true, next))
    (paddingAt : data.byteAt parser.ptr = some paddingBits) :
    ReadsItem parser.length paddingBits next.packet.rpsiMember ↔
      paddingBits.toNat ≤ 8 * (parser.length - 2) ∧
        (paddingBits.toNat % 8 = 0 → paddingBits.toNat < 8 * (parser.length - 2)) := by
  rcases parseRPSIItem_eq_some parsed with ⟨long, short, read, readAt, bits, valid⟩
  rw [paddingAt] at readAt
  cases readAt
  have count : next.packet.rpsiMember.numberOfValidBits.toNat =
      (65536 + 8 * (parser.length - 2) - paddingBits.toNat) % 65536 := by
    rw [valid, validBits_toNat]
  have padding := paddingBits.toNat_lt
  rw [ReadsItem]
  by_cases fits : paddingBits.toNat ≤ 8 * (parser.length - 2)
  · rw [readRPSI_isSome_iff (by omega) (by omega)]
    omega
  · apply iff_of_false
    · intro reads
      have whole := reads.1
      omega
    · exact fun both => fits both.1

/-! ## The bytes of an identifier -/

/-- The loop that counts the bytes ends for an identifier without its highest bit, with the
fewest bytes that hold it. -/
theorem bytesRequiredLoop_eq_some {pictureID : UInt64} (small : pictureID.toNat < 2 ^ 63)
    (fuel : Nat) : ∀ {bytesRequired}, bytesRequired ≤ 9 → 10 ≤ fuel + bytesRequired →
      (2 ≤ bytesRequired → 2 ^ (7 * (bytesRequired - 1)) ≤ pictureID.toNat) →
      ∃ count, bytesRequiredLoop pictureID fuel (UInt64.ofNat (7 * bytesRequired))
          bytesRequired = some count ∧ pictureID.toNat < 2 ^ (7 * count) ∧
        (2 ≤ count → 2 ^ (7 * (count - 1)) ≤ pictureID.toNat) := by
  induction fuel with
  | zero =>
    intro bytesRequired bound enough
    omega
  | succ fuel induction =>
    intro bytesRequired bound enough needed
    have shift : (UInt64.ofNat (7 * bytesRequired)).toNat % 64 = 7 * bytesRequired := by
      rw [toNat_ofNat']
      omega
    have more : pictureID >>> UInt64.ofNat (7 * bytesRequired) > 0 ↔
        2 ^ (7 * bytesRequired) ≤ pictureID.toNat := by
      change 0 < _ ↔ _
      rw [lt_iff_toNat_lt, UInt64.toNat_shiftRight, shift, Nat.shiftRight_eq_div_pow]
      exact Nat.div_pos_iff.trans (and_iff_right (Nat.two_pow_pos _))
    rw [bytesRequiredLoop]
    by_cases larger : 2 ^ (7 * bytesRequired) ≤ pictureID.toNat
    · rw [if_pos (more.mpr larger)]
      have next : UInt64.ofNat (7 * bytesRequired) + 7 =
          UInt64.ofNat (7 * (bytesRequired + 1)) := by
        rw [Nat.mul_add, ofNat_add]
        rfl
      have few : bytesRequired ≠ 9 := by
        intro nine
        rw [nine] at larger
        exact absurd small (Nat.not_lt.mpr larger)
      rw [next]
      exact induction (by omega) (by omega) fun _ => larger
    · rw [if_neg (mt more.mp larger)]
      exact ⟨bytesRequired, rfl, Nat.lt_of_not_le larger, needed⟩

theorem bytesRequired_eq_some {pictureID : UInt64} (small : pictureID.toNat < 2 ^ 63) :
    ∃ count, bytesRequired pictureID = some count ∧ pictureID.toNat < 2 ^ (7 * count) ∧
      (2 ≤ count → 2 ^ (7 * (count - 1)) ≤ pictureID.toNat) := by
  have fromOne := @bytesRequiredLoop_eq_some pictureID small 65 1 (by decide) (by decide)
    fun two => absurd two (by decide)
  exact fromOne

theorem low7_toNat (byte : UInt8) : (byte &&& 0x7f).toUInt64.toNat = byte.toNat % 128 := by
  rw [UInt8.toNat_toUInt64, UInt8.toNat_and]
  exact Nat.and_two_pow_sub_one_eq_mod byte.toNat 7

theorem groupByte_toNat (pictureID : UInt64) {shift : Nat} (bound : shift < 64) :
    ((0x80 ||| (pictureID >>> UInt64.ofNat shift).toUInt8) &&& 0x7f).toUInt64.toNat =
      pictureID.toNat / 2 ^ shift % 128 := by
  have amount : (UInt64.ofNat shift).toNat % 64 = shift := by
    rw [toNat_ofNat']
    omega
  rw [low7_toNat, UInt8.toNat_or, toNat_toUInt8, UInt64.toNat_shiftRight, amount,
    Nat.shiftRight_eq_div_pow]
  change (2 ^ 7 ||| _ % 2 ^ 8) % 2 ^ 7 = _ % 2 ^ 7
  rw [Nat.or_mod_two_pow, Nat.mod_self, Nat.zero_or, Nat.mod_mod_of_dvd _ (by decide)]

theorem lastByte_toNat (pictureID : UInt64) :
    ((pictureID &&& 0x7f).toUInt8 &&& 0x7f).toUInt64.toNat = pictureID.toNat % 128 := by
  have low : (pictureID &&& 0x7f).toNat = pictureID.toNat % 128 := by
    rw [UInt64.toNat_and]
    exact Nat.and_two_pow_sub_one_eq_mod pictureID.toNat 7
  rw [low7_toNat, toNat_toUInt8, low]
  omega

/-- The loop reads the groups before the last one. -/
theorem pictureIdLoop_pictureIDBytes {pictureID : UInt64} (back : Bytes) (count : Nat) :
    ∀ (front : Bytes) (pictureId : UInt64), count ≤ 8 →
      pictureId.toNat = pictureID.toNat / 2 ^ (7 * (count + 1)) * 128 →
      ∃ before, pictureIdLoop (front ++ (pictureIDBytes pictureID (count + 1) ++ back)) count
          front.length pictureId = some before ∧
        before.toNat = pictureID.toNat / 128 * 128 ∧
        byteAt (front ++ (pictureIDBytes pictureID (count + 1) ++ back))
          (front.length + count) = some (pictureID &&& 0x7f).toUInt8 := by
  induction count with
  | zero =>
    intro front pictureId _ read
    exact ⟨pictureId, rfl, read, byteAt_append front _ 0⟩
  | succ count induction =>
    intro front pictureId bound read
    let byte : UInt8 := 0x80 ||| (pictureID >>> UInt64.ofNat ((count + 1) * 7)).toUInt8
    have head : byteAt (front ++ (pictureIDBytes pictureID (count + 1 + 1) ++ back))
        front.length = some byte := byteAt_append front _ 0
    have group : (byte &&& 0x7f).toUInt64.toNat =
        pictureID.toNat / 2 ^ (7 * (count + 1)) % 128 := by
      rw [Nat.mul_comm 7 (count + 1)]
      exact groupByte_toNat pictureID (by omega)
    have split : pictureID.toNat / 2 ^ (7 * (count + 1 + 1)) =
        pictureID.toNat / 2 ^ (7 * (count + 1)) / 128 := by
      rw [Nat.div_div_eq_div_mul, Nat.mul_add 7 (count + 1), Nat.pow_add]
    have below : pictureID.toNat / 2 ^ (7 * (count + 1)) * 128 ≤ pictureID.toNat := by
      have power : 2 ^ (7 * (count + 1)) = 2 ^ (7 * count) * 128 := by
        rw [Nat.mul_add, Nat.pow_add]
      have whole := Nat.div_mul_le_self pictureID.toNat (2 ^ (7 * (count + 1)))
      have least := Nat.mul_le_mul_left (pictureID.toNat / 2 ^ (7 * (count + 1)))
        (Nat.le_mul_of_pos_left 128 (Nat.two_pow_pos (7 * count)))
      rw [← power] at least
      omega
    have width := pictureID.toNat_lt
    have next : ((pictureId + (byte &&& 0x7f).toUInt64) <<< 7).toNat =
        pictureID.toNat / 2 ^ (7 * (count + 1)) * 128 := by
      rw [UInt64.toNat_shiftLeft, UInt64.toNat_add, group, read, split]
      change (_ % 2 ^ 64) <<< 7 % 2 ^ 64 = _
      rw [Nat.shiftLeft_eq]
      omega
    rcases induction (front ++ [byte]) _ (by omega) next with ⟨before, loop, value, last⟩
    have joined : front ++ [byte] ++ (pictureIDBytes pictureID (count + 1) ++ back) =
        front ++ (pictureIDBytes pictureID (count + 1 + 1) ++ back) := by
      rw [append_assoc]
      rfl
    rw [joined, length_append, length_singleton] at loop last
    refine ⟨before, ?_, value, ?_⟩
    · rw [pictureIdLoop, head]
      exact loop
    · rw [← last, Nat.add_right_comm front.length 1 count]
      rfl

theorem readPictureId_pictureIDBytes {pictureID : UInt64} {count : Nat} (back : Bytes)
    (positive : 1 ≤ count) (bound : count ≤ 9) (holds : pictureID.toNat < 2 ^ (7 * count)) :
    readPictureId (pictureIDBytes pictureID count ++ back) (UInt8.ofNat count) =
      some pictureID := by
  rcases Nat.exists_eq_add_of_le' positive with ⟨groups, rfl⟩
  have number : (UInt8.ofNat (groups + 1)).toNat = groups + 1 := by
    rw [UInt8.toNat_ofNat']
    omega
  have nonzero : UInt8.ofNat (groups + 1) ≠ 0 := by
    intro zero
    rw [zero] at number
    exact absurd number (Nat.succ_ne_zero groups).symm
  rcases pictureIdLoop_pictureIDBytes back groups [] 0 (by omega) (by
    rw [Nat.div_eq_of_lt holds]
    rfl) with ⟨before, loop, value, last⟩
  have sum : before + ((pictureID &&& 0x7f).toUInt8 &&& 0x7f).toUInt64 = pictureID := by
    have width := pictureID.toNat_lt
    apply UInt64.toNat_inj.mp
    rw [UInt64.toNat_add, lastByte_toNat, value]
    omega
  rw [readPictureId, if_neg nonzero, number, Nat.add_sub_cancel]
  rw [nil_append, length_nil, Nat.zero_add] at *
  rw [loop]
  change (byteAt _ groups).bind _ = _
  rw [last]
  exact congrArg some sum

end ZyWebRtc.Rtcp
