import ZyWebRtc.Rtcp.BitRateFields

namespace ZyWebRtc.Rtcp

/-! Bit rates that are sent as feedback and received again: REMB, TMMBR and TMMBN. -/

open List Option RTCPPacket Bytes RTCPSender RTCPParserV2 Nat

/-- The decoded rate is not above the original, and less than a power of two below it. -/
def KeptWithin (original decoded exponent : Nat) : Prop :=
  decoded ≤ original ∧ original < decoded + 2 ^ exponent

/-- The mantissa times the power of its exponent, or the largest word. -/
def saturated (mantissa exponent : Nat) : Nat := min (mantissa * 2 ^ exponent) (2 ^ 32 - 1)

/-- The parser is at an item, in a block with an end. -/
structure AtItem (parser : RTCPParserV2) (start stop : Nat) : Prop where
  ptr : parser.ptr = start
  blockEnd : parser.blockEnd = stop

/-! ## What is decoded -/

section Decoded

variable {bitRate : UInt32} {mantissa exponent decoded : Nat}

/-- A field whose rate fits in a word loses nothing, and any other one wraps to less than the
largest word. -/
theorem wrapped_eq_saturated_iff {width : Nat} (narrow : width ≤ 18)
    (inField : mantissa < 2 ^ width) :
    mantissa * 2 ^ (exponent % 32) % 2 ^ 32 = saturated mantissa exponent ↔
      mantissa * 2 ^ exponent < 2 ^ 32 := by
  have inWord : mantissa < 2 ^ 18 :=
    inField.trans_le (Nat.pow_le_pow_right (by decide) narrow)
  rw [saturated]
  constructor
  · intro same
    by_contra large
    rw [Nat.min_eq_right (by omega)] at same
    -- The largest word is odd, so nothing was shifted.
    cases shift : exponent % 32 with
    | zero =>
      rw [shift, Nat.pow_zero, Nat.mul_one] at same
      omega
    | succ count =>
      rw [shift, Nat.pow_succ, ← Nat.mul_assoc] at same
      omega
  · intro fits
    rw [Nat.min_eq_left (by omega)]
    rcases Nat.eq_zero_or_pos mantissa with rfl | positive
    · simp
    · have small : exponent < 32 := by
        by_contra large
        have power : 2 ^ 32 ≤ 2 ^ exponent := Nat.pow_le_pow_right (by decide) (by omega)
        have whole : 1 * 2 ^ 32 ≤ mantissa * 2 ^ exponent := Nat.mul_le_mul positive power
        omega
      rw [mod_eq_of_lt small, mod_eq_of_lt fits]

theorem wrapped_div_eq_saturated_div_iff (inField : mantissa < 2 ^ 17) :
    mantissa * 2 ^ (exponent % 32) % 2 ^ 32 / 1000 = saturated mantissa exponent / 1000 ↔
      mantissa * 2 ^ exponent < 2 ^ 32 := by
  constructor
  · intro same
    by_contra large
    rw [saturated, Nat.min_eq_right (by omega)] at same
    -- A rate that overflows is a multiple of 2^16.
    by_cases low : exponent % 32 < 16
    · have power : 2 ^ (exponent % 32) ≤ 2 ^ 15 := Nat.pow_le_pow_right (by decide) (by omega)
      have product : mantissa * 2 ^ (exponent % 32) ≤ (2 ^ 17 - 1) * 2 ^ 15 :=
        Nat.mul_le_mul (by omega) power
      omega
    · have split : 2 ^ (exponent % 32) = 2 ^ 16 * 2 ^ (exponent % 32 - 16) := by
        rw [← Nat.pow_add]
        congr 1
        omega
      rw [split, Nat.mul_left_comm] at same
      omega
  · intro fits
    rw [(wrapped_eq_saturated_iff (le_succ 17) inField).mpr fits]

theorem quotient_keptWithin (rate exponent : Nat) :
    KeptWithin rate (rate / 2 ^ exponent * 2 ^ exponent) exponent := by
  have positive := Nat.two_pow_pos exponent
  have split := div_add_mod rate (2 ^ exponent)
  have remainder := mod_lt rate positive
  rw [Nat.mul_comm] at split
  constructor <;> omega

theorem quotient_lt {rate exponent width : Nat} (reached : rate ≤ (2 ^ width - 1) * 2 ^ exponent) :
    rate / 2 ^ exponent < 2 ^ width := by
  have positive := Nat.two_pow_pos width
  have atMost : rate / 2 ^ exponent ≤ 2 ^ width - 1 :=
    Nat.div_le_of_le_mul (by rw [Nat.mul_comm]; exact reached)
  omega

theorem keptWithin_thousands {rate wire exponent : Nat}
    (kept : KeptWithin (rate * 1000) wire exponent) :
    KeptWithin rate (wire / 1000) exponent := by
  have positive := Nat.two_pow_pos exponent
  rcases kept with ⟨notAbove, near⟩
  constructor <;> omega

end Decoded

/-! ## REMB -/

variable {data : Bytes}

theorem parsePsfbREMBItem_eq_some {parser next : RTCPParserV2}
    (parsed : parsePsfbREMBItem data parser = some (true, next)) :
    ∃ rate item, data.uint24At (parser.ptr + 1) = some rate ∧ next.packet = .rembItem item ∧
      item.bitRate = rembDecoded rate := by
  rw [parsePsfbREMBItem] at parsed
  split at parsed
  · cases parsed
  · simp only [bind_eq_bind, bind_eq_some_iff] at parsed
    rcases parsed with ⟨numberOfSSRCs, -, rate, rateAt, parsed⟩
    split at parsed
    · cases parsed
    · simp only [bind_eq_some_iff, Option.pure_def, Option.some.injEq] at parsed
      rcases parsed with ⟨ssrcs, -, same⟩
      cases same
      exact ⟨rate, _, rateAt, rfl, rfl⟩

theorem exists_parsePsfbREMBItem {parser : RTCPParserV2} {count : UInt8}
    (counted : data.byteAt parser.ptr = some count)
    (sized : parser.ptr + 4 + 4 * count.toNat = parser.blockEnd)
    (inside : parser.blockEnd ≤ data.length) :
    ∃ next, parsePsfbREMBItem data parser = some (true, next) := by
  have rateInside : parser.ptr + 1 + 3 ≤ data.length := by omega
  have ssrcsInside : parser.ptr + 4 + 4 * count.toNat ≤ data.length := by omega
  rcases exists_uint24At rateInside with ⟨rate, rateAt⟩
  rcases exists_uint32sAt count.toNat (parser.ptr + 4) ssrcsInside with ⟨ssrcs, ssrcsAt⟩
  have long : ¬ parser.blockEnd - parser.ptr < 4 := by omega
  have enough : ¬ parser.blockEnd - (parser.ptr + 4) < 4 * count.toNat := by omega
  simp [parsePsfbREMBItem, long, counted, rateAt, RTCPParserV2.length, enough, ssrcsAt]

/-- The head of a REMB block, up to the number of sources. -/
def rembHead (sender : RTCPSender) : Bytes :=
  [0x80 + 15, 206, 0, UInt8.ofNat sender.rembSSRC.val.length + 4] ++ uint32Bytes sender.ssrc ++
    uint32Bytes 0 ++ rembIdentifier

section

variable {sender : RTCPSender} {buffer : RtcpBuffer}

theorem buildREMB_bytes (room : buffer.full (20 + 4 * sender.rembSSRC.val.length) = false) :
    (sender.buildREMB buffer).buffer.bytes = buffer.bytes ++ (rembHead sender ++
      ([UInt8.ofNat sender.rembSSRC.val.length] ++ (rembBytes sender.rembBitrate ++
        sender.rembSSRC.val.flatMap uint32Bytes))) := by
  rw [buildREMB, writeBlock, room]
  simp only [Bool.false_eq_true, if_false, RtcpBuffer.append, rembHead, rembBytes,
    append_assoc, cons_append, nil_append]

/-- The rate of a REMB is received within a power of two by its written exponent. -/
def RembKept (sender : RTCPSender) (data : Bytes) (parser : RTCPParserV2) : Prop :=
  ∃ next rate item, parsePsfbREMBItem data parser = some (true, next) ∧
    data.uint24At (parser.ptr + 1) = some rate ∧ next.packet = .rembItem item ∧
    KeptWithin sender.rembBitrate.toNat item.bitRate.toNat (rembExponent rate)

theorem keptWithin_remb_iff {bitrate rate : UInt32}
    (exponent : rembExponent rate = (exponentFor bitrate 262143).toNat)
    (mantissa : rembMantissa rate = (bitrate >>> exponentFor bitrate 262143).toNat % 2 ^ 18) :
    KeptWithin bitrate.toNat (rembDecoded rate).toNat (rembExponent rate) ↔
      bitrate.toNat ≤ 262143 * 2 ^ 14 := by
  have bound := bitrate.toNat_lt
  rw [rembDecoded_toNat, exponent, mantissa, shiftRight_toNat]
  by_cases reached : bitrate.toNat ≤ 262143 * 2 ^ 14
  · rcases exponentFor_reaches (show 14 < 64 by decide) rembMantissa_shift reached with
      ⟨small, reaches⟩
    change (exponentFor bitrate 262143).toNat ≤ 14 at small
    change bitrate.toNat ≤ (2 ^ 18 - 1) * 2 ^ (exponentFor bitrate 262143).toNat at reaches
    have kept := quotient_keptWithin bitrate.toNat (exponentFor bitrate 262143).toNat
    have fits := quotient_lt reaches
    have word := kept.1
    rw [iff_true_right reached, mod_eq_of_lt (by omega : (exponentFor bitrate 262143).toNat < 32),
      mod_eq_of_lt fits, mod_eq_of_lt (by omega)]
    exact kept
  · have unreached : exponentFor bitrate 262143 = 0 :=
      exponentFor_unreached fun index inside => by
        have below := rembMantissa_below index inside
        change (largestRembMantissa <<< UInt32.ofNat index).toNat < _
        omega
    rw [iff_false_right reached, unreached, KeptWithin, show (0 : UInt32).toNat = 0 from rfl]
    simp only [zero_mod, Nat.pow_zero, Nat.div_one, Nat.mul_one]
    omega

variable {parser : RTCPParserV2}

theorem rembKept_iff {rest : Bytes}
    (room : buffer.full (20 + 4 * sender.rembSSRC.val.length) = false)
    (atItem : AtItem parser (buffer.position + 16)
      (buffer.position + 20 + 4 * sender.rembSSRC.val.length)) :
    RembKept sender ((sender.buildREMB buffer).buffer.bytes ++ rest) parser ↔
      sender.rembBitrate.toNat ≤ 262143 * 2 ^ 14 := by
  have few := sender.rembSSRC.property
  have headLength : (buffer.bytes ++ rembHead sender).length = parser.ptr := by
    rw [atItem.ptr, length_append]
    rfl
  have data : (sender.buildREMB buffer).buffer.bytes ++ rest =
      (buffer.bytes ++ rembHead sender) ++ ([UInt8.ofNat sender.rembSSRC.val.length] ++
        (rembBytes sender.rembBitrate ++ (sender.rembSSRC.val.flatMap uint32Bytes ++ rest))) := by
    rw [buildREMB_bytes room]
    simp only [append_assoc]
  have counted : ((sender.buildREMB buffer).buffer.bytes ++ rest).byteAt parser.ptr =
      some (UInt8.ofNat sender.rembSSRC.val.length) := by
    rw [data, ← headLength]
    exact byteAt_append _ _ 0
  have value : (UInt8.ofNat sender.rembSSRC.val.length).toNat = sender.rembSSRC.val.length := by
    rw [UInt8.toNat_ofNat', mod_eq_of_lt few]
  have inside : parser.blockEnd ≤ ((sender.buildREMB buffer).buffer.bytes ++ rest).length := by
    rw [data, length_append, headLength, atItem.ptr, atItem.blockEnd]
    simp only [length_append, length_cons, length_nil, rembBytes, flatMap_uint32Bytes_length]
    omega
  have sized : parser.ptr + 4 + 4 * (UInt8.ofNat sender.rembSSRC.val.length).toNat =
      parser.blockEnd := by
    rw [value, atItem.ptr, atItem.blockEnd]
  rcases uint24At_rembBytes sender.rembBitrate
    (sender.rembSSRC.val.flatMap uint32Bytes ++ rest) with ⟨rate, rateAt, exponent, mantissa⟩
  have written : ((sender.buildREMB buffer).buffer.bytes ++ rest).uint24At (parser.ptr + 1) =
      some rate := by
    rw [data, ← headLength, uint24At_append]
    exact (uint24At_append [_] _ 0).trans rateAt
  rw [← keptWithin_remb_iff exponent mantissa]
  constructor
  · rintro ⟨next, otherRate, item, parsed, otherAt, packet, kept⟩
    rcases parsePsfbREMBItem_eq_some parsed with ⟨readRate, readItem, readAt, readPacket, decoded⟩
    rw [written] at otherAt readAt
    cases otherAt
    cases readAt
    rw [packet] at readPacket
    cases readPacket
    rw [← decoded]
    exact kept
  · intro kept
    rcases exists_parsePsfbREMBItem counted sized inside with ⟨next, parsed⟩
    rcases parsePsfbREMBItem_eq_some parsed with ⟨readRate, item, readAt, packet, decoded⟩
    rw [written] at readAt
    cases readAt
    refine ⟨next, rate, item, parsed, written, packet, ?_⟩
    rw [decoded]
    exact kept

/-! ## TMMBR and TMMBN -/

theorem parseBitRateItem_eq_some {data : Bytes} {packetType : RTCPPacketTypes}
    {member : BitRateItem → RTCPPacket} {next : RTCPParserV2}
    (parsed : parseBitRateItem data packetType member parser = some (true, next)) :
    ∃ word item, data.uint32At (parser.ptr + 4) = some word ∧ next.packet = member item ∧
      item.maxTotalMediaBitRate = tmmbrDecoded word / 1000 := by
  rw [parseBitRateItem] at parsed
  split at parsed
  · cases parsed
  · simp only [bind_eq_bind, bind_eq_some_iff, Option.pure_def, Option.some.injEq] at parsed
    rcases parsed with ⟨ssrc, -, word, wordAt, same⟩
    cases same
    exact ⟨word, _, wordAt, rfl, rfl⟩

theorem exists_parseBitRateItem {data : Bytes} (packetType : RTCPPacketTypes)
    (member : BitRateItem → RTCPPacket)
    (long : parser.ptr + 8 ≤ parser.blockEnd) (inside : parser.blockEnd ≤ data.length) :
    ∃ next, parseBitRateItem data packetType member parser = some (true, next) := by
  have ssrcInside : parser.ptr + 4 ≤ data.length := by omega
  have wordInside : parser.ptr + 4 + 4 ≤ data.length := by omega
  rcases exists_uint32At ssrcInside with ⟨ssrc, ssrcAt⟩
  rcases exists_uint32At wordInside with ⟨word, wordAt⟩
  have enough : ¬ parser.blockEnd - parser.ptr < 8 := by omega
  simp [parseBitRateItem, RTCPParserV2.length, enough, ssrcAt, wordAt]

/-- A bit rate in thousands of bits is received within a power of two by its written exponent;
so is the rate in bits that the field stands for. -/
def BitRateKept (tmmbr : UInt32) (member : BitRateItem → RTCPPacket)
    (parse : Bytes → RTCPParserV2 → Outcome) (data : Bytes) (parser : RTCPParserV2) : Prop :=
  ∃ next word item, parse data parser = some (true, next) ∧
    data.uint32At (parser.ptr + 4) = some word ∧ next.packet = member item ∧
    KeptWithin tmmbr.toNat item.maxTotalMediaBitRate.toNat (tmmbrExponent word) ∧
    KeptWithin (tmmbr.toNat * 1000) (wireBitRate (tmmbrMantissa word) (tmmbrExponent word))
      (tmmbrExponent word)

theorem keptWithin_tmmbr_iff {tmmbr word : UInt32} (inBits : tmmbr.toNat * 1000 < 2 ^ 32)
    (exponent : tmmbrExponent word = (exponentFor (tmmbr * 1000) 131071).toNat)
    (mantissa : tmmbrMantissa word =
      ((tmmbr * 1000) >>> exponentFor (tmmbr * 1000) 131071).toNat % 2 ^ 17) :
    (KeptWithin tmmbr.toNat (tmmbrDecoded word / 1000).toNat (tmmbrExponent word) ∧
      KeptWithin (tmmbr.toNat * 1000) (wireBitRate (tmmbrMantissa word) (tmmbrExponent word))
        (tmmbrExponent word)) ↔
      tmmbr.toNat * 1000 ≤ 131071 * 2 ^ 15 := by
  have bits : (tmmbr * 1000).toNat = tmmbr.toNat * 1000 := by
    rw [UInt32.toNat_mul]
    exact mod_eq_of_lt inBits
  rw [UInt32.toNat_div, tmmbrDecoded_toNat, wireBitRate, exponent, mantissa, shiftRight_toNat, bits]
  by_cases reached : tmmbr.toNat * 1000 ≤ 131071 * 2 ^ 15
  · rcases exponentFor_reaches (show 15 < 64 by decide) tmmbrMantissa_shift
      (show (tmmbr * 1000).toNat ≤ _ by rw [bits]; exact reached) with ⟨small, reaches⟩
    change (exponentFor (tmmbr * 1000) 131071).toNat ≤ 15 at small
    change (tmmbr * 1000).toNat ≤ (2 ^ 17 - 1) * 2 ^ (exponentFor (tmmbr * 1000) 131071).toNat
      at reaches
    rw [bits] at reaches
    have kept := quotient_keptWithin (tmmbr.toNat * 1000)
      (exponentFor (tmmbr * 1000) 131071).toNat
    have fits := quotient_lt reaches
    have word := kept.1
    rw [iff_true_right reached,
      mod_eq_of_lt (by omega : (exponentFor (tmmbr * 1000) 131071).toNat < 32),
      mod_eq_of_lt fits, mod_eq_of_lt (by omega)]
    exact ⟨keptWithin_thousands kept, kept⟩
  · have unreached : exponentFor (tmmbr * 1000) 131071 = 0 :=
      exponentFor_unreached fun index inside => by
        have below := tmmbrMantissa_below index inside
        change (largestTmmbrMantissa <<< UInt32.ofNat index).toNat < _
        omega
    rw [iff_false_right reached, unreached, show (0 : UInt32).toNat = 0 from rfl,
      show (1000 : UInt32).toNat = 1000 from rfl]
    simp only [zero_mod, Nat.pow_zero, Nat.div_one, Nat.mul_one]
    rintro ⟨⟨notAbove, near⟩, -⟩
    have small : tmmbr.toNat * 1000 % 2 ^ 17 < 2 ^ 17 := mod_lt _ (by decide)
    rw [mod_eq_of_lt (by omega)] at near
    omega

theorem bitRateKept_iff {tmmbr packetOH source : UInt32} {front back : Bytes}
    {packetType : RTCPPacketTypes} {member : BitRateItem → RTCPPacket}
    (injective : Function.Injective member)
    (inBits : tmmbr.toNat * 1000 < 2 ^ 32) (atEntry : parser.ptr = front.length)
    (long : parser.ptr + 8 ≤ parser.blockEnd)
    (inside : parser.blockEnd ≤
      (front ++ (uint32Bytes source ++ (tmmbrBytes tmmbr packetOH ++ back))).length) :
    BitRateKept tmmbr member (fun data => parseBitRateItem data packetType member)
        (front ++ (uint32Bytes source ++ (tmmbrBytes tmmbr packetOH ++ back))) parser ↔
      tmmbr.toNat * 1000 ≤ 131071 * 2 ^ 15 := by
  rcases uint32At_tmmbrBytes tmmbr packetOH back with ⟨word, wordAt, exponent, mantissa⟩
  have written : (front ++ (uint32Bytes source ++ (tmmbrBytes tmmbr packetOH ++ back))).uint32At
      (parser.ptr + 4) = some word := by
    rw [atEntry, uint32At_append]
    exact (uint32At_append (uint32Bytes source) _ 0).trans wordAt
  rw [← keptWithin_tmmbr_iff inBits exponent mantissa]
  constructor
  · rintro ⟨next, otherWord, item, parsed, otherAt, packet, kept⟩
    rcases parseBitRateItem_eq_some parsed with ⟨readWord, readItem, readAt, readPacket, decoded⟩
    rw [written] at otherAt readAt
    cases otherAt
    cases readAt
    rw [packet] at readPacket
    cases injective readPacket
    rw [← decoded]
    exact kept
  · intro kept
    rcases exists_parseBitRateItem packetType member long inside with ⟨next, parsed⟩
    rcases parseBitRateItem_eq_some parsed with ⟨readWord, item, readAt, packet, decoded⟩
    rw [written] at readAt
    cases readAt
    refine ⟨next, word, item, parsed, written, packet, ?_⟩
    rw [decoded]
    exact kept

theorem tmmbrItem_injective : Function.Injective tmmbrItem :=
  fun _ _ same => tmmbrItem.inj same

theorem tmmbnItem_injective : Function.Injective tmmbnItem :=
  fun _ _ same => tmmbnItem.inj same

/-- The request is sent: it is wanted, and there is room for it. -/
structure SendsRequest (world : SenderWorld) (received : Option ReceivedBoundingSet)
    (sender : RTCPSender) (buffer : RtcpBuffer) : Prop where
  wanted : received.all (sender.sendsTMMBR world) = true
  positive : sender.tmmbrSend ≠ 0
  room : buffer.full 20 = false

theorem tmmbrKept_iff {world : SenderWorld} {received : Option ReceivedBoundingSet}
    {sender : RTCPSender} {buffer : RtcpBuffer} {rest : Bytes}
    (sends : SendsRequest world received sender buffer)
    (inBits : sender.tmmbrSend.toNat * 1000 < 2 ^ 32)
    (atItem : AtItem parser (buffer.position + 12) (buffer.position + 20)) :
    BitRateKept sender.tmmbrSend .tmmbrItem parseTMMBRItem
        ((sender.buildTMMBR world (some received) buffer).buffer.bytes ++ rest) parser ↔
      sender.tmmbrSend.toNat * 1000 ≤ 131071 * 2 ^ 15 := by
  have data : (sender.buildTMMBR world (some received) buffer).buffer.bytes ++ rest =
      (buffer.bytes ++ ([0x80 + 3, 205, 0, 4] ++ uint32Bytes sender.ssrc ++ [0, 0, 0, 0])) ++
        (uint32Bytes sender.remoteSSRC ++
          (tmmbrBytes sender.tmmbrSend sender.packetOHSend ++ rest)) := by
    rw [buildTMMBR, if_pos ⟨sends.wanted, sends.positive⟩, writeBlock, sends.room]
    simp only [Bool.false_eq_true, if_false, RtcpBuffer.append, append_assoc]
  have headLength : (buffer.bytes ++
      ([0x80 + 3, 205, 0, 4] ++ uint32Bytes sender.ssrc ++ [0, 0, 0, 0])).length = parser.ptr := by
    rw [atItem.ptr, length_append]
    rfl
  rw [data]
  refine bitRateKept_iff tmmbrItem_injective inBits headLength.symm ?_ ?_
  · rw [atItem.ptr, atItem.blockEnd]
  · rw [length_append, headLength, atItem.ptr, atItem.blockEnd, length_append,
      uint32Bytes_length, length_append]
    change _ ≤ _ + (4 + (4 + _))
    omega

def tmmbnBytes (entries : List SetElement) : Bytes :=
  entries.flatMap fun element =>
    uint32Bytes element.ssrc ++ tmmbrBytes element.tmmbr element.packetOH

theorem tmmbnBytes_length (entries : List SetElement) :
    (tmmbnBytes entries).length = 8 * entries.length := by
  induction entries with
  | nil => rfl
  | cons element entries induction =>
    rw [tmmbnBytes, flatMap_cons, length_append]
    change 8 + (tmmbnBytes entries).length = _
    rw [induction, length_cons]
    omega

theorem tmmbnKept_iff {rest : Bytes} {before after : List SetElement} {element : SetElement}
    (room : buffer.full (12 + sender.boundingSetToSend.entries.length * 8) = false)
    (entries : sender.tmmbnEntries = before ++ element :: after)
    (inBits : element.tmmbr.toNat * 1000 < 2 ^ 32)
    (atItem : AtItem parser (buffer.position + 12 + 8 * before.length)
      (buffer.position + 12 + 8 * sender.tmmbnEntries.length)) :
    BitRateKept element.tmmbr .tmmbnItem parseTMMBNItem
        ((sender.buildTMMBN buffer).buffer.bytes ++ rest) parser ↔
      element.tmmbr.toNat * 1000 ≤ 131071 * 2 ^ 15 := by
  have data : (sender.buildTMMBN buffer).buffer.bytes ++ rest = (buffer.bytes ++ ([0x80 + 4, 205] ++
          uint16Bytes (UInt16.ofNat (2 + 2 * sender.tmmbnEntries.length)) ++
          uint32Bytes sender.ssrc ++ [0, 0, 0, 0] ++ tmmbnBytes before)) ++
        (uint32Bytes element.ssrc ++ (tmmbrBytes element.tmmbr element.packetOH ++
          (tmmbnBytes after ++ rest))) := by
    rw [buildTMMBN, writeBlock, room]
    simp only [Bool.false_eq_true, if_false, RtcpBuffer.append, append_assoc]
    rw [show (sender.tmmbnEntries.flatMap fun element =>
      uint32Bytes element.ssrc ++ tmmbrBytes element.tmmbr element.packetOH) =
        tmmbnBytes sender.tmmbnEntries from rfl, tmmbnBytes]
    conv_lhs => enter [2, 2, 2, 2, 2, 1]; rw [entries]
    simp only [flatMap_append, flatMap_cons, append_assoc]
    rfl
  have headLength : (buffer.bytes ++ ([0x80 + 4, 205] ++
      uint16Bytes (UInt16.ofNat (2 + 2 * sender.tmmbnEntries.length)) ++
      uint32Bytes sender.ssrc ++ [0, 0, 0, 0] ++ tmmbnBytes before)).length = parser.ptr := by
    rw [atItem.ptr, length_append, length_append, tmmbnBytes_length, Nat.add_assoc]
    rfl
  have count : sender.tmmbnEntries.length = before.length + (after.length + 1) := by
    rw [entries, length_append, length_cons]
  rw [data]
  refine bitRateKept_iff tmmbnItem_injective inBits headLength.symm ?_ ?_
  · rw [atItem.ptr, atItem.blockEnd, count]
    omega
  · rw [length_append, headLength, atItem.ptr, atItem.blockEnd, count, length_append,
      uint32Bytes_length, length_append, length_append, tmmbnBytes_length]
    change _ ≤ _ + (4 + (4 + _))
    omega

end

/-! ## Received fields -/

/-- Whatever field a REMB item has, its rate is decoded without wrapping. -/
def RembSaturates (data : Bytes) (parser next : RTCPParserV2) : Prop :=
  ∃ rate item, data.uint24At (parser.ptr + 1) = some rate ∧ next.packet = .rembItem item ∧
    item.bitRate.toNat = saturated (rembMantissa rate) (rembExponent rate)

/-- The same of a TMMBR or TMMBN item, whose rate is kept in thousands of bits. -/
def BitRateSaturates (member : BitRateItem → RTCPPacket) (data : Bytes)
    (parser next : RTCPParserV2) : Prop :=
  ∃ word item, data.uint32At (parser.ptr + 4) = some word ∧ next.packet = member item ∧
    item.maxTotalMediaBitRate.toNat = saturated (tmmbrMantissa word) (tmmbrExponent word) / 1000

theorem rembSaturates_iff {parser next : RTCPParserV2}
    (parsed : parsePsfbREMBItem data parser = some (true, next)) {rate : UInt32}
    (rateAt : data.uint24At (parser.ptr + 1) = some rate) :
    RembSaturates data parser next ↔ wireBitRate (rembMantissa rate) (rembExponent rate) < 2 ^ 32 := by
  rcases parsePsfbREMBItem_eq_some parsed with ⟨readRate, item, readAt, packet, decoded⟩
  rw [rateAt] at readAt
  cases readAt
  have inField : rembMantissa rate < 2 ^ 18 := mod_lt _ (by decide)
  rw [wireBitRate, ← wrapped_eq_saturated_iff (Nat.le_refl 18) inField, ← rembDecoded_toNat,
    ← decoded]
  constructor
  · rintro ⟨otherRate, otherItem, otherAt, otherPacket, same⟩
    rw [rateAt] at otherAt
    cases otherAt
    rw [packet] at otherPacket
    cases otherPacket
    exact same
  · exact fun same => ⟨rate, item, rateAt, packet, same⟩

theorem bitRateSaturates_iff {packetType : RTCPPacketTypes}
    {member : BitRateItem → RTCPPacket} (injective : Function.Injective member)
    {parser next : RTCPParserV2}
    (parsed : parseBitRateItem data packetType member parser = some (true, next)) {word : UInt32}
    (wordAt : data.uint32At (parser.ptr + 4) = some word) :
    BitRateSaturates member data parser next ↔
      wireBitRate (tmmbrMantissa word) (tmmbrExponent word) < 2 ^ 32 := by
  rcases parseBitRateItem_eq_some parsed with ⟨readWord, item, readAt, packet, decoded⟩
  rw [wordAt] at readAt
  cases readAt
  have value : item.maxTotalMediaBitRate.toNat =
      tmmbrMantissa word * 2 ^ (tmmbrExponent word % 32) % 2 ^ 32 / 1000 := by
    rw [decoded, UInt32.toNat_div, tmmbrDecoded_toNat]
    rfl
  have inField : tmmbrMantissa word < 2 ^ 17 := mod_lt _ (by decide)
  rw [wireBitRate, ← wrapped_div_eq_saturated_div_iff inField, ← value]
  constructor
  · rintro ⟨otherWord, otherItem, otherAt, otherPacket, same⟩
    rw [wordAt] at otherAt
    cases otherAt
    rw [packet] at otherPacket
    cases injective otherPacket
    exact same
  · exact fun same => ⟨word, item, wordAt, packet, same⟩

/-- A sent bit rate is received within a power of two exactly up to the largest mantissa with the
largest exponent that does not overflow, and a received field is decoded without wrapping
exactly when its rate fits in a word. -/
theorem bitRates_kept_and_saturated_iff (sender : RTCPSender) (buffer : RtcpBuffer)
    (rest data : Bytes) (parser next : RTCPParserV2) :
    (buffer.full (20 + 4 * sender.rembSSRC.val.length) = false →
      AtItem parser (buffer.position + 16)
        (buffer.position + 20 + 4 * sender.rembSSRC.val.length) →
      (RembKept sender ((sender.buildREMB buffer).buffer.bytes ++ rest) parser ↔
        sender.rembBitrate.toNat ≤ 262143 * 2 ^ 14)) ∧
    (∀ (world : SenderWorld) (received : Option ReceivedBoundingSet),
      SendsRequest world received sender buffer →
      sender.tmmbrSend.toNat * 1000 < 2 ^ 32 →
      AtItem parser (buffer.position + 12) (buffer.position + 20) →
      (BitRateKept sender.tmmbrSend .tmmbrItem parseTMMBRItem
          ((sender.buildTMMBR world (some received) buffer).buffer.bytes ++ rest) parser ↔
        sender.tmmbrSend.toNat * 1000 ≤ 131071 * 2 ^ 15)) ∧
    (∀ (before : List SetElement) (element : SetElement) (after : List SetElement),
      buffer.full (12 + sender.boundingSetToSend.entries.length * 8) = false →
      sender.tmmbnEntries = before ++ element :: after →
      element.tmmbr.toNat * 1000 < 2 ^ 32 →
      AtItem parser (buffer.position + 12 + 8 * before.length)
        (buffer.position + 12 + 8 * sender.tmmbnEntries.length) →
      (BitRateKept element.tmmbr .tmmbnItem parseTMMBNItem
          ((sender.buildTMMBN buffer).buffer.bytes ++ rest) parser ↔
        element.tmmbr.toNat * 1000 ≤ 131071 * 2 ^ 15)) ∧
    (∀ rate, parsePsfbREMBItem data parser = some (true, next) →
      data.uint24At (parser.ptr + 1) = some rate →
      (RembSaturates data parser next ↔
        wireBitRate (rembMantissa rate) (rembExponent rate) < 2 ^ 32)) ∧
    (∀ word, parseTMMBRItem data parser = some (true, next) →
      data.uint32At (parser.ptr + 4) = some word →
      (BitRateSaturates .tmmbrItem data parser next ↔
        wireBitRate (tmmbrMantissa word) (tmmbrExponent word) < 2 ^ 32)) ∧
    (∀ word, parseTMMBNItem data parser = some (true, next) →
      data.uint32At (parser.ptr + 4) = some word →
      (BitRateSaturates .tmmbnItem data parser next ↔
        wireBitRate (tmmbrMantissa word) (tmmbrExponent word) < 2 ^ 32)) := by
  refine ⟨?_, ?_, ?_, ?_, ?_, ?_⟩
  · exact fun room atItem => rembKept_iff room atItem
  · exact fun world received sends inBits atItem => tmmbrKept_iff sends inBits atItem
  · exact fun before element after room entries inBits atItem =>
      tmmbnKept_iff room entries inBits atItem
  · exact fun rate parsed rateAt => rembSaturates_iff parsed rateAt
  · exact fun word parsed wordAt => bitRateSaturates_iff tmmbrItem_injective parsed wordAt
  · exact fun word parsed wordAt => bitRateSaturates_iff tmmbnItem_injective parsed wordAt

def rembSender (bitrate : UInt32) : RTCPSender := RTCPSender.setREMBData bitrate [7] (.create false)

def parserAt (start stop : Nat) : RTCPParserV2 where
  validPacket := true
  ptr := start
  blockEnd := stop
  state := .psfbRembItem
  numberOfBlocks := 0
  packetType := .kRtcpPsfbRembCode
  packet := .bye 0

theorem rembKept_rembSender : RembKept (rembSender 300001)
    (((rembSender 300001).buildREMB .empty).buffer.bytes ++ []) (parserAt 16 24) :=
  ((bitRates_kept_and_saturated_iff (rembSender 300001) .empty [] [] (parserAt 16 24)
    (parserAt 16 24)).1 rfl ⟨rfl, rfl⟩).mpr (by decide)

/-- The largest bit rate, and a field with a mantissa of one and an exponent of 32. -/
theorem not_rembKept_largest :
    ¬RembKept (rembSender 4294967295)
        (((rembSender 4294967295).buildREMB .empty).buffer.bytes ++ []) (parserAt 16 24) ∧
      ∃ next, parsePsfbREMBItem [0, 0x80, 0, 1] (parserAt 0 4) = some (true, next) ∧
        ¬RembSaturates [0, 0x80, 0, 1] (parserAt 0 4) next := by
  constructor
  · rw [rembKept_iff (show RtcpBuffer.empty.full _ = false from rfl) ⟨rfl, rfl⟩]
    decide
  · refine ⟨_, rfl, ?_⟩
    have rateAt : Bytes.uint24At [0, 0x80, 0, 1] ((parserAt 0 4).ptr + 1) = some 0x800001 := rfl
    rw [rembSaturates_iff rfl rateAt]
    decide

end ZyWebRtc.Rtcp
