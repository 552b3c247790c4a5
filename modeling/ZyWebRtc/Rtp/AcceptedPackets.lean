import ZyWebRtc.Foundation.Window
import ZyWebRtc.Rtp.HeaderParserSafety

namespace ZyWebRtc.Rtp

/-! The packets that `Parse` accepts, by their bytes, and that packets with the same header are
accepted alike. -/

open Option

/-! ## Packets that are accepted -/

def extensionEnd (data : Bytes) : Nat :=
  extensionOffset data + 4 + 4 * extensionWords data % 65536

def parsedLength (data : Bytes) : Nat :=
  if extensionBit data then extensionEnd data else extensionOffset data

/-- The elements that the parser comes to end in the packet. -/
def ElementsFit (data : Bytes) (extensionMap : Option RtpHeaderExtensionMap) : Prop :=
  extensionProfile data = kRtpOneByteHeaderExtensionId → ∀ map ∈ extensionMap, ∀ offset,
    Visits data map (extensionEnd data) (extensionOffset data + 4) offset →
      ElementFits data map offset

/-- What `Parse` asks of a packet. -/
structure Accepted (data : Bytes) (extensionMap : Option RtpHeaderExtensionMap) : Prop where
  minLength : kRtpMinParseLength ≤ data.length
  version : (data.byteAt 0).getD 0 >>> 6 = kRtpExpectedVersion
  inside : parsedLength data ≤ data.length
  elementsFit : extensionBit data = true → ElementsFit data extensionMap

theorem extensionOffset_le_parsedLength (data : Bytes) :
    extensionOffset data ≤ parsedLength data := by
  rw [parsedLength]
  split
  · rw [extensionEnd]
    omega
  · exact Nat.le_refl _

theorem twelve_le_extensionOffset (data : Bytes) : 12 ≤ extensionOffset data :=
  Nat.le_add_right 12 _

section Acceptance

variable {data : Bytes} {extensionMap : Option RtpHeaderExtensionMap}

theorem exists_extensionElements_iff (packet : HasExtension data)
    (extension : RTPHeaderExtension) :
    (∃ result, extensionElements data extensionMap extension = some result) ↔
      ElementsFit data extensionMap := by
  have octetsInside := packet.octetsInside
  rw [extensionElements, ElementsFit, extensionEnd]
  by_cases oneByte : extensionProfile data = kRtpOneByteHeaderExtensionId
  · rw [if_pos oneByte]
    cases extensionMap with
    | none => simp [parseOneByteExtensionHeader]
    | some map =>
      rw [parseOneByteExtensionHeader,
        parseOneByteElements_inside_iff octetsInside _ _ _ (Nat.le_refl _)]
      simp [oneByte]
  · simp [oneByte]

theorem Accepted.hasExtension (accepted : Accepted data extensionMap)
    (bit : extensionBit data = true) : HasExtension data := by
  have inside := accepted.inside
  rw [parsedLength, if_pos bit, extensionEnd] at inside
  exact ⟨accepted.minLength, accepted.version, bit, by omega, inside⟩

theorem Accepted.exists_parse (accepted : Accepted data extensionMap) (header : RTPHeader) :
    ∃ result, parse data extensionMap header = some (true, result) := by
  rcases parse_fixedHeader extensionMap header accepted.minLength accepted.version
    ((extensionOffset_le_parsedLength data).trans accepted.inside) with
    ⟨parsed, parsedLength, parseEq⟩
  rw [parseEq]
  by_cases bit : extensionBit data = true
  · have packet := accepted.hasExtension bit
    rcases (exists_extensionElements_iff packet parsed.extension).mpr (accepted.elementsFit bit)
      with ⟨extension, elements⟩
    have extensionParsed := parseExtension_accepted extensionMap packet parsedLength
    rw [elements] at extensionParsed
    rcases extensionParsed with ⟨result, resultEq, -⟩
    exact ⟨result, (if_pos bit).trans resultEq⟩
  · exact ⟨parsed, if_neg bit⟩

theorem accepted_of_parse {initial header : RTPHeader}
    (parsed : parse data extensionMap initial = some (true, header)) :
    Accepted data extensionMap ∧ header.headerLength.toNat = parsedLength data % 65536 := by
  by_cases invalid : data.length < kRtpMinParseLength ∨
      (data.byteAt 0).getD 0 >>> 6 ≠ kRtpExpectedVersion ∨
      data.length < extensionOffset data
  · rw [parse_rejected extensionMap initial invalid] at parsed
    cases parsed
  push Not at invalid
  rcases parse_fixedHeader extensionMap initial invalid.1 invalid.2.1 invalid.2.2 with
    ⟨fixed, fixedLength, parseEq⟩
  rw [parseEq] at parsed
  by_cases bit : extensionBit data = true
  case neg =>
    rw [if_neg bit] at parsed
    cases parsed
    have length : parsedLength data = extensionOffset data := if_neg bit
    have bound := numCSRCs_le data
    refine ⟨⟨invalid.1, invalid.2.1, by rw [length]; exact invalid.2.2, fun set => absurd set bit⟩,
      ?_⟩
    rw [length, fixedLength, Nat.mod_eq_of_lt]
    rw [extensionOffset]
    omega
  rw [if_pos bit] at parsed
  have length : parsedLength data = extensionEnd data := if_pos bit
  by_cases outside : data.length < extensionOffset data + 4 ∨
      data.length < extensionOffset data + 4 + 4 * extensionWords data % 65536
  · rcases parseExtension_rejected extensionMap fixed outside with ⟨result, rejected⟩
    rw [rejected] at parsed
    cases parsed
  have packet : HasExtension data := ⟨invalid.1, invalid.2.1, bit, by omega, by omega⟩
  have extensionParsed := parseExtension_accepted extensionMap packet fixedLength
  cases elements : extensionElements data extensionMap fixed.extension with
  | none =>
    rw [elements] at extensionParsed
    rw [extensionParsed] at parsed
    cases parsed
  | some extension =>
    rw [elements] at extensionParsed
    rcases extensionParsed with ⟨result, resultEq, resultLength⟩
    rw [resultEq] at parsed
    cases parsed
    refine ⟨⟨invalid.1, invalid.2.1, by rw [length]; exact packet.octetsInside, fun _ => ?_⟩, ?_⟩
    · exact (exists_extensionElements_iff packet fixed.extension).mp ⟨extension, elements⟩
    · rw [resultLength, length, extensionEnd]

theorem headerLength_le_of_accepted {initial header : RTPHeader}
    (parsed : parse data extensionMap initial = some (true, header)) :
    header.headerLength.toNat ≤ data.length := by
  have accepted := accepted_of_parse parsed
  have inside := accepted.1.inside
  omega

theorem parseExtension_fields {ptr : Nat} {header result : RTPHeader} {flag : Bool}
    (parsed : parseExtension data extensionMap ptr header = some (flag, result)) :
    result.markerBit = header.markerBit ∧ result.payloadType = header.payloadType ∧
      result.sequenceNumber = header.sequenceNumber ∧ result.ssrc = header.ssrc := by
  unfold parseExtension at parsed
  split at parsed
  · cases parsed
    exact ⟨rfl, rfl, rfl, rfl⟩
  simp only [bind_eq_bind, bind_eq_some_iff] at parsed
  rcases parsed with ⟨profile, -, words, -, parsed⟩
  split at parsed
  · cases parsed
    exact ⟨rfl, rfl, rfl, rfl⟩
  split at parsed
  all_goals
    rcases bind_eq_some_iff.mp parsed with ⟨extension, -, last⟩
    cases last
    exact ⟨rfl, rfl, rfl, rfl⟩

/-- What an accepted packet has at its fixed places. -/
structure FixedFields (data : Bytes) (header : RTPHeader) : Prop where
  markerBit : header.markerBit = decide ((data.byteAt 1).getD 0 &&& 0x80 ≠ 0)
  payloadType : header.payloadType = (data.byteAt 1).getD 0 &&& 0x7f
  sequenceNumber : data.uint16At 2 = some header.sequenceNumber
  ssrc : data.uint32At 8 = some header.ssrc

theorem fixedFields_of_parse {initial header : RTPHeader}
    (parsed : parse data extensionMap initial = some (true, header)) :
    FixedFields data header := by
  unfold parse at parsed
  split at parsed
  · cases parsed
  simp only [bind_eq_bind, bind_eq_some_iff] at parsed
  rcases parsed with ⟨first, -, second, secondAt, number, numberAt, timestamp, -, ssrc, ssrcAt,
    parsed⟩
  split at parsed
  · cases parsed
  split at parsed
  · cases parsed
  have value : (data.byteAt 1).getD 0 = second := by rw [secondAt, getD_some]
  -- with and without padding
  split at parsed
  all_goals
    rcases bind_eq_some_iff.mp parsed with ⟨padding, -, parsed⟩
    rcases bind_eq_some_iff.mp parsed with ⟨csrcs, -, parsed⟩
    split at parsed
    · cases parsed
      exact ⟨by rw [value], by rw [value], numberAt, ssrcAt⟩
    · rcases parseExtension_fields parsed with ⟨markerBit, payloadType, sequenceNumber, source⟩
      exact ⟨by rw [markerBit, value], by rw [payloadType, value],
        by rw [sequenceNumber, numberAt], by rw [source, ssrcAt]⟩

end Acceptance

/-! ## Packets with the same header -/

section Agreement

variable {data other : Bytes} {start stop : Nat}

theorem countPaddingBytes_agrees (agrees : data.Agrees other start stop) (remaining : Nat) :
    ∀ (ptr : Nat) (numZeroBytes : UInt8), start ≤ ptr → ptr + remaining ≤ stop →
      countPaddingBytes other remaining ptr numZeroBytes =
        countPaddingBytes data remaining ptr numZeroBytes := by
  induction remaining with
  | zero => exact fun _ _ _ _ => rfl
  | succ remaining induction =>
    intro ptr numZeroBytes after before
    rw [countPaddingBytes, countPaddingBytes, agrees.byteAt after (by omega)]
    apply congrArg
    funext byte
    rw [induction (ptr + 1) (numZeroBytes + 1) (by omega) (by omega)]

theorem parsePaddingBytes_agrees (agrees : data.Agrees other start stop) {ptr : Nat}
    (after : start ≤ ptr) :
    parsePaddingBytes other stop ptr = parsePaddingBytes data stop ptr := by
  by_cases behind : stop ≤ ptr
  · rw [parsePaddingBytes, parsePaddingBytes, Nat.sub_eq_zero_of_le behind]
    rfl
  · exact countPaddingBytes_agrees agrees (stop - ptr) ptr 0 after (by omega)

theorem Visits.of_agrees (agrees : data.Agrees other start stop) {map : RtpHeaderExtensionMap}
    {ptr offset : Nat} (visits : Visits other map stop ptr offset) (after : start ≤ ptr) :
    Visits data map stop ptr offset ∧ ptr ≤ offset ∧ offset < stop := by
  induction visits with
  | here before => exact ⟨.here before, Nat.le_refl _, before⟩
  | next before byteAt value padding _ induction =>
    rcases induction (by omega) with ⟨rest, later, last⟩
    rw [agrees.byteAt after before] at byteAt
    rw [parsePaddingBytes_agrees agrees (by omega)] at padding
    exact ⟨.next before byteAt value padding rest, by omega, last⟩

/-- Beside the second byte, the sequence number, the timestamp and the source, the other packet
has the same header. What follows may differ, but is no shorter. -/
structure SameHeader (data other : Bytes) : Prop where
  first : other.byteAt 0 = data.byteAt 0
  rest : data.Agrees other 12 (parsedLength data)
  longer : data.length ≤ other.length

namespace SameHeader

variable (same : SameHeader data other)

include same

theorem extensionBit_eq : extensionBit other = extensionBit data := by
  rw [extensionBit, extensionBit, same.first]

theorem extensionOffset_eq : extensionOffset other = extensionOffset data := by
  rw [extensionOffset, extensionOffset, numCSRCs, numCSRCs, same.first]

section Extension

variable (bit : extensionBit data = true)

include bit

theorem agrees : data.Agrees other (extensionOffset data) (extensionEnd data) := by
  have rest := same.rest
  rw [parsedLength, if_pos bit] at rest
  have after := twelve_le_extensionOffset data
  exact ⟨rest.inside, rest.otherInside, fun position behind before =>
    rest.same position (after.trans behind) before⟩

theorem extensionProfile_eq : extensionProfile other = extensionProfile data := by
  have inside : extensionOffset data + 2 ≤ extensionEnd data := by
    rw [extensionEnd]
    omega
  rw [extensionProfile, extensionProfile, same.extensionOffset_eq,
    (same.agrees bit).uint16At (Nat.le_refl _) inside]

theorem extensionWords_eq : extensionWords other = extensionWords data := by
  have inside : extensionOffset data + 2 + 2 ≤ extensionEnd data := by
    rw [extensionEnd]
    omega
  rw [extensionWords, extensionWords, same.extensionOffset_eq,
    (same.agrees bit).uint16At (by omega) inside]

theorem extensionEnd_eq : extensionEnd other = extensionEnd data := by
  rw [extensionEnd, extensionEnd, same.extensionOffset_eq, same.extensionWords_eq bit]

theorem elementsFit {extensionMap : Option RtpHeaderExtensionMap}
    (fit : ElementsFit data extensionMap) : ElementsFit other extensionMap := by
  intro oneByte map member offset visits
  rw [same.extensionProfile_eq bit] at oneByte
  rw [same.extensionEnd_eq bit, same.extensionOffset_eq] at visits
  have agrees := same.agrees bit
  rcases visits.of_agrees agrees (by omega) with ⟨inData, after, before⟩
  intro byte length byteAt value
  rw [agrees.byteAt (by omega) before] at byteAt
  exact (fit oneByte map member offset inData byte length byteAt value).trans same.longer

end Extension

theorem parsedLength_eq : parsedLength other = parsedLength data := by
  rw [parsedLength, parsedLength, same.extensionBit_eq, same.extensionOffset_eq]
  by_cases bit : extensionBit data = true
  · rw [if_pos bit, if_pos bit, same.extensionEnd_eq bit]
  · rw [if_neg bit, if_neg bit]

theorem accepted {extensionMap : Option RtpHeaderExtensionMap}
    (accepted : Accepted data extensionMap) : Accepted other extensionMap where
  minLength := accepted.minLength.trans same.longer
  version := by rw [same.first]; exact accepted.version
  inside := by rw [same.parsedLength_eq]; exact accepted.inside.trans same.longer
  elementsFit bit := by
    rw [same.extensionBit_eq] at bit
    exact same.elementsFit bit (accepted.elementsFit bit)

end SameHeader

end Agreement

end ZyWebRtc.Rtp
