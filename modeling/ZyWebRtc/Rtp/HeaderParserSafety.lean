import ZyWebRtc.Rtp.HeaderParser

namespace ZyWebRtc.Rtp

/-! Which packets `Parse` reads only inside of, and when the header length it
reports is the length of the header in the packet. -/

open Bytes

/-! ## Reads of the extension elements -/

theorem exists_countPaddingBytes {data : Bytes} (remaining : Nat) :
    ∀ (ptr : Nat) (numZeroBytes : UInt8), ptr + remaining ≤ data.length →
      ∃ numBytes, countPaddingBytes data remaining ptr numZeroBytes = some numBytes := by
  induction remaining with
  | zero => exact fun _ numZeroBytes _ => ⟨numZeroBytes, rfl⟩
  | succ remaining induction =>
    intro ptr numZeroBytes inside
    obtain ⟨byte, byteAt⟩ := exists_byteAt (show ptr < data.length by omega)
    by_cases zero : byte = 0
    · obtain ⟨numBytes, counted⟩ :=
        induction (ptr + 1) (numZeroBytes + 1) (by omega)
      exact ⟨numBytes, by simpa [countPaddingBytes, byteAt, zero] using counted⟩
    · exact ⟨numZeroBytes, by simp [countPaddingBytes, byteAt, zero]⟩

theorem exists_parsePaddingBytes {data : Bytes} {extensionEnd : Nat} (ptr : Nat)
    (inside : extensionEnd ≤ data.length) :
    ∃ numBytes, parsePaddingBytes data extensionEnd ptr = some numBytes := by
  by_cases behind : extensionEnd ≤ ptr
  · exact ⟨0, by simp [parsePaddingBytes, Nat.sub_eq_zero_of_le behind, countPaddingBytes]⟩
  · exact exists_countPaddingBytes (extensionEnd - ptr) ptr 0 (by omega)

/-- How many bytes `parseElement` reads behind the first byte of an element;
no value when this element ends the parsing of the extension. -/
def elementValueLength (map : RtpHeaderExtensionMap) (byte : UInt8) : Option Nat :=
  if elementId byte = 15 then none
  else match map.getType (elementId byte) with
    | some .transmissionTimeOffset | some .absoluteSendTime =>
      if elementLen byte ≠ 2 then none else some 3
    | some .audioLevel => some 0
    | some .none | none => none

section Element

variable {data : Bytes} {map : RtpHeaderExtensionMap} {byte : UInt8} {ptr length : Nat}
  (extension : RTPHeaderExtension)

theorem parseElement_last (last : elementValueLength map byte = none) :
    parseElement data map byte ptr extension = some (none, extension) := by
  unfold elementValueLength at last
  unfold parseElement
  split at last
  · simp_all
  · split at last <;> simp_all

theorem parseElement_inside (value : elementValueLength map byte = some length)
    (inside : ptr + length ≤ data.length) :
    ∃ next, parseElement data map byte ptr extension = some (some (ptr + length), next) := by
  have word (three : length = 3) : ∃ word, data.uint24At ptr = some word :=
    exists_uint24At (by omega)
  unfold elementValueLength at value
  unfold parseElement
  split at value
  · cases value
  · rename_i terminated
    rw [if_neg terminated]
    split at value
    · rename_i registered
      split at value <;> cases value
      obtain ⟨offset, offsetAt⟩ := word rfl
      simp_all
    · rename_i registered
      split at value <;> cases value
      obtain ⟨sendTime, sendTimeAt⟩ := word rfl
      simp_all
    · cases value
      simp_all
    · cases value
    · cases value

theorem parseElement_outside (value : elementValueLength map byte = some length)
    (start : ptr ≤ data.length) (outside : data.length < ptr + length) :
    parseElement data map byte ptr extension = none := by
  have word (three : length = 3) : data.uint24At ptr = none :=
    uint24At_eq_none (by omega)
  unfold elementValueLength at value
  unfold parseElement
  split at value
  · cases value
  · rename_i terminated
    rw [if_neg terminated]
    split at value
    · split at value <;> cases value
      simp_all
    · split at value <;> cases value
      simp_all
    · cases value
      omega
    · cases value
    · cases value

end Element

/-! ## The walk over the elements -/

/-- `Visits data map extensionEnd ptr offset`: a walk that begins at `ptr` comes
to an element whose first byte is at `offset`. -/
inductive Visits (data : Bytes) (map : RtpHeaderExtensionMap) (extensionEnd : Nat) :
    Nat → Nat → Prop
  | here {ptr} : ptr < extensionEnd → Visits data map extensionEnd ptr ptr
  | next {ptr offset byte length numBytes} :
      ptr < extensionEnd →
      data.byteAt ptr = some byte →
      elementValueLength map byte = some length →
      parsePaddingBytes data extensionEnd (ptr + 1 + length) = some numBytes →
      Visits data map extensionEnd (ptr + 1 + length + numBytes.toNat) offset →
      Visits data map extensionEnd ptr offset

section

variable (data : Bytes)

/-- The element at `offset` ends inside the packet. -/
def ElementFits (map : RtpHeaderExtensionMap) (offset : Nat) : Prop :=
  ∀ byte length, data.byteAt offset = some byte →
    elementValueLength map byte = some length → offset + 1 + length ≤ data.length

theorem parseOneByteElements_fuel (map : RtpHeaderExtensionMap)
    (extensionEnd fuel : Nat) :
    ∀ (more ptr : Nat) (extension : RTPHeaderExtension), extensionEnd - ptr ≤ fuel → fuel ≤ more →
      parseOneByteElements data map extensionEnd more ptr extension =
        parseOneByteElements data map extensionEnd fuel ptr extension := by
  induction fuel with
  | zero =>
    intro more ptr extension enough _
    cases more with
    | zero => rfl
    | succ more => simp [parseOneByteElements, show extensionEnd ≤ ptr by omega]
  | succ fuel induction =>
    intro more ptr extension enough bound
    obtain ⟨more, rfl⟩ : ∃ rest, more = rest + 1 := ⟨more - 1, by omega⟩
    by_cases finished : extensionEnd ≤ ptr
    · simp [parseOneByteElements, finished]
    · cases byteAt : data.byteAt ptr with
      | none => simp [parseOneByteElements, finished, byteAt]
      | some byte =>
        cases value : elementValueLength map byte with
        | none => simp [parseOneByteElements, finished, byteAt, parseElement_last extension value]
        | some length =>
          have start := lt_length_of_byteAt byteAt
          by_cases inside : ptr + 1 + length ≤ data.length
          · obtain ⟨next, element⟩ :=
              parseElement_inside extension value inside
            cases padding : parsePaddingBytes data extensionEnd (ptr + 1 + length) with
            | none =>
              simp [parseOneByteElements, finished, byteAt, element, padding]
            | some numBytes =>
              have rest := induction more (ptr + 1 + length + numBytes.toNat) next
                (by omega) (by omega)
              simp [parseOneByteElements, finished, byteAt, element, padding, rest]
          · have element := parseElement_outside extension value
              (by omega : ptr + 1 ≤ data.length) (by omega)
            simp [parseOneByteElements, finished, byteAt, element]

/-- The loop reads inside the packet exactly when every element it comes to ends
there. -/
theorem parseOneByteElements_inside_iff {data : Bytes} {map : RtpHeaderExtensionMap}
    {extensionEnd : Nat} (bound : extensionEnd ≤ data.length) (fuel : Nat) :
    ∀ (ptr : Nat) (extension : RTPHeaderExtension), extensionEnd - ptr ≤ fuel →
      ((∃ result, parseOneByteElements data map extensionEnd fuel ptr extension = some result) ↔
        ∀ offset, Visits data map extensionEnd ptr offset → ElementFits data map offset) := by
  induction fuel with
  | zero =>
    intro ptr extension enough
    refine ⟨fun _ offset visits => ?_, fun _ => ⟨extension, rfl⟩⟩
    cases visits <;> omega
  | succ fuel induction =>
    intro ptr extension enough
    by_cases finished : extensionEnd ≤ ptr
    · refine ⟨fun _ offset visits => ?_, fun _ => ⟨extension, ?_⟩⟩
      · cases visits <;> omega
      · simp [parseOneByteElements, finished]
    obtain ⟨byte, byteAt⟩ := exists_byteAt (show ptr < data.length by omega)
    have start := lt_length_of_byteAt byteAt
    cases value : elementValueLength map byte with
    | none =>
      refine ⟨fun _ offset visits => ?_, fun _ => ⟨extension, ?_⟩⟩
      · cases visits with
        | here => intro other length otherAt otherValue; simp_all
        | next _ otherAt otherValue => simp_all
      · simp [parseOneByteElements, finished, byteAt, parseElement_last extension value]
    | some length =>
      by_cases inside : ptr + 1 + length ≤ data.length
      · obtain ⟨next, element⟩ := parseElement_inside extension value inside
        obtain ⟨numBytes, padding⟩ := exists_parsePaddingBytes (ptr + 1 + length) bound
        have rest := induction (ptr + 1 + length + numBytes.toNat) next (by omega)
        have unfolded :
            parseOneByteElements data map extensionEnd (fuel + 1) ptr extension =
              parseOneByteElements data map extensionEnd fuel
                (ptr + 1 + length + numBytes.toNat) next := by
          simp [parseOneByteElements, finished, byteAt, element, padding]
        rw [unfolded, rest]
        constructor
        · intro fits offset visits
          cases visits with
          | here =>
            intro other otherLength otherAt otherValue
            simp_all
          | next _ otherAt otherValue otherPadding visits =>
            simp_all
        · intro fits offset visits
          exact fits offset (.next (by omega) byteAt value padding visits)
      · have element := parseElement_outside extension value
          (by omega : ptr + 1 ≤ data.length) (by omega)
        have unfolded :
            parseOneByteElements data map extensionEnd (fuel + 1) ptr extension = none := by
          simp [parseOneByteElements, finished, byteAt, element]
        rw [unfolded]
        refine ⟨fun ⟨_, impossible⟩ => (by cases impossible), fun fits => ?_⟩
        exact absurd (fits ptr (.here (by omega)) byte length byteAt value) inside

def numCSRCs : Nat := (csrcCount ((data.byteAt 0).getD 0)).toNat

def extensionBit : Bool := (data.byteAt 0).getD 0 &&& 0x10 ≠ 0

/-- Where the header extension of a packet begins when it has one. -/
def extensionOffset : Nat := 12 + 4 * numCSRCs data

def extensionProfile : UInt16 :=
  (data.uint16At (extensionOffset data)).getD 0

/-- The length of the extension as the packet gives it, in 32-bit words. -/
def extensionWords : Nat :=
  ((data.uint16At (extensionOffset data + 2)).getD 0).toNat

def specifiedHeaderLength : Nat :=
  12 + 4 * numCSRCs data + if extensionBit data then 4 + 4 * extensionWords data else 0

/-- `Parse` reads inside the packet, and a header it accepts has the length that
the packet gives. -/
def ParsesSafely (extensionMap : Option RtpHeaderExtensionMap)
    (header : RTPHeader) : Prop :=
  ∃ accepted result, parse data extensionMap header = some (accepted, result) ∧ (accepted = true →
      12 ≤ result.headerLength.toNat ∧ result.headerLength.toNat ≤ data.length ∧
      result.headerLength.toNat = specifiedHeaderLength data)

/-- The packet passes the length checks that `Parse` makes for a packet with a
header extension. The last one is made with a 16-bit octet count. -/
structure HasExtension (data : Bytes) : Prop where
  minLength : kRtpMinParseLength ≤ data.length
  version : (data.byteAt 0).getD 0 >>> 6 = kRtpExpectedVersion
  bit : extensionBit data = true
  offsetInside : extensionOffset data + 4 ≤ data.length
  octetsInside : extensionOffset data + 4 + 4 * extensionWords data % 65536 ≤ data.length

/-- The header of the packet has less than 2^16 bytes, and when its extension
has the one-byte form, every element that the parser comes to ends in the packet. -/
structure ExtensionFits (data : Bytes) (extensionMap : Option RtpHeaderExtensionMap) :
    Prop where
  lengthFits : extensionOffset data + 4 + 4 * extensionWords data < 65536
  elementsFit : extensionProfile data = kRtpOneByteHeaderExtensionId →
    ∀ map ∈ extensionMap, ∀ offset,
      Visits data map (extensionOffset data + 4 + 4 * extensionWords data)
        (extensionOffset data + 4) offset →
      ElementFits data map offset

/-! ## Parsing of the fixed header -/

theorem numCSRCs_le : numCSRCs data ≤ 15 := csrcCount_toNat_le _

end

theorem exists_parseCSRCs {data : Bytes} (remaining : Nat) :
    ∀ (index ptr : Nat) (csrcs : Vector UInt32 kRtpCsrcSize), ptr + 4 * remaining ≤ data.length →
      ∃ result, parseCSRCs data remaining index ptr csrcs = some result := by
  induction remaining with
  | zero => exact fun _ _ csrcs _ => ⟨csrcs, rfl⟩
  | succ remaining induction =>
    intro index ptr csrcs inside
    obtain ⟨csrc, csrcAt⟩ := exists_uint32At (show ptr + 4 ≤ data.length by omega)
    obtain ⟨result, parsed⟩ := induction (index + 1) (ptr + 4)
      (csrcs.setIfInBounds index csrc) (by omega)
    exact ⟨result, by simp [parseCSRCs, csrcAt, parsed]⟩

theorem parse_rejected {data : Bytes} (extensionMap : Option RtpHeaderExtensionMap)
    (header : RTPHeader)
    (invalid : data.length < kRtpMinParseLength ∨
      (data.byteAt 0).getD 0 >>> 6 ≠ kRtpExpectedVersion ∨
      data.length < extensionOffset data) :
    parse data extensionMap header = some (false, header) := by
  by_cases short : data.length < kRtpMinParseLength
  · simp [parse, short]
  have fixed : 12 ≤ data.length := by simpa [kRtpMinParseLength] using short
  obtain ⟨first, firstAt⟩ := exists_byteAt (show 0 < data.length by omega)
  obtain ⟨second, secondAt⟩ := exists_byteAt (show 1 < data.length by omega)
  obtain ⟨number, numberAt⟩ := exists_uint16At (show 2 + 2 ≤ data.length by omega)
  obtain ⟨timestamp, timestampAt⟩ :=
    exists_uint32At (show 4 + 4 ≤ data.length by omega)
  obtain ⟨ssrc, ssrcAt⟩ := exists_uint32At (show 8 + 4 ≤ data.length by omega)
  by_cases version : first >>> 6 ≠ kRtpExpectedVersion
  · simp [parse, short, firstAt, secondAt, numberAt, timestampAt, ssrcAt, version]
  have truncated : data.length < 12 + (csrcOctets first).toNat := by
    rw [csrcOctets_toNat]
    simpa [short, firstAt, not_not.mp version, extensionOffset, numCSRCs] using invalid
  simp [parse, short, firstAt, secondAt, numberAt, timestampAt, ssrcAt, truncated]

/-- Otherwise the fixed header and the contributing sources are read inside the
packet, and only the header extension is left. -/
theorem parse_fixedHeader {data : Bytes} (extensionMap : Option RtpHeaderExtensionMap)
    (header : RTPHeader) (minLength : kRtpMinParseLength ≤ data.length)
    (version : (data.byteAt 0).getD 0 >>> 6 = kRtpExpectedVersion)
    (csrcsInside : extensionOffset data ≤ data.length) :
    ∃ parsed : RTPHeader, parsed.headerLength.toNat = extensionOffset data ∧
      parse data extensionMap header = if extensionBit data then
          parseExtension data extensionMap (extensionOffset data) parsed
        else some (true, parsed) := by
  have short : ¬ data.length < kRtpMinParseLength := by omega
  have fixed : 12 ≤ data.length := minLength
  obtain ⟨first, firstAt⟩ := exists_byteAt (show 0 < data.length by omega)
  obtain ⟨second, secondAt⟩ := exists_byteAt (show 1 < data.length by omega)
  obtain ⟨number, numberAt⟩ := exists_uint16At (show 2 + 2 ≤ data.length by omega)
  obtain ⟨timestamp, timestampAt⟩ :=
    exists_uint32At (show 4 + 4 ≤ data.length by omega)
  obtain ⟨ssrc, ssrcAt⟩ := exists_uint32At (show 8 + 4 ≤ data.length by omega)
  obtain ⟨last, lastAt⟩ :=
    exists_byteAt (show data.length - 1 < data.length by omega)
  have count : numCSRCs data = (csrcCount first).toNat := by simp [numCSRCs, firstAt]
  have offset : extensionOffset data = 12 + (csrcOctets first).toNat := by
    rw [csrcOctets_toNat, extensionOffset, count]
  obtain ⟨csrcs, csrcsAt⟩ := exists_parseCSRCs (numCSRCs data) 0 12 header.arrOfCSRCs
    csrcsInside
  rw [firstAt] at version
  have versionBits : first >>> 6 = kRtpExpectedVersion := version
  have inside : ¬ data.length < 12 + (csrcOctets first).toNat := by omega
  refine ⟨{
    markerBit := second &&& 0x80 ≠ 0
    payloadType := second &&& 0x7f
    sequenceNumber := number
    timestamp := timestamp
    ssrc := ssrc
    numCSRCs := csrcCount first
    arrOfCSRCs := csrcs
    paddingLength := if first &&& 0x20 = 0 then 0 else last
    headerLength := 12 + (csrcOctets first).toUInt16
    extension := { transmissionTimeOffset := 0, absoluteSendTime := 0 } }, ?_, ?_⟩
  · have bound := csrcCount_toNat_le first
    rw [offset, UInt16.toNat_add, UInt8.toNat_toUInt16, csrcOctets_toNat,
      show (12 : UInt16).toNat = 12 from rfl]
    omega
  · rw [count] at csrcsAt
    by_cases padded : first &&& 0x20 = 0 <;>
      simp [parse, short, firstAt, secondAt, numberAt, timestampAt, ssrcAt, versionBits,
        inside, padded, lastAt, csrcsAt, extensionBit, offset]

/-! ## Parsing of the header extension -/

section Extension

variable {data : Bytes} (extensionMap : Option RtpHeaderExtensionMap) {header : RTPHeader}

theorem parseExtension_rejected (header : RTPHeader) (outside :
    data.length < extensionOffset data + 4 ∨
    data.length < extensionOffset data + 4 + 4 * extensionWords data % 65536) :
    ∃ result, parseExtension data extensionMap (extensionOffset data) header =
      some (false, result) := by
  by_cases truncated : data.length < extensionOffset data + 4
  · exact ⟨header, by simp [parseExtension, truncated]⟩
  obtain ⟨profile, profileAt⟩ :=
    exists_uint16At (show extensionOffset data + 2 ≤ data.length by omega)
  obtain ⟨words, wordsAt⟩ :=
    exists_uint16At (show extensionOffset data + 2 + 2 ≤ data.length by omega)
  have octetsOutside :
      data.length < extensionOffset data + 4 + (wordOctets words).toNat := by
    rw [wordOctets_toNat]
    simpa [truncated, extensionWords, wordsAt] using outside
  exact ⟨_, by simp [parseExtension, truncated, profileAt, wordsAt, octetsOutside]; rfl⟩

def extensionElements (data : Bytes) (extensionMap : Option RtpHeaderExtensionMap)
    (extension : RTPHeaderExtension) : Option RTPHeaderExtension :=
  if extensionProfile data = kRtpOneByteHeaderExtensionId then
    parseOneByteExtensionHeader data extensionMap
      (extensionOffset data + 4 + 4 * extensionWords data % 65536)
      (extensionOffset data + 4) extension
  else some extension

theorem parseExtension_accepted (packet : HasExtension data)
    (headerLength : header.headerLength.toNat = extensionOffset data) :
    match extensionElements data extensionMap header.extension with
    | none => parseExtension data extensionMap (extensionOffset data) header = none
    | some _ => ∃ result,
        parseExtension data extensionMap (extensionOffset data) header = some (true, result) ∧
        result.headerLength.toNat =
          (extensionOffset data + 4 + 4 * extensionWords data % 65536) % 65536 := by
  have inside := packet.offsetInside
  have octetsInside := packet.octetsInside
  obtain ⟨profile, profileAt⟩ :=
    exists_uint16At (show extensionOffset data + 2 ≤ data.length by omega)
  obtain ⟨words, wordsAt⟩ :=
    exists_uint16At (show extensionOffset data + 2 + 2 ≤ data.length by omega)
  have count : extensionWords data = words.toNat := by simp [extensionWords, wordsAt]
  have profileValue : extensionProfile data = profile := by simp [extensionProfile, profileAt]
  have truncated : ¬ data.length < extensionOffset data + 4 := by omega
  rw [count, ← wordOctets_toNat] at octetsInside ⊢
  have octets : ¬ data.length < extensionOffset data + 4 + (wordOctets words).toNat := by omega
  rw [extensionElements, profileValue, count, ← wordOctets_toNat]
  have total : (header.headerLength + 4 + wordOctets words).toNat =
      (extensionOffset data + 4 + (wordOctets words).toNat) % 65536 := by
    rw [UInt16.toNat_add, UInt16.toNat_add, headerLength, show (4 : UInt16).toNat = 4 from rfl]
    omega
  split
  · rename_i noElements
    split at noElements
    · rename_i oneByte
      simp [parseExtension, truncated, profileAt, wordsAt, octets, oneByte, noElements]
    · cases noElements
  · rename_i extension elements
    refine ⟨{ header with extension, headerLength := header.headerLength + 4 + wordOctets words },
      ?_, total⟩
    split at elements
    · rename_i oneByte
      simp [parseExtension, truncated, profileAt, wordsAt, octets, oneByte, elements]
    · rename_i otherForm
      cases elements
      simp [parseExtension, truncated, profileAt, wordsAt, octets, otherForm]

/-- Without a wrap of the octet count, the elements are read inside the packet
exactly when every one that the walk comes to ends there. -/
theorem extensionElements_inside_iff (packet : HasExtension data)
    (lengthFits : extensionOffset data + 4 + 4 * extensionWords data < 65536)
    (extension : RTPHeaderExtension) :
    (∃ result, extensionElements data extensionMap extension = some result) ↔
      (extensionProfile data = kRtpOneByteHeaderExtensionId → ∀ map ∈ extensionMap, ∀ offset,
          Visits data map (extensionOffset data + 4 + 4 * extensionWords data)
            (extensionOffset data + 4) offset →
          ElementFits data map offset) := by
  have octetsInside := packet.octetsInside
  rw [Nat.mod_eq_of_lt (by omega)] at octetsInside
  rw [extensionElements, Nat.mod_eq_of_lt (by omega)]
  by_cases oneByte : extensionProfile data = kRtpOneByteHeaderExtensionId
  · rw [if_pos oneByte]
    cases extensionMap with
    | none => simp [parseOneByteExtensionHeader]
    | some map =>
      rw [parseOneByteExtensionHeader,
        parseOneByteElements_inside_iff octetsInside _ _ _ (Nat.le_refl _)]
      simp [oneByte]
  · simp [oneByte]

end Extension

/-! ## Safety of the parser -/

/-- `Parse` is safe on exactly the packets whose header extension, when they have
one, is shorter than its 16-bit lengths can count and holds no element that is
cut off by the end of the packet. -/
theorem parsesSafely_iff (data : Bytes) (extensionMap : Option RtpHeaderExtensionMap)
    (header : RTPHeader) :
    ParsesSafely data extensionMap header ↔
      (HasExtension data → ExtensionFits data extensionMap) := by
  by_cases invalid : data.length < kRtpMinParseLength ∨
      (data.byteAt 0).getD 0 >>> 6 ≠ kRtpExpectedVersion ∨
      data.length < extensionOffset data
  · refine ⟨fun _ packet => ?_, fun _ => ⟨false, header, ?_, by simp⟩⟩
    · have minLength := packet.minLength
      have offsetInside := packet.offsetInside
      rcases invalid with short | version | truncated
      · omega
      · exact absurd packet.version version
      · omega
    · exact parse_rejected extensionMap header invalid
  obtain ⟨minLength, version, csrcsInside⟩ :
      kRtpMinParseLength ≤ data.length ∧
      (data.byteAt 0).getD 0 >>> 6 = kRtpExpectedVersion ∧
      extensionOffset data ≤ data.length := by
    push Not at invalid
    exact invalid
  obtain ⟨parsed, parsedLength, parseEq⟩ :=
    parse_fixedHeader extensionMap header minLength version csrcsInside
  unfold ParsesSafely
  rw [parseEq]
  by_cases bit : extensionBit data = true
  case neg =>
    refine ⟨fun _ packet => absurd packet.bit bit, fun _ => ⟨true, parsed, by simp [bit], ?_⟩⟩
    intro _
    rw [parsedLength, specifiedHeaderLength, extensionOffset]
    simp only [bit, Bool.false_eq_true, if_false]
    unfold extensionOffset at csrcsInside
    omega
  rw [if_pos bit]
  by_cases outside : data.length < extensionOffset data + 4 ∨
      data.length < extensionOffset data + 4 + 4 * extensionWords data % 65536
  · obtain ⟨result, rejected⟩ := parseExtension_rejected extensionMap parsed outside
    refine ⟨fun _ packet => ?_, fun _ => ⟨false, result, rejected, by simp⟩⟩
    have offsetInside := packet.offsetInside
    have octetsInside := packet.octetsInside
    omega
  have packet : HasExtension data :=
    ⟨minLength, version, bit, by omega, by omega⟩
  have specified : specifiedHeaderLength data =
      extensionOffset data + 4 + 4 * extensionWords data := by
    simp only [specifiedHeaderLength, extensionOffset, bit, if_true]
    omega
  have accepted := parseExtension_accepted extensionMap packet parsedLength
  have octetsInside := packet.octetsInside
  cases elements : extensionElements data extensionMap parsed.extension with
  | none =>
    rw [elements] at accepted
    refine ⟨fun ⟨_, _, parsedEq, _⟩ => ?_, fun fits => ?_⟩
    · rw [accepted] at parsedEq
      cases parsedEq
    · have fits := fits packet
      obtain ⟨result, inside⟩ := (extensionElements_inside_iff extensionMap
        packet fits.lengthFits parsed.extension).mpr fits.elementsFit
      rw [elements] at inside
      cases inside
  | some extension =>
    rw [elements] at accepted
    obtain ⟨result, resultEq, resultLength⟩ := accepted
    constructor
    · rintro ⟨flag, other, otherEq, lengths⟩ _
      rw [resultEq] at otherEq
      cases otherEq
      have lengthFits : extensionOffset data + 4 + 4 * extensionWords data < 65536 := by
        have exactLength := (lengths rfl).2.2
        omega
      exact ⟨lengthFits, (extensionElements_inside_iff extensionMap packet lengthFits _).mp
        ⟨extension, elements⟩⟩
    · intro fits
      have lengthFits := (fits packet).lengthFits
      refine ⟨true, result, resultEq, fun _ => ?_⟩
      rw [resultLength, specified]
      rw [Nat.mod_eq_of_lt (by omega)] at octetsInside ⊢
      rw [Nat.mod_eq_of_lt (by omega)]
      have start : 12 ≤ extensionOffset data := by unfold extensionOffset; omega
      omega

/-- Two bytes of extension elements are left when the walk comes to the offset
element in the last byte of the packet, and the offset behind it is read. -/
def cutOffElementPacket : Bytes :=
  [0x90, 0, 0, 1, 0, 0, 0, 0, 0, 0, 0, 7, 0xBE, 0xDE, 0, 1, 0x20, 0, 0, 0x12]

/-- The extension is announced with 2^14 words, whose octets count as none. -/
def wrappedWordsPacket : Bytes :=
  [0x90, 0, 0, 1, 0, 0, 0, 0, 0, 0, 0, 7, 0xBE, 0xDE, 0x40, 0]

def offsetAndLevelMap : RtpHeaderExtensionMap :=
  ((RtpHeaderExtensionMap.empty.register .transmissionTimeOffset 1).2.register .audioLevel 2).2

def unsetHeader : RTPHeader where
  markerBit := false
  payloadType := 0
  sequenceNumber := 0
  timestamp := 0
  ssrc := 0
  numCSRCs := 0
  arrOfCSRCs := Vector.replicate kRtpCsrcSize 0
  paddingLength := 0
  headerLength := 0
  extension := { transmissionTimeOffset := 0, absoluteSendTime := 0 }

theorem not_parsesSafely_cutOffElement_wrappedWords :
    ¬ ParsesSafely cutOffElementPacket (some offsetAndLevelMap) unsetHeader ∧
    ¬ ParsesSafely wrappedWordsPacket (some offsetAndLevelMap) unsetHeader := by
  constructor
  · rintro ⟨accepted, result, parsed, _⟩
    have outside :
        parse cutOffElementPacket (some offsetAndLevelMap) unsetHeader = none := by decide
    rw [outside] at parsed
    cases parsed
  · rintro ⟨accepted, result, parsed, lengths⟩
    have short : (parse wrappedWordsPacket (some offsetAndLevelMap) unsetHeader).map
        (fun outcome => (outcome.1, outcome.2.headerLength)) = some (true, 16) := by decide
    rw [parsed] at short
    simp only [Option.map_some, Option.some.injEq, Prod.mk.injEq] at short
    have exactLength := (lengths short.1).2.2
    rw [short.2] at exactLength
    exact absurd exactLength (by decide)

end ZyWebRtc.Rtp
