import Mathlib.Data.Nat.Bitwise
import ZyWebRtc.Rtp.HeaderBuilder
import ZyWebRtc.Rtp.HeaderParserSafety

namespace ZyWebRtc.Rtp

/-! `Parse` finds in a header what `CreateRTPHeader` wrote into it. -/

open Option RtpHeaderExtensionMap Bytes
open List hiding length Vector map tail count nil cons head

/-! ## The extension elements -/

theorem elementHeader_fields : ∀ id ∈ headerExtensionIds,
    elementId ((id <<< 4) + 2) = id ∧ elementLen ((id <<< 4) + 2) = 2 ∧ id ≠ 15 ∧
      (id <<< 4) + 2 ≠ 0 := by decide +kernel

namespace RTPSender

variable (sender : RTPSender)

def recover : RTPHeaderExtension → RTPExtensionType → RTPHeaderExtension
  | extension, .transmissionTimeOffset =>
    { extension with
      transmissionTimeOffset := signExtend24 (low24 sender.transmissionTimeOffset) }
  | extension, .absoluteSendTime =>
    { extension with absoluteSendTime := low24 sender.absoluteSendTime }
  | extension, .audioLevel | extension, .none => extension

theorem recover_foldl_transmissionTimeOffset (types : List RTPExtensionType) :
    ∀ extension, (types.foldl sender.recover extension).transmissionTimeOffset =
      if .transmissionTimeOffset ∈ types then
        signExtend24 (low24 sender.transmissionTimeOffset)
      else extension.transmissionTimeOffset := by
  induction types with
  | nil => exact fun _ => rfl
  | cons type types induction =>
    intro extension
    rw [foldl_cons, induction]
    cases type <;> simp [recover]

theorem recover_foldl_absoluteSendTime (types : List RTPExtensionType) :
    ∀ extension, (types.foldl sender.recover extension).absoluteSendTime =
      if .absoluteSendTime ∈ types then low24 sender.absoluteSendTime
      else extension.absoluteSendTime := by
  induction types with
  | nil => exact fun _ => rfl
  | cons type types induction =>
    intro extension
    rw [foldl_cons, induction]
    cases type <;> simp [recover]

end RTPSender

theorem RtpHeaderExtensionMap.exists_getId {map : RtpHeaderExtensionMap}
    {type : RTPExtensionType} (member : type ∈ map.announced) : ∃ id, map.getId type = some id := by
  rcases List.mem_map.mp (takeWhile_subset _ member) with ⟨entry, inOrder, rfl⟩
  cases found : map.inOrder.find? (·.2 = entry.2) with
  | none => simpa using List.find?_eq_none.mp found entry inOrder
  | some first => exact ⟨first.1, by rw [getId, found, map_some]⟩

namespace RTPSender

variable (sender : RTPSender)

/-- The element of an announced type: none, or a header byte that the parser knows
and three value bytes. -/
theorem buildExtension_cases {type : RTPExtensionType}
    (announced : type ∈ sender.rtpHeaderExtensionMap.announced) :
    (sender.buildExtension type = [] ∧ ∀ extension, sender.recover extension type = extension) ∨
      ∃ id value, sender.buildExtension type = threeByteElement id value ∧ id ∈ headerExtensionIds ∧
        ∀ data ptr extension, data.uint24At ptr = some (low24 value) →
          parseElement data sender.rtpHeaderExtensionMap ((id <<< 4) + 2) ptr extension =
            some (some (ptr + 3), sender.recover extension type) := by
  rcases RtpHeaderExtensionMap.exists_getId announced with ⟨id, found⟩
  have registered := getType_of_getId found
  have inRange : id ∈ headerExtensionIds :=
    mem_headerExtensionIds.mpr
      (idInRange_of_getType registered)
  rcases elementHeader_fields id inRange with ⟨sameId, two, proper, -⟩
  cases type with
  | none => exact .inl ⟨rfl, fun _ => rfl⟩
  | audioLevel => exact .inl ⟨rfl, fun _ => rfl⟩
  | transmissionTimeOffset =>
    refine .inr ⟨id, sender.transmissionTimeOffset, ?_, inRange, ?_⟩
    · rw [buildExtension, buildTransmissionTimeOffsetExtension, found]
    · intro data ptr extension read
      simp [parseElement, sameId, two, proper, registered, read, recover]
  | absoluteSendTime =>
    refine .inr ⟨id, sender.absoluteSendTime, ?_, inRange, ?_⟩
    · rw [buildExtension, buildAbsoluteSendTimeExtension, found]
    · intro data ptr extension read
      simp [parseElement, sameId, two, proper, registered, read, recover]

section

variable (types : List RTPExtensionType)

/-- The elements of some types, end to end. -/
def elements : Bytes := types.flatMap sender.buildExtension

theorem elements_start {types : List RTPExtensionType}
    (announced : ∀ type ∈ types, type ∈ sender.rtpHeaderExtensionMap.announced) :
    sender.elements types = [] ∨ ∃ byte rest, sender.elements types = byte :: rest ∧ byte ≠ 0 := by
  induction types with
  | nil => exact .inl rfl
  | cons type types induction =>
    rw [elements, flatMap_cons]
    rcases sender.buildExtension_cases (announced type mem_cons_self) with
      ⟨absent, -⟩ | ⟨id, value, element, inRange, -⟩
    · rw [absent]
      exact induction fun other member => announced other (mem_cons_of_mem type member)
    · rw [element]
      exact .inr ⟨_, _, rfl, (elementHeader_fields id inRange).2.2.2⟩

theorem foldl_recover_of_elements_nil {extension : RTPHeaderExtension}
    (announced : ∀ type ∈ types, type ∈ sender.rtpHeaderExtensionMap.announced)
    (none : sender.elements types = []) : types.foldl sender.recover extension = extension := by
  induction types with
  | nil => rfl
  | cons type types induction =>
    rw [elements, flatMap_cons, append_eq_nil_iff] at none
    rcases sender.buildExtension_cases (announced type mem_cons_self) with
      ⟨-, unchanged⟩ | ⟨id, value, element, -⟩
    · rw [foldl_cons, unchanged]
      exact induction (fun other member => announced other (mem_cons_of_mem type member))
        none.2
    · rw [element] at none
      cases none.1

theorem elements_length (announced : ∀ type ∈ types, type ∈ sender.rtpHeaderExtensionMap.announced) :
    ∃ count ≤ types.length, (sender.elements types).length = 4 * count := by
  induction types with
  | nil => exact ⟨0, Nat.le_refl 0, rfl⟩
  | cons type types induction =>
    rcases induction fun other member => announced other (mem_cons_of_mem type member) with
      ⟨count, fewer, length⟩
    rw [elements] at length
    rw [elements, flatMap_cons, length_append, length, length_cons]
    rcases sender.buildExtension_cases (announced type mem_cons_self) with
      ⟨absent, -⟩ | ⟨id, value, element, -, -⟩
    · exact ⟨count, by omega, by rw [absent, length_nil, Nat.zero_add]⟩
    · refine ⟨count + 1, by omega, ?_⟩
      rw [element, threeByteElement, length_cons, uint24Bytes_length]
      omega

theorem parsePaddingBytes_elements {types : List RTPExtensionType} (front rest : Bytes)
    (announced : ∀ type ∈ types, type ∈ sender.rtpHeaderExtensionMap.announced) :
    parsePaddingBytes (front ++ (sender.elements types ++ rest))
      (front.length + (sender.elements types).length) front.length = some 0 := by
  rw [parsePaddingBytes, Nat.add_sub_cancel_left]
  rcases sender.elements_start announced with none | ⟨byte, following, written, nonzero⟩
  · rw [none]
    rfl
  · have read : (front ++ (byte :: following ++ rest)).byteAt (front.length + 0) = some byte := by
      rw [byteAt_append]
      rfl
    rw [written, length_cons, countPaddingBytes, ← Nat.add_zero front.length, read]
    change (if byte ≠ 0 then some 0 else _) = _
    rw [if_pos nonzero]

/-- The walk over the written elements takes up all their values. -/
theorem parseOneByteElements_elements :
    ∀ (front rest : Bytes) (fuel : Nat) (extension : RTPHeaderExtension),
      (∀ type ∈ types, type ∈ sender.rtpHeaderExtensionMap.announced) →
      (sender.elements types).length ≤ fuel →
      parseOneByteElements (front ++ (sender.elements types ++ rest))
        sender.rtpHeaderExtensionMap (front.length + (sender.elements types).length) fuel
        front.length extension = some (types.foldl sender.recover extension) := by
  induction types with
  | nil =>
    intro front rest fuel extension announced enough
    cases fuel with
    | zero => rfl
    | succ fuel => rw [parseOneByteElements, if_pos (by simp [elements])]; rfl
  | cons type types induction =>
    intro front rest fuel extension announced enough
    have later : ∀ other ∈ types, other ∈ sender.rtpHeaderExtensionMap.announced :=
      fun other member => announced other (mem_cons_of_mem type member)
    have split : sender.elements (type :: types) =
        sender.buildExtension type ++ sender.elements types := flatMap_cons
    rw [split] at enough ⊢
    rcases sender.buildExtension_cases (announced type mem_cons_self) with
      ⟨absent, unchanged⟩ | ⟨id, value, element, inRange, parsed⟩
    · rw [absent, nil_append] at enough ⊢
      rw [foldl_cons, unchanged]
      exact induction front rest fuel extension later enough
    · have length : (threeByteElement id value).length = 4 := rfl
      rw [element, length_append, length] at enough ⊢
      obtain ⟨fuel, rfl⟩ := Nat.exists_eq_succ_of_ne_zero (show fuel ≠ 0 by omega)
      rw [parseOneByteElements, if_neg (by omega)]
      -- The element is read where it stands, then the walk goes on behind it.
      have moved : front ++ (threeByteElement id value ++ sender.elements types ++ rest) =
          (front ++ threeByteElement id value) ++ (sender.elements types ++ rest) := by
        simp only [append_assoc]
      have header : (front ++ (threeByteElement id value ++ sender.elements types ++
          rest)).byteAt (front.length + 0) = some ((id <<< 4) + 2) := by
        rw [byteAt_append]
        rfl
      have read : (front ++ (threeByteElement id value ++ sender.elements types ++
          rest)).uint24At (front.length + 1) = some (low24 value) := by
        rw [uint24At_append]
        exact congrArg some (uint24_join value)
      have behind : front.length + 1 + 3 = (front ++ threeByteElement id value).length := by
        rw [length_append, length]
      have elementsEnd : front.length + (4 + (sender.elements types).length) =
          (front ++ threeByteElement id value).length + (sender.elements types).length := by
        rw [← behind]
        omega
      rw [Nat.add_zero] at header
      rw [header]
      simp only [bind_eq_bind, bind_some, parsed _ _ _ read]
      rw [moved, behind, elementsEnd, sender.parsePaddingBytes_elements _ _ later,
        bind_some, foldl_cons]
      exact induction _ rest fuel _ later (by omega)

end

/-! ## What is written -/

theorem buildExtensions_eq (fuel : Nat) : ∀ type, sender.buildExtensions fuel type =
    (sender.rtpHeaderExtensionMap.typesFrom fuel type).map sender.elements := by
  induction fuel with
  | zero => exact fun _ => rfl
  | succ fuel induction =>
    intro type
    rw [buildExtensions, typesFrom]
    by_cases last : type = .none
    · rw [if_pos last, if_pos last]
      rfl
    · rw [if_neg last, if_neg last, induction]
      cases sender.rtpHeaderExtensionMap.typesFrom fuel (sender.rtpHeaderExtensionMap.next type) <;>
        rfl

def writtenExtension : Bytes :=
  let blocks := sender.elements sender.rtpHeaderExtensionMap.announced
  if blocks.length = 0 then []
  else
    uint16Bytes kRtpOneByteHeaderExtensionId ++
      uint16Bytes (UInt16.ofNat blocks.length / 4) ++ blocks

theorem elements_nil_of_writtenExtension (none : sender.writtenExtension.length = 0) :
    sender.elements sender.rtpHeaderExtensionMap.announced = [] := by
  by_contra some
  have positive : (sender.elements sender.rtpHeaderExtensionMap.announced).length ≠ 0 :=
    fun zero => some (List.length_eq_zero_iff.mp zero)
  rw [writtenExtension, if_neg positive] at none
  cases none

theorem announced_length_le (map : RtpHeaderExtensionMap) : map.announced.length ≤ 14 := by
  have shorter : map.announced.length ≤ (map.inOrder.map Prod.snd).length :=
    List.Sublist.length_le (takeWhile_sublist _)
  have fewer : map.inOrder.length ≤ headerExtensionIds.length :=
    length_filterMap_le _ _
  rw [length_map] at shorter
  exact shorter.trans fewer

theorem blocks_length : ∃ count ≤ 14,
    (sender.elements sender.rtpHeaderExtensionMap.announced).length = 4 * count := by
  rcases sender.elements_length sender.rtpHeaderExtensionMap.announced
    fun _ member => member with ⟨count, fewer, length⟩
  exact ⟨count, fewer.trans (announced_length_le _), length⟩

theorem buildRTPHeaderExtension_of_nodup
    (distinct : sender.rtpHeaderExtensionMap.announced.Nodup) :
    sender.buildRTPHeaderExtension (sender.rtpHeaderExtensionMap.size + 1) =
      some sender.writtenExtension := by
  rw [buildRTPHeaderExtension, writtenExtension]
  by_cases empty : sender.rtpHeaderExtensionMap.size = 0
  · have nothing : sender.rtpHeaderExtensionMap.announced = [] := by
      rw [RtpHeaderExtensionMap.announced, List.length_eq_zero_iff.mp empty]
      rfl
    rw [if_pos empty, nothing]
    rfl
  · rcases sender.blocks_length with ⟨count, few, length⟩
    rw [if_neg empty, buildExtensions_eq, typesFrom_first distinct (Nat.lt_succ_self _)]
    simp only [map_some, bind_eq_bind, bind_some]
    have sameTest : UInt16.ofNat (4 * count) = 0 ↔ 4 * count = 0 := by
      rw [← UInt16.toNat_inj, UInt16.toNat_ofNat', show (0 : UInt16).toNat = 0 from rfl]
      omega
    rw [length]
    by_cases none : 4 * count = 0
    · rw [if_pos none, if_pos (sameTest.mpr none)]
      rfl
    · rw [if_neg none, if_neg fun zero => none (sameTest.mp zero)]
      rfl

theorem buildRTPHeaderExtension_of_repeated
    (repeated : ¬ sender.rtpHeaderExtensionMap.announced.Nodup) (fuel : Nat) :
    sender.buildRTPHeaderExtension fuel = none := by
  have nonempty : sender.rtpHeaderExtensionMap.size ≠ 0 := by
    intro empty
    apply repeated
    rw [RtpHeaderExtensionMap.announced, List.length_eq_zero_iff.mp empty]
    exact nodup_nil
  rw [buildRTPHeaderExtension, if_neg nonempty, buildExtensions_eq,
    typesFrom_first_of_repeated repeated]
  rfl

end RTPSender

/-! ## The fixed part and the contributing sources -/

/-- What `CreateRTPHeader` is asked to write. `BuildRTPheader` asserts that payload
types are not negative, and more than 15 sources are refused. -/
structure HeaderFields where
  payloadType : UInt8
  ssrc : UInt32
  markerBit : Bool
  timestamp : UInt32
  sequenceNumber : UInt16
  csrcs : List UInt32
  payloadTypeFits : payloadType < 0x80
  csrcsFit : csrcs.length ≤ kRtpCsrcSize

section

variable (fields : HeaderFields) (sender : RTPSender)

def HeaderFields.create (fuel : Nat) :
    Option (Int × Bytes) :=
  sender.createRTPHeader fuel fields.payloadType fields.ssrc fields.markerBit fields.timestamp
    fields.sequenceNumber fields.csrcs

def firstByte (count : Nat) (extended : Bool) : UInt8 :=
  let first : UInt8 := if count = 0 then 0x80 else (0x80 &&& 0xf0) ||| UInt8.ofNat count
  if extended then first ||| 0x10 else first

theorem firstByte_fields : ∀ count ∈ List.range 16, ∀ extended,
    firstByte count extended >>> 6 = kRtpExpectedVersion ∧ firstByte count extended &&& 0x20 = 0 ∧
      csrcCount (firstByte count extended) = UInt8.ofNat count ∧
      (firstByte count extended &&& 0x10 = 0 ↔ extended = false) := by decide +kernel

def secondByte (payloadType : UInt8) (markerBit : Bool) : UInt8 :=
  if markerBit then payloadType ||| kRtpMarkerBitMask else payloadType

theorem secondByte_fields (payloadType : UInt8) (fits : payloadType < 0x80) (markerBit : Bool) :
    secondByte payloadType markerBit &&& 0x7f = payloadType ∧
      (secondByte payloadType markerBit &&& 0x80 ≠ 0 ↔ markerBit = true) := by
  cases payloadType with
  | ofBitVec bits =>
    cases bits with
    | ofFin value =>
      revert value
      cases markerBit <;> decide +kernel

theorem uint32At_sources (front rest : Bytes) (csrcs : List UInt32) :
    ∀ index csrc, csrcs[index]? = some csrc →
      (front ++ (csrcs.flatMap uint32Bytes ++ rest)).uint32At (front.length + 4 * index) =
        some csrc := by
  induction csrcs generalizing front with
  | nil => exact fun index csrc found => absurd found (by simp)
  | cons head tail induction =>
    intro index csrc found
    cases index with
    | zero =>
      cases found
      rw [uint32At_append, flatMap_cons, append_assoc]
      exact uint32At_uint32Bytes _ _
    | succ index =>
      have later := induction (front ++ uint32Bytes head) index csrc found
      rw [length_append, uint32Bytes_length, append_assoc] at later
      rw [flatMap_cons, append_assoc, Nat.mul_succ,
        show front.length + (4 * index + 4) = front.length + 4 + 4 * index by omega]
      exact later

theorem parseCSRCs_sources (data : Bytes) (csrcs : List UInt32) :
    ∀ (index ptr : Nat) (stored : Vector UInt32 kRtpCsrcSize),
      (∀ offset csrc, csrcs[offset]? = some csrc → data.uint32At (ptr + 4 * offset) = some csrc) →
      index + csrcs.length ≤ kRtpCsrcSize →
      ∃ result, parseCSRCs data csrcs.length index ptr stored = some result ∧
        result.toList.take (index + csrcs.length) = stored.toList.take index ++ csrcs := by
  induction csrcs with
  | nil => exact fun index ptr stored _ _ => ⟨stored, rfl, by simp⟩
  | cons head tail induction =>
    intro index ptr stored found fits
    rw [length_cons] at fits
    have headAt : data.uint32At ptr = some head := found 0 head rfl
    rcases induction (index + 1) (ptr + 4) (stored.setIfInBounds index head)
      (by
        intro offset csrc tailAt
        rw [show ptr + 4 + 4 * offset = ptr + 4 * (offset + 1) by omega]
        exact found (offset + 1) csrc tailAt)
      (by omega) with ⟨result, parsed, content⟩
    refine ⟨result, ?_, ?_⟩
    · rw [length_cons, parseCSRCs, headAt]
      exact parsed
    · rw [length_cons, ← Nat.add_assoc, Nat.add_right_comm, content,
        Vector.toList_setIfInBounds]
      have inside : index < stored.toList.length := by
        rw [Vector.length_toList]
        omega
      rw [take_succ_eq_append_getElem (by rw [length_set]; exact inside),
        take_set_of_le (Nat.le_refl index), getElem_set_self, append_assoc]
      rfl

/-! ## The round trip -/

/-- The parser's header has everything that was written. Of the extension values
the low 24 bits are written, the time offset as a signed number. -/
structure Recovers (sender : RTPSender) (fields : HeaderFields) (length : Int)
    (header : RTPHeader) : Prop where
  headerLength : (header.headerLength.toNat : Int) = length
  payloadType : header.payloadType = fields.payloadType
  markerBit : header.markerBit = fields.markerBit
  timestamp : header.timestamp = fields.timestamp
  sequenceNumber : header.sequenceNumber = fields.sequenceNumber
  ssrc : header.ssrc = fields.ssrc
  paddingLength : header.paddingLength = 0
  csrcs : header.arrOfCSRCs.toList.take header.numCSRCs.toNat = fields.csrcs
  transmissionTimeOffset :
    .transmissionTimeOffset ∈ sender.rtpHeaderExtensionMap.announced →
      header.extension.transmissionTimeOffset = signExtend24 (low24 sender.transmissionTimeOffset)
  absoluteSendTime :
    .absoluteSendTime ∈ sender.rtpHeaderExtensionMap.announced →
      header.extension.absoluteSendTime = low24 sender.absoluteSendTime

def HeaderFields.written : Bytes :=
  firstByte fields.csrcs.length (sender.writtenExtension.length ≠ 0) ::
    (secondByte fields.payloadType fields.markerBit ::
      (uint16Bytes fields.sequenceNumber ++ uint32Bytes fields.timestamp ++
        uint32Bytes fields.ssrc) ++
      fields.csrcs.flatMap uint32Bytes ++ sender.writtenExtension)

theorem HeaderFields.written_length : (fields.written sender).length =
      12 + 4 * fields.csrcs.length + sender.writtenExtension.length := by
  simp only [HeaderFields.written, length_cons, length_append,
    uint16Bytes_length, uint32Bytes_length, flatMap_uint32Bytes_length]
  omega

theorem HeaderFields.create_of_nodup (distinct : sender.rtpHeaderExtensionMap.announced.Nodup) :
    fields.create sender (sender.rtpHeaderExtensionMap.size + 1) =
      some (((fields.written sender).length : Int), fields.written sender) := by
  have fits : ¬ kRtpCsrcSize < fields.csrcs.length := Nat.not_lt.mpr fields.csrcsFit
  rw [HeaderFields.create, RTPSender.createRTPHeader, if_neg fits,
    sender.buildRTPHeaderExtension_of_nodup distinct, fields.written_length sender]
  by_cases none : sender.writtenExtension = []
  · simp [HeaderFields.written, firstByte, secondByte, none]
  · simp [HeaderFields.written, firstByte, secondByte, none]

end

section Parse

variable (sender : RTPSender) (fields : HeaderFields) (payload : Bytes)

theorem HeaderFields.written_split : ∃ front : Bytes,
    fields.written sender ++ payload = front ++ (sender.writtenExtension ++ payload) ∧
      front.length = 12 + 4 * fields.csrcs.length := by
  refine ⟨firstByte fields.csrcs.length (sender.writtenExtension.length ≠ 0) ::
    (secondByte fields.payloadType fields.markerBit ::
      (uint16Bytes fields.sequenceNumber ++ uint32Bytes fields.timestamp ++
        uint32Bytes fields.ssrc) ++
      fields.csrcs.flatMap uint32Bytes), ?_, ?_⟩
  · rw [HeaderFields.written, cons_append, append_assoc]
    rfl
  · simp only [length_cons, length_append, uint16Bytes_length,
      uint32Bytes_length, flatMap_uint32Bytes_length]
    omega

theorem HeaderFields.parseCSRCs_written (stored : Vector UInt32 kRtpCsrcSize) :
    ∃ result, parseCSRCs (fields.written sender ++ payload) fields.csrcs.length 0 12 stored =
        some result ∧
      result.toList.take fields.csrcs.length = fields.csrcs := by
  rcases parseCSRCs_sources (fields.written sender ++ payload) fields.csrcs 0 12 stored
    (by
      intro offset csrc found
      have read := uint32At_sources
        (firstByte fields.csrcs.length (sender.writtenExtension.length ≠ 0) ::
          secondByte fields.payloadType fields.markerBit ::
          (uint16Bytes fields.sequenceNumber ++ uint32Bytes fields.timestamp ++
            uint32Bytes fields.ssrc))
        (sender.writtenExtension ++ payload) fields.csrcs offset csrc found
      rw [HeaderFields.written, cons_append, append_assoc, append_assoc]
      exact read)
    (by rw [Nat.zero_add]; exact fields.csrcsFit) with ⟨result, parsed, content⟩
  rw [Nat.zero_add, take_zero, nil_append] at content
  exact ⟨result, parsed, content⟩

/-- The extension is found behind the sources. -/
theorem HeaderFields.parseExtension_written (header : RTPHeader)
    (extended : sender.writtenExtension.length ≠ 0)
    (sourcesEnd : header.headerLength.toNat = 12 + 4 * fields.csrcs.length) :
    ∃ parsed, parseExtension (fields.written sender ++ payload)
        (some sender.rtpHeaderExtensionMap) (12 + 4 * fields.csrcs.length) header =
          some (true, parsed) ∧
      parsed = { header with
        extension := sender.rtpHeaderExtensionMap.announced.foldl sender.recover header.extension
        headerLength := parsed.headerLength } ∧
      parsed.headerLength.toNat = (fields.written sender).length := by
  have fits : fields.csrcs.length ≤ 15 := fields.csrcsFit
  have writtenLength := fields.written_length sender
  rcases sender.blocks_length with ⟨count, few, length⟩
  have some : (sender.elements sender.rtpHeaderExtensionMap.announced).length ≠ 0 := by
    intro none
    rw [RTPSender.writtenExtension, none] at extended
    exact extended rfl
  have extension : sender.writtenExtension = uint16Bytes kRtpOneByteHeaderExtensionId ++
      (uint16Bytes (UInt16.ofNat (4 * count) / 4) ++
        sender.elements sender.rtpHeaderExtensionMap.announced) := by
    rw [RTPSender.writtenExtension, if_neg some, length, append_assoc]
  have extensionLength : sender.writtenExtension.length = 4 + 4 * count := by
    rw [extension, length_append, length_append, length]
    simp only [uint16Bytes_length]
    omega
  have octets : (wordOctets (UInt16.ofNat (4 * count) / 4)).toNat = 4 * count := by
    rw [wordOctets_toNat, UInt16.toNat_div, UInt16.toNat_ofNat', show (4 : UInt16).toNat = 4 from rfl]
    omega
  rcases fields.written_split sender payload with ⟨front, data, frontLength⟩
  have profileAt : (fields.written sender ++ payload).uint16At (front.length + 0) =
      Option.some kRtpOneByteHeaderExtensionId := by
    rw [data, extension, uint16At_append]
    exact uint16At_uint16Bytes _ _
  have wordsAt : (fields.written sender ++ payload).uint16At (front.length + 2) =
      Option.some (UInt16.ofNat (4 * count) / 4) := by
    rw [data, extension, uint16At_append]
    exact congrArg Option.some (uint16_join _)
  have walked := sender.parseOneByteElements_elements sender.rtpHeaderExtensionMap.announced
    (front ++ (uint16Bytes kRtpOneByteHeaderExtensionId ++
      uint16Bytes (UInt16.ofNat (4 * count) / 4))) payload
    (4 * count) header.extension (fun _ member => member) (Nat.le_of_eq length)
  have walkedData : front ++ (uint16Bytes kRtpOneByteHeaderExtensionId ++
      uint16Bytes (UInt16.ofNat (4 * count) / 4)) ++
        (sender.elements sender.rtpHeaderExtensionMap.announced ++ payload) =
      fields.written sender ++ payload := by
    rw [data, extension]
    simp only [append_assoc]
  rw [walkedData, length] at walked
  simp only [length_append, uint16Bytes_length, frontLength] at walked
  rw [Nat.add_zero] at profileAt
  rw [frontLength] at profileAt wordsAt
  have enoughHeader : ¬ (fields.written sender ++ payload).length <
      12 + 4 * fields.csrcs.length + 4 := by
    rw [length_append, writtenLength]
    omega
  have enoughWords : ¬ (fields.written sender ++ payload).length <
      12 + 4 * fields.csrcs.length + 4 + 4 * count := by
    rw [length_append, writtenLength]
    omega
  rw [parseExtension, if_neg enoughHeader, profileAt, wordsAt]
  simp only [bind_eq_bind, bind_some, octets, if_neg enoughWords, if_true,
    parseOneByteExtensionHeader, Nat.add_sub_cancel_left, Option.pure_def]
  rw [walked]
  refine ⟨_, rfl, rfl, ?_⟩
  change (header.headerLength + 4 + wordOctets (UInt16.ofNat (4 * count) / 4)).toNat = _
  rw [UInt16.toNat_add, UInt16.toNat_add, octets, sourcesEnd, writtenLength, extensionLength,
    show (4 : UInt16).toNat = 4 from rfl]
  omega

theorem HeaderFields.parse_written (initial : RTPHeader) :
    ∃ header, parse (fields.written sender ++ payload) (some sender.rtpHeaderExtensionMap)
        initial = some (true, header) ∧
      Recovers sender fields (fields.written sender).length header := by
  have fits : fields.csrcs.length ≤ 15 := fields.csrcsFit
  have writtenLength := fields.written_length sender
  rcases firstByte_fields fields.csrcs.length (List.mem_range.mpr (by omega))
    (sender.writtenExtension.length ≠ 0) with ⟨version, noPadding, count, extensionBit⟩
  rcases secondByte_fields fields.payloadType fields.payloadTypeFits fields.markerBit with
    ⟨payloadType, marker⟩
  have countNat : (csrcCount (firstByte fields.csrcs.length
      (sender.writtenExtension.length ≠ 0))).toNat = fields.csrcs.length := by
    rw [count, UInt8.toNat_ofNat']
    omega
  have octets := csrcOctets_toNat
    (firstByte fields.csrcs.length (sender.writtenExtension.length ≠ 0))
  rw [countNat] at octets
  rcases fields.parseCSRCs_written sender payload initial.arrOfCSRCs with ⟨stored, sources, content⟩
  have enough : ¬ (fields.written sender ++ payload).length < kRtpMinParseLength := by
    rw [length_append, writtenLength, kRtpMinParseLength]
    omega
  have enoughSources : ¬ (fields.written sender ++ payload).length <
      12 + 4 * fields.csrcs.length := by
    rw [length_append, writtenLength]
    omega
  have firstAt : (fields.written sender ++ payload).byteAt 0 =
      some (firstByte fields.csrcs.length (sender.writtenExtension.length ≠ 0)) := rfl
  have secondAt : (fields.written sender ++ payload).byteAt 1 =
      some (secondByte fields.payloadType fields.markerBit) := rfl
  have sequenceAt : (fields.written sender ++ payload).uint16At 2 = some fields.sequenceNumber :=
    congrArg some (uint16_join _)
  have fixedPart : fields.written sender ++ payload =
      (firstByte fields.csrcs.length (sender.writtenExtension.length ≠ 0) ::
        secondByte fields.payloadType fields.markerBit ::
        uint16Bytes fields.sequenceNumber) ++
      (uint32Bytes fields.timestamp ++ (uint32Bytes fields.ssrc ++
        (fields.csrcs.flatMap uint32Bytes ++ (sender.writtenExtension ++ payload)))) := by
    simp only [HeaderFields.written, cons_append, append_assoc]
  have timestampAt : (fields.written sender ++ payload).uint32At 4 = some fields.timestamp := by
    rw [fixedPart]
    exact (uint32At_append _ _ 0).trans (uint32At_uint32Bytes _ _)
  have ssrcAt : (fields.written sender ++ payload).uint32At 8 = some fields.ssrc := by
    rw [fixedPart]
    exact (uint32At_append _ _ 4).trans
      ((uint32At_append (uint32Bytes fields.timestamp) _ 0).trans
        (uint32At_uint32Bytes _ _))
  let fixed : RTPHeader := {
    markerBit := secondByte fields.payloadType fields.markerBit &&& 0x80 ≠ 0
    payloadType := secondByte fields.payloadType fields.markerBit &&& 0x7f
    sequenceNumber := fields.sequenceNumber
    timestamp := fields.timestamp
    ssrc := fields.ssrc
    numCSRCs := csrcCount (firstByte fields.csrcs.length (sender.writtenExtension.length ≠ 0))
    arrOfCSRCs := stored
    paddingLength := 0
    headerLength := 12 + (csrcOctets
      (firstByte fields.csrcs.length (sender.writtenExtension.length ≠ 0))).toUInt16
    extension := { transmissionTimeOffset := 0, absoluteSendTime := 0 } }
  have fixedLength : fixed.headerLength.toNat = 12 + 4 * fields.csrcs.length := by
    change (12 + (csrcOctets _).toUInt16).toNat = _
    rw [UInt16.toNat_add, UInt8.toNat_toUInt16, octets, show (12 : UInt16).toNat = 12 from rfl]
    omega
  have fixedSources : fixed.arrOfCSRCs.toList.take fixed.numCSRCs.toNat = fields.csrcs := by
    change stored.toList.take (csrcCount _).toNat = _
    rw [countNat]
    exact content
  have fixedMarker : fixed.markerBit = fields.markerBit := by
    change decide (_ ≠ _) = _
    exact Bool.eq_iff_iff.mpr (by rw [decide_eq_true_eq]; exact marker)
  have parsed : parse (fields.written sender ++ payload) (some sender.rtpHeaderExtensionMap)
      initial = if sender.writtenExtension.length = 0 then some (true, fixed)
        else parseExtension (fields.written sender ++ payload)
          (some sender.rtpHeaderExtensionMap) (12 + 4 * fields.csrcs.length) fixed := by
    rw [parse, if_neg enough, firstAt, secondAt, sequenceAt, timestampAt, ssrcAt]
    simp only [bind_eq_bind, bind_some, version, ne_eq, not_true_eq_false,
      if_false, octets, enoughSources, noPadding, if_true, Option.pure_def, countNat, sources]
    by_cases none : sender.writtenExtension.length = 0
    · rw [if_pos none, if_pos (extensionBit.mpr (by simpa using none))]
    · rw [if_neg none, if_neg fun zero => by simpa [none] using extensionBit.mp zero]
  have wholeParsed : ∃ headerLength : UInt16,
      parse (fields.written sender ++ payload) (some sender.rtpHeaderExtensionMap) initial =
        some (true, { fixed with
          extension := sender.rtpHeaderExtensionMap.announced.foldl sender.recover fixed.extension
          headerLength }) ∧
      headerLength.toNat = (fields.written sender).length := by
    by_cases none : sender.writtenExtension.length = 0
    · refine ⟨fixed.headerLength, ?_, by rw [fixedLength, writtenLength, none, Nat.add_zero]⟩
      rw [parsed, if_pos none, sender.foldl_recover_of_elements_nil _ (fun _ member => member)
        (sender.elements_nil_of_writtenExtension none)]
    · rcases fields.parseExtension_written sender payload fixed none fixedLength with
        ⟨header, extensionParsed, same, length⟩
      exact ⟨header.headerLength, by rw [parsed, if_neg none, extensionParsed, ← same], length⟩
  rcases wholeParsed with ⟨headerLength, parsed, length⟩
  exact ⟨_, parsed, {
    headerLength := congrArg Int.ofNat length
    payloadType := payloadType
    markerBit := fixedMarker
    timestamp := rfl
    sequenceNumber := rfl
    ssrc := rfl
    paddingLength := rfl
    csrcs := fixedSources
    transmissionTimeOffset := fun member =>
      (sender.recover_foldl_transmissionTimeOffset _ fixed.extension).trans (if_pos member)
    absoluteSendTime := fun member =>
      (sender.recover_foldl_absoluteSendTime _ fixed.extension).trans (if_pos member) }⟩

end Parse

/-- Whatever is asked for, and whatever follows the header, it is written and
parsing recovers it. -/
def RoundTrips (map : RtpHeaderExtensionMap) : Prop :=
  ∀ (transmissionTimeOffset absoluteSendTime : UInt32) (fields : HeaderFields)
    (payload : Bytes) (initial : RTPHeader),
    ∃ fuel length bytes, fields.create ⟨map, transmissionTimeOffset, absoluteSendTime⟩ fuel =
        some (length, bytes) ∧
      length = bytes.length ∧
      ∃ header, parse (bytes ++ payload) (some map) initial = some (true, header) ∧
        Recovers ⟨map, transmissionTimeOffset, absoluteSendTime⟩ fields length header

theorem HeaderFields.create_of_repeated (fields : HeaderFields) (sender : RTPSender)
    (repeated : ¬ sender.rtpHeaderExtensionMap.announced.Nodup) (fuel : Nat) :
    fields.create sender fuel = none := by
  rw [HeaderFields.create, RTPSender.createRTPHeader, if_neg (Nat.not_lt.mpr fields.csrcsFit),
    sender.buildRTPHeaderExtension_of_repeated repeated]
  rfl

def plainFields : HeaderFields where
  payloadType := 0
  ssrc := 0
  markerBit := false
  timestamp := 0
  sequenceNumber := 0
  csrcs := []
  payloadTypeFits := by decide
  csrcsFit := by decide

theorem not_roundTrips_of_repeated {map : RtpHeaderExtensionMap}
    (repeated : ¬ map.announced.Nodup) : ¬ RoundTrips map := by
  intro roundTrips
  rcases roundTrips 0 0 plainFields [] unsetHeader with ⟨fuel, length, bytes, created, -⟩
  rw [HeaderFields.create_of_repeated _ _ repeated] at created
  cases created

/-- Headers make the round trip exactly when no extension type is registered under
two identifiers. -/
theorem roundTrips_iff (map : RtpHeaderExtensionMap) : RoundTrips map ↔ map.announced.Nodup := by
  constructor
  · intro roundTrips
    by_contra repeated
    exact not_roundTrips_of_repeated repeated roundTrips
  · intro distinct transmissionTimeOffset absoluteSendTime fields payload initial
    rcases fields.parse_written ⟨map, transmissionTimeOffset, absoluteSendTime⟩ payload initial with
      ⟨header, parsed, recovers⟩
    exact ⟨_, _, _, fields.create_of_nodup ⟨map, _, _⟩ distinct, rfl, header, parsed, recovers⟩

def timeOffsetTwice : RtpHeaderExtensionMap :=
  ((RtpHeaderExtensionMap.empty.register .transmissionTimeOffset 1).2.register
    .transmissionTimeOffset 2).2

theorem not_roundTrips_timeOffsetTwice : ¬ RoundTrips timeOffsetTwice :=
  not_roundTrips_of_repeated (by decide)

end ZyWebRtc.Rtp
