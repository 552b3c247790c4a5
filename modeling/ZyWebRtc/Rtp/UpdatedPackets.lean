import ZyWebRtc.Rtp.AcceptedPackets
import ZyWebRtc.Rtp.HeaderExtensionRuns
import ZyWebRtc.Rtp.HeaderExtensionUpdate
import ZyWebRtc.Rtp.HeaderRoundTrip

namespace ZyWebRtc.Rtp

/-! The packets that `CreateRTPHeader` has made, after an update of an extension element. -/

open List RtpHeaderExtensionMap Bytes
open Option hiding or_self none some

/-! ## Lists of types -/

theorem takeWhile_ne_of_split {α : Type} [DecidableEq α] {before after : List α} {type : α}
    (absent : type ∉ before) : (before ++ type :: after).takeWhile (· ≠ type) = before := by
  rw [takeWhile_append_of_pos (by
      intro other member
      rw [decide_eq_true_eq]
      rintro rfl
      exact absent member),
    takeWhile_cons_of_neg (by simp), append_nil]

namespace RTPSender

variable (sender : RTPSender)

def elementOffset (type : RTPExtensionType) : Nat :=
  kRtpOneByteHeaderLength +
    (sender.elements (sender.rtpHeaderExtensionMap.announced.takeWhile (· ≠ type))).length

theorem buildExtension_length {type : RTPExtensionType}
    (announced : type ∈ sender.rtpHeaderExtensionMap.announced) :
    (sender.buildExtension type).length = RtpHeaderExtensionMap.extensionLength type := by
  rcases exists_getId announced with ⟨id, found⟩
  cases type with
  | none | audioLevel => rfl
  | transmissionTimeOffset =>
    rw [buildExtension, buildTransmissionTimeOffsetExtension, found]
    rfl
  | absoluteSendTime =>
    rw [buildExtension, buildAbsoluteSendTimeExtension, found]
    rfl

theorem elements_length_eq (types : List RTPExtensionType)
    (announced : ∀ type ∈ types, type ∈ sender.rtpHeaderExtensionMap.announced) :
    (sender.elements types).length = (types.map RtpHeaderExtensionMap.extensionLength).sum := by
  rw [elements, length_flatMap]
  congr 1
  apply map_congr_left
  intro type member
  exact sender.buildExtension_length (announced type member)

theorem getLengthUntilBlockStartInBytes_eq {type : RTPExtensionType}
    (announced : type ∈ sender.rtpHeaderExtensionMap.announced) :
    sender.rtpHeaderExtensionMap.getLengthUntilBlockStartInBytes type =
      sender.elementOffset type := by
  rcases exists_getId announced with ⟨id, found⟩
  rcases eq_append_cons_of_mem announced with ⟨before, after, split, absent⟩
  have all : sender.rtpHeaderExtensionMap.inOrder.map Prod.snd = before ++ type ::
      (after ++ (sender.rtpHeaderExtensionMap.inOrder.map Prod.snd).dropWhile (· ≠ .none)) := by
    rw [← cons_append, ← append_assoc, ← split]
    exact takeWhile_append_dropWhile.symm
  have earlier : ∀ other ∈ before, other ∈ sender.rtpHeaderExtensionMap.announced := by
    intro other member
    rw [split]
    exact mem_append_left _ member
  rw [getLengthUntilBlockStartInBytes, found, elementOffset]
  dsimp only
  rw [all, split, takeWhile_ne_of_split absent, takeWhile_ne_of_split absent,
    sender.elements_length_eq before earlier]

/-- What was written for some types: the element of `id` among them. -/
def HasElement (id : UInt8) : Prop :=
  ∃ type ∈ sender.rtpHeaderExtensionMap.announced, ∃ value,
    sender.buildExtension type = threeByteElement id value

theorem elements_head (types : List RTPExtensionType) :
    ∀ index, (∀ type ∈ types, type ∈ sender.rtpHeaderExtensionMap.announced) →
      4 * index < (sender.elements types).length →
      ∃ id, sender.HasElement id ∧ id ∈ headerExtensionIds ∧
        (sender.elements types).byteAt (4 * index) = some ((id <<< 4) + 2) := by
  induction types with
  | nil =>
    intro index announced inside
    cases inside
  | cons type types induction =>
    intro index announced inside
    have later : ∀ other ∈ types, other ∈ sender.rtpHeaderExtensionMap.announced :=
      fun other member => announced other (mem_cons_of_mem type member)
    have typeAnnounced := announced type mem_cons_self
    have split : sender.elements (type :: types) =
        sender.buildExtension type ++ sender.elements types := flatMap_cons
    rw [split] at inside ⊢
    rcases sender.buildExtension_cases typeAnnounced with
      ⟨absent, -⟩ | ⟨id, value, element, inRange, -⟩
    · rw [absent, nil_append] at inside ⊢
      exact induction index later inside
    · have length : (threeByteElement id value).length = 4 := rfl
      rw [element] at inside ⊢
      cases index with
      | zero => exact ⟨id, ⟨type, typeAnnounced, value, element⟩, inRange, rfl⟩
      | succ index =>
        rw [length_append, length] at inside
        rw [show 4 * (index + 1) = (threeByteElement id value).length + 4 * index by
          rw [length]; omega, byteAt_append]
        exact induction index later (by omega)

theorem writtenExtension_split
    (some : (sender.elements sender.rtpHeaderExtensionMap.announced).length ≠ 0) :
    ∃ words, sender.writtenExtension = 0xBE :: 0xDE :: (uint16Bytes words ++
      sender.elements sender.rtpHeaderExtensionMap.announced) := by
  rw [writtenExtension, if_neg some, append_assoc]
  exact ⟨_, rfl⟩

theorem writtenExtension_length_le :
    sender.writtenExtension.length ≤
      4 + (sender.elements sender.rtpHeaderExtensionMap.announced).length := by
  rw [writtenExtension]
  split
  · exact Nat.zero_le _
  · simp only [length_append, uint16Bytes_length]
    omega

theorem exists_buildExtension {type : RTPExtensionType} {id : UInt8}
    (updated : type = .transmissionTimeOffset ∨ type = .absoluteSendTime)
    (found : sender.rtpHeaderExtensionMap.getId type = some id) :
    ∃ value, sender.buildExtension type = threeByteElement id value := by
  rcases updated with rfl | rfl
  · refine ⟨sender.transmissionTimeOffset, ?_⟩
    rw [buildExtension, buildTransmissionTimeOffsetExtension, found]
  · refine ⟨sender.absoluteSendTime, ?_⟩
    rw [buildExtension, buildAbsoluteSendTimeExtension, found]

end RTPSender

/-! ## Packets -/

namespace HeaderFields

variable (fields : HeaderFields) (sender : RTPSender) (payload : Bytes)

theorem written_of_create {fuel : Nat} {length : Int} {bytes : Bytes}
    (created : fields.create sender fuel = some (length, bytes)) :
    bytes = fields.written sender := by
  have distinct : sender.rtpHeaderExtensionMap.announced.Nodup := by
    by_contra repeated
    rw [fields.create_of_repeated sender repeated] at created
    cases created
  have enough := fields.create_of_nodup sender distinct
  have sameExtension : sender.buildRTPHeaderExtension fuel = none ∨
      sender.buildRTPHeaderExtension fuel =
        sender.buildRTPHeaderExtension (sender.rtpHeaderExtensionMap.size + 1) := by
    rw [RTPSender.buildRTPHeaderExtension, RTPSender.buildRTPHeaderExtension,
      RTPSender.buildExtensions_eq, RTPSender.buildExtensions_eq]
    cases ended : sender.rtpHeaderExtensionMap.typesFrom fuel
        sender.rtpHeaderExtensionMap.first with
    | none =>
      by_cases empty : sender.rtpHeaderExtensionMap.size = 0
      · exact .inr (by rw [if_pos empty, if_pos empty])
      · exact .inl (by rw [if_neg empty]; rfl)
    | some types =>
      have same := typesFrom_unique ended
        (typesFrom_first distinct (Nat.lt_succ_self _))
      exact .inr (by
        rw [typesFrom_first distinct (Nat.lt_succ_self _), same])
  have fits : ¬ kRtpCsrcSize < fields.csrcs.length := Nat.not_lt.mpr fields.csrcsFit
  rw [create, RTPSender.createRTPHeader, if_neg fits] at created enough
  rcases sameExtension with missing | same
  · rw [missing] at created
    cases created
  · rw [same, enough] at created
    cases created
    rfl

theorem written_element {type : RTPExtensionType} {id : UInt8} {value : UInt32}
    (announced : type ∈ sender.rtpHeaderExtensionMap.announced)
    (element : sender.buildExtension type = RTPSender.threeByteElement id value) :
    ∃ front back, fields.written sender ++ payload =
        front ++ (RTPSender.threeByteElement id value ++ back) ∧
      front.length = 12 + 4 * fields.csrcs.length + sender.elementOffset type ∧
      front.byteAt (12 + 4 * fields.csrcs.length) = some 0xBE ∧
      front.byteAt (12 + 4 * fields.csrcs.length + 1) = some 0xDE := by
  rcases eq_append_cons_of_mem announced with ⟨before, after, split, absent⟩
  have elements : sender.elements sender.rtpHeaderExtensionMap.announced =
      sender.elements before ++ (RTPSender.threeByteElement id value ++ sender.elements after) := by
    rw [split, RTPSender.elements, flatMap_append, flatMap_cons, element]
    rfl
  rcases sender.writtenExtension_split (by
    rw [elements]
    simp [RTPSender.threeByteElement]) with ⟨words, extension⟩
  rcases fields.written_split sender payload with ⟨front, data, frontLength⟩
  refine ⟨front ++ (0xBE :: 0xDE :: (uint16Bytes words ++ sender.elements before)),
    sender.elements after ++ payload, ?_, ?_, ?_, ?_⟩
  · rw [data, extension, elements]
    simp only [append_assoc, cons_append]
  · rw [RTPSender.elementOffset, split, takeWhile_ne_of_split absent, kRtpOneByteHeaderLength,
      ← frontLength]
    simp only [length_append, length_cons, uint16Bytes_length]
    omega
  · rw [← frontLength, ← Nat.add_zero front.length, byteAt_append]
    rfl
  · rw [← frontLength, byteAt_append]
    rfl

end HeaderFields

section Header

variable {data : Bytes} {extensionMap : Option RtpHeaderExtensionMap}

theorem parseExtension_numCSRCs {ptr : Nat} {header result : RTPHeader} {flag : Bool}
    (parsed : parseExtension data extensionMap ptr header = some (flag, result)) :
    result.numCSRCs = header.numCSRCs := by
  rw [parseExtension] at parsed
  split at parsed
  · cases parsed
    rfl
  simp only [bind_eq_bind, bind_eq_some_iff] at parsed
  rcases parsed with ⟨profile, -, words, -, parsed⟩
  split at parsed
  · cases parsed
    rfl
  split at parsed
  all_goals
    rcases bind_eq_some_iff.mp parsed with ⟨extension, -, last⟩
    cases last
    rfl

theorem numCSRCs_of_parse {initial header : RTPHeader}
    (parsed : parse data extensionMap initial = some (true, header)) :
    header.numCSRCs.toNat = numCSRCs data := by
  rw [parse] at parsed
  split at parsed
  · cases parsed
  simp only [bind_eq_bind, bind_eq_some_iff] at parsed
  rcases parsed with ⟨first, firstAt, second, -, number, -, timestamp, -, ssrc, -, parsed⟩
  split at parsed
  · cases parsed
  split at parsed
  · cases parsed
  rw [numCSRCs, firstAt, getD_some]
  -- with and without padding
  split at parsed
  all_goals
    rcases bind_eq_some_iff.mp parsed with ⟨padding, -, parsed⟩
    rcases bind_eq_some_iff.mp parsed with ⟨csrcs, -, parsed⟩
    split at parsed
    · cases parsed
      rfl
    · rw [parseExtension_numCSRCs parsed]

end Header

theorem HeaderFields.parsed_header (fields : HeaderFields) (sender : RTPSender) (payload : Bytes)
    {extensionMap : Option RtpHeaderExtensionMap} {initial header : RTPHeader}
    (parsed : parse (fields.written sender ++ payload) extensionMap initial = some (true, header)) :
    header.numCSRCs.toNat = fields.csrcs.length ∧
      header.headerLength.toNat = (fields.written sender).length := by
  have fits : fields.csrcs.length ≤ 15 := fields.csrcsFit
  rcases fields.parse_written sender payload initial with ⟨other, otherParsed, recovers⟩
  have otherLength : other.headerLength.toNat = (fields.written sender).length :=
    Int.ofNat.inj recovers.headerLength
  constructor
  · rcases firstByte_fields fields.csrcs.length (mem_range.mpr (by omega))
      (sender.writtenExtension.length ≠ 0) with ⟨-, -, count, -⟩
    have firstAt : (fields.written sender ++ payload).byteAt 0 =
        some (firstByte fields.csrcs.length (sender.writtenExtension.length ≠ 0)) := rfl
    rw [numCSRCs_of_parse parsed, numCSRCs, firstAt, getD_some, count, UInt8.toNat_ofNat']
    omega
  · rw [(accepted_of_parse parsed).2, ← (accepted_of_parse otherParsed).2, otherLength]

/-! ## Updates -/

inductive ExtensionUpdate
  | transmissionTimeOffset (timeDiffMs : Int64)
  | absoluteSendTime (nowMs : Int64)
  deriving DecidableEq, Repr

namespace ExtensionUpdate

def type : ExtensionUpdate → RTPExtensionType
  | .transmissionTimeOffset _ => .transmissionTimeOffset
  | .absoluteSendTime _ => .absoluteSendTime

def value : ExtensionUpdate → UInt32
  | .transmissionTimeOffset timeDiffMs => RtpHeaderExtensionMap.transmissionTimeOffset timeDiffMs
  | .absoluteSendTime nowMs => RtpHeaderExtensionMap.absoluteSendTime nowMs

section

variable (map : RtpHeaderExtensionMap) (rtpPacket : Bytes) (rtpPacketLength : UInt16)
  (rtpHeader : RTPHeader)

def update : ExtensionUpdate → Option (Bool × Bytes)
  | .transmissionTimeOffset timeDiffMs =>
    map.updateTransmissionTimeOffset rtpPacket rtpPacketLength rtpHeader timeDiffMs
  | .absoluteSendTime nowMs =>
    map.updateAbsoluteSendTime rtpPacket rtpPacketLength rtpHeader nowMs

theorem update_eq (change : ExtensionUpdate) :
    change.update map rtpPacket rtpPacketLength rtpHeader =
      map.updateExtension change.type change.value rtpPacket rtpPacketLength rtpHeader := by
  cases change <;> rfl

end

theorem extensionLength_type (change : ExtensionUpdate) :
    RtpHeaderExtensionMap.extensionLength change.type = 4 := by
  cases change <;> rfl

end ExtensionUpdate

/-- The three value bytes of the element at `offset` are replaced, and nothing else. -/
def ElementUpdated (packet : Bytes) (offset : Nat) (id : UInt8) (value : UInt32)
    (result : Bytes) : Prop :=
  ∃ front old back, packet = front ++ (RTPSender.threeByteElement id old ++ back) ∧
    front.length = offset ∧ result = front ++ (RTPSender.threeByteElement id value ++ back)

/-- Every packet with these fields, whatever follows the header: the updates change the value of
their element when the extensions are those that it was built with, and change nothing when the
packet has no element of theirs. -/
def UpdatesInPlace (map : RtpHeaderExtensionMap) (fields : HeaderFields) : Prop :=
  ∀ (sender : RTPSender) (fuel : Nat) (length : Int) (bytes payload : Bytes)
    (packetLength : UInt16) (extensionMap : Option RtpHeaderExtensionMap)
    (initial header : RTPHeader) (change : ExtensionUpdate),
    fields.create sender fuel = some (length, bytes) →
    packetLength.toNat = (bytes ++ payload).length →
    parse (bytes ++ payload) extensionMap initial = some (true, header) →
    (sender.rtpHeaderExtensionMap = map → ∀ id, map.getId change.type = some id →
      ∃ result, change.update map (bytes ++ payload) packetLength header = some (true, result) ∧
        ElementUpdated (bytes ++ payload)
          (12 + 4 * fields.csrcs.length + sender.elementOffset change.type) id change.value
          result) ∧
    ((∀ id, map.getId change.type = some id → ¬ sender.HasElement id) →
      change.update map (bytes ++ payload) packetLength header = some (false, bytes ++ payload))

section Update

variable {map : RtpHeaderExtensionMap} {type : RTPExtensionType} {packet : Bytes}
  {packetLength : UInt16} {header : RTPHeader}

theorem updateExtension_written {value : UInt32} {result : Bytes} {position : Nat}
    (place : map.getLengthUntilBlockStartInBytes type = position)
    (updated : map.updateExtension type value packet packetLength header = some (true, result)) :
    packet.writeAt (12 + header.numCSRCs.toNat + position + 1) (uint24Bytes value) =
      some result := by
  rw [updateExtension, place] at updated
  dsimp only at updated
  rw [if_neg (by omega), Int.toNat_natCast] at updated
  split at updated
  · cases updated
  simp only [bind_eq_bind, bind_eq_some_iff] at updated
  rcases updated with ⟨first, -, second, -, updated⟩
  split at updated
  · cases updated
  split at updated
  · cases updated
  rcases bind_eq_some_iff.mp updated with ⟨blockByte, -, updated⟩
  split at updated
  · cases updated
  rcases bind_eq_some_iff.mp updated with ⟨whole, written, same⟩
  cases same
  exact written

theorem updateExtension_element {front back : Bytes} {id : UInt8} {old value : UInt32}
    {position : Nat} (place : map.getLengthUntilBlockStartInBytes type = position)
    (registered : map.getId type = some id)
    (four : RtpHeaderExtensionMap.extensionLength type = 4)
    (split : packet = front ++ (RTPSender.threeByteElement id old ++ back))
    (frontLength : front.length = 12 + header.numCSRCs.toNat + position)
    (first : front.byteAt (12 + header.numCSRCs.toNat) = some 0xBE)
    (second : front.byteAt (12 + header.numCSRCs.toNat + 1) = some 0xDE)
    (packetFits : front.length + 4 ≤ packetLength.toNat)
    (headerFits : front.length + 4 ≤ header.headerLength.toNat) :
    map.updateExtension type value packet packetLength header =
      some (true, front ++ (RTPSender.threeByteElement id value ++ back)) := by
  have inFront : ∀ {offset byte}, front.byteAt offset = some byte →
      packet.byteAt offset = some byte := by
    intro offset byte found
    rw [split, Bytes.byteAt, List.getElem?_append_left (lt_length_of_byteAt found)]
    exact found
  have headAt : packet.byteAt (front.length + 0) = some ((id <<< 4) + 2) := by
    rw [split, byteAt_append]
    rfl
  have moved : packet = (front ++ [(id <<< 4) + 2]) ++ (uint24Bytes old ++ back) := by
    rw [split, RTPSender.threeByteElement, append_assoc]
    rfl
  have written : packet.writeAt (front.length + 1) (uint24Bytes value) =
      some ((front ++ [(id <<< 4) + 2]) ++ (uint24Bytes value ++ back)) := by
    rw [moved]
    have place := writeAt_middle (front ++ [(id <<< 4) + 2]) (uint24Bytes old)
      (uint24Bytes value) back rfl
    rw [length_append] at place
    exact place
  have inside : ¬ (packetLength.toNat < front.length + 4 ∨
      header.headerLength.toNat < front.length + 4) := by omega
  rw [updateExtension, place]
  dsimp only
  rw [if_neg (by omega), Int.toNat_natCast, four, ← frontLength, if_neg inside, inFront first,
    inFront second]
  simp only [bind_eq_bind, bind_some, ne_eq, not_true_eq_false, or_self, if_false,
    registered]
  rw [← Nat.add_zero front.length, headAt, bind_some, if_neg (by simp), Nat.add_zero,
    written, bind_some, RTPSender.threeByteElement, append_assoc]
  rfl

theorem extensionLength_sum (types : List RTPExtensionType) :
    ∃ count, (types.map RtpHeaderExtensionMap.extensionLength).sum = 4 * count := by
  induction types with
  | nil => exact ⟨0, rfl⟩
  | cons type types induction =>
    rcases induction with ⟨count, sum⟩
    rw [map_cons, sum_cons, sum]
    cases type with
    | none | audioLevel => exact ⟨count, Nat.zero_add _⟩
    | transmissionTimeOffset | absoluteSendTime =>
      exact ⟨count + 1, by rw [RtpHeaderExtensionMap.extensionLength]; omega⟩

/-- Without contributing sources, where an element is looked for there is the element of another
type or none. -/
theorem updateExtension_absent {fields : HeaderFields} {sender : RTPSender} {payload : Bytes}
    {value : UInt32} (noSources : fields.csrcs = [])
    (sources : header.numCSRCs.toNat = fields.csrcs.length)
    (headerLength : header.headerLength.toNat = (fields.written sender).length)
    (four : RtpHeaderExtensionMap.extensionLength type = 4)
    (absent : ∀ id, map.getId type = some id → ¬ sender.HasElement id) :
    map.updateExtension type value (fields.written sender ++ payload) packetLength header =
      some (false, fields.written sender ++ payload) := by
  rw [updateExtension, getLengthUntilBlockStartInBytes]
  cases registered : map.getId type with
  | none => rfl
  | some id =>
    rcases extensionLength_sum ((map.inOrder.map Prod.snd).takeWhile (· ≠ type)) with ⟨count, sum⟩
    rw [noSources, length_nil] at sources
    dsimp only
    rw [sum, if_neg (by omega), Int.toNat_natCast, sources, four, headerLength,
      kRtpOneByteHeaderLength]
    split
    · rfl
    · rename_i inside
      have writtenLength := fields.written_length sender
      rw [noSources, length_nil] at writtenLength
      have extended : (sender.elements sender.rtpHeaderExtensionMap.announced).length ≠ 0 := by
        intro none
        have noExtension : sender.writtenExtension = [] := by
          rw [RTPSender.writtenExtension, if_pos none]
        rw [noExtension, length_nil] at writtenLength
        omega
      rcases sender.writtenExtension_split extended with ⟨words, extension⟩
      rcases fields.written_split sender payload with ⟨front, data, frontLength⟩
      rw [noSources, length_nil] at frontLength
      rw [extension] at writtenLength
      simp only [length_cons, length_append, uint16Bytes_length] at writtenLength
      rcases sender.elements_head _ count (fun _ member => member) (by omega) with
        ⟨other, element, inRange, headAt⟩
      have different : other ≠ id := fun same => absent id registered (same ▸ element)
      have idInRange := mem_headerExtensionIds.mpr
        (idInRange_of_getType
          (getType_of_getId registered))
      have otherByte : ¬ ((other <<< 4) + 2 : UInt8) = (id <<< 4) + 2 := by
        intro same
        apply different
        rw [← (elementHeader_fields other inRange).1, same, (elementHeader_fields id idInRange).1]
      have first : (fields.written sender ++ payload).byteAt 12 = some 0xBE := by
        rw [data, extension, show 12 = front.length + 0 by omega, byteAt_append]
        rfl
      have second : (fields.written sender ++ payload).byteAt (12 + 1) = some 0xDE := by
        rw [data, extension, show 12 + 1 = front.length + 1 by omega, byteAt_append]
        rfl
      have blockByte : (fields.written sender ++ payload).byteAt (12 + (4 + 4 * count)) =
          some ((other <<< 4) + 2) := by
        have moved : front ++ (sender.writtenExtension ++ payload) =
            (front ++ (0xBE :: 0xDE :: uint16Bytes words)) ++
              (sender.elements sender.rtpHeaderExtensionMap.announced ++ payload) := by
          rw [extension]
          simp only [append_assoc, cons_append]
        have behind : 12 + (4 + 4 * count) =
            (front ++ (0xBE :: 0xDE :: uint16Bytes words)).length + 4 * count := by
          simp only [length_append, length_cons, uint16Bytes_length]
          omega
        rw [data, moved, behind, byteAt_append, Bytes.byteAt,
          List.getElem?_append_left (lt_length_of_byteAt headAt)]
        exact headAt
      rw [Nat.add_zero, first, second]
      simp only [bind_eq_bind, bind_some, ne_eq, not_true_eq_false, or_self, if_false]
      rw [blockByte, bind_some, if_pos otherByte]
      rfl

end Update

theorem exists_different_values (type : RTPExtensionType)
    (updated : type = .transmissionTimeOffset ∨ type = .absoluteSendTime) :
    ∃ first second : ExtensionUpdate, first.type = type ∧ second.type = type ∧
      (first.value >>> 16).toUInt8 ≠ (second.value >>> 16).toUInt8 := by
  rcases updated with rfl | rfl
  · exact ⟨.transmissionTimeOffset 0, .transmissionTimeOffset 1000, rfl, rfl, by decide⟩
  · exact ⟨.absoluteSendTime 0, .absoluteSendTime 250, rfl, rfl, by decide⟩

theorem ExtensionUpdate.type_updated (change : ExtensionUpdate) :
    change.type = .transmissionTimeOffset ∨ change.type = .absoluteSendTime := by
  cases change with
  | transmissionTimeOffset timeDiffMs => exact .inl rfl
  | absoluteSendTime nowMs => exact .inr rfl

theorem ElementUpdated.byteAt {packet result : Bytes} {offset position : Nat} {id : UInt8}
    {value : UInt32} (updated : ElementUpdated packet offset id value result)
    (before : position < offset) : result.byteAt position = packet.byteAt position := by
  rcases updated with ⟨front, old, back, rfl, rfl, rfl⟩
  rw [Bytes.byteAt, Bytes.byteAt, List.getElem?_append_left before,
    List.getElem?_append_left before]

theorem ElementUpdated.inside {packet result : Bytes} {offset : Nat} {id : UInt8} {value : UInt32}
    (updated : ElementUpdated packet offset id value result) : offset + 4 ≤ packet.length := by
  rcases updated with ⟨front, old, back, rfl, rfl, rfl⟩
  simp only [length_append, RTPSender.threeByteElement, length_cons, uint24Bytes_length]
  omega

theorem sources_nil_of_updated (sender : RTPSender) {packet result : Bytes} {packetLength : UInt16}
    {header : RTPHeader} {type : RTPExtensionType} {id : UInt8} {value : UInt32}
    (announced : type ∈ sender.rtpHeaderExtensionMap.announced)
    (written : sender.rtpHeaderExtensionMap.updateExtension type value packet packetLength header =
      some (true, result))
    (updated : ElementUpdated packet
      (12 + 4 * header.numCSRCs.toNat + sender.elementOffset type) id value result) :
    header.numCSRCs.toNat = 0 ∨
      packet.byteAt (12 + header.numCSRCs.toNat + sender.elementOffset type + 1) =
        some (value >>> 16).toUInt8 := by
  by_cases sources : header.numCSRCs.toNat = 0
  · exact .inl sources
  · have all := @byteAt_writeAt _ _ _ _
      (updateExtension_written (sender.getLengthUntilBlockStartInBytes_eq announced) written)
    have first := all (Nat.zero_lt_succ 2)
    rw [Nat.add_zero, updated.byteAt (by omega)] at first
    exact .inr first

/-- Both updates work in place exactly when, for each of their types that is registered, the packet
has no contributing sources and the sender announces the type. -/
theorem updatesInPlace_iff (map : RtpHeaderExtensionMap) (distinct : map.announced.Nodup)
    (fields : HeaderFields) :
    UpdatesInPlace map fields ↔ ∀ type, type = .transmissionTimeOffset ∨ type = .absoluteSendTime →
        map.getId type ≠ none → fields.csrcs = [] ∧ type ∈ map.announced := by
  constructor
  · intro inPlace type updated registered
    rcases Option.ne_none_iff_exists'.mp registered with ⟨id, found⟩
    rcases show ∃ sender : RTPSender, sender.rtpHeaderExtensionMap = map from ⟨⟨map, 0, 0⟩, rfl⟩
      with ⟨sender, rfl⟩
    have fits : fields.csrcs.length ≤ 15 := fields.csrcsFit
    have writtenLength := fields.written_length sender
    have extensionLength := sender.writtenExtension_length_le
    rcases sender.blocks_length with ⟨count, few, length⟩
    rcases fields.parse_written sender [] unsetHeader with ⟨header, parsed, -⟩
    rcases fields.parsed_header sender [] parsed with ⟨sources, -⟩
    have updates : ∀ change : ExtensionUpdate, change.type = type → ∃ result,
        sender.rtpHeaderExtensionMap.updateExtension type change.value
            (fields.written sender ++ []) (UInt16.ofNat (fields.written sender).length) header =
              some (true, result) ∧
          ElementUpdated (fields.written sender ++ [])
            (12 + 4 * header.numCSRCs.toNat + sender.elementOffset type) id change.value
            result := by
      rintro change rfl
      rw [← change.update_eq, sources]
      exact (inPlace sender _ _ _ [] _ _ unsetHeader header change
        (fields.create_of_nodup sender distinct)
        (by rw [UInt16.toNat_ofNat', append_nil]; omega) parsed).1 rfl id found
    rcases exists_different_values type updated with
      ⟨first, second, firstType, secondType, different⟩
    rcases updates first firstType with ⟨firstResult, firstWritten, firstUpdated⟩
    rcases updates second secondType with ⟨secondResult, secondWritten, secondUpdated⟩
    have announced : type ∈ sender.rtpHeaderExtensionMap.announced := by
      by_contra missing
      have inside := firstUpdated.inside
      have all : sender.rtpHeaderExtensionMap.announced.takeWhile (· ≠ type) =
          sender.rtpHeaderExtensionMap.announced := by
        rw [takeWhile_eq_self_iff]
        intro other member
        rw [decide_eq_true_eq]
        rintro rfl
        exact missing member
      rw [RTPSender.elementOffset, all, append_nil, kRtpOneByteHeaderLength] at inside
      omega
    refine ⟨?_, announced⟩
    rcases sources_nil_of_updated sender announced firstWritten firstUpdated with none | firstByte
    · exact length_eq_zero_iff.mp (sources ▸ none)
    rcases sources_nil_of_updated sender announced secondWritten secondUpdated with none | secondByte
    · exact length_eq_zero_iff.mp (sources ▸ none)
    exact absurd (Option.some.inj (firstByte.symm.trans secondByte)) different
  · intro condition sender fuel length bytes payload packetLength extensionMap initial header change
      created packetLengthEq parsed
    have whole := fields.written_of_create sender created
    subst whole
    rcases fields.parsed_header sender payload parsed with ⟨sources, headerLength⟩
    rw [change.update_eq]
    constructor
    · rintro rfl id found
      rcases condition change.type change.type_updated (by simp [found]) with ⟨noSources, announced⟩
      rcases sender.exists_buildExtension change.type_updated found with ⟨old, element⟩
      rcases fields.written_element sender payload announced element with
        ⟨front, back, split, frontLength, first, second⟩
      rcases fields.written_element sender [] announced element with
        ⟨headerFront, headerBack, headerSplit, headerFrontLength, -, -⟩
      have headerInside : front.length + 4 ≤ (fields.written sender).length := by
        rw [← append_nil (fields.written sender), headerSplit, frontLength, ← headerFrontLength]
        simp [RTPSender.threeByteElement]
      rw [length_append] at packetLengthEq
      refine ⟨_, updateExtension_element (sender.getLengthUntilBlockStartInBytes_eq announced) found
        change.extensionLength_type split ?_ ?_ ?_ (by omega) (by omega),
        front, old, back, split, frontLength, rfl⟩
      · rw [frontLength, sources, noSources, length_nil]
      · rw [noSources, length_nil] at first
        rw [sources, noSources, length_nil]
        exact first
      · rw [noSources, length_nil] at second
        rw [sources, noSources, length_nil]
        exact second
    · intro absent
      by_cases registered : map.getId change.type = none
      · rw [updateExtension, getLengthUntilBlockStartInBytes, registered]
        rfl
      · exact updateExtension_absent (condition change.type change.type_updated registered).1 sources
          headerLength change.extensionLength_type absent

theorem updatesInPlace_plainFields :
    UpdatesInPlace exampleMap plainFields := by
  apply (updatesInPlace_iff exampleMap (by decide) plainFields).mpr
  intro type updated _
  rcases updated with rfl | rfl
  · exact ⟨rfl, by decide⟩
  · exact ⟨rfl, by decide⟩

/-- One source, and nothing else that is not zero. -/
def oneSourceFields : HeaderFields :=
  { plainFields with csrcs := [0], csrcsFit := by decide }

/-- The value would be written from the length of the extension on, before the element. -/
theorem not_updatesInPlace_oneSource :
    ¬ UpdatesInPlace exampleMap oneSourceFields := by
  intro inPlace
  let sender : RTPSender := ⟨exampleMap, 0, 0⟩
  have distinct : sender.rtpHeaderExtensionMap.announced.Nodup := by decide
  rcases oneSourceFields.parse_written sender [] unsetHeader with ⟨header, parsed, -⟩
  rcases oneSourceFields.parsed_header sender [] parsed with ⟨sources, -⟩
  have one : header.numCSRCs.toNat = 1 := sources
  rcases (inPlace sender _ _ _ [] 28 _ unsetHeader header (.transmissionTimeOffset 1000)
    (oneSourceFields.create_of_nodup sender distinct) (by decide) parsed).1 rfl 3 (by decide) with
    ⟨result, written, updated⟩
  rw [← sources] at updated
  rw [ExtensionUpdate.update_eq] at written
  rcases sources_nil_of_updated sender (by decide) written updated with none | first
  · rw [one] at none
    cases none
  · rw [one] at first
    exact absurd first (by decide)

end ZyWebRtc.Rtp
