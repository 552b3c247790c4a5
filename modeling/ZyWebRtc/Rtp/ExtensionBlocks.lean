import ZyWebRtc.Rtp.HeaderRoundTrip

namespace ZyWebRtc.Rtp

/-! Blocks of one-byte extension elements with padding between them, and what
`ParseOneByteExtensionHeader` makes of them. -/

open List Option Bytes

/-- The header extension fields that an element of the type has its value in. Audio levels have
none. -/
def RTPExtensionType.Carries (type : RTPExtensionType) : Prop :=
  type = .transmissionTimeOffset ∨ type = .absoluteSendTime

def RTPHeaderExtension.valueOf (extension : RTPHeaderExtension) : RTPExtensionType → UInt32
  | .transmissionTimeOffset => extension.transmissionTimeOffset
  | .absoluteSendTime => extension.absoluteSendTime
  | .audioLevel | .none => 0

/-- An element without its value, and the padding bytes behind it. -/
structure ElementShape where
  id : UInt8
  type : RTPExtensionType
  padding : Nat
  deriving DecidableEq, Repr

structure BlockElement where
  shape : ElementShape
  value : UInt32
  deriving DecidableEq, Repr

namespace BlockElement

/-- A level has one byte, the other values have three. -/
def bytes (element : BlockElement) : Bytes :=
  match element.shape.type with
  | .transmissionTimeOffset | .absoluteSendTime =>
    RTPSender.threeByteElement element.shape.id element.value
  | .audioLevel => [element.shape.id <<< 4, element.value.toUInt8]
  | .none => []

def padded (element : BlockElement) : Bytes :=
  element.bytes ++ List.replicate element.shape.padding 0

def record (extension : RTPHeaderExtension) (element : BlockElement) : RTPHeaderExtension :=
  match element.shape.type with
  | .transmissionTimeOffset =>
    { extension with transmissionTimeOffset := signExtend24 (low24 element.value) }
  | .absoluteSendTime => { extension with absoluteSendTime := low24 element.value }
  | .audioLevel | .none => extension

end BlockElement

def blockBytes (elements : List BlockElement) : Bytes := elements.flatMap BlockElement.padded

/-- A block of registered elements, up to their values. -/
structure BlockShape (map : RtpHeaderExtensionMap) where
  leadingPadding : Nat
  elements : List ElementShape
  registered : ∀ shape ∈ elements, map.getType shape.id = some shape.type
  implemented : ∀ shape ∈ elements, shape.type ≠ .none

/-- Whatever the values are, and whatever stands before and behind the block, parsing takes up
all of them. -/
def BlockShape.Extracted {map : RtpHeaderExtensionMap} (shape : BlockShape map) : Prop :=
  ∀ (elements : List BlockElement) (front back : Bytes) (extension : RTPHeaderExtension),
    elements.map BlockElement.shape = shape.elements →
    let block := List.replicate shape.leadingPadding 0 ++ blockBytes elements
    parseOneByteExtensionHeader (front ++ (block ++ back)) (some map)
      (front.length + block.length) front.length extension =
        some (elements.foldl BlockElement.record extension)

/-- A type with a value is registered. -/
def RtpHeaderExtensionMap.HasValues (map : RtpHeaderExtensionMap) : Prop :=
  ∃ id type, map.getType id = some type ∧ type.Carries

/-- Until the parser loses its way behind 256 padding bytes it comes to no audio level, unless
there are only audio levels; and then no value is left. -/
def Extractable (map : RtpHeaderExtensionMap) : List ElementShape → Prop
  | [] => True
  | shape :: rest =>
    if shape.type = .audioLevel then ¬ map.HasValues
    else if shape.padding < 256 then Extractable map rest
    else ∀ other ∈ rest, ¬ other.type.Carries

section Walk

variable {data : Bytes} {map : RtpHeaderExtensionMap} {extensionEnd ptr : Nat} {byte : UInt8}
  {extension : RTPHeaderExtension}

theorem parseOneByteExtensionHeader_unfold (inside : ptr < extensionEnd)
    (byteAt : data.byteAt ptr = some byte) :
    parseOneByteExtensionHeader data (some map) extensionEnd ptr extension =
      (parseElement data map byte (ptr + 1) extension).bind fun result => match result with
        | (none, extension) => some extension
        | (some next, extension) =>
          (parsePaddingBytes data extensionEnd next).bind fun numBytes =>
            parseOneByteElements data map extensionEnd (extensionEnd - (ptr + 1))
              (next + numBytes.toNat) extension := by
  rw [parseOneByteExtensionHeader, show extensionEnd - ptr = extensionEnd - (ptr + 1) + 1 by omega,
    parseOneByteElements, if_neg (by omega), byteAt]
  rfl

theorem parseOneByteExtensionHeader_step {next : Nat} {numBytes : UInt8}
    {following : RTPHeaderExtension} (inside : ptr < extensionEnd)
    (byteAt : data.byteAt ptr = some byte)
    (element : parseElement data map byte (ptr + 1) extension = some (some next, following))
    (behind : ptr + 1 ≤ next)
    (padding : parsePaddingBytes data extensionEnd next = some numBytes) :
    parseOneByteExtensionHeader data (some map) extensionEnd ptr extension =
      parseOneByteExtensionHeader data (some map) extensionEnd (next + numBytes.toNat)
        following := by
  rw [parseOneByteExtensionHeader_unfold inside byteAt, element]
  change (parsePaddingBytes data extensionEnd next).bind _ = _
  rw [padding]
  exact parseOneByteElements_fuel data map extensionEnd _ _ _ following (Nat.le_refl _) (by omega)

theorem parseOneByteExtensionHeader_last (inside : ptr < extensionEnd)
    (byteAt : data.byteAt ptr = some byte) (last : elementValueLength map byte = none) :
    parseOneByteExtensionHeader data (some map) extensionEnd ptr extension = some extension := by
  rw [parseOneByteExtensionHeader_unfold inside byteAt, parseElement_last extension last]
  rfl

theorem elementValueLength_zero : elementValueLength map 0 = none := by
  rw [elementValueLength, if_neg (by decide), show elementId 0 = 0 from rfl, map.getType_zero]

theorem parseOneByteElements_noValues (noValues : ¬ map.HasValues)
    (bound : extensionEnd ≤ data.length) (fuel : Nat) :
    ∀ ptr, parseOneByteElements data map extensionEnd fuel ptr extension = some extension := by
  induction fuel with
  | zero => exact fun _ => rfl
  | succ fuel induction =>
    intro ptr
    rw [parseOneByteElements]
    split
    · rfl
    · rcases exists_byteAt (show ptr < data.length by omega) with ⟨byte, byteAt⟩
      rw [byteAt]
      simp only [bind_eq_bind, bind_some]
      have element : parseElement data map byte (ptr + 1) extension = some (none, extension) ∨
          parseElement data map byte (ptr + 1) extension = some (some (ptr + 1), extension) := by
        rw [parseElement]
        by_cases terminated : elementId byte = 15
        · exact .inl (if_pos terminated)
        rw [if_neg terminated]
        cases registered : map.getType (elementId byte) with
        | none => exact .inl rfl
        | some type =>
          cases type with
          | none => exact .inl rfl
          | audioLevel => exact .inr rfl
          | transmissionTimeOffset => exact absurd ⟨_, _, registered, .inl rfl⟩ noValues
          | absoluteSendTime => exact absurd ⟨_, _, registered, .inr rfl⟩ noValues
      rcases element with last | level
      · rw [last]
        rfl
      · rcases exists_parsePaddingBytes (ptr + 1) bound with ⟨numBytes, padding⟩
        rw [level]
        simp only [bind_some, padding]
        exact induction _

section Front

variable (front data : Bytes) (extensionEnd ptr : Nat)

theorem countPaddingBytes_append (remaining : Nat) :
    ∀ (ptr : Nat) (numZeroBytes : UInt8),
      countPaddingBytes (front ++ data) remaining (front.length + ptr) numZeroBytes =
        countPaddingBytes data remaining ptr numZeroBytes := by
  induction remaining with
  | zero => exact fun _ _ => rfl
  | succ remaining induction =>
    intro ptr numZeroBytes
    rw [countPaddingBytes, countPaddingBytes, byteAt_append]
    simp only [Nat.add_assoc, induction]

theorem parsePaddingBytes_append :
    parsePaddingBytes (front ++ data) (front.length + extensionEnd) (front.length + ptr) =
      parsePaddingBytes data extensionEnd ptr := by
  rw [parsePaddingBytes, parsePaddingBytes, countPaddingBytes_append, Nat.add_sub_add_left]

theorem parseElement_append (extension : RTPHeaderExtension) :
    parseElement (front ++ data) map byte (front.length + ptr) extension =
      (parseElement data map byte ptr extension).map fun result =>
        (result.1.map (front.length + ·), result.2) := by
  rw [parseElement, parseElement, uint24At_append]
  split
  · rfl
  · cases map.getType (elementId byte) with
    | none => rfl
    | some type =>
      cases type with
      | none | audioLevel => rfl
      | transmissionTimeOffset | absoluteSendTime =>
        dsimp only
        split
        · rfl
        · cases data.uint24At ptr <;> rfl

theorem parseOneByteElements_append (fuel : Nat) :
    ∀ (ptr : Nat) (extension : RTPHeaderExtension),
      parseOneByteElements (front ++ data) map (front.length + extensionEnd) fuel
        (front.length + ptr) extension =
          parseOneByteElements data map extensionEnd fuel ptr extension := by
  induction fuel with
  | zero => exact fun _ _ => rfl
  | succ fuel induction =>
    intro ptr extension
    rw [parseOneByteElements, parseOneByteElements, byteAt_append]
    simp only [Nat.add_le_add_iff_left, Nat.add_assoc, parseElement_append]
    split
    · rfl
    · cases data.byteAt ptr with
      | none => rfl
      | some byte =>
        simp only [bind_eq_bind, bind_some]
        rcases parseElement data map byte (ptr + 1) extension with _ | ⟨_ | next, following⟩
        · rfl
        · rfl
        · simp only [map_some, bind_some, parsePaddingBytes_append, Nat.add_assoc, induction]

theorem parseOneByteExtensionHeader_append (map : RtpHeaderExtensionMap)
    (extension : RTPHeaderExtension) :
    parseOneByteExtensionHeader (front ++ data) (some map) (front.length + extensionEnd)
      (front.length + ptr) extension =
        parseOneByteExtensionHeader data (some map) extensionEnd ptr extension := by
  rw [parseOneByteExtensionHeader, parseOneByteExtensionHeader, Nat.add_sub_add_left,
    parseOneByteElements_append]

end Front

end Walk

theorem byteAt_replicate_append {count index : Nat} (inside : index < count) (rest : Bytes) :
    Bytes.byteAt (List.replicate count 0 ++ rest) index = some 0 := by
  rw [Bytes.byteAt, List.getElem?_append_left (by simpa using inside),
    List.getElem?_replicate, if_pos inside]

theorem countPaddingBytes_replicate (rest : Bytes) (remaining : Nat)
    (stops : remaining = 0 ∨ ∃ byte, rest.byteAt 0 = some byte ∧ byte ≠ 0) (count : Nat) :
    ∀ (numZeroBytes : UInt8),
      countPaddingBytes (List.replicate count 0 ++ rest) (count + remaining) 0 numZeroBytes =
        some (numZeroBytes + UInt8.ofNat count) := by
  induction count with
  | zero =>
    intro numZeroBytes
    rw [replicate_zero, nil_append, Nat.zero_add, show UInt8.ofNat 0 = 0 from rfl, UInt8.add_zero]
    rcases stops with rfl | ⟨byte, byteAt, nonzero⟩
    · rfl
    · cases remaining with
      | zero => rfl
      | succ remaining => simp [countPaddingBytes, byteAt, nonzero]
  | succ count induction =>
    intro numZeroBytes
    have moved : countPaddingBytes ([0] ++ (List.replicate count 0 ++ rest)) (count + remaining)
        ([(0 : UInt8)].length + 0) (numZeroBytes + 1) =
          some (numZeroBytes + 1 + UInt8.ofNat count) := by
      rw [countPaddingBytes_append]
      exact induction (numZeroBytes + 1)
    rw [show count + 1 + remaining = count + remaining + 1 by omega, replicate_succ,
      cons_append, countPaddingBytes]
    change (if (0 : UInt8) ≠ 0 then some numZeroBytes else
      countPaddingBytes ([0] ++ (List.replicate count 0 ++ rest)) (count + remaining)
        ([(0 : UInt8)].length + 0) (numZeroBytes + 1)) = _
    rw [if_neg (by simp), moved]
    rw [UInt8.ofNat_add, UInt8.add_assoc, UInt8.add_comm (1 : UInt8)]
    rfl

/-! ## Steps over a block -/

def BlockElement.Registered (map : RtpHeaderExtensionMap) (element : BlockElement) : Prop :=
  map.getType element.shape.id = some element.shape.type ∧ element.shape.type ≠ .none

def parseBlock (map : RtpHeaderExtensionMap) (elements : List BlockElement) (back : Bytes)
    (extension : RTPHeaderExtension) : Option RTPHeaderExtension :=
  parseOneByteExtensionHeader (blockBytes elements ++ back) (some map)
    (blockBytes elements).length 0 extension

theorem levelHeader_fields : ∀ id ∈ RtpHeaderExtensionMap.headerExtensionIds,
    elementId (id <<< 4) = id ∧ id <<< 4 ≠ 0 := by decide +kernel

section Block

variable {map : RtpHeaderExtensionMap} {element : BlockElement} {elements rest : List BlockElement}
  {back : Bytes} {extension : RTPHeaderExtension}

theorem BlockElement.Registered.inRange (registered : element.Registered map) :
    element.shape.id ∈ RtpHeaderExtensionMap.headerExtensionIds :=
  RtpHeaderExtensionMap.mem_headerExtensionIds.mpr
    (RtpHeaderExtensionMap.idInRange_of_getType registered.1)

theorem blockBytes_start (registered : ∀ element ∈ elements, element.Registered map) :
    (blockBytes elements).length = 0 ∨
      ∃ byte, (blockBytes elements ++ back).byteAt 0 = some byte ∧ byte ≠ 0 := by
  cases elements with
  | nil => exact .inl rfl
  | cons element rest =>
    have proper := registered element mem_cons_self
    right
    rw [blockBytes, flatMap_cons, BlockElement.padded, BlockElement.bytes]
    cases type : element.shape.type with
    | none => exact absurd type proper.2
    | audioLevel => exact ⟨_, rfl, (levelHeader_fields _ proper.inRange).2⟩
    | transmissionTimeOffset | absoluteSendTime =>
      exact ⟨_, rfl, (elementHeader_fields _ proper.inRange).2.2.2⟩

theorem parsePaddingBytes_block (registered : ∀ element ∈ elements, element.Registered map)
    (count : Nat) :
    parsePaddingBytes (List.replicate count 0 ++ (blockBytes elements ++ back))
      (count + (blockBytes elements).length) 0 = some (UInt8.ofNat count) := by
  rw [parsePaddingBytes, Nat.sub_zero,
    countPaddingBytes_replicate _ _ (blockBytes_start registered), UInt8.zero_add]

theorem parseOneByteExtensionHeader_padding (count : Nat) :
    parseOneByteExtensionHeader (List.replicate count 0 ++ (blockBytes elements ++ back)) (some map)
        (count + (blockBytes elements).length) (UInt8.ofNat count).toNat extension =
      if count < 256 then parseBlock map elements back extension else some extension := by
  rw [UInt8.toNat_ofNat']
  by_cases small : count < 256
  · have behind := parseOneByteExtensionHeader_append (List.replicate count 0)
      (blockBytes elements ++ back) (blockBytes elements).length 0 map extension
    rw [length_replicate, Nat.add_zero] at behind
    rw [if_pos small, Nat.mod_eq_of_lt small, behind]
    rfl
  · have within : count % 2 ^ 8 < count := by omega
    rw [if_neg small]
    exact parseOneByteExtensionHeader_last (by omega) (byteAt_replicate_append within _)
      elementValueLength_zero

theorem parseBlock_cons {byte : UInt8} {following : RTPHeaderExtension}
    (registered : ∀ element ∈ rest, element.Registered map)
    (first : (element.bytes ++ (List.replicate element.shape.padding 0 ++
      (blockBytes rest ++ back))).byteAt 0 = some byte)
    (nonempty : 1 ≤ element.bytes.length)
    (parsed : parseElement (element.bytes ++ (List.replicate element.shape.padding 0 ++
      (blockBytes rest ++ back))) map byte 1 extension =
        some (some element.bytes.length, following)) :
    parseBlock map (element :: rest) back extension =
      if element.shape.padding < 256 then parseBlock map rest back following
      else some following := by
  have bytes : blockBytes (element :: rest) ++ back = element.bytes ++
      (List.replicate element.shape.padding 0 ++ (blockBytes rest ++ back)) := by
    simp only [blockBytes, flatMap_cons, BlockElement.padded, append_assoc]
  have length : (blockBytes (element :: rest)).length = element.bytes.length +
      (element.shape.padding + (blockBytes rest).length) := by
    simp only [blockBytes, flatMap_cons, BlockElement.padded, length_append, length_replicate]
    omega
  have padding := parsePaddingBytes_append element.bytes
    (List.replicate element.shape.padding 0 ++ (blockBytes rest ++ back))
    (element.shape.padding + (blockBytes rest).length) 0
  rw [Nat.add_zero, parsePaddingBytes_block registered] at padding
  rw [parseBlock, bytes, length, parseOneByteExtensionHeader_step (by omega) first parsed
    (by omega) padding, parseOneByteExtensionHeader_append, parseOneByteExtensionHeader_padding]

theorem parseBlock_value (registered : ∀ other ∈ element :: rest, other.Registered map)
    (carries : element.shape.type.Carries) :
    parseBlock map (element :: rest) back extension = if element.shape.padding < 256 then
        parseBlock map rest back (element.record extension)
      else some (element.record extension) := by
  have proper := registered element mem_cons_self
  rcases elementHeader_fields _ proper.inRange with ⟨sameId, two, notLast, -⟩
  have bytes : element.bytes = RTPSender.threeByteElement element.shape.id element.value := by
    rw [BlockElement.bytes]
    rcases carries with type | type <;> rw [type]
  have length : element.bytes.length = 4 := by
    rw [bytes]
    rfl
  have read : (element.bytes ++ (List.replicate element.shape.padding 0 ++
      (blockBytes rest ++ back))).uint24At 1 = some (low24 element.value) := by
    rw [bytes]
    exact congrArg some (uint24_join element.value)
  have first : (element.bytes ++ (List.replicate element.shape.padding 0 ++
      (blockBytes rest ++ back))).byteAt 0 = some ((element.shape.id <<< 4) + 2) := by
    rw [bytes]
    rfl
  apply parseBlock_cons (fun other member => registered other (mem_cons_of_mem element member))
    first
  · omega
  · rw [parseElement, sameId, two, if_neg notLast, proper.1, read, length, BlockElement.record]
    rcases carries with type | type <;> rw [type] <;> rfl

theorem parseBlock_level (registered : element.Registered map)
    (level : element.shape.type = .audioLevel) (nonzero : element.value.toUInt8 ≠ 0) :
    ∃ data extensionEnd, 1 < extensionEnd ∧ Bytes.byteAt data 1 = some element.value.toUInt8 ∧
      ∀ extension, parseBlock map (element :: rest) back extension =
        parseOneByteExtensionHeader data (some map) extensionEnd 1 extension := by
  rcases levelHeader_fields _ registered.inRange with ⟨sameId, -⟩
  rcases elementHeader_fields _ registered.inRange with ⟨-, -, notLast, -⟩
  have bytes : blockBytes (element :: rest) = element.shape.id <<< 4 :: element.value.toUInt8 ::
      (List.replicate element.shape.padding 0 ++ blockBytes rest) := by
    rw [blockBytes, flatMap_cons, BlockElement.padded, BlockElement.bytes, level]
    rfl
  refine ⟨blockBytes (element :: rest) ++ back, (blockBytes (element :: rest)).length, ?_, ?_, ?_⟩
  · rw [bytes]
    simp
  · rw [bytes]
    rfl
  · intro extension
    have first : (blockBytes (element :: rest) ++ back).byteAt 0 =
        some (element.shape.id <<< 4) := by
      rw [bytes]
      rfl
    have noPadding : parsePaddingBytes (blockBytes (element :: rest) ++ back)
        (blockBytes (element :: rest)).length 1 = some 0 := by
      have second : (blockBytes (element :: rest) ++ back).byteAt 1 =
          some element.value.toUInt8 := by
        rw [bytes]
        rfl
      rw [parsePaddingBytes, bytes, length_cons, length_cons, Nat.add_sub_cancel,
        countPaddingBytes, ← bytes, second]
      exact if_pos nonzero
    have parsed : parseElement (blockBytes (element :: rest) ++ back) map (element.shape.id <<< 4)
        (0 + 1) extension = some (some 1, extension) := by
      rw [parseElement, sameId, if_neg notLast, registered.1, level]
    exact parseOneByteExtensionHeader_step (by rw [bytes]; simp) first parsed (Nat.le_refl 1)
      noPadding

theorem parseBlock_level_last (registered : element.Registered map)
    (level : element.shape.type = .audioLevel) (value : element.value = 0xF0) :
    parseBlock map (element :: rest) back extension = some extension := by
  rcases parseBlock_level registered level (by rw [value]; decide) with
    ⟨data, extensionEnd, inside, byteAt, walk⟩
  rw [walk]
  apply parseOneByteExtensionHeader_last inside byteAt
  rw [value, elementValueLength]
  exact if_pos (by decide)

theorem parseBlock_level_value {id : UInt8} {type : RTPExtensionType}
    (registered : element.Registered map) (level : element.shape.type = .audioLevel)
    (other : map.getType id = some type) (carries : type.Carries)
    (value : element.value.toUInt8 = (id <<< 4) + 2) {first second : RTPHeaderExtension}
    (others : ∀ kept ≠ type, first.valueOf kept = second.valueOf kept) :
    parseBlock map (element :: rest) back first = parseBlock map (element :: rest) back second := by
  have inRange := RtpHeaderExtensionMap.mem_headerExtensionIds.mpr
    (RtpHeaderExtensionMap.idInRange_of_getType other)
  rcases elementHeader_fields id inRange with ⟨sameId, two, notLast, nonzero⟩
  rcases parseBlock_level registered level (by rw [value]; exact nonzero) with
    ⟨data, extensionEnd, inside, byteAt, walk⟩
  rw [walk, walk, parseOneByteExtensionHeader_unfold inside byteAt,
    parseOneByteExtensionHeader_unfold inside byteAt, value]
  congr 1
  rw [parseElement, parseElement, sameId, two, if_neg notLast, if_neg notLast, other]
  rcases carries with rfl | rfl
  · have sendTime : first.absoluteSendTime = second.absoluteSendTime :=
      others .absoluteSendTime (by decide)
    simp only [sendTime, ne_eq, not_true_eq_false, if_false]
  · have offset : first.transmissionTimeOffset = second.transmissionTimeOffset :=
      others .transmissionTimeOffset (by decide)
    simp only [offset, ne_eq, not_true_eq_false, if_false]

theorem foldl_record_of_noValues (noValues : ∀ element ∈ elements, ¬ element.shape.type.Carries) :
    elements.foldl BlockElement.record extension = extension := by
  induction elements with
  | nil => rfl
  | cons element rest induction =>
    have unchanged : element.record extension = extension := by
      have notCarried := noValues element mem_cons_self
      rw [BlockElement.record]
      cases type : element.shape.type with
      | none | audioLevel => rfl
      | transmissionTimeOffset => exact absurd (.inl type) notCarried
      | absoluteSendTime => exact absurd (.inr type) notCarried
    rw [foldl_cons, unchanged]
    exact induction fun other member => noValues other (mem_cons_of_mem element member)

end Block

section Values

variable {type : RTPExtensionType}

theorem valueOf_record_other {extension : RTPHeaderExtension} {element : BlockElement}
    (other : element.shape.type ≠ type) :
    (element.record extension).valueOf type = extension.valueOf type := by
  rw [BlockElement.record]
  cases elementType : element.shape.type <;> cases type <;>
    first | rfl | exact absurd elementType other

theorem valueOf_record_one {extension : RTPHeaderExtension} {element : BlockElement}
    (carries : type.Carries) (own : element.shape.type = type) (one : element.value = 1) :
    (element.record extension).valueOf type = 1 := by
  rw [BlockElement.record, own, one]
  rcases carries with rfl | rfl <;> rfl

theorem valueOf_foldl_other {elements : List BlockElement}
    (others : ∀ element ∈ elements, element.shape.type ≠ type) :
    ∀ extension, (elements.foldl BlockElement.record extension).valueOf type =
      extension.valueOf type := by
  induction elements with
  | nil => exact fun _ => rfl
  | cons element rest induction =>
    intro extension
    rw [foldl_cons, induction fun other member => others other
      (mem_cons_of_mem element member), valueOf_record_other
      (others element mem_cons_self)]

theorem valueOf_foldl_one {elements : List BlockElement} (carries : type.Carries)
    (ones : ∀ element ∈ elements, element.value = 1)
    (some : ∃ element ∈ elements, element.shape.type = type) :
    ∀ extension, (elements.foldl BlockElement.record extension).valueOf type = 1 := by
  induction elements with
  | nil =>
    rcases some with ⟨element, member, -⟩
    cases member
  | cons element rest induction =>
    intro extension
    rw [foldl_cons]
    by_cases later : ∃ element ∈ rest, element.shape.type = type
    · exact induction (fun other member => ones other (mem_cons_of_mem element member)) later
        _
    · push Not at later
      rw [valueOf_foldl_other later]
      rcases some with ⟨found, member, own⟩
      rcases mem_cons.mp member with rfl | inRest
      · exact valueOf_record_one carries own (ones found mem_cons_self)
      · exact absurd own (later found inRest)

end Values

/-! ## Which blocks are parsed right -/

section Extractable

variable {map : RtpHeaderExtensionMap}

theorem parseBlock_of_extractable {elements : List BlockElement} {back : Bytes}
    (registered : ∀ element ∈ elements, element.Registered map)
    (extractable : Extractable map (elements.map BlockElement.shape)) :
    ∀ extension, parseBlock map elements back extension =
      some (elements.foldl BlockElement.record extension) := by
  induction elements with
  | nil => exact fun _ => rfl
  | cons element rest induction =>
    intro extension
    have later : ∀ other ∈ rest, other.Registered map :=
      fun other member => registered other (mem_cons_of_mem element member)
    have proper := registered element mem_cons_self
    rw [map_cons, Extractable] at extractable
    by_cases level : element.shape.type = .audioLevel
    · rw [if_pos level] at extractable
      rw [foldl_record_of_noValues fun other member carries =>
        extractable ⟨_, _, (registered other member).1, carries⟩]
      exact parseOneByteElements_noValues extractable (by simp) _ _
    · have carries : element.shape.type.Carries := by
        cases type : element.shape.type with
        | none => exact absurd type proper.2
        | audioLevel => exact absurd type level
        | transmissionTimeOffset => exact .inl rfl
        | absoluteSendTime => exact .inr rfl
      rw [if_neg level] at extractable
      rw [parseBlock_value registered carries, foldl_cons]
      by_cases small : element.shape.padding < 256
      · rw [if_pos small] at extractable ⊢
        exact induction later extractable _
      · rw [if_neg small] at extractable ⊢
        rw [foldl_record_of_noValues fun other member =>
          extractable other.shape (List.mem_map_of_mem member)]

/-- All values are one. -/
def onesOf (shapes : List ElementShape) : List BlockElement :=
  shapes.map fun shape => { shape, value := 1 }

theorem onesOf_shapes (shapes : List ElementShape) :
    (onesOf shapes).map BlockElement.shape = shapes := by
  rw [onesOf, List.map_map]
  exact List.map_id shapes

theorem value_of_mem_onesOf {shapes : List ElementShape} :
    ∀ element ∈ onesOf shapes, element.value = 1 := by
  intro element member
  rcases List.mem_map.mp member with ⟨shape, -, rfl⟩
  rfl

theorem exists_mem_onesOf {shapes : List ElementShape} {shape : ElementShape}
    (member : shape ∈ shapes) : ∃ element ∈ onesOf shapes, element.shape.type = shape.type :=
  ⟨{ shape, value := 1 }, List.mem_map_of_mem member, rfl⟩

/-- The values the parser could have come to before. -/
def recorded (offset sendTime : UInt32) : RTPHeaderExtension where
  transmissionTimeOffset := signExtend24 (low24 offset)
  absoluteSendTime := low24 sendTime

theorem exists_record_recorded {shape : ElementShape} (carries : shape.type.Carries)
    (offset sendTime : UInt32) : ∃ value,
      BlockElement.record (recorded offset sendTime) { shape, value } =
        recorded offset sendTime := by
  rcases carries with type | type
  · refine ⟨offset, ?_⟩
    simp only [BlockElement.record, type, recorded]
  · refine ⟨sendTime, ?_⟩
    simp only [BlockElement.record, type, recorded]

theorem exists_recorded_different {type : RTPExtensionType} (carries : type.Carries) :
    ∃ offset sendTime, (recorded offset sendTime).valueOf type ≠ (recorded 0 0).valueOf type ∧
      ∀ kept ≠ type, (recorded offset sendTime).valueOf kept = (recorded 0 0).valueOf kept := by
  rcases carries with rfl | rfl
  · refine ⟨1, 0, by decide, fun kept other => ?_⟩
    cases kept <;> first | rfl | exact absurd rfl other
  · refine ⟨0, 1, by decide, fun kept other => ?_⟩
    cases kept <;> first | rfl | exact absurd rfl other

theorem recorded_zero_ne_one (type : RTPExtensionType) : (recorded 0 0).valueOf type ≠ 1 := by
  cases type <;> decide

theorem extractable_of_parseBlock (shapes : List ElementShape)
    (registered : ∀ shape ∈ shapes, map.getType shape.id = some shape.type ∧ shape.type ≠ .none) :
    (∀ elements offset sendTime, elements.map BlockElement.shape = shapes →
      parseBlock map elements [] (recorded offset sendTime) =
        some (elements.foldl BlockElement.record (recorded offset sendTime))) →
      Extractable map shapes := by
  induction shapes with
  | nil => exact fun _ => trivial
  | cons shape rest induction =>
    intro extracted
    have proper : ∀ value, BlockElement.Registered map { shape, value } :=
      fun _ => registered shape mem_cons_self
    have later := fun other member => registered other (mem_cons_of_mem shape member)
    have registeredOf : ∀ elements : List BlockElement,
        elements.map BlockElement.shape = shape :: rest →
          ∀ element ∈ elements, element.Registered map :=
      fun elements same element member =>
        registered element.shape (same ▸ List.mem_map_of_mem member)
    have extractedOnes := fun value offset sendTime =>
      extracted ({ shape, value } :: onesOf rest) offset sendTime
        (by rw [map_cons, onesOf_shapes])
    rw [Extractable]
    split
    · rename_i level
      rintro ⟨id, type, other, carries⟩
      by_cases more : ∃ found ∈ rest, found.type = type
      · -- The walk ends at the level byte, and the value of the type is lost.
        rcases more with ⟨found, member, own⟩
        have stopped := extractedOnes 0xF0 0 0
        rw [parseBlock_level_last (proper _) level rfl] at stopped
        have values := congrArg (fun extension => RTPHeaderExtension.valueOf extension type)
          (Option.some.inj stopped)
        simp only [foldl_cons, valueOf_foldl_one carries value_of_mem_onesOf
          (own ▸ exists_mem_onesOf member)] at values
        exact recorded_zero_ne_one type values
      · -- The walk takes the level byte for a header, and what it had of the type is lost.
        push Not at more
        rcases exists_recorded_different carries with ⟨offset, sendTime, different, kept⟩
        rcases show ∃ value : UInt32, value.toUInt8 = (id <<< 4) + 2 from
          ⟨_, UInt8.toUInt8_toUInt32 _⟩ with ⟨value, header⟩
        have first := extractedOnes value offset sendTime
        have second := extractedOnes value 0 0
        rw [parseBlock_level_value (proper _) level other carries header kept, second] at first
        have others : ∀ element ∈ { shape, value } :: onesOf rest, element.shape.type ≠ type := by
          intro element member
          rcases mem_cons.mp member with rfl | inRest
          · rw [level]
            rcases carries with rfl | rfl <;> exact fun same => by cases same
          · rcases List.mem_map.mp inRest with ⟨found, foundIn, rfl⟩
            exact more found foundIn
        have values := congrArg (fun extension => RTPHeaderExtension.valueOf extension type)
          (Option.some.inj first)
        simp only [valueOf_foldl_other others] at values
        exact different values.symm
    · rename_i notLevel
      have carries : shape.type.Carries := by
        cases type : shape.type with
        | none => exact absurd type (proper 0).2
        | audioLevel => exact absurd type notLevel
        | transmissionTimeOffset => exact .inl rfl
        | absoluteSendTime => exact .inr rfl
      split
      · rename_i small
        apply induction later
        intro elements offset sendTime same
        rcases exists_record_recorded carries offset sendTime with ⟨value, recordedSame⟩
        have whole := extracted ({ shape, value } :: elements) offset sendTime
          (by rw [map_cons, same])
        rw [parseBlock_value (registeredOf _ (by rw [map_cons, same])) carries,
          if_pos small, foldl_cons, recordedSame] at whole
        exact whole
      · -- The walk ends in the padding, and all later values are lost.
        rename_i large
        intro other member otherCarries
        rcases exists_record_recorded carries 0 0 with ⟨value, recordedSame⟩
        have stopped := extractedOnes value 0 0
        rw [parseBlock_value (registeredOf _ (by rw [map_cons, onesOf_shapes])) carries,
          if_neg large, foldl_cons, recordedSame] at stopped
        have values := congrArg
          (fun extension => RTPHeaderExtension.valueOf extension other.type)
          (Option.some.inj stopped)
        simp only [valueOf_foldl_one otherCarries value_of_mem_onesOf (exists_mem_onesOf member)]
          at values
        exact recorded_zero_ne_one other.type values

/-- The values of a block are taken up, whatever they are, exactly when no value stands behind
leading padding or behind 256 padding bytes, and no audio level stands in between unless only audio
levels are registered. -/
theorem BlockShape.extracted_iff (shape : BlockShape map) :
    shape.Extracted ↔ if shape.leadingPadding = 0 then Extractable map shape.elements
      else ∀ other ∈ shape.elements, ¬ other.type.Carries := by
  have registeredOf : ∀ elements : List BlockElement,
      elements.map BlockElement.shape = shape.elements → ∀ element ∈ elements,
        element.Registered map := by
    intro elements same element member
    have shapeMember : element.shape ∈ shape.elements := same ▸ List.mem_map_of_mem member
    exact ⟨shape.registered _ shapeMember, shape.implemented _ shapeMember⟩
  have walk := fun (elements : List BlockElement) (front back : Bytes)
      (extension : RTPHeaderExtension) =>
    parseOneByteExtensionHeader_append front
      (List.replicate shape.leadingPadding 0 ++ blockBytes elements ++ back)
      (List.replicate shape.leadingPadding 0 ++ blockBytes elements).length 0 map extension
  rw [Extracted]
  simp only [Nat.add_zero] at walk
  simp only [walk]
  by_cases leading : shape.leadingPadding = 0
  · rw [if_pos leading]
    simp only [leading, replicate_zero, nil_append]
    constructor
    · intro extracted
      exact extractable_of_parseBlock shape.elements
        (fun other member => ⟨shape.registered other member, shape.implemented other member⟩)
        fun elements offset sendTime same => extracted elements [] [] _ same
    · intro extractable elements front back extension same
      exact parseBlock_of_extractable (registeredOf elements same) (same ▸ extractable) extension
  · rw [if_neg leading]
    have ended : ∀ elements back extension, parseOneByteExtensionHeader
        (List.replicate shape.leadingPadding 0 ++ blockBytes elements ++ back) (some map)
        (List.replicate shape.leadingPadding 0 ++ blockBytes elements).length 0 extension =
          some extension := by
      intro elements back extension
      rw [append_assoc]
      refine parseOneByteExtensionHeader_last ?_
        (byteAt_replicate_append (by omega) (blockBytes elements ++ back)) elementValueLength_zero
      rw [length_append, length_replicate]
      omega
    simp only [ended]
    constructor
    · intro extracted other member carries
      have stopped := extracted (onesOf shape.elements) [] [] (recorded 0 0) (onesOf_shapes _)
      have values := congrArg (fun extension => RTPHeaderExtension.valueOf extension other.type)
        (Option.some.inj stopped)
      simp only [valueOf_foldl_one carries value_of_mem_onesOf (exists_mem_onesOf member)]
        at values
      exact recorded_zero_ne_one other.type values
    · intro noValues elements front back extension same
      rw [foldl_record_of_noValues fun element member =>
        noValues element.shape (same ▸ List.mem_map_of_mem member)]

end Extractable

def levelAndOffsetMap : RtpHeaderExtensionMap :=
  ((RtpHeaderExtensionMap.empty.register .audioLevel 1).2.register .transmissionTimeOffset 2).2

/-- An audio level with two padding bytes, and a time offset. -/
def levelThenOffset : BlockShape levelAndOffsetMap where
  leadingPadding := 0
  elements := [⟨1, .audioLevel, 2⟩, ⟨2, .transmissionTimeOffset, 0⟩]
  registered := by decide
  implemented := by decide

/-- The level 127 is taken for an element with the identifier 7. -/
theorem not_extracted_levelThenOffset : ¬ levelThenOffset.Extracted := by
  intro extracted
  have lost := extracted [⟨⟨1, .audioLevel, 2⟩, 127⟩, ⟨⟨2, .transmissionTimeOffset, 0⟩, 5⟩] [] []
    ⟨0, 0⟩ rfl
  exact absurd lost (by decide)

end ZyWebRtc.Rtp
