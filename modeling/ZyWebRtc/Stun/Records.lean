import ZyWebRtc.Stun.Codec

namespace ZyWebRtc.Stun

/-! The type-length-value records of a message, and when the attributes that `Read` returns
are those records with the unknown types left out.

Nothing here but `RespectsBoundaries` mentions `Read`: the records are a view of the bytes of
their own, in which every record takes its declared length and is padded to whole words. -/

open List Option ByteBuffer Bytes

@[ext] structure Record where
  type : UInt16
  value : Bytes
  padding : Bytes
  short : value.length < 2 ^ 16
  padded : padding.length = paddedLength value.length - value.length

namespace Record

def declared (record : Record) : UInt16 := UInt16.ofNat record.value.length

theorem declared_toNat (record : Record) : record.declared.toNat = record.value.length :=
  UInt16.toNat_ofNat_of_lt' record.short

def bytes (record : Record) : Bytes :=
  uint16Bytes record.type ++ (uint16Bytes record.declared ++ (record.value ++ record.padding))

theorem uint16Bytes_inj {left right : UInt16} (same : uint16Bytes left = uint16Bytes right) :
    left = right := by
  have back := readUInt16_append left []
  rw [same, readUInt16_append] at back
  exact (Prod.mk.inj (Option.some.inj back)).1.symm

theorem bytes_append_inj {record other : Record} {rest otherRest : Bytes}
    (same : record.bytes ++ rest = other.bytes ++ otherRest) :
    record = other ∧ rest = otherRest := by
  simp only [bytes, append_assoc] at same
  rcases append_inj same rfl with ⟨sameType, same⟩
  rcases append_inj same rfl with ⟨sameLength, same⟩
  have lengths : record.value.length = other.value.length := by
    rw [← record.declared_toNat, ← other.declared_toNat, uint16Bytes_inj sameLength]
  rcases append_inj same lengths with ⟨sameValue, same⟩
  rcases append_inj same (by rw [record.padded, other.padded, lengths]) with
    ⟨samePadding, same⟩
  exact ⟨Record.ext (uint16Bytes_inj sameType) sameValue samePadding, same⟩

/-- The bytes are the records, one after the other. -/
def Splits (records : List Record) (body : Bytes) : Prop := body = records.flatMap bytes

theorem bytes_ne_nil (record : Record) : record.bytes ≠ [] := by
  simp [bytes, uint16Bytes]

theorem Splits.unique : ∀ {records others : List Record} {body : Bytes},
    Splits records body → Splits others body → records = others := by
  intro records
  induction records with
  | nil =>
    intro others body split otherSplit
    cases others with
    | nil => rfl
    | cons other others =>
      rw [Splits, split] at otherSplit
      have empty : other.bytes ++ others.flatMap bytes = [] := otherSplit.symm
      exact absurd (append_eq_nil_iff.mp empty).1 other.bytes_ne_nil
  | cons record records induction =>
    intro others body split otherSplit
    cases others with
    | nil =>
      rw [Splits, otherSplit] at split
      have empty : record.bytes ++ records.flatMap bytes = [] := split.symm
      exact absurd (append_eq_nil_iff.mp empty).1 record.bytes_ne_nil
    | cons other others =>
      have same : record.bytes ++ records.flatMap bytes =
          other.bytes ++ others.flatMap bytes := split.symm.trans otherSplit
      rcases bytes_append_inj same with ⟨rfl, rest⟩
      have otherRest : Splits others (others.flatMap bytes) := rfl
      rw [induction rest.symm otherRest]

section Meaning

variable (messageClass : MessageClass) (transactionId : Bytes)

def valueType (record : Record) : StunAttributeValueType :=
  messageClass.getAttributeValueType record.type

/-- The lengths that a kind of value can have. -/
def LegalLength (valueType : StunAttributeValueType) (length : Nat) : Prop :=
  match valueType with
  | .unknown => True
  | .address | .xorAddress => length = 8 ∨ length = 20
  | .uint32 => length = 4
  | .uint64 => length = 8
  | .byteString => True
  | .errorCode => 4 ≤ length
  | .uint16List => length % 2 = 0

/-- The attribute of a record of a known type, read from the bytes of its value alone under
their true length; `none` where they are not a value of the kind. -/
def toAttribute (record : Record) : Option StunAttribute :=
  (readValue transactionId (record.valueType messageClass) record.declared record.value).map
    fun (value, _) => { type := record.type, value }

def toAttributes (records : List Record) : Option (List StunAttribute) :=
  (records.filter fun record => record.valueType messageClass ≠ .unknown).mapM
    (toAttribute messageClass transactionId)

end Meaning

/-! ## Reading along the records -/

section Reading

variable {messageClass : MessageClass} {transactionId : Bytes}

theorem legalLength_of_readValue {valueType : StunAttributeValueType} {length : UInt16}
    {buffer rest : Bytes} {value : StunValue}
    (read : readValue transactionId valueType length buffer = some (value, rest)) :
    LegalLength valueType length.toNat := by
  cases valueType with
  | unknown => trivial
  | address =>
    simp only [readValue, bind_eq_bind, bind_eq_some_iff, Prod.exists] at read
    rcases read with ⟨ip, port, after, taken, _⟩
    rcases readAddress_eq_some.mp taken with ⟨_, _, written, rfl, _⟩
    cases ip with
    | unspec => cases written
    | ipv4 address => exact Or.inl rfl
    | ipv6 address => exact Or.inr rfl
  | xorAddress =>
    simp only [readValue, bind_eq_bind, bind_eq_some_iff, Prod.exists] at read
    rcases read with ⟨ip, port, after, taken, _⟩
    rcases readAddress_eq_some.mp taken with ⟨_, _, written, rfl, _⟩
    cases ip with
    | unspec => cases written
    | ipv4 address => exact Or.inl rfl
    | ipv6 address => exact Or.inr rfl
  | uint32 =>
    by_cases isFour : length = 4
    · rw [isFour]
      rfl
    · simp [readValue, isFour] at read
  | uint64 =>
    by_cases isEight : length = 8
    · rw [isEight]
      rfl
    · simp [readValue, isEight] at read
  | byteString => trivial
  | errorCode =>
    by_cases tooShort : length < 4
    · simp [readValue, tooShort] at read
    · exact UInt16.le_iff_toNat_le.mp (UInt16.not_lt.mp tooShort)
  | uint16List =>
    by_cases isOdd : length.toNat % 2 ≠ 0
    · simp [readValue, isOdd] at read
    · exact not_not.mp isOdd

theorem legalLength_of_toAttribute {record : Record} {attr : StunAttribute}
    (read : record.toAttribute messageClass transactionId = some attr) :
    LegalLength (record.valueType messageClass) record.value.length := by
  rw [toAttribute, map_eq_some_iff] at read
  rcases read with ⟨⟨value, rest⟩, read, _⟩
  rw [← record.declared_toNat]
  exact legalLength_of_readValue read

/-- The fixed sizes are the declared lengths of the records of these kinds. -/
def FixedSizesDeclared (messageClass : MessageClass) (record : Record) : Prop :=
  (record.valueType messageClass = .uint32 → record.value.length = 4) ∧
    (record.valueType messageClass = .uint64 → record.value.length = 8)

theorem FixedSizesDeclared.createdLength {record : Record}
    (declared : record.FixedSizesDeclared messageClass) :
    createdLength (record.valueType messageClass) record.declared = record.declared := by
  have length := record.declared_toNat
  unfold Stun.createdLength
  split
  · rename_i isUInt32
    rw [declared.1 isUInt32] at length
    exact UInt16.toNat_inj.mp length.symm
  · rename_i isUInt64
    rw [declared.2 isUInt64] at length
    exact UInt16.toNat_inj.mp length.symm
  · rfl

theorem consumePadding_record (record : Record) (rest : Bytes) :
    consumePadding record.declared (record.padding ++ rest) = rest := by
  have padded := record.padded
  have length := record.declared_toNat
  unfold paddedLength at padded
  unfold consumePadding
  rw [length]
  split at padded
  · rw [if_pos (by omega), consume_eq_some.mpr ⟨record.padding, rfl, by omega⟩, getD_some]
  · have none : record.padding = [] := eq_nil_of_length_eq_zero (by omega)
    rw [if_neg (by omega), none, nil_append]

theorem skippedLength_toNat {length : UInt16} (small : paddedLength length.toNat < 2 ^ 16) :
    (skippedLength length).toNat = paddedLength length.toNat := by
  have bound := length.toNat_lt
  have remainder : (length % 4).toNat = length.toNat % 4 := UInt16.toNat_mod length 4
  have aligned : length % 4 = 0 ↔ length.toNat % 4 = 0 := by
    rw [← UInt16.toNat_inj, remainder]
    rfl
  unfold skippedLength paddedLength at *
  by_cases whole : length.toNat % 4 = 0
  · simp [aligned.mpr whole, whole]
  · have fill : (4 - length % 4).toNat = 4 - length.toNat % 4 := by
      rw [UInt16.toNat_sub_of_le _ _ (UInt16.le_iff_toNat_le.mpr (by rw [remainder]; simp; omega)),
        remainder]
      rfl
    have different : length % 4 ≠ 0 := fun zero => whole (aligned.mp zero)
    simp only [ne_eq, whole, not_false_eq_true, if_true] at small
    rw [if_pos different, if_pos whole, UInt16.toNat_add, fill, Nat.mod_eq_of_lt small]

/-- One round of the loop on a record whose length is its own: the record is its attribute, or
is left out when its type is unknown, and the rest is what stands behind it. -/
theorem readAttribute_record {record : Record} {tail rest : Bytes} {attr : Option StunAttribute}
    (declared : record.FixedSizesDeclared messageClass)
    (small : paddedLength record.value.length < 2 ^ 16)
    (read : readAttribute messageClass transactionId (record.bytes ++ tail) = some (attr, rest)) :
    rest = tail ∧ ((record.valueType messageClass = .unknown ∧ attr = none) ∨
        (record.valueType messageClass ≠ .unknown ∧ ∃ found, attr = some found ∧
            record.toAttribute messageClass transactionId = some found)) := by
  simp only [readAttribute, bytes, append_assoc, readUInt16_append, bind_eq_bind, bind_some] at read
  by_cases unknown : messageClass.getAttributeValueType record.type = .unknown
  · rw [if_pos unknown, bind_eq_some_iff] at read
    rcases read with ⟨after, consumed, taken⟩
    cases taken
    rcases consume_eq_some.mp consumed with ⟨skipped, split, skippedSize⟩
    rw [skippedLength_toNat (by rw [record.declared_toNat]; exact small),
      record.declared_toNat] at skippedSize
    have padded := record.padded
    have atLeast := le_paddedLength record.value.length
    rw [← append_assoc] at split
    have sizes : (record.value ++ record.padding).length = skipped.length := by
      rw [length_append, skippedSize, padded]
      omega
    exact ⟨(append_inj split sizes).2.symm, Or.inl ⟨unknown, rfl⟩⟩
  · rw [if_neg unknown, bind_eq_some_iff] at read
    rcases read with ⟨⟨value, after⟩, taken, built⟩
    cases built
    have created := declared.createdLength
    rw [valueType] at created
    rw [created] at taken
    rcases readValue_body taken with ⟨body, behind, split, size, rfl, again⟩
    rw [record.declared_toNat] at size
    rcases append_inj split size.symm with ⟨rfl, rfl⟩
    refine ⟨consumePadding_record record tail, Or.inr ⟨unknown, _, rfl, ?_⟩⟩
    rw [toAttribute, valueType, again]
    rfl

theorem padded_lt_of_mem {records : List Record} {record : Record} (member : record ∈ records)
    (short : (records.flatMap bytes).length < 2 ^ 16) :
    paddedLength record.value.length < 2 ^ 16 := by
  have inside : record.bytes.length ≤ (records.flatMap bytes).length := by
    rcases append_of_mem member with ⟨front, back, rfl⟩
    simp
    omega
  have padded := record.padded
  have atLeast := le_paddedLength record.value.length
  simp only [bytes, length_append, uint16Bytes_length, padded] at inside
  omega

theorem readAttributes_records : ∀ {records : List Record} {attrs : List StunAttribute}
    {rest : Bytes}, (∀ record ∈ records, record.FixedSizesDeclared messageClass) →
    (records.flatMap bytes).length < 2 ^ 16 →
    readAttributes messageClass transactionId (records.flatMap bytes) = some (attrs, rest) →
    rest = [] ∧ toAttributes messageClass transactionId records = some attrs := by
  intro records
  induction records with
  | nil =>
    intro attrs rest _ _ read
    rw [flatMap_nil, readAttributes, length_nil] at read
    cases read
    exact ⟨rfl, rfl⟩
  | cons record records induction =>
    intro attrs rest declared short read
    have small := padded_lt_of_mem mem_cons_self short
    have notEmpty : ¬((record :: records).flatMap bytes).length = 0 := by
      simp [bytes]
    rw [readAttributes, if_neg notEmpty] at read
    split at read
    · cases read
    · rename_i attr after taken
      rw [flatMap_cons] at taken short
      rcases readAttribute_record (declared record mem_cons_self) small taken with ⟨rfl, found⟩
      rw [map_eq_some_iff] at read
      rcases read with ⟨⟨tailAttrs, last⟩, tailRead, built⟩
      cases built
      rw [length_append] at short
      rcases induction (fun other member => declared other (mem_cons_of_mem _ member))
        (by omega) tailRead with ⟨rfl, tailFound⟩
      refine ⟨rfl, ?_⟩
      rw [toAttributes] at tailFound ⊢
      rcases found with ⟨unknown, rfl⟩ | ⟨known, _, rfl, headFound⟩
      · rw [filter_cons_of_neg (by simp [unknown]), tailFound]
        rfl
      · rw [filter_cons_of_pos (by simp [known]), mapM_cons, headFound, tailFound]
        rfl

theorem exists_of_mapM {α β : Type} {f : α → Option β} : ∀ {list : List α} {images : List β},
    list.mapM f = some images → ∀ entry ∈ list, ∃ image, f entry = some image := by
  intro list
  induction list with
  | nil => exact fun _ _ member => absurd member (by simp)
  | cons head tail induction =>
    intro images mapped entry member
    simp only [mapM_cons, bind_eq_bind, bind_eq_some_iff] at mapped
    rcases mapped with ⟨image, headMapped, others, tailMapped, _⟩
    rcases mem_cons.mp member with rfl | member
    · exact ⟨image, headMapped⟩
    · exact induction tailMapped entry member

variable {records : List Record} {attrs : List StunAttribute}
  (found : toAttributes messageClass transactionId records = some attrs) {record : Record}
  (member : record ∈ records)

include found member

theorem toAttribute_of_toAttributes (known : record.valueType messageClass ≠ .unknown) :
    ∃ attr, record.toAttribute messageClass transactionId = some attr :=
  exists_of_mapM found record (by simp [member, known])

theorem FixedSizesDeclared.of_toAttributes : record.FixedSizesDeclared messageClass := by
  constructor
  · intro isUInt32
    rcases toAttribute_of_toAttributes found member (by rw [isUInt32]; simp) with ⟨attr, read⟩
    have legal := legalLength_of_toAttribute read
    rwa [isUInt32] at legal
  · intro isUInt64
    rcases toAttribute_of_toAttributes found member (by rw [isUInt64]; simp) with ⟨attr, read⟩
    have legal := legalLength_of_toAttribute read
    rwa [isUInt64] at legal

end Reading

end Record

/-! ## Messages -/

def body (data : Bytes) : Bytes := data.drop kStunHeaderSize

theorem StunMessage.read_eq_some {messageClass : MessageClass} {data rest : Bytes}
    {message : StunMessage} (accepted : StunMessage.read messageClass data = some (message, rest)) :
    (body data).length < 2 ^ 16 ∧ readAttributes messageClass message.transactionId (body data) =
        some (message.attrs, rest) := by
  simp only [StunMessage.read, bind_eq_bind, bind_eq_some_iff, Prod.exists,
    readUInt16_eq_some] at accepted
  rcases accepted with ⟨type, _, rfl, accepted⟩
  by_cases topBit : type &&& 0x8000 ≠ 0
  · simp [topBit] at accepted
  · simp only [topBit, if_false, bind_eq_some_iff, Prod.exists, readUInt16_eq_some,
      readBytes_eq_some] at accepted
    rcases accepted with ⟨length, _, rfl, cookie, _, ⟨rfl, cookieLength⟩, id, behind,
      ⟨rfl, idLength⟩, accepted⟩
    have split : body (uint16Bytes type ++ (uint16Bytes length ++ (cookie ++ (id ++ behind)))) =
        behind := by
      rw [body, ← append_assoc, ← append_assoc, ← append_assoc]
      exact drop_left' (by simp [cookieLength, idLength]; rfl)
    by_cases wrongLength : length.toNat ≠ behind.length
    · simp [wrongLength] at accepted
    · simp only [wrongLength, if_false, bind_eq_some_iff, Prod.exists, Option.pure_def,
        Option.some.injEq, Prod.mk.injEq] at accepted
      rcases accepted with ⟨attrs, last, read, rfl, rfl⟩
      have bound := length.toNat_lt
      rw [split]
      exact ⟨by omega, read⟩

/-- Reading respects the declared boundaries: the attributes of an accepted message are those
of its records, and a record of a known type with a length that its kind cannot have makes
`Read` return false. -/
structure RespectsBoundaries (messageClass : MessageClass) (data : Bytes) : Prop where
  follows : ∀ message rest, StunMessage.read messageClass data = some (message, rest) →
    rest = [] ∧ ∃ records, Record.Splits records (body data) ∧
      Record.toAttributes messageClass message.transactionId records = some message.attrs
  rejects : ∀ records, Record.Splits records (body data) →
    (∃ record ∈ records, record.valueType messageClass ≠ .unknown ∧
      ¬Record.LegalLength (record.valueType messageClass) record.value.length) →
    StunMessage.read messageClass data = none

/-- The message is whole records, the last one with its padding, and the records of the kinds
of a fixed size declare that size. -/
def WellDelimited (messageClass : MessageClass) (data : Bytes) : Prop :=
  ∃ records, Record.Splits records (body data) ∧
    ∀ record ∈ records, record.FixedSizesDeclared messageClass

theorem RespectsBoundaries.of_wellDelimited {messageClass : MessageClass} {data : Bytes}
    (delimited : WellDelimited messageClass data) : RespectsBoundaries messageClass data := by
  rcases delimited with ⟨records, split, declared⟩
  have follows : ∀ message rest, StunMessage.read messageClass data = some (message, rest) →
      rest = [] ∧ Record.toAttributes messageClass message.transactionId records =
        some message.attrs := by
    intro message rest accepted
    rcases StunMessage.read_eq_some accepted with ⟨short, read⟩
    rw [split] at short read
    exact Record.readAttributes_records declared short read
  constructor
  · intro message rest accepted
    exact ⟨(follows message rest accepted).1, records, split, (follows message rest accepted).2⟩
  · rintro others otherSplit ⟨record, member, known, illegal⟩
    cases read : StunMessage.read messageClass data with
    | none => rfl
    | some result =>
      rw [← split.unique otherSplit] at member
      rcases Record.toAttribute_of_toAttributes (follows result.1 result.2 read).2 member known
        with ⟨attr, found⟩
      exact absurd (Record.legalLength_of_toAttribute found) illegal

def longFingerprint : Bytes :=
  [0, 1, 0, 12, 0x21, 0x12, 0xA4, 0x42, 1, 2, 3, 4, 5, 6, 7, 8, 9, 10, 11, 12] ++
    [0x80, 0x28, 0, 8, 1, 2, 3, 4, 0x7F, 0xFF, 0, 0]

/-- `Read` takes four bytes for it and reads the other four as the next attribute. -/
theorem not_respectsBoundaries_longFingerprint :
    ¬RespectsBoundaries .stunMessage longFingerprint := by
  intro respects
  have accepted : (StunMessage.read .stunMessage longFingerprint).isSome = true := by
    decide +kernel
  have rejected := respects.rejects
    [⟨STUN_ATTR_FINGERPRINT, [1, 2, 3, 4, 0x7F, 0xFF, 0, 0], [], by decide, by decide⟩]
    (by unfold Record.Splits; decide) ⟨_, mem_cons_self, by decide, by
      change ¬8 = 4
      decide⟩
  rw [rejected] at accepted
  cases accepted

/-- An accepted message respects the declared boundaries exactly when it is well delimited. -/
theorem respectsBoundaries_iff_wellDelimited (messageClass : MessageClass) (data : Bytes)
    (message : StunMessage) (rest : Bytes)
    (accepted : StunMessage.read messageClass data = some (message, rest)) :
    RespectsBoundaries messageClass data ↔ WellDelimited messageClass data := by
  constructor
  · intro respects
    rcases respects.follows message rest accepted with ⟨_, records, split, found⟩
    exact ⟨records, split, fun record member => Record.FixedSizesDeclared.of_toAttributes found member⟩
  · exact RespectsBoundaries.of_wellDelimited

def shortUsername : Bytes :=
  [0, 1, 0, 8, 0x21, 0x12, 0xA4, 0x42, 1, 2, 3, 4, 5, 6, 7, 8, 9, 10, 11, 12] ++
    [0, 6, 0, 1, 65, 0, 0, 0]

theorem respectsBoundaries_shortUsername :
    RespectsBoundaries .stunMessage shortUsername := by
  apply (respectsBoundaries_iff_wellDelimited .stunMessage shortUsername
    { StunMessage.new .stunMessage 1 [1, 2, 3, 4, 5, 6, 7, 8, 9, 10, 11, 12] with
      length := 8, attrs := [⟨STUN_ATTR_USERNAME, .byteString [65]⟩] } [] (by decide +kernel)).mpr
  refine ⟨[⟨STUN_ATTR_USERNAME, [65], [0, 0, 0], by decide, by decide⟩], ?_, ?_⟩
  · unfold Record.Splits
    decide
  · intro record member
    rw [mem_singleton.mp member]
    constructor <;> intro kind <;> exact absurd kind (by decide)

end ZyWebRtc.Stun
