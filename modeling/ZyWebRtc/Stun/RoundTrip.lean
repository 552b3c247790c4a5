import ZyWebRtc.Stun.Codec

namespace ZyWebRtc.Stun

/-! Reading a written message gives the message back. Each kind of value is read back from its
own bytes in front of any others; the attributes of a message follow by induction, because
each one starts where the one before it ends. -/

open List Option ByteBuffer Bytes

theorem xor_cancel (value mask : UInt32) : value ^^^ mask ^^^ mask = value := by
  rw [UInt32.xor_assoc, UInt32.xor_self, UInt32.xor_zero]

theorem xoredPort_xoredPort (port : UInt16) : xoredPort (xoredPort port) = port := by
  rw [xoredPort, xoredPort, UInt16.xor_assoc, UInt16.xor_self, UInt16.xor_zero]

theorem getXoredIP_getXoredIP {transactionId : Bytes} (isNew : transactionId.length = 12)
    (ip : IPAddress) : getXoredIP transactionId (getXoredIP transactionId ip) = ip := by
  cases ip with
  | unspec => rfl
  | ipv4 address => simp only [getXoredIP, xor_cancel]
  | ipv6 address => simp only [getXoredIP, isNew, kStunTransactionIdLength, if_true, xor_cancel]

theorem addressLength_getXoredIP {transactionId : Bytes} (isNew : transactionId.length = 12)
    (ip : IPAddress) :
    StunValue.addressLength (getXoredIP transactionId ip) = StunValue.addressLength ip := by
  cases ip with
  | unspec => rfl
  | ipv4 address => rfl
  | ipv6 address => simp [getXoredIP, isNew, kStunTransactionIdLength, StunValue.addressLength]

theorem readAddress_write {ip : IPAddress} {port : UInt16} {written : Bytes}
    (isWritten : writeAddress port ip = some written) (rest : Bytes) :
    readAddress (StunValue.addressLength ip) (written ++ rest) = some ((ip, port), rest) := by
  cases ip with
  | unspec => cases isWritten
  | ipv4 address =>
    cases isWritten
    exact readAddress_eq_some.mpr ⟨0, _, rfl, rfl, rfl⟩
  | ipv6 address =>
    cases isWritten
    exact readAddress_eq_some.mpr ⟨0, _, rfl, rfl, rfl⟩

theorem errorWord_toNat (eclass number : UInt8) :
    ((eclass.toUInt32 <<< 8) ||| number.toUInt32).toNat = eclass.toNat * 256 + number.toNat := by
  have classBound := eclass.toNat_lt
  have numberBound : number.toNat < 2 ^ 8 := number.toNat_lt
  have shifted : (eclass.toUInt32 <<< 8).toNat = eclass.toNat <<< 8 := by
    simp [UInt32.toNat_shiftLeft, Nat.shiftLeft_eq]
    omega
  rw [UInt32.toNat_or, shifted, UInt8.toNat_toUInt32, ← Nat.shiftLeft_add_eq_or_of_lt numberBound,
    Nat.shiftLeft_eq]

theorem errorWord_class {eclass : UInt8} (number : UInt8) (inRange : eclass ≤ 7) :
    (((eclass.toUInt32 <<< 8) ||| number.toUInt32) >>> 8 &&& 0x7).toUInt8 = eclass := by
  have word := errorWord_toNat eclass number
  have numberBound := number.toNat_lt
  have classBound : eclass.toNat ≤ 7 := UInt8.le_iff_toNat_le.mp inRange
  apply UInt8.toNat_inj.mp
  rw [UInt32.toNat_toUInt8, UInt32.toNat_and, UInt32.toNat_shiftRight, word]
  change ((eclass.toNat * 256 + number.toNat) >>> 8 &&& (2 ^ 3 - 1)) % 2 ^ 8 = eclass.toNat
  rw [Nat.and_two_pow_sub_one_eq_mod, Nat.shiftRight_eq_div_pow]
  omega

theorem errorWord_number (eclass number : UInt8) :
    (((eclass.toUInt32 <<< 8) ||| number.toUInt32) &&& 0xff).toUInt8 = number := by
  have word := errorWord_toNat eclass number
  have numberBound := number.toNat_lt
  apply UInt8.toNat_inj.mp
  rw [UInt32.toNat_toUInt8, UInt32.toNat_and, word]
  change ((eclass.toNat * 256 + number.toNat) &&& (2 ^ 8 - 1)) % 2 ^ 8 = number.toNat
  rw [Nat.and_two_pow_sub_one_eq_mod]
  omega

theorem padding_length (length : UInt16) :
    (padding length).length = paddedLength length.toNat - length.toNat := by
  unfold padding paddedLength
  split <;> split <;> simp <;> omega

theorem consumePadding_padding (length : UInt16) (rest : Bytes) :
    consumePadding length (padding length ++ rest) = rest := by
  unfold consumePadding padding
  split
  · rw [consume_eq_some.mpr ⟨_, rfl, length_replicate⟩, getD_some]
  · rfl

/-! ## Values -/

namespace StunValue

/-- How many bytes the value has, before it is kept in 16 bits. -/
def size : StunValue → Nat
  | address ip _ => (addressLength ip).toNat
  | xorAddress ip _ => (addressLength ip).toNat
  | uint32 _ => 4
  | uint64 _ => 8
  | byteString bytes => bytes.length
  | errorCode _ _ reason => 4 + reason.length
  | uint16List attrTypes => 2 * attrTypes.length

/-- Addresses have a family, and error classes three bits. -/
def Encodable : StunValue → Prop
  | address ip _ => ip ≠ .unspec
  | xorAddress ip _ => ip ≠ .unspec
  | errorCode eclass _ _ => eclass ≤ 7
  | _ => True

instance (value : StunValue) : Decidable value.Encodable := by
  cases value <;> simp only [Encodable] <;> infer_instance

theorem length_toNat {value : StunValue} (fits : value.size < 2 ^ 16) :
    value.length.toNat = value.size := by
  cases value with
  | address ip port => rfl
  | xorAddress ip port => rfl
  | uint32 bits => rfl
  | uint64 bits => rfl
  | byteString bytes =>
    simp only [size] at fits
    simp only [length, size, UInt16.toNat_ofNat']
    omega
  | errorCode eclass number reason =>
    simp only [size] at fits
    simp only [length, size, UInt16.toNat_add, UInt16.toNat_ofNat']
    change (4 + reason.length % 2 ^ 16) % 2 ^ 16 = 4 + reason.length
    omega
  | uint16List attrTypes =>
    simp only [size] at fits
    simp only [length, size, UInt16.toNat_ofNat']
    omega

theorem exists_write {transactionId : Bytes} {value : StunValue}
    (isNew : transactionId.length = 12) (encodable : value.Encodable) :
    ∃ body, value.write transactionId = some body := by
  cases value with
  | address ip port =>
    cases ip with
    | unspec => exact absurd rfl encodable
    | ipv4 address => exact ⟨_, rfl⟩
    | ipv6 address => exact ⟨_, rfl⟩
  | xorAddress ip port =>
    cases ip with
    | unspec => exact absurd rfl encodable
    | ipv4 address => exact ⟨_, rfl⟩
    | ipv6 address =>
      exact ⟨_, by simp only [write, getXoredIP, isNew, kStunTransactionIdLength, if_true]; rfl⟩
  | uint32 bits => exact ⟨_, rfl⟩
  | uint64 bits => exact ⟨_, rfl⟩
  | byteString bytes => exact ⟨_, rfl⟩
  | errorCode eclass number reason => exact ⟨_, rfl⟩
  | uint16List attrTypes => exact ⟨_, rfl⟩

variable {transactionId body : Bytes} {value : StunValue}
  (written : value.write transactionId = some body) (fits : value.size < 2 ^ 16)
  (isNew : transactionId.length = 12)

include written fits isNew

theorem write_length : body.length = paddedLength value.size := by
  have kept := length_toNat fits
  cases value with
  | address ip port =>
    rw [writeAddress_length written]
    simp [size, paddedLength, addressLength_dvd]
  | xorAddress ip port =>
    rw [writeAddress_length written, addressLength_getXoredIP isNew]
    simp [size, paddedLength, addressLength_dvd]
  | uint32 bits => cases written; simp [size, paddedLength]
  | uint64 bits => cases written; simp [size, paddedLength]
  | byteString bytes =>
    cases written
    rw [length_append, padding_length, kept]
    have padded := le_paddedLength bytes.length
    simp [size]
    omega
  | errorCode eclass number reason =>
    cases written
    rw [length_append, length_append, padding_length, kept, uint32Bytes_length]
    have padded := le_paddedLength (4 + reason.length)
    simp only [size]
    omega
  | uint16List attrTypes =>
    cases written
    rw [length_append, padding_length, kept, flatMap_uint16Bytes_length]
    have padded := le_paddedLength (2 * attrTypes.length)
    simp only [size]
    omega

/-- A written value is read back, whatever follows it. -/
theorem readValue_write (encodable : value.Encodable) (rest : Bytes) :
    readValue transactionId value.valueType (createdLength value.valueType value.length)
      (body ++ rest) = some (value, rest) := by
  have kept := length_toNat fits
  cases value with
  | address ip port =>
    simp only [readValue, valueType, createdLength, length, readAddress_write written,
      bind_eq_bind, bind_some, Option.pure_def]
  | xorAddress ip port =>
    have back := readAddress_write written rest
    rw [addressLength_getXoredIP isNew] at back
    simp only [readValue, valueType, createdLength, length, back, bind_eq_bind,
      bind_some, getXoredIP_getXoredIP isNew, xoredPort_xoredPort, Option.pure_def]
  | uint32 bits =>
    cases written
    simp [readValue, valueType, createdLength]
  | uint64 bits =>
    cases written
    simp [readValue, valueType, createdLength]
  | byteString bytes =>
    cases written
    simp only [size] at kept
    simp only [readValue, valueType, createdLength, kept, take_length, append_assoc,
      readBytes_append, bind_eq_bind, bind_some, consumePadding_padding,
      Option.pure_def]
  | errorCode eclass number reason =>
    cases written
    simp only [size] at kept
    have longEnough : ¬(errorCode eclass number reason).length < 4 := by
      rw [UInt16.lt_iff_toNat_lt, kept]
      change ¬(4 + reason.length < 4)
      omega
    have reasonLength : (errorCode eclass number reason).length.toNat - 4 = reason.length := by
      omega
    simp only [readValue, valueType, createdLength, longEnough, if_false, append_assoc,
      readUInt32_append, reasonLength, readBytes_append, bind_eq_bind, bind_some,
      errorWord_class number encodable, errorWord_number, consumePadding_padding,
      Option.pure_def]
  | uint16List attrTypes =>
    cases written
    simp only [size] at kept
    have even : ¬((uint16List attrTypes).length.toNat % 2 ≠ 0) := by omega
    have half : (uint16List attrTypes).length.toNat / 2 = attrTypes.length := by omega
    have back : readUInt16s attrTypes.length (attrTypes.flatMap uint16Bytes ++
        (padding (uint16List attrTypes).length ++ rest)) =
          some (attrTypes, padding (uint16List attrTypes).length ++ rest) :=
      readUInt16s_eq_some.mpr ⟨rfl, rfl⟩
    simp only [readValue, valueType, createdLength, even, if_false, half, append_assoc,
      back, bind_eq_bind, bind_some, consumePadding_padding, Option.pure_def]

end StunValue

/-! ## Attributes -/

namespace StunAttribute

/-- How many bytes the attribute takes, with its type, its length and its padding. -/
def size (attr : StunAttribute) : Nat := 4 + paddedLength attr.value.size

def totalSize (attrs : List StunAttribute) : Nat := (attrs.map size).sum

@[simp] theorem totalSize_cons (attr : StunAttribute) (attrs : List StunAttribute) :
    totalSize (attr :: attrs) = attr.size + totalSize attrs := rfl

/-- The attribute is of a type that the class knows with this kind of value. -/
def Allowed (messageClass : MessageClass) (attr : StunAttribute) : Prop :=
  attr.value.valueType = messageClass.getAttributeValueType attr.type

instance (messageClass : MessageClass) (attr : StunAttribute) :
    Decidable (attr.Allowed messageClass) := inferInstanceAs (Decidable (_ = _))

theorem value_fits {attr : StunAttribute} (fits : attr.size < 2 ^ 16) :
    attr.value.size < 2 ^ 16 := by
  have padded := le_paddedLength attr.value.size
  unfold size at fits
  omega

theorem exists_write {transactionId : Bytes} {attr : StunAttribute}
    (isNew : transactionId.length = 12) (encodable : attr.value.Encodable) :
    ∃ written, attr.write transactionId = some written := by
  rcases StunValue.exists_write isNew encodable with ⟨body, written⟩
  exact ⟨_, by rw [write, written]; rfl⟩

theorem write_length {transactionId written : Bytes} {attr : StunAttribute}
    (isWritten : attr.write transactionId = some written) (fits : attr.size < 2 ^ 16)
    (isNew : transactionId.length = 12) : written.length = attr.size := by
  simp only [write, bind_eq_bind, bind_eq_some_iff, Option.pure_def, Option.some.injEq] at isWritten
  rcases isWritten with ⟨body, bodyWritten, rfl⟩
  rw [length_append, length_append, StunValue.write_length bodyWritten
    (value_fits fits) isNew, uint16Bytes_length, uint16Bytes_length, size]
  omega

theorem readAttribute_write {messageClass : MessageClass} {transactionId written : Bytes}
    {attr : StunAttribute} (isWritten : attr.write transactionId = some written)
    (allowed : attr.Allowed messageClass) (fits : attr.size < 2 ^ 16)
    (isNew : transactionId.length = 12) (encodable : attr.value.Encodable) (rest : Bytes) :
    readAttribute messageClass transactionId (written ++ rest) = some (some attr, rest) := by
  simp only [write, bind_eq_bind, bind_eq_some_iff, Option.pure_def, Option.some.injEq] at isWritten
  rcases isWritten with ⟨body, bodyWritten, rfl⟩
  have back := StunValue.readValue_write bodyWritten (value_fits fits) isNew encodable rest
  have known := attr.value.valueType_ne_unknown
  rw [allowed] at back known
  simp only [readAttribute, append_assoc, readUInt16_append, bind_eq_bind,
    bind_some, known, if_false]
  rw [length, back]
  rfl

theorem write_ne_nil {transactionId written : Bytes} {attr : StunAttribute}
    (isWritten : attr.write transactionId = some written) : written.length ≠ 0 := by
  simp only [write, bind_eq_bind, bind_eq_some_iff, Option.pure_def, Option.some.injEq] at isWritten
  rcases isWritten with ⟨body, _, rfl⟩
  simp

theorem readAttributes_writeAll {messageClass : MessageClass} {transactionId : Bytes}
    (isNew : transactionId.length = 12) (attrs : List StunAttribute)
    (allowed : ∀ attr ∈ attrs, attr.Allowed messageClass)
    (encodable : ∀ attr ∈ attrs, attr.value.Encodable) (fits : totalSize attrs < 2 ^ 16) :
    ∃ written, writeAll transactionId attrs = some written ∧ written.length = totalSize attrs ∧
      readAttributes messageClass transactionId written = some (attrs, []) := by
  induction attrs with
  | nil => exact ⟨[], rfl, rfl, by rw [readAttributes]; rfl⟩
  | cons attr attrs induction =>
    rw [totalSize_cons] at fits
    have ownFits : attr.size < 2 ^ 16 := by omega
    rcases exists_write isNew (encodable attr mem_cons_self) with ⟨front, frontWritten⟩
    rcases induction (fun other member => allowed other (mem_cons_of_mem _ member))
      (fun other member => encodable other (mem_cons_of_mem _ member)) (by omega) with
      ⟨back, backWritten, backLength, backRead⟩
    have head := readAttribute_write frontWritten (allowed attr mem_cons_self) ownFits
      isNew (encodable attr mem_cons_self) back
    have notEmpty : (front ++ back).length ≠ 0 := by
      have frontNotEmpty := write_ne_nil frontWritten
      rw [length_append]
      omega
    refine ⟨front ++ back, ?_, ?_, ?_⟩
    · rw [writeAll, frontWritten, backWritten]
      rfl
    · rw [length_append, write_length frontWritten ownFits isNew, backLength, totalSize_cons]
    · rw [readAttributes, if_neg notEmpty]
      split
      · rename_i failed
        rw [head] at failed
        cases failed
      · rename_i found rest taken
        rw [head] at taken
        cases taken
        rw [backRead]
        rfl

end StunAttribute

/-! ## Messages -/

namespace StunMessage

theorem addAttribute_eq_some {message next : StunMessage} {attr : StunAttribute}
    (added : message.addAttribute attr = some next) :
    attr.Allowed message.messageClass ∧ next = { message with
      attrs := message.attrs ++ [attr]
      length := message.length + UInt16.ofNat (paddedLength attr.length.toNat + 4) } := by
  unfold addAttribute at added
  split at added
  · cases added
  · rename_i allowed
    exact ⟨not_not.mp allowed, (Option.some.inj added).symm⟩

/-- What a list of `AddAttribute` calls leaves: the attributes in their order, all of them
allowed, and the length of what they take. -/
theorem addAttributes_eq_some (attributes : List StunAttribute) :
    ∀ {message last : StunMessage}, message.addAttributes attributes = some last →
      message.length.toNat + StunAttribute.totalSize attributes < 2 ^ 16 →
      (∀ attr ∈ attributes, attr.Allowed message.messageClass) ∧
      last.messageClass = message.messageClass ∧ last.type = message.type ∧
      last.transactionId = message.transactionId ∧ last.attrs = message.attrs ++ attributes ∧
      last.length.toNat = message.length.toNat + StunAttribute.totalSize attributes := by
  induction attributes with
  | nil =>
    intro message last added _
    cases added
    exact ⟨by simp, rfl, rfl, rfl, by simp, rfl⟩
  | cons attr attributes induction =>
    intro message last added fits
    rw [addAttributes, foldlM_cons, bind_eq_bind, bind_eq_some_iff] at added
    rcases added with ⟨next, head, tail⟩
    rcases addAttribute_eq_some head with ⟨allowed, rfl⟩
    rw [StunAttribute.totalSize_cons] at fits ⊢
    have ownFits : attr.size < 2 ^ 16 := by omega
    have ownLength : (message.length + UInt16.ofNat (paddedLength attr.length.toNat + 4)).toNat =
          message.length.toNat + attr.size := by
      rw [StunAttribute.length, StunValue.length_toNat (StunAttribute.value_fits ownFits),
        UInt16.toNat_add, UInt16.toNat_ofNat']
      unfold StunAttribute.size at fits ⊢
      omega
    rcases induction tail (by simp only [ownLength]; omega) with
      ⟨others, sameClass, sameType, sameId, sameAttrs, total⟩
    refine ⟨?_, sameClass, sameType, sameId, ?_, ?_⟩
    · intro other member
      rcases mem_cons.mp member with rfl | member
      · exact allowed
      · exact others other member
    · simpa using sameAttrs
    · simp only [ownLength] at total
      omega

theorem read_header {message : StunMessage} (topBitClear : message.type &&& 0x8000 = 0)
    (isNew : message.transactionId.length = 12) {body : Bytes}
    (bodyLength : body.length = message.length.toNat) :
    read message.messageClass (message.header ++ body) =
      (readAttributes message.messageClass message.transactionId body).map
        fun (attrs, rest) => ({ message with attrs }, rest) := by
  have notLegacy : message.isLegacy = false := by
    simp [isLegacy, isNew, kStunLegacyTransactionIdLength]
  have cookie : readBytes 4 (uint32Bytes kStunMagicCookie ++ (message.transactionId ++ body)) =
      some (uint32Bytes kStunMagicCookie, message.transactionId ++ body) :=
    readBytes_append _ _
  have id : readBytes kStunTransactionIdLength (message.transactionId ++ body) =
      some (message.transactionId, body) := by
    rw [kStunTransactionIdLength, ← isNew]
    exact readBytes_append _ _
  simp only [read, header, notLegacy, Bool.false_eq_true, if_false, append_assoc,
    readUInt16_append, bind_eq_bind, bind_some, topBitClear, ne_eq, not_true,
    cookie, id, bodyLength]
  cases readAttributes message.messageClass message.transactionId body <;> rfl

/-- STUN round trip: a message built by `AddAttribute` calls is written, and reading the
written bytes gives it back and leaves nothing. -/
theorem read_write_addAttributes (messageClass : MessageClass) (type : UInt16)
    (transactionId : Bytes) (attributes : List StunAttribute) (message : StunMessage)
    (topBitClear : type &&& 0x8000 = 0) (isNew : transactionId.length = 12)
    (added : (new messageClass type transactionId).addAttributes attributes = some message)
    (encodable : ∀ attr ∈ attributes, attr.value.Encodable)
    (fits : StunAttribute.totalSize attributes < 2 ^ 16) :
    ∃ written, message.write = some written ∧
      read messageClass written = some (message, []) ∧ message.type = type ∧
      message.transactionId = transactionId ∧ message.attrs = attributes := by
  rcases addAttributes_eq_some attributes added (by simpa [new] using fits) with
    ⟨allowed, sameClass, sameType, sameId, sameAttrs, total⟩
  rw [new, nil_append] at sameAttrs
  rw [new, UInt16.toNat_zero, Nat.zero_add] at total
  change ∀ attr ∈ attributes, attr.Allowed messageClass at allowed
  change message.messageClass = messageClass at sameClass
  change message.transactionId = transactionId at sameId
  change message.type = type at sameType
  rcases StunAttribute.readAttributes_writeAll isNew attributes allowed encodable fits with
    ⟨body, bodyWritten, bodyLength, bodyRead⟩
  subst sameClass sameType sameId
  refine ⟨message.header ++ body, ?_, ?_, rfl, rfl, sameAttrs⟩
  · rw [write, sameAttrs, bodyWritten]
    rfl
  · rw [read_header topBitClear isNew (bodyLength.trans total.symm), bodyRead, ← sameAttrs]
    rfl

def everyKind : List StunAttribute :=
  [⟨STUN_ATTR_MAPPED_ADDRESS, .address (.ipv4 0x7F000001) 80⟩,
    ⟨STUN_ATTR_XOR_MAPPED_ADDRESS, .xorAddress (.ipv6 ⟨1, 2, 3, 4⟩) 443⟩,
    ⟨STUN_ATTR_PRIORITY, .uint32 7⟩, ⟨STUN_ATTR_ICE_CONTROLLING, .uint64 9⟩,
    ⟨STUN_ATTR_USERNAME, .byteString [65]⟩, ⟨STUN_ATTR_ERROR_CODE, .errorCode 4 1 [66, 67]⟩,
    ⟨STUN_ATTR_UNKNOWN_ATTRIBUTES, .uint16List [0x20]⟩]

theorem read_write_everyKind :
    ∃ written message, message.write = some written ∧
      read .iceMessage written = some (message, []) ∧ message.type = 1 ∧
      message.transactionId = List.replicate 12 5 ∧ message.attrs = everyKind := by
  rcases read_write_addAttributes .iceMessage 1 (List.replicate 12 5) everyKind
    { new .iceMessage 1 (List.replicate 12 5) with attrs := everyKind, length := 84 }
    (by decide) (by decide) (by decide) (by decide) (by decide) with ⟨written, roundTrip⟩
  exact ⟨written, _, roundTrip⟩

end StunMessage

end ZyWebRtc.Stun
