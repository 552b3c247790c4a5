import ZyWebRtc.Stun.IntegrityAgreement

namespace ZyWebRtc.Stun

/-! What a message with MESSAGE-INTEGRITY looks like when it is written, and when the checks
accept it. -/

open List ByteBuffer Bytes
open Option hiding or_self some none

/-! ## Added attributes -/

namespace StunMessage

theorem addAttributes_frame (attributes : List StunAttribute) :
    ∀ {message last : StunMessage}, message.addAttributes attributes = some last →
      last.messageClass = message.messageClass ∧ last.type = message.type ∧
        last.transactionId = message.transactionId ∧ last.attrs = message.attrs ++ attributes := by
  induction attributes with
  | nil =>
    intro message last added
    cases added
    exact ⟨rfl, rfl, rfl, (append_nil _).symm⟩
  | cons attr attributes induction =>
    intro message last added
    rw [addAttributes, foldlM_cons, bind_eq_bind, bind_eq_some_iff] at added
    rcases added with ⟨next, head, tail⟩
    rcases addAttribute_eq_some head with ⟨_, rfl⟩
    rcases induction tail with ⟨sameClass, sameType, sameId, sameAttrs⟩
    exact ⟨sameClass, sameType, sameId, by rw [sameAttrs, append_assoc]; rfl⟩

theorem digest_length (digest : Digest) : (StunValue.byteString digest.val).length = 20 := by
  rw [StunValue.length, digest.property]
  rfl

theorem addMessageIntegrity_eq_some {hmac : Hmac} {message signed : StunMessage} {key : Bytes}
    (added : message.addMessageIntegrity hmac key = some signed) :
    ∃ first, StunAttribute.writeAll message.transactionId message.attrs = some first ∧
      message.addAttribute ⟨STUN_ATTR_MESSAGE_INTEGRITY, .byteString
        (hmac key ({ message with length := message.length + 24 }.header ++ first)).val⟩ =
          some signed := by
  simp only [addMessageIntegrity, bind_eq_bind, bind_eq_some_iff, Option.pure_def,
    Option.some.injEq] at added
  rcases added with ⟨dummy, dummyAdded, buf, written, rfl⟩
  generalize digestOf : hmac key (buf.take
    (buf.length - kStunAttributeHeaderSize - kStunMessageIntegritySize)) = digest
  rcases addAttribute_eq_some dummyAdded with ⟨allowed, rfl⟩
  rcases write_eq_some.mp written with ⟨body, bodyWritten, rfl⟩
  rcases StunAttribute.writeAll_append _ _ bodyWritten with
    ⟨first, second, rfl, firstWritten, secondWritten⟩
  have secondLength := StunAttribute.length_of_write (StunAttribute.writeAll_single secondWritten)
  change second.length = 24 at secondLength
  refine ⟨first, firstWritten, ?_⟩
  rw [← append_assoc, length_append, secondLength] at digestOf
  simp only [kStunAttributeHeaderSize, kStunMessageIntegritySize] at digestOf
  rw [Nat.sub_sub, Nat.add_sub_cancel, take_left] at digestOf
  change hmac key ({ message with length := message.length + 24 }.header ++ first) = digest
    at digestOf
  have digestAllowed : StunAttribute.Allowed message.messageClass
      ⟨STUN_ATTR_MESSAGE_INTEGRITY, .byteString digest.val⟩ := allowed
  rw [digestOf, addAttribute_of_allowed digestAllowed]
  simp only [StunAttribute.length, digest_length]
  rfl

theorem addFingerprint_eq_some {crc : Crc32} {message next : StunMessage}
    (added : message.addFingerprint crc = some next) :
    ∃ first, StunAttribute.writeAll message.transactionId message.attrs = some first ∧
      message.addAttribute ⟨STUN_ATTR_FINGERPRINT, .uint32
        (crc ({ message with length := message.length + 8 }.header ++ first) ^^^
          STUN_FINGERPRINT_XOR_VALUE)⟩ = some next := by
  simp only [addFingerprint, bind_eq_bind, bind_eq_some_iff, Option.pure_def,
    Option.some.injEq] at added
  rcases added with ⟨dummy, dummyAdded, buf, written, rfl⟩
  generalize sumOf : crc (buf.take (buf.length - kStunAttributeHeaderSize - 4)) = sum
  rcases addAttribute_eq_some dummyAdded with ⟨allowed, rfl⟩
  rcases write_eq_some.mp written with ⟨body, bodyWritten, rfl⟩
  rcases StunAttribute.writeAll_append _ _ bodyWritten with
    ⟨first, second, rfl, firstWritten, secondWritten⟩
  have secondLength := StunAttribute.length_of_write (StunAttribute.writeAll_single secondWritten)
  change second.length = 8 at secondLength
  refine ⟨first, firstWritten, ?_⟩
  rw [← append_assoc, length_append, secondLength] at sumOf
  simp only [kStunAttributeHeaderSize] at sumOf
  rw [Nat.sub_sub, Nat.add_sub_cancel, take_left] at sumOf
  change crc ({ message with length := message.length + 8 }.header ++ first) = sum at sumOf
  have sumAllowed : StunAttribute.Allowed message.messageClass
      ⟨STUN_ATTR_FINGERPRINT, .uint32 (sum ^^^ STUN_FINGERPRINT_XOR_VALUE)⟩ := allowed
  rw [sumOf, addAttribute_of_allowed sumAllowed]
  rfl

end StunMessage

theorem write_digest {transactionId written : Bytes} {type : UInt16} {digest : Digest}
    (isWritten : StunAttribute.write transactionId ⟨type, .byteString digest.val⟩ = some written) :
    written = uint16Bytes type ++ (uint16Bytes 20 ++ digest.val) := by
  have isTwenty := StunMessage.digest_length digest
  have whole : digest.val.take (20 : UInt16).toNat = digest.val :=
    take_of_length_le (Nat.le_of_eq digest.property)
  have noPadding : padding 20 = [] := rfl
  simp only [StunAttribute.write, StunValue.write, StunAttribute.length, isTwenty,
    bind_eq_bind, bind_some, Option.pure_def, Option.some.injEq, whole, noPadding,
    append_nil] at isWritten
  exact isWritten.symm

namespace Addition

def writtenSize : Addition → Nat
  | plain attr => attr.writtenSize
  | messageIntegrity _ => 24
  | fingerprint => 8

theorem exists_attribute {hmac : Hmac} {crc : Crc32} {message next : StunMessage}
    {addition : Addition} (applied : addition.apply hmac crc message = some next) :
    ∃ attr, message.addAttribute attr = some next ∧ attr.writtenSize = addition.writtenSize := by
  cases addition with
  | plain attr => exact ⟨attr, applied, rfl⟩
  | messageIntegrity key =>
    rcases StunMessage.addMessageIntegrity_eq_some applied with ⟨first, _, added⟩
    refine ⟨_, added, ?_⟩
    simp only [StunAttribute.writtenSize, StunValue.writtenLength, StunMessage.digest_length]
    rfl
  | fingerprint =>
    rcases StunMessage.addFingerprint_eq_some applied with ⟨first, _, added⟩
    exact ⟨_, added, rfl⟩

theorem exists_attributes {hmac : Hmac} {crc : Crc32} (additions : List Addition) :
    ∀ {message last : StunMessage}, additions.foldlM (apply hmac crc) message = some last →
        ∃ later, message.addAttributes later = some last ∧
          later.map StunAttribute.writtenSize = additions.map writtenSize := by
  induction additions with
  | nil => exact fun applied => ⟨[], applied, rfl⟩
  | cons addition additions induction =>
    intro message last applied
    rw [foldlM_cons, bind_eq_bind, bind_eq_some_iff] at applied
    rcases applied with ⟨next, head, tail⟩
    rcases exists_attribute head with ⟨attr, added, sameSize⟩
    rcases induction tail with ⟨later, tailAdded, sameSizes⟩
    refine ⟨attr :: later, ?_, by rw [map_cons, map_cons, sameSize, sameSizes]⟩
    rw [StunMessage.addAttributes, foldlM_cons, added]
    exact tailAdded

end Addition

/-! ## The written message -/

namespace Signing

/-- How many bytes the attributes of the message take. -/
def size (signing : Signing) : Nat :=
  (signing.attributes.map StunAttribute.writtenSize).sum + 24 +
    (signing.additions.map Addition.writtenSize).sum

/-- The attributes in front of the MESSAGE-INTEGRITY, as they are written. -/
def front (signing : Signing) : Option Bytes :=
  StunAttribute.writeAll signing.transactionId signing.attributes

/-- The parts of the written message. -/
structure Written (signing : Signing) (hmac : Hmac) (bytes : Bytes) where
  final : StunMessage
  first : Bytes
  tag : Bytes
  rest : Bytes
  sameType : final.type = signing.type
  sameId : final.transactionId = signing.transactionId
  length : final.length.toNat = signing.size % 2 ^ 16
  frontWritten : signing.front = some first
  split : bytes = final.header ++ (first ++ (uint16Bytes STUN_ATTR_MESSAGE_INTEGRITY ++
    (uint16Bytes 20 ++ (tag ++ rest))))
  tagOf : tag = (hmac signing.key ({ final with
    length := UInt16.ofNat (first.length + 24) }.header ++ first)).val
  total : first.length + 24 + rest.length = signing.size

theorem exists_written {signing : Signing} {hmac : Hmac} {crc : Crc32} {bytes : Bytes}
    (written : signing.bytes hmac crc = some bytes) : Nonempty (signing.Written hmac bytes) := by
  simp only [Signing.bytes, Signing.message, bind_eq_bind, bind_eq_some_iff] at written
  rcases written with ⟨final, ⟨unsigned, built, signed, integrity, added⟩, written⟩
  rcases StunMessage.addMessageIntegrity_eq_some integrity with ⟨first, firstWritten, tagAdded⟩
  rcases Addition.exists_attributes signing.additions added with ⟨later, laterAdded, sizes⟩
  rcases StunMessage.addAttributes_frame _ built with ⟨_, unsignedType, unsignedId, unsignedAttrs⟩
  rcases StunMessage.addAttribute_eq_some tagAdded with ⟨_, signedIs⟩
  rcases StunMessage.addAttributes_frame _ laterAdded with ⟨_, finalType, finalId, finalAttrs⟩
  have fresh : (StunMessage.new signing.messageClass signing.type
      signing.transactionId).Accounted := rfl
  have accounted : unsigned.Accounted := StunMessage.Accounted.addAttributes _ fresh built
  have finalAccounted : final.Accounted :=
    StunMessage.Accounted.addAttributes _ (accounted.addAttribute tagAdded) laterAdded
  rcases StunMessage.write_eq_some.mp written with ⟨body, bodyWritten, rfl⟩
  generalize digestOf : hmac signing.key
    ({ unsigned with length := unsigned.length + 24 }.header ++ first) = digest at *
  subst signedIs
  simp only at finalType finalId finalAttrs
  rw [finalAttrs, unsignedAttrs] at bodyWritten
  rcases StunAttribute.writeAll_append _ _ bodyWritten with
    ⟨front, rest, rfl, frontWritten, restWritten⟩
  rcases StunAttribute.writeAll_append _ _ frontWritten with
    ⟨_, middle, rfl, firstAgain, middleWritten⟩
  rw [finalId] at firstAgain middleWritten restWritten
  rw [unsignedAttrs] at firstWritten
  cases firstAgain.symm.trans firstWritten
  have middleIs := write_digest (StunAttribute.writeAll_single middleWritten)
  rw [unsignedId] at finalId firstWritten
  rw [unsignedType] at finalType
  have frontLength := StunAttribute.length_of_writeAll _ firstWritten
  have restLength := StunAttribute.length_of_writeAll _ restWritten
  change first.length = (signing.attributes.map StunAttribute.writtenSize).sum at frontLength
  rw [sizes] at restLength
  have total : first.length + 24 + rest.length = signing.size := by
    rw [size, frontLength, restLength]
  refine ⟨{
    final, first, tag := digest.val, rest
    sameType := finalType
    sameId := finalId
    length := ?_
    frontWritten := firstWritten
    split := ?_
    tagOf := ?_
    total }⟩
  · rw [finalAccounted, finalAttrs, unsignedAttrs]
    have tagSize : StunAttribute.writtenSize
        ⟨STUN_ATTR_MESSAGE_INTEGRITY, .byteString digest.val⟩ = 24 := by
      simp only [StunAttribute.writtenSize, StunValue.writtenLength, StunMessage.digest_length]
      rfl
    rw [map_append, map_append, sum_append, sum_append, sizes, size,
      map_singleton, sum_singleton, tagSize]
    rfl
  · rw [middleIs]
    simp only [append_assoc]
  · rw [← digestOf]
    have sameLength : unsigned.length + 24 = UInt16.ofNat (first.length + 24) := by
      apply UInt16.toNat_inj.mp
      rw [UInt16.toNat_add, accounted, unsignedAttrs, UInt16.toNat_ofNat']
      change (_ % 2 ^ 16 + 24) % 2 ^ 16 = _
      rw [frontLength]
      exact Nat.mod_add_mod _ _ _
    have sameHeader : { unsigned with length := unsigned.length + 24 }.header =
        { final with length := UInt16.ofNat (first.length + 24) }.header :=
      StunMessage.header_congr (unsignedType.trans finalType.symm) sameLength
        (unsignedId.trans finalId.symm)
    rw [sameHeader]

theorem sum_writtenSize_mod (attrs : List StunAttribute) :
    (attrs.map StunAttribute.writtenSize).sum % 4 = 0 := by
  induction attrs with
  | nil => rfl
  | cons attr attrs induction =>
    have own := attr.value.writtenLength_dvd
    rw [map_cons, sum_cons, StunAttribute.writtenSize]
    omega

theorem sum_additions_mod (additions : List Addition) :
    (additions.map Addition.writtenSize).sum % 4 = 0 := by
  induction additions with
  | nil => rfl
  | cons addition additions induction =>
    have own : addition.writtenSize % 4 = 0 := by
      cases addition with
      | plain attr =>
        have dvd := attr.value.writtenLength_dvd
        rw [Addition.writtenSize, StunAttribute.writtenSize]
        omega
      | messageIntegrity key => simp [Addition.writtenSize]
      | fingerprint => simp [Addition.writtenSize]
    rw [map_cons, sum_cons]
    omega

theorem size_mod (signing : Signing) : signing.size % 4 = 0 := by
  have attributes := sum_writtenSize_mod signing.attributes
  have additions := sum_additions_mod signing.additions
  rw [size]
  omega

section Written

variable {signing : Signing} {hmac : Hmac} {bytes : Bytes}

theorem Written.header_length (written : signing.Written hmac bytes) :
    written.final.header.length = 20 :=
  StunMessage.header_length (by rw [written.sameId]; exact signing.validId)

theorem Written.tag_length (written : signing.Written hmac bytes) : written.tag.length = 20 := by
  rw [written.tagOf]
  exact (hmac _ _).property

theorem Written.bytes_length (written : signing.Written hmac bytes) :
    bytes.length = 20 + signing.size := by
  have total := written.total
  rw [written.split]
  simp only [length_append, written.header_length, uint16Bytes_length, written.tag_length]
  omega

theorem Written.lengthAt (written : signing.Written hmac bytes) :
    written.final.header.uint16At 2 = some written.final.length := by
  have read := StunMessage.uint16At_header written.final []
  rwa [append_nil] at read

theorem Written.exists_records (written : signing.Written hmac bytes)
    (short : signing.size < 2 ^ 16) :
    ∃ records, Record.Splits records written.first ∧
      records.map Record.type = signing.attributes.map StunAttribute.type := by
  have total := written.total
  exact StunAttribute.exists_records _ written.frontWritten (by omega)

theorem Written.accepted (written : signing.Written hmac bytes)
    (noIntegrity : ∀ attr ∈ signing.attributes, attr.type ≠ STUN_ATTR_MESSAGE_INTEGRITY)
    (short : signing.size < 2 ^ 16) (beyond : Bytes) :
    validateMessageIntegrity hmac bytes beyond signing.key = some true := by
  have total := written.total
  have whole := signing.size_mod
  have bytesLength := written.bytes_length
  have finalLength := written.length
  rcases written.exists_records short with ⟨records, split, sameTypes⟩
  have others : NoIntegrity records := by
    intro record member
    have typeOf : record.type ∈ signing.attributes.map StunAttribute.type := by
      rw [← sameTypes]
      exact List.mem_map_of_mem member
    rcases List.mem_map.mp typeOf with ⟨attr, attrMember, same⟩
    rw [← same]
    exact noIntegrity attr attrMember
  rw [Record.Splits] at split
  have memory : bytes ++ beyond = written.final.header ++ (written.first ++
      (uint16Bytes STUN_ATTR_MESSAGE_INTEGRITY ++ (uint16Bytes 20 ++
        (written.tag ++ (written.rest ++ beyond))))) := by
    conv_lhs => rw [written.split]
    simp only [append_assoc]
  rw [validateMessageIntegrity_layout hmac written.header_length others written.tag_length
    (by rw [memory, split]) (by omega) written.lengthAt (by omega) (by rw [← split]; omega),
    ← split]
  congr 1
  rw [decide_eq_true_eq, written.tagOf]
  by_cases followed : written.first.length + 44 < bytes.length
  · rw [hmacInput_layout written.header_length memory followed, StunMessage.setLength_header]
  · rw [hmacInput_last written.header_length memory (by omega)]
    have sameLength : UInt16.ofNat (written.first.length + 24) = written.final.length := by
      apply UInt16.toNat_inj.mp
      rw [UInt16.toNat_ofNat', finalLength]
      omega
    have sameHeader : StunMessage.header { written.final with
        length := UInt16.ofNat (written.first.length + 24) } = written.final.header :=
      StunMessage.header_congr rfl sameLength rfl
    rw [sameHeader]

theorem Written.earlier_stored (written : signing.Written hmac bytes) {before : List Record}
    {record : Record} {after : Bytes}
    (noIntegrity : NoIntegrity before) (isIntegrity : record.type = STUN_ATTR_MESSAGE_INTEGRITY)
    (split : written.first = before.flatMap Record.bytes ++ (record.bytes ++ after))
    {beyond : Bytes} (accepted : validateMessageIntegrity hmac bytes beyond signing.key = some true) :
    ∃ input, record.value = (hmac signing.key input).val := by
  have total := written.total
  have bytesLength := written.bytes_length
  have recordLength := record.bytes_length
  have isHeader := written.header_length
  have firstLength := congrArg List.length split
  simp only [length_append] at firstLength
  rcases validateMessageIntegrity_eq_true accepted with ⟨_, _, miPos, _, _, found, storedAt⟩
  have memory : bytes ++ beyond = written.final.header ++ (before.flatMap Record.bytes ++
      (uint16Bytes STUN_ATTR_MESSAGE_INTEGRITY ++ (uint16Bytes record.declared ++
        (record.value ++ (record.padding ++ (after ++ (uint16Bytes STUN_ATTR_MESSAGE_INTEGRITY ++
          (uint16Bytes 20 ++ (written.tag ++ (written.rest ++ beyond)))))))))) := by
    conv_lhs => rw [written.split, split, Record.bytes, isIntegrity]
    simp only [append_assoc]
  generalize record.padding ++ (after ++ (uint16Bytes STUN_ATTR_MESSAGE_INTEGRITY ++
    (uint16Bytes 20 ++ (written.tag ++ (written.rest ++ beyond))))) = behind at memory
  have walked := searchMessageIntegrity_records (uint16Bytes STUN_ATTR_MESSAGE_INTEGRITY ++
    (uint16Bytes record.declared ++ (record.value ++ behind))) before written.final.header
    noIntegrity (show _ + _ ≤ bytes.length by omega)
  have reached := searchMessageIntegrity_found (written.final.header ++
    before.flatMap Record.bytes) (record.value ++ behind) record.declared
    (show _ < bytes.length by rw [length_append]; omega)
  rw [append_assoc, ← memory, length_append, isHeader] at reached
  rw [← memory, isHeader] at walked
  rw [walked, reached] at found
  split at found
  · cases found
  · rename_i legal
    rw [not_or, not_not, record.declared_toNat] at legal
    have position := Option.some.inj (Option.some.inj found)
    have middle := bytesAt_middle (written.final.header ++ (before.flatMap Record.bytes ++
      (uint16Bytes STUN_ATTR_MESSAGE_INTEGRITY ++ uint16Bytes record.declared))) behind
      record.value
    simp only [append_assoc, length_append, uint16Bytes_length, isHeader] at middle
    rw [← memory, legal.1] at middle
    rw [← position, Nat.add_assoc] at storedAt
    exact ⟨_, Option.some.inj (middle.symm.trans storedAt)⟩

end Written

end Signing

/-! ## Fingerprints -/

theorem validateFingerprint_layout (crc : Crc32) {head front : Bytes} {fingerprint : UInt32}
    (isHeader : head.length = 20) (cookieAt : head.uint32At 4 = some kStunMagicCookie)
    (whole : front.length % 4 = 0) :
    validateFingerprint crc (head ++ (front ++ (uint16Bytes STUN_ATTR_FINGERPRINT ++
      (uint16Bytes 4 ++ uint32Bytes fingerprint)))) =
        some (decide (fingerprint ^^^ STUN_FINGERPRINT_XOR_VALUE = crc (head ++ front))) := by
  have reads : ∀ tail : Bytes, (head ++ (front ++ (uint16Bytes STUN_ATTR_FINGERPRINT ++
      (uint16Bytes 4 ++ uint32Bytes fingerprint)))) = tail →
      tail.length = 28 + front.length ∧ tail.uint32At 4 = some kStunMagicCookie ∧
        tail.uint16At (20 + front.length) = some STUN_ATTR_FINGERPRINT ∧
        tail.uint16At (20 + front.length + 2) = some 4 ∧
        tail.uint32At (20 + front.length + 4) = some fingerprint ∧
        tail.take (20 + front.length) = head ++ front := by
    rintro tail rfl
    refine ⟨?_, ?_, ?_, ?_, ?_, ?_⟩
    · simp only [length_append, isHeader, uint16Bytes_length, uint32Bytes_length]
      omega
    · rw [← cookieAt]
      simp only [uint32At, uint24At, byteAt]
      rw [List.getElem?_append_left (by omega), List.getElem?_append_left (by omega),
        List.getElem?_append_left (by omega), List.getElem?_append_left (by omega)]
    · have behind := uint16At_behind (head ++ front) (uint16Bytes 4 ++ uint32Bytes fingerprint)
        STUN_ATTR_FINGERPRINT
      rwa [length_append, isHeader, append_assoc] at behind
    · have behind := uint16At_behind (head ++ (front ++ uint16Bytes STUN_ATTR_FINGERPRINT))
        (uint32Bytes fingerprint) 4
      simpa only [length_append, append_assoc, isHeader, uint16Bytes_length,
        Nat.add_assoc] using behind
    · have behind := uint32At_append (head ++ (front ++ (uint16Bytes STUN_ATTR_FINGERPRINT ++
        uint16Bytes 4))) (uint32Bytes fingerprint ++ []) 0
      rw [uint32At_uint32Bytes, append_nil] at behind
      simpa only [length_append, append_assoc, isHeader, uint16Bytes_length,
        Nat.add_assoc, Nat.add_zero] using behind
    · rw [← append_assoc]
      exact take_left' (by rw [length_append, isHeader])
  generalize dataIs : head ++ (front ++ (uint16Bytes STUN_ATTR_FINGERPRINT ++
    (uint16Bytes 4 ++ uint32Bytes fingerprint))) = data
  rcases reads data dataIs with ⟨total, cookie, type, length, value, taken⟩
  have position : data.length - (kStunAttributeHeaderSize + 4) = 20 + front.length := by
    rw [total, kStunAttributeHeaderSize]
    omega
  have longEnough : ¬(data.length % 4 ≠ 0 ∨
      data.length < kStunHeaderSize + (kStunAttributeHeaderSize + 4)) := by
    rw [total, kStunHeaderSize, kStunAttributeHeaderSize]
    omega
  unfold validateFingerprint
  simp only [longEnough, if_false, cookie, bind_eq_bind, bind_some, ne_eq,
    not_true, position, type, length, or_self, value, taken, Option.pure_def]

theorem StunMessage.cookieAt_header {message : StunMessage} (notLegacy : message.isLegacy = false) :
    message.header.uint32At 4 = some kStunMagicCookie := by
  have split : message.header = (uint16Bytes message.type ++ uint16Bytes message.length) ++
      (uint32Bytes kStunMagicCookie ++ message.transactionId) := by
    simp only [header, notLegacy, Bool.false_eq_true, if_false, append_assoc]
  have behind := uint32At_append (uint16Bytes message.type ++ uint16Bytes message.length)
    (uint32Bytes kStunMagicCookie ++ message.transactionId) 0
  rw [uint32At_uint32Bytes] at behind
  rw [split]
  exact behind

theorem StunMessage.write_addFingerprint {crc : Crc32} {message final : StunMessage}
    {bytes : Bytes} (added : message.addFingerprint crc = some final)
    (written : final.write = some bytes) :
    final.transactionId = message.transactionId ∧
      ∃ front, front.length % 4 = 0 ∧ bytes = final.header ++ (front ++
        (uint16Bytes STUN_ATTR_FINGERPRINT ++ (uint16Bytes 4 ++ uint32Bytes
          (crc (final.header ++ front) ^^^ STUN_FINGERPRINT_XOR_VALUE)))) := by
  rcases addFingerprint_eq_some added with ⟨front, frontWritten, sumAdded⟩
  rcases addAttribute_eq_some sumAdded with ⟨_, finalIs⟩
  have sameHeader : final.header = { message with length := message.length + 8 }.header := by
    have added : UInt16.ofNat (paddedLength (StunAttribute.length ⟨STUN_ATTR_FINGERPRINT, .uint32
        (crc ({ message with length := message.length + 8 }.header ++ front) ^^^
          STUN_FINGERPRINT_XOR_VALUE)⟩).toNat + 4) = 8 := by
      simp [StunAttribute.length, StunValue.length, paddedLength]
    apply header_congr
    · rw [finalIs]
    · rw [finalIs, added]
    · rw [finalIs]
  have sameId : final.transactionId = message.transactionId := by rw [finalIs]
  have finalAttrs : final.attrs = message.attrs ++ [⟨STUN_ATTR_FINGERPRINT, .uint32
      (crc (final.header ++ front) ^^^ STUN_FINGERPRINT_XOR_VALUE)⟩] := by
    rw [sameHeader, finalIs]
  rcases write_eq_some.mp written with ⟨body, bodyWritten, rfl⟩
  rw [finalAttrs, sameId] at bodyWritten
  rcases StunAttribute.writeAll_append _ _ bodyWritten with
    ⟨first, second, rfl, firstWritten, secondWritten⟩
  have sameFront : first = front := Option.some.inj (firstWritten.symm.trans frontWritten)
  have secondIs := Option.some.inj (StunAttribute.writeAll_single secondWritten)
  refine ⟨sameId, front, ?_, ?_⟩
  · rw [StunAttribute.length_of_writeAll _ frontWritten]
    exact Signing.sum_writtenSize_mod _
  · rw [sameFront, ← secondIs]
    rfl

namespace Signing

variable {signing : Signing}

theorem fingerprint_accepted {hmac : Hmac} {crc : Crc32} {bytes : Bytes}
    (written : signing.bytes hmac crc = some bytes)
    (last : signing.additions.getLast? = some .fingerprint)
    (notLegacy : signing.transactionId.length ≠ kStunLegacyTransactionIdLength) :
    validateFingerprint crc bytes = some true := by
  rcases List.getLast?_eq_some_iff.mp last with ⟨additions, isLast⟩
  simp only [Signing.bytes, Signing.message, isLast, foldlM_append, bind_eq_bind,
    bind_eq_some_iff] at written
  rcases written with ⟨final, ⟨unsigned, built, signed, integrity, message, added, finished⟩,
    written⟩
  rw [foldlM_cons, bind_eq_bind, bind_eq_some_iff] at finished
  rcases finished with ⟨_, finished, same⟩
  cases same
  rcases StunMessage.addMessageIntegrity_eq_some integrity with ⟨_, _, tagAdded⟩
  rcases Addition.exists_attributes additions added with ⟨later, laterAdded, _⟩
  rcases StunMessage.addAttributes_frame _ built with ⟨_, _, unsignedId, _⟩
  rcases StunMessage.addAttribute_eq_some tagAdded with ⟨_, signedIs⟩
  rcases StunMessage.addAttributes_frame _ laterAdded with ⟨_, _, messageId, _⟩
  rcases StunMessage.write_addFingerprint finished written with ⟨finalId, front, whole, rfl⟩
  have id : final.transactionId = signing.transactionId := by
    rw [finalId, messageId, signedIs]
    exact unsignedId
  have newMessage : final.isLegacy = false := by
    simp only [StunMessage.isLegacy, id, notLegacy, decide_false]
  rw [validateFingerprint_layout crc (StunMessage.header_length (by rw [id]; exact signing.validId))
    (StunMessage.cookieAt_header newMessage) whole, xor_cancel, decide_eq_true rfl]

/-- Everything the message is accepted for: its key, and its FINGERPRINT when that is last and
the message is not a legacy one. -/
structure Agrees (signing : Signing) : Prop where
  integrity : ∀ hmac crc bytes beyond, signing.bytes hmac crc = some bytes →
    validateMessageIntegrity hmac bytes beyond signing.key = some true
  fingerprint : ∀ hmac crc bytes, signing.bytes hmac crc = some bytes →
    signing.additions.getLast? = some .fingerprint →
    signing.transactionId.length ≠ kStunLegacyTransactionIdLength →
    validateFingerprint crc bytes = some true

/-- No attribute in front of the MESSAGE-INTEGRITY is one itself, and the attributes take less
than `2 ^ 16` bytes. -/
def Unambiguous (signing : Signing) : Prop :=
  (∀ attr ∈ signing.attributes, attr.type ≠ STUN_ATTR_MESSAGE_INTEGRITY) ∧ signing.size < 2 ^ 16

theorem Agrees.of_unambiguous (unambiguous : signing.Unambiguous) :
    signing.Agrees := by
  constructor
  · intro hmac crc bytes beyond written
    rcases exists_written written with ⟨parts⟩
    exact parts.accepted unambiguous.1 unambiguous.2 beyond
  · exact fun hmac crc bytes written => fingerprint_accepted written

theorem Agrees.size_lt (agrees : signing.Agrees) {hmac : Hmac} {crc : Crc32}
    {bytes : Bytes} (written : signing.bytes hmac crc = some bytes) : signing.size < 2 ^ 16 := by
  rcases exists_written written with ⟨parts⟩
  rcases validateMessageIntegrity_eq_true (agrees.integrity hmac crc bytes [] written) with
    ⟨_, msgLength, _, _, sameLength, _⟩
  have bound := msgLength.toNat_lt
  have bytesLength := parts.bytes_length
  omega

def constantHmac (byte : UInt8) : Hmac := fun _ _ =>
  ⟨List.replicate kStunMessageIntegritySize byte, length_replicate⟩

theorem Agrees.noIntegrity (agrees : signing.Agrees) (short : signing.size < 2 ^ 16)
    (written : ∀ hmac crc, ∃ bytes, signing.bytes hmac crc = some bytes) :
    ∀ attr ∈ signing.attributes, attr.type ≠ STUN_ATTR_MESSAGE_INTEGRITY := by
  rcases written (constantHmac 0) fun _ => 0 with ⟨zeroBytes, zeroWritten⟩
  rcases written (constantHmac 1) fun _ => 0 with ⟨oneBytes, oneWritten⟩
  rcases exists_written zeroWritten with ⟨zero⟩
  rcases exists_written oneWritten with ⟨one⟩
  rcases zero.exists_records short with ⟨records, split, sameTypes⟩
  have sameFirst : one.first = zero.first :=
    Option.some.inj (one.frontWritten.symm.trans zero.frontWritten)
  have none : ∀ record ∈ records, record.type ≠ STUN_ATTR_MESSAGE_INTEGRITY := by
    cases found : records.find? fun record => record.type = STUN_ATTR_MESSAGE_INTEGRITY with
    | none =>
      intro record member
      have notFound := List.find?_eq_none.mp found record member
      simpa using notFound
    | some record =>
      rcases List.find?_eq_some_iff_append.mp found with ⟨isIntegrity, before, after, rfl, others⟩
      have isIntegrity : record.type = STUN_ATTR_MESSAGE_INTEGRITY := by simpa using isIntegrity
      have beforeOthers : NoIntegrity before := by
        intro other member
        have different := others other member
        simpa using different
      rw [Record.Splits, flatMap_append, flatMap_cons] at split
      rcases zero.earlier_stored beforeOthers isIntegrity split
        (agrees.integrity _ _ zeroBytes [] zeroWritten) with ⟨_, zeroStored⟩
      rcases one.earlier_stored beforeOthers isIntegrity (sameFirst.trans split)
        (agrees.integrity _ _ oneBytes [] oneWritten) with ⟨_, oneStored⟩
      have same := zeroStored.symm.trans oneStored
      cases same
  intro attr member
  have typeOf : attr.type ∈ records.map Record.type := by
    rw [sameTypes]
    exact List.mem_map_of_mem member
  rcases List.mem_map.mp typeOf with ⟨record, recordMember, same⟩
  rw [← same]
  exact none record recordMember

theorem agrees_iff_unambiguous
    (written : ∀ hmac crc, ∃ bytes, signing.bytes hmac crc = some bytes) :
    signing.Agrees ↔ signing.Unambiguous := by
  constructor
  · intro agrees
    rcases written (constantHmac 0) fun _ => 0 with ⟨bytes, isWritten⟩
    have short := agrees.size_lt isWritten
    exact ⟨agrees.noIntegrity short written, short⟩
  · exact Agrees.of_unambiguous

end Signing

/-! ## Calls that return true -/

namespace StunMessage

/-- Every attribute of the message can be written. -/
def Writable (message : StunMessage) : Prop :=
  ∀ attr ∈ message.attrs, ∃ written, attr.write message.transactionId = some written

theorem exists_writeAll {transactionId : Bytes} {attrs : List StunAttribute}
    (writable : ∀ attr ∈ attrs, ∃ written, attr.write transactionId = some written) :
    ∃ written, StunAttribute.writeAll transactionId attrs = some written := by
  induction attrs with
  | nil => exact ⟨[], rfl⟩
  | cons attr attrs induction =>
    rcases writable attr mem_cons_self with ⟨head, headWritten⟩
    rcases induction fun other member => writable other (mem_cons_of_mem _ member) with
      ⟨tail, tailWritten⟩
    exact ⟨head ++ tail, by rw [StunAttribute.writeAll, headWritten, tailWritten]; rfl⟩

variable {message : StunMessage}

theorem Writable.exists_write (writable : message.Writable) :
    ∃ written, message.write = some written := by
  rcases exists_writeAll writable with ⟨body, bodyWritten⟩
  exact ⟨_, write_eq_some.mpr ⟨body, bodyWritten, rfl⟩⟩

theorem Writable.append {next : StunMessage} {attr : StunAttribute}
    (writable : message.Writable) (sameId : next.transactionId = message.transactionId)
    (appended : next.attrs = message.attrs ++ [attr])
    (written : ∃ written, attr.write message.transactionId = some written) : next.Writable := by
  intro other member
  rw [sameId]
  rw [appended] at member
  rcases mem_append.mp member with member | member
  · exact writable other member
  · rw [mem_singleton.mp member]
    exact written

theorem exists_addAttribute {attr : StunAttribute}
    (writable : message.Writable) (allowed : attr.Allowed message.messageClass)
    (written : ∃ written, attr.write message.transactionId = some written) :
    ∃ next, message.addAttribute attr = some next ∧ next.messageClass = message.messageClass ∧
      next.transactionId = message.transactionId ∧ next.Writable :=
  ⟨_, addAttribute_of_allowed allowed, rfl, rfl, writable.append rfl rfl written⟩

theorem messageIntegrity_allowed (messageClass : MessageClass) (bytes : Bytes) :
    StunAttribute.Allowed messageClass ⟨STUN_ATTR_MESSAGE_INTEGRITY, .byteString bytes⟩ := by
  cases messageClass <;> rfl

theorem fingerprint_allowed (messageClass : MessageClass) (bits : UInt32) :
    StunAttribute.Allowed messageClass ⟨STUN_ATTR_FINGERPRINT, .uint32 bits⟩ := by
  cases messageClass <;> rfl

theorem exists_addMessageIntegrity (hmac : Hmac) (key : Bytes) (writable : message.Writable) :
    ∃ next, message.addMessageIntegrity hmac key = some next ∧
      next.messageClass = message.messageClass ∧
      next.transactionId = message.transactionId ∧ next.Writable := by
  rcases exists_addAttribute writable (messageIntegrity_allowed message.messageClass
    (List.replicate kStunMessageIntegritySize 48)) ⟨_, rfl⟩ with
      ⟨dummy, dummyAdded, sameClass, sameId, dummyWritable⟩
  rcases dummyWritable.exists_write with ⟨buf, written⟩
  have added : message.addMessageIntegrity hmac key = some { dummy with
      attrs := message.attrs ++ [⟨STUN_ATTR_MESSAGE_INTEGRITY, .byteString (hmac key (buf.take
        (buf.length - kStunAttributeHeaderSize - kStunMessageIntegritySize))).val⟩] } := by
    simp only [addMessageIntegrity, dummyAdded, bind_eq_bind, bind_some, written,
      Option.pure_def]
  exact ⟨_, added, sameClass, sameId, writable.append sameId rfl ⟨_, rfl⟩⟩

theorem exists_addFingerprint (crc : Crc32) (writable : message.Writable) :
    ∃ next, message.addFingerprint crc = some next ∧ next.messageClass = message.messageClass ∧
      next.transactionId = message.transactionId ∧ next.Writable := by
  rcases exists_addAttribute writable (fingerprint_allowed message.messageClass 0) ⟨_, rfl⟩ with
    ⟨dummy, dummyAdded, sameClass, sameId, dummyWritable⟩
  rcases dummyWritable.exists_write with ⟨buf, written⟩
  have added : message.addFingerprint crc = some { dummy with
      attrs := message.attrs ++ [⟨STUN_ATTR_FINGERPRINT, .uint32 (crc (buf.take
        (buf.length - kStunAttributeHeaderSize - 4)) ^^^ STUN_FINGERPRINT_XOR_VALUE)⟩] } := by
    simp only [addFingerprint, dummyAdded, bind_eq_bind, bind_some, written,
      Option.pure_def]
  exact ⟨_, added, sameClass, sameId, writable.append sameId rfl ⟨_, rfl⟩⟩

end StunMessage

namespace Signing

/-- The attribute can be added to the message and written. -/
def Sound (messageClass : MessageClass) (attr : StunAttribute) : Prop :=
  attr.Allowed messageClass ∧ attr.value.Encodable

def SoundAddition (messageClass : MessageClass) : Addition → Prop
  | .plain attr => Sound messageClass attr
  | .messageIntegrity _ => True
  | .fingerprint => True

theorem exists_addAttributes {attributes : List StunAttribute} : ∀ {message : StunMessage},
    message.Writable → message.transactionId.length = 12 →
    (∀ attr ∈ attributes, Sound message.messageClass attr) →
    ∃ next, message.addAttributes attributes = some next ∧
      next.messageClass = message.messageClass ∧
      next.transactionId = message.transactionId ∧ next.Writable := by
  induction attributes with
  | nil => exact fun writable _ _ => ⟨_, rfl, rfl, rfl, writable⟩
  | cons attr attributes induction =>
    intro message writable isNew sound
    have own := sound attr mem_cons_self
    rcases StunMessage.exists_addAttribute writable own.1
      (StunAttribute.exists_write isNew own.2) with ⟨next, added, sameClass, sameId, nextWritable⟩
    rcases induction nextWritable (by rw [sameId]; exact isNew) (fun other member => by
      rw [sameClass]
      exact sound other (mem_cons_of_mem _ member)) with
        ⟨last, lastAdded, lastClass, lastId, lastWritable⟩
    refine ⟨last, ?_, lastClass.trans sameClass, lastId.trans sameId, lastWritable⟩
    rw [StunMessage.addAttributes, foldlM_cons, added]
    exact lastAdded

theorem exists_additions (hmac : Hmac) (crc : Crc32) {additions : List Addition} :
    ∀ {message : StunMessage}, message.Writable → message.transactionId.length = 12 →
    (∀ addition ∈ additions, SoundAddition message.messageClass addition) →
    ∃ next, additions.foldlM (Addition.apply hmac crc) message = some next ∧ next.Writable := by
  induction additions with
  | nil => exact fun writable _ _ => ⟨_, rfl, writable⟩
  | cons addition additions induction =>
    intro message writable isNew sound
    have own := sound addition mem_cons_self
    have applied : ∃ next, addition.apply hmac crc message = some next ∧
        next.messageClass = message.messageClass ∧
        next.transactionId = message.transactionId ∧ next.Writable := by
      cases addition with
      | plain attr =>
        exact StunMessage.exists_addAttribute writable own.1
          (StunAttribute.exists_write isNew own.2)
      | messageIntegrity key => exact StunMessage.exists_addMessageIntegrity hmac key writable
      | fingerprint => exact StunMessage.exists_addFingerprint crc writable
    rcases applied with ⟨next, isNext, sameClass, sameId, nextWritable⟩
    rcases induction nextWritable (by rw [sameId]; exact isNew) (fun other member => by
      rw [sameClass]
      exact sound other (mem_cons_of_mem _ member)) with ⟨last, lastAdded, lastWritable⟩
    refine ⟨last, ?_, lastWritable⟩
    rw [foldlM_cons, isNext]
    exact lastAdded

theorem exists_bytes {signing : Signing} (isNew : signing.transactionId.length = 12)
    (attributes : ∀ attr ∈ signing.attributes, Sound signing.messageClass attr)
    (additions : ∀ addition ∈ signing.additions, SoundAddition signing.messageClass addition)
    (hmac : Hmac) (crc : Crc32) : ∃ bytes, signing.bytes hmac crc = some bytes := by
  have fresh : (StunMessage.new signing.messageClass signing.type
      signing.transactionId).Writable := by
    intro attr member
    simp [StunMessage.new] at member
  rcases exists_addAttributes fresh isNew attributes with
    ⟨unsigned, built, unsignedClass, unsignedId, unsignedWritable⟩
  rcases StunMessage.exists_addMessageIntegrity hmac signing.key unsignedWritable with
    ⟨signed, integrity, signedClass, signedId, signedWritable⟩
  have sameClass : signed.messageClass = signing.messageClass := signedClass.trans unsignedClass
  have sameId : signed.transactionId = signing.transactionId := signedId.trans unsignedId
  rcases exists_additions hmac crc signedWritable (by rw [sameId]; exact isNew)
    (by rw [sameClass]; exact additions) with ⟨final, added, finalWritable⟩
  rcases finalWritable.exists_write with ⟨bytes, written⟩
  exact ⟨bytes, by simp only [Signing.bytes, Signing.message, bind_eq_bind, built,
    bind_some, integrity, added, written]⟩

end Signing

/-- Building and checking agree: a written message is accepted exactly when it is unambiguous,
and a byte string is accepted only with its HMAC exactly when its first MESSAGE-INTEGRITY is
not cut off. -/
theorem integrity_agreement (signing : Signing)
    (written : ∀ hmac crc, ∃ bytes, signing.bytes hmac crc = some bytes) (data : Bytes) :
    (signing.Agrees ↔ signing.Unambiguous) ∧
      (AcceptsOnlyIntegrity data ↔ ¬TruncatedIntegrity data) := by
  constructor
  · exact Signing.agrees_iff_unambiguous written
  · constructor
    · exact fun only cut => not_acceptsOnlyIntegrity_of_truncated cut only
    · exact acceptsOnlyIntegrity_of_whole

/-- A binding request with a user name, MESSAGE-INTEGRITY and FINGERPRINT. -/
def bindingRequest : Signing where
  messageClass := .iceMessage
  type := 1
  transactionId := List.replicate 12 7
  validId := by decide
  attributes := [⟨STUN_ATTR_USERNAME, .byteString [65]⟩]
  key := [1, 2, 3]
  additions := [.fingerprint]

def cutRequest : Bytes :=
  [0, 1, 0, 20, 0x21, 0x12, 0xA4, 0x42, 1, 2, 3, 4, 5, 6, 7, 8, 9, 10, 11, 12] ++
    ([0, 8, 0, 20] ++ List.replicate 16 0)

theorem cutRequest_truncated : TruncatedIntegrity cutRequest :=
  ⟨[0, 1, 0, 20, 0x21, 0x12, 0xA4, 0x42, 1, 2, 3, 4, 5, 6, 7, 8, 9, 10, 11, 12], [],
    List.replicate 16 0, 20, rfl, fun _ member => absurd member (by simp), rfl, by decide,
    by decide, by decide⟩

theorem not_acceptsOnlyIntegrity_cutRequest : ¬AcceptsOnlyIntegrity cutRequest :=
  not_acceptsOnlyIntegrity_of_truncated cutRequest_truncated

/-- The calls for the binding request return true, so both sides of it are decided. -/
theorem integrity_agreement_bindingRequest :
    (bindingRequest.Agrees ↔ bindingRequest.Unambiguous) ∧
      (AcceptsOnlyIntegrity cutRequest ↔ ¬TruncatedIntegrity cutRequest) := by
  apply integrity_agreement bindingRequest
  apply Signing.exists_bytes
  · rfl
  · intro attr member
    rw [mem_singleton.mp member]
    exact ⟨by decide, trivial⟩
  · intro addition member
    rw [mem_singleton.mp member]
    trivial

end ZyWebRtc.Stun
