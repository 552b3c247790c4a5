import ZyWebRtc.Stun.Records
import ZyWebRtc.Stun.RoundTrip
import ZyWebRtc.Stun.Integrity

namespace ZyWebRtc.Stun

/-! The layout of written messages: a header of twenty bytes, and a record for each attribute
as long as the attributes take less than `2 ^ 16` bytes. The length a message keeps is what
its attributes take, in 16 bits. -/

open List Option ByteBuffer Bytes

/-! ## Written values -/

theorem paddedLength_mod (length : Nat) : paddedLength length % 4 = 0 := by
  unfold paddedLength
  split <;> omega

namespace StunValue

theorem addressLength_getXoredIP_of_written {transactionId : Bytes} {ip : IPAddress}
    {port : UInt16} {written : Bytes}
    (isWritten : writeAddress port (getXoredIP transactionId ip) = some written) :
    addressLength (getXoredIP transactionId ip) = addressLength ip := by
  cases ip with
  | unspec => rfl
  | ipv4 address => rfl
  | ipv6 address =>
    by_cases isNew : transactionId.length = kStunTransactionIdLength
    · simp [getXoredIP, isNew, addressLength]
    · simp [getXoredIP, isNew, writeAddress] at isWritten

/-- How many bytes `Write` puts for the value. Only the padding follows the 16-bit length where
the value has more bytes than that. -/
def writtenLength (value : StunValue) : Nat :=
  match value with
  | address ip _ => (addressLength ip).toNat
  | xorAddress ip _ => (addressLength ip).toNat
  | uint32 _ => 4
  | uint64 _ => 8
  | byteString _ => paddedLength value.length.toNat
  | errorCode _ _ reason =>
    4 + reason.length + (paddedLength value.length.toNat - value.length.toNat)
  | uint16List attrTypes =>
    2 * attrTypes.length + (paddedLength value.length.toNat - value.length.toNat)

theorem length_of_write {transactionId body : Bytes} {value : StunValue}
    (written : value.write transactionId = some body) : body.length = value.writtenLength := by
  cases value with
  | address ip port => exact writeAddress_length written
  | xorAddress ip port =>
    rw [writeAddress_length written, addressLength_getXoredIP_of_written written]
    rfl
  | uint32 bits => cases written; rfl
  | uint64 bits => cases written; rfl
  | byteString bytes =>
    cases written
    have kept : (byteString bytes).length.toNat ≤ bytes.length := by
      simp only [length, UInt16.toNat_ofNat']
      exact Nat.mod_le _ _
    have padded := le_paddedLength (byteString bytes).length.toNat
    rw [length_append, padding_length, length_take, Nat.min_eq_left kept, writtenLength]
    omega
  | errorCode eclass number reason =>
    cases written
    rw [length_append, length_append, padding_length, uint32Bytes_length, writtenLength]
    omega
  | uint16List attrTypes =>
    cases written
    rw [length_append, padding_length, flatMap_uint16Bytes_length, writtenLength]

theorem writtenLength_mod (value : StunValue) :
    value.writtenLength % 2 ^ 16 = paddedLength value.length.toNat % 2 ^ 16 := by
  cases value with
  | address ip port => simp [writtenLength, length, paddedLength, addressLength_dvd]
  | xorAddress ip port => simp [writtenLength, length, paddedLength, addressLength_dvd]
  | uint32 bits => simp [writtenLength, length, paddedLength]
  | uint64 bits => simp [writtenLength, length, paddedLength]
  | byteString bytes => rfl
  | errorCode eclass number reason =>
    have kept : (errorCode eclass number reason).length.toNat = (4 + reason.length) % 2 ^ 16 := by
      simp only [length, UInt16.toNat_add, UInt16.toNat_ofNat']
      change (4 + reason.length % 2 ^ 16) % 2 ^ 16 = _
      omega
    have padded := le_paddedLength (errorCode eclass number reason).length.toNat
    rw [writtenLength]
    omega
  | uint16List attrTypes =>
    have kept : (uint16List attrTypes).length.toNat = 2 * attrTypes.length % 2 ^ 16 := by
      simp only [length, UInt16.toNat_ofNat']
      omega
    have padded := le_paddedLength (uint16List attrTypes).length.toNat
    rw [writtenLength]
    omega

theorem writtenLength_dvd (value : StunValue) : value.writtenLength % 4 = 0 := by
  have same := value.writtenLength_mod
  have padded := paddedLength_mod value.length.toNat
  omega

theorem write_split {transactionId body : Bytes} {value : StunValue}
    (written : value.write transactionId = some body) (short : body.length < 2 ^ 16) :
    ∃ front back, body = front ++ back ∧ front.length = value.length.toNat ∧
      back.length = paddedLength value.length.toNat - value.length.toNat := by
  have size := length_of_write written
  have same := value.writtenLength_mod
  have padded := le_paddedLength value.length.toNat
  have atMost : value.length.toNat ≤ body.length := by
    cases value with
    | address ip port => exact Nat.le_of_eq (writeAddress_length written).symm
    | xorAddress ip port => exact Nat.le_of_eq (size ▸ rfl)
    | uint32 bits => exact Nat.le_of_eq (size ▸ rfl)
    | uint64 bits => exact Nat.le_of_eq (size ▸ rfl)
    | byteString bytes => rw [size]; exact padded
    | errorCode eclass number reason =>
      rw [writtenLength] at size
      have kept : (errorCode eclass number reason).length.toNat = (4 + reason.length) % 2 ^ 16 := by
        simp only [length, UInt16.toNat_add, UInt16.toNat_ofNat']
        change (4 + reason.length % 2 ^ 16) % 2 ^ 16 = _
        omega
      omega
    | uint16List attrTypes =>
      rw [writtenLength] at size
      have kept : (uint16List attrTypes).length.toNat = 2 * attrTypes.length % 2 ^ 16 := by
        simp only [length, UInt16.toNat_ofNat']
        omega
      omega
  refine ⟨body.take value.length.toNat, body.drop value.length.toNat,
    (take_append_drop _ _).symm, by simp [atMost], ?_⟩
  have bound := value.length.toNat_lt
  have aligned := paddedLength_mod value.length.toNat
  have dvd := value.writtenLength_dvd
  have close : paddedLength value.length.toNat < value.length.toNat + 4 := by
    unfold paddedLength
    split <;> omega
  rw [length_drop]
  omega

end StunValue

/-! ## Written attributes -/

namespace StunAttribute

def writtenSize (attr : StunAttribute) : Nat := 4 + attr.value.writtenLength

section

variable {transactionId written : Bytes} {attr : StunAttribute}

theorem length_of_write (isWritten : attr.write transactionId = some written) :
    written.length = attr.writtenSize := by
  simp only [write, bind_eq_bind, bind_eq_some_iff, Option.pure_def, Option.some.injEq] at isWritten
  rcases isWritten with ⟨body, bodyWritten, rfl⟩
  rw [length_append, length_append, StunValue.length_of_write bodyWritten,
    uint16Bytes_length, uint16Bytes_length, writtenSize]
  omega

theorem exists_record (isWritten : attr.write transactionId = some written)
    (short : written.length < 2 ^ 16) :
    ∃ record : Record, record.bytes = written ∧ record.type = attr.type := by
  simp only [write, bind_eq_bind, bind_eq_some_iff, Option.pure_def, Option.some.injEq] at isWritten
  rcases isWritten with ⟨body, bodyWritten, rfl⟩
  simp only [length_append, uint16Bytes_length] at short
  rcases StunValue.write_split bodyWritten (by omega) with ⟨front, back, rfl, frontLength, backLength⟩
  have bound := attr.value.length.toNat_lt
  refine ⟨⟨attr.type, front, back, by omega, by rw [frontLength, backLength]⟩, ?_, rfl⟩
  have declared : UInt16.ofNat front.length = attr.length := by
    rw [frontLength, UInt16.ofNat_toNat]
    rfl
  simp only [Record.bytes, Record.declared, declared]

theorem writeAll_append {transactionId : Bytes} (front back : List StunAttribute) :
    ∀ {written : Bytes}, writeAll transactionId (front ++ back) = some written →
      ∃ first second, written = first ++ second ∧ writeAll transactionId front = some first ∧
        writeAll transactionId back = some second := by
  induction front with
  | nil => exact fun isWritten => ⟨[], _, rfl, rfl, isWritten⟩
  | cons attr front induction =>
    intro written isWritten
    simp only [cons_append, writeAll, bind_eq_bind, bind_eq_some_iff,
      Option.pure_def, Option.some.injEq] at isWritten ⊢
    rcases isWritten with ⟨head, headWritten, tail, tailWritten, rfl⟩
    rcases induction tailWritten with ⟨first, second, rfl, firstWritten, secondWritten⟩
    exact ⟨head ++ first, second, by rw [append_assoc],
      ⟨head, headWritten, first, firstWritten, rfl⟩, secondWritten⟩

theorem writeAll_single (isWritten : writeAll transactionId [attr] = some written) :
    attr.write transactionId = some written := by
  simp only [writeAll, bind_eq_bind, bind_eq_some_iff, Option.pure_def,
    Option.some.injEq] at isWritten
  rcases isWritten with ⟨head, headWritten, tail, rfl, rfl⟩
  rw [append_nil]
  exact headWritten

end

theorem length_of_writeAll {transactionId : Bytes} (attrs : List StunAttribute) :
    ∀ {written : Bytes}, writeAll transactionId attrs = some written →
      written.length = (attrs.map writtenSize).sum := by
  induction attrs with
  | nil =>
    intro written isWritten
    cases isWritten
    rfl
  | cons attr attrs induction =>
    intro written isWritten
    simp only [writeAll, bind_eq_bind, bind_eq_some_iff, Option.pure_def,
      Option.some.injEq] at isWritten
    rcases isWritten with ⟨head, headWritten, tail, tailWritten, rfl⟩
    rw [length_append, length_of_write headWritten, induction tailWritten, map_cons, sum_cons]

theorem exists_records {transactionId : Bytes} (attrs : List StunAttribute) :
    ∀ {written : Bytes}, writeAll transactionId attrs = some written → written.length < 2 ^ 16 →
      ∃ records : List Record, Record.Splits records written ∧
        records.map Record.type = attrs.map type := by
  induction attrs with
  | nil =>
    intro written isWritten _
    cases isWritten
    exact ⟨[], rfl, rfl⟩
  | cons attr attrs induction =>
    intro written isWritten short
    simp only [writeAll, bind_eq_bind, bind_eq_some_iff, Option.pure_def,
      Option.some.injEq] at isWritten
    rcases isWritten with ⟨head, headWritten, tail, tailWritten, rfl⟩
    rw [length_append] at short
    rcases exists_record headWritten (by omega) with ⟨record, rfl, sameType⟩
    rcases induction tailWritten (by omega) with ⟨records, rfl, sameTypes⟩
    exact ⟨record :: records, rfl, by rw [map_cons, map_cons, sameType, sameTypes]⟩

end StunAttribute

/-! ## Written messages -/

namespace StunMessage

/-- The length that the message keeps is what its attributes take. -/
def Accounted (message : StunMessage) : Prop :=
  message.length.toNat = (message.attrs.map StunAttribute.writtenSize).sum % 2 ^ 16

theorem addAttribute_of_allowed {message : StunMessage} {attr : StunAttribute}
    (allowed : attr.Allowed message.messageClass) :
    message.addAttribute attr = some { message with
      attrs := message.attrs ++ [attr]
      length := message.length + UInt16.ofNat (paddedLength attr.length.toNat + 4) } :=
  if_neg (not_not.mpr allowed)

theorem Accounted.addAttribute {message next : StunMessage} {attr : StunAttribute}
    (accounted : message.Accounted) (added : message.addAttribute attr = some next) :
    next.Accounted := by
  rcases addAttribute_eq_some added with ⟨_, rfl⟩
  have same := attr.value.writtenLength_mod
  unfold Accounted at *
  simp only [UInt16.toNat_add, UInt16.toNat_ofNat', accounted, map_append, map_cons,
    map_nil, sum_append, sum_cons, sum_nil, StunAttribute.writtenSize,
    StunAttribute.length]
  omega

theorem Accounted.addAttributes (attributes : List StunAttribute) :
    ∀ {message last : StunMessage}, message.Accounted →
      message.addAttributes attributes = some last → last.Accounted := by
  induction attributes with
  | nil =>
    intro message last accounted added
    cases added
    exact accounted
  | cons attr attributes induction =>
    intro message last accounted added
    rw [StunMessage.addAttributes, foldlM_cons, bind_eq_bind, bind_eq_some_iff] at added
    rcases added with ⟨next, head, tail⟩
    exact induction (accounted.addAttribute head) tail

theorem header_length {message : StunMessage}
    (valid : isValidTransactionId message.transactionId = true) : message.header.length = 20 := by
  rcases Bool.or_eq_true_iff.mp valid with isNew | legacy
  · have isNew : message.transactionId.length = 12 := of_decide_eq_true isNew
    have notLegacy : message.isLegacy = false := by
      simp [isLegacy, isNew, kStunLegacyTransactionIdLength]
    simp [header, notLegacy, isNew]
  · have legacy : message.transactionId.length = 16 := of_decide_eq_true legacy
    have isLegacy : message.isLegacy = true := by
      simp [isLegacy, legacy, kStunLegacyTransactionIdLength]
    simp [header, isLegacy, legacy]

theorem header_congr {message other : StunMessage} (sameType : message.type = other.type)
    (sameLength : message.length = other.length)
    (sameId : message.transactionId = other.transactionId) : message.header = other.header := by
  cases message
  cases other
  cases sameType
  cases sameLength
  cases sameId
  rfl

theorem write_eq_some {message : StunMessage} {written : Bytes} :
    message.write = some written ↔ ∃ body,
      StunAttribute.writeAll message.transactionId message.attrs = some body ∧
        written = message.header ++ body := by
  simp only [write, bind_eq_bind, bind_eq_some_iff, Option.pure_def, Option.some.injEq]
  constructor
  · rintro ⟨body, bodyWritten, rfl⟩
    exact ⟨body, bodyWritten, rfl⟩
  · rintro ⟨body, bodyWritten, rfl⟩
    exact ⟨body, bodyWritten, rfl⟩

theorem setLength_header (message : StunMessage) (length : UInt16) (body : Bytes) :
    setLength (message.header ++ body) length = { message with length }.header ++ body := by
  simp only [setLength, header, isLegacy, uint16Bytes, cons_append, nil_append,
    take_succ_cons, take_zero, drop_succ_cons, drop_zero]
  rfl

theorem uint16At_header (message : StunMessage) (rest : Bytes) :
    (message.header ++ rest).uint16At 2 = some message.length := by
  have split : message.header ++ rest = uint16Bytes message.type ++ (uint16Bytes message.length ++
      ((if message.isLegacy then [] else uint32Bytes kStunMagicCookie) ++
        (message.transactionId ++ rest))) := by
    simp only [header, append_assoc]
  have behind := uint16At_append (uint16Bytes message.type) (uint16Bytes message.length ++
      ((if message.isLegacy then [] else uint32Bytes kStunMagicCookie) ++
        (message.transactionId ++ rest))) 0
  rw [uint16Bytes_length, uint16At_uint16Bytes] at behind
  rw [split]
  exact behind

end StunMessage

end ZyWebRtc.Stun
