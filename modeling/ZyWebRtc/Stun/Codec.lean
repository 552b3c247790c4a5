import ZyWebRtc.Stun.Message

namespace ZyWebRtc.Stun

/-! Writing and reading STUN messages. -/

open Option ByteBuffer Bytes

def getXoredIP (transactionId : Bytes) : IPAddress → IPAddress
  | .ipv4 address => .ipv4 (address ^^^ kStunMagicCookie)
  | .ipv6 address =>
    if transactionId.length = kStunTransactionIdLength then
      .ipv6 {
        first := address.first ^^^ kStunMagicCookie
        second := address.second ^^^ transactionId.uint32Value 0
        third := address.third ^^^ transactionId.uint32Value 4
        fourth := address.fourth ^^^ transactionId.uint32Value 8 }
    else .unspec
  | .unspec => .unspec

def xoredPort (port : UInt16) : UInt16 := port ^^^ (kStunMagicCookie >>> 16).toUInt16

def padding (length : UInt16) : Bytes :=
  if 0 < length.toNat % 4 then List.replicate (4 - length.toNat % 4) 0 else []

def in6AddrBytes (address : In6Addr) : Bytes :=
  uint32Bytes address.first ++ (uint32Bytes address.second ++
    (uint32Bytes address.third ++ uint32Bytes address.fourth))

/-- A family, a port and an address, for a family that has a number. -/
def writeAddress (port : UInt16) : IPAddress → Option Bytes
  | .unspec => none
  | .ipv4 address => some (0 :: 1 :: (uint16Bytes port ++ uint32Bytes address))
  | .ipv6 address => some (0 :: 2 :: (uint16Bytes port ++ in6AddrBytes address))

namespace StunValue

def write (transactionId : Bytes) (value : StunValue) : Option Bytes :=
  match value with
  | address ip port => writeAddress port ip
  | xorAddress ip port => writeAddress (xoredPort port) (getXoredIP transactionId ip)
  | uint32 bits => some (uint32Bytes bits)
  | uint64 bits => some (uint64Bytes bits)
  | byteString bytes => some (bytes.take value.length.toNat ++ padding value.length)
  | errorCode eclass number reason =>
    some (uint32Bytes ((eclass.toUInt32 <<< 8) ||| number.toUInt32) ++
      (reason ++ padding value.length))
  | uint16List attrTypes => some (attrTypes.flatMap uint16Bytes ++ padding value.length)

end StunValue

namespace StunAttribute

def write (transactionId : Bytes) (attr : StunAttribute) : Option Bytes := do
  let body ← attr.value.write transactionId
  pure (uint16Bytes attr.type ++ (uint16Bytes attr.length ++ body))

def writeAll (transactionId : Bytes) : List StunAttribute → Option Bytes
  | [] => some []
  | attr :: attrs => do
    let front ← attr.write transactionId
    let back ← writeAll transactionId attrs
    pure (front ++ back)

end StunAttribute

namespace StunMessage

def header (message : StunMessage) : Bytes :=
  uint16Bytes message.type ++ (uint16Bytes message.length ++
    ((if message.isLegacy then [] else uint32Bytes kStunMagicCookie) ++ message.transactionId))

def write (message : StunMessage) : Option Bytes := do
  let attributes ← StunAttribute.writeAll message.transactionId message.attrs
  pure (message.header ++ attributes)

end StunMessage

/-! ## Reading -/

/-- The padding behind a body of the given length; when it is missing nothing is left out. -/
def consumePadding (length : UInt16) (buffer : Bytes) : Bytes :=
  if 0 < length.toNat % 4 then (consume (4 - length.toNat % 4) buffer).getD buffer else buffer

/-- The length that a new attribute of a kind starts with: the declared one, except for the
kinds of a fixed size. -/
def createdLength (valueType : StunAttributeValueType) (declared : UInt16) : UInt16 :=
  match valueType with
  | .uint32 => 4
  | .uint64 => 8
  | _ => declared

def readIn6Addr (buffer : Bytes) : Option (In6Addr × Bytes) := do
  let (first, buffer) ← readUInt32 buffer
  let (second, buffer) ← readUInt32 buffer
  let (third, buffer) ← readUInt32 buffer
  let (fourth, buffer) ← readUInt32 buffer
  pure ({ first, second, third, fourth }, buffer)

def readAddress (length : UInt16) (buffer : Bytes) : Option ((IPAddress × UInt16) × Bytes) := do
  let (_, buffer) ← readUInt8 buffer
  let (family, buffer) ← readUInt8 buffer
  let (port, buffer) ← readUInt16 buffer
  if family = 1 then
    if length ≠ 8 then none
    else do
      let (address, buffer) ← readUInt32 buffer
      pure ((.ipv4 address, port), buffer)
  else if family = 2 then
    if length ≠ 20 then none
    else do
      let (address, buffer) ← readIn6Addr buffer
      pure ((.ipv6 address, port), buffer)
  else none

def readUInt16s : Nat → Bytes → Option (List UInt16 × Bytes)
  | 0, buffer => some ([], buffer)
  | count + 1, buffer => do
    let (word, buffer) ← readUInt16 buffer
    let (words, buffer) ← readUInt16s count buffer
    pure (word :: words, buffer)

/-- The `Read` of the attribute class for a kind of value, with the length the attribute
was created with. -/
def readValue (transactionId : Bytes) (valueType : StunAttributeValueType) (length : UInt16)
    (buffer : Bytes) : Option (StunValue × Bytes) :=
  match valueType with
  | .unknown => none
  | .address => do
    let ((ip, port), buffer) ← readAddress length buffer
    pure (.address ip port, buffer)
  | .xorAddress => do
    let ((ip, port), buffer) ← readAddress length buffer
    pure (.xorAddress (getXoredIP transactionId ip) (xoredPort port), buffer)
  | .uint32 =>
    if length ≠ 4 then none
    else do
      let (bits, buffer) ← readUInt32 buffer
      pure (.uint32 bits, buffer)
  | .uint64 =>
    if length ≠ 8 then none
    else do
      let (bits, buffer) ← readUInt64 buffer
      pure (.uint64 bits, buffer)
  | .byteString => do
    let (bytes, buffer) ← readBytes length.toNat buffer
    pure (.byteString bytes, consumePadding length buffer)
  | .errorCode =>
    if length < 4 then none
    else do
      let (word, buffer) ← readUInt32 buffer
      let (reason, buffer) ← readBytes (length.toNat - 4) buffer
      pure (.errorCode ((word >>> 8) &&& 0x7).toUInt8 (word &&& 0xff).toUInt8 reason,
        consumePadding length buffer)
  | .uint16List =>
    if length.toNat % 2 ≠ 0 then none
    else do
      let (attrTypes, buffer) ← readUInt16s (length.toNat / 2) buffer
      pure (.uint16List attrTypes, consumePadding length buffer)

/-- The bytes to leave out for an attribute of an unknown type, in 16 bits. -/
def skippedLength (length : UInt16) : UInt16 :=
  if length % 4 ≠ 0 then length + (4 - length % 4) else length

/-- One round of the loop of `StunMessage::Read`: the next attribute, unless its type is
unknown, and the rest of the buffer. -/
def readAttribute (messageClass : MessageClass) (transactionId : Bytes) (buffer : Bytes) :
    Option (Option StunAttribute × Bytes) := do
  let (type, buffer) ← readUInt16 buffer
  let (declared, buffer) ← readUInt16 buffer
  let valueType := messageClass.getAttributeValueType type
  if valueType = .unknown then
    let buffer ← consume (skippedLength declared).toNat buffer
    pure (none, buffer)
  else
    let (value, buffer) ← readValue transactionId valueType (createdLength valueType declared)
      buffer
    pure (some { type, value }, buffer)

/-! ## Reads as equations on the buffer -/

theorem readIn6Addr_eq_some {buffer rest : Bytes} {address : In6Addr} :
    readIn6Addr buffer = some (address, rest) ↔ buffer = in6AddrBytes address ++ rest := by
  simp only [readIn6Addr, bind_eq_bind, bind_eq_some_iff, Prod.exists,
    readUInt32_eq_some, pure_def, Option.some.injEq, Prod.mk.injEq, in6AddrBytes,
    List.append_assoc]
  constructor
  · rintro ⟨first, _, rfl, second, _, rfl, third, _, rfl, fourth, _, rfl, rfl, rfl⟩
    rfl
  · rintro rfl
    exact ⟨_, _, rfl, _, _, rfl, _, _, rfl, _, _, rfl, rfl, rfl⟩

@[simp] theorem readIn6Addr_append (address : In6Addr) (rest : Bytes) :
    readIn6Addr (in6AddrBytes address ++ rest) = some (address, rest) :=
  readIn6Addr_eq_some.mpr rfl

theorem readUInt16s_eq_some {count : Nat} : ∀ {buffer rest : Bytes} {words : List UInt16},
    readUInt16s count buffer = some (words, rest) ↔
      buffer = words.flatMap uint16Bytes ++ rest ∧ words.length = count := by
  induction count with
  | zero =>
    intro buffer rest words
    simp only [readUInt16s, Option.some.injEq, Prod.mk.injEq, List.length_eq_zero_iff]
    constructor
    · rintro ⟨rfl, rfl⟩
      exact ⟨rfl, rfl⟩
    · rintro ⟨rfl, rfl⟩
      exact ⟨rfl, rfl⟩
  | succ count induction =>
    intro buffer rest words
    simp only [readUInt16s, bind_eq_bind, bind_eq_some_iff, Prod.exists,
      readUInt16_eq_some, induction, pure_def, Option.some.injEq, Prod.mk.injEq]
    constructor
    · rintro ⟨word, _, rfl, tail, _, ⟨rfl, rfl⟩, rfl, rfl⟩
      simp
    · rintro ⟨rfl, counted⟩
      cases words with
      | nil => cases counted
      | cons word tail =>
        refine ⟨word, tail.flatMap uint16Bytes ++ rest, ?_, tail, rest, ⟨rfl, ?_⟩, rfl, rfl⟩
        · simp
        · simpa using counted

theorem readAddress_eq_some {length : UInt16} {buffer rest : Bytes} {ip : IPAddress}
    {port : UInt16} :
    readAddress length buffer = some ((ip, port), rest) ↔
      ∃ dummy body, writeAddress port ip = some (0 :: body) ∧
        length = StunValue.addressLength ip ∧ buffer = dummy :: (body ++ rest) := by
  simp only [readAddress, bind_eq_bind, bind_eq_some_iff, Prod.exists,
    readUInt8_eq_some, readUInt16_eq_some]
  constructor
  · rintro ⟨dummy, _, rfl, family, _, rfl, portRead, buffer, rfl, read⟩
    by_cases isFour : family = 1
    · by_cases isEight : length = 8
      · simp only [isFour, isEight, if_true, ne_eq, not_true, if_false, bind_eq_some_iff,
          Prod.exists, readUInt32_eq_some, pure_def, Option.some.injEq,
          Prod.mk.injEq] at read
        rcases read with ⟨address, _, rfl, ⟨rfl, rfl⟩, rfl⟩
        exact ⟨dummy, _, rfl, isEight, by simp [isFour]⟩
      · simp [isFour, isEight] at read
    · by_cases isSix : family = 2
      · have notFour : ¬((2 : UInt8) = 1) := by decide
        by_cases isTwenty : length = 20
        · simp only [isSix, notFour, isTwenty, if_true, ne_eq, not_true, if_false,
            bind_eq_some_iff, Prod.exists, readIn6Addr_eq_some, pure_def,
            Option.some.injEq, Prod.mk.injEq] at read
          rcases read with ⟨address, _, rfl, ⟨rfl, rfl⟩, rfl⟩
          exact ⟨dummy, _, rfl, isTwenty, by simp [isSix]⟩
        · simp [isSix, isTwenty] at read
      · simp [isFour, isSix] at read
  · rintro ⟨dummy, body, written, rfl, rfl⟩
    cases ip with
    | unspec => cases written
    | ipv4 address =>
      cases written
      refine ⟨dummy, _, rfl, 1, _, rfl, port, uint32Bytes address ++ rest, ?_, ?_⟩
      · simp
      · simp [StunValue.addressLength]
    | ipv6 address =>
      cases written
      refine ⟨dummy, _, rfl, 2, _, rfl, port, in6AddrBytes address ++ rest, ?_, ?_⟩
      · simp
      · simp [StunValue.addressLength]

/-! ## What one attribute takes from the buffer -/

theorem consumePadding_length_le (length : UInt16) (buffer : Bytes) :
    (consumePadding length buffer).length ≤ buffer.length := by
  unfold consumePadding
  split
  · cases consumed : consume (4 - length.toNat % 4) buffer with
    | none => exact Nat.le_refl _
    | some rest =>
      rcases consume_eq_some.mp consumed with ⟨skipped, rfl, _⟩
      simp
  · exact Nat.le_refl _

theorem consumePadding_of_dvd {length : UInt16} (buffer : Bytes) (whole : length.toNat % 4 = 0) :
    consumePadding length buffer = buffer := by
  simp [consumePadding, whole]

theorem writeAddress_length {port : UInt16} {ip : IPAddress} {written : Bytes}
    (isWritten : writeAddress port ip = some written) :
    written.length = (StunValue.addressLength ip).toNat := by
  cases ip with
  | unspec => cases isWritten
  | ipv4 address => cases isWritten; rfl
  | ipv6 address => cases isWritten; rfl

theorem addressLength_dvd (ip : IPAddress) : (StunValue.addressLength ip).toNat % 4 = 0 := by
  cases ip <;> simp [StunValue.addressLength]

theorem readAddress_body {length : UInt16} {buffer rest : Bytes} {ip : IPAddress}
    {port : UInt16} (read : readAddress length buffer = some ((ip, port), rest)) :
    ∃ body, buffer = body ++ rest ∧ body.length = length.toNat ∧ length.toNat % 4 = 0 ∧
      readAddress length body = some ((ip, port), []) := by
  rcases readAddress_eq_some.mp read with ⟨dummy, body, written, rfl, rfl⟩
  refine ⟨dummy :: body, rfl, ?_, addressLength_dvd ip, ?_⟩
  · have size := writeAddress_length written
    simpa using size
  · exact readAddress_eq_some.mpr ⟨dummy, body, written, rfl, by simp⟩

theorem flatMap_uint16Bytes_length (words : List UInt16) :
    (words.flatMap uint16Bytes).length = 2 * words.length := by
  induction words with
  | nil => rfl
  | cons word words induction =>
    rw [List.flatMap_cons, List.length_append, induction, uint16Bytes_length, List.length_cons]
    omega

/-- An attribute takes exactly the length it was created with and its padding, and its value
depends on nothing but these bytes. -/
theorem readValue_body {transactionId : Bytes} {valueType : StunAttributeValueType}
    {length : UInt16} {buffer rest : Bytes} {value : StunValue}
    (read : readValue transactionId valueType length buffer = some (value, rest)) :
    ∃ body after, buffer = body ++ after ∧ body.length = length.toNat ∧
      rest = consumePadding length after ∧
      readValue transactionId valueType length body = some (value, consumePadding length []) := by
  cases valueType with
  | unknown => cases read
  | address =>
    simp only [readValue, bind_eq_bind, bind_eq_some_iff, Prod.exists,
      pure_def, Option.some.injEq, Prod.mk.injEq] at read ⊢
    rcases read with ⟨ip, port, after, taken, rfl, rfl⟩
    rcases readAddress_body taken with ⟨body, rfl, size, whole, again⟩
    exact ⟨body, after, rfl, size, (consumePadding_of_dvd _ whole).symm, ip, port, [], again,
      rfl, (consumePadding_of_dvd _ whole).symm⟩
  | xorAddress =>
    simp only [readValue, bind_eq_bind, bind_eq_some_iff, Prod.exists,
      pure_def, Option.some.injEq, Prod.mk.injEq] at read ⊢
    rcases read with ⟨ip, port, after, taken, rfl, rfl⟩
    rcases readAddress_body taken with ⟨body, rfl, size, whole, again⟩
    exact ⟨body, after, rfl, size, (consumePadding_of_dvd _ whole).symm, ip, port, [], again,
      rfl, (consumePadding_of_dvd _ whole).symm⟩
  | uint32 =>
    by_cases isFour : length = 4
    · subst isFour
      simp only [readValue, ne_eq, not_true, if_false, bind_eq_bind,
        bind_eq_some_iff, Prod.exists, readUInt32_eq_some, pure_def,
        Option.some.injEq, Prod.mk.injEq] at read ⊢
      rcases read with ⟨bits, after, rfl, rfl, rfl⟩
      exact ⟨uint32Bytes bits, after, rfl, rfl, rfl, bits, [], by simp, rfl, rfl⟩
    · simp [readValue, isFour] at read
  | uint64 =>
    by_cases isEight : length = 8
    · subst isEight
      simp only [readValue, ne_eq, not_true, if_false, bind_eq_bind,
        bind_eq_some_iff, Prod.exists, readUInt64_eq_some, pure_def,
        Option.some.injEq, Prod.mk.injEq] at read ⊢
      rcases read with ⟨bits, after, rfl, rfl, rfl⟩
      exact ⟨uint64Bytes bits, after, rfl, rfl, rfl, bits, [], by simp, rfl, rfl⟩
    · simp [readValue, isEight] at read
  | byteString =>
    simp only [readValue, bind_eq_bind, bind_eq_some_iff, Prod.exists,
      readBytes_eq_some, pure_def, Option.some.injEq, Prod.mk.injEq] at read ⊢
    rcases read with ⟨bytes, after, ⟨rfl, size⟩, rfl, rfl⟩
    exact ⟨bytes, after, rfl, size, rfl, bytes, [], ⟨by simp, size⟩, rfl, rfl⟩
  | errorCode =>
    by_cases tooShort : length < 4
    · simp [readValue, tooShort] at read
    · simp only [readValue, tooShort, if_false, bind_eq_bind, bind_eq_some_iff,
        Prod.exists, readUInt32_eq_some, readBytes_eq_some, pure_def, Option.some.injEq,
        Prod.mk.injEq] at read ⊢
      rcases read with ⟨word, _, rfl, reason, after, ⟨rfl, size⟩, rfl, rfl⟩
      have atLeast : 4 ≤ length.toNat := by
        simpa using UInt16.le_iff_toNat_le.mp (UInt16.not_lt.mp tooShort)
      exact ⟨uint32Bytes word ++ reason, after, by simp, by simp [size]; omega, rfl,
        word, reason, rfl, reason, [], ⟨by simp, size⟩, rfl, rfl⟩
  | uint16List =>
    by_cases isOdd : length.toNat % 2 ≠ 0
    · simp [readValue, isOdd] at read
    · simp only [readValue, isOdd, if_false, bind_eq_bind, bind_eq_some_iff,
        Prod.exists, readUInt16s_eq_some, pure_def, Option.some.injEq,
        Prod.mk.injEq] at read ⊢
      rcases read with ⟨words, after, ⟨rfl, size⟩, rfl, rfl⟩
      exact ⟨words.flatMap uint16Bytes, after, rfl,
        by rw [flatMap_uint16Bytes_length, size]; omega, rfl, words, [], ⟨by simp, size⟩, rfl, rfl⟩

theorem readAttribute_length {messageClass : MessageClass} {transactionId buffer rest : Bytes}
    {attr : Option StunAttribute}
    (read : readAttribute messageClass transactionId buffer = some (attr, rest)) :
    rest.length < buffer.length := by
  simp only [readAttribute, bind_eq_bind, bind_eq_some_iff, Prod.exists, readUInt16_eq_some] at read
  rcases read with ⟨type, _, rfl, declared, after, rfl, read⟩
  simp only [List.length_append, uint16Bytes_length]
  split at read
  · simp only [bind_eq_some_iff, pure_def, Option.some.injEq, Prod.mk.injEq] at read
    rcases read with ⟨_, consumed, rfl, rfl⟩
    rcases consume_eq_some.mp consumed with ⟨skipped, rfl, _⟩
    simp
    omega
  · simp only [bind_eq_some_iff, Prod.exists, pure_def, Option.some.injEq,
      Prod.mk.injEq] at read
    rcases read with ⟨value, _, taken, rfl, rfl⟩
    rcases readValue_body taken with ⟨body, behind, rfl, _, rfl, _⟩
    have shorter := consumePadding_length_le (createdLength
      (messageClass.getAttributeValueType type) declared) behind
    simp
    omega

/-- The loop of `StunMessage::Read`, until the buffer is read. Each round takes at least the
four bytes of a type and a length. -/
def readAttributes (messageClass : MessageClass) (transactionId buffer : Bytes) :
    Option (List StunAttribute × Bytes) :=
  if buffer.length = 0 then some ([], buffer)
  else
    match _ : readAttribute messageClass transactionId buffer with
    | none => none
    | some (attr, rest) =>
      (readAttributes messageClass transactionId rest).map fun (attrs, last) =>
        (attr.toList ++ attrs, last)
  termination_by buffer.length
  decreasing_by exact readAttribute_length ‹_›

namespace StunMessage

/-- The message in the buffer and the bytes behind it, or `none` where `Read` returns false.
Without the magic cookie its place belongs to the transaction id. -/
def read (messageClass : MessageClass) (buffer : Bytes) : Option (StunMessage × Bytes) := do
  let (type, buffer) ← readUInt16 buffer
  if type &&& 0x8000 ≠ 0 then none
  else do
    let (length, buffer) ← readUInt16 buffer
    let (magicCookie, buffer) ← readBytes 4 buffer
    let (id, buffer) ← readBytes kStunTransactionIdLength buffer
    let transactionId :=
      if magicCookie ≠ uint32Bytes kStunMagicCookie then magicCookie ++ id else id
    if length.toNat ≠ buffer.length then none
    else do
      let (attrs, buffer) ← readAttributes messageClass transactionId buffer
      pure ({ messageClass, type, length, transactionId, attrs }, buffer)

end StunMessage

end ZyWebRtc.Stun
