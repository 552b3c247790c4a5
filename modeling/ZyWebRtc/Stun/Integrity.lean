import ZyWebRtc.Stun.Codec

namespace ZyWebRtc.Stun

/-! MESSAGE-INTEGRITY and FINGERPRINT: what a message gets when they are added, and the two
checks of a received byte string.

The HMAC and the CRC are arbitrary functions; an HMAC has twenty bytes. The checks look at a
pointer and a size, so what stands behind the byte string in memory is an argument of the one
that looks there. -/

open ByteBuffer Bytes

def kStunMessageIntegritySize : Nat := 20

def STUN_FINGERPRINT_XOR_VALUE : UInt32 := 0x5354554E

def Digest := { bytes : Bytes // bytes.length = kStunMessageIntegritySize }

abbrev Hmac := Bytes → Bytes → Digest

abbrev Crc32 := Bytes → UInt32

def setLength (bytes : Bytes) (length : UInt16) : Bytes :=
  bytes.take 2 ++ (uint16Bytes length ++ bytes.drop 4)

/-- The loop of `ValidateMessageIntegrity`: the position of the first MESSAGE-INTEGRITY from a
position on, `some none` where the check returns false, and no value where it reads outside
the memory. -/
def searchMessageIntegrity (memory : Bytes) (size pos : Nat) : Option (Option Nat) :=
  if size ≤ pos then some none
  else
    match memory.uint16At pos, memory.uint16At (pos + 2) with
    | some attrType, some attrLength =>
      if attrType = STUN_ATTR_MESSAGE_INTEGRITY then
        if attrLength.toNat ≠ kStunMessageIntegritySize ∨ size < pos + attrLength.toNat then
          some none
        else some (some pos)
      else searchMessageIntegrity memory size (pos + 4 + paddedLength attrLength.toNat)
    | _, _ => none
  termination_by size - pos

/-- The bytes in front of the attribute, under the length that a message has which ends with
the attribute. -/
def hmacInput (memory : Bytes) (size miPos : Nat) : Bytes :=
  let tempData := memory.take miPos
  if size > miPos + kStunAttributeHeaderSize + kStunMessageIntegritySize then
    let extraOffset := size - (miPos + kStunAttributeHeaderSize + kStunMessageIntegritySize)
    setLength tempData (UInt16.ofNat (size - extraOffset - kStunHeaderSize))
  else tempData

def validateMessageIntegrity (hmac : Hmac) (data beyond password : Bytes) : Option Bool :=
  let memory := data ++ beyond
  let size := data.length
  if size % 4 ≠ 0 then some false
  else do
    let msgLength ← memory.uint16At 2
    if size ≠ msgLength.toNat + kStunHeaderSize then some false
    else
      match ← searchMessageIntegrity memory size kStunHeaderSize with
      | none => some false
      | some miPos => do
        let stored ← memory.bytesAt (miPos + kStunAttributeHeaderSize) kStunMessageIntegritySize
        pure (stored = (hmac password (hmacInput memory size miPos)).val)

def validateFingerprint (crc : Crc32) (data : Bytes) : Option Bool :=
  let size := data.length
  let fingerprintAttrSize := kStunAttributeHeaderSize + 4
  if size % 4 ≠ 0 ∨ size < kStunHeaderSize + fingerprintAttrSize then some false
  else do
    let magicCookie ← data.uint32At 4
    if magicCookie ≠ kStunMagicCookie then some false
    else do
      let type ← data.uint16At (size - fingerprintAttrSize)
      let length ← data.uint16At (size - fingerprintAttrSize + 2)
      if type ≠ STUN_ATTR_FINGERPRINT ∨ length ≠ 4 then some false
      else do
        let fingerprint ← data.uint32At (size - fingerprintAttrSize + 4)
        pure (fingerprint ^^^ STUN_FINGERPRINT_XOR_VALUE =
          crc (data.take (size - fingerprintAttrSize)))

namespace StunMessage

/-- The message with its MESSAGE-INTEGRITY, or `none` where the call returns false. -/
def addMessageIntegrity (hmac : Hmac) (message : StunMessage) (key : Bytes) :
    Option StunMessage := do
  let dummy ← message.addAttribute
    ⟨STUN_ATTR_MESSAGE_INTEGRITY, .byteString (List.replicate kStunMessageIntegritySize 48)⟩
  let buf ← dummy.write
  let msgLenForHmac := buf.length - kStunAttributeHeaderSize - kStunMessageIntegritySize
  pure { dummy with
    attrs := message.attrs ++ [⟨STUN_ATTR_MESSAGE_INTEGRITY,
      .byteString (hmac key (buf.take msgLenForHmac)).val⟩] }

/-- The message with its FINGERPRINT, or `none` where the call returns false. -/
def addFingerprint (crc : Crc32) (message : StunMessage) : Option StunMessage := do
  let dummy ← message.addAttribute ⟨STUN_ATTR_FINGERPRINT, .uint32 0⟩
  let buf ← dummy.write
  let msgLenForCrc32 := buf.length - kStunAttributeHeaderSize - 4
  pure { dummy with
    attrs := message.attrs ++ [⟨STUN_ATTR_FINGERPRINT,
      .uint32 (crc (buf.take msgLenForCrc32) ^^^ STUN_FINGERPRINT_XOR_VALUE)⟩] }

end StunMessage

/-- What can be added to a message that has its MESSAGE-INTEGRITY. -/
inductive Addition where
  | plain (attr : StunAttribute)
  | messageIntegrity (key : Bytes)
  | fingerprint

namespace Addition

def apply (hmac : Hmac) (crc : Crc32) (message : StunMessage) : Addition → Option StunMessage
  | plain attr => message.addAttribute attr
  | messageIntegrity key => message.addMessageIntegrity hmac key
  | fingerprint => message.addFingerprint crc

end Addition

/-- A message with MESSAGE-INTEGRITY: what is added before it, its key, and what is added
behind it. -/
structure Signing where
  messageClass : MessageClass
  type : UInt16
  transactionId : Bytes
  validId : StunMessage.isValidTransactionId transactionId = true
  attributes : List StunAttribute
  key : Bytes
  additions : List Addition

/-- The message, where every call returns true. -/
def Signing.message (signing : Signing) (hmac : Hmac) (crc : Crc32) : Option StunMessage := do
  let message ← (StunMessage.new signing.messageClass signing.type
    signing.transactionId).addAttributes signing.attributes
  let signed ← message.addMessageIntegrity hmac signing.key
  signing.additions.foldlM (Addition.apply hmac crc) signed

def Signing.bytes (signing : Signing) (hmac : Hmac) (crc : Crc32) : Option Bytes := do
  let message ← signing.message hmac crc
  message.write

end ZyWebRtc.Stun
