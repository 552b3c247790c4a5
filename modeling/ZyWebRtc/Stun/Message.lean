import ZyWebRtc.Foundation.ByteBuffer
import ZyWebRtc.Foundation.SocketAddress

namespace ZyWebRtc.Stun

/-! STUN messages: the attribute types with the kinds of their values, and the messages
that `AddAttribute` builds.

The length that an attribute keeps is the one its setters compute from its value, and every
attribute of a message has that message as its owner, so neither is a field of its own. -/

/-! ## Attribute types -/

def STUN_ATTR_MAPPED_ADDRESS : UInt16 := 0x0001
def STUN_ATTR_USERNAME : UInt16 := 0x0006
def STUN_ATTR_MESSAGE_INTEGRITY : UInt16 := 0x0008
def STUN_ATTR_ERROR_CODE : UInt16 := 0x0009
def STUN_ATTR_UNKNOWN_ATTRIBUTES : UInt16 := 0x000a
def STUN_ATTR_REALM : UInt16 := 0x0014
def STUN_ATTR_NONCE : UInt16 := 0x0015
def STUN_ATTR_XOR_MAPPED_ADDRESS : UInt16 := 0x0020
def STUN_ATTR_SOFTWARE : UInt16 := 0x8022
def STUN_ATTR_ALTERNATE_SERVER : UInt16 := 0x8023
def STUN_ATTR_FINGERPRINT : UInt16 := 0x8028
def STUN_ATTR_RETRANSMIT_COUNT : UInt16 := 0xFF00

def STUN_ATTR_LIFETIME : UInt16 := 0x000d
def STUN_ATTR_MAGIC_COOKIE : UInt16 := 0x000f
def STUN_ATTR_BANDWIDTH : UInt16 := 0x0010
def STUN_ATTR_DESTINATION_ADDRESS : UInt16 := 0x0011
def STUN_ATTR_SOURCE_ADDRESS2 : UInt16 := 0x0012
def STUN_ATTR_DATA : UInt16 := 0x0013
def STUN_ATTR_OPTIONS : UInt16 := 0x8001

def STUN_ATTR_CHANNEL_NUMBER : UInt16 := 0x000C
def STUN_ATTR_TURN_LIFETIME : UInt16 := 0x000d
def STUN_ATTR_XOR_PEER_ADDRESS : UInt16 := 0x0012
def STUN_ATTR_XOR_RELAYED_ADDRESS : UInt16 := 0x0016
def STUN_ATTR_EVEN_PORT : UInt16 := 0x0018
def STUN_ATTR_REQUESTED_TRANSPORT : UInt16 := 0x0019
def STUN_ATTR_DONT_FRAGMENT : UInt16 := 0x001A
def STUN_ATTR_RESERVATION_TOKEN : UInt16 := 0x0022

def STUN_ATTR_PRIORITY : UInt16 := 0x0024
def STUN_ATTR_USE_CANDIDATE : UInt16 := 0x0025
def STUN_ATTR_ICE_CONTROLLED : UInt16 := 0x8029
def STUN_ATTR_ICE_CONTROLLING : UInt16 := 0x802A

inductive StunAttributeValueType where
  | unknown
  | address
  | xorAddress
  | uint32
  | uint64
  | byteString
  | errorCode
  | uint16List
  deriving DecidableEq, Repr

/-- The class of a message, which decides the attribute types it knows. -/
inductive MessageClass where
  | stunMessage
  | relayMessage
  | turnMessage
  | iceMessage
  deriving DecidableEq, Repr

namespace MessageClass

def ownValueTypes : MessageClass → List (UInt16 × StunAttributeValueType)
  | stunMessage => []
  | relayMessage =>
    [(STUN_ATTR_LIFETIME, .uint32), (STUN_ATTR_MAGIC_COOKIE, .byteString),
      (STUN_ATTR_BANDWIDTH, .uint32), (STUN_ATTR_DESTINATION_ADDRESS, .address),
      (STUN_ATTR_SOURCE_ADDRESS2, .address), (STUN_ATTR_DATA, .byteString),
      (STUN_ATTR_OPTIONS, .uint32)]
  | turnMessage =>
    [(STUN_ATTR_CHANNEL_NUMBER, .uint32), (STUN_ATTR_TURN_LIFETIME, .uint32),
      (STUN_ATTR_XOR_PEER_ADDRESS, .xorAddress), (STUN_ATTR_DATA, .byteString),
      (STUN_ATTR_XOR_RELAYED_ADDRESS, .xorAddress), (STUN_ATTR_EVEN_PORT, .byteString),
      (STUN_ATTR_REQUESTED_TRANSPORT, .uint32), (STUN_ATTR_DONT_FRAGMENT, .byteString),
      (STUN_ATTR_RESERVATION_TOKEN, .byteString)]
  | iceMessage =>
    [(STUN_ATTR_PRIORITY, .uint32), (STUN_ATTR_USE_CANDIDATE, .byteString),
      (STUN_ATTR_ICE_CONTROLLED, .uint64), (STUN_ATTR_ICE_CONTROLLING, .uint64)]

def stunValueTypes : List (UInt16 × StunAttributeValueType) :=
  [(STUN_ATTR_MAPPED_ADDRESS, .address), (STUN_ATTR_USERNAME, .byteString),
    (STUN_ATTR_MESSAGE_INTEGRITY, .byteString), (STUN_ATTR_ERROR_CODE, .errorCode),
    (STUN_ATTR_UNKNOWN_ATTRIBUTES, .uint16List), (STUN_ATTR_REALM, .byteString),
    (STUN_ATTR_NONCE, .byteString), (STUN_ATTR_XOR_MAPPED_ADDRESS, .xorAddress),
    (STUN_ATTR_SOFTWARE, .byteString), (STUN_ATTR_ALTERNATE_SERVER, .byteString),
    (STUN_ATTR_FINGERPRINT, .uint32), (STUN_ATTR_RETRANSMIT_COUNT, .uint32)]

def getAttributeValueType (messageClass : MessageClass) (type : UInt16) :
    StunAttributeValueType :=
  ((messageClass.ownValueTypes ++ stunValueTypes).lookup type).getD .unknown

example : getAttributeValueType .turnMessage 0x0012 = .xorAddress := by decide

example : getAttributeValueType .relayMessage 0x0012 = .address := by decide

example : getAttributeValueType .stunMessage 0x0012 = .unknown := by decide

end MessageClass

inductive StunValue where
  | address (ip : IPAddress) (port : UInt16)
  | xorAddress (ip : IPAddress) (port : UInt16)
  | uint32 (bits : UInt32)
  | uint64 (bits : UInt64)
  | byteString (bytes : Bytes)
  | errorCode (eclass number : UInt8) (reason : Bytes)
  | uint16List (attrTypes : List UInt16)
  deriving DecidableEq, Repr

namespace StunValue

def valueType : StunValue → StunAttributeValueType
  | address _ _ => .address
  | xorAddress _ _ => .xorAddress
  | uint32 _ => .uint32
  | uint64 _ => .uint64
  | byteString _ => .byteString
  | errorCode _ _ _ => .errorCode
  | uint16List _ => .uint16List

def addressLength : IPAddress → UInt16
  | .unspec => 0
  | .ipv4 _ => 8
  | .ipv6 _ => 20

/-- The length that the setters of each class keep, in 16 bits. -/
def length : StunValue → UInt16
  | address ip _ => addressLength ip
  | xorAddress ip _ => addressLength ip
  | uint32 _ => 4
  | uint64 _ => 8
  | byteString bytes => UInt16.ofNat bytes.length
  | errorCode _ _ reason => 4 + UInt16.ofNat reason.length
  | uint16List attrTypes => UInt16.ofNat (attrTypes.length * 2)

theorem valueType_ne_unknown (value : StunValue) : value.valueType ≠ .unknown := by
  cases value <;> simp [valueType]

end StunValue

structure StunAttribute where
  type : UInt16
  value : StunValue
  deriving DecidableEq, Repr

def StunAttribute.length (attr : StunAttribute) : UInt16 := attr.value.length

/-- A length rounded up to whole words of four bytes. -/
def paddedLength (length : Nat) : Nat :=
  if length % 4 ≠ 0 then length + (4 - length % 4) else length

theorem le_paddedLength (length : Nat) : length ≤ paddedLength length := by
  unfold paddedLength
  split <;> omega

/-! ## Messages -/

def kStunHeaderSize : Nat := 20
def kStunTransactionIdLength : Nat := 12
def kStunLegacyTransactionIdLength : Nat := 16
def kStunAttributeHeaderSize : Nat := 4
def kStunMagicCookie : UInt32 := 0x2112A442

structure StunMessage where
  messageClass : MessageClass
  type : UInt16
  length : UInt16
  transactionId : Bytes
  attrs : List StunAttribute
  deriving DecidableEq, Repr

namespace StunMessage

def new (messageClass : MessageClass) (type : UInt16) (transactionId : Bytes) : StunMessage :=
  { messageClass, type, length := 0, transactionId, attrs := [] }

def isValidTransactionId (transactionId : Bytes) : Bool :=
  transactionId.length = kStunTransactionIdLength ||
    transactionId.length = kStunLegacyTransactionIdLength

section

variable (message : StunMessage)

def isLegacy : Bool :=
  message.transactionId.length = kStunLegacyTransactionIdLength

/-- The message with the attribute added, or `none` where the class of the message does not
know the attribute with this kind of value. -/
def addAttribute (attr : StunAttribute) : Option StunMessage :=
  if attr.value.valueType ≠ message.messageClass.getAttributeValueType attr.type then none
  else some { message with
    attrs := message.attrs ++ [attr]
    length := message.length + UInt16.ofNat (paddedLength attr.length.toNat + 4) }

/-- `AddAttribute` for one attribute after the other, as long as each call returns true. -/
def addAttributes (attributes : List StunAttribute) :
    Option StunMessage :=
  attributes.foldlM addAttribute message

def getAttribute (type : UInt16) : Option StunAttribute :=
  message.attrs.find? (·.type = type)

def getByteString (type : UInt16) : Option Bytes :=
  match message.getAttribute type with
  | some ⟨_, .byteString bytes⟩ => some bytes
  | _ => none

def getUInt32 (type : UInt16) : Option UInt32 :=
  match message.getAttribute type with
  | some ⟨_, .uint32 bits⟩ => some bits
  | _ => none

def getUInt64 (type : UInt16) : Option UInt64 :=
  match message.getAttribute type with
  | some ⟨_, .uint64 bits⟩ => some bits
  | _ => none

def getAddress (type : UInt16) : Option SocketAddress :=
  match message.getAttribute type with
  | some ⟨_, .address ip port⟩ => some ⟨[], ip, port⟩
  | some ⟨_, .xorAddress ip port⟩ => some ⟨[], ip, port⟩
  | _ => none

/-- The code of an error attribute, from its class and its number. -/
def getErrorCode : Option Nat :=
  match message.getAttribute STUN_ATTR_ERROR_CODE with
  | some ⟨_, .errorCode eclass number _⟩ => some (eclass.toNat * 100 + number.toNat)
  | _ => none

end

/-- A message as it is constructed, without a type and with the transaction id of the
constructor. -/
def blank (messageClass : MessageClass) : StunMessage :=
  { messageClass, type := 0, length := 0, transactionId := List.replicate 16 48, attrs := [] }

section

variable (message : StunMessage) (type : UInt16) (value : StunValue)

/-- `VERIFY(AddAttribute(..))`: where the call returns false the message stays as it is. -/
def add : StunMessage :=
  (message.addAttribute ⟨type, value⟩).getD message

@[simp] theorem add_messageClass :
    (message.add type value).messageClass = message.messageClass := by
  unfold add addAttribute
  split <;> rfl

end

theorem getAttribute_add_of_ne (message : StunMessage) {type other : UInt16} (value : StunValue)
    (different : type ≠ other) :
    (message.add type value).getAttribute other = message.getAttribute other := by
  unfold add addAttribute
  split
  · rfl
  · simp [getAttribute, different]

theorem getAttribute_add_self {message : StunMessage} {type : UInt16} {value : StunValue}
    (absent : message.getAttribute type = none)
    (known : value.valueType = message.messageClass.getAttributeValueType type) :
    (message.add type value).getAttribute type = some ⟨type, value⟩ := by
  have added : message.add type value = { message with
      attrs := message.attrs ++ [⟨type, value⟩]
      length := message.length +
        UInt16.ofNat (paddedLength (StunAttribute.mk type value).length.toNat + 4) } := by
    unfold add addAttribute
    rw [if_neg (not_not.mpr known), Option.getD_some]
  rw [getAttribute] at absent
  rw [added, getAttribute, List.find?_append, absent]
  simp

end StunMessage

def STUN_BINDING_REQUEST : UInt16 := 0x0001
def STUN_BINDING_INDICATION : UInt16 := 0x0011
def STUN_BINDING_RESPONSE : UInt16 := 0x0101
def STUN_BINDING_ERROR_RESPONSE : UInt16 := 0x0111
def STUN_ALLOCATE_REQUEST : UInt16 := 0x0003
def TURN_REFRESH_REQUEST : UInt16 := 0x0004
def TURN_SEND_INDICATION : UInt16 := 0x0016
def TURN_DATA_INDICATION : UInt16 := 0x0017
def TURN_CREATE_PERMISSION_REQUEST : UInt16 := 0x0008
def TURN_CHANNEL_BIND_REQUEST : UInt16 := 0x0009

def kStunTypeMask : UInt16 := 0x0110

def isStunRequestType (type : UInt16) : Bool := type &&& kStunTypeMask = 0x000
def isStunSuccessResponseType (type : UInt16) : Bool := type &&& kStunTypeMask = 0x100
/-- The type of the success response, where the source returns `-1` no value. -/
def getStunSuccessResponseType (type : UInt16) : Option UInt16 :=
  if isStunRequestType type then some (type ||| 0x100) else none

def getStunErrorResponseType (type : UInt16) : Option UInt16 :=
  if isStunRequestType type then some (type ||| 0x110) else none

def ascii (text : String) : Bytes :=
  text.toList.map fun character => UInt8.ofNat character.toNat

structure StunError where
  code : Nat
  reason : Bytes
  deriving DecidableEq, Repr

namespace StunError

def badRequest : StunError := ⟨400, ascii "Bad Request"⟩
def unauthorized : StunError := ⟨401, ascii "Unauthorized"⟩
def allocationMismatch : StunError := ⟨437, ascii "Allocation Mismatch"⟩
def staleNonce : StunError := ⟨438, ascii "Stale Nonce"⟩
def wrongCredentials : StunError := ⟨441, ascii "Wrong Credentials"⟩
def unsupportedProtocol : StunError := ⟨442, ascii "Unsupported Protocol"⟩
def roleConflict : StunError := ⟨487, ascii "Role Conflict"⟩
def serverError : StunError := ⟨500, ascii "Server Error"⟩

/-- The value of the attribute that carries a code and its text. -/
def value (error : StunError) : StunValue :=
  .errorCode (UInt8.ofNat (error.code / 100)) (UInt8.ofNat (error.code % 100)) error.reason

end StunError

end ZyWebRtc.Stun
