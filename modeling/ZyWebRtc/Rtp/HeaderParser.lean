import ZyWebRtc.Foundation.ByteString
import ZyWebRtc.Rtp.HeaderExtensionMap

namespace ZyWebRtc.Rtp

/-! `RTPHeaderParser::Parse`. The pointers of the parser are offsets from the
first byte of the packet. Parsing has no value when it reads outside the packet;
otherwise it gives the returned flag and the header as it is then. -/

def kRtpExpectedVersion : UInt8 := 2

def kRtpMinParseLength : Nat := 12

def kRtpCsrcSize : Nat := 15

def kRtpOneByteHeaderExtensionId : UInt16 := 0xBEDE

structure RTPHeaderExtension where
  transmissionTimeOffset : UInt32
  absoluteSendTime : UInt32
  deriving DecidableEq, Repr

structure RTPHeader where
  markerBit : Bool
  payloadType : UInt8
  sequenceNumber : UInt16
  timestamp : UInt32
  ssrc : UInt32
  numCSRCs : UInt8
  arrOfCSRCs : Vector UInt32 kRtpCsrcSize
  paddingLength : UInt8
  headerLength : UInt16
  extension : RTPHeaderExtension
  deriving DecidableEq, Repr

/-- The loop of `ParsePaddingBytes`, with `remaining` bytes up to the end of the
extension. The counter is a byte and wraps. -/
def countPaddingBytes (data : Bytes) : (remaining ptr : Nat) → UInt8 → Option UInt8
  | 0, _, numZeroBytes => some numZeroBytes
  | remaining + 1, ptr, numZeroBytes => do
    let byte ← data.byteAt ptr
    if byte ≠ 0 then pure numZeroBytes
    else countPaddingBytes data remaining (ptr + 1) (numZeroBytes + 1)

def parsePaddingBytes (data : Bytes) (extensionEnd ptr : Nat) : Option UInt8 :=
  countPaddingBytes data (extensionEnd - ptr) ptr 0

def elementId (byte : UInt8) : UInt8 := (byte &&& 0xf0) >>> 4

def elementLen (byte : UInt8) : UInt8 := byte &&& 0x0f

def signExtend24 (offset : UInt32) : UInt32 :=
  if offset &&& 0x800000 ≠ 0 then offset ||| 0xFF000000 else offset

/-- One element: `ptr` is behind its first byte. Without a value parsing of the
extension ends here; otherwise the result is the pointer behind the element. -/
def parseElement (data : Bytes) (map : RtpHeaderExtensionMap) (byte : UInt8) (ptr : Nat)
    (extension : RTPHeaderExtension) : Option (Option Nat × RTPHeaderExtension) :=
  if elementId byte = 15 then some (none, extension)
  else match map.getType (elementId byte) with
    | some .transmissionTimeOffset =>
      if elementLen byte ≠ 2 then some (none, extension)
      else do
        let offset ← data.uint24At ptr
        pure (some (ptr + 3), { extension with transmissionTimeOffset := signExtend24 offset })
    | some .audioLevel => some (some ptr, extension)
    | some .absoluteSendTime =>
      if elementLen byte ≠ 2 then some (none, extension)
      else do
        let sendTime ← data.uint24At ptr
        pure (some (ptr + 3), { extension with absoluteSendTime := sendTime })
    | some .none | none => some (none, extension)

/-- The loop of `ParseOneByteExtensionHeader`. Every element takes a byte, so
`extensionEnd - ptr` rounds are enough (`parseOneByteElements_fuel`). -/
def parseOneByteElements (data : Bytes) (map : RtpHeaderExtensionMap) (extensionEnd : Nat) :
    (fuel ptr : Nat) → RTPHeaderExtension → Option RTPHeaderExtension
  | 0, _, extension => some extension
  | fuel + 1, ptr, extension =>
    if extensionEnd ≤ ptr then some extension
    else do
      let byte ← data.byteAt ptr
      match ← parseElement data map byte (ptr + 1) extension with
      | (none, extension) => pure extension
      | (some next, extension) => do
        let numBytes ← parsePaddingBytes data extensionEnd next
        parseOneByteElements data map extensionEnd fuel (next + numBytes.toNat) extension

variable (data : Bytes) (extensionMap : Option RtpHeaderExtensionMap)

def parseOneByteExtensionHeader (extensionEnd ptr : Nat) (extension : RTPHeaderExtension) :
    Option RTPHeaderExtension :=
  match extensionMap with
  | none => some extension
  | some map => parseOneByteElements data map extensionEnd (extensionEnd - ptr) ptr extension

/-! ## The header -/

/-- The `CC` field of the first byte. -/
def csrcCount (first : UInt8) : UInt8 := first &&& 0x0f

def csrcOctets (first : UInt8) : UInt8 := csrcCount first * 4

theorem csrcCount_toNat_le (first : UInt8) : (csrcCount first).toNat ≤ 15 := by
  rw [csrcCount, UInt8.toNat_and]
  exact Nat.and_le_right

theorem csrcOctets_toNat (first : UInt8) :
    (csrcOctets first).toNat = 4 * (csrcCount first).toNat := by
  have bound := csrcCount_toNat_le first
  rw [csrcOctets, UInt8.toNat_mul, show (4 : UInt8).toNat = 4 from rfl]
  omega

def parseCSRCs (data : Bytes) : (remaining index ptr : Nat) →
    Vector UInt32 kRtpCsrcSize → Option (Vector UInt32 kRtpCsrcSize)
  | 0, _, _, csrcs => some csrcs
  | remaining + 1, index, ptr, csrcs => do
    let csrc ← data.uint32At ptr
    parseCSRCs data remaining (index + 1) (ptr + 4) (csrcs.setIfInBounds index csrc)

/-- The words of an extension in octets, in the 16 bits of `XLen`. -/
def wordOctets (words : UInt16) : UInt16 := words * 4

theorem wordOctets_toNat (words : UInt16) :
    (wordOctets words).toNat = 4 * words.toNat % 65536 := by
  rw [wordOctets, UInt16.toNat_mul, show (4 : UInt16).toNat = 4 from rfl, Nat.mul_comm]

/-- The part of `Parse` for packets with the extension bit; `ptr` is behind the
contributing sources. -/
def parseExtension (ptr : Nat)
    (header : RTPHeader) : Option (Bool × RTPHeader) :=
  if data.length < ptr + 4 then some (false, header)
  else do
    let header := { header with headerLength := header.headerLength + 4 }
    let definedByProfile ← data.uint16At ptr
    let words ← data.uint16At (ptr + 2)
    let xLen := wordOctets words
    if data.length < ptr + 4 + xLen.toNat then pure (false, header)
    else do
      let extension ←
        if definedByProfile = kRtpOneByteHeaderExtensionId then
          parseOneByteExtensionHeader data extensionMap (ptr + 4 + xLen.toNat) (ptr + 4)
            header.extension
        else pure header.extension
      pure (true, { header with
        extension
        headerLength := header.headerLength + xLen })

def parse (header : RTPHeader) :
    Option (Bool × RTPHeader) :=
  if data.length < kRtpMinParseLength then some (false, header)
  else do
    let first ← data.byteAt 0
    let second ← data.byteAt 1
    let sequenceNumber ← data.uint16At 2
    let timestamp ← data.uint32At 4
    let ssrc ← data.uint32At 8
    if first >>> 6 ≠ kRtpExpectedVersion then pure (false, header)
    else
      if data.length < 12 + (csrcOctets first).toNat then pure (false, header)
      else do
        let paddingLength ←
          if first &&& 0x20 = 0 then pure 0 else data.byteAt (data.length - 1)
        let csrcs ← parseCSRCs data (csrcCount first).toNat 0 12 header.arrOfCSRCs
        let header : RTPHeader := {
          markerBit := second &&& 0x80 ≠ 0
          payloadType := second &&& 0x7f
          sequenceNumber
          timestamp
          ssrc
          numCSRCs := csrcCount first
          arrOfCSRCs := csrcs
          paddingLength
          headerLength := 12 + (csrcOctets first).toUInt16
          extension := { transmissionTimeOffset := 0, absoluteSendTime := 0 } }
        if first &&& 0x10 = 0 then pure (true, header)
        else parseExtension data extensionMap (12 + (csrcOctets first).toNat) header

end ZyWebRtc.Rtp
