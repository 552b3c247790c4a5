import ZyWebRtc.Rtp.Receiver

namespace ZyWebRtc.Rtp

/-! The payload types that `RTPPayloadRegistry` has registered for receiving, and the RED payload
type that it keeps apart from them. -/

def RTP_PAYLOAD_NAME_SIZE : Nat := 32

/-- A C string in an array of `RTP_PAYLOAD_NAME_SIZE` characters, without its final zero. -/
structure PayloadName where
  chars : List Char
  fits : chars.length < RTP_PAYLOAD_NAME_SIZE
  deriving DecidableEq, Repr

/-- Up to `length` characters are compared, without regard to case. -/
def stringCompare (str1 str2 : List Char) (length : Nat) : Bool :=
  (str1.take length).map Char.toLower = (str2.take length).map Char.toLower

example : stringCompare "Reduced".toList "red".toList 3 = true := by decide

namespace PayloadName

def lower (name : PayloadName) : List Char := name.chars.map Char.toLower

def startsWith (name : PayloadName) (word : String) : Bool :=
  stringCompare name.chars word.toList word.toList.length

def sameAs (stored name : PayloadName) : Bool :=
  name.chars.length = stored.chars.length &&
    stringCompare stored.chars name.chars name.chars.length

/-- The name "red". -/
def IsRed (name : PayloadName) : Prop := name.lower = "red".toList

theorem sameAs_iff (stored name : PayloadName) :
    stored.sameAs name = true ↔ stored.lower = name.lower := by
  simp only [sameAs, stringCompare, lower, Bool.and_eq_true, decide_eq_true_iff]
  constructor
  · rintro ⟨same, equal⟩
    rwa [List.take_length, same, List.take_length] at equal
  · intro equal
    have same : name.chars.length = stored.chars.length := by
      simpa using (congrArg List.length equal).symm
    refine ⟨same, ?_⟩
    rw [List.take_length, same, List.take_length]
    exact equal

theorem startsWith_iff (name : PayloadName) (word : String) :
    name.startsWith word = true ↔
      name.lower.take word.toList.length = word.toList.map Char.toLower := by
  rw [startsWith, stringCompare, decide_eq_true_iff, lower, List.map_take, List.take_length]

theorem IsRed.startsWith {name : PayloadName} (red : name.IsRed) :
    name.startsWith "red" = true := by
  rw [startsWith_iff, red]
  rfl

theorem startsWith_eq_of_sameAs {stored name : PayloadName} (same : stored.sameAs name = true)
    (word : String) : stored.startsWith word = name.startsWith word := by
  rw [Bool.eq_iff_iff, startsWith_iff, startsWith_iff, (sameAs_iff _ _).mp same]

theorem isRed_iff_of_sameAs {stored name : PayloadName} (same : stored.sameAs name = true) :
    stored.IsRed ↔ name.IsRed := by
  rw [IsRed, IsRed, (sameAs_iff _ _).mp same]

end PayloadName

inductive TypeSpecific
  | audio (audio : AudioPayload)
  | video (video : VideoPayload)
  deriving DecidableEq, Repr

/-- A payload with its name. The flag `audio` of the source says which member of `typeSpecific`
is set. -/
structure NamedPayload where
  name : PayloadName
  typeSpecific : TypeSpecific
  deriving DecidableEq, Repr

def NamedPayload.cleared (name : PayloadName) : NamedPayload where
  name
  typeSpecific := .video { videoCodecType := .none, maxRate := 0 }

/-- `RTPPayloadAudioStrategy` and `RTPPayloadVideoStrategy`. -/
inductive RTPPayloadStrategy
  | audio
  | video
  deriving DecidableEq, Repr

namespace RTPPayloadStrategy

def codecsMustBeUnique : RTPPayloadStrategy → Bool
  | audio => true
  | video => false

def payloadIsCompatible (codec : AudioPayload) :
    RTPPayloadStrategy → TypeSpecific → Bool
  | audio, .audio stored =>
    stored.frequency = codec.frequency && stored.channels = codec.channels &&
      (stored.rate = codec.rate || stored.rate = 0 || codec.rate = 0)
  | audio, .video _ => false
  | video, .audio _ => false
  | video, .video _ => true

def updatePayloadRate (rate : UInt32) (payload : NamedPayload) : NamedPayload :=
  { payload with
    typeSpecific :=
      match payload.typeSpecific with
      | .audio stored => .audio { stored with rate }
      | .video stored => .video { stored with maxRate := rate } }

def videoCodecType (name : PayloadName) : RtpVideoCodecTypes :=
  if name.startsWith "VP8" then .vp8
  else if name.startsWith "I420" then .generic
  else if name.startsWith "ULPFEC" then .none
  else .generic

def createPayloadType (name : PayloadName) (codec : AudioPayload) :
    RTPPayloadStrategy → NamedPayload
  | audio => { name, typeSpecific := .audio codec }
  | video =>
    { name
      typeSpecific := .video { videoCodecType := videoCodecType name, maxRate := codec.rate } }

end RTPPayloadStrategy

/-! ## The registry -/

/-- The values of an `int8_t` that are not negative. A payload type of a registration is
asserted to be one, so no other is ever in the map. -/
abbrev PayloadType := Fin 128

def isReserved (payloadType : PayloadType) : Bool :=
  payloadType = 64 || (72 ≤ payloadType && payloadType ≤ 79)

/-- The members of `RTPPayloadRegistry` that registrations work on. A payload type that is -1 in
the source is not set. -/
structure RegisteredPayloads where
  rtpPayloadStrategy : RTPPayloadStrategy
  payloadTypeMap : PayloadType → Option NamedPayload
  redPayloadType : Option PayloadType
  ulpfecPayloadType : Option PayloadType
  lastReceivedPayloadType : Option PayloadType
  lastReceivedMediaPayloadType : Option PayloadType

namespace RegisteredPayloads

def new (rtpPayloadStrategy : RTPPayloadStrategy) : RegisteredPayloads where
  rtpPayloadStrategy
  payloadTypeMap := fun _ => none
  redPayloadType := none
  ulpfecPayloadType := none
  lastReceivedPayloadType := none
  lastReceivedMediaPayloadType := none

def setPayload (payloadType : PayloadType) (payload : Option NamedPayload)
    (registry : RegisteredPayloads) : RegisteredPayloads :=
  { registry with
    payloadTypeMap := Function.update registry.payloadTypeMap payloadType payload }

section

variable (name : PayloadName) (codec : AudioPayload) (registry : RegisteredPayloads)

def replaces (payload : NamedPayload) : Bool :=
  payload.name.sameAs name &&
    match payload.typeSpecific with
    | .audio _ => registry.rtpPayloadStrategy.payloadIsCompatible codec payload.typeSpecific
    | .video _ => name.startsWith "red"

/-- `DeregisterAudioCodecOrRedTypeRegardlessOfPayloadType`. The loop ends at the first payload
that it removes. -/
def deregisterAudioCodecOrRedType : RegisteredPayloads :=
  match (List.finRange 128).find? fun payloadType =>
    (registry.payloadTypeMap payloadType).any (registry.replaces name codec) with
  | some payloadType => registry.setPayload payloadType none
  | none => registry

def makeRoom : RegisteredPayloads :=
  if registry.rtpPayloadStrategy.codecsMustBeUnique then
    registry.deregisterAudioCodecOrRedType name codec
  else registry

end

section

variable (name : PayloadName) (payloadType : PayloadType) (codec : AudioPayload)
  (registry : RegisteredPayloads)

/-- The payload of a payload type that was not used, and whether it was created by the
strategy. -/
def addPayload : Bool × RegisteredPayloads :=
  let registry := { registry with
    lastReceivedPayloadType := none
    lastReceivedMediaPayloadType := none }
  if name.startsWith "red" then
    (false, { registry with redPayloadType := some payloadType }.setPayload payloadType
      (some (.cleared name)))
  else if name.startsWith "ulpfec" then
    (false, { registry with ulpfecPayloadType := some payloadType }.setPayload payloadType
      (some (.cleared name)))
  else
    (true, registry.setPayload payloadType
      (some (registry.rtpPayloadStrategy.createPayloadType name codec)))

/-- Whether a payload was created, and no value where -1 is returned. The frequency, the
channels and the rate are those of the codec. -/
def registerReceivePayload : Option Bool × RegisteredPayloads :=
  if isReserved payloadType then (none, registry)
  else
    match registry.payloadTypeMap payloadType with
    | some payload =>
      if payload.name.sameAs name &&
          registry.rtpPayloadStrategy.payloadIsCompatible codec payload.typeSpecific then
        (some false, registry.setPayload payloadType
          (some (RTPPayloadStrategy.updatePayloadRate codec.rate payload)))
      else (none, registry)
    | none =>
      let (created, registry) :=
        (registry.makeRoom name codec).addPayload name payloadType codec
      (some created, registry)

end

def deRegisterReceivePayload (payloadType : PayloadType) (registry : RegisteredPayloads) :
    Bool × RegisteredPayloads :=
  match registry.payloadTypeMap payloadType with
  | none => (false, registry)
  | some _ => (true, registry.setPayload payloadType none)

def isRed (registry : RegisteredPayloads) (header : RTPHeader) : Bool :=
  match registry.redPayloadType with
  | none => false
  | some payloadType => payloadType.val = header.payloadType.toNat

/-- The calls that change what is registered. -/
inductive Operation
  | register (name : PayloadName) (payloadType : PayloadType) (codec : AudioPayload)
  | deregister (payloadType : PayloadType)
  deriving DecidableEq, Repr

def step (registry : RegisteredPayloads) : Operation → RegisteredPayloads
  | .register name payloadType codec =>
    (registry.registerReceivePayload name payloadType codec).2
  | .deregister payloadType => (registry.deRegisterReceivePayload payloadType).2

end RegisteredPayloads

end ZyWebRtc.Rtp
