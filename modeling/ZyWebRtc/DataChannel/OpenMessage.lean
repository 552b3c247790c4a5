import ZyWebRtc.DataChannel.Config
import ZyWebRtc.Foundation.ByteBuffer

namespace ZyWebRtc.DataChannel

/-! The message that opens an SCTP data channel: `WriteDataChannelOpenMessage` and
`ParseDataChannelOpenMessage`, and which settings survive the way over the wire. -/

open ByteBuffer

def DATA_CHANNEL_OPEN_MESSAGE_TYPE : UInt8 := 0x03

def DCOMCT_ORDERED_RELIABLE : UInt8 := 0x00

def DCOMCT_ORDERED_PARTIAL_RTXS : UInt8 := 0x01

def DCOMCT_ORDERED_PARTIAL_TIME : UInt8 := 0x02

def DCOMCT_UNORDERED_RELIABLE : UInt8 := 0x80

def DCOMCT_UNORDERED_PARTIAL_RTXS : UInt8 := 0x81

def DCOMCT_UNORDERED_PARTIAL_TIME : UInt8 := 0x82

def writtenReliability (config : DataChannelInit) : UInt8 × UInt16 :=
  if config.ordered then
    if config.maxRetransmits > -1 then
      (DCOMCT_ORDERED_PARTIAL_RTXS, UInt16.ofInt config.maxRetransmits)
    else if config.maxRetransmitTime > -1 then
      (DCOMCT_ORDERED_PARTIAL_TIME, UInt16.ofInt config.maxRetransmitTime)
    else (DCOMCT_ORDERED_RELIABLE, 0)
  else
    if config.maxRetransmits > -1 then
      (DCOMCT_UNORDERED_PARTIAL_RTXS, UInt16.ofInt config.maxRetransmits)
    else if config.maxRetransmitTime > -1 then
      (DCOMCT_UNORDERED_PARTIAL_TIME, UInt16.ofInt config.maxRetransmitTime)
    else (DCOMCT_UNORDERED_RELIABLE, 0)

/-- The two switches over the channel type. The cases of the second one for a number of
retransmissions run on into those for a time. -/
def parseReliability (channelType : UInt8) (reliabilityParam : UInt16)
    (config : DataChannelInit) : DataChannelInit :=
  let config := { config with ordered := true }
  let config :=
    if channelType = DCOMCT_UNORDERED_RELIABLE ∨ channelType = DCOMCT_UNORDERED_PARTIAL_RTXS ∨
        channelType = DCOMCT_UNORDERED_PARTIAL_TIME then
      { config with ordered := false }
    else config
  let config := { config with maxRetransmits := -1, maxRetransmitTime := -1 }
  if channelType = DCOMCT_ORDERED_PARTIAL_RTXS ∨ channelType = DCOMCT_UNORDERED_PARTIAL_RTXS then
    { config with
      maxRetransmits := reliabilityParam.toNat
      maxRetransmitTime := reliabilityParam.toNat }
  else if channelType = DCOMCT_ORDERED_PARTIAL_TIME ∨
      channelType = DCOMCT_UNORDERED_PARTIAL_TIME then
    { config with maxRetransmitTime := reliabilityParam.toNat }
  else config

def writeDataChannelOpenMessage (label : Bytes) (config : DataChannelInit) : Bytes :=
  let (channelType, reliabilityParam) := writtenReliability config
  let priority : UInt16 := 0
  [DATA_CHANNEL_OPEN_MESSAGE_TYPE, channelType] ++ Bytes.uint16Bytes reliabilityParam ++
    Bytes.uint16Bytes priority ++ Bytes.uint16Bytes (UInt16.ofNat label.length) ++
    Bytes.uint16Bytes (UInt16.ofNat config.protocol.length) ++ label ++ config.protocol

/-- The label and the settings after parsing, with no value where `false` is returned. The label
and the protocol are appended to what the outputs hold. -/
def parseDataChannelOpenMessage (payload : Bytes) (label : Bytes) (config : DataChannelInit) :
    Option (Bytes × DataChannelInit) := do
  let (messageType, buffer) ← readUInt8 payload
  if messageType ≠ DATA_CHANNEL_OPEN_MESSAGE_TYPE then none
  else do
    let (channelType, buffer) ← readUInt8 buffer
    let (reliabilityParam, buffer) ← readUInt16 buffer
    let (_, buffer) ← readUInt16 buffer
    let (labelLength, buffer) ← readUInt16 buffer
    let (protocolLength, buffer) ← readUInt16 buffer
    let (labelBytes, buffer) ← readBytes labelLength.toNat buffer
    let (protocolBytes, _) ← readBytes protocolLength.toNat buffer
    pure (label ++ labelBytes, parseReliability channelType reliabilityParam
      { config with protocol := config.protocol ++ protocolBytes })

theorem parse_write {label : Bytes} {config : DataChannelInit} (labelShort : label.length < 2 ^ 16)
    (protocolShort : config.protocol.length < 2 ^ 16) (initial : DataChannelInit) :
    parseDataChannelOpenMessage (writeDataChannelOpenMessage label config) [] initial =
      some (label, parseReliability (writtenReliability config).1 (writtenReliability config).2
        { initial with protocol := initial.protocol ++ config.protocol }) := by
  have labelLength : (UInt16.ofNat label.length).toNat = label.length := by
    rw [UInt16.toNat_ofNat', Nat.mod_eq_of_lt labelShort]
  have protocolLength : (UInt16.ofNat config.protocol.length).toNat = config.protocol.length := by
    rw [UInt16.toNat_ofNat', Nat.mod_eq_of_lt protocolShort]
  have last : readBytes config.protocol.length config.protocol = some (config.protocol, []) :=
    readBytes_eq_some.mpr ⟨(List.append_nil _).symm, rfl⟩
  simp only [parseDataChannelOpenMessage, writeDataChannelOpenMessage, List.cons_append,
    List.nil_append, List.append_assoc, readUInt8_cons, readUInt16_append, labelLength,
    protocolLength, readBytes_append, last, Option.bind_eq_bind, Option.bind_some, ne_eq,
    not_true_eq_false, if_false, Option.pure_def]

theorem ofInt_toNat {value : Int} (nonnegative : -1 < value) (small : value < 2 ^ 16) :
    ((UInt16.ofInt value).toNat : Int) = value := by
  rcases Int.eq_ofNat_of_zero_le (show 0 ≤ value by omega) with ⟨number, rfl⟩
  rw [UInt16.ofInt, UInt16.toNat_ofNat']
  omega

theorem parseReliability_written {config : DataChannelInit}
    (retransmits : -1 ≤ config.maxRetransmits ∧ config.maxRetransmits < 2 ^ 16)
    (retransmitTime : -1 ≤ config.maxRetransmitTime ∧ config.maxRetransmitTime < 2 ^ 16)
    (initial : DataChannelInit) :
    parseReliability (writtenReliability config).1 (writtenReliability config).2 initial =
      { initial with
        ordered := config.ordered
        maxRetransmits := config.maxRetransmits
        maxRetransmitTime :=
          if config.maxRetransmits = -1 then config.maxRetransmitTime
          else config.maxRetransmits } := by
  rw [writtenReliability]
  by_cases counted : config.maxRetransmits > -1
  · have value := ofInt_toNat counted retransmits.2
    have set : ¬ config.maxRetransmits = -1 := by omega
    cases ordered : config.ordered <;>
      simp [counted, set, parseReliability, value, DCOMCT_ORDERED_PARTIAL_RTXS,
        DCOMCT_UNORDERED_PARTIAL_RTXS, DCOMCT_UNORDERED_RELIABLE, DCOMCT_UNORDERED_PARTIAL_TIME]
  have unset : config.maxRetransmits = -1 := by omega
  by_cases timed : config.maxRetransmitTime > -1
  · have value := ofInt_toNat timed retransmitTime.2
    cases ordered : config.ordered <;>
      simp [unset, timed, parseReliability, value, DCOMCT_ORDERED_PARTIAL_RTXS,
        DCOMCT_UNORDERED_PARTIAL_RTXS, DCOMCT_UNORDERED_RELIABLE, DCOMCT_UNORDERED_PARTIAL_TIME,
        DCOMCT_ORDERED_PARTIAL_TIME]
  · have untimed : config.maxRetransmitTime = -1 := by omega
    cases ordered : config.ordered <;>
      simp [unset, untimed, parseReliability, DCOMCT_ORDERED_PARTIAL_RTXS,
        DCOMCT_UNORDERED_PARTIAL_RTXS, DCOMCT_UNORDERED_RELIABLE, DCOMCT_UNORDERED_PARTIAL_TIME,
        DCOMCT_ORDERED_PARTIAL_TIME, DCOMCT_ORDERED_RELIABLE]

/-- The settings that are negotiated are the same. -/
structure SameNegotiated (config received : DataChannelInit) : Prop where
  protocol : received.protocol = config.protocol
  ordered : received.ordered = config.ordered
  maxRetransmits : received.maxRetransmits = config.maxRetransmits
  maxRetransmitTime : received.maxRetransmitTime = config.maxRetransmitTime

/-- The receiver of the message recovers the label and the settings, and accepts them. -/
def OpenRoundTrips (label : Bytes) (config : DataChannelInit) : Prop :=
  ∃ received, parseDataChannelOpenMessage (writeDataChannelOpenMessage label config) [] {} =
      some (label, received) ∧
    SameNegotiated config received ∧ init .sctp received = true

theorem init_sctp_iff (config : DataChannelInit) :
    init .sctp config = true ↔
      (-1 ≤ config.id ∧ -1 ≤ config.maxRetransmits ∧ -1 ≤ config.maxRetransmitTime) ∧
        (config.maxRetransmits = -1 ∨ config.maxRetransmitTime = -1) := by
  unfold init
  dsimp only
  split
  case isTrue invalid =>
    refine ⟨fun accepted => (by cases accepted), fun valid => ?_⟩
    omega
  case isFalse valid =>
    split
    case isTrue both =>
      refine ⟨fun accepted => (by cases accepted), fun valid => ?_⟩
      omega
    case isFalse one => exact ⟨fun _ => by omega, fun _ => rfl⟩

/-- The round trip succeeds exactly for channels without a number of retransmissions. -/
theorem openRoundTrips_iff {label : Bytes} {config : DataChannelInit}
    (labelShort : label.length < 2 ^ 16) (protocolShort : config.protocol.length < 2 ^ 16)
    (accepted : init .sctp config = true) (fewRetransmits : config.maxRetransmits < 2 ^ 16)
    (shortTime : config.maxRetransmitTime < 2 ^ 16) :
    OpenRoundTrips label config ↔ config.maxRetransmits = -1 := by
  rcases (init_sctp_iff config).mp accepted with ⟨⟨-, retransmits, time⟩, one⟩
  rw [OpenRoundTrips, parse_write labelShort protocolShort,
    parseReliability_written ⟨retransmits, fewRetransmits⟩ ⟨time, shortTime⟩]
  constructor
  · rintro ⟨received, parsed, same, -⟩
    cases parsed
    by_contra set
    have replaced : (if config.maxRetransmits = -1 then config.maxRetransmitTime
        else config.maxRetransmits) = config.maxRetransmitTime := same.maxRetransmitTime
    rw [if_neg set] at replaced
    omega
  · intro unset
    refine ⟨_, rfl, ⟨rfl, rfl, rfl, if_pos unset⟩, ?_⟩
    rw [init_sctp_iff]
    change (-1 ≤ -1 ∧ -1 ≤ config.maxRetransmits ∧
        -1 ≤ (if config.maxRetransmits = -1 then config.maxRetransmitTime
          else config.maxRetransmits)) ∧
      (config.maxRetransmits = -1 ∨ _)
    rw [if_pos unset]
    exact ⟨⟨Int.le_refl _, retransmits, time⟩, Or.inl unset⟩

def timedConfig : DataChannelInit := { ordered := false, maxRetransmitTime := 65535, protocol := [112] }

theorem openRoundTrips_iff_timedConfig : OpenRoundTrips [99] timedConfig :=
  (openRoundTrips_iff (by decide) (by decide) (by decide) (by decide) (by decide)).mpr rfl

/-- With three retransmissions the receiver finds both settings, which it does not accept. -/
theorem not_openRoundTrips_threeRetransmits :
    init .sctp { maxRetransmits := 3 } = true ∧ ¬ OpenRoundTrips [99] { maxRetransmits := 3 } := by
  refine ⟨by decide, ?_⟩
  rintro ⟨received, parsed, -, accepted⟩
  rw [parse_write (by decide) (by decide)] at parsed
  cases parsed
  revert accepted
  decide

end ZyWebRtc.DataChannel
