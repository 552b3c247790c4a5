import ZyWebRtc.Foundation.NetworkOrder

namespace ZyWebRtc.RtpData

/-! `RtpDataMediaChannel`: the packets that it sends data in, and what it takes out of them. -/

open List Bytes

def kMinRtpPacketLen : Nat := 12

def kDataMaxRtpPacketLen : Nat := 1200

def kMaxSrtpHmacOverhead : Nat := 16

def kReservedSpace : Bytes := [0, 0, 0, 0]

/-- "google-data" -/
def kGoogleRtpDataCodecName : Bytes := [103, 111, 111, 103, 108, 101, 45, 100, 97, 116, 97]

structure RtpHeader where
  payloadType : Nat
  seqNum : UInt16
  timestamp : UInt32
  ssrc : UInt32
  deriving DecidableEq

def setRtpPayloadType (value : Nat) : Option UInt8 :=
  if 0x7F ≤ value then none else some (UInt8.ofNat value &&& 0x7F)

/-- Version 2, without padding, extension and contributing sources. -/
def setRtpHeader (header : RtpHeader) : Option Bytes := do
  let payloadType ← setRtpPayloadType header.payloadType
  pure ([0x80, payloadType] ++ (uint16Bytes header.seqNum ++
    (uint32Bytes header.timestamp ++ uint32Bytes header.ssrc)))

section

variable (packet : Bytes)

def getRtpHeader : Option RtpHeader :=
  if packet.length < kMinRtpPacketLen then none
  else some {
    payloadType := (packet.byteValue 1 &&& 0x7F).toNat
    seqNum := packet.uint16Value 2
    timestamp := packet.uint32Value 4
    ssrc := packet.uint32Value 8 }

/-- The length with the contributing sources. -/
def baseHeaderLen : Nat := kMinRtpPacketLen + (packet.byteValue 0 &&& 0x0F).toNat * 4

def getRtpHeaderLen : Option Nat :=
  if packet.length < kMinRtpPacketLen then none
  else if packet.length < baseHeaderLen packet then none
  else if packet.byteValue 0 &&& 0x10 = 0 then some (baseHeaderLen packet)
  else if packet.length < baseHeaderLen packet + 4 then none
  else
    let headerSize := baseHeaderLen packet +
      ((packet.uint16Value (baseHeaderLen packet + 2)).toNat + 1) * 4
    if packet.length < headerSize then none else some headerSize

end

/-! ## Channels -/

structure DataCodec where
  id : Nat
  name : Bytes
  deriving DecidableEq

structure RtpClock where
  lastSeqNum : UInt16
  timestampOffset : UInt32
  deriving DecidableEq

/-- `ticks` is the time in units of the clock rate. -/
def RtpClock.tick (ticks : UInt32) (clock : RtpClock) : RtpClock × UInt16 × UInt32 :=
  ({ clock with lastSeqNum := clock.lastSeqNum + 1 }, clock.lastSeqNum + 1,
    clock.timestampOffset + ticks)

/-- A stream is given by its SSRCs. The clocks are those of the first SSRCs. -/
structure Channel where
  sending : Bool := false
  receiving : Bool := false
  sendCodecs : List DataCodec := []
  recvCodecs : List DataCodec := []
  sendStreams : List (List UInt32) := []
  recvStreams : List (List UInt32) := []
  rtpClockBySendSsrc : UInt32 → Option RtpClock := fun _ => none

inductive DataMessageType
  | none
  | control
  | binary
  | text
  deriving DecidableEq

structure SendDataParams where
  ssrc : UInt32
  type : DataMessageType := .text
  deriving DecidableEq

/-- What the timing and the rate limiter answer. -/
structure Moment where
  ticks : UInt32
  canUse : Bool

structure ReceiveDataParams where
  ssrc : UInt32
  seqNum : UInt16
  timestamp : UInt32
  deriving DecidableEq

/-- The data of a signal is a range of the packet, of which the length is a `size_t`. -/
structure ReceivedData where
  params : ReceiveDataParams
  data : Nat
  dataLen : UInt64
  deriving DecidableEq

def findCodecById (codecs : List DataCodec) (id : Nat) : Option DataCodec :=
  codecs.find? fun codec => codec.id = id

def findCodecByName (codecs : List DataCodec) (name : Bytes) : Option DataCodec :=
  codecs.find? fun codec => codec.name = name

def hasStream (streams : List (List UInt32)) (ssrc : UInt32) : Bool :=
  streams.any fun ssrcs => ssrcs.contains ssrc

def packetLen (payload : Bytes) : Nat :=
  kMinRtpPacketLen + kReservedSpace.length + payload.length + kMaxSrtpHmacOverhead

namespace Channel

/-- The packet that is sent, if any. Without a clock for the SSRC a null pointer is followed. -/
def sendData (params : SendDataParams) (payload : Bytes) (moment : Moment) (channel : Channel) :
    Option (Option Bytes × Channel) :=
  if !channel.sending then some (none, channel)
  else if params.type ≠ .text then some (none, channel)
  else if !hasStream channel.sendStreams params.ssrc then some (none, channel)
  else
    match findCodecByName channel.sendCodecs kGoogleRtpDataCodecName with
    | none => some (none, channel)
    | some codec =>
      if kDataMaxRtpPacketLen < packetLen payload then some (none, channel)
      else if !moment.canUse then some (none, channel)
      else do
        let (clock, seqNum, timestamp) ←
          (channel.rtpClockBySendSsrc params.ssrc).map (RtpClock.tick moment.ticks)
        let ticked := { channel with
          rtpClockBySendSsrc :=
            Function.update channel.rtpClockBySendSsrc params.ssrc (some clock) }
        let header := setRtpHeader { payloadType := codec.id, seqNum, timestamp, ssrc := params.ssrc }
        pure (header.map fun header => header ++ (kReservedSpace ++ payload), ticked)

/-- The packet is of a codec and a stream that the channel receives. -/
def accepts (channel : Channel) (header : RtpHeader) : Bool :=
  channel.receiving && (findCodecById channel.recvCodecs header.payloadType).isSome &&
    hasStream channel.recvStreams header.ssrc

def onPacketReceived (packet : Bytes) (channel : Channel) : Option ReceivedData := do
  let header ← getRtpHeader packet
  let headerLength ← getRtpHeaderLen packet
  if channel.accepts header then
    some {
      params := ⟨header.ssrc, header.seqNum, header.timestamp⟩
      data := headerLength + kReservedSpace.length
      dataLen := UInt64.ofNat packet.length - UInt64.ofNat headerLength -
        UInt64.ofNat kReservedSpace.length }
  else none

end Channel

/-! ## The property -/

/-- What is to be sent can be, and the receiver knows its stream and codec. -/
structure Negotiated (sender receiver : Channel) (params : SendDataParams) (payload : Bytes)
    (moment : Moment) (codec : DataCodec) : Prop where
  sending : sender.sending
  receiving : receiver.receiving
  text : params.type = .text
  sendStream : hasStream sender.sendStreams params.ssrc
  recvStream : hasStream receiver.recvStreams params.ssrc
  sendCodec : findCodecByName sender.sendCodecs kGoogleRtpDataCodecName = some codec
  recvCodec : (findCodecById receiver.recvCodecs codec.id).isSome
  payloadType : codec.id ≤ 127
  fits : packetLen payload ≤ kDataMaxRtpPacketLen
  canUse : moment.canUse

/-- The packet that is sent signals its payload, with the clock's next sequence number. -/
def RoundTrips (sender receiver : Channel) (params : SendDataParams) (payload : Bytes)
    (moment : Moment) : Prop :=
  ∃ packet sent clock received, sender.sendData params payload moment = some (some packet, sent) ∧
    sender.rtpClockBySendSsrc params.ssrc = some clock ∧
    receiver.onPacketReceived packet = some received ∧
    received.params = ⟨params.ssrc, clock.lastSeqNum + 1, clock.timestampOffset + moment.ticks⟩ ∧
    packet.bytesAt received.data received.dataLen.toNat = some payload

/-- What is signalled of a packet lies inside it. -/
def InBounds (receiver : Channel) (packet : Bytes) : Prop :=
  ∀ received ∈ receiver.onPacketReceived packet,
    received.data + received.dataLen.toNat ≤ packet.length

/-- There is room for the reserved bytes in a packet that the receiver takes. -/
def HasReservedSpace (receiver : Channel) (packet : Bytes) : Prop :=
  ∀ header ∈ getRtpHeader packet, ∀ headerLength ∈ getRtpHeaderLen packet,
    receiver.accepts header → headerLength + kReservedSpace.length ≤ packet.length

theorem inBounds_iff (receiver : Channel) (packet : Bytes) :
    InBounds receiver packet ↔ HasReservedSpace receiver packet := by
  rw [InBounds, HasReservedSpace, Channel.onPacketReceived]
  cases getRtpHeader packet with
  | none => simp
  | some header =>
    cases getRtpHeaderLen packet with
    | none => simp
    | some headerLength =>
      cases accepted : receiver.accepts header with
      | false => simp [accepted]
      | true =>
        simp only [Option.bind_eq_bind, Option.bind_some, accepted, if_true,
          Option.mem_some, forall_eq', true_implies]
        constructor
        · exact fun inside => Nat.le_of_add_right_le inside
        · intro room
          have short : packet.length - headerLength - kReservedSpace.length < 2 ^ 64 ∨
              2 ^ 64 ≤ packet.length := by omega
          simp only [UInt64.toNat_sub, UInt64.toNat_ofNat']
          omega

/-! ## The round trip -/

theorem setRtpPayloadType_of_lt {value : Nat} (small : value < 0x7F) :
    setRtpPayloadType value = some (UInt8.ofNat value) ∧
      (UInt8.ofNat value &&& 0x7F).toNat = value := by
  have masked : ∀ value < 0x7F, UInt8.ofNat value &&& 0x7F = UInt8.ofNat value ∧
      (UInt8.ofNat value).toNat = value := by decide
  rcases masked value small with ⟨same, read⟩
  rw [setRtpPayloadType, if_neg (Nat.not_le.mpr small), same]
  exact ⟨rfl, read⟩

/-- A written header is read back from the front of a packet. -/
theorem getRtpHeader_setRtpHeader {header : RtpHeader} (small : header.payloadType < 0x7F) :
    ∃ bytes, setRtpHeader header = some bytes ∧ bytes.length = kMinRtpPacketLen ∧
      ∀ rest, getRtpHeader (bytes ++ rest) = some header ∧
        getRtpHeaderLen (bytes ++ rest) = some kMinRtpPacketLen := by
  rcases setRtpPayloadType_of_lt small with ⟨written, read⟩
  rw [setRtpHeader, written]
  refine ⟨_, rfl, rfl, fun rest => ?_⟩
  have long : ∀ bytes : Bytes, bytes.length = kMinRtpPacketLen →
      ¬(bytes ++ rest).length < kMinRtpPacketLen := fun bytes size => by
    rw [length_append, size]
    exact Nat.not_lt.mpr (Nat.le_add_right _ _)
  have seqNum := (uint16At_append [0x80, UInt8.ofNat header.payloadType]
    (uint16Bytes header.seqNum ++ (uint32Bytes header.timestamp ++
      (uint32Bytes header.ssrc ++ rest))) 0).trans (uint16At_uint16Bytes _ _)
  have timestamp := (uint32At_append ([0x80, UInt8.ofNat header.payloadType] ++
    uint16Bytes header.seqNum) (uint32Bytes header.timestamp ++
      (uint32Bytes header.ssrc ++ rest)) 0).trans (uint32At_uint32Bytes _ _)
  have ssrc := (uint32At_append ([0x80, UInt8.ofNat header.payloadType] ++
    uint16Bytes header.seqNum ++ uint32Bytes header.timestamp)
      (uint32Bytes header.ssrc ++ rest) 0).trans (uint32At_uint32Bytes _ _)
  constructor
  · rw [getRtpHeader, if_neg (long _ rfl)]
    refine congrArg some ?_
    have fields := And.intro (congrArg (Option.getD · 0) seqNum)
      (And.intro (congrArg (Option.getD · 0) timestamp) (congrArg (Option.getD · 0) ssrc))
    cases header
    exact RtpHeader.mk.injEq .. ▸ ⟨read, fields⟩
  · have flags : ∀ bytes : Bytes, byteValue (0x80 :: bytes) 0 = 0x80 := fun _ => rfl
    have base : ∀ bytes : Bytes, baseHeaderLen (0x80 :: bytes) = kMinRtpPacketLen := fun bytes => by
      rw [baseHeaderLen, flags]
      decide
    rw [getRtpHeaderLen, if_neg (long _ rfl), append_assoc, cons_append, base, flags,
      ← cons_append, ← append_assoc, if_neg (long _ rfl)]
    exact if_pos (by decide)

section

variable {sender receiver : Channel} {params : SendDataParams} {payload : Bytes} {moment : Moment}
  {codec : DataCodec} (negotiated : Negotiated sender receiver params payload moment codec)

include negotiated

theorem Negotiated.sendData_eq {clock : RtpClock}
    (found : sender.rtpClockBySendSsrc params.ssrc = some clock) : ∃ sent,
    sender.sendData params payload moment = some ((setRtpHeader {
      payloadType := codec.id
      seqNum := clock.lastSeqNum + 1
      timestamp := clock.timestampOffset + moment.ticks
      ssrc := params.ssrc }).map fun header => header ++ (kReservedSpace ++ payload), sent) := by
  rw [Channel.sendData, negotiated.sending, if_neg (by decide),
    if_neg (not_not_intro negotiated.text), negotiated.sendStream, if_neg (by decide),
    negotiated.sendCodec]
  dsimp only
  rw [if_neg (Nat.not_lt.mpr negotiated.fits), negotiated.canUse, if_neg (by decide), found]
  exact ⟨_, rfl⟩

theorem Negotiated.roundTrips_iff_fits : RoundTrips sender receiver params payload moment ↔
    codec.id ≠ 127 ∧ (sender.rtpClockBySendSsrc params.ssrc).isSome := by
  constructor
  · rintro ⟨packet, sent, clock, received, sends, found, -⟩
    rcases negotiated.sendData_eq found with ⟨other, sendsEq⟩
    refine ⟨fun last => ?_, by rw [found]; rfl⟩
    rw [sendsEq, last] at sends
    cases sends
  · rintro ⟨other, known⟩
    rcases Option.isSome_iff_exists.mp known with ⟨clock, found⟩
    rcases negotiated.sendData_eq found with ⟨sent, sends⟩
    have small : codec.id < 0x7F := Nat.lt_of_le_of_ne negotiated.payloadType other
    let header : RtpHeader :=
      ⟨codec.id, clock.lastSeqNum + 1, clock.timestampOffset + moment.ticks, params.ssrc⟩
    rcases @getRtpHeader_setRtpHeader header small with ⟨bytes, written, size, read⟩
    rw [written] at sends
    rcases read (kReservedSpace ++ payload) with ⟨headerRead, headerLength⟩
    have accepted : receiver.accepts header = true := by
      rw [Channel.accepts, negotiated.receiving, negotiated.recvCodec, negotiated.recvStream]
      rfl
    have length : (bytes ++ (kReservedSpace ++ payload)).length = 16 + payload.length := by
      rw [length_append, length_append, size, ← Nat.add_assoc]
      rfl
    refine ⟨bytes ++ (kReservedSpace ++ payload), sent, clock, ⟨⟨params.ssrc,
      clock.lastSeqNum + 1, clock.timestampOffset + moment.ticks⟩, 16,
      UInt64.ofNat (16 + payload.length) - 12 - 4⟩, sends, found, ?_, rfl, ?_⟩
    · rw [Channel.onPacketReceived, headerRead, headerLength, length]
      exact if_pos accepted
    · have fits : 32 + payload.length ≤ 1200 := by
        have fits := negotiated.fits
        simp only [packetLen, kMinRtpPacketLen, kReservedSpace, kMaxSrtpHmacOverhead,
          kDataMaxRtpPacketLen, length_cons, length_nil] at fits
        omega
      have dataLen : (UInt64.ofNat (16 + payload.length) - 12 - 4).toNat = payload.length := by
        simp only [UInt64.toNat_sub, UInt64.toNat_ofNat', UInt64.toNat_ofNat]
        omega
      dsimp only
      rw [dataLen, bytesAt_inside (Nat.le_of_eq length.symm), ← append_assoc,
        drop_left' (by rw [length_append, size]; rfl), take_length]

/-- Data that can be sent comes back, and what is signalled of a packet lies inside it, exactly if
the payload type is not the last one, the SSRC is one with a clock, and there is room for the
reserved bytes in the packet. -/
theorem Negotiated.roundTrips_inBounds_iff (packet : Bytes) :
    RoundTrips sender receiver params payload moment ∧ InBounds receiver packet ↔
      (codec.id ≠ 127 ∧ (sender.rtpClockBySendSsrc params.ssrc).isSome) ∧
        HasReservedSpace receiver packet :=
  and_congr negotiated.roundTrips_iff_fits (inBounds_iff receiver packet)

end

/-- A channel for the stream with SSRC 1 and a payload type. -/
def channelOf (payloadType : Nat) : Channel where
  sending := true
  receiving := true
  sendCodecs := [⟨payloadType, kGoogleRtpDataCodecName⟩]
  recvCodecs := [⟨payloadType, kGoogleRtpDataCodecName⟩]
  sendStreams := [[1]]
  recvStreams := [[1]]
  rtpClockBySendSsrc := fun ssrc => if ssrc = 1 then some ⟨65535, 7⟩ else none

theorem negotiated_channelOf {payloadType : Nat} (small : payloadType ≤ 127) :
    Negotiated (channelOf payloadType) (channelOf payloadType) ⟨1, .text⟩ [42] ⟨100, true⟩
      ⟨payloadType, kGoogleRtpDataCodecName⟩ where
  sending := rfl
  receiving := rfl
  text := rfl
  sendStream := rfl
  recvStream := rfl
  sendCodec := rfl
  recvCodec := by simp [channelOf, findCodecById]
  payloadType := small
  fits := by decide
  canUse := rfl

theorem Negotiated.roundTrips_inBounds_iff_google :
    RoundTrips (channelOf 101) (channelOf 101) ⟨1, .text⟩ [42] ⟨100, true⟩ ∧
        InBounds (channelOf 101) [] ↔
      ((101 : Nat) ≠ 127 ∧ ((channelOf 101).rtpClockBySendSsrc 1).isSome) ∧
        HasReservedSpace (channelOf 101) [] :=
  Negotiated.roundTrips_inBounds_iff (negotiated_channelOf (by decide)) []

/-- With payload type 127 nothing is sent, and of a packet that ends with its header the data
begins behind the end. -/
theorem not_roundTrips_lastPayloadType :
    Negotiated (channelOf 127) (channelOf 127) ⟨1, .text⟩ [42] ⟨100, true⟩
        ⟨127, kGoogleRtpDataCodecName⟩ ∧
      ¬RoundTrips (channelOf 127) (channelOf 127) ⟨1, .text⟩ [42] ⟨100, true⟩ ∧
      ¬InBounds (channelOf 101) [0x80, 101, 0, 0, 0, 0, 0, 0, 0, 0, 0, 1] := by
  refine ⟨negotiated_channelOf (by decide), ?_, fun inside => ?_⟩
  · rintro ⟨packet, sent, clock, received, sends, -⟩
    cases sends
  · exact absurd (inside _ rfl) (by decide)

end ZyWebRtc.RtpData
