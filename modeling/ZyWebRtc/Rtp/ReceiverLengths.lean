import ZyWebRtc.Foundation.SequenceNumber
import ZyWebRtc.Rtp.AcceptedPackets
import ZyWebRtc.Rtp.Receiver

namespace ZyWebRtc.Rtp

/-! When the lengths that a receiver hands on are those of bytes it received. -/

open List RTPReceiverAudio

/-- All lengths that are handed on are at most the number of received bytes. -/
def HandsOnInside (handedOn : List HandedOn) (received : Nat) : Prop :=
  ∀ handed ∈ handedOn, handed.length.toNat ≤ received

theorem toNat_sub_one_le {length : UInt16} (some : length ≠ 0) :
    (length - 1).toNat ≤ length.toNat := by
  have positive : length.toNat ≠ 0 := fun zero => some (UInt16.toNat_inj.mp zero)
  have bound := length.toNat_lt
  rw [UInt16.toNat_sub, show (1 : UInt16).toNat = 1 from rfl]
  omega

/-! ## Video -/

section Video

variable (env : ReceiverEnvironment) (payload : Nat → UInt8) (rtpHeader : WebRtcRTPHeader)

theorem parseVideoCodecSpecific_lengths {length : UInt16} (some : length ≠ 0)
    (isFirstPacket : Bool) :
    HandsOnInside (parseVideoCodecSpecific env payload rtpHeader length isFirstPacket).2
      length.toNat := by
  rw [parseVideoCodecSpecific]
  split
  · intro handed member
    rcases mem_pair.mp member with rfl | rfl
    · exact Nat.le_refl _
    · exact toNat_sub_one_le some
  · rw [receiveVp8Codec]
    split
    · intro handed member
      cases mem_singleton.mp member
      exact Nat.le_refl _
    · rename_i frameType vp8 parsed
      split
      · intro handed member
        cases mem_singleton.mp member
        exact Nat.le_refl _
      · intro handed member
        rcases mem_pair.mp member with rfl | rfl
        · exact Nat.le_refl _
        · have shorter := (RTPPayloadParser.parseVP8_data payload parsed).2
          exact Nat.le_of_add_left_le (Nat.le_of_eq shorter)
  · exact fun handed member => absurd member not_mem_nil

theorem depacketizer_mem_parseVideoCodecSpecific {length : UInt16} (isFirstPacket : Bool)
    (known : rtpHeader.video.codec ≠ .none) :
    .depacketizer length ∈
      (parseVideoCodecSpecific env payload rtpHeader length isFirstPacket).2 := by
  rw [parseVideoCodecSpecific]
  split
  · exact mem_cons_self
  · rw [receiveVp8Codec]
    split
    · exact mem_cons_self
    · split <;> exact mem_cons_self
  · contradiction

theorem parseVideoCodecSpecific_unknown {length : UInt16} (isFirstPacket : Bool)
    (unknown : rtpHeader.video.codec = .none) :
    (parseVideoCodecSpecific env payload rtpHeader length isFirstPacket).2 = [] := by
  rw [parseVideoCodecSpecific, unknown]

/-- The 16-bit length without padding is at most the received one exactly when the
padding is. -/
theorem payloadDataLength_le_iff (received : Nat) (padding : UInt8) :
    (UInt16.ofInt received - padding.toUInt16).toNat ≤ received ↔ padding.toNat ≤ received := by
  have bound := padding.toNat_lt
  rw [UInt16.toNat_sub, UInt8.toNat_toUInt16, toNat_ofInt16_natCast]
  omega

theorem payloadDataLength_ne_zero {received : Nat} {padding : UInt8}
    (tooLong : received < padding.toNat) :
    UInt16.ofInt received - padding.toUInt16 ≠ 0 := by
  have bound := padding.toNat_lt
  intro zero
  have zeroNat := congrArg UInt16.toNat zero
  rw [UInt16.toNat_sub, UInt8.toNat_toUInt16, toNat_ofInt16_natCast,
    show (0 : UInt16).toNat = 0 from rfl] at zeroNat
  omega

theorem parseRtpPacketVideo_lengths_iff (specificPayload : PayloadUnion) (received : Nat)
    (isFirstPacket : Bool) :
    HandsOnInside (parseRtpPacketVideo env payload rtpHeader specificPayload
        (UInt16.ofInt received) isFirstPacket).2 received ↔
      (specificPayload.video.videoCodecType ≠ .none →
        rtpHeader.header.paddingLength.toNat ≤ received) := by
  rw [parseRtpPacketVideo]
  dsimp only
  by_cases fits : rtpHeader.header.paddingLength.toNat ≤ received
  · refine ⟨fun _ _ => fits, fun _ => ?_⟩
    have shorter := (payloadDataLength_le_iff received rtpHeader.header.paddingLength).mpr fits
    split
    · intro handed member
      cases mem_singleton.mp member
      exact Nat.zero_le _
    · rename_i some
      intro handed member
      exact (parseVideoCodecSpecific_lengths env payload _ some isFirstPacket handed member).trans
        shorter
  · rw [if_neg (payloadDataLength_ne_zero (Nat.not_le.mp fits))]
    by_cases known : specificPayload.video.videoCodecType = .none
    · rw [parseVideoCodecSpecific_unknown env payload _ isFirstPacket known]
      exact ⟨fun _ other => absurd known other, fun _ handed member => absurd member not_mem_nil⟩
    · refine ⟨fun inside => ?_, fun inside => absurd (inside known) fits⟩
      have handed := inside _ (depacketizer_mem_parseVideoCodecSpecific env payload _ isFirstPacket
        known)
      exact absurd ((payloadDataLength_le_iff received _).mp handed) fits

end Video

section Audio

variable (env : ReceiverEnvironment) (payload : Nat → UInt8)

theorem forwardAudio_lengths (rtpHeader : WebRtcRTPHeader) {length : UInt16} (some : length ≠ 0)
    (audioSpecific : AudioPayload) (isRed : Bool) :
    HandsOnInside (forwardAudio env payload rtpHeader length audioSpecific isRed).2
      length.toNat := by
  rw [forwardAudio]
  split
  · intro handed member
    cases mem_singleton.mp member
    exact toNat_sub_one_le some
  · intro handed member
    cases mem_singleton.mp member
    exact Nat.le_refl _

theorem parseAudioCodecSpecific_lengths (audio : RTPReceiverAudio) (rtpHeader : WebRtcRTPHeader)
    (length : UInt16) (audioSpecific : AudioPayload) (isRed : Bool) :
    HandsOnInside
      (audio.parseAudioCodecSpecific env payload rtpHeader length audioSpecific isRed).2.1
      length.toNat := by
  have nothing : HandsOnInside [] length.toNat :=
    fun handed member => absurd member not_mem_nil
  rw [parseAudioCodecSpecific]
  split
  · exact nothing
  · rename_i some
    dsimp only
    split
    · exact nothing
    · split
      · split
        · exact nothing
        · exact forwardAudio_lengths env payload _ some audioSpecific isRed
      · split
        · exact nothing
        · exact forwardAudio_lengths env payload _ some audioSpecific isRed

end Audio

/-! ## The receiver -/

namespace MediaReceiver

def isVideo : MediaReceiver → Bool
  | .video => true
  | .audio _ => false

theorem isVideo_checkPayloadChanged (media : MediaReceiver) (payloadType : Int8)
    (specificPayload : PayloadUnion) :
    (media.checkPayloadChanged payloadType specificPayload).2.2.isVideo = media.isVideo := by
  cases media with
  | video => rfl
  | audio state =>
    rw [checkPayloadChanged]
    split
    · rfl
    · split <;> rfl

end MediaReceiver

namespace RtpReceiverImpl

variable (env : ReceiverEnvironment) (receiver : RtpReceiverImpl)

theorem isVideo_checkSSRCChanged (rtpHeader : RTPHeader) :
    (receiver.checkSSRCChanged rtpHeader).rtpMediaReceiver = receiver.rtpMediaReceiver := by
  rw [checkSSRCChanged]
  dsimp only
  split
  · split <;> rfl
  · rfl

theorem isVideo_adoptPayloadType (payloadType : Int8) (isRed : Bool)
    (specificPayload : PayloadUnion) :
    (receiver.adoptPayloadType env payloadType isRed specificPayload).2.rtpMediaReceiver.isVideo =
      receiver.rtpMediaReceiver.isVideo := by
  have same := receiver.rtpMediaReceiver.isVideo_checkPayloadChanged payloadType specificPayload
  rw [adoptPayloadType]
  split
  rename_i discard specific media changed
  rw [changed] at same
  dsimp only
  split
  · exact same
  · split
    · exact same
    · split <;> split <;> exact same

theorem isVideo_checkPayloadChanged (rtpHeader : RTPHeader) (firstPayloadByte : UInt8)
    (specificPayload : PayloadUnion) :
    (receiver.checkPayloadChanged env rtpHeader firstPayloadByte
      specificPayload).2.rtpMediaReceiver.isVideo = receiver.rtpMediaReceiver.isVideo := by
  rw [checkPayloadChanged]
  dsimp only
  split
  · rfl
  · split
    · split
      · rfl
      · split
        · rfl
        · exact receiver.isVideo_adoptPayloadType env _ _ _
    · exact receiver.isVideo_adoptPayloadType env _ _ _

/-- The packet is handed to a depacketizer: the receiver is one of video, and the
payload type of the packet stands for a codec that it knows. -/
def Depacketizes (rtpHeader : RTPHeader) (firstPayloadByte : UInt8)
    (payloadSpecific : PayloadUnion) : Prop :=
  receiver.rtpMediaReceiver.isVideo ∧ ∃ isRed specificPayload,
      ((receiver.checkSSRCChanged rtpHeader).checkPayloadChanged env rtpHeader firstPayloadByte
        payloadSpecific).1 = some (isRed, specificPayload) ∧
      specificPayload.video.videoCodecType ≠ .none

theorem incomingRtpPacket_lengths_iff (rtpHeader : RTPHeader) (payload : Nat → UInt8)
    (received : Nat) (payloadSpecific : PayloadUnion) (inOrder : Bool) :
    HandsOnInside (receiver.incomingRtpPacket env rtpHeader payload received payloadSpecific
        inOrder).2.1 received ↔
      (receiver.Depacketizes env rtpHeader (if 0 < received then payload 0 else 0)
          payloadSpecific →
        rtpHeader.paddingLength.toNat ≤ received) := by
  have kind := (receiver.checkSSRCChanged rtpHeader).isVideo_checkPayloadChanged env rtpHeader
    (if 0 < received then payload 0 else 0) payloadSpecific
  rw [isVideo_checkSSRCChanged] at kind
  rw [incomingRtpPacket, if_neg (by omega)]
  unfold Depacketizes
  simp only [Int.natCast_pos]
  generalize (receiver.checkSSRCChanged rtpHeader).checkPayloadChanged env rtpHeader
    (if 0 < received then payload 0 else 0) payloadSpecific = outcome at kind ⊢
  rcases outcome with ⟨_ | ⟨isRed, specificPayload⟩, next⟩
  · constructor
    · rintro - ⟨-, isRed, specificPayload, impossible, -⟩
      cases impossible
    · exact fun _ handed member => absurd member not_mem_nil
  · have handedOn : ∀ result : Int32 × List HandedOn × MediaReceiver,
        (if result.1 < 0 then (false, result.2.1, { next with rtpMediaReceiver := result.2.2 })
        else (true, result.2.1, RtpReceiverImpl.noteReceived env
          { next with rtpMediaReceiver := result.2.2 } rtpHeader
          (UInt16.ofInt (received - rtpHeader.paddingLength.toNat)) inOrder)).2.1 =
          result.2.1 := by
      intro result
      split <;> rfl
    rw [handedOn]
    cases media : next.rtpMediaReceiver with
    | video =>
      rw [media] at kind
      have lengths := parseRtpPacketVideo_lengths_iff env payload (.initial rtpHeader)
        specificPayload received (next.isFirstPacket rtpHeader)
      refine lengths.trans ⟨fun inside => ?_, fun inside known => ?_⟩
      · rintro ⟨-, otherIsRed, otherPayload, same, known⟩
        cases same
        exact inside known
      · exact inside ⟨kind.symm, isRed, specificPayload, rfl, known⟩
    | audio state =>
      rw [media] at kind
      constructor
      · rintro - ⟨video, -⟩
        rw [← kind] at video
        cases video
      · intro _ handed member
        have shorter := parseAudioCodecSpecific_lengths env payload state (.initial rtpHeader)
          (UInt16.ofInt received) specificPayload.audio isRed handed member
        rw [toNat_ofInt16_natCast] at shorter
        exact shorter.trans (Nat.mod_le _ _)

end RtpReceiverImpl

/-- The payload behind a parsed header, with whatever the memory behind it holds. -/
def receivedPayload (data : Bytes) (header : RTPHeader) (behind : Nat → UInt8) (index : Nat) :
    UInt8 :=
  (data.drop header.headerLength.toNat).getD index (behind index)

/-- No length that is handed on exceeds the bytes received behind the header,
exactly when a packet for the depacketizer has no more padding than that. -/
theorem handsOnInside_iff (env : ReceiverEnvironment) (receiver : RtpReceiverImpl) {data : Bytes}
    {extensionMap : Option RtpHeaderExtensionMap} {initial header : RTPHeader}
    (accepted : parse data extensionMap initial = some (true, header)) (behind : Nat → UInt8)
    (payloadSpecific : PayloadUnion) (inOrder : Bool) :
    HandsOnInside
        (receiver.incomingRtpPacket env header (receivedPayload data header behind)
          (data.length - header.headerLength.toNat) payloadSpecific inOrder).2.1
        (data.length - header.headerLength.toNat) ↔
      (receiver.Depacketizes env header
          (if 0 < data.length - header.headerLength.toNat then receivedPayload data header behind 0
          else 0) payloadSpecific →
        header.paddingLength.toNat ≤ data.length - header.headerLength.toNat) := by
  have inside := headerLength_le_of_accepted accepted
  rw [← Int.natCast_sub inside]
  exact receiver.incomingRtpPacket_lengths_iff env header _ _ payloadSpecific inOrder

/-! A video receiver, and a packet with one payload byte that announces 200 bytes
of padding. -/

def genericVideo : PayloadUnion where
  audio := { frequency := 0, channels := 0, rate := 0 }
  video := { videoCodecType := .generic, maxRate := 0 }

def videoReceiver : RtpReceiverImpl where
  rtpPayloadRegistry := {
    payloadTypeMap := [(100, { audio := false, typeSpecific := genericVideo })]
    redPayloadType := -1
    lastReceivedPayloadType := -1
    lastReceivedMediaPayloadType := -1 }
  rtpMediaReceiver := .video
  lastPayload := genericVideo
  ssrc := 0
  lastReceivedTimestamp := 0
  lastReceivedSequenceNumber := 0
  lastReceiveTime := 0
  lastReceivedFrameTimeMs := 0
  lastReceivedPayloadLength := 0

def acceptingEnvironment : ReceiverEnvironment where
  onReceivedPayloadData := fun _ _ _ => 0
  onInitializeDecoder := fun _ _ => 0
  timeInMilliseconds := 1

def overpaddedPacket : Bytes := [0xA0, 100, 0, 1, 0, 0, 0, 9, 0, 0, 0, 7, 200]

def overpaddedHeader : RTPHeader :=
  { unsetHeader with
    payloadType := 100
    sequenceNumber := 1
    timestamp := 9
    ssrc := 7
    paddingLength := 200
    headerLength := 12 }

theorem parse_overpaddedPacket :
    parse overpaddedPacket none unsetHeader = some (true, overpaddedHeader) := by decide

theorem handsOnInside_iff_overpadded :
    HandsOnInside
        (videoReceiver.incomingRtpPacket acceptingEnvironment overpaddedHeader
          (receivedPayload overpaddedPacket overpaddedHeader fun _ => 0)
          (overpaddedPacket.length - overpaddedHeader.headerLength.toNat) genericVideo true).2.1
        (overpaddedPacket.length - overpaddedHeader.headerLength.toNat) ↔
      (videoReceiver.Depacketizes acceptingEnvironment overpaddedHeader
          (if 0 < overpaddedPacket.length - overpaddedHeader.headerLength.toNat then
            receivedPayload overpaddedPacket overpaddedHeader (fun _ => 0) 0
          else 0) genericVideo →
        overpaddedHeader.paddingLength.toNat ≤
          overpaddedPacket.length - overpaddedHeader.headerLength.toNat) :=
  handsOnInside_iff acceptingEnvironment videoReceiver parse_overpaddedPacket (fun _ => 0)
    genericVideo true

theorem not_handsOnInside_overpadded :
    parse overpaddedPacket none unsetHeader = some (true, overpaddedHeader) ∧ ¬ HandsOnInside
        (videoReceiver.incomingRtpPacket acceptingEnvironment overpaddedHeader
          (receivedPayload overpaddedPacket overpaddedHeader fun _ => 0)
          (overpaddedPacket.length - overpaddedHeader.headerLength.toNat) genericVideo true).2.1
        (overpaddedPacket.length - overpaddedHeader.headerLength.toNat) := by
  refine ⟨parse_overpaddedPacket, ?_⟩
  unfold HandsOnInside
  decide +kernel

end ZyWebRtc.Rtp
