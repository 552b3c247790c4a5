import ZyWebRtc.Foundation.ByteString

namespace ZyWebRtc.Rtcp

/-! The parsed contents of RTCP blocks and of their items. -/

def RTCP_RPSI_DATA_SIZE : Nat := 30

def kRtcpAppCode_DATA_SIZE : Nat := 32 * 4

structure RTCPPacketRR where
  senderSSRC : UInt32
  numberOfReportBlocks : UInt8

structure RTCPPacketSR where
  senderSSRC : UInt32
  numberOfReportBlocks : UInt8
  ntpMostSignificant : UInt32
  ntpLeastSignificant : UInt32
  rtpTimestamp : UInt32
  senderPacketCount : UInt32
  senderOctetCount : UInt32

structure RTCPPacketReportBlockItem where
  ssrc : UInt32
  fractionLost : UInt8
  cumulativeNumOfPacketsLost : UInt32
  extendedHighestSequenceNumber : UInt32
  jitter : UInt32
  lastSR : UInt32
  delayLastSR : UInt32

/-- The name without its terminating zero. -/
structure RTCPPacketSDESCName where
  senderSSRC : UInt32
  cName : Bytes

structure RTCPPacketXRReceiverReferenceTimeItem where
  ntpMostSignificant : UInt32
  ntpLeastSignificant : UInt32

structure RTCPPacketXRDLRRReportBlockItem where
  ssrc : UInt32
  lastRR : UInt32
  delayLastRR : UInt32

structure RTCPPacketXRVOIPMetricItem where
  ssrc : UInt32
  lossRate : UInt8
  discardRate : UInt8
  burstDensity : UInt8
  gapDensity : UInt8
  burstDuration : UInt16
  gapDuration : UInt16
  roundTripDelay : UInt16
  endSystemDelay : UInt16
  signalLevel : UInt8
  noiseLevel : UInt8
  rerl : UInt8
  gmin : UInt8
  rFactor : UInt8
  extRfactor : UInt8
  moslq : UInt8
  moscq : UInt8
  rxConfig : UInt8
  jbNominal : UInt16
  jbMax : UInt16
  jbAbsMax : UInt16

/-- The two sources at the head of every feedback message. -/
structure FeedbackSources where
  senderSSRC : UInt32
  mediaSSRC : UInt32

structure RTCPPacketRTPFBNACKItem where
  packetID : UInt16
  bitMask : UInt16

/-- A TMMBR or a TMMBN item. -/
structure BitRateItem where
  ssrc : UInt32
  maxTotalMediaBitRate : UInt32
  measuredOverhead : UInt32

structure RTCPPacketPSFBFIRItem where
  ssrc : UInt32
  commandSequenceNumber : UInt8

structure RTCPPacketPSFBSLIItem where
  firstMB : UInt16
  numberOfMB : UInt16
  pictureId : UInt8

structure RTCPPacketPSFBRPSI where
  senderSSRC : UInt32
  mediaSSRC : UInt32
  payloadType : UInt8
  numberOfValidBits : UInt16
  nativeBitString : Bytes

structure RTCPPacketPSFBREMBItem where
  bitRate : UInt32
  numberOfSSRCs : UInt8
  ssrcs : List UInt32

structure RTCPPacketAPP where
  subType : UInt8
  name : UInt32
  data : Bytes
  size : UInt16

/-- The union of all of these, by the member that was written last. -/
inductive RTCPPacket
  | rr (rr : RTCPPacketRR)
  | sr (sr : RTCPPacketSR)
  | reportBlockItem (item : RTCPPacketReportBlockItem)
  | cName (cName : RTCPPacketSDESCName)
  | bye (senderSSRC : UInt32)
  | extendedJitterReportItem (jitter : UInt32)
  | nack (sources : FeedbackSources)
  | nackItem (item : RTCPPacketRTPFBNACKItem)
  | pli (sources : FeedbackSources)
  | sli (sources : FeedbackSources)
  | sliItem (item : RTCPPacketPSFBSLIItem)
  | rpsi (rpsi : RTCPPacketPSFBRPSI)
  | psfbApp (sources : FeedbackSources)
  | rembItem (item : RTCPPacketPSFBREMBItem)
  | tmmbr (sources : FeedbackSources)
  | tmmbrItem (item : BitRateItem)
  | tmmbn (sources : FeedbackSources)
  | tmmbnItem (item : BitRateItem)
  | fir (sources : FeedbackSources)
  | firItem (item : RTCPPacketPSFBFIRItem)
  | xr (originatorSSRC : UInt32)
  | xrReceiverReferenceTimeItem (item : RTCPPacketXRReceiverReferenceTimeItem)
  | xrDLRRReportBlockItem (item : RTCPPacketXRDLRRReportBlockItem)
  | xrVOIPMetricItem (item : RTCPPacketXRVOIPMetricItem)
  | app (app : RTCPPacketAPP)

namespace RTCPPacket

/-! Three members are written in more than one step, so their other fields are
read back. A member that was not the last one written reads as zeros. -/

def cNameMember : RTCPPacket → RTCPPacketSDESCName
  | cName member => member
  | _ => { senderSSRC := 0, cName := [] }

def rpsiMember : RTCPPacket → RTCPPacketPSFBRPSI
  | rpsi member => member
  | _ => { senderSSRC := 0, mediaSSRC := 0, payloadType := 0, numberOfValidBits := 0,
           nativeBitString := [] }

def appMember : RTCPPacket → RTCPPacketAPP
  | app member => member
  | _ => { subType := 0, name := 0, data := [], size := 0 }

end RTCPPacket

inductive RTCPPacketTypes
  | kRtcpNotValidCode
  | kRtcpRrCode
  | kRtcpSrCode
  | kRtcpReportBlockItemCode
  | kRtcpSdesCode
  | kRtcpSdesChunkCode
  | kRtcpByeCode
  | kRtcpExtendedIjCode
  | kRtcpExtendedIjItemCode
  | kRtcpRtpfbNackCode
  | kRtcpRtpfbNackItemCode
  | kRtcpPsfbPliCode
  | kRtcpPsfbRpsiCode
  | kRtcpPsfbSliCode
  | kRtcpPsfbSliItemCode
  | kRtcpPsfbAppCode
  | kRtcpPsfbRembCode
  | kRtcpPsfbRembItemCode
  | kRtcpRtpfbTmmbrCode
  | kRtcpRtpfbTmmbrItemCode
  | kRtcpRtpfbTmmbnCode
  | kRtcpRtpfbTmmbnItemCode
  | kRtcpPsfbFirCode
  | kRtcpPsfbFirItemCode
  | kRtcpRtpfbSrReqCode
  | kRtcpXrHeaderCode
  | kRtcpXrReceiverReferenceTimeCode
  | kRtcpXrDlrrReportBlockCode
  | kRtcpXrDlrrReportBlockItemCode
  | kRtcpXrVoipMetricCode
  | kRtcpAppCode
  | kRtcpAppItemCode
  deriving DecidableEq

structure RTCPCommonHeader where
  v : UInt8
  p : Bool
  ic : UInt8
  pt : UInt8
  lengthInOctets : UInt16
  deriving DecidableEq

/-- The length of a block in octets; the field counts words beyond the first. -/
def octetsOfLength (length : UInt16) : UInt16 := (length + 1) * 4

/-- The common header at `offset`. The inner option is empty when the parser
refuses it, the outer one when the header is read outside the packet. -/
def rtcpParseCommonHeader (data : Bytes) (offset : Nat) : Option (Option RTCPCommonHeader) :=
  if data.length < offset + 4 then some none
  else do
    let first ← data.byteAt offset
    let pt ← data.byteAt (offset + 1)
    let length ← data.uint16At (offset + 2)
    if octetsOfLength length = 0 then pure none
    else if first >>> 6 ≠ 2 then pure none
    else pure (some {
      v := first >>> 6
      p := first &&& 0x20 ≠ 0
      ic := first &&& 0x1f
      pt
      lengthInOctets := octetsOfLength length })

theorem four_dvd_octetsOfLength (length : UInt16) : 4 ∣ (octetsOfLength length).toNat := by
  rw [octetsOfLength, UInt16.toNat_mul, show (4 : UInt16).toNat = 4 from rfl]
  omega

/-- A common header is read inside the packet, and a block that it begins has a
positive number of words. -/
theorem rtcpParseCommonHeader_inside (data : Bytes) (offset : Nat) :
    ∃ result, rtcpParseCommonHeader data offset = some result ∧
      ∀ header ∈ result, offset + 4 ≤ data.length ∧
        4 ∣ header.lengthInOctets.toNat ∧ 4 ≤ header.lengthInOctets.toNat := by
  by_cases short : data.length < offset + 4
  · exact ⟨none, if_pos short, by simp⟩
  simp (disch := omega) only [rtcpParseCommonHeader, short, if_false, Bytes.byteAt_inside,
    Bytes.uint16At_inside, Option.bind_eq_bind, Option.bind_some, Option.pure_def]
  split
  · exact ⟨none, rfl, by simp⟩
  rename_i nonzero
  split
  · exact ⟨none, rfl, by simp⟩
  refine ⟨_, rfl, ?_⟩
  intro header member
  cases member
  have words := four_dvd_octetsOfLength (data.uint16Value (offset + 2))
  have positive : (octetsOfLength (data.uint16Value (offset + 2))).toNat ≠ 0 :=
    fun zero => nonzero (UInt16.toNat_inj.mp zero)
  refine ⟨by omega, words, ?_⟩
  simp only
  omega

end ZyWebRtc.Rtcp
