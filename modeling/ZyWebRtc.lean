import ZyWebRtc.PseudoTcp.ReceiveWindow
import ZyWebRtc.PseudoTcp.PacketSafety
import ZyWebRtc.Rtp.UpdatedPackets
import ZyWebRtc.Rtp.LossAccounting
import ZyWebRtc.Rtp.PayloadConsistency
import ZyWebRtc.Rtp.PacketHistoryLookup
import ZyWebRtc.Rtp.ReceiverLengths
import ZyWebRtc.Rtp.ExtensionBlocks
import ZyWebRtc.Fec.RedSafety
import ZyWebRtc.Fec.Delivery
import ZyWebRtc.Rtcp.BitRateFeedback
import ZyWebRtc.Rtcp.Framing
import ZyWebRtc.Video.NalUnits
import ZyWebRtc.Video.TimestampMap
import ZyWebRtc.Stun.Signing
import ZyWebRtc.Turn.Sockets
import ZyWebRtc.Turn.Authorization
import ZyWebRtc.Turn.PortSafety
import ZyWebRtc.Ice.RoleAgreement
import ZyWebRtc.Ice.BestConnection
import ZyWebRtc.Ice.LivenessRun
import ZyWebRtc.Ice.OneRole
import ZyWebRtc.Turn.ChannelData
import ZyWebRtc.Rtcp.ExtendedReports
import ZyWebRtc.Stun.RequestLifecycle
import ZyWebRtc.Rtcp.SendReportHistory
import ZyWebRtc.Rtcp.TmmbrTimeouts
import ZyWebRtc.Rtcp.BoundingEnvelope
import ZyWebRtc.Rtp.RtxRoundTrip
import ZyWebRtc.Pacing.Conservation
import ZyWebRtc.Srtp.Agreement
import ZyWebRtc.DataChannel.SctpAgreement
import ZyWebRtc.Vp8.PacketizerSafety
import ZyWebRtc.Fec.ProducerRun
import ZyWebRtc.Messaging.DeliveryOrder
import ZyWebRtc.DataChannel.OpenRequests
import ZyWebRtc.Pacing.BitrateAllocation
import ZyWebRtc.Srtp.BundleCryptos
import ZyWebRtc.DataChannel.Draining
import ZyWebRtc.DataChannel.RtpData
import ZyWebRtc.NetEq.AudioSplitting
import ZyWebRtc.RtcWorker.Calls
import ZyWebRtc.NetEq.DelayManager
