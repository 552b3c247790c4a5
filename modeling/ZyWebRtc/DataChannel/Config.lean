import ZyWebRtc.Foundation.ByteString

namespace ZyWebRtc.DataChannel

/-! The settings of a data channel and the check of `DataChannel::Init`. Strings are the lists
of their bytes. -/

inductive DataChannelType
  | rtp
  | sctp
  deriving DecidableEq, Repr

structure DataChannelInit where
  reliable : Bool := false
  ordered : Bool := true
  /-- In milliseconds, and -1 if unset. -/
  maxRetransmitTime : Int := -1
  /-- -1 if unset. -/
  maxRetransmits : Int := -1
  protocol : Bytes := []
  negotiated : Bool := false
  /-- The stream of an SCTP channel, and -1 if unset. -/
  id : Int := -1
  deriving DecidableEq, Repr

def init (dataChannelType : DataChannelType) (config : DataChannelInit) : Bool :=
  match dataChannelType with
  | .rtp =>
    !(config.reliable || config.id ≠ -1 || config.maxRetransmits ≠ -1 ||
      config.maxRetransmitTime ≠ -1)
  | .sctp =>
    if config.id < -1 ∨ config.maxRetransmits < -1 ∨ config.maxRetransmitTime < -1 then false
    else if config.maxRetransmits ≠ -1 ∧ config.maxRetransmitTime ≠ -1 then false
    else true

end ZyWebRtc.DataChannel
