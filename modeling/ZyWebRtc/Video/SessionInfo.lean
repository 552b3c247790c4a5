import Mathlib.Data.List.DropRight
import ZyWebRtc.Foundation.Buffer
import ZyWebRtc.Foundation.SequenceNumber

namespace ZyWebRtc.Video

/-! `VCMSessionInfo`: the packets of one frame, and the buffer that they are copied to. -/

inductive FrameType
  | kFrameEmpty
  | kAudioFrameSpeech
  | kAudioFrameCN
  | kVideoFrameKey
  | kVideoFrameDelta
  | kVideoFrameGolden
  | kVideoFrameAltRef
  deriving DecidableEq

inductive VCMNaluCompleteness
  | kNaluUnset
  | kNaluComplete
  | kNaluStart
  | kNaluIncomplete
  | kNaluEnd
  deriving DecidableEq

inductive VCMDecodeErrorMode
  | kNoErrors
  | kSelectiveErrors
  | kWithErrors
  deriving DecidableEq

/-- The data pointer of a stored packet is an offset in the frame buffer. -/
structure VCMPacket where
  seqNum : UInt16
  dataPtr : Option Nat
  sizeBytes : Nat
  markerBit : Bool
  frameType : FrameType
  isFirstPacket : Bool
  completeNALU : VCMNaluCompleteness
  insertStartCode : Bool
  deriving DecidableEq

/-- `betweenThresholds` is the comparison, in floating point, of a number of packets with the
low and the high percentage of the rolling average of packets in a frame. -/
structure FrameData where
  rttMs : Int
  betweenThresholds : Nat → Bool

structure VCMSessionInfo where
  complete : Bool
  decodable : Bool
  frameType : FrameType
  packets : List VCMPacket
  emptySeqNumLow : Option UInt16
  emptySeqNumHigh : Option UInt16
  firstPacketSeqNum : Option UInt16
  lastPacketSeqNum : Option UInt16

def kMaxPacketsInSession : Nat := 800

def kH264StartCodeLengthBytes : Nat := 4

def kRttThreshold : Int := 100

def startCode : Bytes := [0, 0, 0, 1]

def VCMPacket.bufferSize (packet : VCMPacket) : Nat :=
  packet.sizeBytes + if packet.insertStartCode then kH264StartCodeLengthBytes else 0

/-- Where the payload of a packet goes, behind its start code. -/
def VCMPacket.payloadOffset (packet : VCMPacket) (offset : Nat) : Nat :=
  offset + if packet.insertStartCode then kH264StartCodeLengthBytes else 0

namespace VCMSessionInfo

/-- The constructor. -/
def new : VCMSessionInfo where
  complete := false
  decodable := false
  frameType := .kVideoFrameDelta
  packets := []
  emptySeqNumLow := none
  emptySeqNumHigh := none
  firstPacketSeqNum := none
  lastPacketSeqNum := none

def sessionLength (packets : List VCMPacket) : Nat := (packets.map VCMPacket.sizeBytes).sum

def shiftPointer (stepsToShift : Int) (packet : VCMPacket) : VCMPacket :=
  { packet with dataPtr := packet.dataPtr.map fun pointer => (pointer + stepsToShift).toNat }

/-- `ShiftSubsequentPackets` on the packets behind its iterator. It has no value when it
moves bytes at the null pointer. -/
def shiftSubsequentPackets (subsequent : List VCMPacket) (stepsToShift : Int)
    (frameBuffer : Buffer) : Option (List VCMPacket × Buffer) :=
  match subsequent with
  | [] => some ([], frameBuffer)
  | first :: _ => do
    let firstPacketPtr ← first.dataPtr
    pure (subsequent.map (shiftPointer stepsToShift),
      frameBuffer.overwrite (firstPacketPtr + stepsToShift).toNat
        (frameBuffer.slice firstPacketPtr (sessionLength subsequent)))

/-- `InsertBuffer` for a packet between those `before` and those `after` it; `data` is the
memory at its data pointer. -/
def insertBuffer (frameBuffer : Buffer) (before : List VCMPacket) (packet : VCMPacket)
    (data : Buffer) (after : List VCMPacket) : Option (List VCMPacket × Buffer) := do
  let offset := sessionLength before
  let stored := { packet with dataPtr := some offset, sizeBytes := packet.bufferSize }
  let (after, frameBuffer) ← shiftSubsequentPackets after packet.bufferSize frameBuffer
  let frameBuffer :=
    if packet.insertStartCode then frameBuffer.overwrite offset startCode else frameBuffer
  -- The size is that of the stored packet, with the start code.
  let frameBuffer :=
    frameBuffer.overwrite (packet.payloadOffset offset) (data.slice 0 stored.sizeBytes)
  pure (before ++ stored :: after, frameBuffer)

def inSequence : List VCMPacket → Bool
  | first :: second :: rest => first.seqNum + 1 == second.seqNum && inSequence (second :: rest)
  | _ => true

def haveFirstPacket (session : VCMSessionInfo) : Bool :=
  !session.packets.isEmpty && session.firstPacketSeqNum.isSome

def haveLastPacket (session : VCMSessionInfo) : Bool :=
  !session.packets.isEmpty && session.lastPacketSeqNum.isSome

def updateCompleteSession (session : VCMSessionInfo) : VCMSessionInfo :=
  if session.haveFirstPacket && session.haveLastPacket then
    { session with complete := inSequence session.packets }
  else session

def updateDecodableSession (frameData : FrameData) (session : VCMSessionInfo) : VCMSessionInfo :=
  if session.complete || session.decodable then session
  else if frameData.rttMs < kRttThreshold || session.frameType = .kVideoFrameKey ||
      !session.haveFirstPacket || frameData.betweenThresholds session.packets.length then session
  else { session with decodable := true }

/-- What `InsertPacket` updates behind the insertion. -/
def updateState (decodeErrorMode : VCMDecodeErrorMode) (frameData : FrameData)
    (session : VCMSessionInfo) : VCMSessionInfo :=
  match decodeErrorMode with
  | .kWithErrors => { session.updateCompleteSession with decodable := true }
  | .kSelectiveErrors => session.updateCompleteSession.updateDecodableSession frameData
  | .kNoErrors => session.updateCompleteSession

def informOfEmptyPacket (seqNum : UInt16) (session : VCMSessionInfo) : VCMSessionInfo :=
  { session with
    emptySeqNumHigh := some (match session.emptySeqNumHigh with
      | none => seqNum
      | some high => latestSequenceNumber seqNum high)
    emptySeqNumLow := some (match session.emptySeqNumLow with
      | none => seqNum
      | some low => if isNewerSequenceNumber low seqNum then seqNum else low) }

/-- The check against the first packet; no session when the packet is refused. -/
def noteFirst (packet : VCMPacket) (session : VCMSessionInfo) : Option VCMSessionInfo :=
  if packet.isFirstPacket && session.firstPacketSeqNum.isNone then
    some { session with
      frameType := packet.frameType, firstPacketSeqNum := some packet.seqNum }
  else if session.firstPacketSeqNum.any fun first => !isNewerSequenceNumber packet.seqNum first then
    none
  else if session.frameType = .kFrameEmpty ∧ packet.frameType ≠ .kFrameEmpty then
    some { session with frameType := packet.frameType }
  else some session

/-- The check against the last packet; no session when the packet is refused. -/
def noteLast (packet : VCMPacket) (session : VCMSessionInfo) : Option VCMSessionInfo :=
  if packet.markerBit && session.lastPacketSeqNum.isNone then
    some { session with lastPacketSeqNum := some packet.seqNum }
  else if session.lastPacketSeqNum.any fun last => isNewerSequenceNumber packet.seqNum last then
    none
  else some session

/-- The search from the back stops at a packet like this. -/
def notBehind (seqNum : UInt16) (stored : VCMPacket) : Bool :=
  latestSequenceNumber seqNum stored.seqNum = seqNum

/-- The stored packets in front of the place of a sequence number. -/
def packetsBefore (seqNum : UInt16) (packets : List VCMPacket) : List VCMPacket :=
  packets.rdropWhile fun stored => !notBehind seqNum stored

def packetsAfter (seqNum : UInt16) (packets : List VCMPacket) : List VCMPacket :=
  packets.rtakeWhile fun stored => !notBehind seqNum stored

def isDuplicate (packet : VCMPacket) (packets : List VCMPacket) : Bool :=
  (packetsBefore packet.seqNum packets).getLast?.any fun stored =>
    stored.seqNum = packet.seqNum && 0 < stored.sizeBytes

/-- `InsertPacket`, with the value that it returns. Sizes are not cut to a machine word:
`VCMFrameBuffer` refuses a packet that makes the frame larger than four megabytes. -/
def insertPacket (packet : VCMPacket) (data : Buffer) (decodeErrorMode : VCMDecodeErrorMode)
    (frameData : FrameData) (session : VCMSessionInfo) (frameBuffer : Buffer) :
    Option (Int × VCMSessionInfo × Buffer) :=
  if packet.frameType = .kFrameEmpty then
    some (0, session.informOfEmptyPacket packet.seqNum, frameBuffer)
  else if session.packets.length = kMaxPacketsInSession then some (-1, session, frameBuffer)
  else if isDuplicate packet session.packets then some (-2, session, frameBuffer)
  else match session.noteFirst packet with
    | none => some (-3, session, frameBuffer)
    | some noted =>
      match noted.noteLast packet with
      | none => some (-3, noted, frameBuffer)
      | some noted => do
        let (packets, frameBuffer) ← insertBuffer frameBuffer
          (packetsBefore packet.seqNum noted.packets) packet data
          (packetsAfter packet.seqNum noted.packets)
        pure (packet.bufferSize,
          updateState decodeErrorMode frameData { noted with packets }, frameBuffer)

end VCMSessionInfo

end ZyWebRtc.Video
