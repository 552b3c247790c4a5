import ZyWebRtc.Rtcp.Packet
import ZyWebRtc.Rtcp.Sender

namespace ZyWebRtc.Rtcp

/-! `RTCPReceiveInformation` and the functions of `RTCPReceiver` that keep the bit rate requests
of the remotes. A function has no value when it would reach outside a vector. -/

/-- The interval of audio is used, since that of the remote is not known. -/
def fiveIntervals : Int := 5 * RTCP_INTERVAL_AUDIO_MS.toNat

structure RTCPReceiveInformation where
  lastTimeReceived : Int
  tmmbrSet : TMMBRSet
  tmmbrSetTimeouts : List Int
  readyForDelete : Bool
  deriving DecidableEq

namespace RTCPReceiveInformation

def create : RTCPReceiveInformation where
  lastTimeReceived := 0
  tmmbrSet := .empty
  tmmbrSetTimeouts := []
  readyForDelete := false

def verifyAndAllocateTMMBRSet (minimumSize : Nat) (info : RTCPReceiveInformation) :
    RTCPReceiveInformation :=
  if minimumSize > info.tmmbrSet.sizeOfSet then
    { info with tmmbrSet := info.tmmbrSet.verifyAndAllocateSetKeepingData minimumSize }
  else info

def requestElement (senderSSRC : UInt32) (item : BitRateItem) : SetElement where
  tmmbr := item.maxTotalMediaBitRate
  packetOH := item.measuredOverhead
  ssrc := senderSSRC

def insertTMMBRItem (senderSSRC : UInt32) (item : BitRateItem) (currentTimeMS : Int)
    (info : RTCPReceiveInformation) : Option RTCPReceiveInformation :=
  match info.tmmbrSet.entries.findIdx? fun element => element.ssrc = senderSSRC with
  | some index => do
    let set ← info.tmmbrSet.setEntry index (requestElement senderSSRC item)
    if index < info.tmmbrSetTimeouts.length then
      pure { info with
        tmmbrSet := set
        tmmbrSetTimeouts := info.tmmbrSetTimeouts.set index currentTimeMS }
    else none
  | none => do
    let room := info.verifyAndAllocateTMMBRSet (info.tmmbrSet.lengthOfSet + 1)
    let set ← room.tmmbrSet.addEntry (requestElement senderSSRC item)
    pure { room with
      tmmbrSet := set
      tmmbrSetTimeouts := room.tmmbrSetTimeouts ++ [currentTimeMS] }

/-- A request is kept for five intervals. -/
def timedOut (currentTimeMS timeout : Int) : Bool :=
  currentTimeMS - timeout > fiveIntervals

def getTMMBRSet (sourceIdx targetIdx : Nat) (candidateSet : TMMBRSet) (currentTimeMS : Int)
    (info : RTCPReceiveInformation) : Option (Int × TMMBRSet × RTCPReceiveInformation) :=
  if info.tmmbrSet.lengthOfSet ≤ sourceIdx then some (-1, candidateSet, info)
  else if candidateSet.sizeOfSet ≤ targetIdx then some (-1, candidateSet, info)
  else do
    let timeout ← info.tmmbrSetTimeouts[sourceIdx]?
    if timedOut currentTimeMS timeout then
      let set ← info.tmmbrSet.removeEntry sourceIdx
      pure (-1, candidateSet, { info with
        tmmbrSet := set
        tmmbrSetTimeouts := info.tmmbrSetTimeouts.eraseIdx sourceIdx })
    else
      let element ← info.tmmbrSet.data[sourceIdx]?
      let candidates ← candidateSet.setEntry targetIdx element
      pure (0, candidates, info)

/-- The loop of `TMMBRReceived` over the entries of a remote. Each step moves the index, so the
length of the set is enough fuel. -/
def collect (size : Nat) (currentTimeMS : Int) : (fuel i num : Nat) → TMMBRSet →
    RTCPReceiveInformation → Option (Nat × TMMBRSet × RTCPReceiveInformation)
  | 0, _, _, _, _ => none
  | fuel + 1, i, num, candidateSet, info =>
    if num < size ∧ i < info.tmmbrSet.lengthOfSet then do
      let (value, candidates, next) ← info.getTMMBRSet i num candidateSet currentTimeMS
      collect size currentTimeMS fuel (i + 1) (if value = 0 then num + 1 else num) candidates
        next
    else some (num, candidateSet, info)

end RTCPReceiveInformation

/-! ## The receiver -/

open RTCPReceiveInformation

/-- The members of `RTCPReceiver` that the requests need. No pointer in the map is null. -/
structure TmmbrReceiver where
  mainSsrc : UInt32
  receivedInfoMap : List (UInt32 × RTCPReceiveInformation)
  deriving DecidableEq

namespace TmmbrReceiver

def create (mainSsrc : UInt32) : TmmbrReceiver := { mainSsrc, receivedInfoMap := [] }

/-- The information about a remote, which is put into the map when it is missing. -/
def createReceiveInformation (remoteSSRC : UInt32) (receiver : TmmbrReceiver) :
    RTCPReceiveInformation :=
  (SortedMap.find remoteSSRC receiver.receivedInfoMap).getD .create

def putReceiveInformation (remoteSSRC : UInt32) (info : RTCPReceiveInformation)
    (receiver : TmmbrReceiver) : TmmbrReceiver :=
  { receiver with
    receivedInfoMap := SortedMap.insert remoteSSRC info receiver.receivedInfoMap }

def handleSenderReceiverReport (remoteSSRC : UInt32) (currentTimeMS : Int)
    (receiver : TmmbrReceiver) : TmmbrReceiver :=
  receiver.putReceiveInformation remoteSSRC
    { receiver.createReceiveInformation remoteSSRC with lastTimeReceived := currentTimeMS }

def handleBYE (senderSSRC : UInt32) (receiver : TmmbrReceiver) : TmmbrReceiver :=
  match SortedMap.find senderSSRC receiver.receivedInfoMap with
  | none => receiver
  | some info => receiver.putReceiveInformation senderSSRC { info with readyForDelete := true }

/-- The item asks this endpoint for a limit. -/
def accepts (mainSsrc : UInt32) (item : BitRateItem) : Bool :=
  mainSsrc = item.ssrc ∧ item.maxTotalMediaBitRate > 0

def handleTMMBRItems (mainSsrc senderSSRC : UInt32) (currentTimeMS : Int) :
    List BitRateItem → RTCPReceiveInformation → Option RTCPReceiveInformation
  | [], info => some info
  | item :: rest, info =>
    if accepts mainSsrc item then do
      let next ← info.insertTMMBRItem senderSSRC item currentTimeMS
      handleTMMBRItems mainSsrc senderSSRC currentTimeMS rest next
    else handleTMMBRItems mainSsrc senderSSRC currentTimeMS rest info

/-- Who asks: in relay mode the media source is not zero. -/
def requester (sources : FeedbackSources) : UInt32 :=
  if sources.mediaSSRC ≠ 0 then sources.mediaSSRC else sources.senderSSRC

def tooManyItems (lengthLeft : Nat) : Bool := lengthLeft / 8 > 200

/-- A message of requests, with the items that the parser yields. -/
def handleTMMBR (sources : FeedbackSources) (lengthLeft : Nat) (items : List BitRateItem)
    (currentTimeMS : Int) (receiver : TmmbrReceiver) : Option TmmbrReceiver :=
  match SortedMap.find sources.senderSSRC receiver.receivedInfoMap with
  | none => some receiver
  | some info =>
    if tooManyItems lengthLeft then some receiver
    else do
      let next ← handleTMMBRItems receiver.mainSsrc (requester sources) currentTimeMS items
        (info.verifyAndAllocateTMMBRSet (lengthLeft / 8))
      pure (receiver.putReceiveInformation sources.senderSSRC next)

/-- The remote has sent no report for five intervals. -/
def silent (timeNow : Int) (info : RTCPReceiveInformation) : Bool :=
  info.lastTimeReceived ≠ 0 ∧ timeNow - info.lastTimeReceived > fiveIntervals

/-- The timer of one remote, which may leave the map. -/
def updateTimer (timeNow : Int) (info : RTCPReceiveInformation) :
    Option RTCPReceiveInformation :=
  if info.lastTimeReceived ≠ 0 then
    if silent timeNow info then
      some { info with tmmbrSet := info.tmmbrSet.clearSet, lastTimeReceived := 0 }
    else some info
  else if info.readyForDelete then none
  else some info

/-- The flag tells that the bounding set has to be sent again. -/
def updateRTCPReceiveInformationTimers (timeNow : Int) (receiver : TmmbrReceiver) :
    Bool × TmmbrReceiver :=
  (receiver.receivedInfoMap.any fun entry => silent timeNow entry.2, { receiver with
      receivedInfoMap := receiver.receivedInfoMap.filterMap fun entry =>
        (updateTimer timeNow entry.2).map fun info => (entry.1, info) })

/-- The loop of `TMMBRReceived` over the remotes. -/
def collectAll (size : Nat) (currentTimeMS : Int) : (num : Nat) → TMMBRSet →
    List (UInt32 × RTCPReceiveInformation) →
    Option (Nat × TMMBRSet × List (UInt32 × RTCPReceiveInformation))
  | num, candidateSet, [] => some (num, candidateSet, [])
  | num, candidateSet, entry :: rest =>
    if num < size then do
      let (found, candidates, info) ←
        entry.2.collect size currentTimeMS (entry.2.tmmbrSet.lengthOfSet + 1) 0 num candidateSet
      let (total, all, later) ← collectAll size currentTimeMS found candidates rest
      pure (total, all, (entry.1, info) :: later)
    else some (num, candidateSet, entry :: rest)

/-- The clock is read once for a call. Without a candidate set the entries are counted. -/
def tmmbrReceived (size accNumCandidates : UInt32) (candidateSet : Option TMMBRSet)
    (currentTimeMS : Int) (receiver : TmmbrReceiver) :
    Option (Int32 × Option TMMBRSet × TmmbrReceiver) :=
  if receiver.receivedInfoMap = [] then some (-1, candidateSet, receiver)
  else
    match candidateSet with
    | none =>
      let lengths := receiver.receivedInfoMap.map fun entry => entry.2.tmmbrSet.lengthOfSet
      some (Int32.ofNat (accNumCandidates.toNat + lengths.sum), none, receiver)
    | some candidates => do
      let (num, all, map) ← collectAll size.toNat currentTimeMS accNumCandidates.toNat candidates
        receiver.receivedInfoMap
      pure (Int32.ofNat num, some all, { receiver with receivedInfoMap := map })

end TmmbrReceiver

end ZyWebRtc.Rtcp
