import ZyWebRtc.DataChannel.OpenMessage
import ZyWebRtc.DataChannel.Channel

namespace ZyWebRtc.DataChannel

/-! One side of a connection with SCTP data channels: `MediaStreamSignaling` and `WebRtcSession` on
the signaling thread, `SctpDataMediaChannel` on the worker thread. -/

def kMaxSctpSid : Int := 65535

/-- A data channel is its label with its settings. It is connected when its stream is one of
`streams`. Messages to the signaling thread about new streams wait in `newStreams`, and
`dataReceived` is what the worker thread passed on as data. -/
structure SctpPeer where
  dataChannels : List (Bytes × DataChannelInit)
  lastAllocatedSctpId : Int
  streams : List UInt32
  newStreams : List (Bytes × DataChannelInit)
  dataReceived : List (UInt32 × DataMessageType × Bytes)
  deriving DecidableEq

namespace SctpPeer

/-- Connected, without data channels. -/
def new : SctpPeer where
  dataChannels := []
  lastAllocatedSctpId := 0
  streams := []
  newStreams := []
  dataReceived := []

section

variable (peer : SctpPeer)

def isSctpIdAvailable (id : Int) : Bool :=
  if id < 0 ∨ id > kMaxSctpSid then false
  else peer.dataChannels.all fun channel => channel.2.id ≠ id

/-- The loop of `AllocateSctpId`, which `left` rounds are enough for. -/
def searchSctpId (peer : SctpPeer) : (left : Nat) → (lastAllocatedSctpId : Int) → Int
  | 0, lastAllocatedSctpId => lastAllocatedSctpId
  | left + 1, lastAllocatedSctpId =>
    let lastAllocatedSctpId := lastAllocatedSctpId + 1
    if lastAllocatedSctpId ≤ kMaxSctpSid && !peer.isSctpIdAvailable lastAllocatedSctpId then
      peer.searchSctpId left lastAllocatedSctpId
    else lastAllocatedSctpId

def allocateSctpId : Option Int × SctpPeer :=
  let lastAllocatedSctpId :=
    peer.searchSctpId (kMaxSctpSid + 1 - peer.lastAllocatedSctpId).toNat peer.lastAllocatedSctpId
  if lastAllocatedSctpId > kMaxSctpSid then
    (none, { peer with lastAllocatedSctpId := kMaxSctpSid })
  else (some lastAllocatedSctpId, { peer with lastAllocatedSctpId })

def hasLabel (label : Bytes) : Bool :=
  peer.dataChannels.any fun channel => channel.1 = label

/-- `AddSendStream` and `AddRecvStream`, which share the list. -/
def addStream (ssrc : UInt32) : SctpPeer :=
  if ssrc ∈ peer.streams then peer else { peer with streams := peer.streams ++ [ssrc] }

/-- The settings with the id of the stream. -/
def chooseId (newConfig : DataChannelInit) :
    Option DataChannelInit × SctpPeer :=
  if newConfig.id < 0 then
    let (id, peer) := peer.allocateSctpId
    (id.map fun id => { newConfig with id }, peer)
  else if peer.isSctpIdAvailable newConfig.id then (some newConfig, peer)
  else (none, peer)

/-- A data channel, and the OPEN message that its `SendControl` was given. -/
structure Creation where
  config : DataChannelInit
  openMessage : Option Bytes
  deriving DecidableEq

/-- `WebRtcSession::CreateDataChannel`. -/
def createDataChannel (label : Bytes) (config : Option DataChannelInit) :
    Option Creation × SctpPeer :=
  match peer.chooseId (config.getD {}) with
  | (none, peer) => (none, peer)
  | (some newConfig, peer) =>
    if !init .sctp newConfig then (none, peer)
    else if peer.hasLabel label then (none, peer)
    else
      let peer := { peer with dataChannels := peer.dataChannels ++ [(label, newConfig)] }
      match config with
      | none => (none, peer)
      | some config =>
        (some {
          config := newConfig
          openMessage :=
            if config.negotiated then none else some (writeDataChannelOpenMessage label config) },
          peer.addStream (UInt32.ofInt newConfig.id))

/-- `UpdateLocalSctpDataChannels` and `UpdateRemoteSctpDataChannels`, after which all channels are
connected. -/
def updateSctpDataChannels : SctpPeer :=
  peer.dataChannels.foldl (fun peer channel => peer.addStream (UInt32.ofInt channel.2.id)) peer

def onDataFromSctpToChannel (ssrc : UInt32) (type : DataMessageType)
    (buffer : Bytes) : SctpPeer :=
  if ssrc ∈ peer.streams then
    { peer with dataReceived := peer.dataReceived ++ [(ssrc, type, buffer)] }
  else if type = .control then
    match parseDataChannelOpenMessage buffer [] {} with
    | some (label, config) =>
      -- the receiver does not send an OPEN message of its own
      { peer with
        newStreams := peer.newStreams ++
          [(label, { config with id := ssrc.toNat, negotiated := true })] }.addStream ssrc
    | none => peer
  else peer

def addDataChannelFromOpenMessage (label : Bytes) (config : DataChannelInit) :
    Option SctpPeer :=
  if peer.hasLabel label then some peer
  else
    match peer.createDataChannel label (some config) with
    | (some _, peer) => some peer
    | (none, _) => none

/-- The signaling thread takes the next message about a new stream. -/
def onNewDataChannelReceived : Option SctpPeer :=
  match peer.newStreams with
  | [] => some peer
  | (label, config) :: rest =>
    { peer with newStreams := rest }.addDataChannelFromOpenMessage label config

/-! ## What the operations do -/

theorem isSctpIdAvailable_iff (id : Int) :
    peer.isSctpIdAvailable id = true ↔
      (0 ≤ id ∧ id ≤ kMaxSctpSid) ∧ ∀ channel ∈ peer.dataChannels, channel.2.id ≠ id := by
  rw [isSctpIdAvailable]
  by_cases outside : id < 0 ∨ id > kMaxSctpSid
  · rw [if_pos outside]
    refine ⟨fun absurd => (by cases absurd), fun inside => ?_⟩
    omega
  · rw [if_neg outside]
    simp only [List.all_eq_true, decide_eq_true_eq]
    refine ⟨fun free => ⟨?_, free⟩, fun inside => inside.2⟩
    omega

theorem searchSctpId_available {left : Nat} {last : Int}
    (enough : kMaxSctpSid + 1 - last ≤ left) (below : last ≤ kMaxSctpSid) :
    peer.searchSctpId left last > kMaxSctpSid ∨
      peer.isSctpIdAvailable (peer.searchSctpId left last) = true := by
  induction left generalizing last with
  | zero => omega
  | succ left induction =>
    rw [searchSctpId]
    split
    · rename_i taken
      rw [Bool.and_eq_true, decide_eq_true_eq] at taken
      exact induction (by omega) taken.1
    · rename_i free
      rw [Bool.and_eq_true, decide_eq_true_eq, not_and_or, Bool.not_eq_true', Bool.not_eq_false]
        at free
      exact free.imp (fun above => by omega) id

theorem allocateSctpId_spec {peer : SctpPeer}
    (last : 0 ≤ peer.lastAllocatedSctpId ∧ peer.lastAllocatedSctpId ≤ kMaxSctpSid) :
    ∃ counter, (0 ≤ counter ∧ counter ≤ kMaxSctpSid) ∧
      peer.allocateSctpId.2 = { peer with lastAllocatedSctpId := counter } ∧
      ∀ id, peer.allocateSctpId.1 = some id → peer.isSctpIdAvailable id = true := by
  have found := peer.searchSctpId_available
    (show kMaxSctpSid + 1 - peer.lastAllocatedSctpId ≤
      (kMaxSctpSid + 1 - peer.lastAllocatedSctpId).toNat by omega) last.2
  rw [allocateSctpId]
  split
  · exact ⟨kMaxSctpSid, by decide, rfl, fun _ absent => by cases absent⟩
  · rename_i inside
    have available := found.resolve_left inside
    refine ⟨_, ((isSctpIdAvailable_iff peer _).mp available).1, rfl, fun id same => ?_⟩
    rw [← Option.some.inj same]
    exact available

theorem mem_addStream {peer : SctpPeer} {ssrc other : UInt32} :
    other ∈ (peer.addStream ssrc).streams ↔ other ∈ peer.streams ∨ other = ssrc := by
  rw [addStream]
  split
  · rename_i member
    refine ⟨.inl, ?_⟩
    rintro (old | rfl)
    · exact old
    · exact member
  · exact List.mem_append.trans (or_congr Iff.rfl List.mem_singleton)

theorem addStream_eq (ssrc : UInt32) :
    peer.addStream ssrc = { peer with streams := (peer.addStream ssrc).streams } := by
  rw [addStream]
  split <;> rfl

theorem hasLabel_iff (label : Bytes) :
    peer.hasLabel label = true ↔ ∃ channel ∈ peer.dataChannels, channel.1 = label := by
  simp [hasLabel]

def opened (label : Bytes) (config : DataChannelInit) : SctpPeer :=
  { peer with dataChannels := peer.dataChannels ++ [(label, config)] }.addStream
    (UInt32.ofInt config.id)

end

theorem createDataChannel_unset {peer : SctpPeer} {label : Bytes} {config : DataChannelInit}
    (last : 0 ≤ peer.lastAllocatedSctpId ∧ peer.lastAllocatedSctpId ≤ kMaxSctpSid)
    (unset : config.id = -1) (asked : config.negotiated = false) :
    ∃ counter, (0 ≤ counter ∧ counter ≤ kMaxSctpSid) ∧ (peer.createDataChannel label (some config) =
          (none, { peer with lastAllocatedSctpId := counter }) ∨
        peer.hasLabel label = false ∧ init .sctp config = true ∧
          ∃ id, peer.isSctpIdAvailable id = true ∧ peer.createDataChannel label (some config) =
              (some {
                config := { config with id }
                openMessage := some (writeDataChannelOpenMessage label config) },
                { peer with lastAllocatedSctpId := counter }.opened label { config with id })) := by
  rcases allocateSctpId_spec last with ⟨counter, range, moved, free⟩
  refine ⟨counter, range, ?_⟩
  have chosen : peer.chooseId config = (peer.allocateSctpId.1.map fun id => { config with id },
        { peer with lastAllocatedSctpId := counter }) := by
    rw [chooseId, if_pos (by omega), ← moved]
  rw [createDataChannel, Option.getD_some, chosen]
  cases allocated : peer.allocateSctpId.1 with
  | none => exact .inl rfl
  | some id =>
    have available := free id allocated
    have inside := ((isSctpIdAvailable_iff peer id).mp available).1
    simp only [Option.map_some]
    split
    · exact .inl rfl
    rename_i accepted
    split
    · exact .inl rfl
    rename_i unlabelled
    refine .inr ⟨Bool.eq_false_iff.mpr unlabelled, ?_, id, available, ?_⟩
    · rw [Bool.not_eq_true', Bool.not_eq_false, init_sctp_iff] at accepted
      rw [init_sctp_iff]
      exact ⟨⟨by omega, accepted.1.2⟩, accepted.2⟩
    · rw [if_neg (by rw [asked]; decide)]
      rfl

theorem createDataChannel_labelled {peer : SctpPeer} {label : Bytes}
    {config : Option DataChannelInit}
    (last : 0 ≤ peer.lastAllocatedSctpId ∧ peer.lastAllocatedSctpId ≤ kMaxSctpSid)
    (unset : (config.getD {}).id = -1) (labelled : peer.hasLabel label = true) :
    ∃ counter, (0 ≤ counter ∧ counter ≤ kMaxSctpSid) ∧
      peer.createDataChannel label config = (none, { peer with lastAllocatedSctpId := counter }) := by
  rcases allocateSctpId_spec last with ⟨counter, range, moved, -⟩
  refine ⟨counter, range, ?_⟩
  have chosen : peer.chooseId (config.getD {}) =
      (peer.allocateSctpId.1.map fun id => { config.getD {} with id },
        { peer with lastAllocatedSctpId := counter }) := by
    rw [chooseId, if_pos (by omega), ← moved]
  rw [createDataChannel, chosen]
  cases peer.allocateSctpId.1 with
  | none => rfl
  | some id =>
    simp only [Option.map_some]
    split
    · rfl
    · exact if_pos labelled

theorem addDataChannelFromOpenMessage_fresh {peer : SctpPeer} {label : Bytes}
    {config : DataChannelInit} (unlabelled : peer.hasLabel label = false)
    (available : peer.isSctpIdAvailable config.id = true) (accepted : init .sctp config = true) :
    peer.addDataChannelFromOpenMessage label config = some (peer.opened label config) := by
  have inside := ((isSctpIdAvailable_iff peer config.id).mp available).1
  have chosen : peer.chooseId config = (some config, peer) := by
    rw [chooseId, if_neg (by omega), if_pos available]
  rw [addDataChannelFromOpenMessage, unlabelled, if_neg Bool.false_ne_true, createDataChannel,
    Option.getD_some, chosen]
  simp only [accepted, unlabelled, Bool.not_true, Bool.false_eq_true, if_false]
  rfl

end SctpPeer

end ZyWebRtc.DataChannel
