import ZyWebRtc.DataChannel.SctpPeer
import ZyWebRtc.Foundation.Run

namespace ZyWebRtc.DataChannel

/-! Two connected peers that open data channels: whose ids collide, and which OPEN messages lead to
a channel. -/

inductive Side
  | first
  | second
  deriving DecidableEq

def Side.other : Side → Side
  | .first => .second
  | .second => .first

/-- An OPEN message with the label and the id of its sender's channel. From `SendControl` to its
arrival it is in flight. -/
structure Opening where
  label : Bytes
  id : Int
  payload : Bytes
  deriving DecidableEq

/-- One side with the messages in flight to it, the labels and ids of the channels that its
application created, and those of the OPEN messages that arrived. -/
structure Endpoint where
  peer : SctpPeer
  incoming : List Opening
  created : List (Bytes × Int)
  arrived : List (Bytes × Int)
  deriving DecidableEq

abbrev Session := Side → Endpoint

inductive Event
  | createDataChannel (side : Side) (label : Bytes) (config : Option DataChannelInit)
  /-- A message that is in flight arrives on the worker thread. -/
  | deliver (side : Side) (index : Nat)
  /-- The signaling thread takes the next message about a new stream. -/
  | handle (side : Side)
  deriving DecidableEq

namespace Session

def start : Session := fun _ => ⟨.new, [], [], []⟩

def set (side : Side) (own others : Endpoint) : Session :=
  fun party => if party = side then own else others

/-- `PeerConnection::CreateDataChannel`. -/
def createDataChannel (session : Session) (side : Side) (label : Bytes)
    (config : Option DataChannelInit) : Session :=
  let own := session side
  let others := session side.other
  match own.peer.createDataChannel label config with
  | (none, peer) => set side { own with peer } others
  | (some creation, peer) =>
    let channel := (label, creation.config.id)
    set side
      { own with peer := peer.updateSctpDataChannels, created := own.created ++ [channel] }
      { others with
        incoming := others.incoming ++
          creation.openMessage.toList.map fun payload => ⟨label, creation.config.id, payload⟩ }

def deliver (session : Session) (side : Side) (index : Nat) : Session :=
  let own := session side
  match own.incoming[index]? with
  | none => session
  | some opening =>
    set side
      { own with
        peer := own.peer.onDataFromSctpToChannel (UInt32.ofInt opening.id) .control
          opening.payload
        incoming := own.incoming.eraseIdx index
        arrived := own.arrived ++ [(opening.label, opening.id)] }
      (session side.other)

def handle (session : Session) (side : Side) : Option Session := do
  let peer ← (session side).peer.onNewDataChannelReceived
  pure (set side { session side with peer } (session side.other))

def step (session : Session) : Event → Option Session
  | .createDataChannel side label config => some (session.createDataChannel side label config)
  | .deliver side index => some (session.deliver side index)
  | .handle side => session.handle side

end Session

namespace Endpoint

def channels (endpoint : Endpoint) : List (Bytes × Int) :=
  endpoint.peer.dataChannels.map fun channel => (channel.1, channel.2.id)

/-- The channels of which the signaling thread is about to be told. -/
def announced (endpoint : Endpoint) : List (Bytes × Int) :=
  endpoint.peer.newStreams.map fun channel => (channel.1, channel.2.id)

/-- The channels of the OPEN messages that have not arrived. -/
def expected (endpoint : Endpoint) : List (Bytes × Int) :=
  endpoint.incoming.map fun opening => (opening.label, opening.id)

end Endpoint

namespace Session

/-- The channels that were created at both sides. -/
def created (session : Session) : List (Bytes × Int) :=
  (session .first).created ++ (session .second).created

/-- No two channels have one id, and each OPEN message that arrived is not taken for data but
leads to a channel, at the latest when the signaling thread hears of it. -/
structure Agreed (session : Session) : Prop where
  distinct : (session.created.map Prod.snd).Nodup
  opened : ∀ side, ∀ channel ∈ (session side).arrived,
    channel ∈ (session side).channels ∨ channel ∈ (session side).announced
  noData : ∀ side, (session side).peer.dataReceived = []

/-- A channel of the application, whose id is not set. -/
def Asked : Event → Prop
  | .createDataChannel _ _ config =>
    ∀ settings ∈ config, settings.negotiated = false ∧ settings.id = -1
  | _ => True

instance : ∀ event, Decidable (Asked event)
  | .createDataChannel _ _ config =>
    inferInstanceAs (Decidable (∀ settings ∈ config, _ ∧ _))
  | .deliver _ _ | .handle _ => .isTrue trivial

/-- Nothing of the other side is on its way, and the settings survive the OPEN message. -/
def Undisturbed (session : Session) (side : Side) (label : Bytes)
    (config : Option DataChannelInit) : Prop :=
  (session side).incoming = [] ∧ (session side).peer.newStreams = [] ∧ label.length < 2 ^ 16 ∧
    ∃ settings ∈ config, settings.protocol.length < 2 ^ 16 ∧ settings.maxRetransmits = -1

instance (session : Session) (side : Side) (label : Bytes) (config : Option DataChannelInit) :
    Decidable (session.Undisturbed side label config) :=
  inferInstanceAs (Decidable (_ ∧ _ ∧ _ ∧ ∃ settings ∈ config, _ ∧ _))

/-- A channel is only created undisturbed, unless its label is taken or its settings are
refused. -/
def Permits (session : Session) : Event → Prop
  | .createDataChannel side label config =>
    (session side).peer.hasLabel label = true ∨ (∃ settings ∈ config, init .sctp settings = false) ∨
      session.Undisturbed side label config
  | _ => True

instance (session : Session) : ∀ event, Decidable (session.Permits event)
  | .createDataChannel side label config =>
    inferInstanceAs (Decidable (_ ∨ (∃ settings ∈ config, _) ∨
      session.Undisturbed side label config))
  | .deliver _ _ | .handle _ => .isTrue trivial

end Session

end ZyWebRtc.DataChannel
