import ZyWebRtc.DataChannel.SctpIds

namespace ZyWebRtc.DataChannel

/-! When the ids of the SCTP data channels of two peers do not collide. -/

open List SctpPeer

/-! ## One side -/

namespace Endpoint

def underway (endpoint : Endpoint) : List (Bytes × Int) :=
  endpoint.announced ++ endpoint.expected

/-- The receiver of the message accepts the settings in it. -/
def Readable (opening : Opening) : Prop :=
  ∃ config, parseDataChannelOpenMessage opening.payload [] {} = some (opening.label, config) ∧
    init .sctp { config with id := opening.id, negotiated := true } = true

/-- One side knows all channels or hears of them. -/
structure Linked (all : List (Bytes × Int)) (endpoint : Endpoint) : Prop where
  known : (endpoint.channels ++ endpoint.underway).Perm all
  streams : ∀ ssrc ∈ endpoint.peer.streams,
    ∃ channel ∈ endpoint.channels ++ endpoint.announced, ssrc = UInt32.ofInt channel.2
  counter : 0 ≤ endpoint.peer.lastAllocatedSctpId ∧ endpoint.peer.lastAllocatedSctpId ≤ kMaxSctpSid
  readable : ∀ opening ∈ endpoint.incoming, Readable opening
  accepted : ∀ channel ∈ endpoint.peer.newStreams, init .sctp channel.2 = true
  noData : endpoint.peer.dataReceived = []
  opened : ∀ channel ∈ endpoint.arrived, channel ∈ endpoint.channels ++ endpoint.announced

/-- Channels have ids and labels of their own. -/
structure Distinct (all : List (Bytes × Int)) : Prop where
  ids : (all.map Prod.snd).Nodup
  labels : (all.map Prod.fst).Nodup
  range : ∀ channel ∈ all, 0 ≤ channel.2 ∧ channel.2 ≤ kMaxSctpSid

theorem ofInt_inj {first second : Int} (firstRange : 0 ≤ first ∧ first ≤ kMaxSctpSid)
    (secondRange : 0 ≤ second ∧ second ≤ kMaxSctpSid)
    (same : UInt32.ofInt first = UInt32.ofInt second) : first = second := by
  have values := congrArg UInt32.toNat same
  rw [UInt32.ofInt, UInt32.ofInt, UInt32.toNat_ofNat', UInt32.toNat_ofNat'] at values
  rw [kMaxSctpSid] at firstRange secondRange
  omega

theorem toNat_ofInt_id {id : Int} (range : 0 ≤ id ∧ id ≤ kMaxSctpSid) :
    ((UInt32.ofInt id).toNat : Int) = id := by
  rw [UInt32.ofInt, UInt32.toNat_ofNat']
  rw [kMaxSctpSid] at range
  omega

theorem Distinct.append {all : List (Bytes × Int)} (distinct : Distinct all) {label : Bytes}
    {id : Int} (newId : ∀ channel ∈ all, channel.2 ≠ id)
    (newLabel : ∀ channel ∈ all, channel.1 ≠ label) (range : 0 ≤ id ∧ id ≤ kMaxSctpSid) :
    Distinct (all ++ [(label, id)]) where
  ids := by
    rw [map_append, map_singleton, nodup_append]
    refine ⟨distinct.ids, nodup_singleton _, ?_⟩
    intro old oldIn new newIn
    rcases List.mem_map.mp oldIn with ⟨channel, member, rfl⟩
    rw [mem_singleton.mp newIn]
    exact newId channel member
  labels := by
    rw [map_append, map_singleton, nodup_append]
    refine ⟨distinct.labels, nodup_singleton _, ?_⟩
    intro old oldIn new newIn
    rcases List.mem_map.mp oldIn with ⟨channel, member, rfl⟩
    rw [mem_singleton.mp newIn]
    exact newLabel channel member
  range channel member := by
    rcases mem_append.mp member with old | new
    · exact distinct.range channel old
    · rw [mem_singleton.mp new]
      exact range

theorem Distinct.of_perm {all others : List (Bytes × Int)} (distinct : Distinct all)
    (perm : all.Perm others) : Distinct others where
  ids := (perm.map Prod.snd).nodup_iff.mp distinct.ids
  labels := (perm.map Prod.fst).nodup_iff.mp distinct.labels
  range channel member := distinct.range channel (perm.mem_iff.mpr member)

section

variable {all : List (Bytes × Int)} {endpoint : Endpoint}

theorem Linked.of_perm {others : List (Bytes × Int)} (linked : Linked all endpoint)
    (perm : all.Perm others) : Linked others endpoint :=
  { linked with known := linked.known.trans perm }

theorem Linked.counted (linked : Linked all endpoint) {counter : Int}
    (range : 0 ≤ counter ∧ counter ≤ kMaxSctpSid) :
    Linked all { endpoint with peer := { endpoint.peer with lastAllocatedSctpId := counter } } :=
  { linked with counter := range }

theorem opened_streams {peer : SctpPeer} {label : Bytes} {config : DataChannelInit}
    {ssrc : UInt32} : ssrc ∈ (peer.opened label config).streams ↔
      ssrc ∈ peer.streams ∨ ssrc = UInt32.ofInt config.id := by
  rw [SctpPeer.opened, mem_addStream]

theorem opened_eq (peer : SctpPeer) (label : Bytes) (config : DataChannelInit) :
    peer.opened label config = { peer with
        dataChannels := peer.dataChannels ++ [(label, config)]
        streams := (peer.opened label config).streams } := by
  rw [SctpPeer.opened, addStream_eq]

theorem updateSctpDataChannels_spec (peer : SctpPeer) :
    peer.updateSctpDataChannels = { peer with streams := peer.updateSctpDataChannels.streams } ∧
      ∀ ssrc ∈ peer.updateSctpDataChannels.streams, ssrc ∈ peer.streams ∨
        ∃ channel ∈ peer.dataChannels, ssrc = UInt32.ofInt channel.2.id := by
  have each (connected : SctpPeer) (channels : List (Bytes × DataChannelInit)) :
      let result := channels.foldl
        (fun peer channel => peer.addStream (UInt32.ofInt channel.2.id)) connected
      result = { connected with streams := result.streams } ∧
        ∀ ssrc ∈ result.streams, ssrc ∈ connected.streams ∨
          ∃ channel ∈ channels, ssrc = UInt32.ofInt channel.2.id := by
    induction channels generalizing connected with
    | nil => exact ⟨rfl, fun _ member => .inl member⟩
    | cons head tail induction =>
      rcases induction (connected.addStream (UInt32.ofInt head.2.id)) with ⟨same, streams⟩
      constructor
      · rw [foldl_cons, same, addStream_eq]
      · intro ssrc member
        rcases streams ssrc member with old | ⟨channel, channelIn, rfl⟩
        · rcases mem_addStream.mp old with older | rfl
          · exact .inl older
          · exact .inr ⟨head, mem_cons_self, rfl⟩
        · exact .inr ⟨channel, mem_cons_of_mem _ channelIn, rfl⟩
  exact each peer peer.dataChannels

variable (linked : Linked all endpoint)

include linked

/-- The side that creates a channel while it knows all others. -/
theorem Linked.creates (quiet : endpoint.underway = [])
    {peer : SctpPeer} {label : Bytes} {config : DataChannelInit}
    (dataChannels : peer.dataChannels = endpoint.peer.dataChannels ++ [(label, config)])
    (counter : 0 ≤ peer.lastAllocatedSctpId ∧ peer.lastAllocatedSctpId ≤ kMaxSctpSid)
    (streams : ∀ ssrc ∈ peer.streams, ssrc ∈ endpoint.peer.streams ∨
      ∃ channel ∈ peer.dataChannels, ssrc = UInt32.ofInt channel.2.id)
    (newStreams : peer.newStreams = endpoint.peer.newStreams)
    (dataReceived : peer.dataReceived = endpoint.peer.dataReceived)
    (created : List (Bytes × Int)) :
    Linked (all ++ [(label, config.id)]) { endpoint with peer, created } := by
  have nothing := append_eq_nil_iff.mp quiet
  have known := linked.known
  rw [quiet, append_nil] at known
  have channels : Endpoint.channels { endpoint with peer, created } =
      endpoint.channels ++ [(label, config.id)] := by
    rw [Endpoint.channels, dataChannels]
    exact map_append
  have announced : Endpoint.announced { endpoint with peer, created } = [] := by
    rw [Endpoint.announced, newStreams]
    exact nothing.1
  constructor
  case known =>
      rw [channels, underway, announced, nil_append]
      change (_ ++ endpoint.expected).Perm _
      rw [nothing.2, append_nil]
      exact known.append_right _
  case streams =>
      intro ssrc member
      rw [channels, announced, append_nil]
      rcases streams ssrc member with old | ⟨channel, channelIn, rfl⟩
      · rcases linked.streams ssrc old with ⟨channel, channelIn, rfl⟩
        rw [nothing.1, append_nil] at channelIn
        exact ⟨channel, mem_append_left _ channelIn, rfl⟩
      · refine ⟨(channel.1, channel.2.id), ?_, rfl⟩
        rw [dataChannels, mem_append, mem_singleton] at channelIn
        rcases channelIn with old | rfl
        · exact mem_append_left _ (List.mem_map.mpr ⟨channel, old, rfl⟩)
        · exact mem_append_right _ mem_cons_self
  case counter => exact counter
  case readable => exact linked.readable
  case accepted =>
      intro channel member
      exact linked.accepted channel (newStreams ▸ member)
  case noData => exact dataReceived.trans linked.noData
  case opened =>
      intro channel member
      have old := linked.opened channel member
      rw [nothing.1, append_nil] at old
      rw [channels]
      exact mem_append_left _ (mem_append_left _ old)

theorem Linked.sent {opening : Opening}
    (readable : Readable opening) :
    Linked (all ++ [(opening.label, opening.id)])
      { endpoint with incoming := endpoint.incoming ++ [opening] } where
  known := by
    change (endpoint.channels ++ (endpoint.announced ++
      (endpoint.incoming ++ [opening]).map fun opening => (opening.label, opening.id))).Perm _
    rw [map_append, ← append_assoc endpoint.announced, ← append_assoc]
    exact linked.known.append_right _
  streams := linked.streams
  counter := linked.counter
  readable other member := by
    rcases mem_append.mp member with old | new
    · exact linked.readable other old
    · rw [mem_singleton.mp new]
      exact readable
  accepted := linked.accepted
  noData := linked.noData
  opened := linked.opened

theorem Linked.unknown (distinct : Distinct all)
    {opening : Opening} (member : opening ∈ endpoint.incoming) :
    UInt32.ofInt opening.id ∉ endpoint.peer.streams := by
  intro streamIn
  rcases linked.streams _ streamIn with ⟨channel, channelIn, same⟩
  have inFlight : (opening.label, opening.id) ∈ endpoint.expected :=
    List.mem_map.mpr ⟨opening, member, rfl⟩
  have known := linked.known
  rw [underway, ← append_assoc] at known
  have ids := ((known.map Prod.snd).nodup_iff.mpr distinct.ids)
  rw [map_append, nodup_append] at ids
  have channelRange := distinct.range channel (known.mem_iff.mp (mem_append_left _ channelIn))
  have openingRange := distinct.range _ (known.mem_iff.mp (mem_append_right _ inFlight))
  exact ids.2.2 channel.2 (List.mem_map_of_mem channelIn) opening.id
    (List.mem_map.mpr ⟨_, inFlight, rfl⟩) (ofInt_inj openingRange channelRange same).symm

/-- An OPEN message arrives. -/
theorem Linked.delivers (distinct : Distinct all) {index : Nat}
    {opening : Opening} (found : endpoint.incoming[index]? = some opening) :
    Linked all
      { endpoint with
        peer := endpoint.peer.onDataFromSctpToChannel (UInt32.ofInt opening.id) .control
          opening.payload
        incoming := endpoint.incoming.eraseIdx index
        arrived := endpoint.arrived ++ [(opening.label, opening.id)] } := by
  rcases List.getElem?_eq_some_iff.mp found with ⟨inside, same⟩
  have member : opening ∈ endpoint.incoming := same ▸ getElem_mem inside
  have unknown := linked.unknown distinct member
  rcases linked.readable opening member with ⟨config, parsed, accepted⟩
  have inFlight : (opening.label, opening.id) ∈ endpoint.expected :=
    List.mem_map.mpr ⟨opening, member, rfl⟩
  have openingRange := distinct.range _ (linked.known.mem_iff.mp
    (mem_append_right _ (mem_append_right _ inFlight)))
  have id := toNat_ofInt_id openingRange
  have received : endpoint.peer.onDataFromSctpToChannel (UInt32.ofInt opening.id) .control
      opening.payload = { endpoint.peer with
        newStreams := endpoint.peer.newStreams ++
          [(opening.label, { config with id := opening.id, negotiated := true })]
        streams := endpoint.peer.streams ++ [UInt32.ofInt opening.id] } := by
    rw [onDataFromSctpToChannel, if_neg unknown, if_pos rfl, parsed]
    dsimp only
    rw [id, addStream, if_neg unknown]
  rw [received]
  have moved : ((opening.label, opening.id) ::
      (endpoint.incoming.eraseIdx index).map fun opening => (opening.label, opening.id)).Perm
        endpoint.expected := by
    have whole := getElem_cons_eraseIdx_perm inside
    rw [same] at whole
    exact whole.map fun opening => (opening.label, opening.id)
  have announced : (endpoint.peer.newStreams ++
      [(opening.label, { config with id := opening.id, negotiated := true })]).map
        (fun channel : Bytes × DataChannelInit => (channel.1, channel.2.id)) =
      endpoint.announced ++ [(opening.label, opening.id)] := map_append
  constructor
  case known =>
      apply List.Perm.trans _ linked.known
      apply List.Perm.append_left
      change (List.map _ (_ ++ _) ++ _).Perm _
      rw [announced, append_assoc]
      exact moved.append_left _
  case streams =>
      intro ssrc streamIn
      change ∃ channel ∈ endpoint.channels ++ List.map _ (_ ++ _), _
      rw [announced, ← append_assoc]
      rcases mem_append.mp streamIn with old | new
      · rcases linked.streams ssrc old with ⟨channel, channelIn, rfl⟩
        exact ⟨channel, mem_append_left _ channelIn, rfl⟩
      · exact ⟨_, mem_append_right _ mem_cons_self, mem_singleton.mp new⟩
  case counter => exact linked.counter
  case readable =>
      intro other otherIn
      exact linked.readable other (mem_of_mem_eraseIdx otherIn)
  case accepted =>
      intro channel channelIn
      rcases mem_append.mp channelIn with old | new
      · exact linked.accepted channel old
      · rw [mem_singleton.mp new]
        exact accepted
  case noData => exact linked.noData
  case opened =>
      intro channel channelIn
      change channel ∈ endpoint.channels ++ List.map _ (_ ++ _)
      rw [announced, ← append_assoc]
      rcases mem_append.mp channelIn with old | new
      · exact mem_append_left _ (linked.opened channel old)
      · exact mem_append_right _ new

/-- The signaling thread hears of a new stream. -/
theorem Linked.handles (distinct : Distinct all) :
    ∃ peer, endpoint.peer.onNewDataChannelReceived = some peer ∧
      Linked all { endpoint with peer } := by
  rw [onNewDataChannelReceived.eq_def]
  cases waiting : endpoint.peer.newStreams with
  | nil => exact ⟨endpoint.peer, rfl, linked⟩
  | cons head rest =>
    rcases head with ⟨label, config⟩
    have announced : endpoint.announced =
        (label, config.id) :: rest.map fun channel => (channel.1, channel.2.id) := by
      rw [Endpoint.announced, waiting]
      rfl
    have known := linked.known
    rw [underway, announced] at known
    have ids := (known.map Prod.snd).nodup_iff.mpr distinct.ids
    have labels := (known.map Prod.fst).nodup_iff.mpr distinct.labels
    rw [map_append, nodup_append] at ids labels
    have here : (label, config.id) ∈ all := by
      apply known.mem_iff.mp
      exact mem_append_right _ mem_cons_self
    have unlabelled : SctpPeer.hasLabel { endpoint.peer with newStreams := rest } label =
        false := by
      rw [Bool.eq_false_iff, ne_eq, hasLabel_iff]
      rintro ⟨channel, channelIn, same⟩
      exact labels.2.2 channel.1
        (List.mem_map.mpr ⟨_, List.mem_map.mpr ⟨channel, channelIn, rfl⟩, rfl⟩) label
        mem_cons_self same
    have available : SctpPeer.isSctpIdAvailable { endpoint.peer with newStreams := rest }
        config.id = true := by
      rw [isSctpIdAvailable_iff]
      refine ⟨distinct.range _ here, fun channel channelIn same => ?_⟩
      exact ids.2.2 channel.2.id
        (List.mem_map.mpr ⟨_, List.mem_map.mpr ⟨channel, channelIn, rfl⟩, rfl⟩) config.id
        mem_cons_self same
    have accepted := linked.accepted (label, config) (by rw [waiting]; exact mem_cons_self)
    refine ⟨_, addDataChannelFromOpenMessage_fresh unlabelled available accepted, ?_⟩
    have opening := opened_eq { endpoint.peer with newStreams := rest } label config
    have streams := fun ssrc => @opened_streams
      { endpoint.peer with newStreams := rest } label config ssrc
    generalize SctpPeer.opened { endpoint.peer with newStreams := rest } label config = peer
      at opening streams
    have together : Endpoint.channels { endpoint with peer } ++
        Endpoint.announced { endpoint with peer } = endpoint.channels ++ endpoint.announced := by
      rw [announced, Endpoint.channels, Endpoint.announced, opening]
      change List.map _ (_ ++ _) ++ _ = _
      rw [map_append, append_assoc]
      rfl
    constructor
    case known =>
        rw [underway, ← append_assoc, together, append_assoc]
        exact linked.known
    case streams =>
        intro ssrc streamIn
        rw [together]
        rcases (streams ssrc).mp streamIn with old | rfl
        · exact linked.streams ssrc old
        · exact ⟨(label, config.id), mem_append_right _ (announced ▸ mem_cons_self), rfl⟩
    case counter =>
        change _ ≤ peer.lastAllocatedSctpId ∧ peer.lastAllocatedSctpId ≤ _
        rw [opening]
        exact linked.counter
    case readable => exact linked.readable
    case accepted =>
        intro channel channelIn
        apply linked.accepted channel
        rw [waiting]
        change channel ∈ peer.newStreams at channelIn
        rw [opening] at channelIn
        exact mem_cons_of_mem _ channelIn
    case noData =>
        change peer.dataReceived = []
        rw [opening]
        exact linked.noData
    case opened =>
        intro channel channelIn
        rw [together]
        exact linked.opened channel channelIn

end

end Endpoint

/-! ## Both sides -/

theorem readable_written {label : Bytes} {config : DataChannelInit} {id : Int}
    (labelShort : label.length < 2 ^ 16) (protocolShort : config.protocol.length < 2 ^ 16)
    (unset : config.maxRetransmits = -1) (range : 0 ≤ id ∧ id ≤ kMaxSctpSid) :
    Endpoint.Readable ⟨label, id, writeDataChannelOpenMessage label config⟩ := by
  refine ⟨_, parse_write labelShort protocolShort {}, ?_⟩
  have reliability (initial : DataChannelInit) :
      (parseReliability (writtenReliability config).1 (writtenReliability config).2
        initial).maxRetransmits = -1 ∧
      -1 ≤ (parseReliability (writtenReliability config).1 (writtenReliability config).2
        initial).maxRetransmitTime := by
    rw [writtenReliability]
    by_cases timed : config.maxRetransmitTime > -1
    · cases ordered : config.ordered <;>
        simp [unset, timed, parseReliability, DCOMCT_ORDERED_PARTIAL_RTXS,
          DCOMCT_UNORDERED_PARTIAL_RTXS, DCOMCT_UNORDERED_RELIABLE,
          DCOMCT_UNORDERED_PARTIAL_TIME, DCOMCT_ORDERED_PARTIAL_TIME]
    · cases ordered : config.ordered <;>
        simp [unset, timed, parseReliability, DCOMCT_ORDERED_PARTIAL_RTXS,
          DCOMCT_UNORDERED_PARTIAL_RTXS, DCOMCT_UNORDERED_RELIABLE,
          DCOMCT_UNORDERED_PARTIAL_TIME, DCOMCT_ORDERED_PARTIAL_TIME, DCOMCT_ORDERED_RELIABLE]
  have kept := reliability { protocol := [] ++ config.protocol }
  rw [init_sctp_iff]
  exact ⟨⟨by change -1 ≤ id; omega, by rw [kept.1], kept.2⟩, .inl kept.1⟩

namespace Session

theorem set_forall {property : Endpoint → Prop} {side : Side} {own others : Endpoint}
    (ownHolds : property own) (othersHold : property others) (party : Side) :
    property (set side own others party) := by
  rw [set]
  split
  · exact ownHolds
  · exact othersHold

theorem created_set_perm (session : Session) (side : Side) (own others : Endpoint)
    {channels : List (Bytes × Int)} (ownCreated : own.created = (session side).created ++ channels)
    (othersCreated : others.created = (session side.other).created) :
    (session.created ++ channels).Perm (created (set side own others)) := by
  cases side with
  | first =>
    change (((session .first).created ++ (session .second).created) ++ channels).Perm
      (own.created ++ others.created)
    rw [ownCreated, othersCreated, append_assoc, append_assoc]
    exact perm_append_comm.append_left _
  | second =>
    change (((session .first).created ++ (session .second).created) ++ channels).Perm
      (others.created ++ own.created)
    rw [ownCreated, othersCreated, append_assoc]
    exact List.Perm.refl _

/-- Both sides know all channels or hear of them, and these are distinct. -/
structure Kept (session : Session) : Prop where
  linked : ∀ side, Endpoint.Linked session.created (session side)
  distinct : Endpoint.Distinct session.created

theorem Kept.start : Kept start where
  linked _ := {
    known := List.Perm.refl _
    streams := fun _ member => by cases member
    counter := ⟨le_rfl, Int.natCast_nonneg 65535⟩
    readable := fun _ member => by cases member
    accepted := fun _ member => by cases member
    noData := rfl
    opened := fun _ member => by cases member }
  distinct := ⟨nodup_nil, nodup_nil, fun _ member => by cases member⟩

section

variable {session : Session}

theorem Kept.changed (kept : Kept session) {side : Side} {own others : Endpoint}
    (ownLinked : Endpoint.Linked session.created own)
    (ownCreated : own.created = (session side).created)
    (othersSame : others = session side.other) : Kept (set side own others) := by
  have perm := session.created_set_perm side own others
    (ownCreated.trans (append_nil _).symm) (congrArg Endpoint.created othersSame)
  rw [append_nil] at perm
  subst othersSame
  exact ⟨set_forall (ownLinked.of_perm perm) ((kept.linked side.other).of_perm perm),
    kept.distinct.of_perm perm⟩

theorem Kept.createDataChannel (kept : Kept session) {side : Side} {label : Bytes}
    {config : Option DataChannelInit}
    (asked : ∀ settings ∈ config, settings.negotiated = false ∧ settings.id = -1)
    (permitted : session.Permits (.createDataChannel side label config)) :
    Kept (session.createDataChannel side label config) := by
  have own := kept.linked side
  have unset : (config.getD {}).id = -1 := by
    cases config with
    | none => rfl
    | some settings => exact (asked settings rfl).2
  have failed {counter : Int} (range : 0 ≤ counter ∧ counter ≤ kMaxSctpSid)
      (none : (session side).peer.createDataChannel label config =
        (none, { (session side).peer with lastAllocatedSctpId := counter })) :
      Kept (session.createDataChannel side label config) := by
    rw [Session.createDataChannel, none]
    exact kept.changed (own.counted range) rfl rfl
  by_cases labelled : (session side).peer.hasLabel label = true
  · rcases createDataChannel_labelled own.counter unset labelled with ⟨counter, range, none⟩
    exact failed range none
  rcases permitted.resolve_left labelled with ⟨settings, same, refused⟩ |
    ⟨noIncoming, noNewStreams, labelShort, settings, same, protocolShort, unlimited⟩
  · cases same
    rcases createDataChannel_unset own.counter (asked settings rfl).2 (asked settings rfl).1 with
      ⟨counter, range, none | ⟨-, accepted, -⟩⟩
    · exact failed range none
    · rw [refused] at accepted
      cases accepted
  cases same
  rcases createDataChannel_unset own.counter (asked settings rfl).2 (asked settings rfl).1 with
    ⟨counter, range, none | ⟨unlabelled, -, id, available, created⟩⟩
  · exact failed range none
  -- the side knows all channels, so that its free id and label are new
  have quiet : (session side).underway = [] := by
    rw [Endpoint.underway, Endpoint.announced, Endpoint.expected, noIncoming, noNewStreams]
    rfl
  have known := own.known
  rw [quiet, append_nil] at known
  rw [isSctpIdAvailable_iff] at available
  have newId : ∀ channel ∈ session.created, channel.2 ≠ id := by
    intro channel member
    rcases List.mem_map.mp (known.mem_iff.mpr member) with ⟨old, oldIn, rfl⟩
    exact available.2 old oldIn
  have newLabel : ∀ channel ∈ session.created, channel.1 ≠ label := by
    intro channel member taken
    rcases List.mem_map.mp (known.mem_iff.mpr member) with ⟨old, oldIn, rfl⟩
    exact labelled ((hasLabel_iff _ _).mpr ⟨old, oldIn, taken⟩)
  rw [Session.createDataChannel, created]
  rcases Endpoint.updateSctpDataChannels_spec
    (({ (session side).peer with lastAllocatedSctpId := counter }).opened label
      { settings with id }) with ⟨updated, streams⟩
  have opening := Endpoint.opened_eq { (session side).peer with lastAllocatedSctpId := counter }
    label { settings with id }
  have openedStreams := fun ssrc => @Endpoint.opened_streams
    { (session side).peer with lastAllocatedSctpId := counter } label { settings with id } ssrc
  generalize ({ (session side).peer with lastAllocatedSctpId := counter }).opened label
    { settings with id } = opened at updated streams opening openedStreams
  change Kept (set side
    { session side with
      peer := opened.updateSctpDataChannels, created := (session side).created ++ [(label, id)] }
    { session side.other with
      incoming := (session side.other).incoming ++
        [⟨label, id, writeDataChannelOpenMessage label settings⟩] })
  generalize opened.updateSctpDataChannels = peer at updated streams ⊢
  have dataChannels : peer.dataChannels =
      (session side).peer.dataChannels ++ [(label, { settings with id })] := by
    rw [updated, opening]
  have connected : ∀ ssrc ∈ peer.streams, ssrc ∈ (session side).peer.streams ∨
      ∃ channel ∈ peer.dataChannels, ssrc = UInt32.ofInt channel.2.id := by
    intro ssrc member
    rw [dataChannels]
    rcases streams ssrc member with old | ⟨channel, channelIn, rfl⟩
    · rcases (openedStreams ssrc).mp old with older | rfl
      · exact .inl older
      · exact .inr ⟨_, mem_append_right _ mem_cons_self, rfl⟩
    · rw [opening] at channelIn
      exact .inr ⟨channel, channelIn, rfl⟩
  have ownLinked := own.creates quiet dataChannels (by rw [updated, opening]; exact range) connected
    (by rw [updated, opening]) (by rw [updated, opening])
    ((session side).created ++ [(label, id)])
  have othersLinked := (kept.linked side.other).sent
    (readable_written labelShort protocolShort unlimited available.1)
  have perm := session.created_set_perm side
    { session side with peer, created := (session side).created ++ [(label, id)] }
    { session side.other with incoming := (session side.other).incoming ++
      [⟨label, id, writeDataChannelOpenMessage label settings⟩] } rfl rfl
  exact ⟨set_forall (ownLinked.of_perm perm) (othersLinked.of_perm perm),
    (kept.distinct.append newId newLabel available.1).of_perm perm⟩

theorem Kept.step (kept : Kept session) {event : Event} (asked : Asked event)
    (permitted : session.Permits event) :
    ∃ next, session.step event = some next ∧ Kept next := by
  cases event with
  | createDataChannel side label config =>
    exact ⟨_, rfl, kept.createDataChannel asked permitted⟩
  | deliver side index =>
    refine ⟨_, rfl, ?_⟩
    rw [deliver]
    split
    · exact kept
    · rename_i opening found
      exact kept.changed ((kept.linked side).delivers kept.distinct found) rfl rfl
  | handle side =>
    rcases (kept.linked side).handles kept.distinct with ⟨peer, received, linked⟩
    refine ⟨set side { session side with peer } (session side.other), ?_,
      kept.changed linked rfl rfl⟩
    rw [Session.step, handle, received]
    rfl

theorem Kept.agreed (kept : Kept session) : Agreed session where
  distinct := kept.distinct.ids
  opened side channel member := mem_append.mp ((kept.linked side).opened channel member)
  noData side := (kept.linked side).noData

end

/-- Channels that are created undisturbed have ids of their own, and their OPEN messages lead to
channels. -/
theorem agreed_throughout {events : List Event} (asked : ∀ event ∈ events, Asked event)
    (permitted : Run.Permitted step Permits start events) (count : Nat) :
    ∃ session, Run.reached step start (events.take count) = some session ∧ Agreed session := by
  have steps : ∀ session event, Kept session → (Asked event ∧ session.Permits event) →
      ∃ next, session.step event = some next ∧ Kept next := by
    rintro session event kept ⟨isAsked, permits⟩
    exact kept.step isAsked permits
  rcases Run.invariant_reached step steps Kept.start
    (Run.permitted_take step (Run.permitted_and step asked permitted) count) with
    ⟨session, run, kept⟩
  exact ⟨session, run, kept.agreed⟩

/-- Each side creates a channel when the one of the other has been opened. -/
def takingTurns : List Event :=
  [.createDataChannel .first [97] (some {}), .deliver .second 0, .handle .second,
    .createDataChannel .second [98] (some {}), .createDataChannel .second [98] (some {}),
    .deliver .first 0, .handle .first]

theorem agreed_throughout_takingTurns :
    ∃ session, Run.reached step start (takingTurns.take 7) = some session ∧ Agreed session :=
  agreed_throughout (by decide) (by decide) 7

/-- Both sides create a channel before they hear of the other's. -/
theorem not_agreed_crossing :
    ¬ ∀ events : List Event, (∀ event ∈ events, Asked event) → ∀ count,
      ∃ session, Run.reached step start (events.take count) = some session ∧ Agreed session := by
  intro always
  rcases always [.createDataChannel .first [97] (some {}),
    .createDataChannel .second [98] (some {})] (by decide) 2 with ⟨session, run, agreed⟩
  cases run
  exact absurd agreed.distinct (by decide)

end Session

end ZyWebRtc.DataChannel
