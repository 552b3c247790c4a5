import ZyWebRtc.Ice.BaseSession
import ZyWebRtc.Ice.Connectivity

namespace ZyWebRtc.Ice

/-! A session has one ICE role in every state of a run exactly if the switch of roles reaches all
of its transports and ports. -/

open List Option Stun

/-! ## Transports -/

/-- A transport keeps its role and the roles of its channels. New channels have the role of the
transport, and no connections. -/
structure Transport.Extends (before after : Transport) : Prop where
  iceRole : after.iceRole = before.iceRole
  channels : ∀ channel ∈ after.channels,
    (channel.iceRole = before.iceRole ∧ channel.connections = []) ∨
      ∃ old ∈ before.channels, channel.iceRole = old.iceRole ∧ channel.connections ⊆ old.connections

namespace Transport

variable {before middle after transport : Transport}

theorem Extends.refl (transport : Transport) : Extends transport transport :=
  ⟨rfl, fun channel isChannel => .inr ⟨channel, isChannel, rfl, List.Subset.refl _⟩⟩

theorem Extends.trans (first : Extends before middle) (second : Extends middle after) :
    Extends before after := by
  refine ⟨second.iceRole.trans first.iceRole, fun channel isChannel => ?_⟩
  rcases second.channels channel isChannel with ⟨role, none⟩ | ⟨old, isOld, role, connections⟩
  · exact .inl ⟨role.trans first.iceRole, none⟩
  · rcases first.channels old isOld with ⟨oldRole, none⟩ | ⟨older, isOlder, oldRole, more⟩
    · left
      rw [none] at connections
      exact ⟨role.trans oldRole, subset_nil.mp connections⟩
    · exact .inr ⟨older, isOlder, role.trans oldRole, fun _ member => more (connections member)⟩

theorem extends_mapChannels {change : SessionChannel → SessionChannel}
    (role : ∀ channel, (change channel).iceRole = channel.iceRole)
    (connections : ∀ channel, (change channel).connections ⊆ channel.connections) :
    Extends transport (transport.mapChannels change) := by
  refine ⟨rfl, fun channel isChannel => .inr ?_⟩
  rcases List.mem_map.mp isChannel with ⟨old, isOld, rfl⟩
  exact ⟨old, isOld, role old, connections old⟩

end Transport

namespace SessionChannel

/-- The role and the connections of a channel stay. -/
structure SameRole (before after : SessionChannel) : Prop where
  iceRole : after.iceRole = before.iceRole
  connections : after.connections = before.connections

variable (channel : SessionChannel)

theorem sameRole_connect : SameRole channel channel.connect := by
  rw [connect]
  split <;> exact ⟨rfl, rfl⟩

theorem sameRole_setIceCredentials (credentials : IceCredentials) :
    SameRole channel (channel.setIceCredentials credentials) := by
  rw [setIceCredentials]
  split <;> exact ⟨rfl, rfl⟩

theorem sameRole_setIceTiebreaker (tiebreaker : UInt64) :
    SameRole channel (channel.setIceTiebreaker tiebreaker) := by
  rw [setIceTiebreaker]
  split <;> exact ⟨rfl, rfl⟩

theorem sameRole_onSignalingReady : SameRole channel channel.onSignalingReady := by
  rw [onSignalingReady]
  split <;> exact ⟨rfl, rfl⟩

theorem setIceRole_iceRole (role : IceRole) : (channel.setIceRole role).iceRole = role := by
  rw [setIceRole]
  split
  · rfl
  · rename_i same
    exact not_not.mp same

theorem setIceRole_connections (role : IceRole) :
    (channel.setIceRole role).connections = channel.connections := by
  rw [setIceRole]
  split <;> rfl

theorem SameRole.trans {before middle after : SessionChannel} (first : SameRole before middle)
    (second : SameRole middle after) : SameRole before after :=
  ⟨second.iceRole.trans first.iceRole, second.connections.trans first.connections⟩

end SessionChannel

namespace Transport

variable (transport : Transport)

theorem extends_sameRole {change : SessionChannel → SessionChannel}
    (same : ∀ channel, SessionChannel.SameRole channel (change channel)) :
    Extends transport (transport.mapChannels change) :=
  extends_mapChannels (fun channel => (same channel).iceRole)
    fun channel => (same channel).connections ▸ List.Subset.refl _

theorem newChannel_role (component : Nat) :
    (transport.newChannel component).iceRole = transport.iceRole ∧
      (transport.newChannel component).connections = [] := by
  have fresh := ((SessionChannel.new component).setIceRole
    transport.iceRole).sameRole_setIceTiebreaker transport.tiebreaker
  have same : SessionChannel.SameRole ((SessionChannel.new component).setIceRole transport.iceRole)
      (transport.newChannel component) := by
    rw [newChannel]
    cases transport.localDescription with
    | none =>
      split
      · exact fresh.trans (SessionChannel.sameRole_connect _)
      · exact fresh
    | some credentials =>
      have described := fresh.trans (SessionChannel.sameRole_setIceCredentials _ credentials)
      split
      · exact described.trans (SessionChannel.sameRole_connect _)
      · exact described
  exact ⟨same.iceRole.trans (SessionChannel.setIceRole_iceRole _ _),
    same.connections.trans (SessionChannel.setIceRole_connections _ _)⟩

theorem extends_createChannel (component : Nat) :
    Extends transport (transport.createChannel component) := by
  rw [createChannel]
  split
  · exact .refl transport
  · refine ⟨rfl, fun channel isChannel => ?_⟩
    rcases mem_append.mp isChannel with isOld | isNew
    · exact (Extends.refl transport).channels channel isOld
    · rw [mem_singleton] at isNew
      cases isNew
      exact .inl (transport.newChannel_role component)

theorem extends_setLocalTransportDescription (credentials : IceCredentials) :
    Extends transport (transport.setLocalTransportDescription credentials) := by
  have described := extends_sameRole { transport with localDescription := some credentials }
    fun channel => channel.sameRole_setIceCredentials credentials
  exact ⟨described.iceRole, described.channels⟩

theorem extends_connectChannels (generated : IceCredentials) :
    Extends transport (transport.connectChannels generated) := by
  rw [connectChannels]
  split
  · exact .refl transport
  · have requested : Extends transport { transport with connectRequested := true } :=
      ⟨rfl, (Extends.refl transport).channels⟩
    refine Extends.trans ?_ (extends_sameRole _ SessionChannel.sameRole_connect)
    split
    · exact requested.trans (extends_setLocalTransportDescription _ generated)
    · exact requested

theorem extends_onSignalingReady : Extends transport transport.onSignalingReady :=
  extends_sameRole transport SessionChannel.sameRole_onSignalingReady

end Transport

namespace TransportProxy

open Transport

variable (proxy : TransportProxy)

theorem extends_createImpls : Extends proxy.transport proxy.createImpls.transport := by
  have created (components : List Nat) : ∀ transport : Transport,
      Extends transport (components.foldl Transport.createChannel transport) := by
    induction components with
    | nil => exact Extends.refl
    | cons component rest induction =>
      exact fun transport => (extends_createChannel transport component).trans (induction _)
  exact created proxy.channels proxy.transport

theorem extends_createChannel (component : Nat) :
    Extends proxy.transport (proxy.createChannel component).transport := by
  rw [createChannel]
  split
  · exact Transport.extends_createChannel _ component
  · exact .refl _

theorem extends_connectChannels (generated : IceCredentials) :
    Extends proxy.transport (proxy.connectChannels generated).transport := by
  rw [connectChannels]
  refine Extends.trans ?_ (Transport.extends_connectChannels _ generated)
  split
  · exact .refl _
  · split
    · exact .refl _
    · exact proxy.extends_createImpls

theorem extends_completeNegotiation :
    Extends proxy.transport proxy.completeNegotiation.transport := by
  rw [completeNegotiation]
  split
  · exact .refl _
  · exact proxy.extends_createImpls

theorem extends_setLocalTransportDescription (credentials : IceCredentials) (isAnswer : Bool) :
    Extends proxy.transport
      (proxy.setLocalTransportDescription credentials isAnswer).transport := by
  rw [setLocalTransportDescription]
  refine Extends.trans ?_ (Transport.extends_setLocalTransportDescription _ credentials)
  split
  · exact proxy.extends_completeNegotiation
  · exact .refl _

end TransportProxy

namespace BaseSession

open Transport

variable {session next : BaseSession}

def iceRole (session : BaseSession) : IceRole :=
  if session.roleSwitch then session.switchedRole else session.initialRole

/-- Everything has the role of the session but the ports that the switch has left behind, and
those have no connections. -/
structure Invariant (session : BaseSession) : Prop where
  transports : ∀ proxy ∈ session.transports, proxy.transport.iceRole = session.iceRole
  channels : ∀ proxy ∈ session.transports, ∀ channel ∈ proxy.transport.channels,
    channel.iceRole = session.iceRole
  ports : ∀ port ∈ session.ports, port.iceRole =
    if port.id ∈ session.leftBehind then session.initialRole else session.iceRole
  connected : ∀ id, session.isConnected id → id ∉ session.leftBehind ∧
    ∃ port ∈ session.ports, port.id = id
  switched : session.roleSwitch → session.transports ≠ []
  unswitched : session.roleSwitch = false → session.leftBehind = []

theorem invariant_create (initiator : Bool) (iceTiebreaker : UInt64) :
    Invariant (create initiator iceTiebreaker) where
  transports proxy isProxy := by cases isProxy
  channels proxy isProxy := by cases isProxy
  ports port isPort := by cases isPort
  connected id isConnected := by cases isConnected
  switched isSwitched := by cases isSwitched
  unswitched _ := rfl

theorem Invariant.oneRole (invariant : Invariant session) : session.OneRole := by
  refine ⟨session.iceRole, invariant.transports, fun port isPort isConnected => ?_⟩
  rw [invariant.ports port isPort, if_neg (invariant.connected port.id isConnected).1]

theorem initialRole_ne_switchedRole (session : BaseSession) :
    session.initialRole ≠ session.switchedRole := by
  rw [initialRole, switchedRole]
  split
  · nofun
  · nofun

theorem isConnected_iff {id : Nat} : session.isConnected id ↔
    ∃ proxy ∈ session.transports, ∃ channel ∈ proxy.transport.channels,
      id ∈ channel.connections := by
  simp [isConnected]

theorem isListed_iff {id : Nat} : session.isListed id ↔
    ∃ proxy ∈ session.transports, ∃ channel ∈ proxy.transport.channels, id ∈ channel.ports := by
  simp [isListed]

/-! ## Changes of transports -/

/-- Every transport extends one of before. -/
structure Extended (before after : BaseSession) : Prop where
  initiator : after.initiator = before.initiator
  roleSwitch : after.roleSwitch = before.roleSwitch
  ports : after.ports = before.ports
  leftBehind : after.leftBehind = before.leftBehind
  transports : ∀ proxy ∈ after.transports, ∃ old ∈ before.transports,
    Extends old.transport proxy.transport
  nonempty : before.transports ≠ [] → after.transports ≠ []

theorem Extended.initialRole (extended : Extended session next) :
    next.initialRole = session.initialRole := by
  rw [BaseSession.initialRole, BaseSession.initialRole, extended.initiator]

theorem Extended.iceRole (extended : Extended session next) :
    next.iceRole = session.iceRole := by
  rw [BaseSession.iceRole, BaseSession.iceRole, extended.roleSwitch, extended.initialRole,
    switchedRole, switchedRole, extended.initiator]

theorem Extended.isConnected (extended : Extended session next) {id : Nat}
    (isConnected : next.isConnected id) : session.isConnected id := by
  rcases isConnected_iff.mp isConnected with ⟨proxy, isProxy, channel, isChannel, member⟩
  rcases extended.transports proxy isProxy with ⟨old, isOld, grows⟩
  rcases grows.channels channel isChannel with ⟨-, none⟩ | ⟨before, isBefore, -, more⟩
  · rw [none] at member
    cases member
  · exact isConnected_iff.mpr ⟨old, isOld, before, isBefore, more member⟩

theorem Invariant.extended (invariant : Invariant session) (extended : Extended session next) :
    Invariant next where
  transports proxy isProxy := by
    rcases extended.transports proxy isProxy with ⟨old, isOld, grows⟩
    rw [grows.iceRole, extended.iceRole]
    exact invariant.transports old isOld
  channels proxy isProxy channel isChannel := by
    rcases extended.transports proxy isProxy with ⟨old, isOld, grows⟩
    rw [extended.iceRole]
    rcases grows.channels channel isChannel with ⟨role, -⟩ | ⟨before, isBefore, role, -⟩
    · exact role.trans (invariant.transports old isOld)
    · exact role.trans (invariant.channels old isOld before isBefore)
  ports port isPort := by
    rw [extended.leftBehind, extended.initialRole, extended.iceRole]
    exact invariant.ports port (extended.ports ▸ isPort)
  connected id isConnected := by
    rw [extended.leftBehind, extended.ports]
    exact invariant.connected id (extended.isConnected isConnected)
  switched isSwitched :=
    extended.nonempty (invariant.switched (extended.roleSwitch ▸ isSwitched))
  unswitched unswitched := by
    rw [extended.leftBehind]
    exact invariant.unswitched (extended.roleSwitch ▸ unswitched)

theorem extended_map {change : TransportProxy → TransportProxy}
    (grows : ∀ proxy, Extends proxy.transport (change proxy).transport) :
    Extended session { session with transports := session.transports.map change } := by
  refine ⟨rfl, rfl, rfl, rfl, fun proxy isProxy => ?_, fun nonempty => ?_⟩
  · rcases List.mem_map.mp isProxy with ⟨old, isOld, rfl⟩
    exact ⟨old, isOld, grows old⟩
  · exact fun none => nonempty (map_eq_nil_iff.mp none)

theorem extended_modifyProxy (contentName : Bytes) {change : TransportProxy → TransportProxy}
    (grows : ∀ proxy, Extends proxy.transport (change proxy).transport) :
    Extended session (session.modifyProxy contentName change) := by
  apply extended_map
  intro proxy
  split
  · exact grows proxy
  · exact .refl _

theorem extended_modifyChannel (contentName : Bytes) (component : Nat)
    {change : SessionChannel → SessionChannel}
    (role : ∀ channel, (change channel).iceRole = channel.iceRole)
    (connections : ∀ channel, (change channel).connections ⊆ channel.connections) :
    Extended session (session.modifyChannel contentName component change) := by
  apply extended_modifyProxy
  intro proxy
  apply extends_mapChannels
  · intro channel
    split
    · exact role channel
    · rfl
  · intro channel
    split
    · exact connections channel
    · exact List.Subset.refl _

/-! ## Events -/

section

variable (invariant : Invariant session)

include invariant

theorem Invariant.getOrCreateTransportProxy {contentName : Bytes}
    (early : session.roleSwitch = false ∨ (session.getTransportProxy contentName).isSome) :
    Invariant (session.getOrCreateTransportProxy contentName) := by
  rw [BaseSession.getOrCreateTransportProxy]
  split
  · exact invariant
  · rename_i missing
    have unswitched : session.roleSwitch = false := by
      rcases early with unswitched | found
      · exact unswitched
      · rw [missing] at found
        cases found
    have initial : session.iceRole = session.initialRole := by
      rw [iceRole, unswitched]
      rfl
    constructor
    case transports =>
      intro proxy isProxy
      rcases mem_append.mp isProxy with isOld | isNew
      · exact invariant.transports proxy isOld
      · rw [mem_singleton] at isNew
        cases isNew
        exact initial.symm
    case channels =>
      intro proxy isProxy channel isChannel
      rcases mem_append.mp isProxy with isOld | isNew
      · exact invariant.channels proxy isOld channel isChannel
      · rw [mem_singleton] at isNew
        cases isNew
        cases isChannel
    case ports => exact invariant.ports
    case connected =>
      intro id isConnected
      apply invariant.connected id
      rcases isConnected_iff.mp isConnected with ⟨proxy, isProxy, channel, isChannel, member⟩
      rcases mem_append.mp isProxy with isOld | isNew
      · exact isConnected_iff.mpr ⟨proxy, isOld, channel, isChannel, member⟩
      · rw [mem_singleton] at isNew
        cases isNew
        cases isChannel
    case switched => exact fun _ none => absurd (append_eq_nil_iff.mp none).2 (by simp)
    case unswitched => exact invariant.unswitched

theorem Invariant.createChannel {contentName : Bytes}
    {component : Nat} (reaches : session.Reaches (.createChannel contentName component)) :
    Invariant (session.createChannel contentName component) :=
  (invariant.getOrCreateTransportProxy reaches).extended
    (extended_modifyProxy contentName fun proxy => proxy.extends_createChannel component)

theorem reaches_createChannel {contentName : Bytes}
    {component : Nat} (oneRole : (session.createChannel contentName component).OneRole) :
    session.Reaches (.createChannel contentName component) := by
  by_contra late
  simp only [Reaches, not_or, Bool.not_eq_false] at late
  rcases late with ⟨switched, missing⟩
  have absent : session.getTransportProxy contentName = none := by simpa using missing
  rcases oneRole with ⟨role, same, -⟩
  have each (proxy : TransportProxy)
      (isProxy : proxy ∈ (session.getOrCreateTransportProxy contentName).transports) :
      proxy.transport.iceRole = role := by
    rw [← same _ (List.mem_map_of_mem isProxy)]
    split
    · exact ((proxy.extends_createChannel component).iceRole).symm
    · rfl
  rw [getOrCreateTransportProxy, absent] at each
  rcases exists_mem_of_ne_nil _ (invariant.switched switched) with ⟨proxy, isProxy⟩
  have old := each proxy (mem_append_left _ isProxy)
  have new : session.newTransport.iceRole = role :=
    each _ (mem_append_right _ (mem_singleton.mpr rfl))
  rw [invariant.transports proxy isProxy, iceRole, if_pos switched] at old
  exact session.initialRole_ne_switchedRole (new.trans old.symm)

theorem Invariant.onPortReady (contentName : Bytes)
    {channel : SessionChannel} (port : Port) (role : channel.iceRole = session.iceRole) :
    Invariant (session.onPortReady contentName channel port) := by
  have extended := @extended_modifyChannel session contentName channel.component
    (fun channel => { channel with ports := channel.ports ++ [port.id] })
    (fun _ => rfl) fun _ => List.Subset.refl _
  have moved := invariant.extended extended
  constructor
  case transports => exact moved.transports
  case channels => exact moved.channels
  case ports =>
    intro other isOther
    rcases mem_append.mp isOther with isOld | isNew
    · rcases mem_filter.mp isOld with ⟨isPort, different⟩
      have different : other.id ≠ port.id := by simpa using different
      have old := invariant.ports other isPort
      simp only [BaseSession.onPortReady, mem_filter, different, ne_eq, not_false_eq_true,
        decide_true, and_true]
      exact old
    · rw [mem_singleton] at isNew
      cases isNew
      simp only [BaseSession.onPortReady, mem_filter, ne_eq, not_true_eq_false,
        decide_false, Bool.false_eq_true, and_false, if_false]
      exact role
  case connected =>
    intro id isConnected
    rcases invariant.connected id (extended.isConnected isConnected) with ⟨kept, other, isPort, rfl⟩
    refine ⟨fun behind => kept (mem_filter.mp behind).1, ?_⟩
    by_cases same : other.id = port.id
    · exact ⟨_, mem_append_right _ (mem_singleton.mpr rfl), same.symm⟩
    · refine ⟨other, mem_append_left _ (mem_filter.mpr ⟨isPort, ?_⟩), rfl⟩
      simpa using same
  case switched => exact moved.switched
  case unswitched =>
    intro unswitched
    change session.leftBehind.filter _ = []
    rw [invariant.unswitched unswitched]
    rfl

theorem Invariant.onPortDestroyed {id : Nat}
    (unused : session.isConnected id = false) : Invariant (session.onPortDestroyed id) := by
  have extended := @extended_map session (fun proxy =>
    { proxy with
      transport := proxy.transport.mapChannels fun channel =>
        { channel with ports := channel.ports.erase id } })
    fun proxy => extends_mapChannels (fun _ => rfl) fun _ => List.Subset.refl _
  have moved := invariant.extended extended
  constructor
  case transports => exact moved.transports
  case channels => exact moved.channels
  case ports => exact fun port isPort => invariant.ports port (mem_filter.mp isPort).1
  case connected =>
    intro other isConnected
    have connected := extended.isConnected isConnected
    rcases invariant.connected other connected with ⟨kept, port, isPort, rfl⟩
    refine ⟨kept, port, mem_filter.mpr ⟨isPort, ?_⟩, rfl⟩
    have different : port.id ≠ id := by
      intro same
      rw [same, unused] at connected
      cases connected
    simpa using different
  case switched => exact moved.switched
  case unswitched => exact moved.unswitched

end

theorem channel?_mem {contentName : Bytes} {component : Nat} {channel : SessionChannel}
    (found : session.channel? contentName component = some channel) :
    ∃ proxy ∈ session.transports, proxy.contentName = contentName ∧
      channel ∈ proxy.transport.channels ∧ channel.component = component := by
  simp only [channel?, bind_eq_bind, bind_eq_some_iff] at found
  rcases found with ⟨proxy, isProxy, isChannel⟩
  exact ⟨proxy, List.mem_of_find?_eq_some isProxy, by simpa using List.find?_some isProxy,
    List.mem_of_find?_eq_some isChannel, by simpa using List.find?_some isChannel⟩

section Connections

variable {contentName : Bytes} {component port : Nat}

theorem isConnected_addConnection {id : Nat}
    (isConnected : (session.addConnection contentName component port).isConnected id) :
    session.isConnected id ∨ id = port := by
  rcases isConnected_iff.mp isConnected with ⟨proxy, isProxy, channel, isChannel, member⟩
  rcases List.mem_map.mp isProxy with ⟨old, isOld, rfl⟩
  split at isChannel
  · rcases List.mem_map.mp isChannel with ⟨before, isBefore, rfl⟩
    split at member
    · rcases mem_append.mp member with earlier | isNew
      · exact .inl (isConnected_iff.mpr ⟨old, isOld, before, isBefore, earlier⟩)
      · exact .inr (mem_singleton.mp isNew)
    · exact .inl (isConnected_iff.mpr ⟨old, isOld, before, isBefore, member⟩)
  · exact .inl (isConnected_iff.mpr ⟨old, isOld, channel, isChannel, member⟩)

theorem addConnection_isConnected
    (found : (session.channel? contentName component).isSome) :
    (session.addConnection contentName component port).isConnected port := by
  rcases isSome_iff_exists.mp found with ⟨channel, isChannel⟩
  rcases channel?_mem isChannel with ⟨proxy, isProxy, name, member, isComponent⟩
  refine isConnected_iff.mpr ⟨_, List.mem_map_of_mem isProxy, ?_⟩
  rw [if_pos name]
  refine ⟨_, List.mem_map_of_mem member, ?_⟩
  rw [if_pos isComponent]
  exact mem_append_right _ (mem_singleton.mpr rfl)

theorem mem_addConnection {proxy : TransportProxy}
    (isProxy : proxy ∈ (session.addConnection contentName component port).transports) :
    ∃ old ∈ session.transports, proxy.transport.iceRole = old.transport.iceRole ∧
      ∀ channel ∈ proxy.transport.channels, ∃ before ∈ old.transport.channels,
        channel.iceRole = before.iceRole := by
  rcases List.mem_map.mp isProxy with ⟨old, isOld, rfl⟩
  refine ⟨old, isOld, ?_⟩
  split
  · refine ⟨rfl, fun channel isChannel => ?_⟩
    rcases List.mem_map.mp isChannel with ⟨before, isBefore, rfl⟩
    refine ⟨before, isBefore, ?_⟩
    split <;> rfl
  · exact ⟨rfl, fun channel isChannel => ⟨channel, isChannel, rfl⟩⟩

theorem Invariant.addConnection (invariant : Invariant session)
    (live : session.ports.any (·.id = port))
    (reaches : session.Reaches (.addConnection contentName component port)) :
    Invariant (session.addConnection contentName component port) := by
  constructor
  case transports =>
    intro proxy isProxy
    rcases mem_addConnection isProxy with ⟨old, isOld, role, -⟩
    exact role.trans (invariant.transports old isOld)
  case channels =>
    intro proxy isProxy channel isChannel
    rcases mem_addConnection isProxy with ⟨old, isOld, -, channels⟩
    rcases channels channel isChannel with ⟨before, isBefore, role⟩
    exact role.trans (invariant.channels old isOld before isBefore)
  case ports => exact invariant.ports
  case connected =>
    intro id isConnected
    rcases isConnected_addConnection isConnected with earlier | rfl
    · exact invariant.connected id earlier
    · have known : ∃ known ∈ session.ports, known.id = id := by simpa using live
      exact ⟨reaches, known⟩
  case switched =>
    exact fun switched none => invariant.switched switched (map_eq_nil_iff.mp none)
  case unswitched => exact invariant.unswitched

theorem Invariant.behind (invariant : Invariant session) {role : IceRole}
    (same : ∀ proxy ∈ session.transports, proxy.transport.iceRole = role) {id : Nat}
    (behind : id ∈ session.leftBehind) : role ≠ session.initialRole := by
  have switched : session.roleSwitch = true := by
    by_contra unswitched
    rw [invariant.unswitched (Bool.eq_false_of_not_eq_true unswitched)] at behind
    cases behind
  rcases exists_mem_of_ne_nil _ (invariant.switched switched) with ⟨proxy, isProxy⟩
  rw [← same proxy isProxy, invariant.transports proxy isProxy, iceRole, if_pos switched]
  exact session.initialRole_ne_switchedRole.symm

theorem reaches_addConnection (invariant : Invariant session)
    (found : (session.channel? contentName component).isSome)
    (live : session.ports.any (·.id = port))
    (oneRole : (session.addConnection contentName component port).OneRole) :
    session.Reaches (.addConnection contentName component port) := by
  intro behind
  rcases oneRole with ⟨role, same, ports⟩
  have each : ∀ proxy ∈ session.transports, proxy.transport.iceRole = role := by
    intro proxy isProxy
    rw [← same _ (List.mem_map_of_mem isProxy)]
    split <;> rfl
  have live : ∃ known ∈ session.ports, known.id = port := by simpa using live
  rcases live with ⟨known, isPort, rfl⟩
  have portRole := ports known isPort (addConnection_isConnected found)
  rw [invariant.ports known isPort, if_pos behind] at portRole
  exact invariant.behind each behind portRole.symm

end Connections

/-! ## The switch of roles -/

theorem isConnected_onRoleConflict (id : Nat) :
    session.onRoleConflict.isConnected id = session.isConnected id := by
  rw [onRoleConflict]
  split
  · rfl
  · apply Bool.eq_iff_iff.mpr
    rw [isConnected_iff, isConnected_iff]
    constructor
    · rintro ⟨proxy, isProxy, channel, isChannel, member⟩
      rcases List.mem_map.mp isProxy with ⟨old, isOld, rfl⟩
      rcases List.mem_map.mp isChannel with ⟨before, isBefore, rfl⟩
      rw [SessionChannel.setIceRole_connections] at member
      exact ⟨old, isOld, before, isBefore, member⟩
    · rintro ⟨proxy, isProxy, channel, isChannel, member⟩
      refine ⟨_, List.mem_map_of_mem isProxy, _, List.mem_map_of_mem isChannel, ?_⟩
      rw [SessionChannel.setIceRole_connections]
      exact member

theorem mem_told_iff (invariant : Invariant session) (unswitched : session.roleSwitch = false)
    {id : Nat} :
    id ∈ session.transports.flatMap (·.transport.told session.switchedRole) ↔
      session.isListed id := by
  have told (proxy : TransportProxy) (isProxy : proxy ∈ session.transports)
      (channel : SessionChannel) (isChannel : channel ∈ proxy.transport.channels) :
      channel.told session.switchedRole = channel.ports := by
    rw [SessionChannel.told, if_pos]
    rw [invariant.channels proxy isProxy channel isChannel, iceRole, unswitched]
    exact session.initialRole_ne_switchedRole
  rw [isListed_iff, mem_flatMap]
  constructor
  · rintro ⟨proxy, isProxy, isTold⟩
    rcases mem_flatMap.mp isTold with ⟨channel, isChannel, member⟩
    rw [told proxy isProxy channel isChannel] at member
    exact ⟨proxy, isProxy, channel, isChannel, member⟩
  · rintro ⟨proxy, isProxy, channel, isChannel, member⟩
    refine ⟨proxy, isProxy, mem_flatMap.mpr ⟨channel, isChannel, ?_⟩⟩
    rw [told proxy isProxy channel isChannel]
    exact member

theorem ports_onRoleConflict (unswitched : session.roleSwitch = false) :
    session.onRoleConflict.ports = session.ports.map fun port =>
      if port.id ∈ session.transports.flatMap (·.transport.told session.switchedRole) then
        { port with iceRole := session.switchedRole }
      else port := by
  rw [onRoleConflict, unswitched]
  rfl

section

variable (invariant : Invariant session) {contentName : Bytes}
  (reports : (session.getTransportProxy contentName).isSome)

include invariant reports

theorem Invariant.onRoleConflict (reaches : session.Reaches (.roleConflict contentName)) :
    Invariant session.onRoleConflict := by
  by_cases switched : session.roleSwitch
  · have same : session.onRoleConflict = session := by rw [BaseSession.onRoleConflict, if_pos switched]
    rw [same]
    exact invariant
  have unswitched : session.roleSwitch = false := Bool.eq_false_of_not_eq_true switched
  have after : session.onRoleConflict = { session.setIceRoles session.switchedRole with
        roleSwitch := true
        leftBehind := (session.ports.map Port.id).filter fun id => !session.isListed id } := by
    rw [BaseSession.onRoleConflict, if_neg switched]
  have role : session.onRoleConflict.iceRole = session.switchedRole := by
    rw [after]
    rfl
  have behind (id : Nat) : id ∈ session.onRoleConflict.leftBehind ↔
      (∃ port ∈ session.ports, port.id = id) ∧ session.isListed id = false := by
    rw [after]
    simp
  have initial : session.iceRole = session.initialRole := by
    rw [iceRole, unswitched]
    rfl
  constructor
  case transports =>
    intro proxy isProxy
    rw [after] at isProxy
    rcases List.mem_map.mp isProxy with ⟨old, isOld, rfl⟩
    exact role.symm
  case channels =>
    intro proxy isProxy channel isChannel
    rw [after] at isProxy
    rcases List.mem_map.mp isProxy with ⟨old, isOld, rfl⟩
    rcases List.mem_map.mp isChannel with ⟨before, isBefore, rfl⟩
    rw [SessionChannel.setIceRole_iceRole, role]
  case ports =>
    intro port isPort
    rw [ports_onRoleConflict unswitched] at isPort
    rcases List.mem_map.mp isPort with ⟨old, isOld, rfl⟩
    by_cases listed : session.isListed old.id
    · rw [if_pos ((mem_told_iff invariant unswitched).mpr listed), role, if_neg]
      intro isBehind
      rw [((behind _).mp isBehind).2] at listed
      cases listed
    · rw [if_neg fun isTold => listed ((mem_told_iff invariant unswitched).mp isTold),
        if_pos ((behind _).mpr ⟨⟨old, isOld, rfl⟩, Bool.eq_false_of_not_eq_true listed⟩),
        invariant.ports old isOld, invariant.unswitched unswitched, if_neg not_mem_nil,
        initial, after]
      rfl
  case connected =>
    intro id isConnected
    rw [isConnected_onRoleConflict] at isConnected
    rcases (invariant.connected id isConnected).2 with ⟨port, isPort, rfl⟩
    constructor
    · intro isBehind
      have listed := reaches unswitched port isPort isConnected
      rw [((behind _).mp isBehind).2] at listed
      cases listed
    · rw [ports_onRoleConflict unswitched]
      refine ⟨_, List.mem_map_of_mem isPort, ?_⟩
      split <;> rfl
  case switched =>
    intro _ none
    rw [after] at none
    rcases isSome_iff_exists.mp reports with ⟨proxy, isProxy⟩
    have isMember := List.mem_of_find?_eq_some isProxy
    rw [map_eq_nil_iff.mp none] at isMember
    cases isMember
  case unswitched =>
    intro still
    rw [after] at still
    cases still

theorem reaches_roleConflict (oneRole : session.onRoleConflict.OneRole) :
    session.Reaches (.roleConflict contentName) := by
  intro unswitched port isPort isConnected
  by_contra unlisted
  rcases oneRole with ⟨role, same, ports⟩
  have isAfter : port ∈ session.onRoleConflict.ports := by
    rw [ports_onRoleConflict unswitched]
    refine List.mem_map.mpr ⟨port, isPort, ?_⟩
    rw [if_neg fun isTold => unlisted ((mem_told_iff invariant unswitched).mp isTold)]
  have portRole := ports port isAfter ((isConnected_onRoleConflict port.id).trans isConnected)
  rw [invariant.ports port isPort, invariant.unswitched unswitched,
    if_neg not_mem_nil, iceRole, unswitched] at portRole
  rcases isSome_iff_exists.mp reports with ⟨proxy, isProxy⟩
  have switchedProxy : { proxy with
      transport := proxy.transport.setIceRole session.switchedRole } ∈
        session.onRoleConflict.transports := by
    rw [onRoleConflict, unswitched]
    exact List.mem_map_of_mem (List.mem_of_find?_eq_some isProxy)
  exact session.initialRole_ne_switchedRole (portRole.trans (same _ switchedProxy).symm)

end

/-! ## Runs -/

/-- After an event the session has one role only if the role reaches everything, and then
everything keeps having it. -/
theorem step_reaches (invariant : Invariant session) {event : SessionEvent}
    (stepped : session.step event = some next) :
    (next.OneRole → session.Reaches event) ∧ (session.Reaches event → Invariant next) := by
  cases event with
  | createChannel contentName component =>
    cases stepped
    exact ⟨reaches_createChannel invariant, invariant.createChannel⟩
  | connectChannels contentName generated =>
    cases stepped
    exact ⟨fun _ => trivial, fun _ => invariant.extended
      (extended_modifyProxy contentName fun proxy => proxy.extends_connectChannels generated)⟩
  | completeNegotiation contentName =>
    cases stepped
    exact ⟨fun _ => trivial, fun _ => invariant.extended
      (extended_modifyProxy contentName TransportProxy.extends_completeNegotiation)⟩
  | setLocalTransportDescription contentName credentials isAnswer =>
    cases stepped
    exact ⟨fun _ => trivial, fun _ => invariant.extended
      (extended_modifyProxy contentName fun proxy =>
        proxy.extends_setLocalTransportDescription credentials isAnswer)⟩
  | signalingReady contentName =>
    cases stepped
    exact ⟨fun _ => trivial, fun _ => invariant.extended
      (extended_modifyProxy contentName fun proxy => proxy.transport.extends_onSignalingReady)⟩
  | portReady contentName component port =>
    simp only [step, bind_eq_bind, bind_eq_some_iff] at stepped
    rcases stepped with ⟨channel, found, isNext⟩
    cases isNext
    rcases channel?_mem found with ⟨proxy, isProxy, -, isChannel, -⟩
    exact ⟨fun _ => trivial, fun _ => invariant.onPortReady contentName port
      (invariant.channels proxy isProxy channel isChannel)⟩
  | addConnection contentName component port =>
    rw [step] at stepped
    split at stepped
    · rename_i possible
      cases stepped
      exact ⟨reaches_addConnection invariant possible.1 possible.2,
        invariant.addConnection possible.2⟩
    · cases stepped
  | connectionDestroyed contentName component port =>
    cases stepped
    exact ⟨fun _ => trivial, fun _ => invariant.extended
      (extended_modifyChannel contentName component (fun _ => rfl)
        fun _ => erase_subset)⟩
  | portDestroyed port =>
    rw [step] at stepped
    split at stepped
    · cases stepped
    · rename_i unused
      cases stepped
      exact ⟨fun _ => trivial, fun _ =>
        invariant.onPortDestroyed (Bool.eq_false_of_not_eq_true unused)⟩
  | roleConflict contentName =>
    rw [step] at stepped
    split at stepped
    · rename_i reports
      cases stepped
      exact ⟨reaches_roleConflict invariant reports, invariant.onRoleConflict reports⟩
    · cases stepped

/-- In the states of a run there is one role exactly if the role reaches everything at every
event of the run. -/
theorem oneRole_iff_reaches {initiator : Bool} {iceTiebreaker : UInt64}
    {events : List SessionEvent} {last : BaseSession}
    (run : Run.reached step (create initiator iceTiebreaker) events = some last) :
    (∀ count session,
        Run.reached step (create initiator iceTiebreaker) (events.take count) = some session →
        session.OneRole) ↔
      Run.Permitted step Reaches (create initiator iceTiebreaker) events :=
  Run.kept_iff_permitted_of_reached step (fun _ => Invariant.oneRole)
    (fun _ _ _ invariant stepped => step_reaches invariant stepped)
    (invariant_create initiator iceTiebreaker) run

instance (session : BaseSession) : DecidablePred session.Reaches
  | .createChannel _ _ => inferInstanceAs (Decidable (_ ∨ _))
  | .addConnection _ _ _ => inferInstanceAs (Decidable (¬ _))
  | .roleConflict _ => inferInstanceAs (Decidable (_ → _))
  | .connectChannels _ _ | .completeNegotiation _ | .setLocalTransportDescription _ _ _
  | .signalingReady _ | .portReady _ _ _ | .connectionDestroyed _ _ _ | .portDestroyed _ =>
    .isTrue trivial

def connectedEvents : List SessionEvent :=
  [.createChannel (ascii "audio") 1,
    .setLocalTransportDescription (ascii "audio") ⟨ascii "a", ascii "b"⟩ true,
    .connectChannels (ascii "audio") ⟨[], []⟩, .signalingReady (ascii "audio"),
    .portReady (ascii "audio") 1 ChannelSystem.samplePort, .addConnection (ascii "audio") 1 0]

def switchedEvents : List SessionEvent := connectedEvents ++ [.roleConflict (ascii "audio")]

def reachedSession (events : List SessionEvent) : BaseSession :=
  (Run.reached step (create true 5) events).getD (create true 5)

theorem oneRole_switchedEvents :
    Run.reached step (create true 5) switchedEvents = some (reachedSession switchedEvents) ∧
      ∀ count session, Run.reached step (create true 5) (switchedEvents.take count) = some session →
        session.OneRole :=
  ⟨by decide +kernel, (@oneRole_iff_reaches true 5 switchedEvents (reachedSession switchedEvents)
      (by decide +kernel)).mpr (by decide +kernel)⟩

/-- A transport that is created after the conflict. -/
def lateEvents : List SessionEvent :=
  switchedEvents ++ [.createChannel (ascii "video") 1]

/-- New credentials and a new allocator session before the conflict. -/
def restartedEvents : List SessionEvent :=
  connectedEvents ++ [.setLocalTransportDescription (ascii "audio") ⟨ascii "c", ascii "d"⟩ true,
      .signalingReady (ascii "audio"), .roleConflict (ascii "audio")]

/-- The late transport is controlling and the other one controlled; and the port of the earlier
allocator session stays controlling. -/
theorem not_oneRole_lateOrRestarted :
    (Run.reached step (create true 5) lateEvents = some (reachedSession lateEvents) ∧
        ¬ (reachedSession lateEvents).OneRole) ∧
      Run.reached step (create true 5) restartedEvents = some (reachedSession restartedEvents) ∧
        ¬ (reachedSession restartedEvents).OneRole := by
  refine ⟨⟨by decide +kernel, ?_⟩, by decide +kernel, ?_⟩
  · rintro ⟨role, same, -⟩
    have roles : (reachedSession lateEvents).transports.map (·.transport.iceRole) =
        [.controlled, .controlling] := by decide +kernel
    have every : ∀ given ∈ (reachedSession lateEvents).transports.map (·.transport.iceRole),
        given = role := by
      intro given isGiven
      rcases List.mem_map.mp isGiven with ⟨proxy, isProxy, rfl⟩
      exact same proxy isProxy
    rw [roles] at every
    have first := every .controlled (by decide)
    have second := every .controlling (by decide)
    rw [← second] at first
    cases first
  · rintro ⟨role, same, ports⟩
    have transport : ∃ proxy ∈ (reachedSession restartedEvents).transports,
        proxy.transport.iceRole = .controlled := by decide +kernel
    have port : ∃ port ∈ (reachedSession restartedEvents).ports,
        (reachedSession restartedEvents).isConnected port.id = true ∧
          port.iceRole = .controlling := by decide +kernel
    rcases transport with ⟨proxy, isProxy, controlled⟩
    rcases port with ⟨port, isPort, isConnected, controlling⟩
    rw [same proxy isProxy] at controlled
    rw [ports port isPort isConnected, controlled] at controlling
    cases controlling

end BaseSession

end ZyWebRtc.Ice
