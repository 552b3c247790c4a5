import ZyWebRtc.Turn.Steps

namespace ZyWebRtc.Turn

/-! Whether data is relayed only while there is a permission for the peer's address.

The messages with indications look for a permission. The messages on channels look for a
channel only, which lives longer than the permission that was installed with it. -/

open List Settings Stun

/-! ## Permissions of one allocation -/

namespace Allocation

/-- The permissions are not from the future, and none is overdue. -/
def Timely (now : Nat) (allocation : Allocation) : Prop :=
  ∀ perm ∈ allocation.perms, perm.refreshed ≤ now ∧ now ≤ perm.due

/-- Every permission of the one is a permission of the other, refreshed or as it was. -/
def Carries (before after : Allocation) : Prop :=
  ∀ perm ∈ before.perms, ∃ kept ∈ after.perms,
    kept.peer = perm.peer ∧ perm.refreshed ≤ kept.refreshed

theorem carries_of_perms_eq {before after : Allocation} (same : after.perms = before.perms) :
    Carries before after := by
  intro perm member
  exact ⟨perm, by rw [same]; exact member, rfl, le_rfl⟩

variable {now : Nat} {allocation : Allocation}

theorem addPermission_timely (timely : Timely now allocation) (addr : IPAddress) :
    Timely now (allocation.addPermission now addr) := by
  intro perm member
  simp only [addPermission] at member
  split at member
  · rcases List.mem_map.mp member with ⟨original, originalMember, rfl⟩
    split
    · exact ⟨le_rfl, Nat.le_add_right _ _⟩
    · exact timely original originalMember
  · rcases mem_append.mp member with member | member
    · exact timely perm member
    · rw [mem_singleton.mp member]
      exact ⟨le_rfl, Nat.le_add_right _ _⟩

theorem addPermission_carries (timely : Timely now allocation) (addr : IPAddress) :
    Carries allocation (allocation.addPermission now addr) := by
  intro perm member
  simp only [addPermission]
  split
  · refine ⟨_, List.mem_map.mpr ⟨perm, member, rfl⟩, ?_⟩
    split
    · rename_i isPeer
      exact ⟨isPeer.symm, (timely perm member).1⟩
    · exact ⟨rfl, le_rfl⟩
  · exact ⟨perm, mem_append_left _ member, rfl, le_rfl⟩

theorem handleTurnMessage_perms (settings : Settings)
    (timely : Timely now allocation) (msg : StunMessage) :
    Timely now (allocation.handleTurnMessage settings now msg).1 ∧
      Carries allocation (allocation.handleTurnMessage settings now msg).1 := by
  have unchanged : Timely now allocation ∧ Carries allocation allocation :=
    ⟨timely, carries_of_perms_eq rfl⟩
  unfold handleTurnMessage
  split
  · exact ⟨timely, carries_of_perms_eq rfl⟩
  split
  · exact ⟨timely, carries_of_perms_eq rfl⟩
  split
  · exact unchanged
  split
  · unfold handleCreatePermissionRequest
    split
    · exact unchanged
    · exact ⟨addPermission_timely timely _, addPermission_carries timely _⟩
  split
  · unfold handleChannelBindRequest
    split
    · rename_i number peer _ _
      simp only
      split
      · exact unchanged
      · have bound : Timely now (allocation.bindChannel now (number >>> 16).toNat peer) := timely
        exact ⟨addPermission_timely bound _, addPermission_carries bound _⟩
    · exact unchanged
  · exact unchanged

theorem handleTurnMessage_external {settings : Settings}
    {msg : StunMessage} {id : Nat} {peer : SocketAddress} {data : Bytes}
    (sent : .external id peer data ∈ (allocation.handleTurnMessage settings now msg).2) :
    id = allocation.id ∧ allocation.hasPermission peer.ip := by
  unfold handleTurnMessage at sent
  split at sent
  · simp [handleAllocateRequest, sendResponse, sendStun] at sent
  split at sent
  · simp [handleRefreshRequest, sendResponse, sendStun] at sent
  split at sent
  · unfold handleSendIndication at sent
    split at sent
    · split at sent
      · rename_i permitted
        cases mem_singleton.mp sent
        exact ⟨rfl, permitted⟩
      · cases sent
    · cases sent
  split at sent
  · unfold handleCreatePermissionRequest at sent
    split at sent <;> simp [sendBadRequestResponse, sendResponse, sendErrorResponse,
      sendStun] at sent
  split at sent
  · unfold handleChannelBindRequest at sent
    split at sent
    · simp only at sent
      split at sent <;> simp [sendBadRequestResponse, sendResponse, sendErrorResponse,
        sendStun] at sent
    · simp [sendBadRequestResponse, sendErrorResponse, sendStun] at sent
  · cases sent

theorem exists_perm_of_hasPermission {addr : IPAddress}
    (permitted : allocation.hasPermission addr) :
    ∃ perm ∈ allocation.perms, perm.peer = addr := by
  simpa [hasPermission] using permitted

end Allocation

/-! ## The server with its history -/

/-- A permission that an allocation had for an address from the time of its last refresh. -/
structure Grant where
  allocation : Nat
  peer : IPAddress
  time : Nat
  deriving DecidableEq, Repr

/-- The server, and all permissions that were ever installed or refreshed. -/
structure Monitored where
  server : TurnServer
  granted : List Grant
  deriving DecidableEq, Repr

namespace Monitored

def grants (server : TurnServer) : List Grant :=
  server.allocations.flatMap fun allocation =>
    allocation.perms.map fun perm => ⟨allocation.id, perm.peer, perm.refreshed⟩

theorem mem_grants {server : TurnServer} {grant : Grant} :
    grant ∈ grants server ↔ ∃ allocation ∈ server.allocations, ∃ perm ∈ allocation.perms,
      grant = ⟨allocation.id, perm.peer, perm.refreshed⟩ := by
  simp [grants, eq_comm]

variable (settings : Settings)

def initial (serverSockets : List InternalSocket) : Monitored :=
  ⟨TurnServer.initial serverSockets, []⟩

def next (monitored : Monitored) (event : Event) : Option Monitored :=
  (monitored.server.next settings event).map fun after => ⟨after, monitored.granted ++ grants after⟩

def relays (event : Event) (outputs : List Output) : List (Nat × IPAddress) :=
  match event with
  | .externalPacket id _ addr _ => outputs.map fun _ => (id, addr.ip)
  | _ => outputs.filterMap fun
    | .external allocation peer _ => some (allocation, peer.ip)
    | _ => none

/-- The allocation has a permission for the address, not older than the time-out. -/
def Permitted (monitored : Monitored) (id : Nat) (addr : IPAddress) : Prop :=
  ∃ allocation ∈ monitored.server.allocations, allocation.id = id ∧
    ∃ perm ∈ allocation.perms, perm.peer = addr ∧
      monitored.server.now ≤ perm.refreshed + kPermissionTimeout

/-- Whatever the step relays is relayed under a permission. -/
def RelaysPermitted (monitored : Monitored) (event : Event) : Prop :=
  ∀ result, monitored.server.step settings event = some result →
    ∀ relay ∈ relays event result.2, monitored.Permitted relay.1 relay.2

/-- Less than the time-out has passed since some installation or refresh of a permission. -/
def Recent (monitored : Monitored) (id : Nat) (addr : IPAddress) : Prop :=
  ∃ grant ∈ monitored.granted, grant.allocation = id ∧ grant.peer = addr ∧
    monitored.server.now < grant.time + kPermissionTimeout

/-- What comes for a channel comes soon after a permission for its peer was installed or
refreshed. -/
def ChannelsRecent (monitored : Monitored) : Event → Prop
  | .internalPacket packet =>
    ∀ allocation ∈ monitored.server.allocations, packet.found = some allocation.id →
      ∀ number, packet.data.uint16At 0 = some number →
        ∀ channel ∈ allocation.channels, channel.id = number.toNat →
          monitored.Recent allocation.id channel.peer.ip
  | .externalPacket id _ addr _ =>
    ∀ allocation ∈ monitored.server.allocations, allocation.id = id →
      ∀ channel ∈ allocation.channels, channel.peer.equal addr → monitored.Recent id addr.ip
  | _ => True

instance (monitored : Monitored) (id : Nat) (addr : IPAddress) :
    Decidable (monitored.Recent id addr) :=
  inferInstanceAs (Decidable (∃ grant ∈ monitored.granted, _))

instance (monitored : Monitored) : ∀ event, Decidable (monitored.ChannelsRecent event)
  | .internalPacket packet => inferInstanceAs (Decidable
      (∀ allocation ∈ monitored.server.allocations, packet.found = some allocation.id →
        ∀ number, packet.data.uint16At 0 = some number → _))
  | .externalPacket id _ _ _ => inferInstanceAs (Decidable
      (∀ allocation ∈ monitored.server.allocations, allocation.id = id → _))
  | .tick _ | .accept _ _ _ | .close _ | .allocationTimeout _ | .permissionTimeout _ _
  | .channelTimeout _ _ => .isTrue trivial

structure Invariant (monitored : Monitored) : Prop where
  distinct : (monitored.server.allocations.map Allocation.id).Nodup
  numbered : ∀ allocation ∈ monitored.server.allocations,
    allocation.id < monitored.server.nextAllocation
  grantNumbered : ∀ grant ∈ monitored.granted, grant.allocation < monitored.server.nextAllocation
  timely : ∀ allocation ∈ monitored.server.allocations, allocation.Timely monitored.server.now
  remembered : ∀ grant ∈ monitored.granted, ∀ allocation ∈ monitored.server.allocations,
    allocation.id = grant.allocation → grant.time + kPermissionTimeout ≤ monitored.server.now ∨
        ∃ perm ∈ allocation.perms, perm.peer = grant.peer ∧ grant.time ≤ perm.refreshed

theorem invariant_initial (serverSockets : List InternalSocket) :
    Invariant (initial serverSockets) where
  distinct := nodup_nil
  numbered := fun _ member => absurd member not_mem_nil
  grantNumbered := fun _ member => absurd member not_mem_nil
  timely := fun _ member => absurd member not_mem_nil
  remembered := fun _ member => absurd member not_mem_nil

variable {settings} {monitored : Monitored}

section

variable (invariant : Invariant monitored) {allocation : Allocation}
  (live : allocation ∈ monitored.server.allocations) {addr : IPAddress}

include invariant live

theorem Invariant.permitted_of_recent (recent : monitored.Recent allocation.id addr) :
    monitored.Permitted allocation.id addr := by
  rcases recent with ⟨grant, member, isAllocation, isPeer, inTime⟩
  rcases invariant.remembered grant member allocation live isAllocation.symm with
    overdue | ⟨perm, permMember, samePeer, _⟩
  · omega
  · exact ⟨allocation, live, rfl, perm, permMember, samePeer.trans isPeer,
      (invariant.timely allocation live perm permMember).2⟩

theorem Invariant.permitted_of_hasPermission (permitted : allocation.hasPermission addr) :
    monitored.Permitted allocation.id addr := by
  rcases Allocation.exists_perm_of_hasPermission permitted with ⟨perm, member, isPeer⟩
  exact ⟨allocation, live, rfl, perm, member, isPeer,
    (invariant.timely allocation live perm member).2⟩

end

theorem PacketEffect.external {server after : TurnServer} {conn : Connection}
    {packet : InternalPacket} {outputs : List Output}
    (effect : TurnServer.PacketEffect settings server conn packet after outputs) {id : Nat}
    {peer : SocketAddress} {data : Bytes} (sent : .external id peer data ∈ outputs) :
    ∃ allocation ∈ server.allocations, allocation.id = id ∧
      (allocation.hasPermission peer.ip ∨ packet.found = some allocation.id ∧
        ∃ number, packet.data.uint16At 0 = some number ∧
          ∃ channel ∈ allocation.channels, channel.id = number.toNat ∧ channel.peer = peer) := by
  cases effect with
  | ignored => cases sent
  | channelData allocation msgType found number =>
    unfold Allocation.handleChannelData at sent
    split at sent
    · cases sent
    · rename_i channel isChannel
      cases mem_singleton.mp sent
      exact ⟨allocation, TurnServer.findAllocation_mem found, rfl,
        .inr ⟨TurnServer.findAllocation_id found, msgType, number, channel,
          List.mem_of_find?_eq_some isChannel, by simpa using List.find?_some isChannel, rfl⟩⟩
  | response => cases mem_singleton.mp sent
  | mismatch => cases mem_singleton.mp sent
  | indication msg allocation read notRequest found =>
    split at sent
    · unfold Allocation.handleSendIndication at sent
      split at sent
      · split at sent
        · rename_i permitted
          cases mem_singleton.mp sent
          exact ⟨allocation, TurnServer.findAllocation_mem found, rfl, .inl permitted⟩
        · cases sent
      · cases sent
    · cases sent
  | refused => cases mem_singleton.mp sent
  | changed msg allocation nonce found =>
    rcases Allocation.handleTurnMessage_external sent with ⟨isAllocation, permitted⟩
    exact ⟨allocation, TurnServer.findAllocation_mem found, isAllocation.symm, .inl permitted⟩
  | created msg nonce externalAddress =>
    cases (Allocation.handleTurnMessage_external sent).2

/-- The steps that keep channels within the time of their permissions relay under
permissions. -/
theorem Invariant.relaysPermitted (invariant : Invariant monitored) {event : Event}
    (recent : monitored.ChannelsRecent event) : RelaysPermitted settings monitored event := by
  rintro ⟨after, outputs⟩ stepped ⟨id, addr⟩ relayed
  have effect : TurnServer.StepEffect settings monitored.server event after outputs :=
    TurnServer.step_effect stepped
  cases effect with
  | tick | accept | close | allocationTimeout | permissionTimeout | channelTimeout =>
    cases relayed
  | internalPacket packet socket after outputs present effect =>
    simp only [relays, mem_filterMap] at relayed
    rcases relayed with ⟨output, sent, isRelay⟩
    split at isRelay
    · rename_i peer data
      cases isRelay
      rcases PacketEffect.external effect sent with ⟨allocation, live, rfl, permitted⟩
      rcases permitted with permitted | ⟨found, number, isNumber, channel, member, isId, isPeer⟩
      · exact invariant.permitted_of_hasPermission live permitted
      · rw [← isPeer]
        exact invariant.permitted_of_recent live
          (recent allocation live found number isNumber channel member isId)
    · cases isRelay
  | externalPacket origin data address transactionId allocation live isId =>
    rcases List.mem_map.mp relayed with ⟨output, sent, same⟩
    cases same
    subst isId
    unfold Allocation.onExternalPacket at sent
    split at sent
    · rename_i channel isChannel
      have onPeer : channel.peer.equal address := by simpa using List.find?_some isChannel
      exact invariant.permitted_of_recent live
        (recent allocation live rfl channel (List.mem_of_find?_eq_some isChannel) onPeer)
    · split at sent
      · rename_i permitted
        exact invariant.permitted_of_hasPermission live permitted
      · cases sent

/-! ## Steps keep the invariant -/

/-- Where an allocation comes from: it was there before, and its permissions are carried on
until they are due, or it is new. -/
def Origin (before after : TurnServer) (allocation : Allocation) : Prop :=
  (∃ original ∈ before.allocations, original.id = allocation.id ∧
    ∀ perm ∈ original.perms, perm.due ≤ after.now ∨
      ∃ kept ∈ allocation.perms, kept.peer = perm.peer ∧ perm.refreshed ≤ kept.refreshed) ∨
  (before.nextAllocation ≤ allocation.id ∧ allocation.id < after.nextAllocation)

theorem origin_of_mem {before after : TurnServer} {allocation : Allocation}
    (live : allocation ∈ before.allocations) : Origin before after allocation :=
  .inl ⟨allocation, live, rfl, fun perm member => .inr ⟨perm, member, rfl, le_rfl⟩⟩

/-- What a step does to the permissions of the allocations. -/
def Progress (before after : TurnServer) : Prop :=
  before.nextAllocation ≤ after.nextAllocation ∧
    (∀ allocation ∈ after.allocations, allocation.Timely after.now) ∧
    ∀ allocation ∈ after.allocations, Origin before after allocation

theorem Invariant.next {after : TurnServer} (invariant : Invariant monitored)
    (distinct : (after.allocations.map Allocation.id).Nodup)
    (clock : monitored.server.now ≤ after.now) (progress : Progress monitored.server after) :
    Invariant ⟨after, monitored.granted ++ grants after⟩ := by
  rcases progress with ⟨more, timely, origins⟩
  have numbered : ∀ allocation ∈ after.allocations, allocation.id < after.nextAllocation := by
    intro allocation live
    rcases origins allocation live with ⟨original, originalLive, same, _⟩ | ⟨_, numbered⟩
    · rw [← same]
      exact (invariant.numbered original originalLive).trans_le more
    · exact numbered
  refine ⟨distinct, numbered, ?_, timely, ?_⟩
  · intro grant member
    rcases mem_append.mp member with member | member
    · exact (invariant.grantNumbered grant member).trans_le more
    · rcases mem_grants.mp member with ⟨allocation, live, perm, _, rfl⟩
      exact numbered allocation live
  · intro grant member allocation live same
    rcases mem_append.mp member with member | member
    · rcases origins allocation live with ⟨original, originalLive, isOriginal, kept⟩ | ⟨isNew, _⟩
      · rcases invariant.remembered grant member original originalLive (isOriginal.trans same) with
          overdue | ⟨perm, permMember, isPeer, later⟩
        · exact .inl (overdue.trans clock)
        · rcases kept perm permMember with overdue | ⟨carried, carriedMember, samePeer, refreshed⟩
          · exact .inl ((Nat.add_le_add_right later kPermissionTimeout).trans overdue)
          · exact .inr ⟨carried, carriedMember, samePeer.trans isPeer, later.trans refreshed⟩
      · have old := invariant.grantNumbered grant member
        omega
    · rcases mem_grants.mp member with ⟨other, otherLive, perm, permMember, rfl⟩
      have isOther : allocation = other := inj_on_of_nodup_map distinct live otherLive same
      rw [isOther]
      exact .inr ⟨perm, permMember, rfl, le_rfl⟩

theorem Invariant.progress_self (invariant : Invariant monitored) :
    Progress monitored.server monitored.server :=
  ⟨le_rfl, invariant.timely, fun _ live => origin_of_mem live⟩

section

variable (invariant : Invariant monitored) {original changed : Allocation}
  (live : original ∈ monitored.server.allocations) (same : changed.id = original.id)
  (timely : changed.Timely monitored.server.now)

include invariant live same timely

theorem Invariant.progress_update (kept : ∀ perm ∈ original.perms, perm.due ≤ monitored.server.now ∨
      ∃ kept ∈ changed.perms, kept.peer = perm.peer ∧ perm.refreshed ≤ kept.refreshed) :
    Progress monitored.server (monitored.server.update changed) := by
  refine ⟨le_rfl, ?_, ?_⟩
  · intro allocation member
    rcases TurnServer.mem_update member with rfl | member
    · exact timely
    · exact invariant.timely allocation member
  · intro allocation member
    rcases TurnServer.mem_update member with rfl | member
    · exact .inl ⟨original, live, same.symm, kept⟩
    · exact origin_of_mem member

theorem Invariant.update (kept : original.Carries changed) :
    Invariant ⟨monitored.server.update changed,
      monitored.granted ++ grants (monitored.server.update changed)⟩ := by
  apply invariant.next
  · rw [TurnServer.map_id_update]
    exact invariant.distinct
  · exact le_rfl
  · exact invariant.progress_update live same timely fun perm member => .inr (kept perm member)

end

theorem Invariant.packet (invariant : Invariant monitored) {after : TurnServer}
    {conn : Connection} {packet : InternalPacket} {outputs : List Output}
    (effect : TurnServer.PacketEffect settings monitored.server conn packet after outputs) :
    Invariant ⟨after, monitored.granted ++ grants after⟩ := by
  have unchanged := invariant.next invariant.distinct le_rfl invariant.progress_self
  cases effect with
  | ignored | channelData | response | mismatch => exact unchanged
  | indication msg allocation read notRequest found =>
    have live := TurnServer.findAllocation_mem found
    exact invariant.update live rfl (invariant.timely allocation live)
      (Allocation.carries_of_perms_eq rfl)
  | refused msg message allocation nonce found =>
    have live := TurnServer.findAllocation_mem found
    exact invariant.update live rfl (invariant.timely allocation live)
      (Allocation.carries_of_perms_eq rfl)
  | changed msg allocation nonce found =>
    have live := TurnServer.findAllocation_mem found
    have timely : Allocation.Timely monitored.server.now
        { allocation with lastNonce := nonce } := invariant.timely allocation live
    have perms := Allocation.handleTurnMessage_perms settings timely msg
    exact invariant.update live (Allocation.handleTurnMessage_frame ..).1 perms.1 perms.2
  | created msg nonce externalAddress accepted =>
    have timely : Allocation.Timely monitored.server.now (Allocation.create
        monitored.server.nextAllocation conn (TurnServer.getKey settings msg)
          externalAddress) := fun _ member => absurd member not_mem_nil
    have perms := Allocation.handleTurnMessage_perms settings timely msg
    have isNew := (Allocation.handleTurnMessage_frame settings monitored.server.now
      (Allocation.create monitored.server.nextAllocation conn
        (TurnServer.getKey settings msg) externalAddress) msg).1
    apply invariant.next
    · simp only [map_append, map_cons, map_nil, isNew]
      refine nodup_append'.mpr ⟨invariant.distinct, nodup_singleton _, ?_⟩
      intro id member isLast
      rcases List.mem_map.mp member with ⟨allocation, live, rfl⟩
      have old := invariant.numbered allocation live
      rw [mem_singleton.mp isLast] at old
      exact absurd old (lt_irrefl _)
    · exact le_rfl
    · refine ⟨Nat.le_succ _, ?_, ?_⟩
      · intro allocation member
        rcases mem_append.mp member with member | member
        · exact invariant.timely allocation member
        · rw [mem_singleton.mp member]
          exact perms.1
      · intro allocation member
        rcases mem_append.mp member with member | member
        · exact origin_of_mem member
        · rw [mem_singleton.mp member]
          exact .inr ⟨isNew.ge, isNew.trans_lt (Nat.lt_succ_self _)⟩

theorem Invariant.step (invariant : Invariant monitored) {event : Event} {after : Monitored}
    (stepped : monitored.next settings event = some after) : Invariant after := by
  simp only [Monitored.next, TurnServer.next, Option.map_map, Option.map_eq_some_iff] at stepped
  rcases stepped with ⟨⟨server, outputs⟩, taken, rfl⟩
  change Invariant ⟨server, monitored.granted ++ grants server⟩
  have effect : TurnServer.StepEffect settings monitored.server event server outputs :=
    TurnServer.step_effect taken
  have unchanged := invariant.progress_self
  cases effect with
  | tick time forward prompt =>
    refine invariant.next invariant.distinct forward
      ⟨le_rfl, ?_, fun _ live => origin_of_mem live⟩
    intro allocation live perm member
    refine ⟨(invariant.timely allocation live perm member).1.trans forward, ?_⟩
    apply prompt allocation live
    exact mem_append_left _ (mem_append_right _ (List.mem_map_of_mem member))
  | accept | close => exact invariant.next invariant.distinct le_rfl unchanged
  | internalPacket packet socket server outputs present effect => exact invariant.packet effect
  | externalPacket => exact invariant.next invariant.distinct le_rfl unchanged
  | allocationTimeout id ended socket found present =>
    apply invariant.next
    · exact invariant.distinct.sublist (filter_sublist.map _)
    · exact le_rfl
    · refine ⟨le_rfl, fun allocation member => ?_, fun allocation member => ?_⟩
      · exact invariant.timely allocation (mem_of_mem_filter member)
      · exact origin_of_mem (mem_of_mem_filter member)
  | permissionTimeout id perm allocation live isId due =>
    apply invariant.next
    · rw [TurnServer.map_id_update]
      exact invariant.distinct
    · exact le_rfl
    · refine invariant.progress_update live rfl ?_ ?_
      · exact fun other member => invariant.timely allocation live other (mem_of_mem_erase member)
      · intro other member
        by_cases same : other = perm
        · exact .inl (same ▸ due)
        · exact .inr ⟨other, (mem_erase_of_ne same).mpr member, rfl, le_rfl⟩
  | channelTimeout id channel allocation live isId due =>
    exact invariant.update live rfl (invariant.timely allocation live)
      (Allocation.carries_of_perms_eq rfl)

/-- In every run in which what comes for channels comes within the time of their permissions,
data is relayed only under permissions that exist and are no older than the time-out. -/
theorem relaysPermitted_of_channelsRecent (serverSockets : List InternalSocket)
    {events : List Event}
    (recent : Run.Permitted (next settings) ChannelsRecent (initial serverSockets) events) :
    Run.Permitted (next settings) (RelaysPermitted settings) (initial serverSockets) events :=
  Run.permitted_of_invariant (next settings)
    (fun _ _ _ invariant _ stepped => Invariant.step invariant stepped)
    (fun _ _ invariant recent => invariant.relaysPermitted recent)
    (invariant_initial serverSockets) recent

def peerAddress : SocketAddress := ⟨[], .ipv4 0xC6336401, 7000⟩

/-- A client gets an allocation and binds a channel to a peer. -/
def bound : List Event :=
  connected ++ [.internalPacket ⟨7, smallRequest TURN_CHANNEL_BIND_REQUEST (smallNonce 0)
    [⟨STUN_ATTR_CHANNEL_NUMBER, .uint32 0x40000000⟩,
      ⟨STUN_ATTR_XOR_PEER_ADDRESS, .xorAddress peerAddress.ip peerAddress.port⟩],
    [], clientAddress, some 0, none⟩]

def channelData : Event :=
  .internalPacket ⟨7, [0x40, 0, 0, 1, 9], [], clientAddress, some 0, none⟩

theorem relaysPermitted_of_channelsRecent_bound :
    Run.Permitted (next smallServer) (RelaysPermitted smallServer) (initial [])
      (bound ++ [.tick 299999, channelData]) :=
  relaysPermitted_of_channelsRecent [] (by decide +kernel)

/-- The allocation without its permission, five minutes after the channel was bound. -/
def expiredAllocation : Allocation :=
  { id := 0
    conn := ⟨clientAddress, clientAddress, .tcp, 7⟩
    key := [7]
    externalAddress := relayAddress
    transactionId := List.replicate 12 1
    username := ascii "u"
    lastNonce := smallNonce 0
    timers := [600000]
    perms := []
    channels := [⟨0x4000, peerAddress, 0⟩] }

def expired : Monitored :=
  ⟨⟨300000, [⟨7, .tcp, clientAddress, true⟩], [expiredAllocation], 1⟩,
    List.replicate 2 ⟨0, peerAddress.ip, 0⟩⟩

/-- Data on the channel is relayed although the permission is gone. -/
theorem not_relaysPermitted_expired :
    Run.reached (next smallServer) (initial [])
        (bound ++ [.tick 300000, .permissionTimeout 0 ⟨peerAddress.ip, 0⟩]) = some expired ∧
      ¬ RelaysPermitted smallServer expired channelData := by
  refine ⟨by decide +kernel, fun permitted => ?_⟩
  have stepped : expired.server.step smallServer channelData =
      some (expired.server, [.external 0 peerAddress [9]]) := by decide +kernel
  rcases permitted _ stepped (0, peerAddress.ip) (by decide +kernel) with
    ⟨allocation, live, _, perm, member, _⟩
  rw [mem_singleton.mp live] at member
  cases member

end Monitored

end ZyWebRtc.Turn
