import ZyWebRtc.Turn.Server

namespace ZyWebRtc.Turn

/-! What one step of a TURN server can do.

A packet from a client has one of eight effects; the relation lists them with what the server
has checked before each. Every property of the server's runs is read off from these. -/

open Option Stun StunMessage

namespace TurnServer

variable (settings : Settings)

/-! ## What a packet from a client does -/

/-- The message in a packet is a request that passes `CheckAuthorization` under a key. -/
structure Accepted (server : TurnServer) (packet : InternalPacket) (key : Bytes)
    (msg : StunMessage) (nonce : Bytes) : Prop where
  read : StunMessage.read .turnMessage packet.data = some (msg, [])
  isRequest : isStunRequestType msg.type
  hasKey : key ≠ []
  integrity :
    validateMessageIntegrity settings.hmac packet.data packet.beyond key = some true
  hasNonce : msg.getByteString STUN_ATTR_NONCE = some nonce
  validNonce : validateNonce settings.hmacMd5 settings.nonceKey server.now nonce
  hasUsername : ∃ username, msg.getByteString STUN_ATTR_USERNAME = some username

inductive PacketEffect (server : TurnServer) (conn : Connection) (packet : InternalPacket) :
    TurnServer → List Output → Prop
  | ignored : PacketEffect server conn packet server []
  | channelData (allocation : Allocation) (msgType : UInt16)
      (found : server.findAllocation conn packet.found = some (some allocation))
      (number : packet.data.uint16At 0 = some msgType) :
      PacketEffect server conn packet server
        (allocation.handleChannelData msgType.toNat packet.data)
  | response (msg message : StunMessage)
      (read : StunMessage.read .turnMessage packet.data = some (msg, []))
      (isRequest : isStunRequestType msg.type) :
      PacketEffect server conn packet server [settings.sendStun conn message]
  | mismatch (msg : StunMessage)
      (read : StunMessage.read .turnMessage packet.data = some (msg, []))
      (notRequest : isStunRequestType msg.type = false) (notFound : packet.found = none) :
      PacketEffect server conn packet server
        [settings.sendErrorResponse conn msg .allocationMismatch]
  | indication (msg : StunMessage) (allocation : Allocation)
      (read : StunMessage.read .turnMessage packet.data = some (msg, []))
      (notRequest : isStunRequestType msg.type = false)
      (found : server.findAllocation conn packet.found = some (some allocation)) :
      PacketEffect server conn packet (server.update allocation)
        (if msg.type = TURN_SEND_INDICATION then allocation.handleSendIndication msg else [])
  | refused (msg message : StunMessage) (allocation : Allocation) (nonce : Bytes)
      (found : server.findAllocation conn packet.found = some (some allocation))
      (accepted : Accepted settings server packet allocation.key msg nonce) :
      PacketEffect server conn packet (server.update { allocation with lastNonce := nonce })
        [settings.sendStun conn message]
  | changed (msg : StunMessage) (allocation : Allocation) (nonce : Bytes)
      (found : server.findAllocation conn packet.found = some (some allocation))
      (accepted : Accepted settings server packet allocation.key msg nonce)
      (owner : msg.getByteString STUN_ATTR_USERNAME = some allocation.username) :
      PacketEffect server conn packet
        (server.update ({ allocation with lastNonce := nonce }.handleTurnMessage settings
          server.now msg).1)
        ({ allocation with lastNonce := nonce }.handleTurnMessage settings server.now msg).2
  | created (msg : StunMessage) (nonce : Bytes) (externalAddress : SocketAddress)
      (accepted : Accepted settings server packet (getKey settings msg) msg nonce)
      (isAllocate : msg.type = STUN_ALLOCATE_REQUEST) :
      PacketEffect server conn packet
        { server with
          allocations := server.allocations ++ [((Allocation.create server.nextAllocation conn
            (getKey settings msg) externalAddress).handleTurnMessage settings server.now msg).1]
          nextAllocation := server.nextAllocation + 1 }
        ((Allocation.create server.nextAllocation conn (getKey settings msg)
          externalAddress).handleTurnMessage settings server.now msg).2

section Effects

variable {settings} {server : TurnServer} {conn : Connection} {packet : InternalPacket}

variable {found : Option Nat} {allocation : Allocation}

theorem findAllocation_mem (answer : server.findAllocation conn found = some (some allocation)) :
    allocation ∈ server.allocations := by
  cases found with
  | none => simp [findAllocation] at answer
  | some id =>
    simp only [findAllocation, map_eq_some_iff] at answer
    rcases answer with ⟨_, found, same⟩
    cases same
    exact List.mem_of_find?_eq_some found

theorem allocation_mem {id : Nat} (found : server.allocation id = some allocation) :
    allocation ∈ server.allocations ∧ allocation.id = id :=
  ⟨List.mem_of_find?_eq_some found, by simpa using List.find?_some found⟩

theorem findAllocation_id (answer : server.findAllocation conn found = some (some allocation)) :
    found = some allocation.id := by
  cases found with
  | none => simp [findAllocation] at answer
  | some id =>
    simp only [findAllocation, map_eq_some_iff] at answer
    rcases answer with ⟨_, found, same⟩
    cases same
    have isFound := List.find?_some found
    simp only [decide_eq_true_eq] at isFound
    rw [isFound.1]

theorem mem_update {changed : Allocation}
    (member : allocation ∈ (server.update changed).allocations) :
    allocation = changed ∨ allocation ∈ server.allocations := by
  simp only [update, List.mem_map] at member
  rcases member with ⟨other, member, rfl⟩
  split
  · exact .inl rfl
  · exact .inr member

theorem map_id_update (server : TurnServer) (changed : Allocation) :
    (server.update changed).allocations.map Allocation.id =
      server.allocations.map Allocation.id := by
  simp only [update, List.map_map]
  apply List.map_congr_left
  intro other _
  by_cases same : other.id = changed.id
  · simp [same]
  · simp [same]

theorem findAllocation_eq_none
    (answer : server.findAllocation conn found = some none) : found = none := by
  cases found with
  | none => rfl
  | some id => simp [findAllocation] at answer

variable {msg : StunMessage}

theorem handleTurnMessage_notRequest {now : Nat} (notRequest : isStunRequestType msg.type = false) :
    allocation.handleTurnMessage settings now msg = (allocation,
        if msg.type = TURN_SEND_INDICATION then allocation.handleSendIndication msg else []) := by
  have different {type : UInt16} (isRequest : isStunRequestType type) : msg.type ≠ type := by
    intro same
    rw [same, isRequest] at notRequest
    cases notRequest
  have notAllocate : msg.type ≠ STUN_ALLOCATE_REQUEST := different (by decide)
  have notRefresh : msg.type ≠ TURN_REFRESH_REQUEST := different (by decide)
  have notPermission : msg.type ≠ TURN_CREATE_PERMISSION_REQUEST := different (by decide)
  have notBind : msg.type ≠ TURN_CHANNEL_BIND_REQUEST := different (by decide)
  simp only [Allocation.handleTurnMessage, notAllocate, notRefresh, notPermission, notBind,
    if_false]
  split <;> rfl

theorem checkAuthorization_eq_inr {key nonce : Bytes} {allocation : Option Allocation}
    (read : StunMessage.read .turnMessage packet.data = some (msg, []))
    (isRequest : isStunRequestType msg.type)
    (authorized : server.checkAuthorization settings conn msg packet key allocation =
      some (.inr nonce)) : Accepted settings server packet key msg nonce := by
  unfold checkAuthorization at authorized
  simp only at authorized
  split at authorized
  · cases authorized
  split at authorized
  · rename_i username realm presented hasUsername _ hasNonce
    split at authorized
    · cases authorized
    rename_i validNonce
    split at authorized
    · cases authorized
    rename_i hasKey
    simp only [bind_eq_bind, bind_eq_some_iff] at authorized
    rcases authorized with ⟨valid, checked, authorized⟩
    split at authorized
    · cases authorized
    rename_i isValid
    split at authorized
    · cases authorized
    cases authorized
    simp only [Bool.not_eq_false] at validNonce isValid
    subst isValid
    exact ⟨read, isRequest, hasKey, checked, hasNonce, validNonce, username, hasUsername⟩
  · cases authorized

theorem checkAuthorization_eq_inl {key : Bytes} {allocation : Option Allocation} {response : Output}
    (refused : server.checkAuthorization settings conn msg packet key allocation =
      some (.inl response)) : ∃ message, response = settings.sendStun conn message := by
  unfold checkAuthorization at refused
  simp only at refused
  split at refused
  · cases refused
    exact ⟨_, rfl⟩
  split at refused
  · split at refused
    · cases refused
      exact ⟨_, rfl⟩
    split at refused
    · cases refused
      exact ⟨_, rfl⟩
    simp only [bind_eq_bind, bind_eq_some_iff] at refused
    rcases refused with ⟨valid, _, refused⟩
    split at refused
    · cases refused
      exact ⟨_, rfl⟩
    split at refused
    · cases refused
      exact ⟨_, rfl⟩
    · cases refused
  · cases refused
    exact ⟨_, rfl⟩

theorem update_update {first second : Allocation} (same : second.id = first.id) :
    (server.update first).update second = server.update second := by
  simp only [update, List.map_map, TurnServer.mk.injEq, true_and, and_true]
  apply List.map_congr_left
  intro other _
  by_cases isFirst : other.id = first.id
  · simp [isFirst, same]
  · simp [isFirst, same]

theorem dispatch_created {nonce : Bytes}
    (accepted : Accepted settings server packet (getKey settings msg) msg nonce) :
    PacketEffect settings server conn packet
      (server.dispatch settings conn msg (getKey settings msg) packet.external none).1
      (server.dispatch settings conn msg (getKey settings msg) packet.external none).2 := by
  simp only [dispatch]
  by_cases isAllocate : msg.type = STUN_ALLOCATE_REQUEST
  · simp only [isAllocate, if_true, handleAllocateRequest]
    cases msg.getUInt32 STUN_ATTR_REQUESTED_TRANSPORT with
    | none => exact .response msg _ accepted.read accepted.isRequest
    | some transport =>
      by_cases unsupported : transport >>> 24 ≠ IPPROTO_UDP
      · simp only [unsupported, ne_eq, not_false_eq_true, if_true]
        exact .response msg _ accepted.read accepted.isRequest
      · simp only [unsupported, if_false]
        cases packet.external with
        | none => exact .response msg _ accepted.read accepted.isRequest
        | some externalAddress => exact .created msg nonce externalAddress accepted isAllocate
  · simp only [isAllocate, if_false]
    exact .response msg _ accepted.read accepted.isRequest

theorem dispatch_changed {nonce : Bytes}
    (found : server.findAllocation conn packet.found = some (some allocation))
    (accepted : Accepted settings server packet allocation.key msg nonce) :
    PacketEffect settings server conn packet
      ((server.update { allocation with lastNonce := nonce }).dispatch settings conn msg
        allocation.key packet.external (some { allocation with lastNonce := nonce })).1
      ((server.update { allocation with lastNonce := nonce }).dispatch settings conn msg
        allocation.key packet.external (some { allocation with lastNonce := nonce })).2 := by
  simp only [dispatch]
  split
  · by_cases owner : msg.getByteString STUN_ATTR_USERNAME = some allocation.username
    · simp only [owner, ne_eq, not_true_eq_false, and_false, if_false]
      have frame := ({ allocation with lastNonce := nonce } : Allocation).handleTurnMessage_frame
        settings server.now msg
      rw [update_update (by exact frame.1)]
      exact .changed msg allocation nonce found accepted owner
    · simp only [owner, accepted.isRequest, ne_eq, not_false_eq_true, and_self, if_true]
      exact .refused msg _ allocation nonce found accepted
  · exact .refused msg _ allocation nonce found accepted

theorem handleStunMessage_effect {allocation : Option Allocation} {result : TurnServer × List Output}
    (found : server.findAllocation conn packet.found = some allocation)
    (handled : server.handleStunMessage settings conn packet allocation = some result) :
    PacketEffect settings server conn packet result.1 result.2 := by
  unfold handleStunMessage at handled
  cases read : StunMessage.read .turnMessage packet.data with
  | none =>
    rw [read] at handled
    cases handled
    exact .ignored
  | some message =>
    rcases message with ⟨msg, rest⟩
    simp only [read] at handled
    split at handled
    · cases handled
      exact .ignored
    rename_i whole
    rw [not_not.mp whole] at read
    split at handled
    · rename_i isBinding
      cases handled
      exact .response msg _ read (by rw [isBinding]; decide)
    split at handled
    · rename_i isRequest
      simp only [bind_eq_bind, bind_eq_some_iff] at handled
      rcases handled with ⟨verdict, checked, handled⟩
      cases verdict with
      | inl response =>
        cases handled
        rcases checkAuthorization_eq_inl checked with ⟨message, rfl⟩
        exact .response msg message read isRequest
      | inr nonce =>
        have accepted := checkAuthorization_eq_inr read isRequest checked
        cases allocation with
        | none =>
          cases handled
          exact dispatch_created accepted
        | some allocation =>
          cases handled
          exact dispatch_changed found accepted
    · rename_i notRequest
      simp only [Bool.not_eq_true] at notRequest
      cases handled
      cases allocation with
      | none =>
        have notAllocate : msg.type ≠ STUN_ALLOCATE_REQUEST := by
          intro same
          rw [same] at notRequest
          revert notRequest
          decide
        simp only [dispatch, notAllocate, if_false]
        exact .mismatch msg read notRequest (findAllocation_eq_none found)
      | some allocation =>
        have notAllocate : msg.type ≠ STUN_ALLOCATE_REQUEST := by
          intro same
          rw [same] at notRequest
          revert notRequest
          decide
        simp only [dispatch, notAllocate, ne_eq, not_false_eq_true, true_or, if_true,
          notRequest, Bool.false_eq_true, false_and, if_false,
          handleTurnMessage_notRequest notRequest]
        exact .indication msg allocation read notRequest found

def connection (packet : InternalPacket) (socket : InternalSocket) : Connection :=
  ⟨packet.addr, socket.remoteAddress, socket.proto, socket.id⟩

theorem onInternalPacket_effect {result : TurnServer × List Output}
    (handled : server.onInternalPacket settings packet = some result) :
    ∃ socket, server.findSocket packet.socket = some socket ∧
      PacketEffect settings server (connection packet socket) packet result.1 result.2 := by
  simp only [onInternalPacket, bind_eq_bind, bind_eq_some_iff] at handled
  rcases handled with ⟨socket, present, handled⟩
  refine ⟨socket, present, ?_⟩
  split at handled
  · cases handled
  split at handled
  · cases handled
    exact .ignored
  simp only [bind_eq_some_iff] at handled
  rcases handled with ⟨msgType, number, allocation, found, handled⟩
  split at handled
  · cases allocation with
    | none =>
      cases handled
      exact .ignored
    | some allocation =>
      cases handled
      exact .channelData allocation msgType found number
  · exact handleStunMessage_effect found handled

end Effects

/-! ## What a step does -/

/-- The end of an allocation, where its socket is found. -/
def withoutAllocation (server : TurnServer) (ended : Allocation) (socket : InternalSocket) :
    TurnServer :=
  { now := server.now
    serverSockets :=
      if socket.proto ≠ .udp then
        server.serverSockets.filter (·.id ≠ ended.conn.socket)
      else server.serverSockets
    allocations := server.allocations.filter (·.id ≠ ended.id)
    nextAllocation := server.nextAllocation }

inductive StepEffect (server : TurnServer) : Event → TurnServer → List Output → Prop
  | tick (time : Nat) (forward : server.now ≤ time)
      (prompt : ∀ allocation ∈ server.allocations, ∀ due ∈ dueTimes allocation, time ≤ due) :
      StepEffect server (.tick time) { server with now := time } []
  | accept (listener id : Nat) (remoteAddress : SocketAddress) (proto : ProtocolType) :
      StepEffect server (.accept listener id remoteAddress) { server with
        serverSockets := server.serverSockets ++ [⟨id, proto, remoteAddress, true⟩] } []
  | close (id : Nat) : StepEffect server (.close id) (server.destroyInternalSocket id) []
  | internalPacket (packet : InternalPacket) (socket : InternalSocket) (after : TurnServer)
      (outputs : List Output) (present : server.findSocket packet.socket = some socket)
      (effect : PacketEffect settings server (connection packet socket) packet after outputs) :
      StepEffect server (.internalPacket packet) after outputs
  | externalPacket (id : Nat) (data : Bytes) (addr : SocketAddress) (transactionId : Bytes)
      (allocation : Allocation) (live : allocation ∈ server.allocations)
      (isId : allocation.id = id) :
      StepEffect server (.externalPacket id data addr transactionId) server
        (allocation.onExternalPacket settings data addr transactionId)
  | allocationTimeout (id : Nat) (ended : Allocation) (socket : InternalSocket)
      (found : server.allocation id = some ended)
      (present : server.findSocket ended.conn.socket = some socket) :
      StepEffect server (.allocationTimeout id) (server.withoutAllocation ended socket) []
  | permissionTimeout (id : Nat) (perm : Permission) (allocation : Allocation)
      (live : allocation ∈ server.allocations) (isId : allocation.id = id)
      (due : perm.due ≤ server.now) :
      StepEffect server (.permissionTimeout id perm)
        (server.update { allocation with perms := allocation.perms.erase perm }) []
  | channelTimeout (id : Nat) (channel : Channel) (allocation : Allocation)
      (live : allocation ∈ server.allocations) (isId : allocation.id = id)
      (due : channel.due ≤ server.now) :
      StepEffect server (.channelTimeout id channel)
        (server.update { allocation with channels := allocation.channels.erase channel }) []

theorem step_effect {settings : Settings} {server : TurnServer} {event : Event}
    {result : TurnServer × List Output} (stepped : server.step settings event = some result) :
    StepEffect settings server event result.1 result.2 := by
  cases event with
  | tick time =>
    simp only [step] at stepped
    split at stepped
    · rename_i possible
      cases stepped
      exact .tick time possible.1 possible.2
    · cases stepped
  | accept listener id remoteAddress =>
    simp only [step, bind_eq_bind, bind_eq_some_iff] at stepped
    rcases stepped with ⟨proto, _, stepped⟩
    split at stepped
    · cases stepped
    · cases stepped
      exact .accept listener id remoteAddress proto
  | close id =>
    simp only [step, bind_eq_bind, bind_eq_some_iff] at stepped
    rcases stepped with ⟨socket, _, stepped⟩
    split at stepped
    · cases stepped
      exact .close id
    · cases stepped
  | internalPacket packet =>
    rcases onInternalPacket_effect stepped with ⟨socket, present, effect⟩
    exact .internalPacket packet socket result.1 result.2 present effect
  | externalPacket id data addr transactionId =>
    simp only [step, bind_eq_bind, bind_eq_some_iff] at stepped
    rcases stepped with ⟨allocation, found, stepped⟩
    split at stepped
    · cases stepped
      exact .externalPacket id data addr transactionId allocation (allocation_mem found).1
        (allocation_mem found).2
    · cases stepped
  | allocationTimeout id =>
    simp only [step, bind_eq_bind, bind_eq_some_iff] at stepped
    rcases stepped with ⟨ended, found, stepped⟩
    split at stepped
    · simp only [bind_eq_some_iff, onAllocationTimeout, bind_eq_bind] at stepped
      rcases stepped with ⟨after, ⟨socket, present, ends⟩, stepped⟩
      cases stepped
      have same : after = server.withoutAllocation ended socket := by
        rw [← Option.some.inj ends]
        unfold withoutAllocation
        split <;> rfl
      rw [same]
      exact .allocationTimeout id ended socket found present
    · cases stepped
  | permissionTimeout id perm =>
    simp only [step, bind_eq_bind, bind_eq_some_iff] at stepped
    rcases stepped with ⟨allocation, found, stepped⟩
    split at stepped
    · rename_i due
      cases stepped
      exact .permissionTimeout id perm allocation (allocation_mem found).1
        (allocation_mem found).2 due.2
    · cases stepped
  | channelTimeout id channel =>
    simp only [step, bind_eq_bind, bind_eq_some_iff] at stepped
    rcases stepped with ⟨allocation, found, stepped⟩
    split at stepped
    · rename_i due
      cases stepped
      exact .channelTimeout id channel allocation (allocation_mem found).1
        (allocation_mem found).2 due.2
    · cases stepped

end TurnServer

end ZyWebRtc.Turn
