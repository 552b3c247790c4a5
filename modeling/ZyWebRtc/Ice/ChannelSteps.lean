import ZyWebRtc.Ice.ChannelMoves

namespace ZyWebRtc.Ice

/-! The moves of the events: packets, pings and timers, the calls of the session. -/

open Stun StunMessage

namespace ChannelSystem

variable {cause : Cause} {env : IceEnv} {system : ChannelSystem}

theorem Move.listed {after : ChannelSystem} (move : Move cause system after) {id : Nat}
    (member : id ∈ system.channel.connections) : id ∈ after.channel.connections := by
  cases move with
  | settings _ same =>
    rw [same.listed]
    exact member
  | order connections same => exact same.mem_iff.mpr member
  | add port index connected candidate _ _ => exact List.mem_append_left _ member
  | settle =>
    unfold updateWritableState handleAllTimedOut handleNotWritable
    split
    · exact member
    · split
      · split <;> exact member
      · split <;> exact member
  | _ => exact member

theorem listed_of_moves {after : ChannelSystem} (moves : Moves cause system after) {id : Nat}
    (member : id ∈ system.channel.connections) : id ∈ after.channel.connections := by
  induction moves with
  | refl => exact member
  | tail _ move induction => exact move.listed induction

/-! ## Packets -/

theorem moves_portReadPacket {id : Nat} {address : SocketAddress} {proto : ProtocolType}
    {packet : Packet} {randomId : Bytes} (now : UInt32)
    (allowed : ∀ port stunMsg remoteUfrag, system.port? id = some port →
      port.getStunMessage env packet = .message stunMsg remoteUfrag →
      stunMsg.type = STUN_BINDING_REQUEST →
        (∀ candidate : Candidate, candidate.username = remoteUfrag →
          candidate.address.equal address → cause.adds port.id candidate) ∧
        cause.reads system.nextConnection ∧
        (system.channel.protocolType ≠ .rfc5245 →
          ∀ candidate, AllowsCreation cause candidate true)) :
    Moves cause system
      (system.portReadPacket env id address proto packet randomId now) := by
  unfold portReadPacket
  split
  · exact .refl
  · rename_i port isPort
    split
    · exact .refl
    · exact .refl
    · exact moves_sendBindingErrorResponse _ _
    · rename_i stunMsg remoteUfrag isMessage
      split
      · rename_i isRequest
        rcases allowed port stunMsg remoteUfrag isPort isMessage isRequest with
          ⟨adds, reads, otherwise⟩
        split
        · exact moves_sendBindingErrorResponse _ _
        · split
          · exact moves_onUnknownAddress now adds reads otherwise
          · exact .refl
      · exact .refl

def nominates (system : ChannelSystem) (env : IceEnv) (connection : Connection)
    (packet : Packet) : Bool :=
  match system.portOf connection with
  | none => false
  | some port =>
    match port.getStunMessage env packet with
    | .message stunMsg remoteUfrag =>
      stunMsg.type = STUN_BINDING_REQUEST ∧ remoteUfrag = connection.remoteCandidate.username ∧
        ¬ (port.isStandardIce ∧ port.rolePort.maybeIceRoleConflict stunMsg remoteUfrag = .reject) ∧
        isNomination port stunMsg
    | _ => false

/-- What a packet of a connection may do. -/
structure AllowsPacket (cause : Cause) (env : IceEnv) (system : ChannelSystem)
    (connection : Connection) (packet : Packet) : Prop where
  request : ∀ port stunMsg, system.portOf connection = some port →
    port.getStunMessage env packet = .message stunMsg connection.remoteCandidate.username →
    stunMsg.type = STUN_BINDING_REQUEST →
      ∀ other, system.getConnection port.id connection.remoteCandidate.address = some other →
        cause.reads other.id
  nomination : system.nominates env connection packet →
    connection.id ∈ system.channel.connections ∨ cause.strays
  response : ∀ port stunMsg remoteUfrag, system.portOf connection = some port →
    port.getStunMessage env packet = .message stunMsg remoteUfrag →
    stunMsg.type = STUN_BINDING_RESPONSE →
    port.iceProtocol = .google ∨ validateMessageIntegrity env.hmac packet.data packet.beyond
      connection.remoteCandidate.password = some true →
    connection.findRequest stunMsg.transactionId ≠ none → cause.writes connection.id ∧
        (connection.remoteIceMode = .lite → cause.reads connection.id)
  reading : connection.readable → cause.reads connection.id ∧ cause.uploads connection.id

theorem moves_modifyPort {id : Nat} {change : Port → Port}
    (kept : ∀ port, (change port).iceProtocol = port.iceProtocol) :
    Moves cause system (system.modifyPort id change) := by
  refine moves_settings ⟨rfl, rfl, rfl, rfl, rfl, rfl, rfl, rfl, rfl,
    fun standard => ⟨standard.channel, fun port member => ?_⟩⟩
  rcases List.mem_map.mp member with ⟨original, isOriginal, rfl⟩
  have before := standard.ports original isOriginal
  split
  · exact (kept original).trans before
  · exact before

theorem moves_onUseCandidate {id : Nat}
    (listed : id ∈ system.channel.connections ∨ cause.strays) :
    Moves cause system (system.onUseCandidate id) := by
  have ofSome (other : Nat) (same : other ∈ some id) :
      other ∈ system.channel.connections ∨ cause.strays := by
    rw [← Option.mem_some.mp same]
    exact listed
  unfold onUseCandidate
  split
  · split
    · refine .trans (.single (.pend system none fun _ absent => nomatch absent)) (.trans
        (.single (.best _ (some id) ofSome)) moves_requestSort)
    · exact .refl
  · exact .single (.pend system (some id) ofSome)

theorem moves_onReadPacket {id : Nat} (data : Bytes) (allowed : cause.uploads id) :
    Moves cause system (system.onReadPacket id data) := by
  unfold onReadPacket
  split
  · exact .single (.deliver system id data allowed)
  · exact .refl

section

variable {connection : Connection}

theorem moves_onBindingRequest {port : Port} {packet : Packet}
    {stunMsg : StunMessage} {remoteUfrag : Bytes} (now : UInt32)
    (isPort : system.portOf connection = some port)
    (isMessage : port.getStunMessage env packet = .message stunMsg remoteUfrag)
    (isRequest : stunMsg.type = STUN_BINDING_REQUEST)
    (allowed : AllowsPacket cause env system connection packet) :
    Moves cause system (system.onBindingRequest connection port stunMsg remoteUfrag now) := by
  unfold onBindingRequest
  dsimp only
  split
  · exact moves_sendBindingErrorResponse _ _
  · rename_i sameUfrag
    rw [not_not] at sameUfrag
    split
    · exact moves_sendBindingErrorResponse _ _
    · rename_i noConflict
      rw [sameUfrag] at isMessage
      have answered : Moves cause system (system.sendBindingResponse port.id stunMsg
          connection.remoteCandidate.address now) :=
        moves_sendBindingResponse now (allowed.request port stunMsg isPort isMessage isRequest)
      have restarted := answered.trans (moves_restartTimedOut connection.id)
      split
      · rename_i isNominated
        apply restarted.trans
        apply moves_onUseCandidate
        have nominated : system.nominates env connection packet := by
          rw [sameUfrag] at noConflict
          rw [nominates, isPort]
          dsimp only
          rw [isMessage]
          simpa only [decide_eq_true_eq] using ⟨isRequest, trivial, noConflict, isNominated⟩
        exact (allowed.nomination nominated).imp_left (listed_of_moves restarted)
      · exact restarted

theorem moves_addPrflxCandidate (connection : Connection) (port : Port)
    (candidate : LocalCandidate) :
    Moves cause system (system.addPrflxCandidate connection port candidate) := by
  have steady (index : Nat) : Steady (·.useLocalCandidate index) := by
    constructor <;> intro connection <;> simp [Connection.useLocalCandidate]
  have added : Moves cause system
      (system.modifyPort port.id (·.addPrflxCandidate candidate)) :=
    moves_modifyPort fun _ => rfl
  have moved : Moves cause system ((system.modifyPort port.id
      (·.addPrflxCandidate candidate)).modifyConnection connection.id
        (·.useLocalCandidate port.candidates.length)) :=
    added.trans (moves_connection (steady _))
  exact moved.trans (moves_onConnectionStateChange connection.id)

theorem moves_maybeAddPrflxCandidate (connection : Connection) (request : ConnectionRequest)
    (response : StunMessage) :
    Moves cause system (system.maybeAddPrflxCandidate connection request response) := by
  unfold maybeAddPrflxCandidate
  split
  · split
    · exact .refl
    · exact moves_addPrflxCandidate connection _ _
  · exact .refl

theorem moves_recordSuccess (now : UInt32)
    (writes : cause.writes connection.id)
    (reads : connection.remoteIceMode = .lite → cause.reads connection.id) :
    Moves cause system (system.recordSuccess connection now) := by
  have steady : Steady Connection.succeed := by
    constructor <;> intro connection <;> simp [Connection.succeed]
  have written : Moves cause system ((system.setWriteState connection.id
      .writable).modifyConnection connection.id Connection.succeed) :=
    .trans (moves_setWriteState connection.id fun _ => writes) (moves_connection steady)
  unfold recordSuccess
  dsimp only
  split
  · rename_i isLite
    exact written.trans (moves_receivedPing now (reads isLite))
  · exact written

theorem moves_onConnectionRequestResponse {request : ConnectionRequest}
    {response : StunMessage} (now : UInt32) (writes : cause.writes connection.id)
    (reads : connection.remoteIceMode = .lite → cause.reads connection.id) :
    Moves cause system
      (system.onConnectionRequestResponse connection request response now) := by
  have steady (rtt : UInt32) : Steady (·.measure rtt) := by
    constructor <;> intro connection <;> simp [Connection.measure]
  have measured : Moves cause system ((system.recordSuccess connection now).modifyConnection
      connection.id (·.measure (now - request.tstamp))) :=
    .trans (moves_recordSuccess now writes reads) (moves_connection (steady _))
  unfold onConnectionRequestResponse
  dsimp only
  split
  · exact measured.trans (moves_maybeAddPrflxCandidate connection request response)
  · exact measured

theorem moves_onConnectionRequestErrorResponse (connection : Connection) (port : Port)
    (response : StunMessage) :
    Moves cause system
      (system.onConnectionRequestErrorResponse connection port response) := by
  unfold onConnectionRequestErrorResponse
  dsimp only
  split
  · exact .refl
  · refine .trans (moves_connection ?_)
      (moves_setWriteState connection.id fun raised => nomatch raised)
    constructor <;> intro connection <;> simp

theorem steady_removeRequest (id : Bytes) : Steady (·.removeRequest id) := by
  constructor <;> intro connection <;> simp [Connection.removeRequest]

theorem moves_checkResponse {port : Port} {response : StunMessage}
    (now : UInt32)
    (allowed : ∀ request, connection.findRequest response.transactionId = some request →
      some response.type = getStunSuccessResponseType request.msg.type →
        cause.writes connection.id ∧
          (connection.remoteIceMode = .lite → cause.reads connection.id)) :
    Moves cause system (system.checkResponse connection port response now) := by
  unfold checkResponse
  split
  · exact .refl
  · rename_i request isRequest
    split
    · rename_i isSuccess
      rcases allowed request isRequest isSuccess with ⟨writes, reads⟩
      exact .trans (moves_onConnectionRequestResponse now writes reads)
        (moves_connection (steady_removeRequest request.id))
    · split
      · exact .trans (moves_onConnectionRequestErrorResponse connection port response)
          (moves_connection (steady_removeRequest request.id))
      · exact .refl

theorem bindingErrorResponse_not_success (type : UInt16) :
    some STUN_BINDING_ERROR_RESPONSE ≠ getStunSuccessResponseType type := by
  unfold getStunSuccessResponseType
  split
  · rename_i isRequest
    intro same
    have unset : type &&& kStunTypeMask = 0 := by simpa [isStunRequestType] using isRequest
    have masked := congrArg (fun bits => bits.toNat.testBit 4) unset
    have raised := congrArg (fun bits => bits.toNat.testBit 4) (Option.some.inj same)
    have inMask : Nat.testBit 272 4 = true := by decide
    have inType : Nat.testBit 273 4 = true := by decide
    have notAdded : Nat.testBit 256 4 = false := by decide
    simp [kStunTypeMask, UInt16.toNat_and, Nat.testBit_and, inMask] at masked
    simp [STUN_BINDING_ERROR_RESPONSE, UInt16.toNat_or, Nat.testBit_or, masked, inType,
      notAdded] at raised
  · exact fun absurdity => nomatch absurdity

theorem moves_connectionReadPacket {packet : Packet} (now : UInt32)
    (allowed : AllowsPacket cause env system connection packet) :
    Moves cause system (system.connectionReadPacket env connection packet now) := by
  unfold connectionReadPacket
  split
  · exact .refl
  · rename_i port isPort
    split
    · split
      · rename_i isReadable
        refine .trans (moves_connection ?_) (.trans
          (moves_onReadPacket packet.data (allowed.reading isReadable).2)
          (moves_restartTimedOut connection.id))
        constructor <;> intro connection <;> simp
      · exact .refl
    · exact .refl
    · exact moves_sendBindingErrorResponse _ _
    · rename_i stunMsg remoteUfrag isMessage
      split
      · rename_i isRequest
        exact moves_onBindingRequest now isPort isMessage isRequest allowed
      · split
        · rename_i isResponse
          split
          · rename_i valid
            apply moves_checkResponse
            intro request isRequest isSuccess
            apply allowed.response port stunMsg remoteUfrag isPort isMessage ?_ valid
            · rw [isRequest]
              exact Option.some_ne_none request
            · rcases isResponse with isSuccessType | isErrorType
              · exact isSuccessType
              · rw [isErrorType] at isSuccess
                exact absurd isSuccess (bindingErrorResponse_not_success _)
          · exact .refl
        · split
          · rename_i isIndication
            exact moves_receivedPing now (allowed.reading isIndication.2.2).1
          · exact .refl

end

theorem moves_pingConnection (id : Nat) (now : UInt32) (transactionId : Bytes) :
    Moves cause system (system.pingConnection id now transactionId) := by
  unfold pingConnection
  split
  · exact .refl
  · split
    · exact .refl
    · apply moves_connection
      constructor <;> intro connection <;> simp [Connection.ping]

theorem moves_onPing (now : UInt32) (transactionId : Bytes) :
    Moves cause system (system.onPing now transactionId) := by
  unfold onPing
  dsimp only
  split
  · exact .trans (moves_updateConnectionStates now) (moves_pingConnection _ now transactionId)
  · exact moves_updateConnectionStates now

theorem moves_onRequestMessage (id : Nat) (transactionId : Bytes) (now : UInt32) :
    Moves cause system (system.onRequestMessage id transactionId now) := by
  apply moves_connection
  constructor <;> intro connection <;> split <;> try split
  all_goals simp [Connection.removeRequest, Connection.sendRequest]

theorem moves_tcpClose (id : Nat) :
    Moves cause system ((system.modifyConnection id ({ · with connected := false })).setWriteState
      id .writeTimeout) := by
  refine .trans (moves_connection ?_) (moves_setWriteState id fun raised => nomatch raised)
  constructor <;> intro connection <;> simp

/-! ## Events -/

theorem standard_adoptPort {id : Nat} (channel : system.channel.protocolType = .rfc5245)
    (others : ∀ port ∈ system.ports, port.id ≠ id → port.iceProtocol = .rfc5245) :
    (system.adoptPort id).Standard := by
  refine ⟨channel, fun port member => ?_⟩
  rcases List.mem_map.mp member with ⟨original, isOriginal, rfl⟩
  split
  · exact channel
  · rename_i different
    exact others original isOriginal different

def Allows (cause : Cause) (env : IceEnv) (system : ChannelSystem) : ChannelEvent → Prop
  | .portReady _ | .portReadyAgain _ | .candidate _ =>
    ∀ candidate, AllowsCreation cause candidate false
  | .portPacket id address _ packet _ => ∀ port stunMsg remoteUfrag,
      system.port? id = some port →
      port.getStunMessage env packet = .message stunMsg remoteUfrag →
      stunMsg.type = STUN_BINDING_REQUEST →
        (∀ candidate : Candidate, candidate.username = remoteUfrag →
          candidate.address.equal address → cause.adds port.id candidate) ∧
        cause.reads system.nextConnection ∧
        (system.channel.protocolType ≠ .rfc5245 → ∀ candidate, AllowsCreation cause candidate true)
  | .connectionPacket id packet => ∀ connection, system.connection? id = some connection →
      AllowsPacket cause env system connection packet
  | _ => True

/-- What an event does to the channel: it makes moves, or it is one of three others. -/
inductive EventEffect (cause : Cause) (system : ChannelSystem) : ChannelEvent → ChannelSystem → Prop
  | moves (event : ChannelEvent) (after : ChannelSystem) (moves : Moves cause system after) :
      EventEffect cause system event after
  | reset (kept : List Nat) : EventEffect cause system (.reset kept) (system.reset kept)
  | deleted (id : Nat) (after : ChannelSystem) (isDeleted : system.deleteConnection id = some after) :
      EventEffect cause system (.deleteMessage id) after
  | protocolType (type : IceProtocolType) :
      EventEffect cause system (.setIceProtocolType type) (system.setIceProtocolType type)

theorem event_effect {event : UInt32 × ChannelEvent} {next : ChannelSystem}
    (stepped : step env system event = some next) (allowed : Allows cause env system event.2) :
    EventEffect cause system event.2 next := by
  rcases event with ⟨now, event⟩
  cases event with
  | portReady port =>
    simp only [step] at stepped
    split at stepped
    · cases stepped
    · cases stepped
      apply EventEffect.moves
      refine moves_onPortReady now ⟨rfl, rfl, rfl, rfl, rfl, rfl, rfl, rfl, rfl,
        fun standard => standard_adoptPort standard.channel ?_⟩ allowed
      intro other member different
      rcases List.mem_append.mp member with member | member
      · exact standard.ports other member
      · rw [List.mem_singleton.mp member] at different
        exact absurd rfl different
  | portReadyAgain id =>
    simp only [step] at stepped
    split at stepped
    · cases stepped
      apply EventEffect.moves
      exact moves_onPortReady now ⟨rfl, rfl, rfl, rfl, rfl, rfl, rfl, rfl, rfl,
        fun standard => standard_adoptPort standard.channel fun port member _ =>
          standard.ports port member⟩ allowed
    · cases stepped
  | portDestroyed id =>
    simp only [step, onPortDestroyed] at stepped
    split at stepped
    · split at stepped
      · cases stepped
        apply EventEffect.moves
        exact moves_settings ⟨rfl, rfl, rfl, rfl, rfl, rfl, rfl, rfl, rfl, fun standard =>
          ⟨standard.channel, fun port member => standard.ports port (List.mem_of_mem_filter member)⟩⟩
      · cases stepped
    · cases stepped
  | otherConnection id candidate =>
    simp only [step] at stepped
    split at stepped
    · cases stepped
      exact .moves _ _ (moves_modifyPort fun _ => rfl)
    · cases stepped
  | otherDestroyed id address =>
    cases stepped
    exact .moves _ _ (moves_modifyPort fun _ => rfl)
  | otherSetIceRole id role =>
    simp only [step] at stepped
    split at stepped
    · cases stepped
      exact .moves _ _ (moves_modifyPort fun _ => rfl)
    · cases stepped
  | candidate candidate =>
    cases stepped
    exact .moves _ _ (moves_onCandidate now (allowed _))
  | setRemoteIceCredentials iceUfrag icePwd =>
    cases stepped
    exact .moves _ _ (moves_modifyChannel rfl rfl rfl rfl rfl rfl)
  | setRemoteIceMode mode =>
    cases stepped
    exact .moves _ _ (moves_modifyChannel rfl rfl rfl rfl rfl rfl)
  | setIceProtocolType type =>
    cases stepped
    exact .protocolType type
  | setIceRole role =>
    cases stepped
    apply EventEffect.moves
    unfold setIceRole
    split
    · refine moves_settings ⟨rfl, rfl, rfl, rfl, rfl, rfl, rfl, rfl, rfl, fun standard =>
        ⟨standard.channel, fun port member => ?_⟩⟩
      rcases List.mem_map.mp member with ⟨original, isOriginal, rfl⟩
      have before := standard.ports original isOriginal
      split
      · exact before
      · exact before
    · exact .refl
  | setIceTiebreaker tiebreaker =>
    cases stepped
    apply EventEffect.moves
    split
    · exact moves_modifyChannel rfl rfl rfl rfl rfl rfl
    · exact .refl
  | setIncomingOnly value =>
    cases stepped
    exact .moves _ _ (moves_modifyChannel rfl rfl rfl rfl rfl rfl)
  | addAllocatorSession =>
    cases stepped
    exact .moves _ _ (moves_modifyChannel rfl rfl rfl rfl rfl rfl)
  | reset kept =>
    cases stepped
    exact .reset kept
  | portPacket id address proto packet randomId =>
    cases stepped
    exact .moves _ _ (moves_portReadPacket now allowed)
  | connectionPacket id packet =>
    simp only [step, Option.bind_eq_bind, Option.bind_eq_some_iff, Option.pure_def,
      Option.some.injEq] at stepped
    rcases stepped with ⟨connection, found, rfl⟩
    exact .moves _ _ (moves_connectionReadPacket now (allowed connection found))
  | requestMessage id transactionId =>
    cases stepped
    exact .moves _ _ (moves_onRequestMessage id transactionId now)
  | deleteMessage id => exact .deleted id next stepped
  | tcpConnect id =>
    cases stepped
    apply EventEffect.moves
    apply moves_connection
    constructor <;> intro connection <;> simp
  | tcpClose id =>
    cases stepped
    exact .moves _ _ (moves_tcpClose id)
  | sort =>
    cases stepped
    exact .moves _ _ (moves_sortConnections now)
  | ping transactionId =>
    cases stepped
    exact .moves _ _ (moves_onPing now transactionId)

end ChannelSystem

end ZyWebRtc.Ice
