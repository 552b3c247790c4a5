import ZyWebRtc.Foundation.Run
import ZyWebRtc.Ice.ChannelSteps

namespace ZyWebRtc.Ice

/-! In standard ICE only authenticated messages make a connection readable or writable, and data
goes up only from readable connections. -/

open List Option Stun StunMessage

namespace ChannelSystem

/-- An event makes a connection readable: an authentic request that names the port's and the
connection's fragment, or with a lite peer an authentic response. -/
inductive MakesReadable (env : IceEnv) (system : ChannelSystem) (event : ChannelEvent)
    (connection : Connection) : Prop
  | request (port : Port) (packet : Packet)
      (isPort : system.port? connection.port = some port)
      (received : event = .connectionPacket connection.id packet)
      (authentic : port.AuthenticRequest env packet connection.remoteCandidate.username)
  | unknownAddress (port : Port) (address : SocketAddress) (proto : ProtocolType)
      (packet : Packet) (randomId : Bytes)
      (isPort : system.port? connection.port = some port)
      (received : event = .portPacket connection.port address proto packet randomId)
      (here : connection.remoteCandidate.address.equal address)
      (authentic : port.AuthenticRequest env packet connection.remoteCandidate.username)
  | liteResponse (before : Connection) (packet : Packet)
      (isConnection : system.connection? connection.id = some before)
      (received : event = .connectionPacket connection.id packet)
      (isLite : before.remoteIceMode = .lite)
      (authentic : before.AuthenticResponse env packet)

/-- An event makes a connection writable: an authentic response to one of its requests. -/
def MakesWritable (env : IceEnv) (system : ChannelSystem) (event : ChannelEvent)
    (connection : Connection) : Prop :=
  ∃ before packet, system.connection? connection.id = some before ∧
    before.remoteCandidate = connection.remoteCandidate ∧
    event = .connectionPacket connection.id packet ∧ before.AuthenticResponse env packet

/-- The connection in a state before. -/
def Was (system : ChannelSystem) (connection before : Connection) : Prop :=
  system.connection? connection.id = some before ∧ before.port = connection.port ∧
    before.remoteCandidate = connection.remoteCandidate

def WasReadable (system : ChannelSystem) (connection : Connection) : Prop :=
  ∃ before, system.Was connection before ∧ before.readState = .readable

def WasWritable (system : ChannelSystem) (connection : Connection) : Prop :=
  ∃ before, system.Was connection before ∧ before.writeState = .writable

/-- What a step makes of the connections is authenticated. -/
structure AuthenticStep (env : IceEnv) (system : ChannelSystem) (event : ChannelEvent)
    (next : ChannelSystem) : Prop where
  readable : ∀ connection ∈ next.connections, connection.readState = .readable →
    system.WasReadable connection ∨ MakesReadable env system event connection
  writable : ∀ connection ∈ next.connections, connection.writeState = .writable →
    system.WasWritable connection ∨ MakesWritable env system event connection
  delivered : ∀ delivery ∈ next.delivered,
    delivery ∈ system.delivered ∨ system.isReadable delivery.1 = true

variable {cause : Cause} {env : IceEnv} {system after : ChannelSystem}

/-! ## Identities -/

/-- The connections have different numbers below the next one, and at each port different
addresses. -/
structure Distinct (system : ChannelSystem) : Prop where
  ids : (system.identities.map Prod.fst).Nodup
  bound : ∀ identity ∈ system.identities, identity.1 < system.nextConnection
  places : ∀ first ∈ system.identities, ∀ second ∈ system.identities,
    first.2.1 = second.2.1 → first.2.2.address.equal second.2.2.address → first.1 = second.1

variable {connection : Connection}

theorem connection?_of_mem (distinct : system.Distinct) (member : connection ∈ system.connections) :
    system.connection? connection.id = some connection := by
  cases found : system.connection? connection.id with
  | none =>
    rw [connection?, List.find?_eq_none] at found
    exact absurd (decide_eq_true rfl) (found connection member)
  | some other =>
    have sameId : other.id = connection.id := by simpa using List.find?_some found
    have ids : (system.connections.map Connection.id).Nodup := by
      have nodup := distinct.ids
      rw [identities, List.map_map] at nodup
      exact nodup
    rw [inj_on_of_nodup_map ids (List.mem_of_find?_eq_some found) member sameId]

theorem mem_identities (member : connection ∈ system.connections) :
    (connection.id, connection.port, connection.remoteCandidate) ∈ system.identities :=
  List.mem_map_of_mem member

theorem getConnection_own (distinct : system.Distinct) {other : Connection}
    (member : connection ∈ system.connections)
    (found : system.getConnection connection.port connection.remoteCandidate.address = some other) :
    other.id = connection.id := by
  have same := List.find?_some found
  rw [decide_eq_true_eq] at same
  exact distinct.places _ (mem_identities (List.mem_of_find?_eq_some found)) _
    (mem_identities member) same.1 same.2

theorem Distinct.congr (distinct : system.Distinct)
    (sameIdentities : after.identities = system.identities)
    (sameNext : after.nextConnection = system.nextConnection) : after.Distinct := by
  refine ⟨?_, ?_, ?_⟩ <;> rw [sameIdentities]
  · exact distinct.ids
  · rw [sameNext]
    exact distinct.bound
  · exact distinct.places

theorem Distinct.sublist (distinct : system.Distinct)
    (fewer : after.identities.Sublist system.identities)
    (sameNext : after.nextConnection = system.nextConnection) : after.Distinct := by
  refine ⟨(fewer.map Prod.fst).nodup distinct.ids, fun identity member => ?_,
    fun first isFirst second isSecond => ?_⟩
  · rw [sameNext]
    exact distinct.bound identity (fewer.subset member)
  · exact distinct.places first (fewer.subset isFirst) second (fewer.subset isSecond)

theorem Distinct.addConnection (distinct : system.Distinct) {port : Nat} {candidate : Candidate}
    (free : system.getConnection port candidate.address = none) (index : Nat)
    (connected : Bool) : (system.addConnection port index connected candidate).Distinct := by
  have unoccupied (identity : Nat × Nat × Candidate) (member : identity ∈ system.identities)
      (samePort : identity.2.1 = port) (here : identity.2.2.address.equal candidate.address) :
      False := by
    rcases List.mem_map.mp member with ⟨connection, isConnection, rfl⟩
    rw [getConnection, List.find?_eq_none] at free
    exact free connection isConnection (decide_eq_true ⟨samePort, here⟩)
  refine ⟨?_, fun identity member => ?_, fun first isFirst second isSecond samePort here => ?_⟩
  · rw [identities_addConnection, map_append, nodup_append]
    refine ⟨distinct.ids, by simp, fun id old new isNew => ?_⟩
    rcases List.mem_map.mp old with ⟨identity, member, rfl⟩
    rw [mem_singleton.mp isNew]
    exact (distinct.bound identity member).ne
  · rw [identities_addConnection] at member
    rcases mem_append.mp member with member | member
    · exact Nat.lt_succ_of_lt (distinct.bound identity member)
    · rw [mem_singleton.mp member]
      exact Nat.lt_succ_self _
  · rw [identities_addConnection] at isFirst isSecond
    rcases mem_append.mp isFirst with isFirst | isFirst <;>
      rcases mem_append.mp isSecond with isSecond | isSecond
    · exact distinct.places first isFirst second isSecond samePort here
    · rw [mem_singleton.mp isSecond] at samePort here
      exact absurd here (fun here => unoccupied first isFirst samePort here)
    · rw [mem_singleton.mp isFirst] at samePort here
      exact absurd here (fun here => unoccupied second isSecond samePort.symm (equal_symm here))
    · rw [mem_singleton.mp isFirst, mem_singleton.mp isSecond]

variable {id : Nat}

theorem identities_steady {change : Connection → Connection} (steady : Steady change) :
    (system.modifyConnection id change).identities = system.identities :=
  identities_modifyConnection id fun connection => by
    rw [steady.id, steady.port, steady.remoteCandidate]

theorem identities_settle :
    system.updateWritableState.updateChannelState.logSort.identities = system.identities ∧
      system.updateWritableState.updateChannelState.logSort.nextConnection =
        system.nextConnection := by
  unfold updateWritableState handleAllTimedOut handleNotWritable
  split
  · exact ⟨rfl, rfl⟩
  · split
    · split <;> exact ⟨rfl, rfl⟩
    · split <;> exact ⟨rfl, rfl⟩

theorem Move.distinct (move : Move cause system after) (distinct : system.Distinct) :
    after.Distinct := by
  cases move with
  | settings _ same =>
    refine distinct.congr ?_ same.nextConnection
    rw [identities, same.connections]
    rfl
  | connection id change steady => exact distinct.congr (identities_steady steady) rfl
  | read id _ => exact distinct.congr (identities_modifyConnection id fun _ => rfl) rfl
  | write id _ => exact distinct.congr (identities_modifyConnection id fun _ => rfl) rfl
  | add port index connected candidate free _ => exact distinct.addConnection free index connected
  | settle => exact distinct.congr identities_settle.1 identities_settle.2
  | _ => exact distinct.congr rfl rfl

theorem distinct_of_moves (moves : Moves cause system after) (distinct : system.Distinct) :
    after.Distinct := by
  induction moves with
  | refl => exact distinct
  | tail _ move induction => exact move.distinct induction

/-! ## What moves do to connections -/

/-- The connection was there before, and has become readable or writable only where that is
allowed. -/
def Continues (cause : Cause) (before : ChannelSystem) (connection : Connection) : Prop :=
  ∃ old ∈ before.connections, old.id = connection.id ∧ old.port = connection.port ∧
    old.remoteCandidate = connection.remoteCandidate ∧
    (connection.readState = .readable → old.readState = .readable ∨ cause.reads connection.id) ∧
    (connection.writeState = .writable → old.writeState = .writable ∨ cause.writes connection.id)

/-- The connection is new, and is readable or writable only where that is allowed. -/
def IsNew (cause : Cause) (before : ChannelSystem) (connection : Connection) : Prop :=
  before.nextConnection ≤ connection.id ∧ cause.adds connection.port connection.remoteCandidate ∧
    (connection.readState = .readable → cause.reads connection.id) ∧
    (connection.writeState = .writable → cause.writes connection.id)

structure Traced (cause : Cause) (before after : ChannelSystem) : Prop where
  next_le : before.nextConnection ≤ after.nextConnection
  connections : ∀ connection ∈ after.connections,
    Continues cause before connection ∨ IsNew cause before connection
  delivered : ∀ delivery ∈ after.delivered, delivery ∈ before.delivered ∨ cause.uploads delivery.1
  standard : before.Standard → after.Standard

theorem continues_self (member : connection ∈ system.connections) :
    Continues cause system connection :=
  ⟨connection, member, rfl, rfl, rfl, .inl, .inl⟩

theorem Traced.refl : Traced cause system system :=
  ⟨le_rfl, fun _ member => .inl (continues_self member), fun _ => .inl, id⟩

theorem Traced.trans {before middle after : ChannelSystem} (first : Traced cause before middle)
    (second : Traced cause middle after) : Traced cause before after := by
  refine ⟨first.next_le.trans second.next_le, fun connection member => ?_,
    fun delivery member => ?_, fun standard => second.standard (first.standard standard)⟩
  · rcases second.connections connection member with continued | isNew
    · rcases continued with ⟨old, isOld, sameId, samePort, sameCandidate, reads, writes⟩
      rw [← sameId] at reads writes
      rcases first.connections old isOld with continued | isNew
      · rcases continued with ⟨oldest, isOldest, oldId, oldPort, oldCandidate, oldReads, oldWrites⟩
        refine .inl ⟨oldest, isOldest, oldId.trans sameId, oldPort.trans samePort,
          oldCandidate.trans sameCandidate, fun now => ?_, fun now => ?_⟩
        · rw [← sameId]
          exact (reads now).elim oldReads .inr
        · rw [← sameId]
          exact (writes now).elim oldWrites .inr
      · rcases isNew with ⟨later, adds, oldReads, oldWrites⟩
        refine .inr ⟨sameId ▸ later, samePort ▸ sameCandidate ▸ adds, fun now => ?_, fun now => ?_⟩
        · rw [← sameId]
          exact (reads now).elim oldReads id
        · rw [← sameId]
          exact (writes now).elim oldWrites id
    · exact .inr ⟨first.next_le.trans isNew.1, isNew.2⟩
  · rcases second.delivered delivery member with before | uploads
    · exact first.delivered delivery before
    · exact .inr uploads

theorem traced_of_same (connections : after.connections = system.connections)
    (sameNext : after.nextConnection = system.nextConnection)
    (delivered : after.delivered = system.delivered)
    (standard : system.Standard → after.Standard) : Traced cause system after := by
  refine ⟨sameNext.ge, fun connection member => .inl ?_, fun _ member => .inl ?_, standard⟩
  · rw [connections] at member
    exact continues_self member
  · rw [← delivered]
    exact member

theorem traced_modifyConnection {change : Connection → Connection}
    (changes : ∀ connection, connection.id = id → (change connection).id = connection.id ∧
      (change connection).port = connection.port ∧
      (change connection).remoteCandidate = connection.remoteCandidate ∧
      ((change connection).readState = .readable →
        connection.readState = .readable ∨ cause.reads id) ∧
      ((change connection).writeState = .writable →
        connection.writeState = .writable ∨ cause.writes id)) :
    Traced cause system (system.modifyConnection id change) := by
  refine ⟨le_rfl, fun connection member => .inl ?_, fun _ => .inl,
    fun standard => ⟨standard.channel, standard.ports⟩⟩
  rcases List.mem_map.mp member with ⟨old, isOld, rfl⟩
  split
  · rename_i sameId
    rcases changes old sameId with ⟨keptId, keptPort, keptCandidate, reads, writes⟩
    refine ⟨old, isOld, keptId.symm, keptPort.symm, keptCandidate.symm, ?_, ?_⟩
    · rw [keptId, sameId]
      exact reads
    · rw [keptId, sameId]
      exact writes
  · exact continues_self isOld

theorem Move.traced (move : Move cause system after) : Traced cause system after := by
  cases move with
  | settings _ same =>
    exact traced_of_same same.connections same.nextConnection same.delivered same.standard
  | connection id change steady =>
    exact traced_modifyConnection fun connection _ => ⟨steady.id connection,
      steady.port connection, steady.remoteCandidate connection,
      fun now => .inl (steady.readState connection now),
      fun now => .inl (steady.writeState connection now)⟩
  | read id allowed =>
    exact traced_modifyConnection fun _ _ => ⟨rfl, rfl, rfl, fun _ => .inr allowed, .inl⟩
  | write id allowed =>
    exact traced_modifyConnection fun _ _ => ⟨rfl, rfl, rfl, .inl, fun _ => .inr allowed⟩
  | add port index connected candidate _ allowed =>
    refine ⟨Nat.le_succ _, fun connection member => ?_, fun _ => .inl,
      fun standard => ⟨standard.channel, standard.ports⟩⟩
    rcases mem_append.mp member with member | member
    · exact .inl (continues_self member)
    · rw [mem_singleton.mp member]
      exact .inr ⟨le_rfl, allowed, (fun raised => by cases raised), (fun raised => by cases raised)⟩
  | deliver id data allowed =>
    refine ⟨le_rfl, fun _ member => .inl (continues_self member), fun delivery member => ?_,
      fun standard => ⟨standard.channel, standard.ports⟩⟩
    rcases mem_append.mp member with member | member
    · exact .inl member
    · rw [mem_singleton.mp member]
      exact .inr allowed
  | settle =>
    unfold updateWritableState handleAllTimedOut handleNotWritable
    split
    · exact traced_of_same rfl rfl rfl fun standard => ⟨standard.channel, standard.ports⟩
    · split
      · split <;>
          exact traced_of_same rfl rfl rfl fun standard => ⟨standard.channel, standard.ports⟩
      · split <;>
          exact traced_of_same rfl rfl rfl fun standard => ⟨standard.channel, standard.ports⟩
  | _ => exact traced_of_same rfl rfl rfl fun standard => ⟨standard.channel, standard.ports⟩

theorem traced_of_moves (moves : Moves cause system after) : Traced cause system after := by
  induction moves with
  | refl => exact .refl
  | tail _ move induction => exact induction.trans move.traced

/-! ## The cause of an event -/

def authenticCause (env : IceEnv) (system : ChannelSystem) (event : ChannelEvent) : Cause where
  reads id :=
    match event with
    | .connectionPacket target packet => id = target ∧
        ∃ before, system.connection? target = some before ∧ (before.readState = .readable ∨
            (∃ port, system.port? before.port = some port ∧
              port.AuthenticRequest env packet before.remoteCandidate.username) ∨
            (before.remoteIceMode = .lite ∧ before.AuthenticResponse env packet))
    | .portPacket _ _ _ _ _ => id = system.nextConnection
    | _ => False
  writes id :=
    match event with
    | .connectionPacket target packet => id = target ∧
        ∃ before, system.connection? target = some before ∧ before.AuthenticResponse env packet
    | _ => False
  uploads id :=
    match event with
    | .connectionPacket target _ => id = target ∧ system.isReadable target = true
    | _ => False
  adds port candidate :=
    match event with
    | .portPacket id address _ packet _ => port = id ∧ candidate.address.equal address ∧
        ∃ known, system.port? id = some known ∧ known.AuthenticRequest env packet candidate.username
    | _ => True
  strays := True

theorem standard_port (standard : system.Standard) {port : Port}
    (found : system.port? id = some port) : port.iceProtocol = .rfc5245 ∧ port.id = id :=
  ⟨standard.ports port (List.mem_of_find?_eq_some found), by simpa using List.find?_some found⟩

theorem authentic_of_response {port : Port} {packet : Packet}
    {stunMsg : StunMessage} {remoteUfrag : Bytes} (standard : port.iceProtocol = .rfc5245)
    (isMessage : port.getStunMessage env packet = .message stunMsg remoteUfrag)
    (isResponse : stunMsg.type = STUN_BINDING_RESPONSE)
    (valid : port.iceProtocol = .google ∨ validateMessageIntegrity env.hmac packet.data
      packet.beyond connection.remoteCandidate.password = some true)
    (outstanding : connection.findRequest stunMsg.transactionId ≠ none) :
    connection.AuthenticResponse env packet := by
  rcases Port.getStunMessage_eq_message standard isMessage with ⟨fingerprint, read, _⟩
  rcases ne_none_iff_exists'.mp outstanding with ⟨request, found⟩
  have isRequest : request.id = stunMsg.transactionId := by simpa using List.find?_some found
  refine ⟨fingerprint, ⟨stunMsg, read, isResponse, request, List.mem_of_find?_eq_some found,
    isRequest⟩, valid.resolve_left fun isGoogle => ?_⟩
  rw [standard] at isGoogle
  cases isGoogle

theorem allows_authentic (standard : system.Standard) (distinct : system.Distinct)
    (event : ChannelEvent) :
    Allows (authenticCause env system event) env system event := by
  cases event with
  | portReady port => exact fun _ => ⟨fun _ => trivial, fun absurdity => nomatch absurdity⟩
  | portReadyAgain id => exact fun _ => ⟨fun _ => trivial, fun absurdity => nomatch absurdity⟩
  | candidate candidate => exact fun _ => ⟨fun _ => trivial, fun absurdity => nomatch absurdity⟩
  | portPacket id address proto packet randomId =>
    intro port stunMsg remoteUfrag isPort isMessage isRequest
    rcases standard_port standard isPort with ⟨portStandard, sameId⟩
    refine ⟨fun candidate username here => ⟨sameId, here, port, isPort, ?_⟩, rfl,
      fun notStandard => absurd standard.channel notStandard⟩
    rw [username]
    exact Port.authentic_of_request portStandard isMessage isRequest
  | connectionPacket id packet =>
    intro connection found
    have member := List.mem_of_find?_eq_some found
    have sameId : connection.id = id := by simpa using List.find?_some found
    refine ⟨fun port stunMsg isPort isMessage isRequest other isOther => ?_, fun _ => .inr trivial,
      fun port stunMsg remoteUfrag isPort isMessage isResponse valid outstanding => ?_,
      fun readable => ?_⟩
    · rcases standard_port standard isPort with ⟨portStandard, samePort⟩
      rw [samePort] at isOther
      refine ⟨(getConnection_own distinct member isOther).trans sameId, connection, found, ?_⟩
      exact .inr (.inl ⟨port, isPort, Port.authentic_of_request portStandard isMessage isRequest⟩)
    · have authentic := authentic_of_response (standard_port standard isPort).1 isMessage
        isResponse valid outstanding
      exact ⟨⟨sameId, connection, found, authentic⟩, fun isLite =>
        ⟨sameId, connection, found, .inr (.inr ⟨isLite, authentic⟩)⟩⟩
    · have wasReadable : connection.readState = .readable := by
        simpa [Connection.readable] using readable
      refine ⟨⟨sameId, connection, found, .inl wasReadable⟩, sameId, ?_⟩
      rw [isReadable, found]
      exact readable
  | _ => trivial

/-! ## Steps -/

theorem identities_filter (keep : Connection → Bool)
    (same : after.connections = system.connections.filter keep) :
    after.identities.Sublist system.identities := by
  rw [identities, same]
  exact filter_sublist.map _

theorem traced_filter (keep : Connection → Bool)
    (same : after.connections = system.connections.filter keep)
    (sameNext : after.nextConnection = system.nextConnection)
    (delivered : after.delivered = system.delivered)
    (standard : system.Standard → after.Standard) : Traced cause system after := by
  refine ⟨sameNext.ge, fun connection member => .inl ?_, fun _ member => .inl ?_, standard⟩
  · rw [same] at member
    exact continues_self (mem_of_mem_filter member)
  · rw [← delivered]
    exact member

theorem deleteConnection_connections (isDeleted : system.deleteConnection id = some after) :
    after.connections = system.connections.filter (·.id ≠ id) ∧
      after.nextConnection = system.nextConnection ∧ after.delivered = system.delivered ∧
      after.ports = system.ports ∧
      after.channel.protocolType = system.channel.protocolType := by
  simp only [deleteConnection, bind_eq_bind, bind_eq_some_iff] at isDeleted
  rcases isDeleted with ⟨connection, _, deleted⟩
  split at deleted
  · simp only [bind_eq_some_iff, Option.pure_def, Option.some.injEq] at deleted
    rcases deleted with ⟨destroyed, isDestroyed, rfl⟩
    unfold onConnectionDestroyed at isDestroyed
    split at isDestroyed
    · dsimp only at isDestroyed
      split at isDestroyed
      · cases isDestroyed
        exact ⟨rfl, rfl, rfl, rfl, rfl⟩
      · cases isDestroyed
        exact ⟨rfl, rfl, rfl, rfl, rfl⟩
    · cases isDestroyed
  · cases deleted

/-- The protocol stays the standard one. -/
def StaysStandard (event : UInt32 × ChannelEvent) : Prop :=
  ∀ type, event.2 = .setIceProtocolType type → type = .rfc5245

theorem traced_step {event : UInt32 × ChannelEvent} (standard : system.Standard)
    (distinct : system.Distinct) (stays : StaysStandard event)
    (stepped : step env system event = some after) :
    Traced (authenticCause env system event.2) system after ∧ after.Distinct := by
  rcases event with ⟨now, event⟩
  cases event_effect stepped (allows_authentic standard distinct event) with
  | moves _ _ moves => exact ⟨traced_of_moves moves, distinct_of_moves moves distinct⟩
  | reset kept =>
    refine ⟨traced_filter _ rfl rfl rfl fun standard => ⟨standard.channel,
      fun port member => ?_⟩, distinct.sublist (identities_filter _ rfl) rfl⟩
    rcases List.mem_map.mp member with ⟨original, isOriginal, rfl⟩
    exact standard.ports original (mem_of_mem_filter isOriginal)
  | deleted id _ isDeleted =>
    rcases deleteConnection_connections isDeleted with
      ⟨connections, sameNext, delivered, ports, protocolType⟩
    refine ⟨traced_filter _ connections sameNext delivered fun standard =>
      ⟨protocolType.trans standard.channel, ?_⟩,
      distinct.sublist (identities_filter _ connections) sameNext⟩
    rw [ports]
    exact standard.ports
  | protocolType type =>
    refine ⟨traced_of_same rfl rfl rfl fun standard => ⟨stays type rfl, fun port member => ?_⟩,
      distinct.congr rfl rfl⟩
    rcases List.mem_map.mp member with ⟨original, isOriginal, rfl⟩
    split
    · exact stays type rfl
    · exact standard.ports original isOriginal

theorem id_lt_of_connection? (distinct : system.Distinct) {before : Connection}
    (found : system.connection? id = some before) : id < system.nextConnection := by
  have sameId : before.id = id := by simpa using List.find?_some found
  rw [← sameId]
  exact distinct.bound _ (mem_identities (List.mem_of_find?_eq_some found))

section

variable {event : ChannelEvent} (distinct : system.Distinct)

include distinct

variable {connection : Connection}

theorem readable_of_continues
    (continued : Continues (authenticCause env system event) system connection)
    (isReadable : connection.readState = .readable) :
    system.WasReadable connection ∨ MakesReadable env system event connection := by
  rcases continued with ⟨old, isOld, sameId, samePort, sameCandidate, reads, _⟩
  have found := connection?_of_mem distinct isOld
  rw [sameId] at found
  rcases reads isReadable with wasReadable | allowed
  · exact .inl ⟨old, ⟨found, samePort, sameCandidate⟩, wasReadable⟩
  · cases event with
    | connectionPacket target packet =>
      rcases allowed with ⟨isTarget, before, isBefore, reason⟩
      rw [← isTarget, found] at isBefore
      cases isBefore
      rcases reason with wasReadable | ⟨port, isPort, authentic⟩ | ⟨isLite, authentic⟩
      · exact .inl ⟨old, ⟨found, samePort, sameCandidate⟩, wasReadable⟩
      · rw [samePort] at isPort
        rw [sameCandidate] at authentic
        exact .inr (.request port packet isPort (by rw [isTarget]) authentic)
      · exact .inr (.liteResponse old packet found (by rw [isTarget]) isLite authentic)
    | portPacket id address proto packet randomId =>
      have isNext : connection.id = system.nextConnection := allowed
      exact absurd (id_lt_of_connection? distinct found) isNext.not_lt
    | _ => exact absurd allowed id

theorem readable_of_isNew (isNew : IsNew (authenticCause env system event) system connection)
    (isReadable : connection.readState = .readable) :
    MakesReadable env system event connection := by
  rcases isNew with ⟨later, adds, reads, _⟩
  have allowed := reads isReadable
  cases event with
  | connectionPacket target packet =>
    rcases allowed with ⟨isTarget, before, isBefore, _⟩
    have earlier := id_lt_of_connection? distinct isBefore
    omega
  | portPacket id address proto packet randomId =>
    rcases adds with ⟨samePort, here, port, isPort, authentic⟩
    rw [← samePort] at isPort
    exact .unknownAddress port address proto packet randomId isPort (by rw [samePort]) here
      authentic
  | _ => exact absurd allowed id

theorem writable_of_traced (traced : Continues (authenticCause env system event) system connection ∨
      IsNew (authenticCause env system event) system connection)
    (isWritable : connection.writeState = .writable) :
    system.WasWritable connection ∨ MakesWritable env system event connection := by
  rcases traced with continued | ⟨later, _, _, writes⟩
  · rcases continued with ⟨old, isOld, sameId, samePort, sameCandidate, _, writes⟩
    have found := connection?_of_mem distinct isOld
    rw [sameId] at found
    rcases writes isWritable with wasWritable | allowed
    · exact .inl ⟨old, ⟨found, samePort, sameCandidate⟩, wasWritable⟩
    · cases event with
      | connectionPacket target packet =>
        rcases allowed with ⟨isTarget, before, isBefore, authentic⟩
        rw [← isTarget, found] at isBefore
        cases isBefore
        exact .inr ⟨old, packet, found, sameCandidate, by rw [isTarget], authentic⟩
      | _ => exact absurd allowed id
  · have allowed := writes isWritable
    cases event with
    | connectionPacket target packet =>
      rcases allowed with ⟨isTarget, before, isBefore, _⟩
      have earlier := id_lt_of_connection? distinct isBefore
      omega
    | _ => exact absurd allowed id

theorem authenticStep_of_traced (traced : Traced (authenticCause env system event) system after) :
    AuthenticStep env system event after := by
  refine ⟨fun connection member isReadable => ?_, fun connection member isWritable => ?_,
    fun delivery member => ?_⟩
  · rcases traced.connections connection member with continued | isNew
    · exact readable_of_continues distinct continued isReadable
    · exact .inr (readable_of_isNew distinct isNew isReadable)
  · exact writable_of_traced distinct (traced.connections connection member) isWritable
  · apply (traced.delivered delivery member).imp_right
    intro allowed
    cases event with
    | connectionPacket target packet => exact allowed.1 ▸ allowed.2
    | _ => exact absurd allowed id

end

/-! ## Runs -/

/-- The invariant behind the authentic steps. -/
structure StandardState (system : ChannelSystem) : Prop where
  standard : system.Standard
  distinct : system.Distinct

theorem standardState_create (component : Nat) : (create component .rfc5245).StandardState :=
  ⟨⟨rfl, fun _ absent => absurd absent not_mem_nil⟩,
    ⟨nodup_nil, fun _ absent => absurd absent not_mem_nil,
      fun _ absent => absurd absent not_mem_nil⟩⟩

theorem StandardState.step {event : UInt32 × ChannelEvent} (state : system.StandardState)
    (stays : StaysStandard event) (stepped : step env system event = some after) :
    after.StandardState ∧ AuthenticStep env system event.2 after := by
  rcases traced_step state.standard state.distinct stays stepped with ⟨traced, distinct⟩
  exact ⟨⟨traced.standard state.standard, distinct⟩, authenticStep_of_traced state.distinct traced⟩

/-- In the run something has happened: an event in a state that the run has passed. -/
def Happened (env : IceEnv) (start : ChannelSystem) (events : List (UInt32 × ChannelEvent))
    (what : ChannelSystem → ChannelEvent → Prop) : Prop :=
  ∃ before event later earlier, events = before ++ event :: later ∧
    Run.reached (step env) start before = some earlier ∧ what earlier event.2

theorem Happened.snoc {start : ChannelSystem} {events : List (UInt32 × ChannelEvent)}
    {what : ChannelSystem → ChannelEvent → Prop} (happened : Happened env start events what)
    (event : UInt32 × ChannelEvent) : Happened env start (events ++ [event]) what := by
  rcases happened with ⟨before, cause, later, earlier, rfl, run, holds⟩
  exact ⟨before, cause, later ++ [event], earlier, by simp, run, holds⟩

/-- What has happened in a run of standard ICE that reaches a state: every connection that is
readable or writable owes it to an authentic message, and every piece of data was delivered by a
step that met its connection readable. -/
structure AuthenticRun (env : IceEnv) (start : ChannelSystem)
    (events : List (UInt32 × ChannelEvent)) (system : ChannelSystem) : Prop where
  readable : ∀ connection ∈ system.connections, connection.readState = .readable →
    Happened env start events fun earlier event => MakesReadable env earlier event connection
  writable : ∀ connection ∈ system.connections, connection.writeState = .writable →
    Happened env start events fun earlier event => MakesWritable env earlier event connection
  delivered : ∀ delivery ∈ system.delivered,
    Happened env start events fun earlier _ => earlier.isReadable delivery.1 = true

theorem MakesReadable.congr {event : ChannelEvent} {other : Connection}
    (makes : MakesReadable env system event other) (sameId : other.id = connection.id)
    (samePort : other.port = connection.port)
    (sameCandidate : other.remoteCandidate = connection.remoteCandidate) :
    MakesReadable env system event connection := by
  cases makes with
  | request port packet isPort received authentic =>
    exact .request port packet (samePort ▸ isPort) (sameId ▸ received)
      (sameCandidate ▸ authentic)
  | unknownAddress port address proto packet randomId isPort received here authentic =>
    exact .unknownAddress port address proto packet randomId (samePort ▸ isPort)
      (samePort ▸ received) (sameCandidate ▸ here) (sameCandidate ▸ authentic)
  | liteResponse before packet isConnection received isLite authentic =>
    exact .liteResponse before packet (sameId ▸ isConnection) (sameId ▸ received) isLite
      authentic

theorem MakesWritable.congr {event : ChannelEvent} {other : Connection}
    (makes : MakesWritable env system event other) (sameId : other.id = connection.id)
    (sameCandidate : other.remoteCandidate = connection.remoteCandidate) :
    MakesWritable env system event connection := by
  rcases makes with ⟨before, packet, isConnection, candidate, received, authentic⟩
  exact ⟨before, packet, sameId ▸ isConnection, candidate.trans sameCandidate,
    sameId ▸ received, authentic⟩

theorem was_mem {before : Connection} (was : system.Was connection before) :
    before ∈ system.connections ∧ before.id = connection.id :=
  ⟨List.mem_of_find?_eq_some was.1, by simpa using List.find?_some was.1⟩

theorem AuthenticRun.snoc {start : ChannelSystem} {events : List (UInt32 × ChannelEvent)}
    {event : UInt32 × ChannelEvent} (past : AuthenticRun env start events system)
    (run : Run.reached (step env) start events = some system)
    (authentic : AuthenticStep env system event.2 after) :
    AuthenticRun env start (events ++ [event]) after := by
  refine ⟨fun connection member isReadable => ?_, fun connection member isWritable => ?_,
    fun delivery member => ?_⟩
  · rcases authentic.readable connection member isReadable with ⟨before, was, wasReadable⟩ | now
    · rcases was_mem was with ⟨isBefore, sameId⟩
      rcases past.readable before isBefore wasReadable with
        ⟨first, cause, later, earlier, split, reached, makes⟩
      exact Happened.snoc ⟨first, cause, later, earlier, split, reached,
        makes.congr sameId was.2.1 was.2.2⟩ event
    · exact ⟨events, event, [], system, rfl, run, now⟩
  · rcases authentic.writable connection member isWritable with ⟨before, was, wasWritable⟩ | now
    · rcases was_mem was with ⟨isBefore, sameId⟩
      rcases past.writable before isBefore wasWritable with
        ⟨first, cause, later, earlier, split, reached, makes⟩
      exact Happened.snoc ⟨first, cause, later, earlier, split, reached,
        makes.congr sameId was.2.2⟩ event
    · exact ⟨events, event, [], system, rfl, run, now⟩
  · rcases authentic.delivered delivery member with before | now
    · exact (past.delivered delivery before).snoc event
    · exact ⟨events, event, [], system, rfl, run, now⟩

section

variable (env : IceEnv) (component : Nat) {events : List (UInt32 × ChannelEvent)}
  (stays : ∀ event ∈ events, StaysStandard event)

include stays

theorem authenticRun_of_reached : ∀ {system : ChannelSystem},
      Run.reached (step env) (create component .rfc5245) events = some system →
      system.StandardState ∧ AuthenticRun env (create component .rfc5245) events system := by
  induction events using List.reverseRecOn with
  | nil =>
    intro system run
    cases run
    exact ⟨standardState_create component, fun _ absent => absurd absent not_mem_nil,
      fun _ absent => absurd absent not_mem_nil,
      fun _ absent => absurd absent not_mem_nil⟩
  | append_singleton events event induction =>
    intro system run
    rw [Run.reached_append, bind_eq_some_iff] at run
    rcases run with ⟨middle, reached, last⟩
    simp only [Run.reached, bind_eq_bind, bind_eq_some_iff, Option.some.injEq] at last
    rcases last with ⟨next, stepped, rfl⟩
    rcases induction (fun other member => stays other (mem_append_left _ member)) reached
      with ⟨state, past⟩
    rcases state.step (stays event (by simp)) stepped with ⟨nextState, authentic⟩
    exact ⟨nextState, past.snoc reached authentic⟩

/-- Connectivity is authenticated in every run of standard ICE: in what has led to the state
that it reaches, and in every step from there. -/
theorem connectivity_authenticated {system : ChannelSystem}
    (run : Run.reached (step env) (create component .rfc5245) events = some system) :
    AuthenticRun env (create component .rfc5245) events system ∧
      ∀ event next, StaysStandard event → step env system event = some next →
        AuthenticStep env system event.2 next := by
  rcases authenticRun_of_reached env component stays run with ⟨state, past⟩
  exact ⟨past, fun event next stays stepped => (state.step stays stepped).2⟩

end

/-! ## A channel with one port -/

/-- The digests of the two packets below, and a port that connects to every candidate. -/
def sampleEnv : IceEnv where
  hmac key _ :=
    if key = ascii "pwd" then
      ⟨[155, 32, 234, 181, 76, 32, 94, 84, 195, 2, 212, 97, 49, 194, 242, 60, 81, 11, 121, 43], rfl⟩
    else
      ⟨[172, 222, 132, 185, 162, 189, 54, 50, 40, 107, 217, 171, 145, 87, 120, 254, 32, 107, 1,
        163], rfl⟩
  crc data := if data.length = 80 then 0x96EFBB12 else 0xD167842C
  createConnection _ _ _ := some (0, true)

def samplePort : Port where
  id := 0
  type := ascii "local"
  network := 0
  component := 1
  generation := 0
  iceUsernameFragment := ascii "loc"
  password := ascii "pwd"
  iceProtocol := .google
  iceRole := .unknown
  tiebreaker := 0
  sharedSocket := false
  sendRetransmitCountAttribute := false
  candidates := [⟨⟨[], .ipv4 0x0A000001, 5000⟩, 7⟩]
  muxed := false
  signals := false
  others := []

def sampleCandidate : Candidate where
  id := ascii "c"
  component := 1
  protocol := ascii "udp"
  address := ⟨[], .ipv4 0x0A000002, 6000⟩
  priority := 7
  username := ascii "rem"
  password := ascii "key"
  type := ascii "local"
  generation := 0
  foundation := []
  relatedAddress := SocketAddress.nil

def nominatingRequest : Packet where
  data :=
    [0, 1, 0, 68, 33, 18, 164, 66, 1, 2, 3, 4, 5, 6, 7, 8, 9, 10, 11, 12, 0, 6, 0, 7, 108, 111,
      99, 58, 114, 101, 109, 0, 128, 42, 0, 8, 0, 0, 0, 0, 0, 0, 0, 9, 0, 37, 0, 0, 0, 36, 0, 4,
      110, 127, 30, 255, 0, 8, 0, 20, 155, 32, 234, 181, 76, 32, 94, 84, 195, 2, 212, 97, 49,
      194, 242, 60, 81, 11, 121, 43, 128, 40, 0, 4, 197, 187, 238, 92]
  beyond := []

def pingResponse : Packet where
  data :=
    [1, 1, 0, 44, 33, 18, 164, 66, 21, 22, 23, 24, 25, 26, 27, 28, 29, 30, 31, 32, 0, 32, 0, 8,
      0, 1, 50, 154, 43, 18, 164, 67, 0, 8, 0, 20, 172, 222, 132, 185, 162, 189, 54, 50, 40, 107,
      217, 171, 145, 87, 120, 254, 32, 107, 1, 163, 128, 40, 0, 4, 130, 51, 209, 98]
  beyond := []

/-- The connection to the candidate becomes readable with the request and writable with the
response to its ping; then it delivers two bytes. -/
def connectedRun : List (UInt32 × ChannelEvent) :=
  let transactionId : Bytes := [21, 22, 23, 24, 25, 26, 27, 28, 29, 30, 31, 32]
  [(1, .setIceRole .controlled), (2, .portReady samplePort), (3, .candidate sampleCandidate),
    (4, .connectionPacket 0 nominatingRequest), (5, .ping transactionId),
    (6, .requestMessage 0 transactionId), (7, .connectionPacket 0 pingResponse),
    (8, .connectionPacket 0 ⟨[128, 1], []⟩), (9, .sort)]

def connectedSystem : ChannelSystem :=
  (Run.reached (step sampleEnv) (create 1 .rfc5245) connectedRun).getD (create 1 .rfc5245)

theorem connectivity_authenticated_connectedRun :
    connectedSystem.isReadable 0 = true ∧ connectedSystem.isWritable 0 = true ∧
      connectedSystem.delivered = [(0, [128, 1])] ∧
      AuthenticRun sampleEnv (create 1 .rfc5245) connectedRun connectedSystem ∧
      ∀ event next, StaysStandard event → step sampleEnv connectedSystem event = some next →
        AuthenticStep sampleEnv connectedSystem event.2 next :=
  have stays : ∀ event ∈ connectedRun, StaysStandard event := by
    intro event member type isProtocol
    simp [connectedRun] at member
    rcases member with rfl | rfl | rfl | rfl | rfl | rfl | rfl | rfl | rfl <;> cases isProtocol
  ⟨by decide +kernel, by decide +kernel, by decide +kernel,
    connectivity_authenticated sampleEnv 1 stays
      (by decide +kernel : Run.reached (step sampleEnv) (create 1 .rfc5245) connectedRun =
        some connectedSystem)⟩

end ChannelSystem

end ZyWebRtc.Ice
