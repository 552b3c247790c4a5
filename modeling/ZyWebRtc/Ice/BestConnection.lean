import ZyWebRtc.Ice.Connectivity

namespace ZyWebRtc.Ice

/-! The connections that the channel points to, and the flags that it sets when it has sorted its
connections. -/

open List Option Stun StunMessage

/-- The channel is writable if its best connection is, and readable if some connection is. -/
def SortResult.Agrees (result : SortResult) : Prop :=
  result.writable = result.bestWritable ∧ result.readable = result.someReadable

/-- Everything but the nomination of connections that are not on the list. -/
def Cause.listedOnly : Cause where
  reads _ := True
  writes _ := True
  uploads _ := True
  adds _ _ := True
  strays := False

/-- Everything but new connections. -/
def Cause.noneAdded : Cause where
  reads _ := True
  writes _ := True
  uploads _ := True
  adds _ _ := False
  strays := True

namespace ChannelSystem

/-- The best and the pending best connection are connections of the channel. -/
structure Listed (system : ChannelSystem) : Prop where
  best : ∀ id ∈ system.channel.bestConnection, id ∈ system.channel.connections
  pending : ∀ id ∈ system.channel.pendingBestConnection, id ∈ system.channel.connections

/-- The channel is not writable without having been marked so, and its flags were right each
time that the connections had been sorted. -/
structure Flagged (system : ChannelSystem) : Prop where
  wasWritable : system.channel.writable = true → system.channel.wasWritable = true
  sorts : ∀ result ∈ system.sorts, result.Agrees

/-- What the channel promises in every state. -/
structure ChannelInvariant (system : ChannelSystem) : Prop where
  listed : system.Listed
  sorts : ∀ result ∈ system.sorts, result.Agrees

/-- `Reset` does not come while a connection is pending, and no packet nominates a connection
that `Reset` has taken off the list. -/
def KeepsPointers (env : IceEnv) (system : ChannelSystem) (event : UInt32 × ChannelEvent) :
    Prop :=
  match event.2 with
  | .reset _ => system.channel.pendingBestConnection = none
  | .connectionPacket id packet => ∀ connection, system.connection? id = some connection →
      system.nominates env connection packet = true → id ∈ system.channel.connections
  | _ => True

variable {cause : Cause} {env : IceEnv} {system after : ChannelSystem}

theorem Flagged.settle (flagged : system.Flagged) :
    system.updateWritableState.updateChannelState.logSort.Flagged := by
  have settled (writable : Bool)
      (right : writable = system.bestWritable)
      (marked : writable = true → system.updateWritableState.channel.wasWritable = true)
      (isWritable : system.updateWritableState.channel.writable = writable)
      (sameBest : system.updateWritableState.bestWritable = system.bestWritable)
      (sameSorts : system.updateWritableState.sorts = system.sorts) :
      system.updateWritableState.updateChannelState.logSort.Flagged := by
    refine ⟨fun now => marked (isWritable.symm.trans now), fun result member => ?_⟩
    rcases mem_append.mp member with member | member
    · exact flagged.sorts result (sameSorts ▸ member)
    · rw [mem_singleton.mp member]
      exact ⟨isWritable.trans (right.trans sameBest.symm), rfl⟩
  have handled : system.updateWritableState =
      if system.bestWritable then system.handleWritable else system.handleNotWritable := by
    rw [updateWritableState, handleAllTimedOut, ite_self]
  by_cases best : system.bestWritable = true
  · rw [if_pos best] at handled
    apply settled true best.symm <;> rw [handled] <;> intros <;> rfl
  · rw [if_neg best, handleNotWritable] at handled
    rw [Bool.not_eq_true] at best
    by_cases marked : system.channel.wasWritable = true
    · rw [if_pos marked] at handled
      apply settled false best.symm (fun absurdity => nomatch absurdity) <;> rw [handled] <;> rfl
    · rw [if_neg marked] at handled
      have notWritable : system.channel.writable = false :=
        Bool.eq_false_iff.mpr fun now => marked (flagged.wasWritable now)
      apply settled false best.symm (fun absurdity => nomatch absurdity) <;> rw [handled]
      exact notWritable

theorem Move.flagged (move : Move cause system after) (flagged : system.Flagged) :
    after.Flagged := by
  cases move with
  | settings _ same =>
    refine ⟨fun now => ?_, fun result member => flagged.sorts result (same.sorts ▸ member)⟩
    rw [same.writable] at now
    rw [same.wasWritable]
    exact flagged.wasWritable now
  | settle => exact flagged.settle
  | _ => exact ⟨flagged.wasWritable, flagged.sorts⟩

theorem flagged_of_moves (moves : Moves cause system after) (flagged : system.Flagged) :
    after.Flagged := by
  induction moves with
  | refl => exact flagged
  | tail _ move induction => exact move.flagged induction

theorem listed_settle (listed : system.Listed) :
    system.updateWritableState.updateChannelState.logSort.Listed := by
  unfold updateWritableState handleAllTimedOut handleNotWritable
  split
  · exact ⟨listed.best, listed.pending⟩
  · split
    · split <;> exact ⟨listed.best, listed.pending⟩
    · split <;> exact ⟨listed.best, listed.pending⟩

theorem Move.keepsListed (noStrays : ¬cause.strays) (move : Move cause system after)
    (listed : system.Listed) : after.Listed := by
  cases move with
  | settings _ same =>
    refine ⟨fun id isBest => ?_, fun id isPending => ?_⟩
    · rw [same.listed]
      exact listed.best id (same.best ▸ isBest)
    · rw [same.listed]
      exact listed.pending id (same.pending ▸ isPending)
  | best next isListed =>
    exact ⟨fun id isBest => (isListed id isBest).resolve_right noStrays, listed.pending⟩
  | promote id isPending =>
    refine ⟨fun other isBest => ?_, fun _ absent => nomatch absent⟩
    rw [← mem_some.mp isBest]
    exact listed.pending id isPending
  | pend next isListed =>
    exact ⟨listed.best, fun id isPending => (isListed id isPending).resolve_right noStrays⟩
  | order connections same =>
    exact ⟨fun id isBest => same.mem_iff.mpr (listed.best id isBest),
      fun id isPending => same.mem_iff.mpr (listed.pending id isPending)⟩
  | add port index connected candidate _ _ =>
    exact ⟨fun id isBest => mem_append_left _ (listed.best id isBest),
      fun id isPending => mem_append_left _ (listed.pending id isPending)⟩
  | settle => exact listed_settle listed
  | _ => exact ⟨listed.best, listed.pending⟩

theorem keepsListed_of_moves (noStrays : ¬cause.strays) (moves : Moves cause system after)
    (listed : system.Listed) : after.Listed := by
  induction moves with
  | refl => exact listed
  | tail _ move induction => exact move.keepsListed noStrays induction

theorem listed_of_moves_back (noneAdded : ∀ port candidate, ¬cause.adds port candidate)
    (moves : Moves cause system after) {id : Nat} (member : id ∈ after.channel.connections) :
    id ∈ system.channel.connections := by
  induction moves with
  | refl => exact member
  | tail _ move induction =>
    apply induction
    cases move with
    | settings _ same => exact same.listed ▸ member
    | order connections same => exact same.mem_iff.mp member
    | add port index connected candidate _ allowed => exact absurd allowed (noneAdded _ _)
    | settle =>
      unfold updateWritableState handleAllTimedOut handleNotWritable at member
      split at member
      · exact member
      · split at member
        · split at member <;> exact member
        · split at member <;> exact member
    | _ => exact member

/-! ## Events -/

section

variable {event : UInt32 × ChannelEvent}

theorem allows_listedOnly (keeps : KeepsPointers env system event) :
    Allows .listedOnly env system event.2 := by
  rcases event with ⟨now, event⟩
  have creation (candidate : Candidate) (readable : Bool) :
      AllowsCreation .listedOnly candidate readable :=
    ⟨fun _ => trivial, fun _ _ => trivial⟩
  cases event with
  | portReady port => exact fun candidate => creation candidate false
  | portReadyAgain id => exact fun candidate => creation candidate false
  | candidate candidate => exact fun candidate => creation candidate false
  | portPacket id address proto packet randomId =>
    exact fun _ _ _ _ _ _ =>
      ⟨fun _ _ _ => trivial, trivial, fun _ candidate => creation candidate true⟩
  | connectionPacket id packet =>
    intro connection found
    have sameId : connection.id = id := by simpa using List.find?_some found
    refine ⟨fun _ _ _ _ _ _ _ => trivial, fun nominated => ?_,
      fun _ _ _ _ _ _ _ _ => ⟨trivial, fun _ => trivial⟩, fun _ => ⟨trivial, trivial⟩⟩
    rw [sameId]
    exact .inl (keeps connection found nominated)
  | _ => trivial

theorem deleteConnection_eq_some {id : Nat} (isDeleted : system.deleteConnection id = some after) :
    after.channel.connections = system.channel.connections.erase id ∧ after.channel.bestConnection =
        (if system.channel.bestConnection = some id then none
          else system.channel.bestConnection) ∧
      after.channel.pendingBestConnection =
        (if system.channel.pendingBestConnection = some id then none
          else system.channel.pendingBestConnection) ∧
      after.channel.writable = system.channel.writable ∧
      after.channel.wasWritable = system.channel.wasWritable ∧
      after.sorts = system.sorts := by
  simp only [deleteConnection, bind_eq_bind, bind_eq_some_iff] at isDeleted
  rcases isDeleted with ⟨connection, _, deleted⟩
  split at deleted
  · simp only [bind_eq_some_iff, Option.pure_def, Option.some.injEq] at deleted
    rcases deleted with ⟨destroyed, isDestroyed, rfl⟩
    unfold onConnectionDestroyed at isDestroyed
    split at isDestroyed
    · dsimp only at isDestroyed
      split at isDestroyed
      · rename_i isBest
        cases isDestroyed
        rw [if_pos isBest]
        exact ⟨rfl, rfl, rfl, rfl, rfl, rfl⟩
      · rename_i notBest
        cases isDestroyed
        rw [if_neg notBest]
        exact ⟨rfl, rfl, rfl, rfl, rfl, rfl⟩
    · cases isDestroyed
  · cases deleted

theorem Flagged.deleteConnection {id : Nat} (flagged : system.Flagged)
    (isDeleted : system.deleteConnection id = some after) : after.Flagged := by
  rcases deleteConnection_eq_some isDeleted with ⟨_, _, _, writable, wasWritable, sorts⟩
  refine ⟨fun now => ?_, fun result member => flagged.sorts result (sorts ▸ member)⟩
  rw [wasWritable]
  exact flagged.wasWritable (writable ▸ now)

theorem mem_erase_of_pointer {pointer : Option Nat} {connections : List Nat} {id : Nat}
    (listed : ∀ other ∈ pointer, other ∈ connections) :
    ∀ other ∈ (if pointer = some id then none else pointer), other ∈ connections.erase id := by
  intro other member
  split at member
  · cases member
  · rename_i different
    apply (mem_erase_of_ne ?_).mpr (listed other member)
    intro same
    rw [mem_def, same] at member
    exact different member

theorem Listed.deleteConnection {id : Nat} (listed : system.Listed)
    (isDeleted : system.deleteConnection id = some after) : after.Listed := by
  rcases deleteConnection_eq_some isDeleted with ⟨connections, best, pending, _⟩
  constructor
  · rw [best, connections]
    exact mem_erase_of_pointer listed.best
  · rw [pending, connections]
    exact mem_erase_of_pointer listed.pending

theorem Listed.step (listed : system.Listed)
    (stepped : step env system event = some after) (keeps : KeepsPointers env system event) :
    after.Listed := by
  rcases event with ⟨now, event⟩
  cases event_effect stepped (allows_listedOnly keeps) with
  | moves _ _ moves => exact keepsListed_of_moves id moves listed
  | reset kept =>
    have noPending : system.channel.pendingBestConnection = none := keeps
    refine ⟨(fun _ absent => nomatch absent), fun id isPending => ?_⟩
    change id ∈ system.channel.pendingBestConnection at isPending
    rw [noPending] at isPending
    cases isPending
  | deleted id _ isDeleted => exact listed.deleteConnection isDeleted
  | protocolType type => exact ⟨listed.best, listed.pending⟩

theorem allows_any (event : ChannelEvent) :
    Allows ⟨fun _ => True, fun _ => True, fun _ => True, fun _ _ => True, True⟩ env system event := by
  cases event with
  | portPacket id address proto packet randomId =>
    exact fun _ _ _ _ _ _ => ⟨fun _ _ _ => trivial, trivial,
      fun _ _ => ⟨fun _ => trivial, fun _ _ => trivial⟩⟩
  | connectionPacket id packet =>
    exact fun _ _ => ⟨fun _ _ _ _ _ _ _ => trivial, fun _ => .inr trivial,
      fun _ _ _ _ _ _ _ _ => ⟨trivial, fun _ => trivial⟩, fun _ => ⟨trivial, trivial⟩⟩
  | portReady port => exact fun _ => ⟨fun _ => trivial, fun _ _ => trivial⟩
  | portReadyAgain id => exact fun _ => ⟨fun _ => trivial, fun _ _ => trivial⟩
  | candidate candidate => exact fun _ => ⟨fun _ => trivial, fun _ _ => trivial⟩
  | _ => trivial

theorem Flagged.step (flagged : system.Flagged)
    (stepped : step env system event = some after) : after.Flagged := by
  rcases event with ⟨now, event⟩
  cases event_effect stepped (allows_any event) with
  | moves _ _ moves => exact flagged_of_moves moves flagged
  | reset kept => exact ⟨(fun absurdity => nomatch absurdity), flagged.sorts⟩
  | deleted id _ isDeleted => exact flagged.deleteConnection isDeleted
  | protocolType type => exact ⟨flagged.wasWritable, flagged.sorts⟩

/-! ## Events that leave a pointer behind -/

theorem connectionReadPacket_of_nominates {connection : Connection} {packet : Packet}
    (nominated : system.nominates env connection packet = true) (now : UInt32) :
    ∃ restarted, Moves .noneAdded system restarted ∧
      system.connectionReadPacket env connection packet now =
        restarted.onUseCandidate connection.id := by
  unfold nominates at nominated
  split at nominated
  · cases nominated
  · rename_i port isPort
    split at nominated
    · rename_i stunMsg remoteUfrag isMessage
      rw [decide_eq_true_eq] at nominated
      rcases nominated with ⟨isRequest, sameUfrag, noConflict, isNominated⟩
      refine ⟨(system.sendBindingResponse port.id stunMsg connection.remoteCandidate.address
        now).restartTimedOut connection.id, ?_, ?_⟩
      · exact .trans (moves_sendBindingResponse now fun _ _ => trivial)
          (moves_restartTimedOut connection.id)
      · simp only [connectionReadPacket, isPort, isMessage, isRequest, if_true, onBindingRequest,
          sameUfrag, ne_eq, not_true_eq_false, if_false]
        rw [sameUfrag] at noConflict
        rw [if_neg noConflict, if_pos isNominated]
    · cases nominated

theorem onUseCandidate_points (id : Nat) :
    (system.onUseCandidate id).channel.bestConnection = some id ∨
      (system.onUseCandidate id).channel.pendingBestConnection = some id := by
  unfold onUseCandidate
  split
  · split
    · exact .inl rfl
    · rename_i isBest
      exact .inl (not_not.mp isBest)
  · exact .inr rfl

theorem onUseCandidate_listed (id : Nat) :
    (system.onUseCandidate id).channel.connections = system.channel.connections := by
  unfold onUseCandidate
  split
  · split <;> rfl
  · rfl

theorem not_listed_of_not_keepsPointers (stepped : step env system event = some after)
    (loses : ¬KeepsPointers env system event) :
    ¬after.Listed := by
  rcases event with ⟨now, event⟩
  cases event with
  | reset kept =>
    cases stepped
    intro listed
    apply loses
    change system.channel.pendingBestConnection = none
    cases isPending : system.channel.pendingBestConnection with
    | none => rfl
    | some id => exact absurd (listed.pending id isPending) not_mem_nil
  | connectionPacket id packet =>
    simp only [step, bind_eq_bind, bind_eq_some_iff, Option.pure_def, Option.some.injEq] at stepped
    rcases stepped with ⟨connection, found, rfl⟩
    have sameId : connection.id = id := by simpa using List.find?_some found
    intro listed
    apply loses
    intro other isOther nominated
    rw [found] at isOther
    cases isOther
    rcases connectionReadPacket_of_nominates nominated now with ⟨restarted, moves, same⟩
    rw [same] at listed
    rw [← sameId]
    apply listed_of_moves_back (fun _ _ absurdity => absurdity) moves
    rw [← onUseCandidate_listed connection.id]
    have points : (restarted.onUseCandidate connection.id).channel.bestConnection =
          some connection.id ∨
        (restarted.onUseCandidate connection.id).channel.pendingBestConnection =
          some connection.id :=
      onUseCandidate_points connection.id
    rcases points with isBest | isPending
    · exact listed.best connection.id isBest
    · exact listed.pending connection.id isPending
  | _ => exact absurd trivial loses

end

/-! ## Runs -/

theorem listed_create (component : Nat) (protocolType : IceProtocolType) :
    (create component protocolType).Listed :=
  ⟨(fun _ absent => nomatch absent), fun _ absent => nomatch absent⟩

theorem flagged_create (component : Nat) (protocolType : IceProtocolType) :
    (create component protocolType).Flagged :=
  ⟨(fun absurdity => nomatch absurdity), fun _ absent => absurd absent not_mem_nil⟩

/-- In a run the invariant holds in all states exactly if every event keeps the pointers on the
list. -/
theorem channelInvariant_iff_keepsPointers (env : IceEnv) (component : Nat)
    (protocolType : IceProtocolType) {events : List (UInt32 × ChannelEvent)}
    {last : ChannelSystem}
    (run : Run.reached (step env) (create component protocolType) events = some last) :
    (∀ count middle,
        Run.reached (step env) (create component protocolType) (events.take count) = some middle →
          ChannelInvariant middle) ↔
      Run.Permitted (step env) (KeepsPointers env) (create component protocolType) events := by
  have steps (system : ChannelSystem) (event : UInt32 × ChannelEvent) (next : ChannelSystem)
      (flagged : system.Flagged) (stepped : step env system event = some next) :
      next.Flagged ∧ (ChannelInvariant system →
        (ChannelInvariant next ↔ KeepsPointers env system event)) := by
    have nextFlagged := flagged.step stepped
    refine ⟨nextFlagged, fun invariant => ⟨fun good => ?_, fun keeps => ?_⟩⟩
    · by_contra loses
      exact not_listed_of_not_keepsPointers stepped loses good.listed
    · exact ⟨invariant.listed.step stepped keeps, nextFlagged.sorts⟩
  have flagged := flagged_create component protocolType
  exact Run.good_iff_permitted_of_reached (step env) steps flagged
    ⟨listed_create component protocolType, flagged.sorts⟩ run

theorem channelInvariant_iff_keepsPointers_connectedRun :
    connectedSystem.channel.bestConnection = some 0 ∧ ((∀ count middle,
          Run.reached (step sampleEnv) (create 1 .rfc5245) (connectedRun.take count) =
            some middle → ChannelInvariant middle) ↔
        Run.Permitted (step sampleEnv) (KeepsPointers sampleEnv) (create 1 .rfc5245)
          connectedRun) :=
  ⟨by decide +kernel, channelInvariant_iff_keepsPointers sampleEnv 1 .rfc5245
    (by decide +kernel : Run.reached (step sampleEnv) (create 1 .rfc5245) connectedRun =
      some connectedSystem)⟩

/-- A connection is nominated before it is writable, and then the channel is reset. -/
def nominatedRun : List (UInt32 × ChannelEvent) :=
  [(1, .setIceRole .controlled), (2, .portReady samplePort), (3, .candidate sampleCandidate),
    (4, .connectionPacket 0 nominatingRequest), (5, .reset [])]

def nominatedSystem : ChannelSystem :=
  (Run.reached (step sampleEnv) (create 1 .rfc5245) nominatedRun).getD (create 1 .rfc5245)

/-- After the run the pending best connection is one that is gone. -/
theorem not_channelInvariant_nominatedRun :
    ¬∀ (env : IceEnv) (component : Nat) (protocolType : IceProtocolType)
      (events : List (UInt32 × ChannelEvent)) (last : ChannelSystem),
        Run.reached (step env) (create component protocolType) events = some last →
          ChannelInvariant last := by
  intro always
  have run : Run.reached (step sampleEnv) (create 1 .rfc5245) nominatedRun =
      some nominatedSystem := by decide +kernel
  have isPending : nominatedSystem.channel.pendingBestConnection = some 0 := by decide +kernel
  have noConnections : nominatedSystem.channel.connections = [] := by decide +kernel
  have listed := (always _ _ _ _ _ run).listed.pending 0 isPending
  rw [noConnections] at listed
  exact not_mem_nil listed

end ChannelSystem

end ZyWebRtc.Ice
