import ZyWebRtc.Ice.Liveness

namespace ZyWebRtc.Ice

/-! What the events of its life do to the states and the pings of a connection. -/

open Stun StunMessage

/-! ## States and postings -/

namespace Connection

variable {connection : Connection} {now : UInt32}

/-- What `CheckTimeout` asks of the two states. -/
def useless (readState : ReadState) (writeState : WriteState) : Bool :=
  readState ≠ .readable ∧ writeState = .writeTimeout

theorem isUseless_eq :
    connection.isUseless = useless connection.readState connection.writeState := by
  rw [isUseless, useless]
  cases connection.readState <;> cases connection.writeState <;> rfl

theorem checkTimeout_eq : connection.checkTimeout = { connection with
      deletePosted :=
        connection.deletePosted || useless connection.readState connection.writeState } := by
  rw [checkTimeout, isUseless_eq]
  split
  · rename_i isUseless
    rw [isUseless, Bool.or_true]
  · rename_i isUseful
    rw [Bool.eq_false_of_not_eq_true isUseful, Bool.or_false]

theorem setReadState_eq (value : ReadState) : connection.setReadState value = { connection with
      readState := value
      deletePosted := connection.deletePosted ||
        (connection.readState ≠ value && useless value connection.writeState) } := by
  rw [setReadState]
  split
  · rename_i same
    cases same
    simp
  · rename_i changed
    rw [checkTimeout_eq]
    simp [changed]

theorem setWriteState_eq (value : WriteState) : connection.setWriteState value = { connection with
      writeState := value
      deletePosted := connection.deletePosted ||
        (connection.writeState ≠ value && useless connection.readState value) } := by
  rw [setWriteState]
  split
  · rename_i same
    cases same
    simp
  · rename_i changed
    rw [checkTimeout_eq]
    simp [changed]

/-- A message is posted only with a change of a state that makes the connection useless. -/
structure PostsRightly (before after : Connection) : Prop where
  still : after.readState = before.readState → after.writeState = before.writeState →
    after.deletePosted = before.deletePosted
  posted : after.deletePosted → before.deletePosted ∨ after.isUseless

/-- The states and the posted message are as before. -/
structure SameStates (before after : Connection) : Prop where
  readState : after.readState = before.readState
  writeState : after.writeState = before.writeState
  deletePosted : after.deletePosted = before.deletePosted

/-- The connection is of use, and no message is posted. -/
structure Revives (before after : Connection) : Prop where
  useful : after.isUseless = false
  deletePosted : after.deletePosted = before.deletePosted

variable {before middle after : Connection}

theorem SameStates.postsRightly (same : SameStates before after) : PostsRightly before after :=
  ⟨fun _ _ => same.deletePosted, fun posted => .inl (same.deletePosted ▸ posted)⟩

theorem SameStates.isUseless (same : SameStates before after) :
    after.isUseless = before.isUseless := by
  rw [isUseless_eq, isUseless_eq, same.readState, same.writeState]

theorem Revives.same (revives : Revives before middle) (same : SameStates middle after) :
    Revives before after :=
  ⟨same.isUseless.trans revives.useful, same.deletePosted.trans revives.deletePosted⟩

theorem postsRightly_setWriteState (value : WriteState) :
    PostsRightly connection (connection.setWriteState value) := by
  rw [setWriteState_eq]
  constructor
  · intro _ same
    simp [show connection.writeState = value from same.symm]
  · intro posted
    rw [isUseless_eq]
    simp only [Bool.or_eq_true, Bool.and_eq_true] at posted
    exact posted.imp_right And.right

theorem SameStates.thenSet (same : SameStates before middle) (value : WriteState) :
    PostsRightly before (middle.setWriteState value) := by
  have posts := @postsRightly_setWriteState middle value
  rw [setWriteState_eq] at posts ⊢
  refine ⟨fun sameRead sameWrite => ?_, fun posted => ?_⟩
  · rw [posts.still rfl (sameWrite.trans same.writeState.symm), same.deletePosted]
  · rw [← same.deletePosted]
    exact posts.posted posted

/-! ## What the events do -/

theorem sameStates_ping (useCandidate : Bool) (port : Port) (localPriority : UInt32)
    (transactionId : Bytes) :
    SameStates connection
      ({ connection with useCandidateAttr := useCandidate }.ping port localPriority now
        transactionId) :=
  ⟨rfl, rfl, rfl⟩

theorem sameStates_onRequestMessage (transactionId : Bytes) :
    SameStates connection (connection.onRequestMessage transactionId now) := by
  rw [onRequestMessage]
  split
  · split <;> exact ⟨rfl, rfl, rfl⟩
  · exact ⟨rfl, rfl, rfl⟩

theorem revives_receivedPing : Revives connection (connection.receivedPing now) := by
  rw [receivedPing, setReadState_eq]
  constructor
  · rw [isUseless_eq]
    rfl
  · simp [useless]

theorem revives_restartTimedOut (useful : connection.isUseless = false) :
    Revives connection connection.restartTimedOut := by
  rw [restartTimedOut]
  split
  · rw [setWriteState_eq]
    constructor
    · rw [isUseless_eq]
      simp [useless]
    · simp [useless]
  · exact ⟨useful, rfl⟩

theorem Revives.trans (first : Revives before middle) (second : Revives middle after) :
    Revives before after :=
  ⟨second.useful, second.deletePosted.trans first.deletePosted⟩

theorem revives_onBindingRequest : Revives connection (connection.onBindingRequest now) :=
  revives_receivedPing.trans (revives_restartTimedOut revives_receivedPing.useful)

theorem revives_setWritable : Revives connection (connection.setWriteState .writable) := by
  rw [setWriteState_eq]
  constructor
  · rw [isUseless_eq]
    simp [useless]
  · simp [useless]

theorem revives_recordSuccess : Revives connection (connection.recordSuccess now) := by
  have written : Revives connection (connection.setWriteState .writable).succeed :=
    revives_setWritable.same ⟨rfl, rfl, rfl⟩
  rw [recordSuccess]
  split
  · exact written.trans revives_receivedPing
  · exact written

theorem revives_onResponse {transactionId : Bytes}
    (answers : (connection.findRequest transactionId).isSome) :
    Revives connection (connection.onResponse transactionId now) := by
  rw [onResponse]
  split
  · have revives := @revives_recordSuccess connection now
    exact ⟨revives.useful, revives.deletePosted⟩
  · rename_i missing
    rw [missing] at answers
    cases answers

theorem onResponse_unanswered {transactionId : Bytes}
    (unanswered : (connection.findRequest transactionId).isSome = false) :
    connection.onResponse transactionId now = connection := by
  rw [onResponse]
  split
  · rename_i found
    rw [found] at unanswered
    cases unanswered
  · rfl

/-- What is not heard leaves a useless connection useless. -/
structure Silent (before after : Connection) : Prop extends PostsRightly before after where
  useless : before.isUseless → after.isUseless

theorem SameStates.silent (same : SameStates before after) : Silent before after :=
  ⟨same.postsRightly, fun useless => same.isUseless.trans useless⟩

theorem SameStates.timesOut (same : SameStates before middle) :
    Silent before (middle.setWriteState .writeTimeout) := by
  refine ⟨same.thenSet .writeTimeout, fun isUseless => ?_⟩
  rw [← same.isUseless, isUseless_eq] at isUseless
  rw [setWriteState_eq, isUseless_eq]
  simp only [Connection.useless, decide_eq_true_eq] at isUseless ⊢
  exact ⟨isUseless.1, trivial⟩

theorem silent_onErrorResponse (transactionId : Bytes) (errorCode : Nat) :
    Silent connection (connection.onErrorResponse transactionId errorCode) := by
  have silent : Silent connection (connection.onConnectionRequestErrorResponse errorCode) := by
    rw [onConnectionRequestErrorResponse]
    split
    · exact SameStates.silent ⟨rfl, rfl, rfl⟩
    · exact SameStates.timesOut ⟨rfl, rfl, rfl⟩
  rw [onErrorResponse]
  split
  · exact ⟨⟨silent.still, silent.posted⟩, silent.useless⟩
  · exact SameStates.silent ⟨rfl, rfl, rfl⟩

theorem silent_onData : Silent connection (connection.onData now) := by
  rw [onData]
  split
  · rename_i readable
    have useful : connection.isUseless = false := by
      rw [isUseless_eq, useless,
        show connection.readState = .readable by simpa [Connection.readable] using readable]
      rfl
    have revives := @revives_restartTimedOut { connection with lastDataReceived := now } useful
    have same : SameStates connection { connection with lastDataReceived := now } := ⟨rfl, rfl, rfl⟩
    refine ⟨⟨fun _ _ => revives.deletePosted, fun posted => .inl (revives.deletePosted ▸ posted)⟩,
      fun isUseless => ?_⟩
    rw [useful] at isUseless
    cases isUseless
  · exact SameStates.silent ⟨rfl, rfl, rfl⟩

theorem silent_prune : Silent connection connection.prune := by
  rw [prune]
  split
  · exact SameStates.silent ⟨rfl, rfl, rfl⟩
  · exact SameStates.timesOut ⟨rfl, rfl, rfl⟩

/-! ## Decline -/

def readDecline : ReadState → Nat
  | .readable => 0
  | .readInit => 1
  | .readTimeout => 2

/-- How far the states have declined. -/
def decline (connection : Connection) : Nat :=
  connection.writeState.value + readDecline connection.readState

/-- The states only decline, and a message is posted where they make the connection useless. -/
structure Declines (before after : Connection) : Prop where
  posted : after.deletePosted → before.deletePosted ∨ after.isUseless
  useless : before.isUseless → after.isUseless
  stays : after = before ∨ before.decline < after.decline

theorem Declines.trans (first : Declines before middle) (second : Declines middle after) :
    Declines before after where
  posted posted := by
    rcases second.posted posted with earlier | useless
    · exact (first.posted earlier).imp_right second.useless
    · exact .inr useless
  useless useless := second.useless (first.useless useless)
  stays := by
    rcases first.stays with same | further
    · cases same
      exact second.stays
    · rcases second.stays with same | last
      · cases same
        exact .inr further
      · exact .inr (further.trans last)

theorem declines_refl : Declines connection connection :=
  ⟨.inl, fun useless => useless, .inl rfl⟩

theorem Declines.silent (declines : Declines before after) : Silent before after := by
  refine ⟨⟨fun sameRead sameWrite => ?_, declines.posted⟩, declines.useless⟩
  rcases declines.stays with same | further
  · rw [same]
  · rw [decline, decline, sameRead, sameWrite] at further
    exact absurd further (Nat.lt_irrefl _)

theorem declines_readTimeout : Declines connection (connection.setReadState .readTimeout) := by
  rw [setReadState_eq]
  refine ⟨fun posted => ?_, fun isUseless => ?_, ?_⟩
  · rw [isUseless_eq]
    simp only [Bool.or_eq_true, Bool.and_eq_true] at posted
    exact posted.imp_right And.right
  · rw [isUseless_eq] at isUseless ⊢
    simp only [Connection.useless, decide_eq_true_eq] at isUseless ⊢
    exact ⟨nofun, isUseless.2⟩
  · by_cases same : connection.readState = .readTimeout
    · left
      simp [← same]
    · right
      apply Nat.add_lt_add_left
      change readDecline connection.readState < readDecline .readTimeout
      cases isState : connection.readState with
      | readTimeout => exact absurd isState same
      | readable | readInit => decide

theorem declines_writeTimeout : Declines connection (connection.setWriteState .writeTimeout) := by
  have silent : Silent connection (connection.setWriteState .writeTimeout) :=
    SameStates.timesOut ⟨rfl, rfl, rfl⟩
  refine ⟨silent.posted, silent.useless, ?_⟩
  rw [setWriteState_eq]
  by_cases same : connection.writeState = .writeTimeout
  · left
    simp [← same]
  · right
    apply Nat.add_lt_add_right
    change connection.writeState.value < WriteState.writeTimeout.value
    cases isState : connection.writeState with
    | writeTimeout => exact absurd isState same
    | writable | writeUnreliable | writeInit => decide

theorem declines_writeUnreliable (writable : connection.writeState = .writable) :
    Declines connection (connection.setWriteState .writeUnreliable) := by
  rw [setWriteState_eq]
  refine ⟨fun posted => ?_, fun isUseless => ?_, ?_⟩
  · left
    simpa [Connection.useless] using posted
  · rw [isUseless_eq, writable] at isUseless
    simp [Connection.useless] at isUseless
  · right
    apply Nat.add_lt_add_right
    change connection.writeState.value < WriteState.writeUnreliable.value
    rw [writable]
    decide

theorem declines_updateReadState (isGoogle : Bool) :
    Declines connection (connection.updateReadState isGoogle now) := by
  rw [updateReadState]
  split
  · exact declines_readTimeout
  · exact declines_refl

theorem declines_updateWritable : Declines connection (connection.updateWritable now) := by
  rw [updateWritable]
  split
  · rename_i unreliable
    apply declines_writeUnreliable
    simp only [becomesUnreliable, writable, decide_eq_true_eq] at unreliable
    exact unreliable.1
  · exact declines_refl

theorem declines_updateWriteTimeout :
    Declines connection (connection.updateWriteTimeout now) := by
  rw [updateWriteTimeout]
  split
  · exact declines_writeTimeout
  · exact declines_refl

theorem silent_updateState (isGoogle : Bool) :
    Silent connection (connection.updateState isGoogle now) :=
  ((declines_updateReadState isGoogle).trans
    (declines_updateWritable.trans declines_updateWriteTimeout)).silent

theorem silent_destroy : Silent connection connection.destroy :=
  (declines_readTimeout.trans declines_writeTimeout).silent

theorem act_hears {event : LifeEvent} (hears : connection.hears event)
    (acts : connection.act now event = some after) : Revives connection after := by
  simp only [Connection.hears, decide_eq_true_eq] at hears
  rcases hears with answers | isRequest | isPing
  · cases event with
    | response transactionId =>
      cases acts
      exact revives_onResponse answers
    | _ => cases answers
  · cases isRequest
    cases acts
    exact revives_onBindingRequest
  · cases isPing
    cases acts
    exact revives_receivedPing

theorem act_silent {event : LifeEvent} (silent : connection.hears event = false)
    (acts : connection.act now event = some after) : Silent connection after := by
  simp only [Connection.hears, decide_eq_false_iff_not, not_or] at silent
  rcases silent with ⟨unanswered, notRequest, notPing⟩
  cases event with
  | elapse | connect =>
    cases acts
    exact SameStates.silent ⟨rfl, rfl, rfl⟩
  | ping useCandidate port localPriority transactionId =>
    cases acts
    exact (sameStates_ping useCandidate port localPriority transactionId).silent
  | requestMessage transactionId =>
    cases acts
    exact (sameStates_onRequestMessage transactionId).silent
  | response transactionId =>
    cases acts
    rw [onResponse_unanswered (Bool.eq_false_of_not_eq_true unanswered)]
    exact SameStates.silent ⟨rfl, rfl, rfl⟩
  | errorResponse transactionId errorCode =>
    cases acts
    exact silent_onErrorResponse transactionId errorCode
  | bindingRequest => exact absurd rfl notRequest
  | receivedPing => exact absurd rfl notPing
  | data =>
    cases acts
    exact silent_onData
  | updateState isGoogle =>
    cases acts
    exact silent_updateState isGoogle
  | prune =>
    cases acts
    exact silent_prune
  | destroy =>
    cases acts
    exact silent_destroy
  | close =>
    cases acts
    exact SameStates.timesOut ⟨rfl, rfl, rfl⟩
  | deleteMessage =>
    rw [act] at acts
    split at acts
    · cases acts
    · cases acts
      exact SameStates.silent ⟨rfl, rfl, rfl⟩

/-! ## Pings without a response -/

theorem restartTimedOut_pings :
    connection.restartTimedOut.pingsSinceLastResponse = connection.pingsSinceLastResponse := by
  rw [restartTimedOut]
  split
  · rw [setWriteState_eq]
  · rfl

theorem receivedPing_pings :
    (connection.receivedPing now).pingsSinceLastResponse = connection.pingsSinceLastResponse := by
  rw [receivedPing, setReadState_eq]

theorem onRequestMessage_pings (transactionId : Bytes) :
    (connection.onRequestMessage transactionId now).pingsSinceLastResponse =
      connection.pingsSinceLastResponse := by
  rw [onRequestMessage]
  split
  · split <;> rfl
  · rfl

theorem onErrorResponse_pings (transactionId : Bytes) (errorCode : Nat) :
    (connection.onErrorResponse transactionId errorCode).pingsSinceLastResponse =
      connection.pingsSinceLastResponse := by
  rw [onErrorResponse]
  split
  · rw [removeRequest, onConnectionRequestErrorResponse]
    split
    · rfl
    · rw [setWriteState_eq]
  · rfl

theorem onData_pings :
    (connection.onData now).pingsSinceLastResponse = connection.pingsSinceLastResponse := by
  rw [onData]
  split
  · rw [restartTimedOut_pings]
  · rfl

theorem destroy_pings :
    connection.destroy.pingsSinceLastResponse = connection.pingsSinceLastResponse := by
  rw [destroy, setWriteState_eq, setReadState_eq]

theorem close_pings : connection.close.pingsSinceLastResponse = connection.pingsSinceLastResponse := by
  rw [close, setWriteState_eq]

theorem prune_pings : connection.prune.pingsSinceLastResponse = connection.pingsSinceLastResponse := by
  rw [prune]
  split
  · rfl
  · rw [setWriteState_eq]

theorem updateReadState_keeps (isGoogle : Bool) :
    ∃ readState deletePosted, connection.updateReadState isGoogle now =
      { connection with readState, deletePosted } := by
  rw [updateReadState]
  split
  · rw [setReadState_eq]
    exact ⟨_, _, rfl⟩
  · exact ⟨_, _, rfl⟩

theorem updateState_pings (isGoogle : Bool) :
    (connection.updateState isGoogle now).pingsSinceLastResponse =
      connection.pingsSinceLastResponse := by
  have unreliable (before : Connection) : (before.updateWritable now).pingsSinceLastResponse =
      before.pingsSinceLastResponse := by
    rw [updateWritable]
    split
    · rw [setWriteState_eq]
    · rfl
  have timedOut (before : Connection) : (before.updateWriteTimeout now).pingsSinceLastResponse =
      before.pingsSinceLastResponse := by
    rw [updateWriteTimeout]
    split
    · rw [setWriteState_eq]
    · rfl
  rcases @updateReadState_keeps connection now isGoogle with ⟨readState, deletePosted, read⟩
  rw [updateState, timedOut, unreliable, read]

/-- The pings since the last response, after an event. -/
theorem act_pings {event : LifeEvent} (acts : connection.act now event = some after) :
    after.pingsSinceLastResponse = if connection.answers event then []
      else if event.isPing then connection.pingsSinceLastResponse ++ [now]
      else connection.pingsSinceLastResponse := by
  cases event with
  | response transactionId =>
    cases acts
    split
    · rename_i answers
      rw [onResponse]
      split
      · rfl
      · rename_i missing
        rw [Connection.answers, missing] at answers
        cases answers
    · rename_i unanswered
      rw [onResponse_unanswered (Bool.eq_false_of_not_eq_true unanswered)]
      rfl
  | elapse | connect | ping =>
    cases acts
    rfl
  | requestMessage transactionId =>
    cases acts
    exact onRequestMessage_pings transactionId
  | errorResponse transactionId errorCode =>
    cases acts
    exact onErrorResponse_pings transactionId errorCode
  | bindingRequest =>
    cases acts
    exact restartTimedOut_pings.trans receivedPing_pings
  | receivedPing =>
    cases acts
    exact receivedPing_pings
  | data =>
    cases acts
    exact onData_pings
  | updateState isGoogle =>
    cases acts
    exact updateState_pings isGoogle
  | prune =>
    cases acts
    exact prune_pings
  | destroy =>
    cases acts
    exact destroy_pings
  | close =>
    cases acts
    exact close_pings
  | deleteMessage =>
    rw [act] at acts
    split at acts
    · cases acts
    · cases acts
      rfl

end Connection

end ZyWebRtc.Ice
