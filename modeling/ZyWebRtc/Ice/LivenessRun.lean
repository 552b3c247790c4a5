import ZyWebRtc.Ice.Decline

namespace ZyWebRtc.Ice

/-! In a whole life the writable state is given up in due time, and a connection is deleted when
it is of no more use, exactly if no deadline lies beyond a wrap of the clock and the remote end
stays silent after a deletion is posted. -/

open Option Stun StunMessage WrappingClock

namespace Connection

variable {connection : Connection} {now : UInt32}

theorem updateState_writeState (isGoogle : Bool) :
    (connection.updateState isGoogle now).writeState = if Life.awaitsTimeout connection now ∧
          tooLongWithoutResponse connection.pingsSinceLastResponse CONNECTION_WRITE_TIMEOUT now then
        .writeTimeout
      else if connection.becomesUnreliable now then .writeUnreliable
      else connection.writeState := by
  rcases @updateReadState_keeps connection now isGoogle with ⟨readState, deletePosted, read⟩
  rw [updateState, read, updateWriteTimeout, updateWritable]
  by_cases unreliable : connection.becomesUnreliable now
  · have same : { connection with readState, deletePosted }.becomesUnreliable now = true :=
      unreliable
    rw [if_pos same, if_pos unreliable, setWriteState_eq, setWriteState_eq, writeTimedOut,
      Life.awaitsTimeout]
    simp [unreliable]
    split <;> rfl
  · have same : ¬ { connection with readState, deletePosted }.becomesUnreliable now = true :=
      unreliable
    rw [if_neg same, if_neg unreliable, setWriteState_eq, writeTimedOut, Life.awaitsTimeout]
    simp [unreliable]
    split <;> rfl

end Connection

namespace Life

variable {life : Life}

/-- The history of a life is that of its connection. -/
structure Invariant (life : Life) : Prop where
  pings : ∀ connection ∈ life.connection,
    connection.pingsSinceLastResponse = life.unanswered.map reading
  past : ∀ sent ∈ life.unanswered, sent ≤ life.clock
  responded : ∀ response ∈ life.lastResponse, response ≤ life.clock ∧
    ∀ sent ∈ life.unanswered, response ≤ sent
  silent : ∀ connection ∈ life.connection, connection.isUseless → life.heard = false
  useless : ∀ connection ∈ life.connection, connection.deletePosted → life.heard = false →
    connection.isUseless

theorem invariant_create (id port localCandidateIndex : Nat) (connected : Bool)
    (remoteCandidate : Candidate) (remoteIceMode : IceMode) (clock : Nat) :
    Invariant
      (create id port localCandidateIndex connected remoteCandidate remoteIceMode clock) where
  pings connection isConnection := by
    cases isConnection
    rfl
  past sent isSent := by cases isSent
  responded response isResponse := by cases isResponse
  silent connection isConnection isUseless := rfl
  useless connection isConnection posted := by
    cases isConnection
    cases posted

/-! ## One event -/

section Step

variable {event : LifeEvent} {connection : Connection}
  (isConnection : life.connection = some connection)

include isConnection

theorem step_connection : (life.step event).connection = connection.act life.now event := by
  rw [step, isConnection]

theorem step_clock : life.clock ≤ (life.step event).clock := by
  rw [step, isConnection]
  exact Nat.le_add_right _ _

theorem step_lastResponse : (life.step event).lastResponse =
    if connection.answers event then some life.clock else life.lastResponse := by
  rw [step, isConnection]

theorem step_unanswered : (life.step event).unanswered = if connection.answers event then []
    else if event.isPing then life.unanswered ++ [life.clock]
    else life.unanswered := by
  rw [step, isConnection]

theorem step_heard : (life.step event).heard = ((life.heard || connection.hears event) &&
      !(connection.act life.now event).any connection.posts) := by
  rw [step, isConnection]

theorem mem_step_unanswered {sent : Nat} (isSent : sent ∈ (life.step event).unanswered) :
    connection.answers event = false ∧ (sent ∈ life.unanswered ∨ sent = life.clock) := by
  rw [step_unanswered isConnection] at isSent
  split at isSent
  · cases isSent
  · rename_i unanswered
    refine ⟨Bool.eq_false_of_not_eq_true unanswered, ?_⟩
    split at isSent
    · simpa using isSent
    · exact .inl isSent

end Step

theorem Invariant.step (invariant : Invariant life) (event : LifeEvent) :
    Invariant (life.step event) := by
  cases isConnection : life.connection with
  | none =>
    have same : life.step event = life := by rw [Life.step, isConnection]
    rw [same]
    exact invariant
  | some connection =>
    constructor
    case pings =>
      intro after isAfter
      rw [step_connection isConnection] at isAfter
      rw [Connection.act_pings isAfter, step_unanswered isConnection,
        invariant.pings connection isConnection]
      split
      · rfl
      · split
        · rw [List.map_append]
          rfl
        · rfl
    case past =>
      intro sent isSent
      apply Nat.le_trans _ (step_clock isConnection)
      rcases (mem_step_unanswered isConnection isSent).2 with earlier | isNow
      · exact invariant.past sent earlier
      · exact Nat.le_of_eq isNow
    case responded =>
      intro response isResponse
      rw [step_lastResponse isConnection] at isResponse
      split at isResponse
      · rename_i answers
        cases isResponse
        refine ⟨step_clock isConnection, fun sent isSent => ?_⟩
        rw [(mem_step_unanswered isConnection isSent).1] at answers
        cases answers
      · have responded := invariant.responded response isResponse
        refine ⟨responded.1.trans (step_clock isConnection), fun sent isSent => ?_⟩
        rcases (mem_step_unanswered isConnection isSent).2 with earlier | isNow
        · exact responded.2 sent earlier
        · exact isNow ▸ responded.1
    case silent =>
      intro after isAfter isUseless
      rw [step_connection isConnection] at isAfter
      rw [step_heard isConnection, isAfter, any_some]
      by_cases posted : connection.posts after
      · simp [posted]
      · have silent : connection.hears event = false := by
          by_contra heard
          have revives := Connection.act_hears (Bool.eq_true_of_not_eq_false heard) isAfter
          rw [revives.useful] at isUseless
          cases isUseless
        have same : connection.isUseless := by
          simp only [Connection.posts, isUseless, true_and, not_or, not_not,
            decide_eq_true_eq] at posted
          rw [Connection.isUseless_eq, ← posted.1, ← posted.2, ← Connection.isUseless_eq]
          exact isUseless
        rw [invariant.silent connection isConnection same, silent]
        rfl
    case useless =>
      intro after isAfter deletePosted unheard
      rw [step_connection isConnection] at isAfter
      rw [step_heard isConnection, isAfter, any_some] at unheard
      by_cases posted : connection.posts after
      · simp only [Connection.posts, decide_eq_true_eq] at posted
        exact posted.1
      · rw [Bool.eq_false_of_not_eq_true posted, Bool.not_false, Bool.and_true,
          Bool.or_eq_false_iff] at unheard
        have silent := Connection.act_silent unheard.2 isAfter
        rcases silent.posted deletePosted with earlier | useless
        · exact silent.useless (invariant.useless connection isConnection earlier unheard.1)
        · exact useless

variable {timeout : UInt32}

theorem tooLong_iff :
    tooLongWithoutResponse (life.unanswered.map reading) timeout life.now = true ↔
      ∃ sent ∈ life.unanswered.head?, reading sent + timeout < life.now := by
  rw [tooLongWithoutResponse, List.head?_map]
  cases life.unanswered.head? with
  | none => simp
  | some sent => simp

theorem waited_of_tooLong (near : life.Near timeout)
    (tooLong : tooLongWithoutResponse (life.unanswered.map reading) timeout life.now) :
    life.Waited timeout := by
  rcases tooLong_iff.mp tooLong with ⟨sent, isFirst, passed⟩
  exact ⟨sent, isFirst, Nat.le_of_lt (passed_of_reading (near sent isFirst) passed)⟩

theorem near_of_waited (waited : life.Waited timeout) : life.Near timeout := by
  rcases waited with ⟨sent, isFirst, passed⟩
  intro other isOther
  cases isFirst.symm.trans isOther
  exact Nat.div_le_div_right passed

theorem tooLong_of_not_near (invariant : Invariant life)
    (short : timeout.toNat ≤ 2147483648) (beyond : ¬ life.Near timeout) :
    tooLongWithoutResponse (life.unanswered.map reading) timeout life.now := by
  simp only [Near, not_forall, Nat.not_le] at beyond
  rcases beyond with ⟨sent, isFirst, wrapped⟩
  have past := invariant.past sent (List.mem_of_mem_head? isFirst)
  exact tooLong_iff.mpr ⟨sent, isFirst, reading_of_wraps past short wrapped⟩

theorem Waited.unanswered (invariant : Invariant life)
    (waited : life.Waited timeout) : life.Unanswered timeout := by
  rcases waited with ⟨sent, isFirst, passed⟩
  intro response isResponse
  have earlier := (invariant.responded response isResponse).2 sent (List.mem_of_mem_head? isFirst)
  omega

theorem length_of_tooManyFailures {pings : List UInt32} {failures : Nat} {rttEstimate now : UInt32}
    (failed : tooManyFailures pings (failures + 1) rttEstimate now) :
    failures + 1 ≤ pings.length := by
  rw [tooManyFailures, Nat.add_sub_cancel] at failed
  split at failed
  · rename_i sent isPing
    exact (List.getElem?_eq_some_iff.mp isPing).1
  · cases failed

/-! ## Giving up in time -/

section Update

variable {connection : Connection} {isGoogle : Bool}

theorem becomesUnreliable_iff : connection.becomesUnreliable life.now ↔
    hasFailures connection life.now ∧
      tooLongWithoutResponse connection.pingsSinceLastResponse CONNECTION_WRITE_CONNECT_TIMEOUT
        life.now := by
  simp only [Connection.becomesUnreliable, hasFailures, decide_eq_true_eq, and_assoc]

theorem writable_of_hasFailures (failed : hasFailures connection life.now) :
    connection.writeState = .writable := by
  simp only [hasFailures, Connection.writable, decide_eq_true_eq] at failed
  exact failed.1

theorem leaves_iff (isWritable : connection.writeState = .writable) :
    (connection.updateState isGoogle life.now).writable = false ↔
      connection.becomesUnreliable life.now := by
  rw [Connection.writable, Connection.updateState_writeState, awaitsTimeout]
  by_cases unreliable : connection.becomesUnreliable life.now
  · simp only [isWritable, unreliable]
    split <;> simp
  · simp [isWritable, unreliable]

theorem timesOut_iff (notTimedOut : connection.writeState ≠ .writeTimeout) :
    (connection.updateState isGoogle life.now).writeState = .writeTimeout ↔
      awaitsTimeout connection life.now ∧
        tooLongWithoutResponse connection.pingsSinceLastResponse CONNECTION_WRITE_TIMEOUT
          life.now := by
  rw [Connection.updateState_writeState]
  split
  · rename_i timesOut
    exact ⟨fun _ => timesOut, fun _ => rfl⟩
  · rename_i waits
    refine ⟨fun timedOut => ?_, fun timesOut => absurd timesOut waits⟩
    split at timedOut
    · cases timedOut
    · exact absurd timedOut notTimedOut

theorem ne_timeout_of_awaits (awaits : awaitsTimeout connection life.now) :
    connection.writeState ≠ .writeTimeout := by
  simp only [awaitsTimeout, decide_eq_true_eq] at awaits
  rcases awaits with unreliable | initial | becomes
  · rw [unreliable]
    nofun
  · rw [initial]
    nofun
  · rw [writable_of_hasFailures (becomesUnreliable_iff.mp becomes).1]
    nofun

end Update

section Event

variable {connection : Connection} {event : LifeEvent}

variable (isConnection : life.connection = some connection)

include isConnection

theorem isWritable_iff : life.isWritable ↔ connection.writeState = .writable := by
  rw [isWritable, isConnection, any_some, Connection.writable, decide_eq_true_eq]

theorem isTimedOut_iff : life.isTimedOut ↔ connection.writeState = .writeTimeout := by
  rw [isTimedOut, isConnection, any_some, decide_eq_true_eq]

theorem step_updateState (isGoogle : Bool) :
    (life.step (.updateState isGoogle)).connection =
      some (connection.updateState isGoogle life.now) :=
  step_connection isConnection

theorem deleted_iff : (life.step event).connection = none ↔
      event = .deleteMessage ∧ connection.deletePosted = true := by
  rw [step_connection isConnection]
  cases event with
  | deleteMessage =>
    rw [Connection.act]
    split
    · rename_i posted
      exact ⟨fun _ => ⟨rfl, posted⟩, fun _ => rfl⟩
    · rename_i unposted
      constructor
      · rintro ⟨⟩
      · exact fun posted => absurd posted.2 unposted
  | _ =>
    constructor
    · rintro ⟨⟩
    · rintro ⟨⟨⟩, -⟩

end Event

theorem KeepsTime.inTime {event : LifeEvent} (invariant : Invariant life)
    (keeps : life.KeepsTime event) : life.InTime event := by
  constructor
  case unreliable =>
    rintro isGoogle rfl connection isConnection failed
    by_contra beyond
    have tooLong := tooLong_of_not_near invariant (by decide) beyond
    rw [← invariant.pings connection isConnection] at tooLong
    have isWritable := writable_of_hasFailures failed
    have waited := keeps.unreliable isGoogle rfl ((isWritable_iff isConnection).mpr isWritable)
      (by
        rw [Life.isWritable, step_updateState isConnection, any_some]
        exact (leaves_iff isWritable).mpr (becomesUnreliable_iff.mpr ⟨failed, tooLong⟩))
    exact beyond (near_of_waited waited.2)
  case timesOut =>
    rintro isGoogle rfl connection isConnection awaits
    by_contra beyond
    have tooLong := tooLong_of_not_near invariant (by decide) beyond
    rw [← invariant.pings connection isConnection] at tooLong
    have notTimedOut := ne_timeout_of_awaits awaits
    have waited := keeps.timesOut isGoogle rfl
      (Bool.eq_false_of_not_eq_true fun timedOut =>
        notTimedOut ((isTimedOut_iff isConnection).mp timedOut))
      ((isTimedOut_iff (step_updateState isConnection isGoogle)).mpr
        ((timesOut_iff notTimedOut).mpr ⟨awaits, tooLong⟩))
    exact beyond (near_of_waited waited.1)
  case silent =>
    rintro rfl connection isConnection posted
    have useless := keeps.deleted connection isConnection
      ((deleted_iff isConnection).mpr ⟨rfl, posted⟩)
    apply invariant.silent connection isConnection
    have unreadable : connection.readState ≠ .readable := by
      simpa [Connection.readable] using useless.2
    rw [Connection.isUseless_eq, Connection.useless, decide_eq_true_eq]
    exact ⟨unreadable, useless.1⟩

theorem InTime.keepsTime {event : LifeEvent} (invariant : Invariant life)
    (inTime : life.InTime event) : life.KeepsTime event := by
  constructor
  case unreliable =>
    rintro isGoogle rfl isWritable left
    cases isConnection : life.connection with
    | none =>
      rw [Life.isWritable, isConnection] at isWritable
      cases isWritable
    | some connection =>
      rw [Life.isWritable, step_updateState isConnection, any_some,
        leaves_iff ((isWritable_iff isConnection).mp isWritable), becomesUnreliable_iff] at left
      rcases left with ⟨failed, tooLong⟩
      have near := inTime.unreliable isGoogle rfl connection isConnection failed
      simp only [hasFailures, decide_eq_true_eq] at failed
      rw [invariant.pings connection isConnection] at failed tooLong
      refine ⟨?_, waited_of_tooLong near tooLong⟩
      have enough := length_of_tooManyFailures failed.2
      rwa [List.length_map] at enough
  case timesOut =>
    rintro isGoogle rfl notTimedOut timedOut
    cases isConnection : life.connection with
    | none =>
      rw [Life.step, isConnection, notTimedOut] at timedOut
      cases timedOut
    | some connection =>
      have ended := (isTimedOut_iff (step_updateState isConnection isGoogle)).mp timedOut
      rw [timesOut_iff fun earlier => by
        rw [(isTimedOut_iff isConnection).mpr earlier] at notTimedOut
        cases notTimedOut] at ended
      rcases ended with ⟨awaits, tooLong⟩
      have near := inTime.timesOut isGoogle rfl connection isConnection awaits
      rw [invariant.pings connection isConnection] at tooLong
      have waited := waited_of_tooLong near tooLong
      exact ⟨waited, waited.unanswered invariant⟩
  case deleted =>
    intro connection isConnection deleted
    rcases (deleted_iff isConnection).mp deleted with ⟨rfl, posted⟩
    have useless := invariant.useless connection isConnection posted
      (inTime.silent rfl connection isConnection posted)
    rw [Connection.isUseless_eq, Connection.useless, decide_eq_true_eq] at useless
    refine ⟨useless.2, ?_⟩
    simpa [Connection.readable] using useless.1

/-- In a whole life the connection is given up and deleted in time exactly if at every
`UpdateState` the deadlines are near, and at every deletion the remote end was silent. -/
theorem keepsTime_iff_inTime (id port localCandidateIndex : Nat) (connected : Bool)
    (remoteCandidate : Candidate) (remoteIceMode : IceMode) (clock : Nat)
    (events : List LifeEvent) :
    Run.Allowed step KeepsTime
        (create id port localCandidateIndex connected remoteCandidate remoteIceMode clock) events ↔
      Run.Allowed step InTime
        (create id port localCandidateIndex connected remoteCandidate remoteIceMode clock)
        events := by
  have created := invariant_create id port localCandidateIndex connected remoteCandidate
    remoteIceMode clock
  constructor
  · apply Run.allowed_of_invariant step (fun _ event invariant _ => invariant.step event) _ created
    exact fun _ _ invariant => KeepsTime.inTime invariant
  · apply Run.allowed_of_invariant step (fun _ event invariant _ => invariant.step event) _ created
    exact fun _ _ invariant => InTime.keepsTime invariant

def sampleLife (clock : Nat) : Life := create 0 0 0 true ChannelSystem.sampleCandidate .full clock

def sampleTransactionId : Bytes := [1, 2, 3, 4, 5, 6, 7, 8, 9, 10, 11, 12]

/-- A ping ten seconds before the clock wraps, and a look at the state at once. -/
def pingedBeforeWrap : List LifeEvent :=
  [.ping false ChannelSystem.samplePort 0 sampleTransactionId, .updateState false]

/-- A response that comes after the connection has timed out, before it is deleted. -/
def answeredAfterTimeout : List LifeEvent :=
  [.ping false ChannelSystem.samplePort 0 sampleTransactionId,
    .requestMessage sampleTransactionId, .elapse 15001, .updateState false,
    .response sampleTransactionId, .deleteMessage]

/-- The first connection times out at once, and the second one is deleted when it is writable. -/
theorem not_keepsTime_wrapsOrAnswers :
    ¬ Run.Allowed step KeepsTime (sampleLife 4294957296) pingedBeforeWrap ∧
      ¬ Run.Allowed step KeepsTime (sampleLife 0) answeredAfterTimeout := by
  constructor
  · rintro ⟨-, update, -⟩
    rcases (update.timesOut false rfl (by decide +kernel) (by decide +kernel)).1 with
      ⟨sent, isFirst, passed⟩
    cases isFirst
    exact absurd passed (by decide +kernel)
  · rintro ⟨-, -, -, -, -, delete, -⟩
    have deleted := delete.deleted _ rfl (by decide +kernel)
    exact absurd deleted.1 (by decide +kernel)

end Life

end ZyWebRtc.Ice
