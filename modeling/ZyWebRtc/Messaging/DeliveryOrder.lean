import ZyWebRtc.Messaging.Session

namespace ZyWebRtc.Messaging

/-! Messages are returned once, in order and in time, as long as no wrap of the clock is between the
times of delayed messages that wait together. -/

open List Option PriorityQueue Bool

variable {Handler Data : Type}

namespace Message

theorem order_lt_iff (first second : Message Handler (Data × Posting)) :
    first.order < second.order ↔ first.trigger < second.trigger ∨
      first.trigger = second.trigger ∧ first.number < second.number :=
  Prod.Lex.toLex_lt_toLex

theorem number_eq_of_order_eq {first second : Message Handler (Data × Posting)}
    (same : first.order = second.order) : first.number = second.number :=
  congrArg (fun order => (ofLex order).2) same

theorem trigger_le_of_order_le {first second : Message Handler (Data × Posting)}
    (ordered : first.order ≤ second.order) : first.trigger ≤ second.trigger := by
  rcases Prod.Lex.toLex_le_toLex.mp ordered with before | same
  · exact before.le
  · exact same.1.le

end Message

/-! ## The priority queue -/

/-- The delayed messages, whose times are between two wraps of the clock. -/
structure DelayedInOrder (dmsgq : List (DelayedMessage Handler (Data × Posting)))
    (dmsgqNextNum : UInt32) : Prop where
  isDelayed : ∀ delayed ∈ dmsgq, delayed.msg.isDelayed = true
  msTrigger : ∀ delayed ∈ dmsgq, delayed.msTrigger = UInt32.ofInt delayed.msg.trigger
  sameEra : ∀ first ∈ dmsgq, ∀ second ∈ dmsgq,
    first.msg.trigger / 4294967296 = second.msg.trigger / 4294967296
  nums : ∀ first ∈ dmsgq, ∀ second ∈ dmsgq,
    first.num < second.num ↔ first.msg.number < second.msg.number
  numsUsed : ∀ delayed ∈ dmsgq, delayed.num < dmsgqNextNum

namespace DelayedInOrder

variable {dmsgq : List (DelayedMessage Handler (Data × Posting))} {dmsgqNextNum : UInt32}

variable (inOrder : DelayedInOrder dmsgq dmsgqNextNum)

include inOrder

theorem subset {fewer : List (DelayedMessage Handler (Data × Posting))} (subset : fewer ⊆ dmsgq) :
    DelayedInOrder fewer dmsgqNextNum where
  isDelayed := fun delayed member => inOrder.isDelayed delayed (subset member)
  msTrigger := fun delayed member => inOrder.msTrigger delayed (subset member)
  sameEra := fun first firstMember second secondMember =>
    inOrder.sameEra first (subset firstMember) second (subset secondMember)
  nums := fun first firstMember second secondMember =>
    inOrder.nums first (subset firstMember) second (subset secondMember)
  numsUsed := fun delayed member => inOrder.numsUsed delayed (subset member)

theorem follows :
    PriorityQueue.Follows DelayedMessage.less (fun delayed => delayed.msg.order) dmsgq := by
  intro first firstMember second secondMember
  have sameEra := inOrder.sameEra second secondMember first firstMember
  change _ ↔ second.msg.order < first.msg.order
  rw [Message.order_lt_iff, DelayedMessage.less, or_eq_true, and_eq_true, decide_eq_true_eq,
    decide_eq_true_eq, decide_eq_true_eq, inOrder.msTrigger first firstMember,
    inOrder.msTrigger second secondMember,
    ofInt_lt_ofInt sameEra, ofInt_eq_ofInt sameEra, inOrder.nums second secondMember first firstMember]

theorem push {delayed : DelayedMessage Handler (Data × Posting)}
    (isDelayed : delayed.msg.isDelayed = true)
    (msTrigger : delayed.msTrigger = UInt32.ofInt delayed.msg.trigger)
    (num : delayed.num = dmsgqNextNum) (more : dmsgqNextNum + 1 ≠ 0)
    (sameEra : ∀ other ∈ dmsgq, other.msg.trigger / 4294967296 = delayed.msg.trigger / 4294967296)
    (newest : ∀ other ∈ dmsgq, other.msg.number < delayed.msg.number) :
    DelayedInOrder (delayed :: dmsgq) (dmsgqNextNum + 1) := by
  have nextNum : (dmsgqNextNum + 1).toNat = dmsgqNextNum.toNat + 1 := by
    have bound := dmsgqNextNum.toNat_lt
    have notZero : (dmsgqNextNum + 1).toNat ≠ 0 := fun zero => more (UInt32.toNat_inj.mp zero)
    rw [UInt32.toNat_add, show (1 : UInt32).toNat = 1 from rfl] at notZero ⊢
    omega
  refine ⟨?_, ?_, ?_, ?_, ?_⟩
  · exact forall_mem_cons.mpr ⟨isDelayed, inOrder.isDelayed⟩
  · exact forall_mem_cons.mpr ⟨msTrigger, inOrder.msTrigger⟩
  · intro first firstMember second secondMember
    rcases mem_cons.mp firstMember with rfl | firstOld
    · rcases mem_cons.mp secondMember with rfl | secondOld
      · rfl
      · exact (sameEra second secondOld).symm
    · rcases mem_cons.mp secondMember with rfl | secondOld
      · exact sameEra first firstOld
      · exact inOrder.sameEra first firstOld second secondOld
  · intro first firstMember second secondMember
    rcases mem_cons.mp firstMember with rfl | firstOld
    · rcases mem_cons.mp secondMember with rfl | secondOld
      · exact iff_of_false (UInt32.lt_irrefl _) (Nat.lt_irrefl _)
      · rw [num]
        exact iff_of_false (UInt32.lt_asymm (inOrder.numsUsed second secondOld))
          (newest second secondOld).asymm
    · rcases mem_cons.mp secondMember with rfl | secondOld
      · rw [num]
        exact iff_of_true (inOrder.numsUsed first firstOld) (newest first firstOld)
      · exact inOrder.nums first firstOld second secondOld
  · refine forall_mem_cons.mpr ⟨?_, fun other member => ?_⟩
    · rw [num, UInt32.lt_iff_toNat_lt]
      omega
    · have used := inOrder.numsUsed other member
      rw [UInt32.lt_iff_toNat_lt] at used ⊢
      omega

theorem popped {msCurrent : Int}
    (window : ∀ delayed ∈ dmsgq, InWindow msCurrent delayed.msg.trigger) :
    PriorityQueue.Popped (fun delayed : DelayedMessage Handler (Data × Posting) => delayed.msg.order)
      (fun delayed => !timeIsLater (UInt32.ofInt msCurrent) delayed.msTrigger) dmsgq
      (popWhile DelayedMessage.less
        (fun delayed => !timeIsLater (UInt32.ofInt msCurrent) delayed.msTrigger) dmsgq.length dmsgq).1
      (popWhile DelayedMessage.less
        (fun delayed => !timeIsLater (UInt32.ofInt msCurrent) delayed.msTrigger) dmsgq.length
        dmsgq).2 := by
  apply popWhile_popped inOrder.follows
  · intro first firstMember second secondMember before due
    rw [inOrder.msTrigger second secondMember, not_eq_true', eq_false_iff, ne_eq,
      timeIsLater_ofInt (window second secondMember)] at due
    rw [inOrder.msTrigger first firstMember, not_eq_true', eq_false_iff, ne_eq,
      timeIsLater_ofInt (window first firstMember)]
    have ordered := Message.trigger_le_of_order_le before
    omega
  · exact Nat.le_refl _

end DelayedInOrder

/-- Messages in the order that they are returned in. -/
structure LineInOrder (time : Int) (line : List (Message Handler (Data × Posting))) : Prop where
  posting : (line.filter fun message => !message.isDelayed).Pairwise
    fun first second => first.number < second.number
  trigger : (line.filter Message.isDelayed).Pairwise fun first second => first.order < second.order
  notEarly : ∀ message ∈ line, message.isDelayed = true → message.trigger ≤ time

namespace LineInOrder

variable {time : Int} {line : List (Message Handler (Data × Posting))}

variable (inOrder : LineInOrder time line)

include inOrder

theorem sublist {shorter : List (Message Handler (Data × Posting))} (sublist : shorter.Sublist line) :
    LineInOrder time shorter where
  posting := inOrder.posting.sublist (sublist.filter _)
  trigger := inOrder.trigger.sublist (sublist.filter _)
  notEarly := fun message member => inOrder.notEarly message (sublist.subset member)

theorem later {later : Int} (notBefore : time ≤ later) :
    LineInOrder later line where
  posting := inOrder.posting
  trigger := inOrder.trigger
  notEarly := fun message member isDelayed =>
    (inOrder.notEarly message member isDelayed).trans notBefore

theorem append_posted {message : Message Handler (Data × Posting)} (isPosted : message.isDelayed = false)
    (newest : ∀ other ∈ line, other.number < message.number) :
    LineInOrder time (line ++ [message]) where
  posting := by
    rw [filter_append, filter_singleton, isPosted, pairwise_append]
    refine ⟨inOrder.posting, pairwise_singleton _ _, fun other member last isLast => ?_⟩
    rw [mem_singleton.mp isLast]
    exact newest other (mem_filter.mp member).1
  trigger := by
    rw [filter_append, filter_singleton, isPosted, Bool.cond_false, append_nil]
    exact inOrder.trigger
  notEarly := by
    intro other member isDelayed
    rcases mem_append.mp member with before | here
    · exact inOrder.notEarly other before isDelayed
    · rw [mem_singleton.mp here, isPosted] at isDelayed
      cases isDelayed

theorem append_delayed {messages : List (Message Handler (Data × Posting))}
    (areDelayed : ∀ message ∈ messages, message.isDelayed = true)
    (sorted : messages.Pairwise fun first second => first.order < second.order)
    (behind : ∀ other ∈ line, other.isDelayed = true → ∀ message ∈ messages,
      other.order < message.order)
    (due : ∀ message ∈ messages, message.trigger ≤ time) : LineInOrder time (line ++ messages) where
  posting := by
    have none : (messages.filter fun message => !message.isDelayed) = [] := by
      rw [filter_eq_nil_iff]
      intro message member
      rw [areDelayed message member]
      decide
    rw [filter_append, none, append_nil]
    exact inOrder.posting
  trigger := by
    rw [filter_append, filter_eq_self.mpr areDelayed, pairwise_append]
    refine ⟨inOrder.trigger, sorted, fun other member => ?_⟩
    rcases mem_filter.mp member with ⟨inside, isDelayed⟩
    exact behind other inside isDelayed
  notEarly := by
    intro message member isDelayed
    rcases mem_append.mp member with before | here
    · exact inOrder.notEarly message before isDelayed
    · exact due message here

end LineInOrder

/-! ## The session -/

namespace MessageQueue

variable {queue : MessageQueue Handler Data}

theorem post_running (time : UInt32) (phandler : Option Handler) (id : UInt32) (pdata : Data)
    (timeSensitive : Bool) (running : queue.fStop = false) :
    queue.post time phandler id pdata timeSensitive = { queue with
      msgq := queue.msgq ++
        [⟨phandler, id, pdata, if timeSensitive then time + kMaxMsgLatency else 0⟩] } := by
  rw [post, if_neg (eq_false_iff.mp running)]

theorem doDelayPost_running (cmsDelay : Int32) (tstamp : UInt32) (phandler : Option Handler)
    (id : UInt32) (pdata : Data) (running : queue.fStop = false) :
    queue.doDelayPost cmsDelay tstamp phandler id pdata = { queue with
      dmsgq := ⟨cmsDelay, tstamp, queue.dmsgqNextNum, ⟨phandler, id, pdata, 0⟩⟩ :: queue.dmsgq
      dmsgqNextNum := queue.dmsgqNextNum + 1 } := by
  rw [doDelayPost, if_neg (eq_false_iff.mp running)]

end MessageQueue

namespace Session

/-- What every event keeps. -/
structure Invariant (session : Session Handler Data) : Prop where
  running : session.queue.fStop = false
  conserved : (session.posted : Multiset (Message Handler (Data × Posting))) =
    session.line + session.delayed + session.removed + session.disposed
  numbers : session.posted.map Message.number = List.range session.posted.length
  disposed : ∀ message ∈ session.disposed, message.messageId = MQID_DISPOSE
  notPeeked : session.progress ≠ .idle → session.queue.msgPeek = none
  notAhead : ∀ call msCurrent, session.progress = .scanning call msCurrent →
    msCurrent ≤ session.time
  line : LineInOrder session.time session.line
  delayed : DelayedInOrder session.queue.dmsgq session.queue.dmsgqNextNum
  behind : ∀ message ∈ session.line, message.isDelayed = true →
    ∀ delayed ∈ session.queue.dmsgq, message.order < delayed.msg.order

variable {session : Session Handler Data}

theorem new_invariant (time : Int) : (new time : Session Handler Data).Invariant where
  running := rfl
  conserved := rfl
  numbers := rfl
  disposed := fun _ member => by cases member
  notPeeked := fun progress => absurd rfl progress
  notAhead := fun _ _ progress => by cases progress
  line := ⟨.nil, .nil, fun _ member => by cases member⟩
  delayed := ⟨fun _ member => (by cases member), fun _ member => (by cases member),
    fun _ member => (by cases member), fun _ member => (by cases member),
    fun _ member => by cases member⟩
  behind := fun _ member => by cases member

theorem pull_dmsgq (session : Session Handler Data) (call : GetCall) (msCurrent : Int)
    (cmsDelayNext : Int32) :
    (session.pull call msCurrent cmsDelayNext).queue.dmsgq = session.queue.dmsgq := by
  rw [pull, MessageQueue.pull]
  cases session.queue.msgq with
  | nil => rfl
  | cons message msgq =>
    dsimp only
    split_ifs
    · rfl
    · rw [deliver]
      split_ifs <;> rfl

theorem pull_served {call other : GetCall} {msCurrent : Int} {cmsDelayNext cmsNext : Int32}
    (isWaiting : (session.pull call msCurrent cmsDelayNext).progress = .waiting other cmsNext) :
    (session.pull call msCurrent cmsDelayNext).queue.msgq = [] := by
  rw [pull, MessageQueue.pull] at isWaiting ⊢
  cases ready : session.queue.msgq with
  | nil => exact ready
  | cons message msgq =>
    rw [ready] at isWaiting
    dsimp only at isWaiting
    split_ifs at isWaiting
    rw [deliver] at isWaiting
    split_ifs at isWaiting

namespace Invariant

section

variable (invariant : session.Invariant)

include invariant

theorem delivers : session.Delivers := by
  have front : session.returned.Sublist session.line := by
    rw [Session.line, append_assoc]
    exact sublist_append_left _ _
  refine ⟨?_, invariant.disposed, (invariant.line.sublist front).posting,
    (invariant.line.sublist front).trigger, (invariant.line.sublist front).notEarly⟩
  rw [invariant.conserved, Session.line, ← Multiset.coe_add, ← Multiset.coe_add]
  abel

theorem number_lt {message : Message Handler (Data × Posting)}
    (there : message ∈ session.line ∨ message ∈ session.delayed) :
    message.number < session.posted.length := by
  have posted : message ∈ session.posted := by
    rw [← Multiset.mem_coe, invariant.conserved]
    simp only [Multiset.mem_add, Multiset.mem_coe]
    exact .inl (.inl there)
  have number : message.number ∈ session.posted.map Message.number := List.mem_map_of_mem posted
  rw [invariant.numbers] at number
  exact mem_range.mp number

theorem delayed_nodup : (session.delayed.map Message.number).Nodup := by
  have all : ((session.posted : Multiset (Message Handler (Data × Posting))).map
      Message.number).Nodup := by
    rw [Multiset.map_coe, invariant.numbers]
    exact Multiset.coe_nodup.mpr nodup_range
  rw [invariant.conserved] at all
  simp only [Multiset.map_add, Multiset.nodup_add] at all
  have some := all.1.1.2.1
  rw [Multiset.map_coe] at some
  exact Multiset.coe_nodup.mp some

theorem of_line_eq {next : Session Handler Data}
    (fStop : next.queue.fStop = session.queue.fStop) (dmsgq : next.queue.dmsgq = session.queue.dmsgq)
    (dmsgqNextNum : next.queue.dmsgqNextNum = session.queue.dmsgqNextNum)
    (time : next.time = session.time) (posted : next.posted = session.posted)
    (removed : next.removed = session.removed) (disposed : next.disposed = session.disposed)
    (line : next.line = session.line)
    (notPeeked : next.progress ≠ .idle → next.queue.msgPeek = none)
    (notAhead : ∀ call msCurrent, next.progress = .scanning call msCurrent →
      msCurrent ≤ next.time) : next.Invariant where
  running := fStop.trans invariant.running
  conserved := by
    rw [posted, line, Session.delayed, dmsgq, removed, disposed]
    exact invariant.conserved
  numbers := by
    rw [posted]
    exact invariant.numbers
  disposed := by
    rw [disposed]
    exact invariant.disposed
  notPeeked := notPeeked
  notAhead := notAhead
  line := by
    rw [time, line]
    exact invariant.line
  delayed := by
    rw [dmsgq, dmsgqNextNum]
    exact invariant.delayed
  behind := by
    rw [line, dmsgq]
    exact invariant.behind

theorem range_succ_of_numbers {message : Message Handler (Data × Posting)}
    (number : message.number = session.posted.length) :
    (session.posted ++ [message]).map Message.number =
      List.range (session.posted ++ [message]).length := by
  rw [map_append, invariant.numbers, length_append, length_singleton,
    range_succ, map_singleton, number]

theorem post (phandler : Option Handler) (id : UInt32)
    (pdata : Data) (timeSensitive : Bool) :
    (session.post phandler id pdata timeSensitive).Invariant := by
  have queueEq := fun pdata => MessageQueue.post_running session.clock phandler id pdata
    timeSensitive invariant.running
  rw [Session.post, queueEq]
  generalize messageEq : (⟨phandler, id, (pdata, ⟨session.posted.length, none⟩),
    if timeSensitive then session.clock + kMaxMsgLatency else 0⟩ :
      Message Handler (Data × Posting)) = message
  have number : message.number = session.posted.length := by rw [← messageEq]; rfl
  have isPosted : message.isDelayed = false := by rw [← messageEq]; rfl
  have longer : session.returned ++ session.queue.msgPeek.toList ++
      (session.queue.msgq ++ [message]) = session.line ++ [message] := by
    rw [Session.line, append_assoc _ _ [message]]
  refine ⟨invariant.running, ?_, invariant.range_succ_of_numbers number, invariant.disposed,
    invariant.notPeeked, invariant.notAhead, ?_, invariant.delayed, ?_⟩
  · have conserved := invariant.conserved
    rw [Session.line]
    dsimp only
    rw [longer, ← Multiset.coe_add, ← Multiset.coe_add, conserved, Session.delayed, Session.delayed]
    abel
  · rw [Session.line]
    dsimp only
    rw [longer]
    exact invariant.line.append_posted isPosted fun other member =>
      (invariant.number_lt (.inl member)).trans_eq number.symm
  · rw [Session.line]
    dsimp only
    rw [longer]
    intro other member isDelayed
    rcases mem_append.mp member with before | here
    · exact invariant.behind other before isDelayed
    · rw [mem_singleton.mp here, isPosted] at isDelayed
      cases isDelayed

theorem delay {trigger : Int} {tstamp : UInt32}
    (isTime : tstamp = UInt32.ofInt trigger) (canDelay : session.CanDelay trigger)
    (notBefore : ∀ message ∈ session.line, message.isDelayed = true → message.trigger ≤ trigger)
    (cmsDelay : Int32) (phandler : Option Handler) (id : UInt32) (pdata : Data) :
    (session.delay (fun pdata => MessageQueue.doDelayPost cmsDelay tstamp phandler id pdata)
      trigger phandler id pdata).Invariant := by
  have queueEq := fun pdata => MessageQueue.doDelayPost_running cmsDelay tstamp phandler id pdata
    invariant.running
  rw [Session.delay, queueEq]
  generalize messageEq : (⟨phandler, id, (pdata, ⟨session.posted.length, some trigger⟩), 0⟩ :
    Message Handler (Data × Posting)) = message
  have number : message.number = session.posted.length := by rw [← messageEq]; rfl
  have isDelayed : message.isDelayed = true := by rw [← messageEq]; rfl
  have triggerEq : message.trigger = trigger := by rw [← messageEq]; rfl
  refine ⟨invariant.running, ?_, invariant.range_succ_of_numbers number, invariant.disposed,
    invariant.notPeeked, invariant.notAhead, invariant.line, ?_, ?_⟩
  · have conserved := invariant.conserved
    rw [Session.delayed]
    dsimp only
    rw [map_cons, ← Multiset.cons_coe, ← Multiset.coe_add, conserved, Session.delayed,
      Multiset.coe_singleton, ← Multiset.singleton_add, Session.line, Session.line]
    abel
  · apply invariant.delayed.push isDelayed _ rfl canDelay.1
    · intro other member
      rw [triggerEq]
      exact canDelay.2 other member
    · intro other member
      rw [number]
      exact invariant.number_lt (.inr (List.mem_map_of_mem member))
    · rw [triggerEq]
      exact isTime
  · intro other member otherDelayed
    refine forall_mem_cons.mpr ⟨?_, invariant.behind other member otherDelayed⟩
    have before := notBefore other member otherDelayed
    have older := invariant.number_lt (.inl member)
    rw [Message.order_lt_iff, triggerEq, number]
    omega

theorem advance (elapsed : Nat) :
    ({ session with time := session.time + elapsed } : Session Handler Data).Invariant := by
  have later : session.time ≤ session.time + elapsed := by omega
  exact { invariant with
    notAhead := fun call msCurrent progress =>
      (invariant.notAhead call msCurrent progress).trans later
    line := invariant.line.later later }

theorem start (peeks : Bool) (cmsWait : Int32) :
    (session.start peeks cmsWait).Invariant := by
  rw [Session.start]
  split
  case h_1 _ none =>
    refine invariant.of_line_eq rfl rfl rfl rfl rfl rfl rfl rfl (fun _ => none) ?_
    intro call msCurrent progress
    cases progress
    exact Int.le_refl _
  case h_2 message idle peeked =>
    split_ifs
    · exact invariant
    · refine invariant.of_line_eq rfl rfl rfl rfl rfl rfl rfl ?_ (fun _ => rfl) invariant.notAhead
      rw [Session.line, Session.line, peeked, toList_none, toList_some, append_nil]
  case h_3 => exact invariant

theorem wake {call : GetCall} {cmsNext : Int32}
    (isWaiting : session.progress = .waiting call cmsNext) (waited : Bool) :
    (session.wake waited call).Invariant := by
  have notPeeked := invariant.notPeeked (by rw [isWaiting]; exact Progress.noConfusion)
  refine invariant.of_line_eq rfl rfl rfl rfl rfl rfl rfl rfl (fun _ => notPeeked) ?_
  intro call msCurrent progress
  rw [Session.wake] at progress
  dsimp only at progress
  split_ifs at progress
  cases progress
  exact Int.le_refl _

/-- The message that is first in the line is pulled off. -/
theorem pull (notPeeked : session.queue.msgPeek = none)
    (call : GetCall) (msCurrent : Int) (cmsDelayNext : Int32) :
    (session.pull call msCurrent cmsDelayNext).Invariant := by
  rw [Session.pull, MessageQueue.pull]
  cases ready : session.queue.msgq with
  | nil =>
    refine invariant.of_line_eq rfl rfl rfl rfl rfl rfl rfl rfl (fun _ => notPeeked) ?_
    intro other msCurrent progress
    rw [invariant.running] at progress
    cases progress
  | cons message msgq =>
    dsimp only
    split_ifs with isDispose
    · have shorter : (session.returned ++ session.queue.msgPeek.toList ++ msgq).Sublist
          session.line := by
        rw [Session.line, ready]
        exact List.Sublist.append_left (sublist_cons_self message msgq) _
      refine ⟨invariant.running, ?_, invariant.numbers, ?_, fun _ => notPeeked,
        fun _ _ progress => (by cases progress), invariant.line.sublist shorter,
        invariant.delayed, fun other member => invariant.behind other (shorter.subset member)⟩
      · have conserved := invariant.conserved
        rw [Session.line, ready, ← Multiset.coe_add, ← Multiset.cons_coe,
          ← Multiset.singleton_add] at conserved
        refine conserved.trans ?_
        change _ = ((session.returned ++ session.queue.msgPeek.toList ++ msgq :
          List (Message Handler (Data × Posting))) : Multiset (Message Handler (Data × Posting))) +
            session.delayed + session.removed + (session.disposed ++ [message] :
              List (Message Handler (Data × Posting)))
        simp only [← Multiset.coe_add, Multiset.coe_singleton]
        abel
      · intro other member
        rcases mem_append.mp member with before | here
        · exact invariant.disposed other before
        · rw [mem_singleton.mp here]
          exact isDispose
    · rw [deliver]
      split_ifs
      · refine invariant.of_line_eq rfl rfl rfl rfl rfl rfl rfl ?_ (fun busy => absurd rfl busy)
          (fun _ _ progress => by cases progress)
        rw [Session.line, Session.line, ready, notPeeked, toList_none, toList_some,
          append_nil, append_assoc, singleton_append]
      · refine invariant.of_line_eq rfl rfl rfl rfl rfl rfl rfl ?_ (fun busy => absurd rfl busy)
          (fun _ _ progress => by cases progress)
        rw [Session.line, Session.line, ready, notPeeked, toList_none, append_nil,
          append_nil, append_assoc, singleton_append]

/-- The first pass of a round: the delayed messages whose time has come go to the end of the line. -/
theorem triggerDelayed {msCurrent : Int}
    (notAhead : msCurrent ≤ session.time)
    (window : ∀ delayed ∈ session.queue.dmsgq, InWindow msCurrent delayed.msg.trigger) :
    ({ session with queue := (session.queue.triggerDelayed (UInt32.ofInt msCurrent)).2 } :
        Session Handler Data).Invariant ∧
      ∀ delayed ∈ (session.queue.triggerDelayed (UInt32.ofInt msCurrent)).2.dmsgq,
        msCurrent < delayed.msg.trigger := by
  have popped := invariant.delayed.popped window
  have queueEq : (session.queue.triggerDelayed (UInt32.ofInt msCurrent)).2 = { session.queue with
        msgq := session.queue.msgq ++ ((popWhile DelayedMessage.less
          (fun delayed => !timeIsLater (UInt32.ofInt msCurrent) delayed.msTrigger)
          session.queue.dmsgq.length session.queue.dmsgq).1.map DelayedMessage.msg)
        dmsgq := (popWhile DelayedMessage.less
          (fun delayed => !timeIsLater (UInt32.ofInt msCurrent) delayed.msTrigger)
          session.queue.dmsgq.length session.queue.dmsgq).2 } := rfl
  rw [queueEq]
  generalize popWhile DelayedMessage.less
    (fun delayed => !timeIsLater (UInt32.ofInt msCurrent) delayed.msTrigger)
    session.queue.dmsgq.length session.queue.dmsgq = result at popped ⊢
  rcases result with ⟨triggered, left⟩
  dsimp only at popped ⊢
  have triggeredInside : triggered ⊆ session.queue.dmsgq := fun delayed member =>
    popped.perm.mem_iff.mpr (mem_append_left left member)
  have leftInside : left ⊆ session.queue.dmsgq := fun delayed member =>
    popped.perm.mem_iff.mpr (mem_append_right triggered member)
  have longer : session.returned ++ session.queue.msgPeek.toList ++
      (session.queue.msgq ++ triggered.map DelayedMessage.msg) =
      session.line ++ triggered.map DelayedMessage.msg := by
    rw [Session.line, append_assoc _ _ (triggered.map DelayedMessage.msg)]
  have distinct : ((triggered ++ left).map fun delayed => delayed.msg.number).Nodup := by
    have nodup := invariant.delayed_nodup
    rw [Session.delayed, List.map_map] at nodup
    exact (popped.perm.map _).nodup_iff.mp nodup
  have before : ∀ first ∈ triggered, ∀ second ∈ left, first.msg.order < second.msg.order := by
    intro first firstMember second secondMember
    refine lt_of_le_of_ne (popped.before first firstMember second secondMember) fun same => ?_
    rw [map_append, nodup_append] at distinct
    exact distinct.2.2 _ (List.mem_map_of_mem firstMember) _ (List.mem_map_of_mem secondMember)
      (Message.number_eq_of_order_eq same)
  have sorted : (triggered.map DelayedMessage.msg).Pairwise
      fun first second => first.order < second.order := by
    rw [pairwise_map]
    have numbers := pairwise_map.mp (nodup_append.mp (map_append ▸ distinct)).1
    refine (popped.sorted.and numbers).imp fun ordered => lt_of_le_of_ne ordered.1 fun same => ?_
    exact ordered.2 (Message.number_eq_of_order_eq same)
  have due : ∀ delayed ∈ triggered, delayed.msg.trigger ≤ msCurrent := by
    intro delayed member
    have isDue := popped.isDue delayed member
    rw [invariant.delayed.msTrigger delayed (triggeredInside member), not_eq_true',
      eq_false_iff, ne_eq, timeIsLater_ofInt (window delayed (triggeredInside member))] at isDue
    exact not_lt.mp isDue
  refine ⟨⟨invariant.running, ?_, invariant.numbers, invariant.disposed, invariant.notPeeked,
    invariant.notAhead, ?_, invariant.delayed.subset leftInside, ?_⟩, ?_⟩
  · have conserved := invariant.conserved
    have parts : (session.delayed : Multiset (Message Handler (Data × Posting))) =
        triggered.map DelayedMessage.msg + left.map DelayedMessage.msg := by
      rw [Session.delayed, Multiset.coe_add, ← map_append]
      exact Multiset.coe_eq_coe.mpr (popped.perm.map _)
    rw [parts] at conserved
    refine conserved.trans ?_
    change _ = ((session.returned ++ session.queue.msgPeek.toList ++
      (session.queue.msgq ++ triggered.map DelayedMessage.msg) :
        List (Message Handler (Data × Posting))) : Multiset (Message Handler (Data × Posting))) +
      left.map DelayedMessage.msg + session.removed + session.disposed
    rw [longer, ← Multiset.coe_add]
    abel
  · rw [Session.line]
    dsimp only
    rw [longer]
    apply invariant.line.append_delayed _ sorted
    · intro other member isDelayed
      exact List.forall_mem_map.mpr fun delayed inside =>
        invariant.behind other member isDelayed delayed (triggeredInside inside)
    · exact List.forall_mem_map.mpr fun delayed inside => (due delayed inside).trans notAhead
    · exact List.forall_mem_map.mpr fun delayed inside =>
        invariant.delayed.isDelayed delayed (triggeredInside inside)
  · rw [Session.line]
    dsimp only
    rw [longer]
    intro message member isDelayed delayed inside
    rcases mem_append.mp member with there | here
    · exact invariant.behind message there isDelayed delayed (leftInside inside)
    · rcases List.mem_map.mp here with ⟨first, firstMember, rfl⟩
      exact before first firstMember delayed inside
  · intro delayed member
    have notDue := popped.notDue delayed member
    rw [invariant.delayed.msTrigger delayed (leftInside member), not_eq_false',
      timeIsLater_ofInt (window delayed (leftInside member))] at notDue
    exact notDue

theorem scan {call : GetCall} {msCurrent : Int}
    (isScanning : session.progress = .scanning call msCurrent)
    (window : ∀ delayed ∈ session.queue.dmsgq, InWindow msCurrent delayed.msg.trigger) :
    (session.scan call msCurrent).Invariant ∧ ScansAll (session.scan call msCurrent) msCurrent := by
  have notPeeked := invariant.notPeeked (by rw [isScanning]; exact Progress.noConfusion)
  rcases invariant.triggerDelayed (invariant.notAhead call msCurrent isScanning) window with
    ⟨triggered, notDue⟩
  rw [Session.scan]
  refine ⟨triggered.pull notPeeked call msCurrent _, ?_, ?_⟩
  · rw [pull_dmsgq]
    exact notDue
  · exact fun other cmsNext isWaiting => pull_served isWaiting

end

variable [DecidableEq Handler]

theorem clears (session : Session Handler Data) (phandler : Option Handler) (id : UInt32) :
    Clears session (session.clear phandler id) phandler id where
  removed := by
    rw [filter_append, filter_append, Session.delayed, List.filter_map]
    rfl
  peek := toList_filter
  ready := rfl
  delayed := by
    rw [Session.delayed, Session.delayed, List.filter_map]
    rfl
  returned := rfl

theorem clear (invariant : session.Invariant) (phandler : Option Handler) (id : UInt32) :
    (session.clear phandler id).Invariant := by
  have clears := clears session phandler id
  have lineEq : (session.clear phandler id).line = session.returned ++
      ((session.queue.msgPeek.toList.filter fun message => !message.isMatch phandler id) ++
        session.queue.msgq.filter fun message => !message.isMatch phandler id) := by
    rw [Session.line, clears.returned, clears.peek, clears.ready, append_assoc]
  have shorter : (session.clear phandler id).line.Sublist session.line := by
    rw [lineEq, Session.line, append_assoc, ← filter_append]
    exact List.Sublist.append_left filter_sublist _
  have left : (session.clear phandler id).queue.dmsgq ⊆ session.queue.dmsgq :=
    filter_subset_self _
  refine ⟨invariant.running, ?_, invariant.numbers, invariant.disposed, fun busy => ?_,
    invariant.notAhead, invariant.line.sublist shorter, invariant.delayed.subset left,
    fun message member isDelayed delayed inside =>
      invariant.behind message (shorter.subset member) isDelayed delayed (left inside)⟩
  · have split := (filter_append_perm (fun message => message.isMatch phandler id)
      (session.queue.msgPeek.toList ++ session.queue.msgq ++ session.delayed))
    have parts := Multiset.coe_eq_coe.mpr split
    have conserved := invariant.conserved
    change (session.posted : Multiset (Message Handler (Data × Posting))) = _ + _ +
      (session.clear phandler id).removed + session.disposed
    rw [lineEq, clears.removed, clears.delayed, conserved, Session.line]
    simp only [filter_append, ← Multiset.coe_add] at parts ⊢
    calc
      _ = (session.returned : Multiset (Message Handler (Data × Posting))) +
          (session.queue.msgPeek.toList + session.queue.msgq + session.delayed) +
            session.removed + session.disposed := by abel
      _ = _ := by
          rw [← parts]
          abel
  · change (session.queue.msgPeek.filter _) = none
    rw [invariant.notPeeked busy]
    rfl

end Invariant

variable [DecidableEq Handler]

theorem step_invariant {event : Event Handler Data} (invariant : session.Invariant)
    (permitted : session.Permits event) :
    session.Achieves event ∧ (session.step event).Invariant := by
  cases event with
  | post phandler id pdata timeSensitive =>
    exact ⟨trivial, invariant.post phandler id pdata timeSensitive⟩
  | postDelayed cmsDelay phandler id pdata =>
    rcases permitted with ⟨notNegative, canDelay⟩
    refine ⟨trivial, invariant.delay (timeAfter_ofInt session.time cmsDelay) canDelay ?_ cmsDelay
      phandler id pdata⟩
    intro message member isDelayed
    have early := invariant.line.notEarly message member isDelayed
    have positive : 0 ≤ cmsDelay.toInt := Int32.le_iff_toInt_le.mp notNegative
    omega
  | postAt tstamp phandler id pdata =>
    exact ⟨trivial, invariant.delay (ofInt_timeUntil session.time tstamp).symm permitted.1
      permitted.2 (timeUntil session.clock tstamp) phandler id pdata⟩
  | clear phandler id =>
    exact ⟨Invariant.clears session phandler id, invariant.clear phandler id⟩
  | advance elapsed => exact ⟨trivial, invariant.advance elapsed⟩
  | get cmsWait => exact ⟨trivial, invariant.start false cmsWait⟩
  | peek cmsWait => exact ⟨trivial, invariant.start true cmsWait⟩
  | scan =>
    rw [Achieves, step]
    cases progress : session.progress with
    | scanning call msCurrent =>
      rcases invariant.scan progress (permitted call msCurrent progress) with ⟨next, scans⟩
      refine ⟨fun other otherCurrent same => ?_, next⟩
      cases same
      exact scans
    | idle => exact ⟨fun _ _ impossible => (by cases impossible), invariant⟩
    | pulling => exact ⟨fun _ _ impossible => (by cases impossible), invariant⟩
    | waiting => exact ⟨fun _ _ impossible => (by cases impossible), invariant⟩
  | pull =>
    refine ⟨trivial, ?_⟩
    rw [step]
    cases progress : session.progress with
    | pulling call msCurrent cmsDelayNext =>
      exact invariant.pull (invariant.notPeeked (by rw [progress]; exact Progress.noConfusion))
        call msCurrent cmsDelayNext
    | idle => exact invariant
    | scanning => exact invariant
    | waiting => exact invariant
  | wake waited =>
    refine ⟨trivial, ?_⟩
    rw [step]
    cases progress : session.progress with
    | waiting call cmsNext => exact invariant.wake progress waited
    | idle => exact invariant
    | scanning => exact invariant
    | pulling => exact invariant

theorem deliversAll_of_invariant (events : List (Event Handler Data))
    (invariant : session.Invariant) (permitted : Run.Allowed step Permits session events) :
    session.DeliversAll events := by
  induction events generalizing session with
  | nil => exact invariant.delivers
  | cons event events induction =>
    rcases step_invariant invariant permitted.1 with ⟨achieved, next⟩
    exact ⟨invariant.delivers, achieved, induction next permitted.2⟩

/-- Messages are delivered in every run where no wrap of the clock comes between delayed messages. -/
theorem new_deliversAll (time : Int) (events : List (Event Handler Data))
    (permitted : Run.Allowed step Permits (new time) events) :
    (new time : Session Handler Data).DeliversAll events :=
  deliversAll_of_invariant events (new_invariant time) permitted

/-- Two delayed messages, and a call of `Get` when the time of the first one has come. -/
def twoDelays : List (Event Unit Unit) :=
  [.postDelayed 50 none 1 (), .postDelayed 150 none 2 (), .advance 60, .get 0, .scan]

theorem new_deliversAll_beforeWrap : (new 1000 : Session Unit Unit).DeliversAll twoDelays := by
  apply new_deliversAll
  refine ⟨⟨by decide, by decide, fun _ member => by cases member⟩, ⟨by decide, by decide, ?_⟩,
    trivial, trivial, fun call msCurrent progress => ?_, trivial⟩
  · exact fun delayed member => by rw [mem_singleton.mp member]; decide
  · cases progress
    refine forall_mem_cons.mpr ⟨?_, forall_mem_cons.mpr ⟨?_, fun _ none => by cases none⟩⟩
    · constructor <;> decide
    · constructor <;> decide

/-- The clock wraps between the times of the messages: the second one is on top, and holds the first
one back. -/
theorem not_new_deliversAll : ¬ (new 4294967196 : Session Unit Unit).DeliversAll twoDelays := by
  intro ⟨_, _, _, _, _, _, _, _, _, scans, _⟩
  have left := (scans ⟨false, 0, UInt32.ofInt 4294967256⟩ 4294967256 rfl).triggered
  exact absurd (left _ (mem_cons_of_mem _ mem_cons_self)) (by decide)

end Session

end ZyWebRtc.Messaging
