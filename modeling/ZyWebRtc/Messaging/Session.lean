import Mathlib.Data.Prod.Lex
import Mathlib.Data.Multiset.Filter
import ZyWebRtc.Foundation.Run
import ZyWebRtc.Messaging.MessageQueue

namespace ZyWebRtc.Messaging

/-! A message queue in use. Any thread may post and clear at any time, and the clock may advance by
any amount; one thread gets and peeks. The lock of the queue is held once in a step. -/

/-- What is known of a message from its post: its number among all messages, and the time that it is
delayed to. -/
structure Posting where
  number : Nat
  trigger : Option Int

variable {Handler Data : Type}

namespace Message

def number (message : Message Handler (Data × Posting)) : Nat := message.pdata.2.number

def isDelayed (message : Message Handler (Data × Posting)) : Bool :=
  message.pdata.2.trigger.isSome

def trigger (message : Message Handler (Data × Posting)) : Int := message.pdata.2.trigger.getD 0

/-- Delayed messages come in the order of their times, and of their posts. -/
def order (message : Message Handler (Data × Posting)) : Int ×ₗ Nat :=
  toLex (message.trigger, message.number)

end Message

/-- The arguments of `Get`, or of `Peek`, which gets a message to keep it. -/
structure GetCall where
  peeks : Bool
  cmsWait : Int32
  msStart : UInt32

/-- How far a call of `Get` has come. -/
inductive Progress
  | idle
  | scanning (call : GetCall) (msCurrent : Int)
  | pulling (call : GetCall) (msCurrent : Int) (cmsDelayNext : Int32)
  | waiting (call : GetCall) (cmsNext : Int32)

/-- The queue, the time, and what has become of the messages that were posted. -/
structure Session (Handler Data : Type) where
  queue : MessageQueue Handler (Data × Posting)
  time : Int
  progress : Progress
  posted : List (Message Handler (Data × Posting))
  returned : List (Message Handler (Data × Posting))
  removed : List (Message Handler (Data × Posting))
  disposed : List (Message Handler (Data × Posting))

inductive Event (Handler Data : Type)
  | post (phandler : Option Handler) (id : UInt32) (pdata : Data) (timeSensitive : Bool)
  | postDelayed (cmsDelay : Int32) (phandler : Option Handler) (id : UInt32) (pdata : Data)
  | postAt (tstamp : UInt32) (phandler : Option Handler) (id : UInt32) (pdata : Data)
  | clear (phandler : Option Handler) (id : UInt32)
  | advance (elapsed : Nat)
  | get (cmsWait : Int32)
  | peek (cmsWait : Int32)
  | scan
  | pull
  | wake (waited : Bool)

namespace Session

def new (time : Int) : Session Handler Data where
  queue := .new
  time := time
  progress := .idle
  posted := []
  returned := []
  removed := []
  disposed := []

def clock (session : Session Handler Data) : UInt32 := UInt32.ofInt session.time

def post (phandler : Option Handler) (id : UInt32) (pdata : Data) (timeSensitive : Bool)
    (session : Session Handler Data) : Session Handler Data :=
  let pdata := (pdata, ⟨session.posted.length, none⟩)
  { session with
    queue := session.queue.post session.clock phandler id pdata timeSensitive
    posted := session.posted ++
      [⟨phandler, id, pdata, if timeSensitive then session.clock + kMaxMsgLatency else 0⟩] }

def delay (post : Data × Posting → MessageQueue Handler (Data × Posting) →
      MessageQueue Handler (Data × Posting)) (trigger : Int) (phandler : Option Handler)
    (id : UInt32) (pdata : Data) (session : Session Handler Data) : Session Handler Data :=
  let pdata := (pdata, ⟨session.posted.length, some trigger⟩)
  { session with
    queue := post pdata session.queue
    posted := session.posted ++ [⟨phandler, id, pdata, 0⟩] }

def timeOf (tstamp : UInt32) (session : Session Handler Data) : Int :=
  session.time + (timeUntil session.clock tstamp).toInt

def start (peeks : Bool) (cmsWait : Int32) (session : Session Handler Data) :
    Session Handler Data :=
  match session.progress, session.queue.msgPeek with
  | .idle, none =>
    { session with progress := .scanning ⟨peeks, cmsWait, session.clock⟩ session.time }
  | .idle, some message =>
    if peeks then session
    else { session with
      queue := { session.queue with msgPeek := none }
      returned := session.returned ++ [message] }
  | _, _ => session

def deliver (call : GetCall) (message : Message Handler (Data × Posting))
    (session : Session Handler Data) : Session Handler Data :=
  if call.peeks then
    { session with
      queue := { session.queue with msgPeek := some message }
      progress := .idle }
  else { session with returned := session.returned ++ [message], progress := .idle }

/-- A message is pulled off. Without one, the call waits or the queue has stopped. -/
def pull (call : GetCall) (msCurrent : Int) (cmsDelayNext : Int32)
    (session : Session Handler Data) : Session Handler Data :=
  match session.queue.pull with
  | none =>
    let cmsElapsed := timeDiff (UInt32.ofInt msCurrent) call.msStart
    { session with progress :=
        if session.queue.fStop then .idle
        else .waiting call (MessageQueue.cmsNext call.cmsWait cmsElapsed cmsDelayNext) }
  | some (message, queue) =>
    if message.messageId = MQID_DISPOSE then
      { session with
        queue := queue
        disposed := session.disposed ++ [message]
        progress := .pulling call msCurrent cmsDelayNext }
    else { session with queue := queue }.deliver call message

/-- The first pass of a round. -/
def scan (call : GetCall) (msCurrent : Int) (session : Session Handler Data) :
    Session Handler Data :=
  let (cmsDelayNext, queue) := session.queue.triggerDelayed (UInt32.ofInt msCurrent)
  { session with queue := queue }.pull call msCurrent cmsDelayNext

/-- The wait has ended, or has failed. -/
def wake (waited : Bool) (call : GetCall) (session : Session Handler Data) :
    Session Handler Data :=
  let cmsElapsed := timeDiff session.clock call.msStart
  { session with progress :=
      if waited = false ∨ call.cmsWait ≠ kForever ∧ call.cmsWait ≤ cmsElapsed then .idle
      else .scanning call session.time }

variable [DecidableEq Handler]

def clear (phandler : Option Handler) (id : UInt32) (session : Session Handler Data) :
    Session Handler Data :=
  let (removed, queue) := session.queue.clear phandler id
  { session with queue := queue, removed := session.removed ++ removed }

variable (session : Session Handler Data)

def step : Event Handler Data → Session Handler Data
  | .post phandler id pdata timeSensitive => session.post phandler id pdata timeSensitive
  | .postDelayed cmsDelay phandler id pdata =>
    session.delay (fun pdata => MessageQueue.postDelayed session.clock cmsDelay phandler id pdata)
      (session.time + cmsDelay.toInt) phandler id pdata
  | .postAt tstamp phandler id pdata =>
    session.delay (fun pdata => MessageQueue.postAt session.clock tstamp phandler id pdata)
      (session.timeOf tstamp) phandler id pdata
  | .clear phandler id => session.clear phandler id
  | .advance elapsed => { session with time := session.time + elapsed }
  | .get cmsWait => session.start false cmsWait
  | .peek cmsWait => session.start true cmsWait
  | .scan => match session.progress with
      | .scanning call msCurrent => session.scan call msCurrent
      | _ => session
  | .pull => match session.progress with
      | .pulling call msCurrent cmsDelayNext => session.pull call msCurrent cmsDelayNext
      | _ => session
  | .wake waited => match session.progress with
      | .waiting call _ => session.wake waited call
      | _ => session

/-- The messages on their way through `Get`, the first one first. -/
def line : List (Message Handler (Data × Posting)) :=
  session.returned ++ session.queue.msgPeek.toList ++ session.queue.msgq

def delayed : List (Message Handler (Data × Posting)) :=
  session.queue.dmsgq.map DelayedMessage.msg

/-- What holds of the messages that were posted: each is returned once, removed, disposed of or still
there, and those that were returned came in order and in time. -/
structure Delivers (session : Session Handler Data) : Prop where
  conserved : (session.posted : Multiset (Message Handler (Data × Posting))) =
    session.returned + (session.queue.msgPeek.toList + session.queue.msgq + session.delayed) +
      session.removed + session.disposed
  disposed : ∀ message ∈ session.disposed, message.messageId = MQID_DISPOSE
  postingOrder : (session.returned.filter fun message => !message.isDelayed).Pairwise
    fun first second => first.number < second.number
  triggerOrder : (session.returned.filter Message.isDelayed).Pairwise
    fun first second => first.order < second.order
  notEarly : ∀ message ∈ session.returned, message.isDelayed = true → message.trigger ≤ session.time

/-- A scan leaves no delayed message whose time has come, and waits for none that is there. -/
structure ScansAll (next : Session Handler Data) (msCurrent : Int) : Prop where
  triggered : ∀ delayed ∈ next.queue.dmsgq, msCurrent < delayed.msg.trigger
  served : ∀ call cmsNext, next.progress = .waiting call cmsNext → next.queue.msgq = []

/-- The matching messages leave all three stores, and the others keep their order. -/
structure Clears (session next : Session Handler Data) (phandler : Option Handler) (id : UInt32) :
    Prop where
  removed : next.removed = session.removed ++
    (session.queue.msgPeek.toList ++ session.queue.msgq ++ session.delayed).filter
      fun message => message.isMatch phandler id
  peek : next.queue.msgPeek.toList =
    session.queue.msgPeek.toList.filter fun message => !message.isMatch phandler id
  ready : next.queue.msgq = session.queue.msgq.filter fun message => !message.isMatch phandler id
  delayed : next.delayed = session.delayed.filter fun message => !message.isMatch phandler id
  returned : next.returned = session.returned

def Achieves : Event Handler Data → Prop
  | .scan => ∀ call msCurrent, session.progress = .scanning call msCurrent →
      ScansAll (session.step .scan) msCurrent
  | .clear phandler id => Clears session (session.step (.clear phandler id)) phandler id
  | _ => True

/-- Every state of a run delivers, and every event achieves what it should. -/
def DeliversAll (session : Session Handler Data) : List (Event Handler Data) → Prop
  | [] => session.Delivers
  | event :: events => session.Delivers ∧ session.Achieves event ∧
      (session.step event).DeliversAll events

/-- A delayed message may wait together with those that are there: there is a number for it, and no
wrap of the clock is between their times. -/
def CanDelay (trigger : Int) : Prop :=
  session.queue.dmsgqNextNum + 1 ≠ 0 ∧
    ∀ delayed ∈ session.queue.dmsgq, delayed.msg.trigger / 4294967296 = trigger / 4294967296

/-- A time stamp is not before the time of a delayed message that is on its way already. -/
def Permits : Event Handler Data → Prop
  | .postDelayed cmsDelay _ _ _ => 0 ≤ cmsDelay ∧
      session.CanDelay (session.time + cmsDelay.toInt)
  | .postAt tstamp _ _ _ => session.CanDelay (session.timeOf tstamp) ∧
      ∀ message ∈ session.line, message.isDelayed = true → message.trigger ≤ session.timeOf tstamp
  | .scan => ∀ call msCurrent, session.progress = .scanning call msCurrent →
      ∀ delayed ∈ session.queue.dmsgq, InWindow msCurrent delayed.msg.trigger
  | _ => True

end Session

end ZyWebRtc.Messaging
