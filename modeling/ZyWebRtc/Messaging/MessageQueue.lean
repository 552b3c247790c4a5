import ZyWebRtc.Foundation.PriorityQueue
import ZyWebRtc.Messaging.TimeUtils

namespace ZyWebRtc.Messaging

/-! `MessageQueue`: the messages that are posted, those that are delayed, and the one that was
peeked. `Get` and `Peek` are given by what they do while they hold the lock of the queue. -/

def MQID_ANY : UInt32 := -1

/-- Data to delete instead of a message to return. -/
def MQID_DISPOSE : UInt32 := -2

def kForever : Int32 := -1

def kMaxMsgLatency : UInt32 := 150

structure Message (Handler Data : Type) where
  phandler : Option Handler
  messageId : UInt32
  pdata : Data
  tsSensitive : UInt32

structure DelayedMessage (Handler Data : Type) where
  cmsDelay : Int32
  msTrigger : UInt32
  num : UInt32
  msg : Message Handler Data

/-- `operator<`: a priority queue has the greatest element on top. -/
def DelayedMessage.less {Handler Data : Type} (delayed dmsg : DelayedMessage Handler Data) : Bool :=
  dmsg.msTrigger < delayed.msTrigger ||
    dmsg.msTrigger = delayed.msTrigger && dmsg.num < delayed.num

/-- `msgPeek` is there while `fPeekKeep_`. -/
structure MessageQueue (Handler Data : Type) where
  fStop : Bool
  msgPeek : Option (Message Handler Data)
  msgq : List (Message Handler Data)
  dmsgq : List (DelayedMessage Handler Data)
  dmsgqNextNum : UInt32

variable {Handler Data : Type}

namespace Message

def isMatch [DecidableEq Handler] (message : Message Handler Data) (handler : Option Handler)
    (id : UInt32) : Bool :=
  (handler = none || handler = message.phandler) && (id = MQID_ANY || id = message.messageId)

end Message

namespace MessageQueue

def new : MessageQueue Handler Data where
  fStop := false
  msgPeek := none
  msgq := []
  dmsgq := []
  dmsgqNextNum := 0

def post (time : UInt32) (phandler : Option Handler) (id : UInt32) (pdata : Data)
    (timeSensitive : Bool) (queue : MessageQueue Handler Data) : MessageQueue Handler Data :=
  if queue.fStop then queue
  else { queue with
    msgq := queue.msgq ++ [⟨phandler, id, pdata, if timeSensitive then time + kMaxMsgLatency else 0⟩] }

/-- It verifies that the next number is not 0 again. -/
def doDelayPost (cmsDelay : Int32) (tstamp : UInt32) (phandler : Option Handler) (id : UInt32)
    (pdata : Data) (queue : MessageQueue Handler Data) : MessageQueue Handler Data :=
  if queue.fStop then queue
  else { queue with
    dmsgq := ⟨cmsDelay, tstamp, queue.dmsgqNextNum, ⟨phandler, id, pdata, 0⟩⟩ :: queue.dmsgq
    dmsgqNextNum := queue.dmsgqNextNum + 1 }

def postDelayed (time : UInt32) (cmsDelay : Int32) :
    (phandler : Option Handler) → (id : UInt32) → (pdata : Data) →
      MessageQueue Handler Data → MessageQueue Handler Data :=
  doDelayPost cmsDelay (timeAfter time cmsDelay)

def postAt (time : UInt32) (tstamp : UInt32) :
    (phandler : Option Handler) → (id : UInt32) → (pdata : Data) →
      MessageQueue Handler Data → MessageQueue Handler Data :=
  doDelayPost (timeUntil time tstamp) tstamp

/-- The messages that are removed, and the queue without them. -/
def clear [DecidableEq Handler] (phandler : Option Handler) (id : UInt32)
    (queue : MessageQueue Handler Data) :
    List (Message Handler Data) × MessageQueue Handler Data :=
  let removes := fun message : Message Handler Data => message.isMatch phandler id
  let removed := queue.msgPeek.toList.filter removes ++ queue.msgq.filter removes ++
    (queue.dmsgq.filter fun delayed => removes delayed.msg).map DelayedMessage.msg
  (removed, { queue with
    msgPeek := queue.msgPeek.filter fun message => !removes message
    msgq := queue.msgq.filter fun message => !removes message
    dmsgq := queue.dmsgq.filter fun delayed => !removes delayed.msg })

/-- The first pass of `Get`: the delayed messages that have been triggered go to the end of the
queue. It gives the delay of the next one. -/
def triggerDelayed (msCurrent : UInt32) (queue : MessageQueue Handler Data) :
    Int32 × MessageQueue Handler Data :=
  let triggered := fun delayed : DelayedMessage Handler Data =>
    !timeIsLater msCurrent delayed.msTrigger
  let (popped, left) :=
    PriorityQueue.popWhile DelayedMessage.less triggered queue.dmsgq.length queue.dmsgq
  let cmsDelayNext := match PriorityQueue.extract DelayedMessage.less left with
    | none => kForever
    | some (top, _) => timeDiff top.msTrigger msCurrent
  (cmsDelayNext, { queue with msgq := queue.msgq ++ popped.map DelayedMessage.msg, dmsgq := left })

def pull (queue : MessageQueue Handler Data) :
    Option (Message Handler Data × MessageQueue Handler Data) :=
  match queue.msgq with
  | [] => none
  | message :: msgq => some (message, { queue with msgq := msgq })

def cmsNext (cmsWait cmsElapsed cmsDelayNext : Int32) : Int32 :=
  if cmsWait = kForever then cmsDelayNext
  else
    let cmsNext := max 0 (cmsWait - cmsElapsed)
    if cmsDelayNext ≠ kForever ∧ cmsDelayNext < cmsNext then cmsDelayNext else cmsNext

end MessageQueue

end ZyWebRtc.Messaging
