import Mathlib.Data.Finset.Dedup
import Mathlib.Data.Finset.Basic
import Mathlib.Data.Finset.Lattice.Lemmas
import Mathlib.Data.List.Nodup
namespace ZyWebRtc.Pacing

/-! The paced sender: one queue for each priority, and the budgets that decide when the first
packet of a queue is offered to the callback. -/

open List

def kMinPacketLimitMs : Int := 5
def kMaxIntervalTimeMs : Int := 30
def kMaxQueueTimeWithoutSendingMs : Int := 30

/-- The milliseconds of a difference of two readings of the clock, which are in nanoseconds. -/
def milliseconds (ticks : Int) : Int := ticks.tdiv 1000000

structure Packet where
  ssrc : UInt32
  sequenceNumber : UInt16
  captureTimeMs : Int
  bytes : Int
  deriving DecidableEq

/-! ## The list that prevents duplicates -/

/-- The set holds the sequence numbers of the packets, each of which is in the list once. -/
structure PacketList where
  packetList : List Packet
  sequenceNumberSet : Finset UInt16
  distinct : (packetList.map Packet.sequenceNumber).Nodup
  set_eq : sequenceNumberSet = (packetList.map Packet.sequenceNumber).toFinset

namespace PacketList

def nil : PacketList := ⟨[], ∅, nodup_nil, rfl⟩

def empty (list : PacketList) : Bool := list.packetList.isEmpty

def front (list : PacketList) (filled : list.empty = false) : Packet :=
  list.packetList.head fun absent => by
    rw [empty, absent] at filled
    cases filled

theorem mem_set_iff (list : PacketList) (number : UInt16) :
    number ∈ list.sequenceNumberSet ↔
      ∃ packet ∈ list.packetList, packet.sequenceNumber = number := by
  rw [list.set_eq, List.mem_toFinset, List.mem_map]

theorem erase_eq_tail {first : Packet} {rest : List Packet}
    (distinct : ((first :: rest).map Packet.sequenceNumber).Nodup) :
    ((first :: rest).map Packet.sequenceNumber).toFinset.erase first.sequenceNumber =
      (rest.map Packet.sequenceNumber).toFinset := by
  rw [map_cons, nodup_cons] at distinct
  rw [map_cons, toFinset_cons, Finset.erase_insert]
  rw [List.mem_toFinset]
  exact distinct.1

def popFront (list : PacketList) : PacketList :=
  match list with
  | ⟨[], numbers, distinct, same⟩ => ⟨[], numbers, distinct, same⟩
  | ⟨packet :: rest, numbers, distinct, same⟩ =>
    { packetList := rest
      sequenceNumberSet := numbers.erase packet.sequenceNumber
      distinct := (nodup_cons.mp distinct).2
      set_eq := by rw [same, erase_eq_tail distinct] }

theorem insert_eq_append (packets : List Packet) (packet : Packet) :
    insert packet.sequenceNumber (packets.map Packet.sequenceNumber).toFinset =
      ((packets ++ [packet]).map Packet.sequenceNumber).toFinset := by
  rw [map_append, toFinset_append, map_singleton, toFinset_cons,
    toFinset_nil, Finset.union_insert, Finset.union_empty]

def pushBack (packet : Packet) (list : PacketList) : PacketList :=
  if fresh : packet.sequenceNumber ∉ list.sequenceNumberSet then
    { packetList := list.packetList ++ [packet]
      sequenceNumberSet := insert packet.sequenceNumber list.sequenceNumberSet
      distinct := by
        rw [list.set_eq, List.mem_toFinset] at fresh
        rw [map_append, nodup_append]
        refine ⟨list.distinct, nodup_singleton _, fun number listed other last same => ?_⟩
        rw [map_singleton, mem_singleton] at last
        exact fresh (last ▸ same ▸ listed)
      set_eq := by rw [list.set_eq, insert_eq_append] }
  else list

@[simp] theorem popFront_packetList (list : PacketList) :
    list.popFront.packetList = list.packetList.tail := by
  rcases list with ⟨_ | ⟨packet, rest⟩, numbers, distinct, same⟩ <;> rfl

theorem pushBack_of_fresh {packet : Packet} {list : PacketList}
    (fresh : ∀ other ∈ list.packetList, other.sequenceNumber ≠ packet.sequenceNumber) :
    (list.pushBack packet).packetList = list.packetList ++ [packet] := by
  have absent : packet.sequenceNumber ∉ list.sequenceNumberSet := by
    rw [mem_set_iff]
    rintro ⟨other, listed, same⟩
    exact fresh other listed same
  rw [pushBack, dif_pos absent]

theorem pushBack_of_mem {packet other : Packet} {list : PacketList}
    (listed : other ∈ list.packetList)
    (same : other.sequenceNumber = packet.sequenceNumber) : list.pushBack packet = list := by
  have present : packet.sequenceNumber ∈ list.sequenceNumberSet :=
    (list.mem_set_iff _).mpr ⟨other, listed, same⟩
  rw [pushBack, dif_neg (not_not.mpr present)]

theorem empty_eq_false_iff {list : PacketList} :
    list.empty = false ↔ list.packetList ≠ [] := by
  rw [empty, isEmpty_eq_false_iff]

theorem packetList_eq_front_cons {list : PacketList} (filled : list.empty = false) :
    list.packetList = list.front filled :: list.popFront.packetList := by
  rw [popFront_packetList, front, cons_head_tail]

end PacketList

structure IntervalBudget where
  targetRateKbps : Int
  bytesRemaining : Int
  deriving DecidableEq

namespace IntervalBudget

def init (targetRateKbps : Int) : IntervalBudget := ⟨targetRateKbps, 0⟩

def setTargetRateKbps (rate : Int) (budget : IntervalBudget) : IntervalBudget :=
  { budget with targetRateKbps := rate }

/-- An overuse of the last interval is paid for, and what it left is lost. -/
def increaseBudget (deltaTimeMs : Int) (budget : IntervalBudget) : IntervalBudget :=
  let bytes := (budget.targetRateKbps * deltaTimeMs).tdiv 8
  if budget.bytesRemaining < 0 then
    { budget with bytesRemaining := budget.bytesRemaining + bytes }
  else { budget with bytesRemaining := bytes }

def useBudget (bytes : Int) (budget : IntervalBudget) : IntervalBudget :=
  { budget with
    bytesRemaining :=
      max (budget.bytesRemaining - bytes) ((-100 * budget.targetRateKbps).tdiv 8) }

end IntervalBudget

/-! ## The sender -/

inductive Priority
  | kHighPriority
  | kNormalPriority
  | kLowPriority
  deriving DecidableEq

namespace Priority

def Outranks : Priority → Priority → Prop
  | kHighPriority, kNormalPriority => True
  | kHighPriority, kLowPriority => True
  | kNormalPriority, kLowPriority => True
  | _, _ => False

end Priority

/-- A rate is multiplied by `pace_multiplier_`, a number of floating point, and truncated. -/
structure PacedSender where
  paceMultiplied : Int → Int
  enabled : Bool
  paused : Bool
  mediaBudget : IntervalBudget
  paddingBudget : IntervalBudget
  padUpToBitrateBudget : IntervalBudget
  timeLastUpdate : Int
  timeLastSend : Int
  captureTimeMsLastQueued : Int
  captureTimeMsLastSent : Int
  highPriorityPackets : PacketList
  normalPriorityPackets : PacketList
  lowPriorityPackets : PacketList

namespace PacedSender

section

variable (sender : PacedSender)

def packets : Priority → PacketList
  | .kHighPriority => sender.highPriorityPackets
  | .kNormalPriority => sender.normalPriorityPackets
  | .kLowPriority => sender.lowPriorityPackets

def withPackets (list : PacketList) : Priority → PacedSender
  | .kHighPriority => { sender with highPriorityPackets := list }
  | .kNormalPriority => { sender with normalPriorityPackets := list }
  | .kLowPriority => { sender with lowPriorityPackets := list }

@[simp] theorem withPackets_packets (list : PacketList)
    (priority other : Priority) :
    (sender.withPackets list priority).packets other =
      if other = priority then list else sender.packets other := by
  cases priority <;> cases other <;> rfl

/-- The two senders have the same packets waiting. -/
def SamePackets (first second : PacedSender) : Prop :=
  ∀ priority, second.packets priority = first.packets priority

def updateBytesPerInterval (deltaTimeMs : Int) (sender : PacedSender) : PacedSender :=
  { sender with
    mediaBudget := sender.mediaBudget.increaseBudget deltaTimeMs
    paddingBudget := sender.paddingBudget.increaseBudget deltaTimeMs
    padUpToBitrateBudget := sender.padUpToBitrateBudget.increaseBudget deltaTimeMs }

/-- The constructor, which reads the clock once. -/
def init (paceMultiplied : Int → Int) (targetBitrateKbps now : Int) : PacedSender :=
  updateBytesPerInterval kMinPacketLimitMs
    { paceMultiplied := paceMultiplied
      enabled := false
      paused := false
      mediaBudget := .init (paceMultiplied targetBitrateKbps)
      paddingBudget := .init 0
      padUpToBitrateBudget := .init 0
      timeLastUpdate := now
      timeLastSend := 0
      captureTimeMsLastQueued := 0
      captureTimeMsLastSent := 0
      highPriorityPackets := .nil
      normalPriorityPackets := .nil
      lowPriorityPackets := .nil }

def pause : PacedSender := { sender with paused := true }

def resume : PacedSender := { sender with paused := false }

def setStatus (enable : Bool) (sender : PacedSender) : PacedSender :=
  { sender with enabled := enable }

def updateBitrate (targetBitrateKbps maxPaddingBitrateKbps padUpToBitrateKbps : Int)
    (sender : PacedSender) : PacedSender :=
  { sender with
    mediaBudget :=
      sender.mediaBudget.setTargetRateKbps (sender.paceMultiplied targetBitrateKbps)
    paddingBudget := sender.paddingBudget.setTargetRateKbps maxPaddingBitrateKbps
    padUpToBitrateBudget := sender.padUpToBitrateBudget.setTargetRateKbps padUpToBitrateKbps }

def captureTime (captureTimeMs nowMs : Int) : Int :=
  if captureTimeMs < 0 then nowMs else captureTimeMs

def noteQueued (priority : Priority) (captureTimeMs : Int) (sender : PacedSender) :
    PacedSender :=
  if priority ≠ .kHighPriority ∧ sender.captureTimeMsLastQueued < captureTimeMs then
    { sender with captureTimeMsLastQueued := captureTimeMs }
  else sender

/-- Whether the packet may be sent now, and the sender that keeps it otherwise. -/
def sendPacket (priority : Priority) (ssrc : UInt32) (sequenceNumber : UInt16)
    (captureTimeMs bytes nowMs : Int) (sender : PacedSender) : Bool × PacedSender :=
  if sender.enabled = false then (true, sender)
  else
    let captureTimeMs := captureTime captureTimeMs nowMs
    let noted := sender.noteQueued priority captureTimeMs
    let packet : Packet := ⟨ssrc, sequenceNumber, captureTimeMs, bytes⟩
    (false, noted.withPackets ((noted.packets priority).pushBack packet) priority)

def updateMediaBytesSent (numBytes now : Int) (sender : PacedSender) : PacedSender :=
  { sender with
    timeLastSend := now
    mediaBudget := sender.mediaBudget.useBudget numBytes
    padUpToBitrateBudget := sender.padUpToBitrateBudget.useBudget numBytes }

/-- A priority whose queue is not empty. -/
abbrev Waiting : Type :=
  { priority : Priority // (sender.packets priority).empty = false }

/-- The first of some priorities whose queue is not empty. -/
def firstWaiting (sender : PacedSender) : List Priority → Option sender.Waiting
  | [] => none
  | priority :: rest =>
    if filled : (sender.packets priority).empty = false then some ⟨priority, filled⟩
    else sender.firstWaiting rest

/-- Low priority packets wait for the budget, however long nothing was sent. -/
def shouldSendNextPacket (now : Int) (sender : PacedSender) : Option sender.Waiting :=
  if sender.mediaBudget.bytesRemaining ≤ 0 then
    if kMaxQueueTimeWithoutSendingMs < milliseconds (now - sender.timeLastSend) then
      sender.firstWaiting [.kHighPriority, .kNormalPriority]
    else none
  else sender.firstWaiting [.kHighPriority, .kNormalPriority, .kLowPriority]

def getNextPacketFromList (now : Int) (sender : PacedSender) (waiting : sender.Waiting) :
    Packet × PacedSender :=
  let packet := (sender.packets waiting.1).front waiting.2
  (packet, sender.updateMediaBytesSent packet.bytes now)

/-- What `Process` does after a packet was sent. The time of the last packet that was sent is
for tracing only. -/
def packetSent (priority : Priority) (captureTimeMs : Int) (sender : PacedSender) :
    PacedSender :=
  let popped := sender.withPackets (sender.packets priority).popFront priority
  if priority ≠ .kHighPriority ∧ popped.captureTimeMsLastSent < captureTimeMs then
    { popped with captureTimeMsLastSent := captureTimeMs }
  else popped

def paddingNeeded : Option Int :=
  if sender.highPriorityPackets.empty ∧ sender.normalPriorityPackets.empty ∧
      sender.lowPriorityPackets.empty ∧ 0 < sender.paddingBudget.bytesRemaining ∧
      0 < sender.padUpToBitrateBudget.bytesRemaining then
    some (min sender.paddingBudget.bytesRemaining sender.padUpToBitrateBudget.bytesRemaining)
  else none

end

def paddingSent (bytesSent : Int) (sender : PacedSender) : PacedSender :=
  { sender with
    mediaBudget := sender.mediaBudget.useBudget bytesSent
    paddingBudget := sender.paddingBudget.useBudget bytesSent
    padUpToBitrateBudget := sender.padUpToBitrateBudget.useBudget bytesSent }

/-- Where `Process` stands: not called, or waiting for the result of a callback. -/
inductive Phase
  | idle
  | packetOffered (priority : Priority) (packet : Packet)
  | paddingOffered (bytes : Int)
  deriving DecidableEq

/-- The clock is read when the next packet is chosen, and again when it is taken. -/
structure Readings where
  chosen : Int
  taken : Int
  deriving DecidableEq

def nextCallback (readings : Readings) (sender : PacedSender) : Phase × PacedSender :=
  match sender.shouldSendNextPacket readings.chosen with
  | some waiting =>
    let taken := sender.getNextPacketFromList readings.taken waiting
    (.packetOffered waiting.1 taken.1, taken.2)
  | none =>
    match sender.paddingNeeded with
    | some bytes => (.paddingOffered bytes, sender)
    | none => (.idle, sender)

def startInterval (now : Int) (sender : PacedSender) : PacedSender :=
  let elapsedTimeMs := milliseconds (now - sender.timeLastUpdate)
  let updated := { sender with timeLastUpdate := now }
  if 0 < elapsedTimeMs then
    updated.updateBytesPerInterval (min kMaxIntervalTimeMs elapsedTimeMs)
  else updated

def process (now : Int) (readings : Readings) (sender : PacedSender) : Phase × PacedSender :=
  if sender.enabled = false ∨ sender.paused = true then
    (.idle, { sender with timeLastUpdate := now })
  else (sender.startInterval now).nextCallback readings

/-- `Process` after the callback for a packet. When it could not be sent, it stays in its
list. -/
def packetAnswered (success : Bool) (priority : Priority) (packet : Packet)
    (readings : Readings) (sender : PacedSender) : Phase × PacedSender :=
  if success = false then (.idle, sender)
  else (sender.packetSent priority packet.captureTimeMs).nextCallback readings

/-- `Process` after the callback for padding, which is its last. -/
def paddingAnswered (bytesSent : Int) (sender : PacedSender) : Phase × PacedSender :=
  (.idle, sender.paddingSent bytesSent)

end PacedSender

end ZyWebRtc.Pacing
