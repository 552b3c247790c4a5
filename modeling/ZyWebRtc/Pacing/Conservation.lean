import ZyWebRtc.Foundation.Run
import ZyWebRtc.Pacing.PacedSender

namespace ZyWebRtc.Pacing

/-! Every packet that the paced sender took is in its queue or was accepted by the callback:
what was queued is what was accepted, followed by what waits. -/

open List PacedSender

/-! ## Runs of a sender -/

/-- What the callback is told of a packet. -/
structure Media where
  ssrc : UInt32
  sequenceNumber : UInt16
  captureTimeMs : Int
  deriving DecidableEq

def Packet.media (packet : Packet) : Media :=
  ⟨packet.ssrc, packet.sequenceNumber, packet.captureTimeMs⟩

/-- A call of `TimeToSendPacket`, and what waited in the queues when it was made. -/
structure Offer where
  priority : Priority
  media : Media
  waiting : Priority → List Packet

/-- A sender, where its `Process` stands, and what happened: the packets of each priority that
it took and that the callback accepted, and the calls of the callback. -/
structure Paced where
  sender : PacedSender
  phase : Phase
  queued : Priority → List Media
  accepted : Priority → List Media
  offers : List Offer

inductive Operation
  | sendPacket (priority : Priority) (ssrc : UInt32) (sequenceNumber : UInt16)
      (captureTimeMs bytes nowMs : Int)
  | process (now : Int) (readings : Readings)
  | packetAnswered (success : Bool) (readings : Readings)
  | paddingAnswered (bytesSent : Int)
  | pause
  | resume
  | setStatus (enable : Bool)
  | updateBitrate (targetBitrateKbps maxPaddingBitrateKbps padUpToBitrateKbps : Int)

namespace Paced

/-- A sender that was made and enabled. -/
def init (paceMultiplied : Int → Int) (targetBitrateKbps now : Int) : Paced :=
  { sender := (PacedSender.init paceMultiplied targetBitrateKbps now).setStatus true
    phase := .idle
    queued := fun _ => []
    accepted := fun _ => []
    offers := [] }

section

variable (paced : Paced)

def waiting (priority : Priority) : List Packet :=
  (paced.sender.packets priority).packetList

/-- The packet of a source with a sequence number waits in the queue of a priority. -/
def AlreadyWaiting (priority : Priority) (ssrc : UInt32)
    (sequenceNumber : UInt16) : Prop :=
  ∃ packet ∈ paced.waiting priority, packet.ssrc = ssrc ∧ packet.sequenceNumber = sequenceNumber

instance (paced : Paced) (priority : Priority) (ssrc : UInt32) (sequenceNumber : UInt16) :
    Decidable (paced.AlreadyWaiting priority ssrc sequenceNumber) :=
  List.decidableBEx _ _

/-- A packet was taken, unless it waited already. -/
def notePacket (priority : Priority) (media : Media) (paced : Paced) : Priority → List Media :=
  if paced.AlreadyWaiting priority media.ssrc media.sequenceNumber then paced.queued
  else Function.update paced.queued priority (paced.queued priority ++ [media])

/-- `Process` went on to its next callback, or to its end. -/
def processed (result : Phase × PacedSender) (paced : Paced) : Paced :=
  { paced with
    phase := result.1
    sender := result.2
    offers :=
      match result.1 with
      | .packetOffered priority packet =>
        paced.offers ++ [⟨priority, packet.media, fun other => (result.2.packets other).packetList⟩]
      | _ => paced.offers }

/-- A call, or the result of the callback that `Process` waits for. The critical section is
free while it waits. -/
def step : Operation → Option Paced
  | .sendPacket priority ssrc sequenceNumber captureTimeMs bytes nowMs =>
    let result :=
      paced.sender.sendPacket priority ssrc sequenceNumber captureTimeMs bytes nowMs
    let media : Media := ⟨ssrc, sequenceNumber, captureTime captureTimeMs nowMs⟩
    some { paced with
      sender := result.2
      queued := if result.1 then paced.queued else paced.notePacket priority media }
  | .process now readings =>
    match paced.phase with
    | .idle => some (paced.processed (paced.sender.process now readings))
    | _ => none
  | .packetAnswered success readings =>
    match paced.phase with
    | .packetOffered priority packet =>
      let accepted :=
        if success then
          Function.update paced.accepted priority
            (paced.accepted priority ++ [packet.media])
        else paced.accepted
      some ({ paced with accepted := accepted }.processed
        (paced.sender.packetAnswered success priority packet readings))
    | _ => none
  | .paddingAnswered bytesSent =>
    match paced.phase with
    | .paddingOffered _ => some (paced.processed (paced.sender.paddingAnswered bytesSent))
    | _ => none
  | .pause => some { paced with sender := paced.sender.pause }
  | .resume => some { paced with sender := paced.sender.resume }
  | .setStatus enable => some { paced with sender := paced.sender.setStatus enable }
  | .updateBitrate target maxPadding padUpTo =>
    some { paced with sender := paced.sender.updateBitrate target maxPadding padUpTo }

/-- What was taken was accepted or waits, in the same order. -/
def NothingLost : Prop :=
  ∀ priority, paced.queued priority =
    paced.accepted priority ++ (paced.waiting priority).map Packet.media

/-- Nothing of a higher priority waited when a packet was offered. -/
def OffersRanked : Prop :=
  ∀ offer ∈ paced.offers, ∀ higher : Priority, higher.Outranks offer.priority →
    offer.waiting higher = []

def Conserved : Prop := paced.NothingLost ∧ paced.OffersRanked

/-- A packet for an enabled sender has the source of any packet with its sequence number that
waits in the queue of its priority. -/
def Distinguished : Operation → Prop
  | .sendPacket priority ssrc sequenceNumber _ _ _ =>
    paced.sender.enabled = true → ∀ packet ∈ paced.waiting priority,
      packet.sequenceNumber = sequenceNumber → packet.ssrc = ssrc
  | _ => True

def decideDistinguished : ∀ operation, Decidable (paced.Distinguished operation)
  | .sendPacket priority ssrc sequenceNumber _ _ _ =>
    have := List.decidableBAll
      (fun packet : Packet => packet.sequenceNumber = sequenceNumber → packet.ssrc = ssrc)
      (paced.waiting priority)
    inferInstanceAs (Decidable (_ = true → _))
  | .process _ _ => .isTrue trivial
  | .packetAnswered _ _ => .isTrue trivial
  | .paddingAnswered _ => .isTrue trivial
  | .pause => .isTrue trivial
  | .resume => .isTrue trivial
  | .setStatus _ => .isTrue trivial
  | .updateBitrate _ _ _ => .isTrue trivial

end

instance (paced : Paced) (operation : Operation) : Decidable (paced.Distinguished operation) :=
  paced.decideDistinguished operation

end Paced

/-! ## Which packet is offered -/

namespace PacedSender

variable {sender : PacedSender}

theorem firstWaiting_eq_some {priorities : List Priority} {waiting : sender.Waiting} :
    sender.firstWaiting priorities = some waiting →
      ∃ before after, priorities = before ++ waiting.1 :: after ∧
        ∀ other ∈ before, (sender.packets other).packetList = [] := by
  induction priorities with
  | nil => exact fun absent => nomatch absent
  | cons priority rest induction =>
    intro found
    rw [firstWaiting] at found
    split at found
    · cases found
      exact ⟨[], rest, rfl, forall_mem_nil _⟩
    · rename_i drained
      rcases induction found with ⟨before, after, rfl, empty⟩
      refine ⟨priority :: before, after, rfl, ?_⟩
      rw [forall_mem_cons]
      rw [PacketList.empty_eq_false_iff, not_not] at drained
      exact ⟨drained, empty⟩

theorem outranks_mem_before {before after : List Priority} {priority higher : Priority}
    (ordered : before ++ priority :: after = [.kHighPriority, .kNormalPriority, .kLowPriority] ∨
      before ++ priority :: after = [.kHighPriority, .kNormalPriority])
    (outranks : higher.Outranks priority) : higher ∈ before := by
  rcases before with _ | ⟨first, _ | ⟨second, _ | ⟨third, rest⟩⟩⟩
  all_goals
    simp only [nil_append, cons_append, List.cons.injEq, append_eq_nil_iff,
      reduceCtorEq, and_false, or_false] at ordered
  · rcases ordered with ⟨rfl, _⟩ | ⟨rfl, _⟩ <;> cases higher <;> cases outranks
  · rcases ordered with ⟨rfl, rfl, _⟩ | ⟨rfl, rfl, _⟩
    all_goals
      cases higher <;> first | exact mem_singleton_self _ | cases outranks
  · rcases ordered with ⟨rfl, rfl, rfl, _⟩
    cases higher <;> first | exact outranks.elim | simp

theorem shouldSendNextPacket_ranked {now : Int} {waiting : sender.Waiting}
    (found : sender.shouldSendNextPacket now = some waiting) {higher : Priority}
    (outranks : higher.Outranks waiting.1) : (sender.packets higher).packetList = [] := by
  rw [shouldSendNextPacket] at found
  split at found
  · split at found
    · rcases firstWaiting_eq_some found with ⟨before, after, ordered, drained⟩
      exact drained higher (outranks_mem_before (.inr ordered.symm) outranks)
    · cases found
  · rcases firstWaiting_eq_some found with ⟨before, after, ordered, drained⟩
    exact drained higher (outranks_mem_before (.inl ordered.symm) outranks)

@[simp] theorem updateBytesPerInterval_packets (deltaTimeMs : Int) (sender : PacedSender)
    (priority : Priority) :
    (sender.updateBytesPerInterval deltaTimeMs).packets priority = sender.packets priority := by
  cases priority <;> rfl

@[simp] theorem updateMediaBytesSent_packets (numBytes now : Int) (sender : PacedSender)
    (priority : Priority) :
    (sender.updateMediaBytesSent numBytes now).packets priority = sender.packets priority := by
  cases priority <;> rfl

@[simp] theorem noteQueued_packets (captureTimeMs : Int) (sender : PacedSender)
    (queue priority : Priority) :
    (sender.noteQueued queue captureTimeMs).packets priority = sender.packets priority := by
  rw [noteQueued]
  split
  · cases priority <;> rfl
  · rfl

@[simp] theorem startInterval_packets (now : Int) (sender : PacedSender) (priority : Priority) :
    (sender.startInterval now).packets priority = sender.packets priority := by
  rw [startInterval]
  split
  · rw [updateBytesPerInterval_packets]
    cases priority <;> rfl
  · cases priority <;> rfl

theorem packetSent_packets (queue : Priority) (captureTimeMs : Int) (sender : PacedSender)
    (priority : Priority) :
    (sender.packetSent queue captureTimeMs).packets priority =
      if priority = queue then (sender.packets queue).popFront
      else sender.packets priority := by
  rw [← withPackets_packets, packetSent]
  split
  · cases priority <;> rfl
  · rfl

@[simp] theorem nextCallback_packets (readings : Readings) (sender : PacedSender)
    (priority : Priority) :
    (sender.nextCallback readings).2.packets priority = sender.packets priority := by
  rw [nextCallback]
  split
  · exact updateMediaBytesSent_packets _ _ _ priority
  · split <;> rfl

/-- The packet that is offered is the first of its queue, and the queues of higher priority
are empty. -/
theorem nextCallback_offered {readings : Readings} {priority : Priority} {packet : Packet}
    (offered : (sender.nextCallback readings).1 = .packetOffered priority packet) :
    (sender.packets priority).packetList.head? = some packet ∧
      ∀ higher : Priority, higher.Outranks priority → (sender.packets higher).packetList = [] := by
  rw [nextCallback] at offered
  split at offered
  · rename_i waiting found
    cases offered
    constructor
    · rw [PacketList.packetList_eq_front_cons waiting.2]
      rfl
    · exact fun higher => shouldSendNextPacket_ranked found
  · split at offered
    · cases offered
    · cases offered

end PacedSender

namespace Paced

variable {paced next : Paced}

/-- What holds between the operations of every run. -/
structure Kept (paced : Paced) : Prop where
  offered : ∀ priority packet, paced.phase = .packetOffered priority packet →
    (paced.waiting priority).head? = some packet
  ranked : paced.OffersRanked

theorem init_kept (paceMultiplied : Int → Int) (targetBitrateKbps now : Int) :
    (init paceMultiplied targetBitrateKbps now).Kept where
  offered _ _ offered := nomatch offered
  ranked _ offer := nomatch offer

theorem init_nothingLost (paceMultiplied : Int → Int) (targetBitrateKbps now : Int) :
    (init paceMultiplied targetBitrateKbps now).NothingLost := by
  intro priority
  cases priority <;> rfl

variable {sender : PacedSender}

theorem kept_of_samePackets (same : SamePackets paced.sender sender) (kept : paced.Kept) :
    { paced with sender := sender }.Kept where
  offered priority packet offered := by
    rw [waiting, same priority]
    exact kept.offered priority packet offered
  ranked := kept.ranked

theorem nothingLost_of_samePackets (same : SamePackets paced.sender sender) :
    { paced with sender := sender }.NothingLost ↔ paced.NothingLost := by
  simp only [NothingLost, waiting, same _]

theorem processed_nextCallback_kept (readings : Readings) (sender : PacedSender)
    (ranked : paced.OffersRanked) : (paced.processed (sender.nextCallback readings)).Kept where
  offered priority packet offered := by
    rw [waiting]
    change (((sender.nextCallback readings).2.packets priority).packetList).head? = _
    rw [nextCallback_packets]
    exact (nextCallback_offered offered).1
  ranked := by
    intro offer listed higher outranks
    rw [processed] at listed
    dsimp only at listed
    split at listed
    · rename_i priority packet offered
      rcases mem_append.mp listed with earlier | last
      · exact ranked offer earlier higher outranks
      · rw [mem_singleton] at last
        subst last
        change ((sender.nextCallback readings).2.packets higher).packetList = []
        rw [nextCallback_packets]
        exact (nextCallback_offered offered).2 higher outranks
    · exact ranked offer listed higher outranks

theorem processed_idle_kept (sender : PacedSender) (ranked : paced.OffersRanked) :
    (paced.processed (.idle, sender)).Kept where
  offered _ _ offered := nomatch offered
  ranked := ranked

theorem processed_nothingLost {result : Phase × PacedSender}
    (same : SamePackets paced.sender result.2) :
    (paced.processed result).NothingLost ↔ paced.NothingLost :=
  nothingLost_of_samePackets same

/-! ### SendPacket -/

theorem sendPacket_packets {priority : Priority} {ssrc : UInt32} {sequenceNumber : UInt16}
    {captureTimeMs bytes nowMs : Int} (enabled : sender.enabled = true)
    (other : Priority) :
    (sender.sendPacket priority ssrc sequenceNumber captureTimeMs bytes nowMs).2.packets other =
      if other = priority then
        (sender.packets priority).pushBack
          ⟨ssrc, sequenceNumber, captureTime captureTimeMs nowMs, bytes⟩
      else sender.packets other := by
  rw [sendPacket, if_neg (by rw [enabled]; decide)]
  dsimp only
  rw [withPackets_packets, noteQueued_packets, noteQueued_packets]

theorem pushBack_head? {list : PacketList} {packet first : Packet}
    (before : list.packetList.head? = some first) :
    (list.pushBack packet).packetList.head? = some first := by
  rw [PacketList.pushBack]
  split
  · rw [List.head?_append, before]
    rfl
  · exact before

section SendPacket

variable {priority : Priority} {ssrc : UInt32} {sequenceNumber : UInt16}
  {captureTimeMs bytes nowMs : Int}

section

variable
  (stepped : paced.step (.sendPacket priority ssrc sequenceNumber captureTimeMs bytes nowMs) = some next)

include stepped

theorem sendPacket_disabled (disabled : paced.sender.enabled = false) : next = paced := by
  have result : paced.sender.sendPacket priority ssrc sequenceNumber captureTimeMs bytes nowMs =
      (true, paced.sender) := if_pos disabled
  rw [step, result] at stepped
  exact (Option.some.inj stepped).symm

theorem sendPacket_enabled (enabled : paced.sender.enabled = true) :
    next.queued =
        paced.notePacket priority ⟨ssrc, sequenceNumber, captureTime captureTimeMs nowMs⟩ ∧
      next.accepted = paced.accepted ∧
      ∀ other, next.waiting other = if other = priority then
          ((paced.sender.packets priority).pushBack
            ⟨ssrc, sequenceNumber, captureTime captureTimeMs nowMs, bytes⟩).packetList
        else paced.waiting other := by
  have taken : (paced.sender.sendPacket priority ssrc sequenceNumber captureTimeMs bytes
      nowMs).1 = false := by
    rw [sendPacket, if_neg (by rw [enabled]; decide)]
  cases stepped
  refine ⟨?_, rfl, fun other => ?_⟩
  · change (if _ = true then _ else _) = _
    rw [taken]
    rfl
  · change ((PacedSender.sendPacket _ _ _ _ _ _ _).2.packets other).packetList = _
    rw [sendPacket_packets enabled]
    split
    · rfl
    · rfl

theorem sendPacket_kept (kept : paced.Kept) : next.Kept := by
  by_cases enabled : paced.sender.enabled = true
  · rcases sendPacket_enabled stepped enabled with ⟨_, _, waits⟩
    cases stepped
    refine ⟨fun other packet offered => ?_, kept.ranked⟩
    have before := kept.offered other packet offered
    rw [waits other]
    split
    · rename_i same
      subst same
      exact pushBack_head? before
    · exact before
  · rw [sendPacket_disabled stepped (Bool.not_eq_true _ ▸ enabled)]
    exact kept

end

theorem waiting_eq_of_sequenceNumber {first second : Packet}
    (firstWaits : first ∈ paced.waiting priority) (secondWaits : second ∈ paced.waiting priority)
    (same : first.sequenceNumber = second.sequenceNumber) : first = second :=
  inj_on_of_nodup_map (paced.sender.packets priority).distinct firstWaits secondWaits same

theorem sendPacket_nothingLost
    (stepped : paced.step (.sendPacket priority ssrc sequenceNumber captureTimeMs bytes nowMs) =
      some next) (good : paced.NothingLost) :
    next.NothingLost ↔ paced.Distinguished
      (.sendPacket priority ssrc sequenceNumber captureTimeMs bytes nowMs) := by
  by_cases enabled : paced.sender.enabled = true
  swap
  · have disabled := Bool.not_eq_true _ ▸ enabled
    rw [sendPacket_disabled stepped disabled]
    exact iff_of_true good fun enabled => absurd (disabled.symm.trans enabled) (by decide)
  rcases sendPacket_enabled stepped enabled with ⟨queued, accepted, waits⟩
  rw [notePacket] at queued
  by_cases already : paced.AlreadyWaiting priority ssrc sequenceNumber
  · rcases already with ⟨packet, listed, sameSource, sameNumber⟩
    rw [if_pos ⟨packet, listed, sameSource, sameNumber⟩] at queued
    have whole : ∀ other, next.waiting other = paced.waiting other := by
      intro other
      rw [waits other, PacketList.pushBack_of_mem listed sameNumber]
      split
      · rename_i same
        rw [same]
        rfl
      · rfl
    constructor
    · intro _ _ other otherListed otherNumber
      rw [waiting_eq_of_sequenceNumber otherListed listed (otherNumber.trans sameNumber.symm)]
      exact sameSource
    · intro _ other
      rw [queued, accepted, whole other]
      exact good other
  rw [if_neg already] at queued
  by_cases shared : ∃ packet ∈ paced.waiting priority, packet.sequenceNumber = sequenceNumber
  · rcases shared with ⟨packet, listed, sameNumber⟩
    constructor
    · intro lost
      have counted := congrArg List.length (lost priority)
      have before := congrArg List.length (good priority)
      rw [queued, accepted, waits priority, if_pos rfl,
        PacketList.pushBack_of_mem listed sameNumber, Function.update_self] at counted
      simp only [length_append, length_singleton, waiting] at counted before
      omega
    · intro distinguished
      exact absurd ⟨packet, listed, distinguished enabled packet listed sameNumber, sameNumber⟩
        already
  · constructor
    · intro _ _ other otherListed otherNumber
      exact absurd ⟨other, otherListed, otherNumber⟩ shared
    · intro _ other
      rw [queued, accepted, waits other]
      by_cases same : other = priority
      · subst same
        rw [if_pos rfl, Function.update_self, good other, PacketList.pushBack_of_fresh
          fun packet listed number => shared ⟨packet, listed, number⟩, map_append,
          ← append_assoc]
        rfl
      · rw [if_neg same, Function.update_of_ne same]
        exact good other

end SendPacket

theorem packetSent_nothingLost {queue : Priority} {packet : Packet}
    (first : (paced.waiting queue).head? = some packet)
    (sent : ∀ priority, sender.packets priority =
      if priority = queue then (paced.sender.packets queue).popFront
      else paced.sender.packets priority) :
    { paced with
      accepted := Function.update paced.accepted queue (paced.accepted queue ++ [packet.media])
      sender := sender }.NothingLost ↔ paced.NothingLost := by
  refine forall_congr' fun priority => ?_
  dsimp only [waiting]
  rw [sent priority]
  by_cases same : priority = queue
  · subst same
    have popped : paced.waiting priority = packet ::
        (paced.sender.packets priority).popFront.packetList := by
      rw [PacketList.popFront_packetList]
      exact (List.cons_head?_tail first).symm
    rw [if_pos rfl, Function.update_self, append_assoc]
    rw [waiting] at popped
    rw [popped, map_cons]
    rfl
  · rw [if_neg same, Function.update_of_ne same]

theorem packetAnswered_step {success : Bool} {readings : Readings}
    (stepped : paced.step (.packetAnswered success readings) = some next) (kept : paced.Kept) :
    next.Kept ∧ (next.NothingLost ↔ paced.NothingLost) := by
  rw [step] at stepped
  split at stepped
  · rename_i queue packet offered
    cases stepped
    cases success with
    | false => exact ⟨processed_idle_kept _ kept.ranked, processed_nothingLost fun _ => rfl⟩
    | true =>
      refine ⟨processed_nextCallback_kept _ _ kept.ranked, ?_⟩
      apply packetSent_nothingLost (kept.offered queue packet offered)
      intro priority
      change (nextCallback readings (packetSent queue _ _)).2.packets priority = _
      rw [nextCallback_packets, packetSent_packets]
  · cases stepped

theorem process_step {now : Int} {readings : Readings}
    (stepped : paced.step (.process now readings) = some next) (kept : paced.Kept) :
    next.Kept ∧ (next.NothingLost ↔ paced.NothingLost) := by
  rw [step] at stepped
  split at stepped
  · cases stepped
    rw [PacedSender.process]
    split
    · exact ⟨processed_idle_kept _ kept.ranked, processed_nothingLost fun priority => by
        cases priority <;> rfl⟩
    · refine ⟨processed_nextCallback_kept _ _ kept.ranked, processed_nothingLost ?_⟩
      intro priority
      rw [nextCallback_packets, startInterval_packets]
  · cases stepped

theorem paddingAnswered_step {bytesSent : Int}
    (stepped : paced.step (.paddingAnswered bytesSent) = some next) (kept : paced.Kept) :
    next.Kept ∧ (next.NothingLost ↔ paced.NothingLost) := by
  rw [step] at stepped
  split at stepped
  · cases stepped
    refine ⟨processed_idle_kept _ kept.ranked, processed_nothingLost fun priority => ?_⟩
    cases priority <;> rfl
  · cases stepped

/-! ## Every run -/

theorem step_conserves (operation : Operation)
    (kept : paced.Kept) (stepped : paced.step operation = some next) :
    next.Kept ∧ (paced.NothingLost → (next.NothingLost ↔ paced.Distinguished operation)) := by
  have always {lost : Prop} (same : next.Kept ∧ (next.NothingLost ↔ paced.NothingLost))
      (holds : lost) : next.Kept ∧ (paced.NothingLost → (next.NothingLost ↔ lost)) :=
    ⟨same.1, fun good => iff_of_true (same.2.mpr good) holds⟩
  have unchanged {sender : PacedSender} (same : SamePackets paced.sender sender) :
      { paced with sender := sender }.Kept ∧
        ({ paced with sender := sender }.NothingLost ↔ paced.NothingLost) :=
    ⟨kept_of_samePackets same kept, nothingLost_of_samePackets same⟩
  cases operation with
  | sendPacket priority ssrc sequenceNumber captureTimeMs bytes nowMs =>
    exact ⟨sendPacket_kept stepped kept, sendPacket_nothingLost stepped⟩
  | process now readings => exact always (process_step stepped kept) trivial
  | packetAnswered success readings => exact always (packetAnswered_step stepped kept) trivial
  | paddingAnswered bytesSent => exact always (paddingAnswered_step stepped kept) trivial
  | pause =>
    cases stepped
    exact always (unchanged fun priority => by cases priority <;> rfl) trivial
  | resume =>
    cases stepped
    exact always (unchanged fun priority => by cases priority <;> rfl) trivial
  | setStatus enable =>
    cases stepped
    exact always (unchanged fun priority => by cases priority <;> rfl) trivial
  | updateBitrate target maxPadding padUpTo =>
    cases stepped
    exact always (unchanged fun priority => by cases priority <;> rfl) trivial

theorem conserved_of_kept (kept : paced.Kept) : paced.Conserved ↔ paced.NothingLost :=
  and_iff_left kept.ranked

section

variable (paceMultiplied : Int → Int) (targetBitrateKbps now : Int) (operations : List Operation)

/-- All states of a run are conserved. -/
def ConservesThroughout : Prop :=
  ∀ count middle,
    Run.reached step (init paceMultiplied targetBitrateKbps now) (operations.take count) =
      some middle → middle.Conserved

theorem conservesThroughout_iff {last : Paced}
    (run : Run.reached step (init paceMultiplied targetBitrateKbps now) operations = some last) :
    ConservesThroughout paceMultiplied targetBitrateKbps now operations ↔
      Run.Permitted step Distinguished (init paceMultiplied targetBitrateKbps now)
        operations := by
  have start := init_kept paceMultiplied targetBitrateKbps now
  apply Run.good_iff_permitted_of_reached step _ start
    ⟨init_nothingLost paceMultiplied targetBitrateKbps now, start.ranked⟩ run
  intro paced operation next kept stepped
  have result := step_conserves operation kept stepped
  rw [conserved_of_kept kept, conserved_of_kept result.1]
  exact result

end

/-- Packets of two priorities wait while the sender is paused, and are sent in the order of
their priorities. -/
theorem conservesThroughout_iff_twoPriorities :
    ConservesThroughout (fun rate => 2 * rate) 500 0
      [.pause, .sendPacket .kNormalPriority 1 7 40 1200 40,
        .sendPacket .kHighPriority 2 7 (-1) 300 41, .resume, .process 50000000 ⟨50000000, 50000001⟩,
        .packetAnswered true ⟨51000000, 51000001⟩, .packetAnswered true ⟨52000000, 52000001⟩] :=
  (conservesThroughout_iff _ 500 0 _ rfl).mpr (by decide)

/-- The packet of a second source is taken for the packet of the first that waits, as they have
the same sequence number. -/
theorem not_conservesThroughout_sameSequenceNumber :
    ¬ ConservesThroughout (fun rate => 2 * rate) 500 0
      [.sendPacket .kNormalPriority 1 7 40 1200 40,
        .sendPacket .kNormalPriority 2 7 40 1200 40] := by
  intro conserves
  have lost := (conserves 2 _ rfl).1 .kNormalPriority
  exact absurd (congrArg List.length lost) (by decide)

end Paced

end ZyWebRtc.Pacing
