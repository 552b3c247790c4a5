import Mathlib.Data.List.Sort
import ZyWebRtc.Foundation.Run
import ZyWebRtc.Video.InsertBuffer

namespace ZyWebRtc.Video

open List VCMSessionInfo

/-! The frame buffer while the packets of a frame are inserted in any order. -/

/-! ## The order of the packets -/

/-- How far a sequence number lies behind the first one of the frame. -/
def distance (first seqNum : UInt16) : Nat := (seqNum - first).toNat

/-- The packets in the order of their sequence numbers, from a list with the latest
insertion first. Of two packets with the same number the earlier insertion goes first. -/
def inOrder (first : UInt16) (accepted : List Insertion) : List Insertion :=
  accepted.insertionSort fun later earlier =>
    distance first later.packet.seqNum < distance first earlier.packet.seqNum

/-- The packets of a frame lie on less than half of the circle of sequence numbers. -/
def InWindow (first : UInt16) (insertions : List Insertion) : Prop :=
  ∀ insertion ∈ insertions, distance first insertion.packet.seqNum < 32768

theorem latestSequenceNumber_eq_iff {first seqNum other : UInt16}
    (inside : distance first seqNum < 32768) (otherInside : distance first other < 32768) :
    latestSequenceNumber seqNum other = seqNum ↔ distance first other ≤ distance first seqNum := by
  have bound := first.toNat_lt
  have numberBound := seqNum.toNat_lt
  have otherBound := other.toNat_lt
  rw [distance, UInt16.toNat_sub] at inside otherInside ⊢
  rw [distance, UInt16.toNat_sub]
  rw [latestSequenceNumber]
  split
  · rename_i newer
    rw [isNewerSequenceNumber, Bool.and_eq_true, decide_eq_true_eq, decide_eq_true_eq,
      UInt16.lt_iff_toNat_lt, UInt16.toNat_sub] at newer
    have half : (0x8000 : UInt16).toNat = 32768 := rfl
    simp only [true_iff]
    omega
  · rename_i older
    rw [isNewerSequenceNumber, Bool.and_eq_true, decide_eq_true_eq, decide_eq_true_eq,
      UInt16.lt_iff_toNat_lt, UInt16.toNat_sub] at older
    have half : (0x8000 : UInt16).toNat = 32768 := rfl
    rw [← UInt16.toNat_inj]
    rw [ne_eq, ← UInt16.toNat_inj] at older
    omega

/-- The packets that a new one is put behind. -/
def orderedBefore (first : UInt16) (insertion : Insertion) (accepted : List Insertion) :
    List Insertion :=
  (inOrder first accepted).takeWhile fun stored =>
    ¬ distance first insertion.packet.seqNum < distance first stored.packet.seqNum

def orderedAfter (first : UInt16) (insertion : Insertion) (accepted : List Insertion) :
    List Insertion :=
  (inOrder first accepted).dropWhile fun stored =>
    ¬ distance first insertion.packet.seqNum < distance first stored.packet.seqNum

section Order

variable (first : UInt16) (insertion : Insertion) (accepted : List Insertion)

theorem inOrder_perm : (inOrder first accepted).Perm accepted := perm_insertionSort _ accepted

theorem inOrder_split :
    orderedBefore first insertion accepted ++ orderedAfter first insertion accepted =
      inOrder first accepted :=
  takeWhile_append_dropWhile

theorem inOrder_cons :
    inOrder first (insertion :: accepted) = orderedBefore first insertion accepted ++
        insertion :: orderedAfter first insertion accepted :=
  insertionSort_cons_eq_take_drop _ insertion accepted

theorem orderedBefore_le :
    ∀ stored ∈ orderedBefore first insertion accepted,
      distance first stored.packet.seqNum ≤ distance first insertion.packet.seqNum := by
  intro stored member
  have notLater := mem_takeWhile_imp member
  simpa using notLater

theorem lt_of_mem_dropWhile {Element : Type} {key : Element → Nat} (bound : Nat)
    {list : List Element} (ordered : list.Pairwise fun front back => key front ≤ key back) :
    ∀ element ∈ list.dropWhile fun element => ¬ bound < key element, bound < key element := by
  induction list with
  | nil => simp
  | cons head tail induction =>
    rcases pairwise_cons.mp ordered with ⟨headOrdered, tailOrdered⟩
    intro element member
    rw [dropWhile_cons] at member
    by_cases large : bound < key head
    · simp only [large, not_true_eq_false, decide_false, Bool.false_eq_true, if_false] at member
      rcases mem_cons.mp member with rfl | later
      · exact large
      · exact Nat.lt_of_lt_of_le large (headOrdered element later)
    · simp only [large, not_false_eq_true, decide_true, if_true] at member
      exact induction tailOrdered element member

theorem inOrder_pairwise :
    (inOrder first accepted).Pairwise fun front back =>
      distance first front.packet.seqNum ≤ distance first back.packet.seqNum := by
  induction accepted with
  | nil => exact .nil
  | cons insertion rest induction =>
    have larger := lt_of_mem_dropWhile (distance first insertion.packet.seqNum) induction
    have split := inOrder_split first insertion rest
    rw [← split] at induction
    rcases pairwise_append.mp induction with ⟨before, after, between⟩
    rw [inOrder_cons]
    apply pairwise_append.mpr
    refine ⟨before, pairwise_cons.mpr ⟨?_, after⟩, ?_⟩
    · intro stored member
      exact Nat.le_of_lt (larger stored member)
    · intro stored member other otherMember
      rcases mem_cons.mp otherMember with rfl | later
      · exact orderedBefore_le first other rest stored member
      · exact between stored member other later

theorem orderedAfter_lt :
    ∀ stored ∈ orderedAfter first insertion accepted,
      distance first insertion.packet.seqNum < distance first stored.packet.seqNum :=
  lt_of_mem_dropWhile _ (inOrder_pairwise first accepted)

end Order

theorem rdropWhile_append_of {Element : Type} {skips : Element → Bool} {front back : List Element}
    (stays : ∀ element ∈ front, skips element = false)
    (skipped : ∀ element ∈ back, skips element = true) :
    (front ++ back).rdropWhile skips = front ∧ (front ++ back).rtakeWhile skips = back := by
  have dropped : (front ++ back).rdropWhile skips = front := by
    induction back using List.reverseRecOn with
    | nil =>
      rw [append_nil]
      apply rdropWhile_eq_self_iff.mpr
      intro nonempty
      simp [stays _ (getLast_mem nonempty)]
    | append_singleton back last induction =>
      rw [← append_assoc, rdropWhile_concat_pos _ _ _ (skipped last (by simp))]
      exact induction fun element member => skipped element (by simp [member])
  refine ⟨dropped, ?_⟩
  have split := rdropWhile_append_rtakeWhile (p := skips) (l := front ++ back)
  rw [dropped] at split
  exact append_cancel_left split

theorem packets_split {first : UInt16} {insertion : Insertion} {accepted : List Insertion}
    (inside : distance first insertion.packet.seqNum < 32768)
    (window : InWindow first accepted) :
    packetsBefore insertion.packet.seqNum (storedFrom 0 (inOrder first accepted)) =
        storedFrom 0 (orderedBefore first insertion accepted) ∧
      packetsAfter insertion.packet.seqNum (storedFrom 0 (inOrder first accepted)) =
        storedFrom (contentsOf (orderedBefore first insertion accepted)).length
          (orderedAfter first insertion accepted) := by
  have numbers {offset : Nat} {list : List Insertion} {stored : VCMPacket}
      (member : stored ∈ storedFrom offset list) :
      ∃ other ∈ list, other.packet.seqNum = stored.seqNum := by
    have mapped := List.mem_map_of_mem (f := VCMPacket.seqNum) member
    rw [storedFrom_seqNum] at mapped
    exact List.mem_map.mp mapped
  have split := inOrder_split first insertion accepted
  have accepts (other : Insertion) (member : other ∈ inOrder first accepted) :
      distance first other.packet.seqNum < 32768 :=
    window other ((inOrder_perm first accepted).mem_iff.mp member)
  rw [← split] at accepts
  rw [← split, storedFrom_append, Nat.zero_add]
  apply rdropWhile_append_of
  · intro stored member
    rcases numbers member with ⟨other, found, same⟩
    have otherInside := accepts other (mem_append_left _ found)
    have before := orderedBefore_le first insertion accepted other found
    rw [same] at otherInside before
    rw [notBehind, (latestSequenceNumber_eq_iff inside otherInside).mpr before]
    simp
  · intro stored member
    rcases numbers member with ⟨other, found, same⟩
    have otherInside := accepts other (mem_append_right _ found)
    have after := orderedAfter_lt first insertion accepted other found
    rw [same] at otherInside after
    have behind : ¬ latestSequenceNumber insertion.packet.seqNum stored.seqNum =
        insertion.packet.seqNum := by
      rw [latestSequenceNumber_eq_iff inside otherInside]
      omega
    rw [notBehind, decide_eq_false behind]
    rfl

/-! ## Insertion -/

/-- The packet is a media packet that is not refused. -/
def Accepts (session : VCMSessionInfo) (packet : VCMPacket) : Prop :=
  packet.frameType ≠ .kFrameEmpty ∧ session.packets.length ≠ kMaxPacketsInSession ∧
    isDuplicate packet session.packets = false ∧
    ((session.noteFirst packet).bind (noteLast packet)).isSome = true

instance (session : VCMSessionInfo) (packet : VCMPacket) : Decidable (Accepts session packet) :=
  inferInstanceAs (Decidable (_ ∧ _))

section Insert

variable {session : VCMSessionInfo} {packet : VCMPacket}

theorem noteFirst_packets :
    ∀ noted ∈ session.noteFirst packet, noted.packets = session.packets := by
  intro noted member
  rw [noteFirst] at member
  split at member
  · cases member
    rfl
  split at member
  · cases member
  split at member
  · cases member
    rfl
  · cases member
    rfl

theorem noteLast_packets :
    ∀ noted ∈ session.noteLast packet, noted.packets = session.packets := by
  intro noted member
  rw [noteLast] at member
  split at member
  · cases member
    rfl
  split at member
  · cases member
  · cases member
    rfl

theorem updateCompleteSession_packets (session : VCMSessionInfo) :
    session.updateCompleteSession.packets = session.packets := by
  rw [updateCompleteSession]
  split <;> rfl

theorem updateDecodableSession_packets (frameData : FrameData) (session : VCMSessionInfo) :
    (session.updateDecodableSession frameData).packets = session.packets := by
  rw [updateDecodableSession]
  split
  · rfl
  split <;> rfl

theorem updateState_packets (decodeErrorMode : VCMDecodeErrorMode) (frameData : FrameData)
    (session : VCMSessionInfo) :
    (session.updateState decodeErrorMode frameData).packets = session.packets := by
  cases decodeErrorMode with
  | kNoErrors => exact updateCompleteSession_packets session
  | kSelectiveErrors =>
    exact (updateDecodableSession_packets _ _).trans (updateCompleteSession_packets session)
  | kWithErrors => exact updateCompleteSession_packets session

variable (data frameBuffer : Buffer) (decodeErrorMode : VCMDecodeErrorMode) (frameData : FrameData)

theorem insertPacket_refused (refused : ¬ Accepts session packet) :
    ∃ returned next, insertPacket packet data decodeErrorMode frameData session frameBuffer =
        some (returned, next, frameBuffer) ∧
      next.packets = session.packets ∧ (packet.frameType = .kFrameEmpty ∨ returned < 0) := by
  rw [insertPacket]
  split
  case isTrue empty => exact ⟨0, _, rfl, rfl, .inl empty⟩
  rename_i media
  split
  · exact ⟨-1, _, rfl, rfl, .inr (by decide)⟩
  rename_i room
  split
  · exact ⟨-2, _, rfl, rfl, .inr (by decide)⟩
  rename_i unknown
  cases notedFirst : session.noteFirst packet with
  | none => exact ⟨-3, _, rfl, rfl, .inr (by decide)⟩
  | some middle =>
    cases notedLast : middle.noteLast packet with
    | none =>
      refine ⟨-3, middle, ?_, noteFirst_packets middle notedFirst, .inr (by decide)⟩
      simp only [notedLast]
    | some noted =>
      exact absurd ⟨media, room, Bool.eq_false_iff.mpr unknown, by simp [notedFirst, notedLast]⟩
        refused

theorem insertPacket_accepted (accepts : Accepts session packet) :
    ∃ noted : VCMSessionInfo,
      insertPacket packet data decodeErrorMode frameData session frameBuffer =
        (insertBuffer frameBuffer (packetsBefore packet.seqNum session.packets) packet data
          (packetsAfter packet.seqNum session.packets)).map fun (packets, frameBuffer) =>
            (packet.bufferSize, updateState decodeErrorMode frameData { noted with packets },
              frameBuffer) := by
  rcases accepts with ⟨media, room, unknown, inside⟩
  rcases Option.isSome_iff_exists.mp inside with ⟨noted, notedBoth⟩
  rcases Option.bind_eq_some_iff.mp notedBoth with ⟨middle, notedFirst, notedLast⟩
  refine ⟨noted, ?_⟩
  have same : noted.packets = session.packets :=
    (noteLast_packets noted notedLast).trans (noteFirst_packets middle notedFirst)
  rw [insertPacket, if_neg media, if_neg room, unknown, notedFirst]
  simp only [Bool.false_eq_true, if_false, notedLast, same]
  cases insertBuffer frameBuffer (packetsBefore packet.seqNum session.packets) packet data
    (packetsAfter packet.seqNum session.packets) <;> rfl

end Insert

/-! ## Runs -/

/-- A session with its frame buffer, and the packets that it has accepted, the latest first. -/
structure Assembly where
  session : VCMSessionInfo
  frameBuffer : Buffer
  accepted : List Insertion

namespace Assembly

def new (frameBuffer : Buffer) : Assembly where
  session := VCMSessionInfo.new
  frameBuffer := frameBuffer
  accepted := []

def step (assembly : Assembly) (insertion : Insertion) : Option Assembly := do
  let (returned, session, frameBuffer) ← insertPacket insertion.packet insertion.data
    insertion.decodeErrorMode insertion.frameData assembly.session assembly.frameBuffer
  pure {
    session, frameBuffer
    accepted :=
      if insertion.packet.frameType = .kFrameEmpty ∨ returned < 0 then assembly.accepted
      else insertion :: assembly.accepted }

/-- The frame buffer holds the accepted packets in order, and the stored packets point to
their places in it. -/
structure Assembled (first : UInt16) (assembly : Assembly) : Prop where
  contents : assembly.frameBuffer.slice 0 (contentsOf (inOrder first assembly.accepted)).length =
    contentsOf (inOrder first assembly.accepted)
  seqNums : assembly.session.packets.map VCMPacket.seqNum =
    (inOrder first assembly.accepted).map (·.packet.seqNum)
  sizes : assembly.session.packets.map VCMPacket.sizeBytes =
    (inOrder first assembly.accepted).map (·.contents.length)
  dataPtrs : ∀ before packet after, assembly.session.packets = before ++ packet :: after →
    packet.dataPtr = some (sessionLength before)

/-- A packet with a start code is put behind all stored bytes, or else the four bytes behind
its payload are those of the stored packets that it is put in front of. -/
def Seamless (assembly : Assembly) (insertion : Insertion) : Prop :=
  Accepts assembly.session insertion.packet → insertion.packet.insertStartCode = true → ∀ index < 4,
      sessionLength (packetsBefore insertion.packet.seqNum assembly.session.packets) + index <
        sessionLength assembly.session.packets →
      insertion.data (insertion.packet.sizeBytes + index) = assembly.frameBuffer
          (sessionLength (packetsBefore insertion.packet.seqNum assembly.session.packets) + index)

/-- The stored packets are the accepted ones, whatever the bytes are. -/
structure Layout (first : UInt16) (assembly : Assembly) : Prop where
  window : InWindow first assembly.accepted
  packets : assembly.session.packets = storedFrom 0 (inOrder first assembly.accepted)

variable {first : UInt16} {assembly next : Assembly} {insertion : Insertion}

theorem Layout.assembled (layout : Layout first assembly)
    (contents : assembly.frameBuffer.slice 0
        (contentsOf (inOrder first assembly.accepted)).length =
      contentsOf (inOrder first assembly.accepted)) : Assembled first assembly where
  contents := contents
  seqNums := by rw [layout.packets, storedFrom_seqNum]
  sizes := by rw [layout.packets, storedFrom_sizeBytes]
  dataPtrs before packet after split := by
    rw [layout.packets] at split
    rw [storedFrom_dataPtr _ _ split, Nat.zero_add]

theorem new_layout (first : UInt16) (frameBuffer : Buffer) : Layout first (new frameBuffer) :=
  ⟨fun _ member => (not_mem_nil member).elim, rfl⟩

theorem step_inserted {returned : Int} {session : VCMSessionInfo} {frameBuffer : Buffer}
    (inserted : insertPacket insertion.packet insertion.data insertion.decodeErrorMode
      insertion.frameData assembly.session assembly.frameBuffer =
        some (returned, session, frameBuffer)) :
    step assembly insertion = some {
      session, frameBuffer
      accepted :=
        if insertion.packet.frameType = .kFrameEmpty ∨ returned < 0 then assembly.accepted
        else insertion :: assembly.accepted } := by
  rw [step, inserted]
  rfl

theorem step_refused (refused : ¬ Accepts assembly.session insertion.packet) :
    ∃ next, step assembly insertion = some next ∧ next.frameBuffer = assembly.frameBuffer ∧
      next.session.packets = assembly.session.packets ∧ next.accepted = assembly.accepted := by
  rcases insertPacket_refused insertion.data assembly.frameBuffer insertion.decodeErrorMode
    insertion.frameData refused with ⟨returned, session, inserted, packets, result⟩
  exact ⟨_, step_inserted inserted, rfl, packets, if_pos result⟩

theorem step_accepted (layout : Layout first assembly)
    (inside : distance first insertion.packet.seqNum < 32768)
    (accepts : Accepts assembly.session insertion.packet) :
    ∃ next, step assembly insertion = some next ∧ Layout first next ∧
      next.accepted = insertion :: assembly.accepted ∧
      next.frameBuffer = insertedBuffer assembly.frameBuffer
        (contentsOf (orderedBefore first insertion assembly.accepted)).length
        (contentsOf (orderedAfter first insertion assembly.accepted)).length insertion := by
  rcases insertPacket_accepted insertion.data assembly.frameBuffer insertion.decodeErrorMode
    insertion.frameData accepts with ⟨noted, inserted⟩
  rcases packets_split inside layout.window with ⟨before, after⟩
  rw [layout.packets, before, after, insertBuffer_storedFrom, ← inOrder_cons] at inserted
  have result : ¬ (insertion.packet.frameType = .kFrameEmpty ∨
      (insertion.packet.bufferSize : Int) < 0) := by
    rintro (empty | negative)
    · exact accepts.1 empty
    · omega
  refine ⟨_, step_inserted inserted, ⟨?_, ?_⟩, if_neg result, rfl⟩
  · rw [if_neg result]
    intro other member
    rcases mem_cons.mp member with rfl | stored
    · exact inside
    · exact layout.window other stored
  · rw [if_neg result]
    exact updateState_packets _ _ _

theorem step_assembled (layout : Layout first assembly)
    (inside : distance first insertion.packet.seqNum < 32768) :
    ∃ next, step assembly insertion = some next ∧ Layout first next ∧
      (Assembled first assembly → (Assembled first next ↔ Seamless assembly insertion)) := by
  by_cases accepts : Accepts assembly.session insertion.packet
  case neg =>
    rcases step_refused accepts with ⟨next, stepped, buffer, packets, accepted⟩
    have nextLayout : Layout first next := by
      constructor
      · rw [accepted]
        exact layout.window
      · rw [packets, accepted]
        exact layout.packets
    refine ⟨next, stepped, nextLayout, fun assembled => ?_⟩
    have stays : Assembled first next := by
      apply nextLayout.assembled
      rw [buffer, accepted]
      exact assembled.contents
    exact iff_of_true stays fun accepted => absurd accepted accepts
  rcases step_accepted layout inside accepts with ⟨next, stepped, nextLayout, accepted, buffer⟩
  refine ⟨next, stepped, nextLayout, fun assembled => ?_⟩
  have whole := assembled.contents
  have split := inOrder_split first insertion assembly.accepted
  have before := (packets_split inside layout.window).1
  have nextContents : Assembled first next ↔
      next.frameBuffer.slice 0 (contentsOf (inOrder first next.accepted)).length =
        contentsOf (inOrder first next.accepted) :=
    ⟨Assembled.contents, nextLayout.assembled⟩
  rw [nextContents, accepted, buffer, inOrder_cons]
  rw [Seamless, layout.packets, before, storedFrom_sessionLength, storedFrom_sessionLength]
  rw [← split] at whole ⊢
  rw [insertedBuffer_inOrder insertion whole]
  exact ⟨fun same _ => same, fun seamless => seamless accepts⟩

/-- The frame buffer holds the packets in order after every insertion exactly if none of
them makes a seam. -/
theorem assembled_iff_seamless {first : UInt16} {insertions : List Insertion}
    (window : InWindow first insertions) (frameBuffer : Buffer) :
    (∀ count, ∃ last, Run.reached step (new frameBuffer) (insertions.take count) = some last ∧
        Assembled first last) ↔
      Run.Permitted step Seamless (new frameBuffer) insertions := by
  have initial := new_layout first frameBuffer
  exact Run.good_iff_permitted step (fun _ _ => step_assembled) initial (initial.assembled rfl)
    window

/-- A packet with that payload; the memory behind it is zero. -/
def insertionOf (seqNum : UInt16) (insertStartCode : Bool) (payload : Bytes) : Insertion where
  packet := {
    seqNum, dataPtr := none, sizeBytes := payload.length, markerBit := false
    frameType := .kVideoFrameDelta, isFirstPacket := false, completeNALU := .kNaluComplete
    insertStartCode }
  data := Buffer.zeros.overwrite 0 payload
  decodeErrorMode := .kNoErrors
  frameData := { rttMs := 0, betweenThresholds := fun _ => false }

/-- The second packet goes in front of the first one. -/
def frontInsertions : List Insertion := [insertionOf 2 false [7], insertionOf 1 true [5]]

/-- The byte of the first packet is lost. -/
theorem not_assembled_frontInsertions :
    ¬ ∀ (first : UInt16) (insertions : List Insertion), InWindow first insertions →
        ∀ (frameBuffer : Buffer) (count : Nat), ∃ last,
          Run.reached step (new frameBuffer) (insertions.take count) = some last ∧
            Assembled first last := by
  intro every
  have window : InWindow 1 frontInsertions := by unfold InWindow; decide
  rcases every 1 frontInsertions window Buffer.zeros 2 with ⟨last, run, assembled⟩
  have lost : (Run.reached step (new Buffer.zeros) (frontInsertions.take 2)).map
      (fun last => last.frameBuffer.slice 0 (contentsOf (inOrder 1 last.accepted)).length ==
        contentsOf (inOrder 1 last.accepted)) = some false := by decide +kernel
  rw [run, Option.map_some, assembled.contents] at lost
  simp at lost

theorem assembled_iff_seamless_example :
    (∀ count, ∃ last, Run.reached step (new Buffer.zeros) (frontInsertions.take count) = some last ∧
          Assembled 1 last) ↔
      Run.Permitted step Seamless (new Buffer.zeros) frontInsertions :=
  assembled_iff_seamless (by unfold InWindow; decide) Buffer.zeros

end Assembly

end ZyWebRtc.Video
