import ZyWebRtc.Video.FrameAssembly

namespace ZyWebRtc.Video.VCMSessionInfo

/-! What a packet that `InsertPacket` refuses leaves behind. -/

open Option

/-- What a refused packet has to leave as it was. -/
structure Unchanged (session : VCMSessionInfo) (frameBuffer : Buffer) (next : VCMSessionInfo)
    (nextBuffer : Buffer) : Prop where
  packets : next.packets = session.packets
  contents : nextBuffer = frameBuffer
  frameType : next.frameType = session.frameType
  firstPacketSeqNum : next.firstPacketSeqNum = session.firstPacketSeqNum
  lastPacketSeqNum : next.lastPacketSeqNum = session.lastPacketSeqNum
  complete : next.complete = session.complete
  decodable : next.decodable = session.decodable

section

variable (session : VCMSessionInfo) (packet : VCMPacket)

/-- The check against the first packet passes and changes the session. -/
def NotesFirst : Prop :=
  (packet.isFirstPacket = true ∧ session.firstPacketSeqNum = none) ∨
    (session.frameType = .kFrameEmpty ∧
      ∀ first ∈ session.firstPacketSeqNum, isNewerSequenceNumber packet.seqNum first = true)

/-- The packet is behind the last one of the frame. -/
def BehindLast : Prop :=
  ∃ last ∈ session.lastPacketSeqNum, isNewerSequenceNumber packet.seqNum last = true

/-- A media packet gets to the checks against the first and the last packet. -/
def Checked : Prop :=
  packet.frameType ≠ .kFrameEmpty ∧ session.packets.length ≠ kMaxPacketsInSession ∧
    isDuplicate packet session.packets = false

end

section Notes

variable {session noted : VCMSessionInfo} {packet : VCMPacket}

theorem noteFirst_eq (notedFirst : session.noteFirst packet = some noted) :
    noted = { session with
      frameType := noted.frameType, firstPacketSeqNum := noted.firstPacketSeqNum } := by
  rw [noteFirst] at notedFirst
  split at notedFirst
  · cases notedFirst
    rfl
  split at notedFirst
  · cases notedFirst
  split at notedFirst
  · cases notedFirst
    rfl
  · cases notedFirst
    rfl

/-- A session that the first check passes is the same one exactly if the check had nothing
to note. -/
theorem noteFirst_changes_iff (media : packet.frameType ≠ .kFrameEmpty) :
    (∃ noted ∈ session.noteFirst packet, noted.frameType ≠ session.frameType ∨
          noted.firstPacketSeqNum ≠ session.firstPacketSeqNum) ↔
      NotesFirst session packet := by
  constructor
  · rintro ⟨noted, notedFirst, changed⟩
    rw [mem_def, noteFirst] at notedFirst
    split at notedFirst
    case isTrue flagged =>
      rw [Bool.and_eq_true, isNone_iff_eq_none] at flagged
      exact .inl flagged
    split at notedFirst
    · cases notedFirst
    rename_i inside
    split at notedFirst
    · rename_i empty
      right
      refine ⟨empty.1, fun first known => ?_⟩
      rw [mem_def] at known
      rw [known] at inside
      simpa using inside
    · cases notedFirst
      simp at changed
  · rintro (⟨flagged, unknown⟩ | ⟨empty, inside⟩)
    · refine ⟨{ session with
        frameType := packet.frameType, firstPacketSeqNum := some packet.seqNum }, ?_, .inr ?_⟩
      · rw [mem_def, noteFirst, flagged, unknown]
        rfl
      · rw [unknown]
        exact some_ne_none _
    · by_cases flagged : (packet.isFirstPacket && session.firstPacketSeqNum.isNone) = true
      · refine ⟨{ session with
          frameType := packet.frameType, firstPacketSeqNum := some packet.seqNum }, ?_, .inl ?_⟩
        · rw [mem_def, noteFirst, if_pos flagged]
        · rw [empty]
          exact media
      · refine ⟨{ session with frameType := packet.frameType }, ?_, .inl ?_⟩
        · have newer : ¬ (session.firstPacketSeqNum.any fun first =>
              !isNewerSequenceNumber packet.seqNum first) = true := by
            cases known : session.firstPacketSeqNum with
            | none => simp
            | some first => simp [inside first known]
          rw [mem_def, noteFirst, if_neg flagged, if_neg newer, if_pos ⟨empty, media⟩]
        · rw [empty]
          exact media

theorem noteLast_eq_none_iff :
    session.noteLast packet = none ↔ BehindLast session packet := by
  rw [noteLast, BehindLast]
  cases known : session.lastPacketSeqNum with
  | none => cases packet.markerBit <;> simp
  | some last => simp

end Notes

section Refusal

variable (packet : VCMPacket) (data : Buffer) (decodeErrorMode : VCMDecodeErrorMode)
  (frameData : FrameData) (session : VCMSessionInfo) (frameBuffer : Buffer)

/-- A packet that is refused with a negative code leaves the session unchanged. -/
def RefusalUnchanged : Prop :=
  ∀ result ∈ insertPacket packet data decodeErrorMode frameData session frameBuffer,
    result.1 < 0 → Unchanged session frameBuffer result.2.1 result.2.2

/-- Behind the first check only the second one refuses a packet, with what the first one has
noted. -/
theorem insertPacket_checked (checked : Checked session packet) {noted : VCMSessionInfo}
    (notedFirst : session.noteFirst packet = some noted) (behind : BehindLast session packet) :
    insertPacket packet data decodeErrorMode frameData session frameBuffer =
      some (-3, noted, frameBuffer) := by
  rcases checked with ⟨media, room, unknown⟩
  have refused : noted.noteLast packet = none := by
    rw [noteLast_eq_none_iff, noteFirst_eq notedFirst]
    exact behind
  rw [insertPacket, if_neg media, if_neg room, unknown, notedFirst]
  simp only [Bool.false_eq_true, if_false, refused]

theorem insertPacket_negative {returned : Int} {next : VCMSessionInfo} {nextBuffer : Buffer}
    (inserted : insertPacket packet data decodeErrorMode frameData session frameBuffer =
      some (returned, next, nextBuffer))
    (negative : returned < 0) :
    nextBuffer = frameBuffer ∧ (next = session ∨
        Checked session packet ∧ session.noteFirst packet = some next ∧
          BehindLast session packet) := by
  rw [insertPacket] at inserted
  split at inserted
  · cases inserted
    omega
  rename_i media
  split at inserted
  · cases inserted
    exact ⟨rfl, .inl rfl⟩
  rename_i room
  split at inserted
  · cases inserted
    exact ⟨rfl, .inl rfl⟩
  rename_i unknown
  have checked : Checked session packet := ⟨media, room, Bool.eq_false_iff.mpr unknown⟩
  split at inserted
  · cases inserted
    exact ⟨rfl, .inl rfl⟩
  rename_i noted notedFirst
  split at inserted
  · rename_i refused
    cases inserted
    rw [noteLast_eq_none_iff, noteFirst_eq notedFirst] at refused
    exact ⟨rfl, .inr ⟨checked, notedFirst, refused⟩⟩
  · rename_i both notedLast
    simp only [bind_eq_bind, bind_eq_some_iff, Option.pure_def] at inserted
    rcases inserted with ⟨⟨packets, buffer⟩, stored, result⟩
    cases result
    omega

/-- A refused packet leaves the session unchanged, unless it is the check against the last
packet that refuses it and the check against the first one has noted it before. -/
theorem refusalUnchanged_iff :
    RefusalUnchanged packet data decodeErrorMode frameData session frameBuffer ↔
      ¬ (Checked session packet ∧ BehindLast session packet ∧ NotesFirst session packet) := by
  constructor
  · rintro keeps ⟨checked, behind, notes⟩
    rcases (noteFirst_changes_iff checked.1).mpr notes with ⟨noted, notedFirst, changed⟩
    have unchanged := keeps _ (insertPacket_checked packet data decodeErrorMode frameData session
      frameBuffer checked notedFirst behind) (by change (-3 : Int) < 0; decide)
    rcases changed with changed | changed
    · exact changed unchanged.frameType
    · exact changed unchanged.firstPacketSeqNum
  · rintro harmless ⟨returned, next, nextBuffer⟩ inserted negative
    rcases insertPacket_negative packet data decodeErrorMode frameData session frameBuffer inserted
      negative with ⟨buffer, same | ⟨checked, notedFirst, behind⟩⟩
    · cases same
      exact ⟨rfl, buffer, rfl, rfl, rfl, rfl, rfl⟩
    · have quiet : ¬ (next.frameType ≠ session.frameType ∨
          next.firstPacketSeqNum ≠ session.firstPacketSeqNum) := by
        intro changed
        exact harmless ⟨checked, behind,
          (noteFirst_changes_iff checked.1).mp ⟨next, notedFirst, changed⟩⟩
      rcases not_or.mp quiet with ⟨frameType, firstPacketSeqNum⟩
      have only := noteFirst_eq notedFirst
      exact {
        packets := (congrArg VCMSessionInfo.packets only :)
        contents := buffer
        frameType := not_not.mp frameType
        firstPacketSeqNum := not_not.mp firstPacketSeqNum
        lastPacketSeqNum := (congrArg VCMSessionInfo.lastPacketSeqNum only :)
        complete := (congrArg VCMSessionInfo.complete only :)
        decodable := (congrArg VCMSessionInfo.decodable only :) }

end Refusal

def flaggedPacket (seqNum : UInt16) (isFirstPacket markerBit : Bool) : VCMPacket where
  seqNum := seqNum
  dataPtr := none
  sizeBytes := 1
  markerBit := markerBit
  frameType := .kVideoFrameKey
  isFirstPacket := isFirstPacket
  completeNALU := .kNaluComplete
  insertStartCode := false

/-- The session behind the last packet of a frame, that is its first one to arrive. -/
def lastArrived : VCMSessionInfo where
  complete := false
  decodable := false
  frameType := .kVideoFrameDelta
  packets := [{ flaggedPacket 5 false true with dataPtr := some 0 }]
  emptySeqNumLow := none
  emptySeqNumHigh := none
  firstPacketSeqNum := none
  lastPacketSeqNum := some 5

def quietFrame : FrameData where
  rttMs := 0
  betweenThresholds := fun _ => false

/-- A packet that is flagged as the first one comes behind the last one. -/
theorem not_refusalUnchanged_lastArrived :
    ¬ ∀ (packet : VCMPacket) (data : Buffer) (decodeErrorMode : VCMDecodeErrorMode)
        (frameData : FrameData) (session : VCMSessionInfo) (frameBuffer : Buffer),
        RefusalUnchanged packet data decodeErrorMode frameData session frameBuffer := by
  intro every
  have unchanged := every (flaggedPacket 7 true false) Buffer.zeros .kNoErrors quietFrame
    lastArrived Buffer.zeros
    (-3, { lastArrived with frameType := .kVideoFrameKey, firstPacketSeqNum := some 7 },
      Buffer.zeros) rfl (by decide)
  exact absurd unchanged.firstPacketSeqNum (by decide)

end ZyWebRtc.Video.VCMSessionInfo
