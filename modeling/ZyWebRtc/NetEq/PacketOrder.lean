import ZyWebRtc.NetEq.PacketBuffer

namespace ZyWebRtc.NetEq

/-! The order of the packets of a window, as an order of positions that do not wrap. -/

/-- Where a window of timestamps starts, and for each timestamp a window of sequence numbers. -/
structure Window where
  timestampBase : UInt32
  sequenceBase : UInt32 → UInt16

namespace Packet

def InWindow (window : Window) (packet : Packet) : Prop :=
  packet.header.timestamp - window.timestampBase < 0xFFFFFFFF / 2 ∧
    packet.header.sequenceNumber - window.sequenceBase packet.header.timestamp < 0xFFFF / 2

instance (window : Window) (packet : Packet) : Decidable (packet.InWindow window) :=
  inferInstanceAs (Decidable (_ ∧ _))

/-- Among the packets with one timestamp and one sequence number. -/
def rank (packet : Packet) : Nat :=
  if packet.syncPacket then 2 else if packet.primary then 0 else 1

def position (window : Window) (packet : Packet) : Nat :=
  ((packet.header.timestamp - window.timestampBase).toNat * 2 ^ 16 +
    (packet.header.sequenceNumber - window.sequenceBase packet.header.timestamp).toNat) * 3 +
      packet.rank

/-- Two sync packets with one timestamp and one sequence number: each is before the other. -/
def SyncClash (packet rhs : Packet) : Prop :=
  packet.syncPacket = true ∧ rhs.syncPacket = true ∧
    packet.header.timestamp = rhs.header.timestamp ∧
    packet.header.sequenceNumber = rhs.header.sequenceNumber

instance (packet rhs : Packet) : Decidable (packet.SyncClash rhs) :=
  inferInstanceAs (Decidable (_ ∧ _ ∧ _ ∧ _))

theorem SyncClash.symm {packet rhs : Packet} (clash : packet.SyncClash rhs) :
    rhs.SyncClash packet :=
  ⟨clash.2.1, clash.1, clash.2.2.1.symm, clash.2.2.2.symm⟩

theorem rank_lt (packet : Packet) : packet.rank < 3 := by
  rw [rank]
  split
  · omega
  split <;> omega

end Packet

/-! ## Comparisons inside a window -/

theorem timestamp_before_iff {base first second : UInt32}
    (firstIn : first - base < 0xFFFFFFFF / 2) (secondIn : second - base < 0xFFFFFFFF / 2)
    (different : first ≠ second) :
    second - first < 0xFFFFFFFF / 2 ↔ (first - base).toNat < (second - base).toNat := by
  have apart : first.toNat ≠ second.toNat := fun same => different (UInt32.toNat_inj.mp same)
  have bound : ((0xFFFFFFFF : UInt32) / 2).toNat = 2147483647 := rfl
  have limits := And.intro first.toNat_lt (And.intro second.toNat_lt base.toNat_lt)
  rw [UInt32.lt_iff_toNat_lt, UInt32.toNat_sub, bound] at firstIn secondIn ⊢
  rw [UInt32.toNat_sub, UInt32.toNat_sub]
  omega

theorem sequence_before_iff {base first second : UInt16}
    (firstIn : first - base < 0xFFFF / 2) (secondIn : second - base < 0xFFFF / 2)
    (different : first ≠ second) :
    second - first < 0xFFFF / 2 ↔ (first - base).toNat < (second - base).toNat := by
  have apart : first.toNat ≠ second.toNat := fun same => different (UInt16.toNat_inj.mp same)
  have bound : ((0xFFFF : UInt16) / 2).toNat = 32767 := rfl
  have limits := And.intro first.toNat_lt (And.intro second.toNat_lt base.toNat_lt)
  rw [UInt16.lt_iff_toNat_lt, UInt16.toNat_sub, bound] at firstIn secondIn ⊢
  rw [UInt16.toNat_sub, UInt16.toNat_sub]
  omega

theorem offset_ne (base : UInt32) {first second : UInt32} (different : first ≠ second) :
    (first - base).toNat ≠ (second - base).toNat := by
  intro same
  apply different
  rw [UInt32.toNat_inj] at same
  calc first = first - base + base := (UInt32.sub_add_cancel first base).symm
    _ = second - base + base := by rw [same]
    _ = second := UInt32.sub_add_cancel second base

theorem sequenceOffset_ne (base : UInt16) {first second : UInt16}
    (different : first ≠ second) :
    (first - base).toNat ≠ (second - base).toNat := by
  intro same
  apply different
  rw [UInt16.toNat_inj] at same
  calc first = first - base + base := (UInt16.sub_add_cancel first base).symm
    _ = second - base + base := by rw [same]
    _ = second := UInt16.sub_add_cancel second base

namespace Packet

variable {window : Window} {packet rhs : Packet}

theorem isBefore_iff_position (packetIn : packet.InWindow window) (rhsIn : rhs.InWindow window)
    (apart : ¬ packet.SyncClash rhs) :
    packet.isBefore rhs = true ↔ packet.position window < rhs.position window := by
  have ranks := And.intro packet.rank_lt rhs.rank_lt
  have bounds := And.intro
    (packet.header.sequenceNumber - window.sequenceBase packet.header.timestamp).toNat_lt
    (rhs.header.sequenceNumber - window.sequenceBase rhs.header.timestamp).toNat_lt
  rw [isBefore, position, position]
  by_cases sameTimestamp : packet.header.timestamp = rhs.header.timestamp
  · rw [if_pos sameTimestamp]
    rw [sameTimestamp] at bounds ⊢
    by_cases sameSequence : packet.header.sequenceNumber = rhs.header.sequenceNumber
    · rw [if_pos sameSequence, sameSequence, Nat.add_lt_add_iff_left, rank, rank]
      -- the flags decide
      cases rhsSync : rhs.syncPacket <;> cases packetSync : packet.syncPacket
      · cases packet.primary <;> cases rhs.primary <;> decide
      · cases packet.primary <;> cases rhs.primary <;> decide
      · cases packet.primary <;> cases rhs.primary <;> decide
      · exact absurd ⟨packetSync, rhsSync, sameTimestamp, sameSequence⟩ apart
    · have packetOffset := packetIn.2
      rw [sameTimestamp] at packetOffset
      have offsets := sequence_before_iff packetOffset rhsIn.2 sameSequence
      have differ := sequenceOffset_ne (window.sequenceBase rhs.header.timestamp) sameSequence
      rw [if_neg sameSequence, decide_eq_true_eq, offsets]
      omega
  · have offsets := timestamp_before_iff packetIn.1 rhsIn.1 sameTimestamp
    have differ := offset_ne window.timestampBase sameTimestamp
    rw [if_neg sameTimestamp, decide_eq_true_eq, offsets]
    omega

theorem isSame_of_position (apart : ¬ packet.SyncClash rhs)
    (same : packet.position window = rhs.position window) : packet.isSame rhs = true := by
  have ranks := And.intro packet.rank_lt rhs.rank_lt
  have bounds := And.intro
    (packet.header.sequenceNumber - window.sequenceBase packet.header.timestamp).toNat_lt
    (rhs.header.sequenceNumber - window.sequenceBase rhs.header.timestamp).toNat_lt
  rw [position, position] at same
  have sameTimestamp : packet.header.timestamp = rhs.header.timestamp := by
    by_contra different
    have differ := offset_ne window.timestampBase different
    omega
  rw [sameTimestamp] at same bounds
  have sameSequence : packet.header.sequenceNumber = rhs.header.sequenceNumber := by
    by_contra different
    have differ := sequenceOffset_ne (window.sequenceBase rhs.header.timestamp) different
    omega
  have sameRank : packet.rank = rhs.rank := by
    rw [sameSequence] at same
    omega
  have flags : packet.primary = rhs.primary ∧ packet.syncPacket = rhs.syncPacket := by
    rw [rank, rank] at sameRank
    cases rhsSync : rhs.syncPacket <;> cases packetSync : packet.syncPacket
    · rw [rhsSync, packetSync] at sameRank
      revert sameRank
      cases packet.primary <;> cases rhs.primary <;> decide
    · rw [rhsSync, packetSync] at sameRank
      revert sameRank
      cases packet.primary <;> cases rhs.primary <;> decide
    · rw [rhsSync, packetSync] at sameRank
      revert sameRank
      cases packet.primary <;> cases rhs.primary <;> decide
    · exact absurd ⟨packetSync, rhsSync, sameTimestamp, sameSequence⟩ apart
  rw [isSame, decide_eq_true_eq]
  exact ⟨sameTimestamp, sameSequence, flags⟩

end Packet

end ZyWebRtc.NetEq
