import ZyWebRtc.Ice.Connectivity

namespace ZyWebRtc.Ice.ChannelSystem

/-! Pair priorities: the value that `Connection::priority` computes, and the one that RFC 5245
defines. -/

open Option UInt32

/-- The value for the priorities of the controlling and of the controlled agent's candidate. -/
def pairPriority (g d : UInt32) : UInt64 :=
  ((min g d).toUInt64 <<< 32) + (2 * max g d + if d < g then 1 else 0).toUInt64

/-- The pair priority of RFC 5245, without bounds. -/
def rfcPriority (pair : UInt32 × UInt32) : Nat :=
  2 ^ 32 * min pair.1.toNat pair.2.toNat + 2 * max pair.1.toNat pair.2.toNat +
    if pair.2.toNat < pair.1.toNat then 1 else 0

/-- Both priorities are in the lower half of their range. -/
def InLowerHalf (pair : UInt32 × UInt32) : Prop := max pair.1.toNat pair.2.toNat < 2 ^ 31

section

variable (system : ChannelSystem) (connection : Connection)

def localPriority? : Option UInt32 := do
  let port ← system.portOf connection
  let candidate ← port.candidates[connection.localCandidateIndex]?
  pure candidate.priority

def roleOf : Option IceRole :=
  (system.portOf connection).map Port.iceRole

/-- The priorities of the controlling and of the controlled agent's candidate, on an agent that
knows its role. -/
def pair? : Option (UInt32 × UInt32) := do
  let localPriority ← system.localPriority? connection
  let remotePriority := connection.remoteCandidate.priority
  match ← system.roleOf connection with
  | .unknown => none
  | .controlling => some (localPriority, remotePriority)
  | .controlled => some (remotePriority, localPriority)

end

/-- A connection of the other agent, for the same two candidates and in the opposite role. -/
structure Mirrors (system : ChannelSystem) (connection : Connection) (peer : ChannelSystem)
    (other : Connection) : Prop where
  localPriority : peer.localPriority? other = some connection.remoteCandidate.priority
  remotePriority : system.localPriority? connection = some other.remoteCandidate.priority
  roles : system.roleOf connection = some .controlling ∧ peer.roleOf other = some .controlled ∨
    system.roleOf connection = some .controlled ∧ peer.roleOf other = some .controlling

/-- Two connections with their pairs have the priorities of RFC 5245: the value itself, the same
one on both agents, and the order that it gives. -/
structure RankedByRfc5245 (system : ChannelSystem) (first second : Connection)
    (firstPair secondPair : UInt32 × UInt32) : Prop where
  firstValue : (system.priority first).toNat = rfcPriority firstPair
  secondValue : (system.priority second).toNat = rfcPriority secondPair
  mirrored : ∀ (peer : ChannelSystem) (other : Connection), Mirrors system first peer other →
    peer.priority other = system.priority first
  below : system.priority first < system.priority second ↔
    rfcPriority firstPair < rfcPriority secondPair
  above : system.priority second < system.priority first ↔
    rfcPriority secondPair < rfcPriority firstPair

theorem pairPriority_toNat (g d : UInt32) :
    (pairPriority g d).toNat = 2 ^ 32 * min g.toNat d.toNat + 2 * max g.toNat d.toNat % 2 ^ 32 +
      if d.toNat < g.toNat then 1 else 0 := by
  have gBound := g.toNat_lt
  have dBound := d.toNat_lt
  have high : ((min g d).toUInt64 <<< 32).toNat = 2 ^ 32 * min g.toNat d.toNat := by
    rw [UInt64.toNat_shiftLeft, toNat_toUInt64, UInt32.toNat_min, Nat.shiftLeft_eq]
    change min g.toNat d.toNat * 2 ^ 32 % 2 ^ 64 = _
    omega
  have low : (2 * max g d + if d < g then 1 else 0).toUInt64.toNat =
      2 * max g.toNat d.toNat % 2 ^ 32 + if d.toNat < g.toNat then 1 else 0 := by
    rw [toNat_toUInt64, UInt32.toNat_add, UInt32.toNat_mul, UInt32.toNat_max]
    change (2 * max g.toNat d.toNat % 2 ^ 32 + _) % 2 ^ 32 = _
    by_cases lower : d < g
    · rw [if_pos lower, if_pos (UInt32.lt_iff_toNat_lt.mp lower)]
      change (_ + 1) % 2 ^ 32 = _
      omega
    · rw [if_neg lower, if_neg fun less => lower (UInt32.lt_iff_toNat_lt.mpr less)]
      change (_ + 0) % 2 ^ 32 = _
      omega
  rw [pairPriority, UInt64.toNat_add, high, low]
  split
  · omega
  · omega

theorem pairPriority_eq_rfcPriority_iff (pair : UInt32 × UInt32) :
    (pairPriority pair.1 pair.2).toNat = rfcPriority pair ↔ InLowerHalf pair := by
  have firstBound := pair.1.toNat_lt
  have secondBound := pair.2.toNat_lt
  rw [pairPriority_toNat, rfcPriority, InLowerHalf]
  omega

theorem priority_eq_pairPriority {system : ChannelSystem} {connection : Connection}
    {pair : UInt32 × UInt32} (isPair : system.pair? connection = some pair) :
    system.priority connection = pairPriority pair.1 pair.2 := by
  simp only [pair?, bind_eq_bind, bind_eq_some_iff] at isPair
  rcases isPair with ⟨localPriority, isLocal, role, isRole, ordered⟩
  simp only [localPriority?, bind_eq_bind, bind_eq_some_iff, Option.pure_def,
    Option.some.injEq] at isLocal
  rcases isLocal with ⟨port, isPort, candidate, isCandidate, rfl⟩
  rw [roleOf, isPort, map_some, Option.some.injEq] at isRole
  subst isRole
  simp only [priority, isPort, isCandidate, map_some, getD_some]
  cases role : port.iceRole with
  | unknown =>
    rw [role] at ordered
    cases ordered
  | controlling =>
    rw [role] at ordered
    cases ordered
    rfl
  | controlled =>
    rw [role] at ordered
    cases ordered
    rfl

section

variable {system peer : ChannelSystem} {connection other : Connection}
  (mirrors : Mirrors system connection peer other)

include mirrors

theorem Mirrors.pair? :
    ∃ pair, system.pair? connection = some pair ∧ peer.pair? other = some pair := by
  rcases mirrors with ⟨localPriority, remotePriority, ⟨role, peerRole⟩ | ⟨role, peerRole⟩⟩
  · refine ⟨(other.remoteCandidate.priority, connection.remoteCandidate.priority), ?_, ?_⟩
    · rw [ChannelSystem.pair?, remotePriority, role]
      rfl
    · rw [ChannelSystem.pair?, localPriority, peerRole]
      rfl
  · refine ⟨(connection.remoteCandidate.priority, other.remoteCandidate.priority), ?_, ?_⟩
    · rw [ChannelSystem.pair?, remotePriority, role]
      rfl
    · rw [ChannelSystem.pair?, localPriority, peerRole]
      rfl

theorem priority_mirrors : peer.priority other = system.priority connection := by
  rcases mirrors.pair? with ⟨pair, isPair, isPeerPair⟩
  rw [priority_eq_pairPriority isPair, priority_eq_pairPriority isPeerPair]

end

variable {system : ChannelSystem} {first second : Connection}
  {firstPair secondPair : UInt32 × UInt32}

/-- The priorities of two connections are those of RFC 5245 exactly if all of the candidates'
priorities are in the lower half of their range. -/
theorem rankedByRfc5245_iff (isFirst : system.pair? first = some firstPair)
    (isSecond : system.pair? second = some secondPair) :
    RankedByRfc5245 system first second firstPair secondPair ↔
      InLowerHalf firstPair ∧ InLowerHalf secondPair := by
  have firstIs := priority_eq_pairPriority isFirst
  have secondIs := priority_eq_pairPriority isSecond
  constructor
  · intro ranked
    have firstValue := ranked.firstValue
    have secondValue := ranked.secondValue
    rw [firstIs, pairPriority_eq_rfcPriority_iff] at firstValue
    rw [secondIs, pairPriority_eq_rfcPriority_iff] at secondValue
    exact ⟨firstValue, secondValue⟩
  · rintro ⟨firstLow, secondLow⟩
    have firstValue : (system.priority first).toNat = rfcPriority firstPair := by
      rw [firstIs]
      exact (pairPriority_eq_rfcPriority_iff firstPair).mpr firstLow
    have secondValue : (system.priority second).toNat = rfcPriority secondPair := by
      rw [secondIs]
      exact (pairPriority_eq_rfcPriority_iff secondPair).mpr secondLow
    refine ⟨firstValue, secondValue, fun _ _ mirrors => priority_mirrors mirrors, ?_, ?_⟩
    · rw [UInt64.lt_iff_toNat_lt, firstValue, secondValue]
    · rw [UInt64.lt_iff_toNat_lt, firstValue, secondValue]

def controllingAgent (priority : UInt32) : ChannelSystem :=
  { create 1 .rfc5245 with
    ports := [{ samplePort with
      iceRole := .controlling, candidates := [⟨⟨[], .ipv4 0x0A000001, 5000⟩, priority⟩] }] }

def connectionTo (priority : UInt32) : Connection :=
  Connection.new 0 0 0 true { sampleCandidate with priority }

theorem rankedByRfc5245_low :
    RankedByRfc5245 (controllingAgent 0x7E0000FF) (connectionTo 0x7FFFFFFF) (connectionTo 1)
        (0x7E0000FF, 0x7FFFFFFF) (0x7E0000FF, 1) ↔
      InLowerHalf (0x7E0000FF, 0x7FFFFFFF) ∧ InLowerHalf (0x7E0000FF, 1) :=
  rankedByRfc5245_iff (by decide) (by decide)

/-- A peer reflexive candidate with a priority in the upper half. -/
theorem not_rankedByRfc5245_high :
    ¬ ∀ (system : ChannelSystem) (first second : Connection)
        (firstPair secondPair : UInt32 × UInt32),
        system.pair? first = some firstPair → system.pair? second = some secondPair →
          RankedByRfc5245 system first second firstPair secondPair := by
  intro every
  have ranked := every (controllingAgent 5) (connectionTo 0x80000000) (connectionTo 4)
    (5, 0x80000000) (5, 4) (by decide) (by decide)
  exact absurd ranked.firstValue (by decide)

end ZyWebRtc.Ice.ChannelSystem
