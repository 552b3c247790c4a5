import ZyWebRtc.Foundation.Ring
import ZyWebRtc.Foundation.Run
import ZyWebRtc.Foundation.SequenceNumber

namespace ZyWebRtc.Video

/-! `VCMTimestampMap`: the ring in which the decoder keeps what it knows about a frame until the
frame comes back under its RTP timestamp. -/

open ZyWebRtc.Ring
open List

universe u

/-- The `NULL` pointer is no data. -/
structure VCMTimestampDataTuple (Data : Type u) where
  timestamp : UInt32
  data : Option Data
deriving Repr, DecidableEq

/-- The indices stay inside the array. -/
structure VCMTimestampMap (Data : Type u) where
  map : Nat → VCMTimestampDataTuple Data
  nextAddIx : Nat
  nextPopIx : Nat
  length : Nat
  nextAddIx_lt : nextAddIx < length
  nextPopIx_lt : nextPopIx < length

namespace VCMTimestampMap

variable {Data : Type u}

/-- The array is not initialized; a length that is not positive is replaced. -/
def create (length : Int) (memory : Nat → VCMTimestampDataTuple Data) : VCMTimestampMap Data where
  map := memory
  nextAddIx := 0
  nextPopIx := 0
  length := if length ≤ 0 then 10 else length.toNat
  nextAddIx_lt := by split <;> omega
  nextPopIx_lt := by split <;> omega

section

variable (self : VCMTimestampMap Data)

theorem length_pos : 0 < self.length := by
  have inside := self.nextAddIx_lt
  omega

def next (index : Nat) : Nat := (index + 1) % self.length

theorem next_lt (index : Nat) : self.next index < self.length :=
  Nat.mod_lt _ self.length_pos

def isEmpty : Bool := self.nextAddIx == self.nextPopIx

/-- The oldest entry is left behind. -/
def forget : VCMTimestampMap Data :=
  { self with
    nextPopIx := self.next self.nextPopIx
    nextPopIx_lt := self.next_lt _ }

/-- `Add`: -1 when the ring is full and its oldest entry is forgotten. -/
def add (timestamp : UInt32) (data : Option Data) :
    Int × VCMTimestampMap Data :=
  let stored : VCMTimestampMap Data := { self with
    map := Function.update self.map self.nextAddIx ⟨timestamp, data⟩
    nextAddIx := self.next self.nextAddIx
    nextAddIx_lt := self.next_lt _ }
  if stored.nextAddIx = stored.nextPopIx then (-1, stored.forget) else (0, stored)

/-- The loop of `Pop`, which ends before the ring has been passed once. -/
def popLoop : Nat → VCMTimestampMap Data → UInt32 → Option Data × VCMTimestampMap Data
  | 0, self, _ => (none, self)
  | fuel + 1, self, timestamp =>
    if self.isEmpty then (none, self)
    else if (self.map self.nextPopIx).timestamp = timestamp then
      ((self.map self.nextPopIx).data, forget { self with
          map := Function.update self.map self.nextPopIx
            { self.map self.nextPopIx with data := none } })
    else if timestamp < (self.map self.nextPopIx).timestamp then (none, self)
    else popLoop fuel self.forget timestamp

def pop (timestamp : UInt32) : Option Data × VCMTimestampMap Data :=
  popLoop self.length self timestamp

@[simp] theorem length_forget : self.forget.length = self.length := rfl

@[simp] theorem length_add (timestamp : UInt32)
    (data : Option Data) : (self.add timestamp data).2.length = self.length := by
  unfold add
  dsimp only
  split <;> rfl

/-! ## The entries in line -/

/-- The entries that wait, the oldest one first. -/
def outstanding : List (VCMTimestampDataTuple Data) :=
  Ring.contents self.map self.length self.nextPopIx
    (Ring.distance self.length self.nextPopIx self.nextAddIx)

theorem length_outstanding_lt : self.outstanding.length < self.length := by
  rw [outstanding, Ring.length_contents]
  exact distance_lt self.length_pos

theorem isEmpty_iff : self.isEmpty = true ↔ self.outstanding = [] := by
  rw [isEmpty, beq_iff_eq, ← length_eq_zero_iff, outstanding, Ring.length_contents,
    distance_eq_zero_iff self.nextPopIx_lt self.nextAddIx_lt]

theorem outstanding_eq_cons {self : VCMTimestampMap Data} (some_entry : self.isEmpty = false) :
    self.outstanding = self.map self.nextPopIx :: self.forget.outstanding := by
  have headInside := self.nextPopIx_lt
  have positive : 0 < self.length := self.length_pos
  have apart : Ring.distance self.length self.nextPopIx self.nextAddIx ≠ 0 := by
    rw [ne_eq, distance_eq_zero_iff headInside self.nextAddIx_lt]
    simpa [isEmpty] using some_entry
  rcases Nat.exists_eq_succ_of_ne_zero apart with ⟨count, counted⟩
  have short : Ring.distance self.length self.nextPopIx self.nextAddIx < self.length :=
    distance_lt positive
  have remaining : Ring.distance self.length (self.next self.nextPopIx) self.nextAddIx = count := by
    apply distance_eq (self.next_lt _) (by omega)
    rw [next, Nat.mod_add_mod, Nat.add_assoc, Nat.add_comm 1, ← Nat.succ_eq_add_one, ← counted]
    exact head_add_distance headInside self.nextAddIx_lt
  rw [outstanding, counted, Nat.succ_eq_add_one, contents_cons _ headInside, outstanding]
  change _ = _ :: Ring.contents self.map self.length (self.next self.nextPopIx) _
  congr 1
  change _ = Ring.contents self.map self.length (self.next self.nextPopIx)
    (Ring.distance self.length (self.next self.nextPopIx) self.nextAddIx)
  rw [remaining, next]

theorem outstanding_add (timestamp : UInt32) (data : Option Data) :
    (self.add timestamp data).2.outstanding =
      (self.outstanding ++ [VCMTimestampDataTuple.mk timestamp data]).drop
        (self.outstanding.length + 2 - self.length) := by
  have headInside := self.nextPopIx_lt
  have short := self.length_outstanding_lt
  rw [outstanding, Ring.length_contents] at short
  rw [show self.outstanding.length = Ring.distance self.length self.nextPopIx self.nextAddIx from
    Ring.length_contents _ _ _ _]
  have reached := head_add_distance headInside self.nextAddIx_lt
  have appended := contents_update self.map self.nextPopIx
    (VCMTimestampDataTuple.mk timestamp data) short
  rw [reached] at appended
  rw [show self.outstanding = Ring.contents self.map self.length self.nextPopIx _ from rfl,
    ← appended]
  generalize Ring.distance self.length self.nextPopIx self.nextAddIx = count at *
  have onwards : (self.nextPopIx + (count + 1)) % self.length = self.next self.nextAddIx := by
    rw [next, ← reached, Nat.mod_add_mod, Nat.add_assoc]
  unfold add
  dsimp only
  by_cases full : count + 1 = self.length
  · have wrapped : self.next self.nextAddIx = self.nextPopIx := by
      rw [← onwards, full, Nat.add_mod_right, Nat.mod_eq_of_lt headInside]
    rw [if_pos wrapped, show count + 2 - self.length = 1 by omega, contents_cons _ headInside,
      drop_one, tail_cons]
    have behind : (self.next self.nextPopIx + count) % self.length = self.next self.nextAddIx := by
      rw [← onwards, next, Nat.mod_add_mod, Nat.add_assoc, Nat.add_comm 1]
    change Ring.contents _ self.length (self.next self.nextPopIx)
      (Ring.distance self.length (self.next self.nextPopIx) (self.next self.nextAddIx)) = _
    rw [distance_eq (self.next_lt _) short behind]
    rfl
  · have apart : self.next self.nextAddIx ≠ self.nextPopIx := by
      intro wrapped
      have round := distance_eq headInside (show count + 1 < self.length by omega) onwards
      rw [(distance_eq_zero_iff headInside (self.next_lt _)).mpr wrapped] at round
      omega
    rw [if_neg apart, show count + 2 - self.length = 0 by omega, drop_zero]
    change Ring.contents _ self.length self.nextPopIx
      (Ring.distance self.length self.nextPopIx (self.next self.nextAddIx)) = _
    rw [distance_eq headInside (show count + 1 < self.length by omega) onwards]

/-- What `Pop` does to the entries in line: it passes those whose timestamp is numerically
smaller, and stops at the first one whose timestamp is not. -/
def scan (timestamp : UInt32) :
    List (VCMTimestampDataTuple Data) → Option Data × List (VCMTimestampDataTuple Data)
  | [] => (none, [])
  | entry :: rest =>
    if entry.timestamp = timestamp then (entry.data, rest)
    else if timestamp < entry.timestamp then (none, entry :: rest)
    else scan timestamp rest

theorem length_popLoop (fuel : Nat) (self : VCMTimestampMap Data) (timestamp : UInt32) :
    (popLoop fuel self timestamp).2.length = self.length := by
  induction fuel generalizing self with
  | zero => rfl
  | succ fuel induction =>
    unfold popLoop
    split
    · rfl
    · split
      · rfl
      · split
        · rfl
        · rw [induction, length_forget]

theorem outstanding_popLoop (timestamp : UInt32) :
    ∀ (fuel : Nat) (self : VCMTimestampMap Data), self.outstanding.length ≤ fuel →
      ((popLoop fuel self timestamp).1, (popLoop fuel self timestamp).2.outstanding) =
        scan timestamp self.outstanding := by
  intro fuel
  induction fuel with
  | zero =>
    intro self enough
    have none_waits : self.outstanding = [] := length_eq_zero_iff.mp (by omega)
    rw [popLoop, none_waits, scan]
  | succ fuel induction =>
    intro self enough
    rw [popLoop]
    by_cases empty : self.isEmpty = true
    · rw [if_pos empty, (isEmpty_iff self).mp empty, scan]
    · have line := outstanding_eq_cons (Bool.eq_false_iff.mpr empty)
      rw [line, length_cons] at enough
      rw [if_neg empty, line, scan]
      by_cases found : (self.map self.nextPopIx).timestamp = timestamp
      · rw [if_pos found, if_pos found]
        congr 1
        exact contents_update_front self.map _ self.nextPopIx_lt
          (distance_lt self.length_pos)
      · rw [if_neg found, if_neg found]
        by_cases later : timestamp < (self.map self.nextPopIx).timestamp
        · rw [if_pos later, if_pos later, line]
        · rw [if_neg later, if_neg later]
          exact induction self.forget (by omega)

theorem outstanding_pop (timestamp : UInt32) :
    ((self.pop timestamp).1, (self.pop timestamp).2.outstanding) =
      scan timestamp self.outstanding :=
  outstanding_popLoop timestamp self.length self self.length_outstanding_lt.le

@[simp] theorem length_pop (timestamp : UInt32) :
    (self.pop timestamp).2.length = self.length := length_popLoop _ self timestamp

end

theorem scan_of_lt {timestamp : UInt32} {front : List (VCMTimestampDataTuple Data)}
    (passed : ∀ entry ∈ front, entry.timestamp < timestamp)
    (rest : List (VCMTimestampDataTuple Data)) :
    scan timestamp (front ++ rest) = scan timestamp rest := by
  induction front with
  | nil => rfl
  | cons entry front induction =>
    have smaller := passed entry mem_cons_self
    rw [cons_append, scan, if_neg (UInt32.ne_of_lt smaller), if_neg (UInt32.lt_asymm smaller)]
    exact induction fun other member => passed other (mem_cons_of_mem _ member)

theorem scan_of_gt {timestamp : UInt32} {front : List (VCMTimestampDataTuple Data)}
    (others : ∀ entry ∈ front, entry.timestamp ≠ timestamp)
    {stop : VCMTimestampDataTuple Data} (larger : timestamp < stop.timestamp)
    (rest : List (VCMTimestampDataTuple Data)) :
    (scan timestamp (front ++ stop :: rest)).1 = none ∧
      stop :: rest <:+ (scan timestamp (front ++ stop :: rest)).2 := by
  induction front with
  | nil =>
    rw [nil_append, scan, if_neg (UInt32.ne_of_lt larger).symm, if_pos larger]
    exact ⟨rfl, suffix_rfl⟩
  | cons entry front induction =>
    rw [cons_append, scan, if_neg (others entry mem_cons_self)]
    split
    · refine ⟨rfl, ?_⟩
      rw [← cons_append]
      exact suffix_append _ _
    · exact induction fun other member => others other (mem_cons_of_mem _ member)

theorem scan_suffix (timestamp : UInt32) (entries : List (VCMTimestampDataTuple Data)) :
    (scan timestamp entries).2 <:+ entries := by
  induction entries with
  | nil => exact suffix_rfl
  | cons entry rest induction =>
    rw [scan]
    split
    · exact suffix_cons entry rest
    · split
      · exact suffix_rfl
      · exact induction.trans (suffix_cons entry rest)

end VCMTimestampMap

/-! ## Times

The RTP timestamp of a frame is the low half of a time that never wraps. -/

def rtpTimestamp (time : Nat) : UInt32 := UInt32.ofNat time

/-- Times on the same half of the circle, where timestamps have an order. -/
def Close (time other : Nat) : Prop := time < other + 2 ^ 31 ∧ other < time + 2 ^ 31

instance (time other : Nat) : Decidable (Close time other) :=
  inferInstanceAs (Decidable (_ ∧ _))

theorem toNat_rtpTimestamp (time : Nat) : (rtpTimestamp time).toNat = time % 2 ^ 32 :=
  UInt32.toNat_ofNat'

theorem rtpTimestamp_inj {time other : Nat} :
    rtpTimestamp time = rtpTimestamp other ↔ time % 2 ^ 32 = other % 2 ^ 32 := by
  rw [← UInt32.toNat_inj, toNat_rtpTimestamp, toNat_rtpTimestamp]

theorem rtpTimestamp_lt_iff {time other : Nat} :
    rtpTimestamp time < rtpTimestamp other ↔ time % 2 ^ 32 < other % 2 ^ 32 := by
  rw [UInt32.lt_iff_toNat_lt, toNat_rtpTimestamp, toNat_rtpTimestamp]

theorem rtpTimestamp_eq_iff {time other : Nat} (close : Close time other) :
    rtpTimestamp time = rtpTimestamp other ↔ time = other := by
  rw [rtpTimestamp_inj]
  rcases close with ⟨_, _⟩
  omega

theorem isNewerTimestamp_iff {time other : Nat} (close : Close time other) :
    isNewerTimestamp (rtpTimestamp time) (rtpTimestamp other) = true ↔ other < time := by
  rw [isNewerTimestamp, Bool.and_eq_true, decide_eq_true_eq, decide_eq_true_eq, ne_eq,
    rtpTimestamp_eq_iff close, UInt32.lt_iff_toNat_lt, UInt32.toNat_sub, toNat_rtpTimestamp,
    toNat_rtpTimestamp, show (0x80000000 : UInt32).toNat = 2 ^ 31 from rfl]
  rcases close with ⟨_, _⟩
  omega

namespace VCMTimestampMap

variable {Info : Type u}

def stored (entry : Nat × Info) : VCMTimestampDataTuple Info :=
  ⟨rtpTimestamp entry.1, some entry.2⟩

theorem exists_split {entries : List (Nat × Info)}
    (increasing : entries.Pairwise fun entry later => entry.1 < later.1) (time : Nat) :
    ∃ front back, entries = front ++ back ∧ (∀ entry ∈ front, entry.1 < time) ∧
      ∀ entry ∈ back, time ≤ entry.1 := by
  induction entries with
  | nil => exact ⟨[], [], rfl, by simp, by simp⟩
  | cons head tail induction =>
    rcases pairwise_cons.mp increasing with ⟨later, increasingTail⟩
    by_cases older : head.1 < time
    · rcases induction increasingTail with ⟨front, back, rfl, before, after⟩
      exact ⟨head :: front, back, rfl, List.forall_mem_cons.mpr ⟨older, before⟩, after⟩
    · refine ⟨[], head :: tail, rfl, by simp, ?_⟩
      intro entry member
      rcases List.mem_cons.mp member with rfl | behind
      · omega
      · have after := later entry behind
        omega

theorem info_unique {entries : List (Nat × Info)}
    (increasing : entries.Pairwise fun entry later => entry.1 < later.1) {time : Nat}
    {first second : Info} (firstMember : (time, first) ∈ entries)
    (secondMember : (time, second) ∈ entries) : first = second := by
  rcases append_of_mem firstMember with ⟨front, back, rfl⟩
  rw [pairwise_append, pairwise_cons] at increasing
  rcases increasing with ⟨_, ⟨behind, _⟩, ahead⟩
  rcases List.mem_append.mp secondMember with inFront | inBack
  · exact absurd (ahead _ inFront _ mem_cons_self) (lt_irrefl time)
  · rcases List.mem_cons.mp inBack with same | inBack
    · exact (Prod.mk.inj same).2.symm
    · exact absurd (behind _ inBack) (lt_irrefl time)

section Scan

variable {entries : List (Nat × Info)} {time : Nat}
  (increasing : entries.Pairwise fun entry later => entry.1 < later.1)
  (close : ∀ entry ∈ entries, Close entry.1 time)

include increasing close

theorem scan_waiting {info : Info} (waits : (time, info) ∈ entries)
    (smaller : ∀ entry ∈ entries, entry.1 < time → rtpTimestamp entry.1 < rtpTimestamp time) :
    ∃ back : List (Nat × Info), scan (rtpTimestamp time) (entries.map stored) =
      (some info, back.map stored) ∧
      ∀ entry ∈ entries, time < entry.1 → entry ∈ back := by
  rcases append_of_mem waits with ⟨front, back, rfl⟩
  rw [pairwise_append, pairwise_cons] at increasing
  rcases increasing with ⟨_, ⟨behind, _⟩, ahead⟩
  refine ⟨back, ?_, ?_⟩
  · rw [map_append, scan_of_lt]
    · rw [map_cons, scan]
      exact if_pos rfl
    · intro tuple member
      rcases List.mem_map.mp member with ⟨entry, inFront, rfl⟩
      exact smaller entry (mem_append_left _ inFront)
        (ahead entry inFront _ mem_cons_self)
  · intro entry member newer
    rcases List.mem_append.mp member with inFront | inBack
    · have older := ahead entry inFront _ mem_cons_self
      omega
    · rcases List.mem_cons.mp inBack with rfl | inBack
      · omega
      · exact inBack

theorem scan_blocked {entry : Nat × Info} (waits : entry ∈ entries) (older : entry.1 < time)
    (larger : rtpTimestamp time < rtpTimestamp entry.1) :
    (scan (rtpTimestamp time) (entries.map stored)).1 = none := by
  rcases append_of_mem waits with ⟨front, back, rfl⟩
  rw [pairwise_append] at increasing
  rw [map_append]
  apply (scan_of_gt _ larger _).1
  intro tuple member
  rcases List.mem_map.mp member with ⟨other, inFront, rfl⟩
  have ahead := increasing.2.2 other inFront entry mem_cons_self
  intro same
  have equal := (rtpTimestamp_eq_iff (close other (mem_append_left _ inFront))).mp same
  omega

/-- Without an entry of its own the scan stops at the first newer one, unless that one comes
after the wrap. -/
theorem scan_stopped (absent : ∀ entry ∈ entries, entry.1 ≠ time) {entry : Nat × Info}
    (waits : entry ∈ entries) (newer : time < entry.1)
    (larger : rtpTimestamp time < rtpTimestamp entry.1) :
    ∀ other ∈ entries, time < other.1 →
      stored other ∈ (scan (rtpTimestamp time) (entries.map stored)).2 := by
  rcases exists_split increasing time with ⟨front, back, rfl, before, after⟩
  have inBack : ∀ other ∈ front ++ back, time < other.1 → other ∈ back := by
    intro other member newerOther
    rcases List.mem_append.mp member with inFront | inBack
    · have older := before other inFront
      omega
    · exact inBack
  cases back with
  | nil => exact absurd (inBack entry waits newer) not_mem_nil
  | cons first rest =>
    have firstMember : first ∈ front ++ first :: rest :=
      mem_append_right _ mem_cons_self
    have firstNewer : time < first.1 := by
      have notOlder := after first mem_cons_self
      have other := absent first firstMember
      omega
    have notAfter : first.1 ≤ entry.1 := by
      rcases List.mem_cons.mp (inBack entry waits newer) with rfl | behind
      · exact le_rfl
      · rw [pairwise_append, pairwise_cons] at increasing
        exact (increasing.2.1.1 entry behind).le
    have firstLarger : rtpTimestamp time < (stored first).timestamp := by
      change rtpTimestamp time < rtpTimestamp first.1
      rw [rtpTimestamp_lt_iff] at larger ⊢
      have bound := (close entry waits).1
      omega
    have others : ∀ tuple ∈ front.map stored, tuple.timestamp ≠ rtpTimestamp time := by
      intro tuple member same
      rcases List.mem_map.mp member with ⟨other, inFront, rfl⟩
      have closeOther := close other (mem_append_left _ inFront)
      have equal := (rtpTimestamp_eq_iff closeOther).mp same
      have older := before other inFront
      omega
    have stopped := (scan_of_gt others firstLarger (rest.map stored)).2
    intro other member newerOther
    rw [map_append, map_cons]
    apply stopped.subset
    rw [← map_cons]
    exact mem_map_of_mem (inBack other member newerOther)

omit increasing in
/-- Without an entry of its own the scan passes the newer ones when all of them come after the
wrap. -/
theorem scan_emptied (absent : ∀ entry ∈ entries, entry.1 ≠ time) {entry : Nat × Info}
    (waits : entry ∈ entries) (newer : time < entry.1)
    (wrapped : ∀ other ∈ entries, time < other.1 → ¬rtpTimestamp time < rtpTimestamp other.1) :
    (scan (rtpTimestamp time) (entries.map stored)).2 = [] := by
  have smaller : ∀ tuple ∈ entries.map stored, tuple.timestamp < rtpTimestamp time := by
    intro tuple member
    rcases List.mem_map.mp member with ⟨other, inside, rfl⟩
    have past := wrapped entry waits newer
    have other_ne := absent other inside
    have here := wrapped other inside
    rw [rtpTimestamp_lt_iff] at past here
    rcases close other inside with ⟨_, _⟩
    rcases close entry waits with ⟨_, _⟩
    change rtpTimestamp other.1 < rtpTimestamp time
    rw [rtpTimestamp_lt_iff]
    omega
  have all := scan_of_lt smaller []
  rw [append_nil] at all
  rw [all, scan]

end Scan

/-! ## Single steps -/

/-- `Pop` looks for a timestamp across no wrap that an entry in the ring is on the other side
of: the entries in front of the one it looks for, or else the next one behind. -/
def InNumericalOrder (self : VCMTimestampMap Info) (timestamp : UInt32) : Prop :=
  ((∃ entry ∈ self.outstanding, entry.timestamp = timestamp) →
    ∀ entry ∈ self.outstanding, isNewerTimestamp timestamp entry.timestamp = true →
      entry.timestamp < timestamp) ∧
  ((∀ entry ∈ self.outstanding, entry.timestamp ≠ timestamp) →
    (∃ entry ∈ self.outstanding, isNewerTimestamp entry.timestamp timestamp = true) →
      ∃ entry ∈ self.outstanding, isNewerTimestamp entry.timestamp timestamp = true ∧
        timestamp < entry.timestamp)

instance [DecidableEq Info] (self : VCMTimestampMap Info) (timestamp : UInt32) :
    Decidable (self.InNumericalOrder timestamp) :=
  inferInstanceAs (Decidable (_ ∧ _))

/-- `Pop` keeps every entry that is newer than its timestamp. -/
def KeepsNewer (self : VCMTimestampMap Info) (timestamp : UInt32) : Prop :=
  ∀ entry ∈ self.outstanding, isNewerTimestamp entry.timestamp timestamp = true →
    entry ∈ (self.pop timestamp).2.outstanding

instance [DecidableEq Info] (self : VCMTimestampMap Info) (timestamp : UInt32) :
    Decidable (self.KeepsNewer timestamp) :=
  inferInstanceAs (Decidable (∀ _ ∈ _, _))

section Pop

variable {self : VCMTimestampMap Info} {entries : List (Nat × Info)} {time : Nat}
  (line : self.outstanding = entries.map stored)
  (increasing : entries.Pairwise fun entry later => entry.1 < later.1)
  (close : ∀ entry ∈ entries, Close entry.1 time)

include line increasing close

theorem pop_of_inNumericalOrder (ordered : self.InNumericalOrder (rtpTimestamp time)) :
    (∀ info, (time, info) ∈ entries → (self.pop (rtpTimestamp time)).1 = some info) ∧
      self.KeepsNewer (rtpTimestamp time) := by
  have result := outstanding_pop self (rtpTimestamp time)
  rw [line, Prod.ext_iff] at result
  rcases result with ⟨popped, left⟩
  dsimp only at popped left
  rw [InNumericalOrder, line] at ordered
  rw [KeepsNewer, line, left, popped]
  have newerThan : ∀ tuple ∈ entries.map stored,
      isNewerTimestamp tuple.timestamp (rtpTimestamp time) = true →
        ∃ entry ∈ entries, stored entry = tuple ∧ time < entry.1 := by
    intro tuple member newer
    rcases List.mem_map.mp member with ⟨entry, inside, rfl⟩
    exact ⟨entry, inside, rfl, (isNewerTimestamp_iff (close entry inside)).mp newer⟩
  by_cases waits : ∃ info, (time, info) ∈ entries
  · rcases waits with ⟨info, waits⟩
    have smaller : ∀ entry ∈ entries, entry.1 < time →
        rtpTimestamp entry.1 < rtpTimestamp time := by
      intro entry inside older
      apply ordered.1 ⟨_, mem_map_of_mem waits, rfl⟩ _ (mem_map_of_mem inside)
      exact (isNewerTimestamp_iff (close entry inside).symm).mpr older
    rcases scan_waiting increasing close waits smaller with ⟨back, scanned, kept⟩
    rw [scanned]
    constructor
    · intro other waitsOther
      rw [info_unique increasing waitsOther waits]
    · intro tuple member newer
      rcases newerThan tuple member newer with ⟨entry, inside, rfl, after⟩
      exact mem_map_of_mem (kept entry inside after)
  · have absent : ∀ entry ∈ entries, entry.1 ≠ time := by
      rintro ⟨other, info⟩ inside rfl
      exact waits ⟨info, inside⟩
    refine ⟨fun info waitsHere => absurd ⟨info, waitsHere⟩ waits, ?_⟩
    intro tuple member newer
    have noneEqual : ∀ tuple ∈ entries.map stored, tuple.timestamp ≠ rtpTimestamp time := by
      intro tuple member same
      rcases List.mem_map.mp member with ⟨entry, inside, rfl⟩
      exact absent entry inside ((rtpTimestamp_eq_iff (close entry inside)).mp same)
    rcases ordered.2 noneEqual ⟨tuple, member, newer⟩ with ⟨next, nextMember, nextNewer, larger⟩
    rcases newerThan next nextMember nextNewer with ⟨entry, inside, rfl, after⟩
    rcases newerThan tuple member newer with ⟨other, otherInside, rfl, otherAfter⟩
    exact scan_stopped increasing close absent inside after larger other otherInside otherAfter

theorem inNumericalOrder_of_pop
    (found : ∀ info, (time, info) ∈ entries → (self.pop (rtpTimestamp time)).1 = some info)
    (kept : self.KeepsNewer (rtpTimestamp time)) : self.InNumericalOrder (rtpTimestamp time) := by
  have result := outstanding_pop self (rtpTimestamp time)
  rw [line, Prod.ext_iff] at result
  rcases result with ⟨popped, left⟩
  dsimp only at popped left
  rw [KeepsNewer, line, left] at kept
  rw [popped] at found
  rw [InNumericalOrder, line]
  constructor
  · rintro ⟨tuple, member, same⟩ other otherMember older
    rcases List.mem_map.mp member with ⟨⟨waiting, info⟩, inside, rfl⟩
    rcases List.mem_map.mp otherMember with ⟨entry, otherInside, rfl⟩
    have here : waiting = time := (rtpTimestamp_eq_iff (close _ inside)).mp same
    subst here
    have before := (isNewerTimestamp_iff (close entry otherInside).symm).mp older
    by_contra notSmaller
    have larger : rtpTimestamp waiting < rtpTimestamp entry.1 := by
      have apart : rtpTimestamp entry.1 ≠ rtpTimestamp waiting := fun equal =>
        absurd ((rtpTimestamp_eq_iff (close entry otherInside)).mp equal) before.ne
      change ¬rtpTimestamp entry.1 < rtpTimestamp waiting at notSmaller
      rw [ne_eq, rtpTimestamp_inj] at apart
      rw [rtpTimestamp_lt_iff] at notSmaller ⊢
      omega
    have blocked := scan_blocked increasing close otherInside before larger
    rw [found info inside] at blocked
    exact absurd blocked (Option.some_ne_none info)
  · rintro noneEqual ⟨tuple, member, newer⟩
    rcases List.mem_map.mp member with ⟨entry, inside, rfl⟩
    have after := (isNewerTimestamp_iff (close entry inside)).mp newer
    have absent : ∀ entry ∈ entries, entry.1 ≠ time := by
      rintro ⟨other, info⟩ inside rfl
      exact noneEqual _ (mem_map_of_mem inside) rfl
    by_contra none_larger
    have emptied := scan_emptied close absent inside after (fun other otherInside otherAfter larger =>
      none_larger ⟨stored other, mem_map_of_mem otherInside,
        (isNewerTimestamp_iff (close other otherInside)).mpr otherAfter, larger⟩)
    have there := kept _ member newer
    rw [emptied] at there
    exact absurd there not_mem_nil

end Pop

end VCMTimestampMap

/-! ## Runs -/

/-- Frames go into the decoder, and come out of it. -/
inductive TimestampEvent (Info : Type u) where
  | add (time : Nat) (info : Info)
  | pop (time : Nat)
deriving Repr, DecidableEq

/-- The map, what was added so far, and the first time that no `Pop` has passed. -/
structure MappedFrames (Info : Type u) where
  ring : VCMTimestampMap Info
  added : List (Nat × Info)
  awaited : Nat

namespace MappedFrames

variable {Info : Type u}

def start (length : Int) (memory : Nat → VCMTimestampDataTuple Info) : MappedFrames Info :=
  ⟨VCMTimestampMap.create length memory, [], 0⟩

section

variable (frames : MappedFrames Info)

def step : TimestampEvent Info → MappedFrames Info
  | .add time info => { frames with
      ring := (frames.ring.add (rtpTimestamp time) (some info)).2
      added := frames.added ++ [(time, info)] }
  | .pop time => { frames with
      ring := (frames.ring.pop (rtpTimestamp time)).2
      awaited := time + 1 }

/-- The entries for which the ring has room, less the cell that is always free. -/
def notOverwritten : List (Nat × Info) :=
  frames.added.drop (frames.added.length + 1 - frames.ring.length)

/-- Frames are added in the order of their times and come back in this order, each within half
a circle of the entries that are not overwritten. -/
def InOrder : TimestampEvent Info → Prop
  | .add time _ => ∀ entry ∈ frames.added, entry.1 < time
  | .pop time => frames.awaited ≤ time ∧ ∀ entry ∈ frames.notOverwritten, Close entry.1 time

/-- `Pop` returns what was added for its timestamp, unless that is overwritten, and keeps
what is newer. -/
def ReturnsAdded : TimestampEvent Info → Prop
  | .add _ _ => True
  | .pop time =>
    (∀ entry ∈ frames.notOverwritten, entry.1 = time →
      (frames.ring.pop (rtpTimestamp time)).1 = some entry.2) ∧
    frames.ring.KeepsNewer (rtpTimestamp time)

def SeesNoWrap : TimestampEvent Info → Prop
  | .add _ _ => True
  | .pop time => frames.ring.InNumericalOrder (rtpTimestamp time)

end

instance [DecidableEq Info] (frames : MappedFrames Info) :
    ∀ event, Decidable (frames.InOrder event)
  | .add _ _ => inferInstanceAs (Decidable (∀ _ ∈ _, _))
  | .pop _ => inferInstanceAs (Decidable (_ ∧ ∀ _ ∈ _, _))

instance [DecidableEq Info] (frames : MappedFrames Info) :
    ∀ event, Decidable (frames.ReturnsAdded event)
  | .add _ _ => inferInstanceAs (Decidable True)
  | .pop _ => inferInstanceAs (Decidable ((∀ _ ∈ _, _) ∧ _))

instance [DecidableEq Info] (frames : MappedFrames Info) :
    ∀ event, Decidable (frames.SeesNoWrap event)
  | .add _ _ => inferInstanceAs (Decidable True)
  | .pop _ => inferInstanceAs (Decidable (VCMTimestampMap.InNumericalOrder _ _))

/-- The ring holds the last entries, and those that it lost too early are passed. -/
structure Invariant (frames : MappedFrames Info) : Prop where
  increasing : frames.added.Pairwise fun entry later => entry.1 < later.1
  line : ∃ passed ≤ frames.added.length,
    frames.ring.outstanding = (frames.added.drop passed).map VCMTimestampMap.stored ∧
    ∀ index < passed, ∀ entry, frames.added[index]? = some entry →
      frames.added.length < index + frames.ring.length → entry.1 < frames.awaited

theorem invariant_start (length : Int) (memory : Nat → VCMTimestampDataTuple Info) :
    Invariant (start length memory) where
  increasing := List.Pairwise.nil
  line := by
    refine ⟨0, le_rfl, ?_, by simp⟩
    rw [(VCMTimestampMap.isEmpty_iff _).mp (show (start length memory).ring.isEmpty = true from rfl)]
    rfl

theorem Invariant.add {frames : MappedFrames Info} (invariant : Invariant frames) {time : Nat}
    (later : ∀ entry ∈ frames.added, entry.1 < time) (info : Info) :
    Invariant (frames.step (.add time info)) := by
  rcases invariant.line with ⟨passed, inside, line, early⟩
  have counted : frames.ring.outstanding.length = frames.added.length - passed := by
    rw [line, length_map, length_drop]
  have room := frames.ring.length_outstanding_lt
  constructor
  · change (frames.added ++ [(time, info)]).Pairwise _
    rw [pairwise_append]
    refine ⟨invariant.increasing, pairwise_singleton _ _, ?_⟩
    intro entry member last atEnd
    rw [List.mem_singleton.mp atEnd]
    exact later entry member
  · refine ⟨passed + (frames.ring.outstanding.length + 2 - frames.ring.length), ?_, ?_, ?_⟩
    · change _ ≤ (frames.added ++ [(time, info)]).length
      rw [length_append, length_singleton]
      omega
    · change (frames.ring.add (rtpTimestamp time) (some info)).2.outstanding =
        ((frames.added ++ [(time, info)]).drop _).map _
      rw [VCMTimestampMap.outstanding_add, ← drop_drop, drop_append_of_le_length inside,
        map_drop, map_append, ← line]
      rfl
    · intro index before entry here recent
      change (frames.added ++ [(time, info)])[index]? = some entry at here
      change (frames.added ++ [(time, info)]).length <
        index + (frames.ring.add (rtpTimestamp time) (some info)).2.length at recent
      rw [VCMTimestampMap.length_add, length_append, length_singleton] at recent
      -- The entry that a full ring forgets is too old to count as not overwritten.
      have old : index < passed := by omega
      rw [List.getElem?_append_left (by omega)] at here
      exact early index old entry here (by omega)

theorem mem_notOverwritten {frames : MappedFrames Info} {passed : Nat}
    (line : frames.ring.outstanding = (frames.added.drop passed).map VCMTimestampMap.stored) :
    ∀ entry ∈ frames.added.drop passed, entry ∈ frames.notOverwritten := by
  intro entry member
  have room := frames.ring.length_outstanding_lt
  rw [line, length_map, length_drop] at room
  rw [show passed = frames.added.length + 1 - frames.ring.length +
    (passed - (frames.added.length + 1 - frames.ring.length)) by omega, ← drop_drop] at member
  exact mem_of_mem_drop member

section

variable {frames : MappedFrames Info} (invariant : Invariant frames)

include invariant

theorem Invariant.exists_line : ∃ entries : List (Nat × Info),
      frames.ring.outstanding = entries.map VCMTimestampMap.stored ∧
      (entries.Pairwise fun entry later => entry.1 < later.1) ∧
      (∀ entry ∈ entries, entry ∈ frames.notOverwritten) ∧
      ∀ entry ∈ frames.notOverwritten, frames.awaited ≤ entry.1 → entry ∈ entries := by
  rcases invariant.line with ⟨passed, inside, line, early⟩
  refine ⟨frames.added.drop passed, line, invariant.increasing.drop, mem_notOverwritten line, ?_⟩
  intro entry member awaited
  rcases mem_iff_getElem?.mp member with ⟨offset, here⟩
  rw [notOverwritten, List.getElem?_drop] at here
  generalize position : frames.added.length + 1 - frames.ring.length + offset = index at here
  by_cases old : index < passed
  · have behind := early index old entry here (by omega)
    omega
  · apply mem_iff_getElem?.mpr
    refine ⟨index - passed, ?_⟩
    rw [List.getElem?_drop, Nat.add_sub_cancel' (by omega)]
    exact here

theorem Invariant.returnsAdded_iff (event : TimestampEvent Info) (inOrder : frames.InOrder event) :
    frames.ReturnsAdded event ↔ frames.SeesNoWrap event := by
  cases event with
  | add time info => exact Iff.rfl
  | pop time =>
    rcases inOrder with ⟨awaited, closeAll⟩
    rcases invariant.exists_line with ⟨entries, line, increasing, inside, complete⟩
    have close : ∀ entry ∈ entries, Close entry.1 time := fun entry member =>
      closeAll entry (inside entry member)
    constructor
    · rintro ⟨found, kept⟩
      apply VCMTimestampMap.inNumericalOrder_of_pop line increasing close _ kept
      intro info waits
      exact found _ (inside _ waits) rfl
    · intro ordered
      rcases VCMTimestampMap.pop_of_inNumericalOrder line increasing close ordered with
        ⟨found, kept⟩
      refine ⟨?_, kept⟩
      rintro ⟨other, info⟩ member rfl
      exact found info (complete _ member awaited)

theorem Invariant.pop {time : Nat}
    (inOrder : frames.InOrder (.pop time)) (kept : frames.ring.KeepsNewer (rtpTimestamp time)) :
    Invariant (frames.step (.pop time)) := by
  rcases invariant.line with ⟨passed, inside, line, early⟩
  have result := VCMTimestampMap.outstanding_pop frames.ring (rtpTimestamp time)
  rcases VCMTimestampMap.scan_suffix (rtpTimestamp time) frames.ring.outstanding with ⟨front, parts⟩
  rw [← result] at parts
  dsimp only at parts
  have left : (frames.ring.pop (rtpTimestamp time)).2.outstanding =
      (frames.added.drop (passed + front.length)).map VCMTimestampMap.stored := by
    rw [← drop_drop, map_drop, ← line, ← parts, drop_left]
  have counted := congrArg List.length parts
  rw [line, length_append, length_map, length_drop] at counted
  refine ⟨invariant.increasing, passed + front.length, ?_, left, ?_⟩
  · change _ ≤ frames.added.length
    omega
  · intro index before entry here recentIndex
    change frames.added[index]? = some entry at here
    change frames.added.length < index + (frames.ring.pop (rtpTimestamp time)).2.length
      at recentIndex
    rw [VCMTimestampMap.length_pop] at recentIndex
    change entry.1 < time + 1
    by_cases old : index < passed
    · have behind := early index old entry here recentIndex
      have awaited := inOrder.1
      omega
    by_contra notPassed
    -- A newer entry that leaves the ring would have to be there twice.
    have waits : entry ∈ frames.added.drop passed := by
      apply mem_iff_getElem?.mpr
      refine ⟨index - passed, ?_⟩
      rw [List.getElem?_drop, Nat.add_sub_cancel' (by omega)]
      exact here
    have closeDrop : ∀ other ∈ frames.added.drop passed, Close other.1 time :=
      fun other member => inOrder.2 other (mem_notOverwritten line other member)
    have remains := kept (VCMTimestampMap.stored entry)
      (by rw [line]; exact mem_map_of_mem waits)
      ((isNewerTimestamp_iff (closeDrop entry waits)).mpr (by omega))
    rw [left] at remains
    rcases List.mem_map.mp remains with ⟨other, behind, same⟩
    have increasing := invariant.increasing
    rw [← take_append_drop (passed + front.length) frames.added, pairwise_append]
      at increasing
    have inTake : entry ∈ frames.added.take (passed + front.length) := by
      apply mem_iff_getElem?.mpr
      exact ⟨index, by rw [List.getElem?_take_of_lt before]; exact here⟩
    have apart := increasing.2.2 entry inTake other behind
    have equal := rtpTimestamp_inj.mp (congrArg VCMTimestampDataTuple.timestamp same)
    have waitsOther : other ∈ frames.added.drop passed := by
      rw [← drop_drop] at behind
      exact mem_of_mem_drop behind
    rcases closeDrop entry waits with ⟨_, _⟩
    rcases closeDrop other waitsOther with ⟨_, _⟩
    omega

theorem Invariant.step (event : TimestampEvent Info) (inOrder : frames.InOrder event)
    (returns : frames.ReturnsAdded event) : Invariant (frames.step event) := by
  cases event with
  | add time info => exact invariant.add inOrder info
  | pop time => exact invariant.pop inOrder returns.2

end

def unusedTuple : VCMTimestampDataTuple Nat := ⟨0, none⟩

/-- One frame in front of the wrap and one behind it, both of which come back. -/
def returnedFrames : List (TimestampEvent Nat) :=
  [.add 0xFFFFFFF0 1, .pop 0xFFFFFFF0, .add 0x100000010 2, .pop 0x100000010]

/-- The frame in front of the wrap does not come back, and the next one does. -/
def skippedFrame : List (TimestampEvent Nat) :=
  [.add 0xFFFFFFF0 1, .add 0x100000010 2, .pop 0x100000010]

end MappedFrames

end ZyWebRtc.Video
