import Mathlib.Data.Fintype.Card
import Mathlib.Data.List.Sort
import Mathlib.Tactic

namespace ZyWebRtc.WrappingOrder

/-! An order by rank, then by stamps whose difference is read as a signed word, then by latency;
and when it is a strict weak order. -/

universe u

/-! ## Stamps -/

/-- The difference of two stamps as a signed word. -/
def ahead (first second : UInt32) : Int := (first - second).toInt32.toInt

theorem ahead_eq (first second : UInt32) :
    ahead first second = if (first - second).toNat < 2147483648 then ((first - second).toNat : Int)
      else (first - second).toNat - 4294967296 := by
  have signed : ahead first second = (first - second).toBitVec.toInt := rfl
  have unsigned : (first - second).toBitVec.toNat = (first - second).toNat := rfl
  rw [signed, BitVec.toInt_eq_toNat_cond, unsigned]
  split
  · rw [if_pos (by omega)]
  · rw [if_neg (by omega)]
    rfl

section Stamps

variable {first second oldest stamp : UInt32}

theorem ahead_pos_iff :
    0 < ahead first second ↔ 0 < (first - second).toNat ∧ (first - second).toNat < 2147483648 := by
  have bound := (first - second).toNat_lt
  rw [ahead_eq]
  split
  · omega
  · omega

theorem ahead_eq_zero_iff : ahead first second = 0 ↔ first = second := by
  have bound := (first - second).toNat_lt
  have equal : first = second ↔ (first - second).toNat = 0 := by
    have firstBound := first.toNat_lt
    have secondBound := second.toNat_lt
    rw [← UInt32.toNat_inj, UInt32.toNat_sub]
    omega
  rw [equal, ahead_eq]
  split
  · omega
  · omega

/-- In a window of less than half of the circle the difference is that of the distances to its
start. -/
theorem ahead_of_window (firstInside : (first - oldest).toNat < 2147483648)
    (secondInside : (second - oldest).toNat < 2147483648) :
    ahead first second = (first - oldest).toNat - (second - oldest).toNat := by
  have firstBound := first.toNat_lt
  have secondBound := second.toNat_lt
  have oldestBound := oldest.toNat_lt
  rw [ahead_eq]
  rw [UInt32.toNat_sub] at firstInside secondInside ⊢
  rw [UInt32.toNat_sub, UInt32.toNat_sub]
  split
  · omega
  · omega

/-- Of two opposite stamps neither is ahead. -/
theorem not_ahead_of_opposed (firstIs : first = stamp ∨ first = stamp + 0x80000000)
    (secondIs : second = stamp ∨ second = stamp + 0x80000000) : ¬ 0 < ahead first second := by
  have half : (0x80000000 : UInt32).toNat = 2147483648 := rfl
  have bound := stamp.toNat_lt
  rw [ahead_pos_iff, UInt32.toNat_sub]
  rcases firstIs with rfl | rfl
  · rcases secondIs with rfl | rfl
    · omega
    · rw [UInt32.toNat_add, half]
      omega
  · rcases secondIs with rfl | rfl
    · rw [UInt32.toNat_add, half]
      omega
    · rw [UInt32.toNat_add, half]
      omega

theorem eq_add_half_iff :
    first = second + 0x80000000 ↔ (first - second).toNat = 2147483648 := by
  have half : (0x80000000 : UInt32).toNat = 2147483648 := rfl
  have firstBound := first.toNat_lt
  have secondBound := second.toNat_lt
  rw [← UInt32.toNat_inj, UInt32.toNat_sub, UInt32.toNat_add, half]
  omega

end Stamps

/-! ## The order -/

section Order

variable {Element : Type u} (rank : Element → Nat) (stamp : Element → UInt32)
  (latency : Element → Nat)

/-- The first element goes before the second one. -/
def Precedes (first second : Element) : Prop :=
  rank first < rank second ∨ rank first = rank second ∧ (0 < ahead (stamp first) (stamp second) ∨
      ahead (stamp first) (stamp second) = 0 ∧ latency first < latency second)

/-- The stamps of the elements of one rank lie on less than half of the circle. -/
def Windowed (element : Element) : Prop :=
  ∃ oldest : UInt32, ∀ other, rank other = rank element → (stamp other - oldest).toNat < 2147483648

/-- The elements of one rank have two opposite stamps, and those with the same one the same
latency. -/
def Opposed (element : Element) : Prop :=
  (∀ other, rank other = rank element →
      stamp other = stamp element ∨ stamp other = stamp element + 0x80000000) ∧
    ∀ first second, rank first = rank element → rank second = rank element →
      stamp first = stamp second → latency first = latency second

variable {rank stamp latency}

theorem precedes_tied {first second : Element} (tied : rank first = rank second) :
    Precedes rank stamp latency first second ↔ 0 < ahead (stamp first) (stamp second) ∨
        stamp first = stamp second ∧ latency first < latency second := by
  rw [Precedes, ahead_eq_zero_iff]
  constructor
  · rintro (lower | ⟨-, before⟩)
    · omega
    · exact before
  · exact fun before => .inr ⟨tied, before⟩

theorem Precedes.rank_le {first second : Element}
    (precedes : Precedes rank stamp latency first second) : rank first ≤ rank second := by
  rcases precedes with lower | ⟨tied, -⟩
  · exact Nat.le_of_lt lower
  · exact Nat.le_of_eq tied

theorem not_precedes_opposed {element first second : Element}
    (opposed : Opposed rank stamp latency element) (firstTied : rank first = rank element)
    (secondTied : rank second = rank element) : ¬ Precedes rank stamp latency first second := by
  rw [precedes_tied (firstTied.trans secondTied.symm)]
  rintro (before | ⟨same, faster⟩)
  · exact not_ahead_of_opposed (opposed.1 first firstTied) (opposed.1 second secondTied) before
  · have equal := opposed.2 first second firstTied secondTied same
    omega

/-- Elements of one rank, in a window, are in the order of two numbers. -/
theorem precedes_windowed {oldest : UInt32} {first second : Element}
    (tied : rank first = rank second) (firstInside : (stamp first - oldest).toNat < 2147483648)
    (secondInside : (stamp second - oldest).toNat < 2147483648) :
    Precedes rank stamp latency first second ↔
      (stamp second - oldest).toNat < (stamp first - oldest).toNat ∨
        (stamp second - oldest).toNat = (stamp first - oldest).toNat ∧
          latency first < latency second := by
  have difference := ahead_of_window firstInside secondInside
  rw [precedes_tied tied, ← ahead_eq_zero_iff, difference]
  omega

/-- The condition is enough. -/
theorem isStrictWeakOrder_of (fits : ∀ element,
    Windowed rank stamp element ∨ Opposed rank stamp latency element) :
    IsStrictWeakOrder Element (Precedes rank stamp latency) where
  irrefl element := by
    rw [precedes_tied rfl, ahead_pos_iff, UInt32.sub_self]
    rintro (⟨positive, -⟩ | ⟨-, faster⟩)
    · exact absurd positive (by decide)
    · exact Nat.lt_irrefl _ faster
  trans first second third before behind := by
    have lower := before.rank_le
    have higher := behind.rank_le
    rcases Nat.lt_or_eq_of_le (lower.trans higher) with strict | tied
    · exact .inl strict
    have secondTied : rank second = rank first := by omega
    rcases fits first with ⟨oldest, inside⟩ | opposed
    · have firstInside := inside first rfl
      have secondInside := inside second secondTied
      have thirdInside := inside third tied.symm
      rw [precedes_windowed secondTied.symm firstInside secondInside] at before
      rw [precedes_windowed (secondTied.trans tied) secondInside thirdInside] at behind
      rw [precedes_windowed tied firstInside thirdInside]
      omega
    · exact absurd before (not_precedes_opposed opposed rfl secondTied)
  incomp_trans first second third front back := by
    have firstTied : rank first = rank second := by
      have lower : ¬ rank first < rank second := fun less => front.1 (.inl less)
      have higher : ¬ rank second < rank first := fun less => front.2 (.inl less)
      omega
    have secondTied : rank second = rank third := by
      have lower : ¬ rank second < rank third := fun less => back.1 (.inl less)
      have higher : ¬ rank third < rank second := fun less => back.2 (.inl less)
      omega
    rcases fits second with ⟨oldest, inside⟩ | opposed
    · have firstInside := inside first firstTied
      have secondInside := inside second rfl
      have thirdInside := inside third secondTied.symm
      rw [precedes_windowed firstTied firstInside secondInside,
        precedes_windowed firstTied.symm secondInside firstInside] at front
      rw [precedes_windowed secondTied secondInside thirdInside,
        precedes_windowed secondTied.symm thirdInside secondInside] at back
      rw [precedes_windowed (firstTied.trans secondTied) firstInside thirdInside,
        precedes_windowed (firstTied.trans secondTied).symm thirdInside firstInside]
      omega
    · exact ⟨not_precedes_opposed opposed firstTied secondTied.symm,
        not_precedes_opposed opposed secondTied.symm firstTied⟩

/-- Whoever is the last of its rank has the oldest stamp, when no two stamps are opposite. -/
theorem windowed_of [Finite Element]
    (order : IsStrictWeakOrder Element (Precedes rank stamp latency)) (element : Element)
    (unopposed : ∀ first second, rank first = rank element → rank second = rank element →
      stamp first ≠ stamp second + 0x80000000) : Windowed rank stamp element := by
  let follows (first second : Element) : Prop := Precedes rank stamp latency second first
  have transitive : IsTrans Element follows :=
    ⟨fun first second third before behind => order.trans third second first behind before⟩
  have irreflexive : Std.Irrefl follows := ⟨fun element => order.irrefl element⟩
  rcases (Finite.wellFounded_of_trans_of_irrefl follows).has_min
    { other | rank other = rank element } ⟨element, rfl⟩ with ⟨last, lastTied, isLast⟩
  refine ⟨stamp last, fun other tied => ?_⟩
  have behind : ¬ Precedes rank stamp latency last other := isLast other tied
  rw [precedes_tied (lastTied.trans tied.symm), ahead_pos_iff] at behind
  have notOpposite : (stamp last - stamp other).toNat ≠ 2147483648 := by
    intro opposite
    exact unopposed last other lastTied tied (eq_add_half_iff.mpr opposite)
  have lastBound := (stamp last).toNat_lt
  have otherBound := (stamp other).toNat_lt
  rw [UInt32.toNat_sub] at behind notOpposite ⊢
  omega

theorem not_precedes_half {first second : Element} (tied : rank first = rank second)
    (opposite : stamp first = stamp second + 0x80000000) :
    ¬ Precedes rank stamp latency first second ∧ ¬ Precedes rank stamp latency second first := by
  have firstBound := (stamp first).toNat_lt
  have secondBound := (stamp second).toNat_lt
  rw [eq_add_half_iff, UInt32.toNat_sub] at opposite
  rw [precedes_tied tied, precedes_tied tied.symm, ahead_pos_iff, ahead_pos_iff,
    ← UInt32.toNat_inj, ← UInt32.toNat_inj, UInt32.toNat_sub, UInt32.toNat_sub]
  omega

/-- Two opposite stamps in a rank leave no room for a third one, and none for latencies. -/
theorem opposed_of (order : IsStrictWeakOrder Element (Precedes rank stamp latency))
    {element first second : Element} (firstTied : rank first = rank element)
    (secondTied : rank second = rank element)
    (opposite : stamp first = stamp second + 0x80000000) :
    Opposed rank stamp latency element := by
  have apart := @not_precedes_half _ rank stamp latency _ _ (firstTied.trans secondTied.symm)
    opposite
  have distance := eq_add_half_iff.mp opposite
  have firstBound := (stamp first).toNat_lt
  have secondBound := (stamp second).toNat_lt
  rw [UInt32.toNat_sub] at distance
  have two (other : Element) (tied : rank other = rank element) :
      stamp other = stamp second ∨ stamp other = stamp first := by
    have otherBound := (stamp other).toNat_lt
    by_contra different
    rw [not_or, ← UInt32.toNat_inj, ← UInt32.toNat_inj] at different
    by_cases lower : (stamp other - stamp second).toNat < 2147483648
    · apply apart.1
      apply order.trans first other second
      · rw [precedes_tied (firstTied.trans tied.symm), ahead_pos_iff]
        rw [UInt32.toNat_sub] at lower ⊢
        left
        omega
      · rw [precedes_tied (tied.trans secondTied.symm), ahead_pos_iff]
        rw [UInt32.toNat_sub] at lower ⊢
        left
        omega
    · apply apart.2
      apply order.trans second other first
      · rw [precedes_tied (secondTied.trans tied.symm), ahead_pos_iff]
        rw [UInt32.toNat_sub] at lower ⊢
        left
        omega
      · rw [precedes_tied (tied.trans firstTied.symm), ahead_pos_iff]
        rw [UInt32.toNat_sub] at lower ⊢
        left
        omega
  have swapped : stamp second = stamp first + 0x80000000 := by
    rw [eq_add_half_iff, UInt32.toNat_sub]
    omega
  constructor
  · intro other tied
    rcases two other tied with isSecond | isFirst
    · rcases two element rfl with same | across
      · exact .inl (isSecond.trans same.symm)
      · exact .inr (by rw [isSecond, across, swapped])
    · rcases two element rfl with same | across
      · exact .inr (by rw [isFirst, same, opposite])
      · exact .inl (isFirst.trans across.symm)
  · intro left right leftTied rightTied same
    -- Both are incomparable with whichever of the two is opposite to them.
    have across : ∃ middle, rank middle = rank element ∧
        stamp left = stamp middle + 0x80000000 := by
      rcases two left leftTied with isSecond | isFirst
      · exact ⟨first, firstTied, isSecond.trans swapped⟩
      · exact ⟨second, secondTied, isFirst.trans opposite⟩
    rcases across with ⟨middle, middleTied, leftAcross⟩
    have rightAcross : stamp right = stamp middle + 0x80000000 := same ▸ leftAcross
    have leftApart := @not_precedes_half _ rank stamp latency _ _
      (leftTied.trans middleTied.symm) leftAcross
    have rightApart := @not_precedes_half _ rank stamp latency _ _
      (rightTied.trans middleTied.symm) rightAcross
    have alike := order.incomp_trans left middle right leftApart rightApart.symm
    rw [precedes_tied (leftTied.trans rightTied.symm),
      precedes_tied (rightTied.trans leftTied.symm)] at alike
    have slower : ¬ latency left < latency right := fun faster => alike.1 (.inr ⟨same, faster⟩)
    have faster : ¬ latency right < latency left :=
      fun faster => alike.2 (.inr ⟨same.symm, faster⟩)
    omega

theorem isStrictWeakOrder_iff [Finite Element] :
    IsStrictWeakOrder Element (Precedes rank stamp latency) ↔
      ∀ element, Windowed rank stamp element ∨ Opposed rank stamp latency element := by
  constructor
  · intro order element
    by_cases unopposed : ∀ first second, rank first = rank element → rank second = rank element →
        stamp first ≠ stamp second + 0x80000000
    · exact .inl (windowed_of order element unopposed)
    · push Not at unopposed
      rcases unopposed with ⟨first, second, firstTied, secondTied, opposite⟩
      exact .inr (opposed_of order firstTied secondTied opposite)
  · exact isStrictWeakOrder_of

end Order

/-! ## Sorting -/

/-- A list that is sorted by a strict weak order of its elements is in order. -/
theorem pairwise_insertionSort {Element : Type u} {before : Element → Element → Bool}
    {list : List Element}
    (order : IsStrictWeakOrder { element // element ∈ list } fun first second =>
      before first second = true) :
    (list.insertionSort fun first second => before second first = false).Pairwise
      fun first second => before second first = false := by
  let fits (first second : { element // element ∈ list }) : Prop := before second first = false
  have apart (first second : { element // element ∈ list }) :
      before second first = false ↔ ¬ before second first = true := by simp
  have total : Std.Total fits := by
    refine ⟨fun first second => ?_⟩
    by_contra neither
    rcases not_or.mp neither with ⟨front, back⟩
    change ¬ before second first = false at front
    change ¬ before first second = false at back
    rw [Bool.not_eq_false] at front back
    exact order.irrefl first (order.trans first second first back front)
  have transitive : IsTrans { element // element ∈ list } fits := by
    refine ⟨fun first second third front back => ?_⟩
    apply (apart first third).mpr
    intro across
    have front := (apart first second).mp front
    have back := (apart second third).mp back
    by_cases ahead : before first second = true
    · exact back (order.trans third first second across ahead)
    by_cases behind : before second third = true
    · exact front (order.trans second third first behind across)
    exact (order.incomp_trans third second first ⟨back, behind⟩ ⟨front, ahead⟩).1 across
  have sorted := List.pairwise_insertionSort fits list.attach
  have mapped := List.map_insertionSort (r := fits)
    (s := fun first second => before second first = false) Subtype.val list.attach
    fun _ _ _ _ => Iff.rfl
  rw [List.attach_map_subtype_val] at mapped
  rw [← mapped]
  exact List.pairwise_map.mpr sorted

end ZyWebRtc.WrappingOrder
