import Mathlib.Data.List.Sort
import Mathlib.Data.UInt
import Mathlib.Tactic

namespace ZyWebRtc.Pacing

/-! How `BitrateControllerImpl` divides a bitrate among its observers. -/

open List UInt32

/-- An observer with its configuration. -/
structure BitrateObserver where
  observer : Nat
  minBitrate : UInt32
  maxBitrate : UInt32
  deriving DecidableEq

/-- A call of an observer's `OnNetworkChanged`. -/
structure NetworkChange where
  observer : Nat
  bitrate : UInt32
  deriving DecidableEq

/-- The loop over the observers. What one of them cannot use is carried forward. -/
def assignBitrates : (bitratePerObserver : UInt32) → List BitrateObserver → List NetworkChange
  | _, [] => []
  | bitratePerObserver, observer :: rest =>
    let numberOfObservers := UInt32.ofNat rest.length
    let observerAllowance := observer.minBitrate + bitratePerObserver
    if observer.maxBitrate < observerAllowance then
      let remainder := observerAllowance - observer.maxBitrate
      let bitratePerObserver :=
        if numberOfObservers ≠ 0 then bitratePerObserver + remainder / numberOfObservers
        else bitratePerObserver
      ⟨observer.observer, observer.maxBitrate⟩ :: assignBitrates bitratePerObserver rest
    else ⟨observer.observer, observerAllowance⟩ :: assignBitrates bitratePerObserver rest

/-- The order of the multimap: equal maximums stay in the order of their insertion. -/
def listMaxBitrates (observers : List BitrateObserver) : List BitrateObserver :=
  observers.insertionSort fun earlier later => earlier.maxBitrate ≤ later.maxBitrate

def onNetworkChanged (bitrate : UInt32) (observers : List BitrateObserver) :
    List NetworkChange :=
  if observers.length = 0 then []
  else
    let sumMinBitrates := (observers.map BitrateObserver.minBitrate).sum
    if bitrate ≤ sumMinBitrates then
      observers.map fun observer => ⟨observer.observer, observer.minBitrate⟩
    else
      assignBitrates ((bitrate - sumMinBitrates) / UInt32.ofNat observers.length)
        (listMaxBitrates observers)

/-- The sum of some bitrates, without an overflow. -/
def total {Entry : Type} (bitrate : Entry → UInt32) (entries : List Entry) : Nat :=
  (entries.map fun entry => (bitrate entry).toNat).sum

/-- Each observer is called once, with a bitrate that it can use. -/
def WithinLimits : List BitrateObserver → List NetworkChange → Prop :=
  List.Forall₂ fun observer change => change.observer = observer.observer ∧
    observer.minBitrate ≤ change.bitrate ∧ change.bitrate ≤ observer.maxBitrate

/-- Every observer gets its maximum. -/
def AllMaximal : List BitrateObserver → List NetworkChange → Prop :=
  List.Forall₂ fun observer change => change.bitrate = observer.maxBitrate

instance (order : List BitrateObserver) (changes : List NetworkChange) :
    Decidable (AllMaximal order changes) :=
  inferInstanceAs (Decidable (List.Forall₂ _ order changes))

def BitrateObserver.range (observer : BitrateObserver) : Nat :=
  observer.maxBitrate.toNat - observer.minBitrate.toNat

/-! ## The loop -/

section

variable {bitratePerObserver : UInt32} {observers : List BitrateObserver}

/-- The minimums and the shares of the observers that are left fit into 32 bits. -/
structure Fits (bitratePerObserver : UInt32) (observers : List BitrateObserver) : Prop where
  shares : total BitrateObserver.minBitrate observers +
    observers.length * bitratePerObserver.toNat < 2 ^ 32
  count : observers.length < 2 ^ 32
  ordered : ∀ observer ∈ observers, observer.minBitrate ≤ observer.maxBitrate

theorem total_cons {Entry : Type} (bitrate : Entry → UInt32) (entry : Entry)
    (entries : List Entry) :
    total bitrate (entry :: entries) = (bitrate entry).toNat + total bitrate entries :=
  sum_cons

theorem Fits.cons {observer : BitrateObserver} {rest : List BitrateObserver}
    (fits : Fits bitratePerObserver (observer :: rest)) :
    observer.minBitrate.toNat + bitratePerObserver.toNat + (total BitrateObserver.minBitrate rest +
        rest.length * bitratePerObserver.toNat) < 2 ^ 32 ∧
      observer.minBitrate.toNat ≤ observer.maxBitrate.toNat ∧
      ∀ next : UInt32, rest.length * next.toNat ≤ observer.minBitrate.toNat +
          bitratePerObserver.toNat + rest.length * bitratePerObserver.toNat → Fits next rest := by
  have shares := fits.shares
  rw [total_cons, length_cons, Nat.succ_mul] at shares
  refine ⟨by omega, le_iff_toNat_le.mp (fits.ordered _ mem_cons_self), ?_⟩
  intro next less
  exact ⟨by omega, (Nat.lt_succ_self _).trans fits.count,
    fun other member => fits.ordered other (mem_cons_of_mem _ member)⟩

/-- The change of an observer that gets all it can use, and how much is carried forward: nothing
but a rest of the division is lost, unless the observer is the last one. -/
structure Saturated (bitratePerObserver next : UInt32) (observer : BitrateObserver)
    (rest : List BitrateObserver) (change : NetworkChange) : Prop where
  bitrate : change.bitrate = observer.maxBitrate
  range : observer.range < bitratePerObserver.toNat
  carried : observer.maxBitrate.toNat + rest.length * next.toNat ≤
    observer.minBitrate.toNat + bitratePerObserver.toNat + rest.length * bitratePerObserver.toNat
  lost : rest ≠ [] → observer.minBitrate.toNat + bitratePerObserver.toNat +
      rest.length * bitratePerObserver.toNat <
    observer.maxBitrate.toNat + rest.length * next.toNat + rest.length

/-- The change of an observer that can use its share. -/
structure Unsaturated (bitratePerObserver next : UInt32) (observer : BitrateObserver)
    (change : NetworkChange) : Prop where
  bitrate : change.bitrate.toNat = observer.minBitrate.toNat + bitratePerObserver.toNat
  range : bitratePerObserver.toNat ≤ observer.range
  same : next = bitratePerObserver

theorem assignBitrates_cons {observer : BitrateObserver} {rest : List BitrateObserver}
    (fits : Fits bitratePerObserver (observer :: rest)) :
    ∃ next, ∃ change : NetworkChange, assignBitrates bitratePerObserver (observer :: rest) =
        change :: assignBitrates next rest ∧
      change.observer = observer.observer ∧ Fits next rest ∧
      (Saturated bitratePerObserver next observer rest change ∨
        Unsaturated bitratePerObserver next observer change) := by
  rcases fits.cons with ⟨shares, ordered, fitsNext⟩
  have allowance : (observer.minBitrate + bitratePerObserver).toNat =
      observer.minBitrate.toNat + bitratePerObserver.toNat := by
    rw [UInt32.toNat_add]
    omega
  have count : (UInt32.ofNat rest.length).toNat = rest.length := by
    rw [toNat_ofNat', Nat.mod_eq_of_lt ((Nat.lt_succ_self _).trans fits.count)]
  rw [assignBitrates.eq_def]
  dsimp only
  by_cases more : observer.maxBitrate < observer.minBitrate + bitratePerObserver
  · rw [if_pos more]
    have remainder := UInt32.toNat_sub_of_le _ _ (UInt32.le_of_lt more)
    rw [lt_iff_toNat_lt, allowance] at more
    rw [allowance] at remainder
    have range : observer.range < bitratePerObserver.toNat := by
      rw [BitrateObserver.range]
      omega
    refine ⟨_, _, rfl, rfl, ?_⟩
    by_cases last : rest = []
    · subst last
      rw [if_neg (by decide)]
      exact ⟨fitsNext _ (by simp), .inl ⟨rfl, range, by simpa using more.le,
        fun others => absurd rfl others⟩⟩
    · have positive : 0 < rest.length := length_pos_iff.mpr last
      rw [if_pos (by rw [ne_eq, ← UInt32.toNat_inj, count]; exact positive.ne')]
      generalize observer.minBitrate + bitratePerObserver - observer.maxBitrate = left at *
      have rounded := Nat.div_add_mod left.toNat rest.length
      have small := Nat.mod_lt left.toNat positive
      have most := Nat.le_mul_of_pos_left (bitratePerObserver.toNat + left.toNat / rest.length)
        positive
      rw [Nat.mul_add] at most
      have next : (bitratePerObserver + left / UInt32.ofNat rest.length).toNat =
          bitratePerObserver.toNat + left.toNat / rest.length := by
        rw [UInt32.toNat_add, UInt32.toNat_div, count]
        generalize left.toNat / rest.length = share at most rounded ⊢
        omega
      refine ⟨fitsNext _ ?_, .inl ⟨rfl, range, ?_, fun _ => ?_⟩⟩ <;> rw [next, Nat.mul_add] <;>
        omega
  · rw [if_neg more]
    rw [UInt32.not_lt, le_iff_toNat_le, allowance] at more
    refine ⟨_, _, rfl, rfl, fitsNext _ (Nat.le_add_left _ _), .inr ⟨allowance, ?_, rfl⟩⟩
    rw [BitrateObserver.range]
    omega

theorem assignBitrates_within :
    ∀ {bitratePerObserver : UInt32}, Fits bitratePerObserver observers →
      WithinLimits observers (assignBitrates bitratePerObserver observers) ∧
      total NetworkChange.bitrate (assignBitrates bitratePerObserver observers) ≤
        total BitrateObserver.minBitrate observers +
          observers.length * bitratePerObserver.toNat := by
  induction observers with
  | nil => exact fun _ => ⟨.nil, Nat.zero_le _⟩
  | cons observer rest induction =>
    intro bitratePerObserver fits
    rcases assignBitrates_cons fits with ⟨next, change, step, named, fitsNext, used⟩
    rcases induction fitsNext with ⟨limits, within⟩
    have ordered := fits.cons.2.1
    rw [step, total_cons, total_cons, length_cons, Nat.succ_mul]
    rcases used with saturated | ⟨bitrate, range, rfl⟩
    · have carried := saturated.carried
      rw [← saturated.bitrate] at carried
      refine ⟨.cons ⟨named, ?_, ?_⟩ limits, by omega⟩
      · rw [saturated.bitrate, le_iff_toNat_le]
        exact ordered
      · rw [saturated.bitrate]
        exact UInt32.le_refl _
    · rw [BitrateObserver.range] at range
      refine ⟨.cons ⟨named, ?_, ?_⟩ limits, by omega⟩
      · rw [le_iff_toNat_le]
        omega
      · rw [le_iff_toNat_le]
        omega

/-- Nothing but what the divisions round off is left. -/
def OnlyRounded (bitratePerObserver : UInt32) (observers : List BitrateObserver) : Prop :=
  total BitrateObserver.minBitrate observers + observers.length * bitratePerObserver.toNat ≤
    total NetworkChange.bitrate (assignBitrates bitratePerObserver observers) +
      observers.length * (observers.length - 1)

theorem onlyRounded_nil : OnlyRounded bitratePerObserver [] := by
  rw [OnlyRounded, length_nil, Nat.zero_mul]
  exact Nat.zero_le _

theorem OnlyRounded.cons {observer : BitrateObserver} {rest : List BitrateObserver}
    {next : UInt32} {change : NetworkChange}
    (step : assignBitrates bitratePerObserver (observer :: rest) =
      change :: assignBitrates next rest)
    (used : (rest ≠ [] ∧ Saturated bitratePerObserver next observer rest change) ∨
      Unsaturated bitratePerObserver next observer change)
    (rounded : OnlyRounded next rest) : OnlyRounded bitratePerObserver (observer :: rest) := by
  rw [OnlyRounded] at rounded ⊢
  rw [step, total_cons, total_cons, length_cons, Nat.succ_mul, Nat.add_sub_cancel, Nat.succ_mul]
  have fewer : rest.length * (rest.length - 1) + rest.length = rest.length * rest.length := by
    cases rest.length with
    | zero => rfl
    | succ count => exact (Nat.mul_succ _ _).symm
  rcases used with ⟨others, saturated⟩ | ⟨bitrate, _, rfl⟩
  · have lost := saturated.lost others
    rw [← saturated.bitrate] at lost
    omega
  · omega

theorem last_maximal_or_onlyRounded :
    ∀ {bitratePerObserver : UInt32}, Fits bitratePerObserver observers → observers ≠ [] →
      ((assignBitrates bitratePerObserver observers).getLast?.map NetworkChange.bitrate =
          observers.getLast?.map BitrateObserver.maxBitrate ∨
        OnlyRounded bitratePerObserver observers) := by
  induction observers with
  | nil => exact fun _ filled => absurd rfl filled
  | cons observer rest induction =>
    intro bitratePerObserver fits _
    rcases assignBitrates_cons fits with ⟨next, change, step, _, fitsNext, used⟩
    cases rest with
    | nil =>
      rcases used with saturated | unsaturated
      · rw [step]
        exact .inl (congrArg some saturated.bitrate)
      · exact .inr (.cons step (.inr unsaturated) onlyRounded_nil)
    | cons other others =>
      rcases induction fitsNext (cons_ne_nil _ _) with last | rounded
      · rcases assignBitrates_cons fitsNext with ⟨_, second, following, _⟩
        rw [step, following, List.getLast?_cons_cons, ← following, List.getLast?_cons_cons]
        exact .inl last
      · exact .inr (.cons step (used.imp (⟨cons_ne_nil _ _, ·⟩) id) rounded)

theorem onlyRounded_of_unsaturated :
    ∀ {bitratePerObserver : UInt32}, Fits bitratePerObserver observers →
      (∀ observer ∈ observers, bitratePerObserver.toNat ≤ observer.range) →
      OnlyRounded bitratePerObserver observers := by
  induction observers with
  | nil => exact fun _ _ => onlyRounded_nil
  | cons observer rest induction =>
    intro bitratePerObserver fits usable
    rcases assignBitrates_cons fits with ⟨next, change, step, _, fitsNext, saturated | used⟩
    · exact absurd saturated.range (Nat.not_lt.mpr (usable observer mem_cons_self))
    · apply OnlyRounded.cons step (.inr used)
      rcases used with ⟨_, _, rfl⟩
      exact induction fitsNext fun other member => usable other (mem_cons_of_mem _ member)

theorem allMaximal_or_onlyRounded :
    ∀ {bitratePerObserver : UInt32}, Fits bitratePerObserver observers →
      observers.Pairwise (fun earlier later => earlier.range ≤ later.range) →
      AllMaximal observers (assignBitrates bitratePerObserver observers) ∨
        OnlyRounded bitratePerObserver observers := by
  induction observers with
  | nil => exact fun _ _ => .inl .nil
  | cons observer rest induction =>
    intro bitratePerObserver fits sorted
    rcases assignBitrates_cons fits with ⟨next, change, step, _, fitsNext, used⟩
    rcases pairwise_cons.mp sorted with ⟨least, sortedRest⟩
    rcases used with saturated | unsaturated
    · rcases induction fitsNext sortedRest with all | rounded
      · rw [step]
        exact .inl (.cons saturated.bitrate all)
      · by_cases alone : rest = []
        · subst alone
          rw [step]
          exact .inl (.cons saturated.bitrate .nil)
        · exact .inr (.cons step (.inl ⟨alone, saturated⟩) rounded)
    · refine .inr (.cons step (.inr unsaturated) ?_)
      rcases unsaturated with ⟨_, range, rfl⟩
      exact onlyRounded_of_unsaturated fitsNext fun other member => range.trans (least other member)

end

/-! ## The call -/

/-- What is asked of the configurations: proper limits, and sums without an overflow. -/
structure Configured (bitrate : UInt32) (observers : List BitrateObserver) : Prop where
  limits : ∀ observer ∈ observers,
    observer.minBitrate ≤ observer.maxBitrate ∧ 0 < observer.maxBitrate
  maximums : total BitrateObserver.maxBitrate observers < 2 ^ 32
  minimums : total BitrateObserver.minBitrate observers < bitrate.toNat

/-- So little is left that it is not worth another bit per second for each pair of observers. -/
def LittleLeft (bitrate : UInt32) (observers : List BitrateObserver)
    (changes : List NetworkChange) : Prop :=
  bitrate.toNat < total NetworkChange.bitrate changes + observers.length * observers.length

instance (bitrate : UInt32) (observers : List BitrateObserver) (changes : List NetworkChange) :
    Decidable (LittleLeft bitrate observers changes) :=
  inferInstanceAs (Decidable (_ < _))

theorem toNat_sum_minBitrate {observers : List BitrateObserver}
    (fits : total BitrateObserver.minBitrate observers < 2 ^ 32) :
    (observers.map BitrateObserver.minBitrate).sum.toNat =
      total BitrateObserver.minBitrate observers := by
  induction observers with
  | nil => rfl
  | cons observer rest induction =>
    rw [total_cons] at fits ⊢
    rw [map_cons, sum_cons, UInt32.toNat_add, induction (by omega), Nat.mod_eq_of_lt fits]

theorem length_le_total {observers : List BitrateObserver}
    (positive : ∀ observer ∈ observers, 0 < observer.maxBitrate) :
    observers.length ≤ total BitrateObserver.maxBitrate observers := by
  induction observers with
  | nil => exact Nat.zero_le _
  | cons observer rest induction =>
    rw [total_cons, length_cons, Nat.add_comm]
    exact Nat.add_le_add
      (lt_iff_toNat_lt.mp (positive observer mem_cons_self))
      (induction fun other member => positive other (mem_cons_of_mem _ member))

theorem listMaxBitrates_perm (observers : List BitrateObserver) :
    (listMaxBitrates observers).Perm observers :=
  perm_insertionSort _ _

/-- Two observers, of which the one with the larger maximum can use less beyond its minimum. -/
def unevenObservers : List BitrateObserver := [⟨0, 0, 100⟩, ⟨1, 190, 200⟩]

theorem unevenObservers_configured : Configured 290 unevenObservers :=
  ⟨by decide, by decide, by decide⟩

end ZyWebRtc.Pacing
