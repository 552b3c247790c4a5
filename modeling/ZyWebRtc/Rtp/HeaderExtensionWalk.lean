import Mathlib.Data.List.TakeWhile
import ZyWebRtc.Rtp.HeaderExtensionMap

namespace ZyWebRtc.Rtp.RtpHeaderExtensionMap

/-! The types that `First` and `Next` come to, one after the other. `Next` looks
for the lowest identifier of the type it is given, so a type that stands under
two identifiers sends it back. -/

open List

/-- The types from `type` on, when the iteration ends within `fuel` steps. -/
def typesFrom (map : RtpHeaderExtensionMap) : (fuel : Nat) → RTPExtensionType →
    Option (List RTPExtensionType)
  | 0, _ => none
  | fuel + 1, type =>
    if type = .none then some []
    else (map.typesFrom fuel (map.next type)).map (type :: ·)

/-- The registered types in the order of their identifiers; `kRtpExtensionNone`,
which no sender registers, would end them. -/
def announced (map : RtpHeaderExtensionMap) : List RTPExtensionType :=
  (map.inOrder.map Prod.snd).takeWhile (· ≠ .none)

variable {map : RtpHeaderExtensionMap}

@[simp] theorem typeAt_cons (entry : UInt8 × RTPExtensionType)
    (rest : List (UInt8 × RTPExtensionType)) : typeAt (entry :: rest) = entry.2 := rfl

section

variable {before after : List (UInt8 × RTPExtensionType)}

theorem getId_eq {entry : UInt8 × RTPExtensionType} (split : map.inOrder = before ++ entry :: after)
    (firstOfType : entry.2 ∉ before.map Prod.snd) : map.getId entry.2 = some entry.1 := by
  have notBefore : before.find? (·.2 = entry.2) = none := by
    rw [List.find?_eq_none]
    intro other member
    rw [decide_eq_true_eq]
    intro same
    exact firstOfType (same ▸ List.mem_map_of_mem member)
  rw [getId, split, List.find?_append, notBefore, List.find?_cons_of_pos (by simp)]
  rfl

theorem next_eq (entry : UInt8 × RTPExtensionType) (split : map.inOrder = before ++ entry :: after)
    (firstOfType : entry.2 ∉ before.map Prod.snd) : map.next entry.2 = typeAt after := by
  have distinct := map.nodup_ids
  rw [split, map_append, map_cons, nodup_append] at distinct
  have skipped : ∀ other ∈ before, other.1 ≠ entry.1 := by
    intro other member same
    exact distinct.2.2 _ (List.mem_map_of_mem member) _ mem_cons_self same
  have found : map.inOrder.dropWhile (·.1 ≠ entry.1) = entry :: after := by
    rw [split, dropWhile_append_of_pos (by simpa using skipped), dropWhile_cons_of_neg (by simp)]
  rw [next, getId_eq split firstOfType]
  change typeAt (map.inOrder.dropWhile (·.1 ≠ entry.1)).tail = _
  rw [found, tail_cons]

theorem typesFrom_of_nodup (after : List (UInt8 × RTPExtensionType)) :
    ∀ {before fuel}, map.inOrder = before ++ after → after.length < fuel →
      (before.map Prod.snd ++ (after.map Prod.snd).takeWhile (· ≠ .none)).Nodup →
      map.typesFrom fuel (typeAt after) = some ((after.map Prod.snd).takeWhile (· ≠ .none)) := by
  induction after with
  | nil =>
    intro before fuel split enough distinct
    obtain ⟨fuel, rfl⟩ := Nat.exists_eq_succ_of_ne_zero (Nat.ne_of_gt enough)
    rfl
  | cons entry after induction =>
    intro before fuel split enough distinct
    obtain ⟨fuel, rfl⟩ := Nat.exists_eq_succ_of_ne_zero (Nat.ne_of_gt (Nat.lt_of_le_of_lt
      (Nat.zero_le _) enough))
    rw [typesFrom, typeAt_cons]
    by_cases last : entry.2 = .none
    · rw [if_pos last, map_cons, takeWhile_cons_of_neg (by simp [last])]
    · have taken : ((entry :: after).map Prod.snd).takeWhile (· ≠ .none) =
          entry.2 :: (after.map Prod.snd).takeWhile (· ≠ .none) := by
        rw [map_cons, takeWhile_cons_of_pos (by simpa using last)]
      rw [taken] at distinct ⊢
      have firstOfType : entry.2 ∉ before.map Prod.snd := by
        intro earlier
        exact (nodup_append.mp distinct).2.2 _ earlier _ mem_cons_self rfl
      have later := @induction (before ++ [entry]) fuel (by rw [split, append_assoc]; rfl)
        (by rw [length_cons] at enough; omega)
        (by rw [map_append, append_assoc]; exact distinct)
      rw [if_neg last, next_eq entry split firstOfType, later, Option.map_some]

theorem typesFrom_first (distinct : map.announced.Nodup) {fuel : Nat} (enough : map.size < fuel) :
    map.typesFrom fuel map.first = some map.announced :=
  @typesFrom_of_nodup map map.inOrder [] fuel rfl enough distinct

theorem exists_first_entry {type : RTPExtensionType}
    (entries : List (UInt8 × RTPExtensionType)) (member : type ∈ entries.map Prod.snd) :
    ∃ before id after, entries = before ++ (id, type) :: after ∧ type ∉ before.map Prod.snd := by
  rcases eq_append_cons_of_mem member with ⟨before, after, split, notBefore⟩
  rcases map_eq_append_iff.mp split with ⟨entriesBefore, rest, rfl, rfl, restSplit⟩
  rcases map_eq_cons_iff.mp restSplit with ⟨entry, entriesAfter, rfl, rfl, rfl⟩
  exact ⟨entriesBefore, entry.1, entriesAfter, rfl, notBefore⟩

/-- Behind an entry whose type has come before, the iteration never gets: it stays
among the entries before it. -/
theorem typesFrom_of_repeated {entry : UInt8 × RTPExtensionType}
    (split : map.inOrder = before ++ entry :: after)
    (repeated : entry.2 ∈ before.map Prod.snd) (noneBefore : .none ∉ before.map Prod.snd)
    (fuel : Nat) : ∀ type ∈ before.map Prod.snd, map.typesFrom fuel type = none := by
  induction fuel with
  | zero => exact fun _ _ => rfl
  | succ fuel induction =>
    intro type member
    have proper : type ≠ .none := fun same => noneBefore (same ▸ member)
    rcases exists_first_entry before member with ⟨front, id, back, rfl, firstOfType⟩
    have nextType : map.next type = typeAt (back ++ entry :: after) :=
      next_eq (id, type) (by rw [split, append_assoc]; rfl) firstOfType
    have stays : map.next type ∈ (front ++ (id, type) :: back).map Prod.snd := by
      rw [nextType]
      cases back with
      | nil => exact repeated
      | cons following back => simp
    rw [typesFrom, if_neg proper, induction _ stays, Option.map_none]

end

theorem exists_repeated {α : Type*} {values : List α} (repeated : ¬ values.Nodup) :
    ∃ before value after, values = before ++ value :: after ∧ value ∈ before := by
  induction values with
  | nil => exact absurd nodup_nil repeated
  | cons head tail induction =>
    by_cases member : head ∈ tail
    · rcases append_of_mem member with ⟨before, after, rfl⟩
      exact ⟨head :: before, head, after, rfl, mem_cons_self⟩
    · rcases induction (fun distinct => repeated (nodup_cons.mpr ⟨member, distinct⟩)) with
        ⟨before, value, after, rfl, earlier⟩
      exact ⟨head :: before, value, after, rfl, mem_cons_of_mem head earlier⟩

theorem typesFrom_first_of_repeated (repeated : ¬ map.announced.Nodup) (fuel : Nat) :
    map.typesFrom fuel map.first = none := by
  rcases exists_repeated repeated with ⟨before, type, after, split, earlier⟩
  have whole : map.inOrder.map Prod.snd = before ++ type ::
      (after ++ (map.inOrder.map Prod.snd).dropWhile (· ≠ .none)) := by
    have announcedFirst : map.announced ++ (map.inOrder.map Prod.snd).dropWhile (· ≠ .none) =
        map.inOrder.map Prod.snd := takeWhile_append_dropWhile
    rw [split, append_assoc] at announcedFirst
    exact announcedFirst.symm
  have noneBefore : .none ∉ before := by
    intro member
    have kept : RTPExtensionType.none ∈ map.announced := by
      rw [split]
      exact mem_append_left _ member
    simpa using mem_takeWhile_imp kept
  rcases map_eq_append_iff.mp whole with ⟨entriesBefore, rest, inOrder, rfl, restSplit⟩
  rcases map_eq_cons_iff.mp restSplit with ⟨entry, entriesAfter, rfl, rfl, -⟩
  apply typesFrom_of_repeated inOrder earlier noneBefore
  rw [first, inOrder]
  cases entriesBefore with
  | nil => exact absurd earlier not_mem_nil
  | cons head tail => exact mem_cons_self

theorem exists_typesFrom_first_iff :
    (∃ fuel types, map.typesFrom fuel map.first = some types) ↔ map.announced.Nodup := by
  constructor
  · rintro ⟨fuel, types, ended⟩
    by_contra repeated
    rw [typesFrom_first_of_repeated repeated] at ended
    cases ended
  · intro distinct
    exact ⟨map.size + 1, map.announced, typesFrom_first distinct (Nat.lt_succ_self _)⟩

end ZyWebRtc.Rtp.RtpHeaderExtensionMap
