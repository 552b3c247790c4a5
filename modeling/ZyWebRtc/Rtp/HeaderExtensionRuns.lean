import ZyWebRtc.Foundation.Run
import ZyWebRtc.Rtp.HeaderExtensionWalk

namespace ZyWebRtc.Rtp.RtpHeaderExtensionMap

/-! The maps that `Register` and `Deregister` lead to, and the iteration over them. -/

inductive Operation
  | register (type : RTPExtensionType) (id : UInt8)
  | deregister (type : RTPExtensionType)
  deriving DecidableEq, Repr

def step (map : RtpHeaderExtensionMap) : Operation → RtpHeaderExtensionMap
  | .register type id => (map.register type id).2
  | .deregister type => (map.deregister type).2

/-- The iteration comes to every registered extension once, by ascending identifier, and ends
with `kRtpExtensionNone`. -/
def IteratesOnce (map : RtpHeaderExtensionMap) : Prop :=
  ∃ fuel, map.typesFrom fuel map.first = some (map.inOrder.map Prod.snd)

/-- A new identifier is registered for a proper type that has none yet. -/
def Permits (map : RtpHeaderExtensionMap) : Operation → Prop
  | .register type id =>
    1 ≤ id ∧ id ≤ 14 → map.getType id = Option.none → type ≠ .none ∧ map.getId type = Option.none
  | .deregister _ => True

structure Unique (map : RtpHeaderExtensionMap) : Prop where
  proper : ∀ id, map.getType id ≠ some .none
  oneId : ∀ first second type, map.getType first = some type → map.getType second = some type →
    first = second

variable {map : RtpHeaderExtensionMap}

theorem nodup_types_iff : (map.inOrder.map Prod.snd).Nodup ↔
    ∀ first second type, map.getType first = some type → map.getType second = some type →
      first = second := by
  rw [List.nodup_map_iff_inj_on (List.Nodup.of_map Prod.fst map.nodup_ids)]
  constructor
  · intro injective first second type firstType secondType
    exact congrArg Prod.fst (injective (first, type) (mem_inOrder.mpr firstType) (second, type)
      (mem_inOrder.mpr secondType) rfl)
  · rintro oneId ⟨first, type⟩ firstIn ⟨second, other⟩ secondIn rfl
    rw [oneId first second type (mem_inOrder.mp firstIn) (mem_inOrder.mp secondIn)]

theorem announced_eq_iff : map.announced = map.inOrder.map Prod.snd ↔
    ∀ id, map.getType id ≠ some .none := by
  rw [announced, List.takeWhile_eq_self_iff]
  constructor
  · intro proper id improper
    have member := List.mem_map_of_mem (f := Prod.snd) (mem_inOrder.mpr improper)
    simpa using proper _ member
  · intro proper type member
    rcases List.mem_map.mp member with ⟨⟨id, found⟩, entryIn, rfl⟩
    rw [decide_eq_true_eq]
    rintro rfl
    exact proper id (mem_inOrder.mp entryIn)

theorem typesFrom_unique {fuel : Nat} :
    ∀ {other type types others}, map.typesFrom fuel type = some types →
      map.typesFrom other type = some others → types = others := by
  induction fuel with
  | zero => intro other type types others ended; cases ended
  | succ fuel induction =>
    intro other type types others ended otherEnded
    cases other with
    | zero => cases otherEnded
    | succ other =>
      rw [typesFrom] at ended otherEnded
      by_cases last : type = .none
      · rw [if_pos last] at ended otherEnded
        exact Option.some.inj (ended.symm.trans otherEnded)
      · rw [if_neg last] at ended otherEnded
        rcases Option.map_eq_some_iff.mp ended with ⟨rest, restEnded, rfl⟩
        rcases Option.map_eq_some_iff.mp otherEnded with ⟨otherRest, otherRestEnded, rfl⟩
        rw [induction restEnded otherRestEnded]

theorem iteratesOnce_iff : map.IteratesOnce ↔ map.Unique := by
  constructor
  · rintro ⟨fuel, ended⟩
    have distinct := exists_typesFrom_first_iff.mp ⟨fuel, _, ended⟩
    have all := typesFrom_unique (typesFrom_first distinct (Nat.lt_succ_self map.size)) ended
    exact ⟨announced_eq_iff.mp all, nodup_types_iff.mp (all ▸ distinct)⟩
  · rintro ⟨proper, oneId⟩
    have all := announced_eq_iff.mpr proper
    have distinct : map.announced.Nodup := all ▸ nodup_types_iff.mpr oneId
    exact ⟨map.size + 1, all ▸ typesFrom_first distinct (Nat.lt_succ_self _)⟩

/-! ## Steps -/

theorem getType_register (type : RTPExtensionType) {id : UInt8} (inRange : 1 ≤ id ∧ id ≤ 14)
    (unregistered : map.getType id = Option.none) (other : UInt8) :
    (map.register type id).2.getType other =
      if other = id then some type else map.getType other := by
  have registered : (map.register type id).2.extensionMap = (id, type) :: map.extensionMap := by
    rw [register, dif_pos inRange]
    split
    · rename_i found
      rw [unregistered] at found
      cases found
    · rfl
  rw [getType, registered, List.lookup_cons]
  by_cases same : other = id
  · rw [if_pos same, same, beq_self_eq_true]
  · rw [if_neg same, beq_false_of_ne same]
    rfl

theorem register_eq (type : RTPExtensionType) {id : UInt8}
    (refused : ¬ ((1 ≤ id ∧ id ≤ 14) ∧ map.getType id = Option.none)) :
    (map.register type id).2 = map := by
  rw [register]
  split
  · rename_i inRange
    split
    · rfl
    · rename_i unregistered
      exact absurd ⟨inRange, unregistered⟩ refused
  · rfl

theorem getType_deregister (type : RTPExtensionType) (other : UInt8) {found : RTPExtensionType}
    (registered : (map.deregister type).2.getType other = some found) :
    map.getType other = some found := by
  rw [deregister] at registered
  split at registered
  · exact registered
  · exact getType_eq_some_iff.mpr (List.mem_of_mem_filter (getType_eq_some_iff.mp registered))

/-- A step keeps the types apart exactly when it is permitted. -/
theorem unique_step_iff (unique : map.Unique) (operation : Operation) :
    (map.step operation).Unique ↔ map.Permits operation := by
  cases operation with
  | register type id =>
    by_cases added : (1 ≤ id ∧ id ≤ 14) ∧ map.getType id = Option.none
    · have lookup := getType_register type added.1 added.2
      constructor
      · intro next _ _
        refine ⟨fun improper => next.proper id ?_, ?_⟩
        · rw [step, lookup, if_pos rfl, improper]
        · cases earlier : map.getId type with
          | none => rfl
          | some other =>
            have otherType := getType_of_getId earlier
            have different : other ≠ id := by
              rintro rfl
              rw [added.2] at otherType
              cases otherType
            refine absurd (next.oneId other id type ?_ ?_) different
            · rw [step, lookup, if_neg different, otherType]
            · rw [step, lookup, if_pos rfl]
      · intro permitted
        rcases permitted added.1 added.2 with ⟨proper, unused⟩
        rw [getId_eq_none_iff] at unused
        constructor
        · intro other improper
          rw [step, lookup] at improper
          split at improper
          · exact proper (Option.some.inj improper)
          · exact unique.proper other improper
        · intro first second other firstType secondType
          rw [step, lookup] at firstType secondType
          split at firstType <;> split at secondType
          · rename_i firstSame secondSame
            exact firstSame.trans secondSame.symm
          · cases firstType
            exact absurd secondType (unused second)
          · cases secondType
            exact absurd firstType (unused first)
          · exact unique.oneId first second other firstType secondType
    · refine iff_of_true ?_ fun inRange unregistered => absurd ⟨inRange, unregistered⟩ added
      rw [step, register_eq type added]
      exact unique
  | deregister type =>
    refine iff_of_true
      ⟨fun id improper => ?_, fun first second other firstType secondType => ?_⟩ trivial
    · exact unique.proper id (getType_deregister type id improper)
    · exact unique.oneId first second other (getType_deregister type first firstType)
        (getType_deregister type second secondType)

theorem empty_unique : empty.Unique :=
  ⟨fun _ registered => (by cases registered), fun _ _ _ registered => (by cases registered)⟩

/-- In a run of the map the iteration is right in every state exactly when no type is registered
for a second time, or is none. -/
theorem iteratesThroughout_iff (operations : List Operation) :
    (∀ count, (Run.final step empty (operations.take count)).IteratesOnce) ↔
      Run.Allowed step Permits empty operations := by
  have steps : ∀ map operation, True →
      True ∧ (IteratesOnce map → ((map.step operation).IteratesOnce ↔ map.Permits operation)) := by
    intro map operation _
    refine ⟨trivial, fun iterates => ?_⟩
    rw [iteratesOnce_iff, unique_step_iff (iteratesOnce_iff.mp iterates)]
  exact Run.good_iff_allowed step steps trivial (iteratesOnce_iff.mpr empty_unique)

/-- One type under two identifiers: the iteration comes back to the second one for ever. -/
theorem not_iteratesThroughout_twice :
    ¬ ∀ (operations : List Operation) (count : Nat),
      (Run.final step empty (operations.take count)).IteratesOnce := by
  intro always
  rcases always [.register .transmissionTimeOffset 1, .register .transmissionTimeOffset 2] 2 with
    ⟨fuel, ended⟩
  rw [typesFrom_first_of_repeated (by decide)] at ended
  cases ended

end ZyWebRtc.Rtp.RtpHeaderExtensionMap
