import Mathlib.Tactic

namespace ZyWebRtc.Run

/-! Runs of a deterministic machine, and what holds in all their states. -/

open List Option

universe u v

variable {State : Type u} {Operation : Type v} (step : State → Operation → State)

/-- The state after a list of operations. -/
def final : State → List Operation → State
  | state, [] => state
  | state, operation :: rest => final (step state operation) rest

/-- Every operation of the run is allowed in the state that it meets. -/
def Allowed (allowed : State → Operation → Prop) : State → List Operation → Prop
  | _, [] => True
  | state, operation :: rest => allowed state operation ∧ Allowed allowed (step state operation) rest

def decideAllowed (allowed : State → Operation → Prop)
    [∀ state operation, Decidable (allowed state operation)] :
    ∀ state operations, Decidable (Allowed step allowed state operations)
  | _, [] => .isTrue trivial
  | state, operation :: rest =>
    have := decideAllowed allowed (step state operation) rest
    inferInstanceAs (Decidable (_ ∧ _))

instance (allowed : State → Operation → Prop)
    [∀ state operation, Decidable (allowed state operation)] (state : State)
    (operations : List Operation) : Decidable (Allowed step allowed state operations) :=
  decideAllowed step allowed state operations

@[simp] theorem final_nil (state : State) : final step state [] = state := rfl

@[simp] theorem final_cons (state : State) (operation : Operation) (rest : List Operation) :
    final step state (operation :: rest) = final step (step state operation) rest := rfl

section

variable {allowed : State → Operation → Prop}

theorem allowed_append (state : State) (first second : List Operation) :
    Allowed step allowed state (first ++ second) ↔ Allowed step allowed state first ∧
        Allowed step allowed (final step state first) second := by
  induction first generalizing state with
  | nil => simp [Allowed]
  | cons operation rest induction => simp [Allowed, induction, and_assoc]

/-- Any run is one of allowed operations when all of them are allowed. -/
theorem allowed_true (state : State) (operations : List Operation) :
    Allowed step (fun _ _ => True) state operations := by
  induction operations generalizing state with
  | nil => trivial
  | cons operation rest induction => exact ⟨trivial, induction (step state operation)⟩

theorem allowed_take {state : State}
    {operations : List Operation} (allows : Allowed step allowed state operations) (count : Nat) :
    Allowed step allowed state (operations.take count) := by
  rw [← take_append_drop count operations, allowed_append] at allows
  exact allows.1

/-- What holds of all operations may be asked of each of them. -/
theorem allowed_and {valid : Operation → Prop}
    {state : State} {operations : List Operation} (all : ∀ operation ∈ operations, valid operation)
    (allows : Allowed step allowed state operations) :
    Allowed step (fun state operation => valid operation ∧ allowed state operation) state
      operations := by
  induction operations generalizing state with
  | nil => trivial
  | cons operation rest induction =>
    exact ⟨⟨all operation mem_cons_self, allows.1⟩,
      induction (fun other member => all other (mem_cons_of_mem _ member)) allows.2⟩

/-- An invariant that every allowed operation preserves holds after every run of
allowed operations. -/
theorem invariant_final {invariant : State → Prop}
    (preserved : ∀ state operation, invariant state → allowed state operation →
      invariant (step state operation)) :
    ∀ {state operations}, invariant state → Allowed step allowed state operations →
      invariant (final step state operations) := by
  intro state operations
  induction operations generalizing state with
  | nil => exact fun initial _ => initial
  | cons operation rest induction =>
    rintro initial ⟨now, later⟩
    exact induction (preserved state operation initial now) later

/-- What follows for an allowed operation from an invariant follows for all operations of a run
of allowed operations. -/
theorem allowed_of_invariant {allowed good : State → Operation → Prop} {invariant : State → Prop}
    (preserved : ∀ state operation, invariant state → allowed state operation →
      invariant (step state operation))
    (implies : ∀ state operation, invariant state → allowed state operation →
      good state operation) :
    ∀ {state operations}, invariant state → Allowed step allowed state operations →
      Allowed step good state operations := by
  intro state operations
  induction operations generalizing state with
  | nil => exact fun _ _ => trivial
  | cons operation rest induction =>
    rintro initial ⟨now, later⟩
    exact ⟨implies state operation initial now,
      induction (preserved state operation initial now) later⟩

/-- What is good and what is allowed agree over a run when they agree in the states of an
invariant, and good operations preserve it. -/
theorem allowed_iff_of_invariant {valid good allowed : State → Operation → Prop}
    {invariant : State → Prop}
    (agrees : ∀ state operation, invariant state → valid state operation →
      (good state operation ↔ allowed state operation))
    (preserved : ∀ state operation, invariant state → valid state operation →
      good state operation → invariant (step state operation)) :
    ∀ {state operations}, invariant state → Allowed step valid state operations →
      (Allowed step good state operations ↔ Allowed step allowed state operations) := by
  intro state operations
  induction operations generalizing state with
  | nil => exact fun _ _ => Iff.rfl
  | cons operation rest induction =>
    rintro initial ⟨now, later⟩
    have same := agrees state operation initial now
    constructor
    · rintro ⟨good, onwards⟩
      have kept := preserved state operation initial now good
      exact ⟨same.mp good, (induction kept later).mp onwards⟩
    · rintro ⟨allows, onwards⟩
      have good := same.mpr allows
      have kept := preserved state operation initial now good
      exact ⟨good, (induction kept later).mpr onwards⟩

/-- When the result of a step is good exactly if its operation is allowed, all states of a run
are good exactly if all of its operations are. -/
theorem good_iff_allowed {kept good : State → Prop}
    (steps : ∀ state operation, kept state → kept (step state operation) ∧
        (good state → (good (step state operation) ↔ allowed state operation))) :
    ∀ {state operations}, kept state → good state →
      ((∀ count, good (final step state (operations.take count))) ↔
        Allowed step allowed state operations) := by
  intro state operations
  induction operations generalizing state with
  | nil =>
    intro _ initial
    exact ⟨fun _ => trivial, fun _ count => by rw [take_nil]; exact initial⟩
  | cons operation rest induction =>
    intro keptState initial
    rcases steps state operation keptState with ⟨keptNext, goodNext⟩
    constructor
    · intro every
      have here : good (step state operation) := every 1
      exact ⟨(goodNext initial).mp here,
        (induction keptNext here).mp fun count => every (count + 1)⟩
    · rintro ⟨now, later⟩ count
      cases count with
      | zero => exact initial
      | succ count => exact (induction keptNext ((goodNext initial).mpr now)).mpr later count

end

/-! ## Machines that may fail -/

section Partial

variable (step : State → Operation → Option State)

/-- The state after a list of operations, when none of them fails. -/
def reached : State → List Operation → Option State
  | state, [] => some state
  | state, operation :: rest => do
    let next ← step state operation
    reached next rest

theorem reached_append (state : State) (first second : List Operation) :
    reached step state (first ++ second) =
      (reached step state first).bind fun middle => reached step middle second := by
  induction first generalizing state with
  | nil => rfl
  | cons operation rest induction =>
    simp only [cons_append, reached, bind_eq_bind, bind_assoc, induction]

theorem reached_take_succ {state next : State} {operation : Operation}
    (stepped : step state operation = some next) (rest : List Operation) (count : Nat) :
    reached step state ((operation :: rest).take (count + 1)) =
      reached step next (rest.take count) := by
  rw [take_succ_cons, reached, stepped]
  rfl

/-- Every operation of the run is allowed in the state that it meets. -/
def Permitted (allowed : State → Operation → Prop) : State → List Operation → Prop
  | _, [] => True
  | state, operation :: rest =>
    allowed state operation ∧ ∀ next, step state operation = some next → Permitted allowed next rest

/-- A property of the value, when there is one. -/
def decideEverySome {Value : Type u} (holds : Value → Prop) [∀ value, Decidable (holds value)] :
    ∀ result : Option Value, Decidable (∀ value, result = some value → holds value)
  | none => .isTrue fun _ absent => nomatch absent
  | some value =>
    decidable_of_iff (holds value)
      ⟨fun held _ same => Option.some.inj same ▸ held, fun every => every value rfl⟩

instance instDecidableEverySome {Value : Type u} (holds : Value → Prop)
    [∀ value, Decidable (holds value)] (result : Option Value) : Decidable (∀ value, result = some value → holds value) :=
  decideEverySome holds result

def decidePermitted (allowed : State → Operation → Prop)
    [∀ state operation, Decidable (allowed state operation)] :
    ∀ state operations, Decidable (Permitted step allowed state operations)
  | _, [] => .isTrue trivial
  | state, operation :: rest =>
    have := fun next => decidePermitted allowed next rest
    inferInstanceAs (Decidable (_ ∧ ∀ next, step state operation = some next → _))

instance (allowed : State → Operation → Prop)
    [∀ state operation, Decidable (allowed state operation)] (state : State)
    (operations : List Operation) : Decidable (Permitted step allowed state operations) :=
  decidePermitted step allowed state operations

variable {allowed : State → Operation → Prop}

variable {operations : List Operation}

theorem permitted_take {state : State} (permitted : Permitted step allowed state operations)
    (count : Nat) : Permitted step allowed state (operations.take count) := by
  induction operations generalizing state count with
  | nil =>
    rw [take_nil]
    trivial
  | cons operation rest induction =>
    cases count with
    | zero => trivial
    | succ count =>
      exact ⟨permitted.1, fun next stepped => induction (permitted.2 next stepped) count⟩

/-- What is allowed in every state is allowed in the states of a run. -/
theorem permitted_of_forall
    (all : ∀ operation ∈ operations, ∀ state, allowed state operation) (state : State) :
    Permitted step allowed state operations := by
  induction operations generalizing state with
  | nil => trivial
  | cons operation rest induction =>
    refine ⟨all operation mem_cons_self state, fun next _ => ?_⟩
    exact induction (fun other member => all other (mem_cons_of_mem _ member)) next

/-- What holds of all operations may be asked of each of them. -/
theorem permitted_and {valid : Operation → Prop} {state : State}
    (all : ∀ operation ∈ operations, valid operation)
    (permitted : Permitted step allowed state operations) :
    Permitted step (fun state operation => valid operation ∧ allowed state operation) state
      operations := by
  induction operations generalizing state with
  | nil => trivial
  | cons operation rest induction =>
    refine ⟨⟨all operation mem_cons_self, permitted.1⟩, fun next stepped => ?_⟩
    exact induction (fun other member => all other (mem_cons_of_mem _ member))
      (permitted.2 next stepped)

variable {invariant : State → Prop}

/-- What follows in every step from an invariant and from what is allowed holds of the steps
of a run. -/
theorem permitted_of_invariant {allowed good : State → Operation → Prop}
    (preserved : ∀ state operation next, invariant state → allowed state operation →
      step state operation = some next → invariant next)
    (follows : ∀ state operation, invariant state → allowed state operation →
      good state operation) :
    ∀ {state operations}, invariant state → Permitted step allowed state operations →
      Permitted step good state operations := by
  intro state operations
  induction operations generalizing state with
  | nil => exact fun _ _ => trivial
  | cons operation rest induction =>
    rintro initial ⟨now, later⟩
    refine ⟨follows state operation initial now, fun next stepped => ?_⟩
    exact induction (preserved state operation next initial now stepped) (later next stepped)

/-- When allowed operations succeed and preserve an invariant, runs of them do. -/
theorem invariant_reached
    (preserved : ∀ state operation, invariant state → allowed state operation →
      ∃ next, step state operation = some next ∧ invariant next) :
    ∀ {state operations}, invariant state → Permitted step allowed state operations →
      ∃ last, reached step state operations = some last ∧ invariant last := by
  intro state operations
  induction operations generalizing state with
  | nil => exact fun initial _ => ⟨state, rfl, initial⟩
  | cons operation rest induction =>
    rintro initial ⟨now, later⟩
    rcases preserved state operation initial now with ⟨next, stepped, kept⟩
    rcases induction kept (later next stepped) with ⟨last, run, final⟩
    refine ⟨last, ?_, final⟩
    rw [reached, stepped]
    exact run

/-- When allowed operations that succeed preserve an invariant, runs that succeed do. -/
theorem invariant_of_reached
    (preserved : ∀ state operation next, invariant state → allowed state operation →
      step state operation = some next → invariant next) :
    ∀ {state operations last}, invariant state → Permitted step allowed state operations →
      reached step state operations = some last → invariant last := by
  intro state operations last
  induction operations generalizing state with
  | nil => exact fun initial _ run => Option.some.inj run ▸ initial
  | cons operation rest induction =>
    rintro initial ⟨now, later⟩ run
    simp only [reached, bind_eq_bind, bind_eq_some_iff] at run
    rcases run with ⟨next, stepped, onwards⟩
    exact induction (preserved state operation next initial now stepped) (later next stepped)
      onwards

/-- When the result of a step is good exactly if its operation is allowed, all states of a run
are good exactly if all of its operations are. -/
theorem good_iff_permitted {kept good : State → Prop} {valid : Operation → Prop}
    (steps : ∀ state operation, kept state → valid operation →
      ∃ next, step state operation = some next ∧ kept next ∧
        (good state → (good next ↔ allowed state operation))) :
    ∀ {state operations}, kept state → good state → (∀ operation ∈ operations, valid operation) →
      ((∀ count, ∃ last, reached step state (operations.take count) = some last ∧ good last) ↔
        Permitted step allowed state operations) := by
  intro state operations
  induction operations generalizing state with
  | nil =>
    intro _ initial _
    exact ⟨fun _ => trivial, fun _ count => ⟨state, by rw [take_nil]; rfl, initial⟩⟩
  | cons operation rest induction =>
    intro keptState initial all
    rcases steps state operation keptState (all operation mem_cons_self) with
      ⟨next, stepped, keptNext, goodNext⟩
    have later := fun good => induction keptNext good
      fun other member => all other (mem_cons_of_mem _ member)
    have reachedLater := reached_take_succ step stepped rest
    constructor
    · intro every
      have here : good next := by
        rcases every 1 with ⟨last, run, goodLast⟩
        rw [reachedLater, take_zero] at run
        exact Option.some.inj run ▸ goodLast
      refine ⟨(goodNext initial).mp here, fun other same => ?_⟩
      rw [stepped] at same
      cases same
      apply (later here).mp
      intro count
      rcases every (count + 1) with ⟨last, run, goodLast⟩
      rw [reachedLater] at run
      exact ⟨last, run, goodLast⟩
    · rintro ⟨now, onwards⟩ count
      cases count with
      | zero => exact ⟨state, by rw [take_zero]; rfl, initial⟩
      | succ count =>
        rw [reachedLater]
        exact (later ((goodNext initial).mpr now)).mpr (onwards next stepped) count

/-- The same for machines whose operations may be impossible, in the runs in which none is, with an
invariant that makes a state good and that allowed operations preserve. -/
theorem kept_iff_permitted_of_reached {kept good : State → Prop}
    (sound : ∀ state, kept state → good state)
    (steps : ∀ state operation next, kept state → step state operation = some next →
      (good next → allowed state operation) ∧ (allowed state operation → kept next)) :
    ∀ {state operations last}, kept state → reached step state operations = some last →
      ((∀ count middle, reached step state (operations.take count) = some middle → good middle) ↔
        Permitted step allowed state operations) := by
  intro state operations last
  induction operations generalizing state with
  | nil =>
    intro initial _
    refine ⟨fun _ => trivial, fun _ count middle run => ?_⟩
    rw [take_nil] at run
    cases run
    exact sound state initial
  | cons operation rest induction =>
    intro initial run
    simp only [reached, bind_eq_bind, bind_eq_some_iff] at run
    rcases run with ⟨next, stepped, onwards⟩
    rcases steps state operation next initial stepped with ⟨allows, keeps⟩
    have reachedLater := reached_take_succ step stepped rest
    constructor
    · intro every
      have now : allowed state operation := by
        apply allows
        apply every 1
        rw [reachedLater, take_zero]
        rfl
      refine ⟨now, fun other same => ?_⟩
      rw [stepped] at same
      cases same
      apply (induction (keeps now) onwards).mp
      intro count middle run
      exact every (count + 1) middle ((reachedLater count).trans run)
    · rintro ⟨now, later⟩ count middle run
      cases count with
      | zero =>
        rw [take_zero] at run
        cases run
        exact sound state initial
      | succ count =>
        rw [reachedLater] at run
        exact (induction (keeps now) onwards).mpr (later next stepped) count middle run

/-- The same for an invariant that says nothing about good states. -/
theorem good_iff_permitted_of_reached {kept good : State → Prop}
    (steps : ∀ state operation next, kept state → step state operation = some next →
      kept next ∧ (good state → (good next ↔ allowed state operation))) :
    ∀ {state operations last}, kept state → good state → reached step state operations = some last →
      ((∀ count middle, reached step state (operations.take count) = some middle → good middle) ↔
        Permitted step allowed state operations) := by
  intro state operations last keptState initial run
  have sound : ∀ state, kept state ∧ good state → good state := fun _ both => both.2
  apply kept_iff_permitted_of_reached step sound _ ⟨keptState, initial⟩ run
  intro state operation next both stepped
  rcases steps state operation next both.1 stepped with ⟨keptNext, goodNext⟩
  exact ⟨(goodNext both.2).mp, fun now => ⟨keptNext, (goodNext both.2).mpr now⟩⟩

end Partial

end ZyWebRtc.Run
