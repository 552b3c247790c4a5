import Mathlib.Tactic

namespace ZyWebRtc.Ring

/-! Queues in a ring of cells: the values in line from a first cell on, around the
end of the memory. -/

open List Nat

universe u

variable {Value : Type u} {length head count : Nat}

section

variable (cells : Nat → Value)

/-- The values of `count` cells from `head` on. -/
def contents (length head count : Nat) : List Value :=
  (List.range count).map fun offset => cells ((head + offset) % length)

/-- The number of cells from `head` up to `tail`. -/
def distance (length head tail : Nat) : Nat := (tail + length - head) % length

@[simp] theorem length_contents (length head count : Nat) :
    (contents cells length head count).length = count := by
  simp [contents]

theorem contents_cons (inside : head < length) (count : Nat) :
    contents cells length head (count + 1) =
      cells head :: contents cells length ((head + 1) % length) count := by
  rw [contents, contents, range_succ_eq_map, map_cons, List.map_map, Nat.add_zero,
    mod_eq_of_lt inside]
  congr 1
  apply map_congr_left
  intro offset _
  rw [mod_add_mod, Function.comp_apply, Nat.add_assoc, Nat.add_comm 1]

theorem contents_append (length head count : Nat) :
    contents cells length head (count + 1) =
      contents cells length head count ++ [cells ((head + count) % length)] := by
  rw [contents, range_succ, map_append]
  rfl

/-- A cell keeps its place when the queue does not reach around to it. -/
theorem position_ne {offset : Nat} (before : offset < count) (room : count < length) :
    (head + offset) % length ≠ (head + count) % length := by
  intro same
  have divides : length ∣ head + count - (head + offset) :=
    (modEq_iff_dvd' (by omega)).mp same
  rw [Nat.add_sub_add_left] at divides
  have reaches := le_of_dvd (by omega) divides
  omega

/-- Writing the cell behind the last one appends its value. -/
theorem contents_update (head : Nat) (value : Value) (room : count < length) :
    contents (Function.update cells ((head + count) % length) value) length head (count + 1) =
      contents cells length head count ++ [value] := by
  rw [contents_append, Function.update_self]
  congr 1
  apply map_congr_left
  intro offset member
  exact Function.update_of_ne (position_ne (mem_range.mp member) room) _ _

/-- The queue does not see a cell in front of it. -/
theorem contents_update_front (value : Value) (inside : head < length)
    (room : count < length) :
    contents (Function.update cells head value) length ((head + 1) % length) count =
      contents cells length ((head + 1) % length) count := by
  apply map_congr_left
  intro offset member
  apply Function.update_of_ne
  have before : offset < count := mem_range.mp member
  have other : (head + 0) % length ≠ (head + (offset + 1)) % length :=
    position_ne (succ_pos offset) (by omega)
  rw [Nat.add_zero, mod_eq_of_lt inside] at other
  rw [mod_add_mod, Nat.add_assoc, Nat.add_comm 1]
  exact other.symm

end

theorem distance_lt {tail : Nat} (positive : 0 < length) : distance length head tail < length :=
  mod_lt _ positive

theorem head_add_distance {tail : Nat} (headInside : head < length) (tailInside : tail < length) :
    (head + distance length head tail) % length = tail := by
  rw [distance, add_mod_mod, show head + (tail + length - head) = tail + length by omega,
    add_mod_right, mod_eq_of_lt tailInside]

theorem distance_eq_zero_iff {tail : Nat} (headInside : head < length)
    (tailInside : tail < length) : distance length head tail = 0 ↔ tail = head := by
  constructor
  · intro none
    have reached := head_add_distance headInside tailInside
    rw [none, Nat.add_zero, mod_eq_of_lt headInside] at reached
    exact reached.symm
  · intro same
    rw [distance, same, Nat.add_sub_cancel_left, mod_self]

/-- The distance is the one number of steps below a round that reaches the tail. -/
theorem distance_eq {tail steps : Nat} (headInside : head < length) (short : steps < length)
    (reached : (head + steps) % length = tail) : distance length head tail = steps := by
  have positive : 0 < length := by omega
  have tailInside : tail < length := reached ▸ mod_lt _ positive
  have same : (head + distance length head tail) % length = (head + steps) % length := by
    rw [head_add_distance headInside tailInside, reached]
  have close : distance length head tail % length = steps % length :=
    Nat.ModEq.add_left_cancel' head same
  rwa [mod_eq_of_lt (distance_lt positive), mod_eq_of_lt short] at close

end ZyWebRtc.Ring
