import Mathlib.Tactic

namespace ZyWebRtc.Tiling

/-! Lists of pieces that lie end to end along a line of positions. -/

universe u v

variable {Piece : Type u} {Position : Type v} [AddMonoid Position]
  (start size : Piece → Position)

/-- The first piece starts at the position, and every other one where the piece
before it ends. -/
def Tiles : Position → List Piece → Prop
  | _, [] => True
  | position, piece :: rest => start piece = position ∧ Tiles (position + size piece) rest

/-- The size of all pieces together. -/
def extent (pieces : List Piece) : Position := (pieces.map size).sum

@[simp] theorem extent_nil : extent size [] = 0 := rfl

@[simp] theorem extent_cons (piece : Piece) (rest : List Piece) :
    extent size (piece :: rest) = size piece + extent size rest := by
  simp [extent]

@[simp] theorem extent_append (front back : List Piece) :
    extent size (front ++ back) = extent size front + extent size back := by
  simp [extent]

@[simp] theorem tiles_nil (position : Position) : Tiles start size position [] := trivial

@[simp] theorem tiles_cons (position : Position) (piece : Piece) (rest : List Piece) :
    Tiles start size position (piece :: rest) ↔
      start piece = position ∧ Tiles start size (position + size piece) rest := Iff.rfl

theorem tiles_append (position : Position) (front back : List Piece) :
    Tiles start size position (front ++ back) ↔ Tiles start size position front ∧
        Tiles start size (position + extent size front) back := by
  induction front generalizing position with
  | nil => simp
  | cons piece rest induction => simp [induction, and_assoc, add_assoc]

/-- Where a piece of the tiling starts. -/
theorem start_eq_of_tiles {position : Position} {before after : List Piece} {piece : Piece}
    (tiles : Tiles start size position (before ++ piece :: after)) :
    start piece = position + extent size before :=
  ((tiles_append start size position before (piece :: after)).mp tiles).2.1

/-- A piece may be cut into two, and two pieces may be joined. -/
theorem tiles_replace {position : Position} {before after old new : List Piece}
    (sameExtent : extent size new = extent size old)
    (newTiles : Tiles start size (position + extent size before) new)
    (tiles : Tiles start size position (before ++ (old ++ after))) :
    Tiles start size position (before ++ (new ++ after)) := by
  rw [tiles_append, tiles_append] at tiles ⊢
  exact ⟨tiles.1, newTiles, sameExtent ▸ tiles.2.2⟩

end ZyWebRtc.Tiling
