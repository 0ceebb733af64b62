import SketchLayout.Dimension

/-!
# `count_from`, `checked_count`, `checked_total` and `pattern_rect`

Every count that a layout places positions by is at most `positionLimit`, and so is the product of
the counts of the two axes. A count is given by the user or inferred from how many tiles reach
over an extent. The outline of a rectangle needs no counting: it has four corners, clockwise.

| definition | stands for |
| --- | --- |
| `inferredCount`, with `Reach.fitting` or `Reach.covering` | `count_from` of a floor or a ceiling |
| `Outline`, `Outline.points` | `RectJob`, `pattern_rect` of its fields |
-/

namespace SketchLayout

variable {α : Type}

/-- A count that is at most the limit. -/
def checkedCount (axis : Axis) (count : Nat) : Except (LayoutError α) Nat :=
  if positionLimit < count then .error (.countTooLarge axis) else .ok count

/-- An inferred count that is at most the limit; no number at all is too large. -/
def inferredCount (axis : Axis) (count : Option Nat) : Except (LayoutError α) Nat :=
  match count with
  | none => .error (.countTooLarge axis)
  | some n => checkedCount axis n

/-- The product of two counts, if it is at most the limit. -/
def checkedTotal (countX countY : Nat) : Except (LayoutError α) Nat :=
  if positionLimit < countX * countY then .error (.tooManyPositions countX countY)
  else .ok (countX * countY)

/-- All pairs, the first list in the outer place. -/
def pairs {β γ δ : Type} (f : β → γ → δ) (xs : List β) (ys : List γ) : List δ :=
  xs.flatMap fun x => ys.map (f x)

/-! ## The outline of a rectangle -/

structure Outline (α : Type) where
  sizeX : Dimension α
  sizeY : Dimension α
  center : Center := .default
  deriving DecidableEq, Repr

/-- The corners of the rectangle, clockwise from the least one. -/
def Outline.points {α : Type} [Scalar α] (o : Outline α) :
    Except (LayoutError α) (List (Point α)) := do
  let rect ← Dimension.resolveRect o.sizeX o.sizeY o.center
  return rect.corners

end SketchLayout
