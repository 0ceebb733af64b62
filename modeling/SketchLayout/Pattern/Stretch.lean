import SketchLayout.Pattern.Distribute

/-!
# `pattern_distribute_stretch`

Tiles that fill a region exactly: along each axis a number of tiles, given or derived from bounds on
their size, is stretched until the tiles and the gaps between them span the extent. An upper bound
asks for the fewest tiles that respect it, a lower bound alone for the most.

| definition | stands for |
| --- | --- |
| `Stretch`, with a `StretchAxis` for each axis | `StretchPattern` |
| `Fill`, `Fill.stretched`, `Fill.derived` | `AxisFill`, `stretched`, `inferred` |
| `StretchAxis.fill` | `fill_axis` |
-/

namespace SketchLayout

structure StretchAxis (α : Type) where
  size : Dimension α
  count : Option Nat := none
  minTile : Option α := none
  maxTile : Option α := none
  spacing : α
  deriving DecidableEq, Repr

structure Stretch (α : Type) where
  x : StretchAxis α
  y : StretchAxis α
  center : Center := .default
  deriving DecidableEq, Repr

/-- A number of tiles along an axis and the size of each. -/
structure Fill (α : Type) where
  count : Nat
  tile : α
  deriving DecidableEq, Repr

namespace Fill

variable {α : Type} [Scalar α]

def empty : Fill α := ⟨0, Scalar.zero⟩

/-- `count` tiles that span an extent with gaps between them. -/
def stretched (count : Nat) (extent spacing : α) : Fill α :=
  if count = 0 then empty
  else ⟨count, (spacing + extent) / Scalar.ofNat count - spacing⟩

/-- The same for a derived count: an extent or a tile that is not positive takes no tiles. -/
def derived (count : Nat) (extent spacing : α) : Fill α :=
  let fill := stretched count extent spacing
  if Scalar.le extent Scalar.zero || Scalar.le fill.tile Scalar.zero then empty else fill

end Fill

namespace StretchAxis

variable {α : Type} [Scalar α]

/-- The ratio that a tile size is counted by: extent and tile each with one gap more. -/
def ratio (s : StretchAxis α) (extent tile : α) : α := (extent + s.spacing) / (tile + s.spacing)

/-- The fewest tiles that stay at or below a size. -/
def fewest (a : Axis) (s : StretchAxis α) (extent tile : α) : Except (LayoutError α) (Fill α) := do
  let count ← inferredCount a (Scalar.reach (s.ratio extent tile)).covering
  return .derived count extent s.spacing

/-- The most tiles that stay at or above a size. -/
def most (a : Axis) (s : StretchAxis α) (extent tile : α) : Except (LayoutError α) (Fill α) := do
  let count ← inferredCount a (Scalar.reach (s.ratio extent tile)).fitting
  return .derived count extent s.spacing

/-- The tiles along an axis. A given count settles everything. Of two bounds the upper one decides,
unless the extent is already below the lower one, which leaves no tiles. -/
def fill (a : Axis) (s : StretchAxis α) (extent : α) : Except (LayoutError α) (Fill α) :=
  match s.count with
  | some count => do
    let count ← checkedCount a count
    return .stretched count extent s.spacing
  | none =>
    match s.minTile, s.maxTile with
    | none, none => .error (.stretchUnconstrained a)
    | none, some high => s.fewest a extent high
    | some low, high =>
      if Scalar.lt extent low then .ok .empty
      else
        match high with
        | some high => s.fewest a extent high
        | none => s.most a extent low

end StretchAxis

namespace Stretch

variable {α : Type} [Scalar α]

/-- The distribution that places the least corners of the tiles. -/
def origins (s : Stretch α) (fillX fillY : Fill α) : Distribute α where
  x := ⟨s.x.size, fillX.tile, some fillX.count, Scalar.zero⟩
  y := ⟨s.y.size, fillY.tile, some fillY.count, Scalar.zero⟩
  center := s.center
  anchor := .origin

/-- The tiles, column by column. Once X takes no tiles, Y is not looked at. -/
def tiles (s : Stretch α) : Except (LayoutError α) (List (Rect α)) := do
  let region ← Dimension.resolveRect s.x.size s.y.size s.center
  let fillX ← s.x.fill .x region.x.size
  if fillX.count = 0 then return []
  let fillY ← s.y.fill .y region.y.size
  if fillY.count = 0 then return []
  let corners ← (s.origins fillX fillY).points
  return corners.map fun p => .new p.x (p.x + fillX.tile) p.y (p.y + fillY.tile)

end Stretch

end SketchLayout
