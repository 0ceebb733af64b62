import SketchLayout.Pattern.Basic

/-!
# `pattern_distribute`

Tiles of a given size, spread evenly over a region. Along each axis the number of tiles is given,
or it is the most that fit with the asked spacing between them. Two tiles or more reach from one
side of the region to the other; a single tile stands in the middle.

| definition | stands for |
| --- | --- |
| `Anchor` | `ResultPos` |
| `Distribute`, with a `DistributeAxis` for each axis | `DistributePattern` |
| `DistributeAxis.countIn`, `positions` | `distribute_axis`, the count and then the positions |
-/

namespace SketchLayout

inductive Anchor where
  | center
  | origin
  deriving DecidableEq, Repr

namespace Anchor

def name : Anchor → String
  | center => "center"
  | origin => "origin"

def ofName? : String → Option Anchor
  | "center" => some center
  | "origin" => some origin
  | _ => none

theorem ofName?_name (a : Anchor) : ofName? a.name = some a := by cases a <;> rfl

/-- The anchor that a user's text names, in any letter case. -/
def ofText {α : Type} (text : String) : Except (LayoutError α) Anchor :=
  match ofName? text.toLower with
  | some a => .ok a
  | none => .error (.invalidAnchor text)

end Anchor

structure DistributeAxis (α : Type) where
  size : Dimension α
  tileSize : α
  count : Option Nat := none
  minSpacing : α
  deriving DecidableEq, Repr

structure Distribute (α : Type) where
  x : DistributeAxis α
  y : DistributeAxis α
  center : Center := .default
  anchor : Anchor := .center
  deriving DecidableEq, Repr

namespace DistributeAxis

variable {α : Type} [Scalar α]

/-- A tile must not be empty or negative. -/
def checkedTile (a : Axis) (d : DistributeAxis α) : Except (LayoutError α) Unit :=
  if Scalar.le d.tileSize Scalar.zero then .error (.invalidTileSize a d.tileSize) else .ok ()

/-- How many tiles stand in an extent: as many as asked, or as many as fit. -/
def countIn (a : Axis) (d : DistributeAxis α) (extent : Interval α) :
    Except (LayoutError α) Nat :=
  match d.count with
  | some count => checkedCount a count
  | none =>
    inferredCount a
      (Scalar.reach ((extent.size + d.minSpacing) / (d.tileSize + d.minSpacing))).fitting

/-- The positions of `count` tiles in an extent. -/
def positions (d : DistributeAxis α) (anchor : Anchor) (extent : Interval α) (count : Nat) :
    List α :=
  match count with
  | 0 => []
  | 1 =>
    let offset := match anchor with
      | .center => Scalar.zero
      | .origin => Scalar.half (-d.tileSize)
    [extent.center + offset]
  | n + 2 =>
    let delta := (extent.size - d.tileSize) / Scalar.ofNat (n + 1)
    let offset := match anchor with
      | .center => Scalar.half d.tileSize
      | .origin => Scalar.zero
    (List.range (n + 2)).map fun k => extent.min + Scalar.ofNat k * delta + offset

end DistributeAxis

/-- The positions of distributed tiles, column by column. An axis without tiles leaves none. -/
def Distribute.points {α : Type} [Scalar α] (d : Distribute α) :
    Except (LayoutError α) (List (Point α)) := do
  d.x.checkedTile .x
  d.y.checkedTile .y
  let region ← Dimension.resolveRect d.x.size d.y.size d.center
  let countX ← d.x.countIn .x region.x
  let countY ← d.y.countIn .y region.y
  let total ← checkedTotal countX countY
  if total = 0 then return []
  return pairs Point.mk (d.x.positions d.anchor region.x countX)
    (d.y.positions d.anchor region.y countY)

end SketchLayout
