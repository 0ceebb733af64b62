import SketchLayout.Pattern.Grid
import SketchLayout.Pattern.Stretch

/-!
# Building patterns step by step

A pattern starts from what it cannot do without and takes settings one after another; a later
setting of a field replaces an earlier one. Settings are data, so a sequence of them can be read,
kept and compared with the pattern it builds. A setting of `GridSetting`, `DistributeSetting` or
`StretchSetting` is a call of the method of its name on `GridPattern`, `DistributePattern` or
`StretchPattern`.
-/

namespace SketchLayout

variable {α : Type}

/-! ## Grids -/

inductive GridSetting (α : Type) where
  | spacing (x y : α)
  | spacingX (s : α)
  | spacingY (s : α)
  | size (x y : Dimension α)
  | sizeX (d : Dimension α)
  | sizeY (d : Dimension α)
  | center (c : Center)
  deriving DecidableEq, Repr

namespace Grid

/-- A grid of which only the counts are known. -/
def new (countX countY : Nat) : Grid α := { x := { count := countX }, y := { count := countY } }

def set (g : Grid α) : GridSetting α → Grid α
  | .spacing x y => { g with x.spacing := some x, y.spacing := some y }
  | .spacingX s => { g with x.spacing := some s }
  | .spacingY s => { g with y.spacing := some s }
  | .size x y => { g with x.size := some x, y.size := some y }
  | .sizeX d => { g with x.size := some d }
  | .sizeY d => { g with y.size := some d }
  | .center c => { g with center := c }

/-- Takes settings in order. -/
def setAll (g : Grid α) (settings : List (GridSetting α)) : Grid α := settings.foldl set g

end Grid

/-! ## Distributed tiles -/

inductive DistributeSetting (α : Type) where
  | count (x y : Nat)
  | countX (n : Nat)
  | countY (n : Nat)
  | center (c : Center)
  | anchor (a : Anchor)
  | minSpacing (x y : α)
  deriving DecidableEq, Repr

namespace Distribute

/-- Tiles of which only the region and their size are known. -/
def new [Scalar α] (sizeX sizeY : Dimension α) (tileX tileY : α) : Distribute α where
  x := { size := sizeX, tileSize := tileX, minSpacing := Scalar.zero }
  y := { size := sizeY, tileSize := tileY, minSpacing := Scalar.zero }

def set (d : Distribute α) : DistributeSetting α → Distribute α
  | .count x y => { d with x.count := some x, y.count := some y }
  | .countX n => { d with x.count := some n }
  | .countY n => { d with y.count := some n }
  | .center c => { d with center := c }
  | .anchor a => { d with anchor := a }
  | .minSpacing x y => { d with x.minSpacing := x, y.minSpacing := y }

/-- Takes settings in order. -/
def setAll (d : Distribute α) (settings : List (DistributeSetting α)) : Distribute α :=
  settings.foldl set d

end Distribute

/-! ## Stretched tiles -/

inductive StretchSetting (α : Type) where
  | count (x y : Nat)
  | countX (n : Nat)
  | countY (n : Nat)
  | minTileX (s : α)
  | maxTileX (s : α)
  | minTileY (s : α)
  | maxTileY (s : α)
  | spacing (x y : α)
  | center (c : Center)
  deriving DecidableEq, Repr

namespace Stretch

/-- Tiles of which only the region is known. -/
def new [Scalar α] (sizeX sizeY : Dimension α) : Stretch α where
  x := { size := sizeX, spacing := Scalar.zero }
  y := { size := sizeY, spacing := Scalar.zero }

def set (s : Stretch α) : StretchSetting α → Stretch α
  | .count x y => { s with x.count := some x, y.count := some y }
  | .countX n => { s with x.count := some n }
  | .countY n => { s with y.count := some n }
  | .minTileX t => { s with x.minTile := some t }
  | .maxTileX t => { s with x.maxTile := some t }
  | .minTileY t => { s with y.minTile := some t }
  | .maxTileY t => { s with y.maxTile := some t }
  | .spacing x y => { s with x.spacing := x, y.spacing := y }
  | .center c => { s with center := c }

/-- Takes settings in order. -/
def setAll (s : Stretch α) (settings : List (StretchSetting α)) : Stretch α := settings.foldl set s

end Stretch

end SketchLayout
