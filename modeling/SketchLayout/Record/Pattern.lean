import SketchLayout.Pattern.Basic
import SketchLayout.Pattern.Grid
import SketchLayout.Pattern.Stretch
import SketchLayout.Record.Geometry

/-!
# Records of the patterns

A pattern is a record with a column for every field of `GridPattern`, `DistributePattern`,
`StretchPattern` or `RectJob`, X before Y. Written, every column is there; read, all but the fields
that a pattern cannot do without may be left out.
-/

namespace SketchLayout

open Column Document

def ofOptionalNumber (x : Option Float) : Document := ofOption .number x

def ofOptionalCount (n : Option Nat) : Document := ofOption ofCount n

def optionalNumber : Option Document → Option (Option Float) := optional toFloat?

def optionalCount : Option Document → Option (Option Nat) := optional toCount?

/-- Reads a number that is zero unless given. -/
def numberOrZero : Option Document → Option Float := defaulted Scalar.zero toFloat?

/-- Reads a dimension that must be given. -/
def requiredDimension : Option Document → Option (Dimension Float) :=
  required Dimension.ofDocument?

/-- Reads a centering request, which asks for everything unless given. -/
def centerOrDefault : Option Document → Option Center := defaulted .default Center.ofDocument?

namespace Outline

def columns : List String := ["size_x", "size_y", "center"]

def toDocument (o : Outline Float) : Document :=
  record columns [o.sizeX.toDocument, o.sizeY.toDocument, o.center.toDocument]

def ofDocument? (d : Document) : Option (Outline Float) := do
  match ← d.columns? columns with
  | [sizeX, sizeY, center] =>
    return ⟨← requiredDimension sizeX, ← requiredDimension sizeY, ← centerOrDefault center⟩
  | _ => none

end Outline

namespace Grid

def columns : List String :=
  ["count_x", "count_y", "spacing_x", "spacing_y", "size_x", "size_y", "center"]

def toDocument (g : Grid Float) : Document :=
  record columns
    [ofCount g.x.count, ofCount g.y.count, ofOptionalNumber g.x.spacing,
      ofOptionalNumber g.y.spacing, ofOption Dimension.toDocument g.x.size,
      ofOption Dimension.toDocument g.y.size, g.center.toDocument]

def ofDocument? (d : Document) : Option (Grid Float) := do
  match ← d.columns? columns with
  | [countX, countY, spacingX, spacingY, sizeX, sizeY, center] =>
    let count := required toCount?
    let size := optional Dimension.ofDocument?
    return {
      x := ⟨← count countX, ← optionalNumber spacingX, ← size sizeX⟩
      y := ⟨← count countY, ← optionalNumber spacingY, ← size sizeY⟩
      center := ← centerOrDefault center }
  | _ => none

end Grid

namespace Distribute

def columns : List String :=
  ["size_x", "size_y", "tile_size_x", "tile_size_y", "count_x", "count_y", "center", "result_pos",
    "min_spacing_x", "min_spacing_y"]

def toDocument (d : Distribute Float) : Document :=
  record columns
    [d.x.size.toDocument, d.y.size.toDocument, .number d.x.tileSize, .number d.y.tileSize,
      ofOptionalCount d.x.count, ofOptionalCount d.y.count, d.center.toDocument,
      d.anchor.toDocument, .number d.x.minSpacing, .number d.y.minSpacing]

def ofDocument? (isBlank : Document → Bool) (d : Document) : Option (Distribute Float) := do
  match ← d.columns? columns with
  | [sizeX, sizeY, tileX, tileY, countX, countY, center, anchor, minSpacingX, minSpacingY] =>
    let tile := required toFloat?
    return {
      x := ⟨← requiredDimension sizeX, ← tile tileX, ← optionalCount countX,
        ← numberOrZero minSpacingX⟩
      y := ⟨← requiredDimension sizeY, ← tile tileY, ← optionalCount countY,
        ← numberOrZero minSpacingY⟩
      center := ← centerOrDefault center
      anchor := ← defaulted .center (Anchor.ofDocument? isBlank) anchor }
  | _ => none

end Distribute

namespace Stretch

def columns : List String :=
  ["size_x", "size_y", "count_x", "count_y", "min_tile_size_x", "max_tile_size_x",
    "min_tile_size_y", "max_tile_size_y", "spacing_x", "spacing_y", "center"]

def toDocument (s : Stretch Float) : Document :=
  record columns
    [s.x.size.toDocument, s.y.size.toDocument, ofOptionalCount s.x.count,
      ofOptionalCount s.y.count, ofOptionalNumber s.x.minTile, ofOptionalNumber s.x.maxTile,
      ofOptionalNumber s.y.minTile, ofOptionalNumber s.y.maxTile, .number s.x.spacing,
      .number s.y.spacing, s.center.toDocument]

def ofDocument? (d : Document) : Option (Stretch Float) := do
  match ← d.columns? columns with
  | [sizeX, sizeY, countX, countY, minX, maxX, minY, maxY, spacingX, spacingY, center] =>
    return {
      x := ⟨← requiredDimension sizeX, ← optionalCount countX, ← optionalNumber minX,
        ← optionalNumber maxX, ← numberOrZero spacingX⟩
      y := ⟨← requiredDimension sizeY, ← optionalCount countY, ← optionalNumber minY,
        ← optionalNumber maxY, ← numberOrZero spacingY⟩
      center := ← centerOrDefault center }
  | _ => none

end Stretch

end SketchLayout
