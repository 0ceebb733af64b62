import SketchLayout.Box
import SketchLayout.Center
import SketchLayout.Number.Literal

/-!
# `DimensionSpec` and `resolve_dimension`

A dimension is a size, to be laid from zero or around it as the centering asks, or a range, which
is taken as it is and never centered. Resolving dimensions against one centering request gives an
interval per axis.

As a text, `10` is a size and `-5,5` a range. White space around a number does not count; a range
has exactly one comma. Writing a dimension gives a text that reads back as the same dimension.

| definition | stands for |
| --- | --- |
| `Dimension` | `DimensionSpec` |
| `resolve`, `resolveList` | `resolve_dimension`, `resolve_dimensions` |
| `resolveRect`, `resolveBox` | `resolve_dimensions_2d`, `resolve_dimensions_3d` |
| `ofText`, `toText` | `from_str`, `fmt` of `DimensionSpec` |
-/

namespace SketchLayout

/-- A length as the user gives it. -/
inductive Dimension (α : Type) where
  /-- a span from zero, or around zero -/
  | size (s : α)
  /-- explicit bounds, in either order -/
  | range (lo hi : α)
  deriving DecidableEq, Repr

namespace Dimension

variable {α : Type} [Scalar α]

/-- The interval of a dimension: a range between its bounds, a size around zero when centered and
from zero when not. -/
def resolve (d : Dimension α) (centered : Bool) : Interval α :=
  match d with
  | .range lo hi => .new lo hi
  | .size s => if centered then .new (Scalar.half (-s)) (Scalar.half s) else .new Scalar.zero s

/-- The intervals of up to three dimensions, on X, Y and Z in this order. Further dimensions are
left out. -/
def resolveList (ds : List (Dimension α)) (center : Center) :
    Except (LayoutError α) (List (Interval α)) := do
  let flags ← center.resolve .three
  return List.zipWith resolve ds (flags.toList .three)

/-- The rectangle of two dimensions; the request may name X and Y only. -/
def resolveRect (dx dy : Dimension α) (center : Center) : Except (LayoutError α) (Rect α) := do
  let flags ← center.resolve .two
  return ⟨dx.resolve flags.x, dy.resolve flags.y⟩

def resolveBox (dx dy dz : Dimension α) (center : Center) : Except (LayoutError α) (Box α) := do
  let flags ← center.resolve .three
  return ⟨dx.resolve flags.x, dy.resolve flags.y, dz.resolve flags.z⟩

/-! ## Texts -/

/-- The double between blank margins. -/
def readNumber? (text : List Char) : Option Float := FloatLiteral.read? (trim text)

/-- The dimension that a text spells, if it spells one: what stands before the first comma and
all that stands behind it are the bounds of a range. -/
def read? (text : List Char) : Option (Dimension Float) :=
  match text.dropWhile (· != ',') with
  | [] => (readNumber? text).map .size
  | _ :: hi => do
    let lo ← readNumber? (text.takeWhile (· != ','))
    let hi ← readNumber? hi
    return .range lo hi

/-- The dimension that a text spells, or the error naming the text. -/
def ofText (text : String) : Except (LayoutError Float) (Dimension Float) :=
  match read? text.toList with
  | some d => .ok d
  | none => .error (.invalidDimension text)

def toText : Dimension Float → String
  | .size s => Numeral.ofFloat s
  | .range lo hi => Numeral.ofFloat lo ++ "," ++ Numeral.ofFloat hi

end Dimension

end SketchLayout
