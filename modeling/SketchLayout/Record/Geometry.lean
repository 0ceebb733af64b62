import SketchLayout.Dimension
import SketchLayout.Pattern.Distribute
import SketchLayout.Record

/-!
# Records of the geometry

`Axis`, `CenterSpec`, `ResultPos`, `DimensionSpec`, the three interval types and points as
documents. An interval is the list of its two bounds, which may be read in either order; a point is
the list of its coordinates. A dimension is a number or a list of two; a centering request is a
truth value or a word.
-/

namespace SketchLayout

def Axis.toDocument (a : Axis) : Document := .text a.name

def Axis.ofDocument? (dialect : Dialect) (d : Document) : Option Axis :=
  (d.toWord? dialect.isBlank).bind ofName?

namespace Center

def toDocument : Center → Document
  | flag on => .bool on
  | axes letters => .text letters

/-- A word is not looked into. -/
def ofDocument? : Document → Option Center
  | .bool on => some (flag on)
  | .text letters => some (axes letters)
  | _ => none

theorem ofDocument?_toDocument (c : Center) : ofDocument? c.toDocument = some c := by
  cases c <;> rfl

end Center

namespace Anchor

def toDocument (a : Anchor) : Document := .text a.name

def ofDocument? (isBlank : Document → Bool) (d : Document) : Option Anchor :=
  (d.toWord? isBlank).bind ofName?

theorem ofDocument?_toDocument (isBlank : Document → Bool) (a : Anchor) :
    ofDocument? isBlank a.toDocument = some a := ofName?_name a

end Anchor

namespace Dimension

def toDocument : Dimension Float → Document
  | size s => .number s
  | range lo hi => .list [.number lo, .number hi]

def ofDocument? : Document → Option (Dimension Float)
  | .list [lo, hi] => do return range (← lo.toFloat?) (← hi.toFloat?)
  | d => d.toFloat?.map size

theorem ofDocument?_toDocument (d : Dimension Float) : ofDocument? d.toDocument = some d := by
  cases d <;> rfl

end Dimension

namespace Interval

def toDocument (i : Interval Float) : Document := .list [.number i.min, .number i.max]

/-- Reads an interval from two bounds in either order, each of them by `length?`. -/
def read? {α : Type} [Scalar α] (length? : Document → Option α) (dialect : Dialect) :
    Document → Option (Interval α)
  | .list (a :: b :: rest) =>
    if rest.isEmpty || dialect.surplus then do return new (← length? a) (← length? b) else none
  | _ => none

def ofDocument? : Dialect → Document → Option (Interval Float) := read? Document.toFloat?

end Interval

def Point.toDocument (p : Point Float) : Document := .list [.number p.x, .number p.y]

namespace Rect

def columns : List String := ["x", "y"]

def toDocument (r : Rect Float) : Document :=
  .record columns [r.x.toDocument, r.y.toDocument]

/-- Reads a rectangle, its bounds by `length?`. -/
def read? {α : Type} [Scalar α] (length? : Document → Option α) (dialect : Dialect)
    (d : Document) : Option (Rect α) := do
  let side := Column.required (Interval.read? length? dialect)
  match ← d.columns? columns with
  | [x, y] => return ⟨← side x, ← side y⟩
  | _ => none

def ofDocument? : Dialect → Document → Option (Rect Float) := read? Document.toFloat?

end Rect

namespace Box

def columns : List String := ["x", "y", "z"]

def toDocument (b : Box Float) : Document :=
  .record columns [b.x.toDocument, b.y.toDocument, b.z.toDocument]

/-- Reads a box, its bounds by `length?`. -/
def read? {α : Type} [Scalar α] (length? : Document → Option α) (dialect : Dialect)
    (d : Document) : Option (Box α) := do
  let side := Column.required (Interval.read? length? dialect)
  match ← d.columns? columns with
  | [x, y, z] => return ⟨← side x, ← side y, ← side z⟩
  | _ => none

def ofDocument? : Dialect → Document → Option (Box Float) := read? Document.toFloat?

end Box

end SketchLayout
