/-!
# `Axis` and `Dimensionality`

The three coordinate axes, and the two settings a layout lives in: a sketch plane, which knows
X and Y only, and space, which knows all three. Axes are always listed in coordinate order.
`Dimensionality.alphabet` stands for the text of `letters`.
-/

namespace SketchLayout

inductive Axis where
  | x
  | y
  | z
  deriving DecidableEq, Repr

namespace Axis

def all : List Axis := [x, y, z]

/-- Place of the axis in coordinate order. -/
def index : Axis → Nat
  | x => 0
  | y => 1
  | z => 2

/-- The capital letter that names the axis in a centering request. -/
def letter : Axis → Char
  | x => 'X'
  | y => 'Y'
  | z => 'Z'

def name : Axis → String
  | x => "x"
  | y => "y"
  | z => "z"

/-- The axis that a small letter names. -/
def ofName? : String → Option Axis
  | "x" => some x
  | "y" => some y
  | "z" => some z
  | _ => none

end Axis

/-- The number of axes that a centering request is read against. -/
inductive Dimensionality where
  | two
  | three
  deriving DecidableEq, Repr

namespace Dimensionality

def axes : Dimensionality → List Axis
  | two => [.x, .y]
  | three => [.x, .y, .z]

def letters (d : Dimensionality) : List Char := d.axes.map Axis.letter

/-- The letters as one word, for messages. -/
def alphabet (d : Dimensionality) : String := String.ofList d.letters

end Dimensionality

end SketchLayout
