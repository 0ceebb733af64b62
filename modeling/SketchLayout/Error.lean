import SketchLayout.Axis
import SketchLayout.Number.Numeral
import SketchLayout.Text

/-!
# `LayoutError`

Every cause says that the request itself is wrong: asking again gives the same answer. A request
that is right but leaves no room is no error; its layout is empty.

| definition | stands for |
| --- | --- |
| `positionLimit` | `MAX_POSITIONS` |
| `invalidAnchor` | `InvalidResultPos` |
| `invalidCenter spec setting` | `InvalidCenter`, whose `allowed` are the letters of the setting |
| `isInvalidArgument`, `axis?`, `message` | `is_invalid_argument`, `axis`, the text of the error |
-/

namespace SketchLayout

/-- The largest number of positions a layout holds, along one axis and in all: two to the
twenty-fourth. -/
def positionLimit : Nat := 16777216

/-- Why a layout request is refused. -/
inductive LayoutError (α : Type) where
  /-- a centering word that is empty or names a letter outside the setting -/
  | invalidCenter (spec : String) (setting : Dimensionality)
  /-- a grid without points along an axis -/
  | invalidCount (axis : Axis)
  /-- a grid axis with both a spacing and a size -/
  | spacingConflict (axis : Axis)
  /-- a grid axis of several points with neither a spacing nor a size -/
  | spacingMissing (axis : Axis)
  /-- a tile that is not strictly positive -/
  | invalidTileSize (axis : Axis) (size : α)
  /-- a stretched axis with neither a count nor a bound on its tiles -/
  | stretchUnconstrained (axis : Axis)
  /-- more positions along an axis than the limit -/
  | countTooLarge (axis : Axis)
  /-- more positions in all than the limit -/
  | tooManyPositions (countX countY : Nat)
  /-- a text that is neither a size nor a range -/
  | invalidDimension (text : String)
  /-- a text that names no place of a tile -/
  | invalidAnchor (text : String)
  deriving DecidableEq, Repr

namespace LayoutError

/-- Whether the request is to blame, which is so of every error. -/
def isInvalidArgument {α : Type} (_ : LayoutError α) : Bool := true

/-- The axis that the error is about, if it is about one. -/
def axis? {α : Type} : LayoutError α → Option Axis
  | invalidCount a | spacingConflict a | spacingMissing a | invalidTileSize a _
  | stretchUnconstrained a | countTooLarge a => some a
  | invalidCenter .. | tooManyPositions .. | invalidDimension _ | invalidAnchor _ => none

def message : LayoutError Float → String
  | invalidCenter spec d =>
    "invalid center specification " ++ Quoted.quote spec ++
      ": expected a bool or a combination of " ++ d.alphabet
  | invalidCount a => "count_" ++ a.name ++ " must be greater than 0"
  | spacingConflict a =>
    "only one of spacing_" ++ a.name ++ " or size_" ++ a.name ++ " may be specified"
  | spacingMissing a =>
    "either spacing_" ++ a.name ++ " or size_" ++ a.name ++ " must be specified"
  | invalidTileSize a size =>
    "tile_size_" ++ a.name ++ " must be greater than 0, got " ++ Numeral.ofFloat size
  | stretchUnconstrained a =>
    "either count_" ++ a.name ++ " or min_tile_size_" ++ a.name ++ "/max_tile_size_" ++ a.name ++
      " must be specified"
  | countTooLarge a =>
    "count_" ++ a.name ++ " exceeds the limit of " ++ toString positionLimit ++ " positions"
  | tooManyPositions cx cy =>
    "pattern of " ++ toString cx ++ " x " ++ toString cy ++ " positions exceeds the limit of " ++
      toString positionLimit
  | invalidDimension text =>
    "invalid dimension " ++ Quoted.quote text ++
      ": expected a size like `10` or a range like `-5,5`"
  | invalidAnchor text =>
    "invalid result position " ++ Quoted.quote text ++ ": expected `center` or `origin`"

end LayoutError

end SketchLayout
