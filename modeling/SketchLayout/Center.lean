import SketchLayout.Error

/-!
# `CenterSpec` and `resolve_center`

A centering request is a flag for every axis at once, or a word of axis letters naming the axes to
center. A word is judged only when it is read against a setting: `"Z"` is fine in space and wrong
in a plane. Reading it gives one flag per axis.

| definition | stands for |
| --- | --- |
| `Center` | `CenterSpec` |
| `Center.ofText` | `from_str` of `CenterSpec`; the conversions from texts take every text as a word |
| `Center.resolve` | `resolve_center` |
-/

namespace SketchLayout

/-- What the user asks to have centered. -/
inductive Center where
  /-- every axis, or none -/
  | flag (on : Bool)
  /-- the axes whose letters stand in the word -/
  | axes (letters : String)
  deriving DecidableEq, Repr

structure CenterFlags where
  x : Bool
  y : Bool
  z : Bool
  deriving DecidableEq, Repr

namespace CenterFlags

def none : CenterFlags := ⟨false, false, false⟩

def get (flags : CenterFlags) : Axis → Bool
  | .x => flags.x
  | .y => flags.y
  | .z => flags.z

/-- One more axis is centered. -/
def set (flags : CenterFlags) : Axis → CenterFlags
  | .x => { flags with x := true }
  | .y => { flags with y := true }
  | .z => { flags with z := true }

def ofAxes (axes : List Axis) : CenterFlags := axes.foldl set none

/-- Every axis of the setting is centered. -/
def all (d : Dimensionality) : CenterFlags := ofAxes d.axes

/-- The flags of the setting's axes, in coordinate order. -/
def toList (flags : CenterFlags) (d : Dimensionality) : List Bool := d.axes.map flags.get

theorem get_set (flags : CenterFlags) (a b : Axis) :
    (flags.set a).get b = (flags.get b || decide (a = b)) := by
  cases a <;> cases b <;> simp [set, get]

end CenterFlags

namespace Center

/-- Everything is centered unless the user says otherwise. -/
def default : Center := .flag true

/-- `true` and `false`, in any letter case, are flags; any other text is a word of letters. -/
def ofText (text : String) : Center :=
  match text.toLower with
  | "true" => .flag true
  | "false" => .flag false
  | _ => .axes text

/-- The capital letters of a word. Only the letters a to z have another case here. -/
def capitals (letters : String) : List Char := letters.toList.map Char.toUpper

/-- The flags that a request stands for in a setting. A word must not be empty and must hold the
setting's letters only, in either case; order and repetition do not matter. -/
def resolve {α : Type} (center : Center) (d : Dimensionality) :
    Except (LayoutError α) CenterFlags :=
  match center with
  | .flag true => .ok (CenterFlags.all d)
  | .flag false => .ok CenterFlags.none
  | .axes letters =>
    let word := capitals letters
    if word.isEmpty || !word.all d.letters.contains then .error (.invalidCenter letters d)
    else .ok (CenterFlags.ofAxes (d.axes.filter fun a => word.contains a.letter))

end Center

end SketchLayout
