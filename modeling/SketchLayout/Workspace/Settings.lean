import SketchLayout.Config
import SketchLayout.Failure

/-!
# `OutputConfig.load` and `OutputConfig.save`

A configuration comes in layers: the defaults, a file, the environment. Each layer settles the
fields it names and leaves the others alone. An explicit file must be there; the standing one,
`layout.toml`, is used when it is there.

| definition | stands for |
| --- | --- |
| `Config.ofFile` | `from_file` |
| `Config.base`, then `Environment.format?` and `precision?` | `load`, the file and then the variables |
| `Config.saving` | `save`, with the files as its state |
-/

namespace SketchLayout

/-- What the environment says about the output. A value that is no text counts as none. -/
structure Environment where
  format : Option String := none
  precision : Option String := none
  deriving DecidableEq, Repr

namespace Environment

def formatVariable : String := "POLYFRAME_LAYOUT_FORMAT"

def precisionVariable : String := "POLYFRAME_LAYOUT_PRECISION"

/-- Gives a variable a value, or takes it away. Other variables say nothing about the output. -/
def set (env : Environment) (name : String) (value : Option String) : Environment :=
  if name == formatVariable then { env with format := value }
  else if name == precisionVariable then { env with precision := value }
  else env

/-- The format that the environment asks for. -/
def format? (env : Environment) : Except Failure (Option OutputFormat) :=
  match env.format with
  | none => .ok none
  | some text =>
    match OutputFormat.ofText? text with
    | some format => .ok (some format)
    | none => .error (.formatSetting text)

/-- The precision that the environment asks for. -/
def precision? (env : Environment) : Except Failure (Option Nat) :=
  match env.precision with
  | none => .ok none
  | some text =>
    match CountLiteral.read text.toList with
    | .ok precision => .ok (some precision)
    | .error fault => .error (.precisionSetting text fault)

end Environment

namespace Config

/-- The file that is used when no other is named. -/
def standingFile : String := "layout.toml"

/-- The configuration with the fields that a layer names settled by it. -/
def override (config : Config) (format : Option OutputFormat) (precision : Option Nat) : Config :=
  ⟨format.getD config.format, precision.getD config.precision⟩

/-- The configuration of a file. -/
def ofFile (view : View) (path : String) : Except Failure Config :=
  match view.read path with
  | .error fault => .error (.configUnreadable path fault)
  | .ok text =>
    match ofText? text with
    | some config => .ok config
    | none => .error (.configMalformed path)

/-- The configuration of the explicit file, of the standing one, or the default. -/
def base (view : View) (path : Option String) : Except Failure Config :=
  match path with
  | some path => ofFile view path
  | none => if view.holds standingFile then ofFile view standingFile else .ok {}

/-- The configuration in effect. The file is looked at first, then the format of the environment,
then its precision. -/
def load (view : View) (env : Environment) (path : Option String) : Except Failure Config := do
  let config ← base view path
  let format ← env.format?
  let precision ← env.precision?
  return config.override format precision

/-- Writes a configuration to a file. Its text is made before the file is touched. -/
def saving (config : Config) (path : String) : ExceptT Failure (StateM Files) Unit := do
  let some text := config.toText? | throw .configUnspeakable
  match (← get).write path text with
  | .ok files => set files
  | .error fault => throw (.configUnwritable path fault)

/-- The files after a configuration was written to one of them, unless that fails. -/
def save (config : Config) (files : Files) (path : String) : Except Failure Files :=
  match (config.saving path).run files with
  | (.ok (), files) => .ok files
  | (.error failure, _) => .error failure

end Config

end SketchLayout
