import SketchLayout.Command.Words
import SketchLayout.Config
import SketchLayout.Dimension
import SketchLayout.Job
import SketchLayout.Pattern.Setting

/-!
# `Cli` and `Commands`

What a command line asks for: a layout given by options, or the jobs of a file, and how to print the
results. Options about printing may stand before the command or behind it; behind it they count for
more. A centering request given as an option is always a word, whatever it spells.

| definition | stands for |
| --- | --- |
| `Verb` | `Commands` |
| `Invocation` | `Cli` once its words are read |
| `Command.request?` | the part of `run` that makes a `LayoutJob` of the options |
-/

namespace SketchLayout

inductive Request where
  | layout (job : Job Float)
  | file (path : String)
  deriving Repr

/-- A command line that makes sense. -/
structure Invocation where
  format : Option OutputFormat := none
  precision : Option Nat := none
  config : Option String := none
  request : Request
  deriving Repr

namespace Command

/-! ## Values -/

def count? (text : String) : Option Nat := (CountLiteral.read text.toList).toOption

def number? (text : String) : Option Float := FloatLiteral.read? text.toList

def dimension? (text : String) : Option (Dimension Float) := Dimension.read? text.toList

def anchor? (text : String) : Option Anchor := Anchor.ofName? text.toLower

/-- Reads a path, which must not be empty. -/
def path? (text : String) : Option String := if text.isEmpty then none else some text

namespace Given

variable {β : Type}

/-- The value of an option that may be left out. -/
def optional (g : Given) (read : String → Option β) (name : String) : Option (Option β) :=
  match g.value? name with
  | none => some none
  | some text => (read text).map some

/-- The value of an option that must be given. -/
def required (g : Given) (read : String → Option β) (name : String) : Option β :=
  (g.value? name).bind read

/-- The value of an option that has a default. -/
def defaulted (g : Given) (value : β) (read : String → Option β) (name : String) : Option β := do
  return (← g.optional read name).getD value

/-- The centering request, which is the word `true` unless given. -/
def center (g : Given) : Center := .axes ((g.value? "center").getD "true")

end Given

/-! ## Options -/

/-- The options that every command knows. Help is known as well, but nothing comes of it here. -/
def common : List Switch :=
  [{ name := "format", letter := some 'f' }, { name := "precision" },
    { name := "config", letter := some 'c' },
    { name := "verbose", letter := some 'v', valued := false },
    { name := "help", letter := some 'h', valued := false }]

/-- Options whose values do not begin with hyphens. -/
def plainSwitches (names : List String) : List Switch := names.map fun name => { name }

/-- The two sizes, which may be negative. -/
def sizeSwitches : List Switch :=
  ["size-x", "size-y"].map fun name => { name, hyphens := true }

def centerSwitch : Switch := { name := "center" }

inductive Verb where
  | layout (kind : Kind)
  | run
  deriving DecidableEq, Repr

namespace Verb

def all : List Verb := Kind.all.map layout ++ [run]

def name : Verb → String
  | layout kind => kind.name
  | run => "run"

def ofName? (word : String) : Option Verb := all.find? (·.name == word)

/-- The options that only this command knows. -/
def switches : Verb → List Switch
  | layout .dims => [centerSwitch]
  | layout .rect => centerSwitch :: sizeSwitches
  | layout .grid =>
    centerSwitch :: sizeSwitches ++ plainSwitches ["count-x", "count-y", "spacing-x", "spacing-y"]
  | layout .distribute =>
    centerSwitch :: sizeSwitches ++
      plainSwitches ["tile-x", "tile-y", "count-x", "count-y", "min-spacing-x", "min-spacing-y",
        "result-pos"]
  | layout .stretch =>
    centerSwitch :: sizeSwitches ++
      plainSwitches ["count-x", "count-y", "min-x", "max-x", "min-y", "max-y", "spacing-x",
        "spacing-y"]
  | run => []

/-- What may stand behind a command: up to three dimensions, one file, or options only. -/
def form (verb : Verb) : Form where
  switches := common ++ verb.switches
  operands := match verb with
    | layout .dims => 3
    | layout _ => 0
    | run => 1
  hyphens := verb == layout .dims

end Verb

/-- What may stand in front of a command. -/
def preamble : Form where
  switches := common
  ends := Verb.all.map Verb.name

/-! ## Requests -/

/-- The dimensions that operands spell; there must be one. -/
def dims? (g : Given) : Option (Dims Float) := do
  if g.operands.isEmpty then none
  return ⟨← g.operands.mapM dimension?, g.center⟩

/-- The outline that options spell. -/
def outline? (g : Given) : Option (Outline Float) := do
  return ⟨← g.required dimension? "size-x", ← g.required dimension? "size-y", g.center⟩

/-- The grid that options spell. -/
def grid? (g : Given) : Option (Grid Float) := do
  return {
    x := ⟨← g.required count? "count-x", ← g.optional number? "spacing-x",
      ← g.optional dimension? "size-x"⟩
    y := ⟨← g.required count? "count-y", ← g.optional number? "spacing-y",
      ← g.optional dimension? "size-y"⟩
    center := g.center }

/-- The distributed tiles that options spell. -/
def distribute? (g : Given) : Option (Distribute Float) := do
  return {
    x := ⟨← g.required dimension? "size-x", ← g.required number? "tile-x",
      ← g.optional count? "count-x", ← g.defaulted Scalar.zero number? "min-spacing-x"⟩
    y := ⟨← g.required dimension? "size-y", ← g.required number? "tile-y",
      ← g.optional count? "count-y", ← g.defaulted Scalar.zero number? "min-spacing-y"⟩
    center := g.center
    anchor := ← g.defaulted .center anchor? "result-pos" }

/-- The stretched tiles that options spell. -/
def stretch? (g : Given) : Option (Stretch Float) := do
  return {
    x := ⟨← g.required dimension? "size-x", ← g.optional count? "count-x",
      ← g.optional number? "min-x", ← g.optional number? "max-x",
      ← g.defaulted Scalar.zero number? "spacing-x"⟩
    y := ⟨← g.required dimension? "size-y", ← g.optional count? "count-y",
      ← g.optional number? "min-y", ← g.optional number? "max-y",
      ← g.defaulted Scalar.zero number? "spacing-y"⟩
    center := g.center }

/-- The request of a command. -/
def request? (verb : Verb) (g : Given) : Option Request :=
  match verb with
  | .layout .dims => (dims? g).map fun d => .layout (.dims d)
  | .layout .rect => (outline? g).map fun o => .layout (.rect o)
  | .layout .grid => (grid? g).map fun grid => .layout (.grid grid)
  | .layout .distribute => (distribute? g).map fun d => .layout (.distribute d)
  | .layout .stretch => (stretch? g).map fun s => .layout (.stretch s)
  | .run => do
    let [path] := g.operands | none
    return .file (← path? path)

end Command

namespace Invocation

open Command

/-- Reads a common option in front of the command and behind it. Both must be good, and the one
behind the command counts. -/
def common? {β : Type} (outer inner : Given) (read : String → Option β) (name : String) :
    Option (Option β) := do
  let before ← outer.optional read name
  let behind ← inner.optional read name
  return behind.or before

/-- The invocation that a command line spells. -/
def ofWords? (words : List String) : Option Invocation := do
  let (outer, rest) ← preamble.read words
  let word :: rest := rest | none
  let verb ← Verb.ofName? word
  let (inner, _) ← verb.form.read rest
  if outer.has "help" || inner.has "help" then none
  return {
    format := ← common? outer inner OutputFormat.ofText? "format"
    precision := ← common? outer inner count? "precision"
    config := ← common? outer inner path? "config"
    request := ← request? verb inner }

end Invocation

end SketchLayout
