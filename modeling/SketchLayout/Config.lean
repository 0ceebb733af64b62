import SketchLayout.Document.Json.Printer
import SketchLayout.Document.Toml.Reader
import SketchLayout.Record

/-!
# `OutputConfig` and its text

How results are printed: as JSON or as a table, and with how many places in a table. A configuration
file is a TOML text that may leave either out.

| definition | stands for |
| --- | --- |
| `Config` | `OutputConfig` |
| `OutputFormat.ofText?`, `name` | `from_str`, `fmt` of `OutputFormat` |
-/

namespace SketchLayout

inductive OutputFormat where
  | json
  | table
  deriving DecidableEq, Repr

namespace OutputFormat

def name : OutputFormat → String
  | json => "json"
  | table => "table"

def ofName? : String → Option OutputFormat
  | "json" => some json
  | "table" => some table
  | _ => none

theorem ofName?_name (f : OutputFormat) : ofName? f.name = some f := by cases f <;> rfl

/-- The format that a user's text names, in any letter case. -/
def ofText? (text : String) : Option OutputFormat := ofName? text.toLower

def toDocument (f : OutputFormat) : Document := .text f.name

/-- Reads a format. -/
def ofDocument? (dialect : Dialect) (d : Document) : Option OutputFormat :=
  (d.toWord? dialect.isBlank).bind ofName?

end OutputFormat

/-- How results are printed, and the places of numbers in a table. -/
structure Config where
  format : OutputFormat := .table
  precision : Nat := 4
  deriving DecidableEq, Repr

namespace Config

def columns : List String := ["format", "precision"]

/-- Reads a configuration. What is absent keeps its default. -/
def ofDocument? (dialect : Dialect) (d : Document) : Option Config := do
  match ← d.columns? columns with
  | [format, precision] =>
    let base : Config := {}
    return {
      format := ← Column.defaulted base.format (OutputFormat.ofDocument? dialect) format
      precision := ← Column.defaulted base.precision Document.toCount? precision }
  | _ => none

/-- The configuration that a TOML text spells. -/
def ofText? (text : String) : Option Config := (Toml.read? text).bind (ofDocument? .toml)

/-- The text of a configuration, a line for each setting. TOML integers have sixty-four bits and a
sign, so a greater precision has no text. -/
def toText? (config : Config) : Option String :=
  if config.precision < 0x8000000000000000 then
    some ("format = \"" ++ config.format.name ++ "\"\nprecision = " ++
      String.ofList (Numeral.digits config.precision) ++ "\n")
  else none

end Config

end SketchLayout
