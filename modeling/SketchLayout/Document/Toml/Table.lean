import SketchLayout.Document

/-!
# TOML tables

What the lines of a TOML document build up. A table comes into being in three ways, and each allows
other things to be added later: by a header of its own, which may come once; as the way to another
header's table, which may still get its header; or by a dotted key, which only dotted keys extend.
A name under double brackets holds a growing series of tables, and headers and keys mean its last.
-/

namespace SketchLayout.Toml

inductive Origin where
  | header
  | way
  | dotted
  deriving DecidableEq, Repr

/-- What stands under a name. -/
inductive Entry where
  | value (d : Document)
  | table (origin : Origin) (fields : List (String × Entry))
  | series (items : List (List (String × Entry)))

abbrev Fields := List (String × Entry)

mutual

def Entry.toDocument : Entry → Document
  | .value d => d
  | .table _ fields => .object (fieldsToDocument fields)
  | .series items => .list (seriesToDocument items)

def fieldsToDocument : List (String × Entry) → List (String × Document)
  | [] => []
  | (name, e) :: rest => (name, e.toDocument) :: fieldsToDocument rest

def seriesToDocument : List (List (String × Entry)) → List Document
  | [] => []
  | fields :: rest => .object (fieldsToDocument fields) :: seriesToDocument rest

end

/-- Puts an entry in the place of the one under a name, or at the end; `f` may refuse. -/
def change? (name : String) (f : Option Entry → Option Entry) : Fields → Option Fields
  | [] => (f none).map fun e => [(name, e)]
  | (n, e) :: rest =>
    if n == name then (f (some e)).map fun e => (n, e) :: rest
    else (change? name f rest).map ((n, e) :: ·)

/-- Changes the last table of a series. -/
def changeLast? (f : Fields → Option Fields) (items : List Fields) : Option (List Fields) := do
  let last ← items.getLast?
  return items.dropLast ++ [← f last]

/-- Changes the table that a header path leads to. Tables missing on the way are made. -/
def within? (f : Fields → Option Fields) : List String → Fields → Option Fields
  | [], fields => f fields
  | name :: path, fields =>
    change? name (fun
      | none => (within? f path []).map (.table .way)
      | some (.table origin sub) => (within? f path sub).map (.table origin)
      | some (.series items) => (changeLast? (within? f path) items).map .series
      | some (.value _) => none) fields

/-- Gives a table its header. -/
def openTable? (path : List String) (name : String) (fields : Fields) : Option Fields :=
  within? (change? name fun
    | none => some (.table .header [])
    | some (.table .way sub) => some (.table .header sub)
    | _ => none) path fields

/-- Adds a table to a series. -/
def openItem? (path : List String) (name : String) (fields : Fields) : Option Fields :=
  within? (change? name fun
    | none => some (.series [[]])
    | some (.series items) => some (.series (items ++ [[]]))
    | _ => none) path fields

/-- Adds a value under a dotted key. The name must be new, and the table that a path leads to must
come from dotted keys itself. -/
def assign? (name : String) (d : Document) : List String → Fields → Option Fields
  | [], fields => change? name (fun
      | none => some (.value d)
      | some _ => none) fields
  | step :: path, fields =>
    change? step (fun
      | none => (assign? name d path []).map (.table .dotted)
      | some (.table origin sub) =>
        if origin == .dotted || (origin == .way && !path.isEmpty) then
          (assign? name d path sub).map (.table origin)
        else none
      | some (.series items) =>
        if path.isEmpty then none else (changeLast? (assign? name d path) items).map .series
      | some (.value _) => none) fields

end SketchLayout.Toml
