import SketchLayout.Document
import SketchLayout.Number.Binary

/-!
# Records

How the values of a layout stand in documents, as the derived readers and writers have it. A record
has named columns; each is required, optional (absent or null means there is no value) or has a
default, which stands in for an absent column only. A choice among words stands as the word itself,
or as the only field of an object.

Syntaxes differ in small ways, and `Dialect` lists them all.
-/

namespace SketchLayout

/-- The ways in which syntaxes differ once a document is read. -/
structure Dialect where
  /-- what may stand beside a word that is the only field of an object -/
  isBlank : Document → Bool
  /-- whether more items than a pair needs are passed over -/
  surplus : Bool
  /-- whether a named job may give the number of its kind -/
  numbered : Bool
  /-- how many brackets may be open in a value that is kept before it is understood; `none` for any
  number -/
  depth : Option Nat

namespace Dialect

def json : Dialect where
  isBlank d := match d with
    | .null => true
    | _ => false
  surplus := false
  numbered := true
  depth := some 127

def toml : Dialect where
  isBlank d := match d with
    | .list [] | .object [] => true
    | _ => false
  surplus := true
  numbered := false
  depth := none

/-- What may stand beside a word in a value that was kept before it was understood. -/
def isBlankKept : Document → Bool
  | .null | .object [] => true
  | _ => false

/-- Whether a value can be kept inside `outer` open brackets. -/
def keeps (dialect : Dialect) (outer : Nat) (d : Document) : Bool :=
  match dialect.depth with
  | none => true
  | some depth => d.readable (depth - outer)

end Dialect

namespace Document

/-- The double that a number stands for. -/
def toFloat? : Document → Option Float
  | int n => some (Float.ofInt n)
  | number x => some x
  | _ => none

/-- The count that an integer stands for. -/
def toCount? : Document → Option Nat
  | int n => if 0 ≤ n && n < 0x10000000000000000 then some n.toNat else none
  | _ => none

def toText? : Document → Option String
  | text s => some s
  | _ => none

/-- The word of a choice, alone or as the only field of an object. -/
def toWord? (isBlank : Document → Bool) : Document → Option String
  | text s => some s
  | object [(s, d)] => if isBlank d then some s else none
  | _ => none

def ofCount (n : Nat) : Document := int n

/-- An optional value as a document. -/
def ofOption {β : Type} (write : β → Document) : Option β → Document
  | none => null
  | some b => write b

/-- The object with the given columns and values. -/
def record (names : List String) (values : List Document) : Document := object (names.zip values)

end Document

namespace Column

variable {β : Type}

/-- A column that must be there. -/
def required (read : Document → Option β) : Option Document → Option β
  | none => none
  | some d => read d

/-- A column that may be absent or null. -/
def optional (read : Document → Option β) : Option Document → Option (Option β)
  | none | some .null => some none
  | some d => (read d).map some

/-- A column that has a default. -/
def defaulted (value : β) (read : Document → Option β) : Option Document → Option β
  | none => some value
  | some d => read d

end Column

end SketchLayout
