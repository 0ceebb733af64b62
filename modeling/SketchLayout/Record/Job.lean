import SketchLayout.Job
import SketchLayout.Record.Pattern

/-!
# Records of jobs

A job is the record of its request with one more column, `kind`, in front; a named job has `name`
before that, since `NamedJob` takes in the fields of its `LayoutJob`. Which record follows is known
only once the kind is, and so the other values of a job are kept until then: all of them have to be
readable, also those that no column takes. A report holds the output under the word for what it
lists.
-/

namespace SketchLayout

open Column Document

namespace Dims

def columns : List String := ["specs", "center"]

/-- Dimensions to resolve, as a document. -/
def toDocument (d : Dims Float) : Document :=
  record columns [.list (d.specs.map Dimension.toDocument), d.center.toDocument]

def specs? : Document → Option (List (Dimension Float))
  | .list items => items.mapM Dimension.ofDocument?
  | _ => none

/-- Reads dimensions to resolve. -/
def ofDocument? (d : Document) : Option (Dims Float) := do
  match ← d.columns? columns with
  | [specs, center] => return ⟨← required specs? specs, ← centerOrDefault center⟩
  | _ => none

end Dims

namespace Job

/-- The record of a request, without its kind. -/
def request : Job Float → Document
  | dims d => d.toDocument
  | rect o => o.toDocument
  | grid g => g.toDocument
  | distribute d => d.toDocument
  | stretch s => s.toDocument

def fieldsOf : Document → List (String × Document)
  | .object fields => fields
  | _ => []

/-- The fields of a job. -/
def toFields (j : Job Float) : List (String × Document) :=
  ("kind", .text j.kind.name) :: fieldsOf j.request

/-- A job as a document. -/
def toDocument (j : Job Float) : Document := .object j.toFields

/-- Reads the request of a kind from its record, where `isBlank` tells what may stand beside a word. -/
def ofRequest? (isBlank : Document → Bool) (kind : Kind) (d : Document) : Option (Job Float) :=
  match kind with
  | .dims => (Dims.ofDocument? d).map dims
  | .rect => (Outline.ofDocument? d).map rect
  | .grid => (Grid.ofDocument? d).map grid
  | .distribute => (Distribute.ofDocument? isBlank d).map distribute
  | .stretch => (Stretch.ofDocument? d).map stretch

/-- Reads a kind by its word. -/
def kind? (d : Document) : Option Kind := d.toText?.bind Kind.ofName?

/-- Reads a kind by its word or its number. -/
def numberedKind? : Document → Option Kind
  | .int n => if 0 ≤ n then Kind.all[n.toNat]? else none
  | d => kind? d

/-- Reads a job from the fields of an object inside `outer` open brackets. There must be exactly one
kind. -/
def ofFields? (dialect : Dialect) (outer : Nat) (readKind : Document → Option Kind)
    (fields : List (String × Document)) : Option (Job Float) :=
  match values "kind" fields with
  | [k] => do
    let kind ← readKind k
    let rest := fields.filter (·.1 != "kind")
    if rest.all fun field => dialect.keeps outer field.2 then
      ofRequest? Dialect.isBlankKept kind (.object rest)
    else none
  | _ => none

/-- Reads a job: an object, or a list that begins with the kind and goes on with the columns of the
record in order. -/
def ofDocument? (dialect : Dialect) : Document → Option (Job Float)
  | .object fields => ofFields? dialect 1 kind? fields
  | .list (k :: rest) => do
    let kind ← kind? k
    if rest.all (dialect.keeps 1) then ofRequest? Dialect.isBlankKept kind (.list rest) else none
  | _ => none

end Job

namespace NamedJob

/-- A named job as a document. -/
def toDocument (n : NamedJob Float) : Document :=
  .object (("name", .text n.name) :: n.job.toFields)

/-- Reads a named job inside `outer` open brackets, its own included. There must be exactly one
name. -/
def ofDocument? (dialect : Dialect) (outer : Nat) : Document → Option (NamedJob Float)
  | .object fields =>
    match values "name" fields with
    | [.text name] => do
      let readKind := if dialect.numbered then Job.numberedKind? else Job.kind?
      let job ← Job.ofFields? dialect outer readKind (fields.filter (·.1 != "name"))
      return ⟨name, job⟩
    | _ => none
  | _ => none

end NamedJob

namespace JobFile

def columns : List String := ["jobs"]

/-- A job file as a document. -/
def toDocument (f : JobFile Float) : Document :=
  record columns [.list (f.jobs.map NamedJob.toDocument)]

/-- Reads the list of the jobs of a file; a job stands inside the brackets of the file, of the list
and of its own. -/
def jobs? (dialect : Dialect) : Document → Option (List (NamedJob Float))
  | .list items => items.mapM (NamedJob.ofDocument? dialect 3)
  | _ => none

/-- Reads a job file. -/
def ofDocument? (dialect : Dialect) (d : Document) : Option (JobFile Float) := do
  match ← d.columns? columns with
  | [jobs] => return ⟨← defaulted [] (jobs? dialect) jobs⟩
  | _ => none

end JobFile

def Output.items : Output Float → List Document
  | intervals items => items.map Interval.toDocument
  | points items => items.map Point.toDocument
  | tiles items => items.map Rect.toDocument

def Report.toDocument (r : Report Float) : Document :=
  .object [("name", .text r.name), ("kind", .text r.kind),
    ("output", .object [(r.output.name, .list r.output.items)])]

end SketchLayout
