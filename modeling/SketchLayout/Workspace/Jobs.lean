import SketchLayout.Document.Json.Reader
import SketchLayout.Document.Toml.Reader
import SketchLayout.Failure
import SketchLayout.Record.Job

/-!
# `load_job_file` and `run_job_file`

A job file is read as text, then its extension says in which language, then the text is read. The
jobs run in order, and the first that fails ends the run with nothing reported.

| definition | stands for |
| --- | --- |
| `JobFile.load` | `load_job_file` |
| `JobFile.runAt` | `run_job_file` |
-/

namespace SketchLayout

inductive Language where
  | json
  | toml
  deriving DecidableEq, Repr

namespace Language

/-- The document that a text spells. -/
def read? : Language → String → Option Document
  | json => Json.read?
  | toml => Toml.read?

def dialect : Language → Dialect
  | json => .json
  | toml => .toml

/-- The language of the files with an extension. -/
def ofExtension? : String → Option Language
  | "json" => some json
  | "toml" => some toml
  | _ => none

end Language

namespace JobFile

/-- The jobs that a text spells. -/
def ofText? (language : Language) (text : String) : Option (JobFile Float) :=
  (language.read? text).bind (ofDocument? language.dialect)

/-- The jobs of the file at a path. -/
def load (view : View) (path : String) : Except Failure (JobFile Float) :=
  match view.read path with
  | .error fault => .error (.jobsUnreadable path fault)
  | .ok text =>
    match (Path.extension? path).bind Language.ofExtension? with
    | none => .error (.jobsUnsupported path)
    | some language =>
      match ofText? language text with
      | some file => .ok file
      | none => .error (.jobsMalformed path)

def runJob (n : NamedJob Float) : Except Failure (Report Float) :=
  n.report.mapError (.job n.name n.job.kind)

/-- Runs the jobs in order. -/
def run (file : JobFile Float) : Except Failure (List (Report Float)) := file.jobs.mapM runJob

/-- Runs the jobs of the file at a path. -/
def runAt (view : View) (path : String) : Except Failure (List (Report Float)) := do
  run (← load view path)

end JobFile

end SketchLayout
