import SketchLayout.Command.Invocation
import SketchLayout.Report.Table
import SketchLayout.Workspace.Jobs
import SketchLayout.Workspace.Settings

/-!
# `run` and `main`

A command runs under the configuration in effect, in which its own options have the last word. It
prints its reports, or fails with a message, or is refused because its words make no sense.

| definition | stands for |
| --- | --- |
| `Invocation.run` | `run` |
| `Invocation.runLayout` | `single` |
| `Failure.complaint` | `report_error` |
| `Outcome.ofWords`, `status` | `main`, its exit code |
-/

namespace SketchLayout

namespace Invocation

/-- The configuration that an invocation runs under. -/
def settings (inv : Invocation) (view : View) (env : Environment) : Except Failure Config := do
  let config ← Config.load view env inv.config
  return config.override inv.format inv.precision

/-- Runs a layout given in words; the report is named for the kind of the layout. -/
def runLayout (job : Job Float) : Except Failure (List (Report Float)) := do
  let output ← job.run.mapError (.request job.kind)
  return [⟨job.kind.name, job.kind.name, output⟩]

/-- The paths that an invocation reads. -/
def paths (inv : Invocation) : List String :=
  inv.config.getD Config.standingFile ::
    match inv.request with
    | .layout _ => []
    | .file path => [path]

/-- The reports that a request comes to. -/
def perform (view : View) : Request → Except Failure (List (Report Float))
  | .layout job => runLayout job
  | .file path => JobFile.runAt view path

def run (inv : Invocation) (view : View) (env : Environment) (colour : Bool) :
    Except Failure String := do
  let config ← inv.settings view env
  let reports ← perform view inv.request
  return Report.print config colour reports

end Invocation

/-- What is shown of a failure: its message behind a label. -/
def Failure.complaint (failure : Failure) (colour : Bool) : String :=
  let label : Span := { text := "❌ Error:".toList, style := .alarm }
  String.ofList ('\n' :: label.render colour ++ ' ' :: failure.message.toList)

inductive Outcome where
  | printed (text : String)
  | failed (failure : Failure)
  | refused
  deriving Repr

namespace Outcome

def status : Outcome → Nat
  | printed _ => 0
  | failed _ => 1
  | refused => 2

/-- What goes to the standard output. Complaints go elsewhere. -/
def stdout : Outcome → String
  | printed text => text
  | failed _ | refused => ""

def ofWords (words : List String) (view : View) (env : Environment) (colour : Bool) : Outcome :=
  match Invocation.ofWords? words with
  | none => refused
  | some inv =>
    match inv.run view env colour with
    | .ok text => printed text
    | .error failure => failed failure

end Outcome

end SketchLayout
