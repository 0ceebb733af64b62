import SketchLayout.Pattern.Basic
import SketchLayout.Pattern.Grid
import SketchLayout.Pattern.Stretch

/-!
# `LayoutJob` and `run_job`

A job is one layout request as data: dimensions to resolve, a rectangle to outline, or one of the
three patterns. Running a job gives intervals, points or tiles, or the error that the request is.
A job file is a list of named jobs; a report is what one of them came to.

| definition | stands for |
| --- | --- |
| `Dims`, `Outline` | `DimsJob`, `RectJob` |
| `Job`, `Kind` | `LayoutJob`, its variants |
| `Output`, `Report` | `JobOutput`, `JobReport` |
| `Job.run` | `run_job` |
-/

namespace SketchLayout

structure Dims (α : Type) where
  specs : List (Dimension α)
  center : Center := .default
  deriving DecidableEq, Repr

inductive Kind where
  | dims
  | rect
  | grid
  | distribute
  | stretch
  deriving DecidableEq, Repr

namespace Kind

/-- Every kind, in the order in which documents number them. -/
def all : List Kind := [dims, rect, grid, distribute, stretch]

def name : Kind → String
  | dims => "dims"
  | rect => "rect"
  | grid => "grid"
  | distribute => "distribute"
  | stretch => "stretch"

def ofName? (word : String) : Option Kind := all.find? (·.name == word)

end Kind

/-- One layout request. -/
inductive Job (α : Type) where
  | dims (d : Dims α)
  | rect (o : Outline α)
  | grid (g : Grid α)
  | distribute (d : Distribute α)
  | stretch (s : Stretch α)
  deriving DecidableEq, Repr

/-- What a job produces. -/
inductive Output (α : Type) where
  | intervals (items : List (Interval α))
  | points (items : List (Point α))
  | tiles (items : List (Rect α))
  deriving DecidableEq, Repr

def Output.size {α : Type} : Output α → Nat
  | .intervals items => items.length
  | .points items => items.length
  | .tiles items => items.length

/-- The word for what an output lists. -/
def Output.name {α : Type} : Output α → String
  | .intervals _ => "intervals"
  | .points _ => "points"
  | .tiles _ => "tiles"

namespace Job

variable {α : Type}

def kind : Job α → Kind
  | dims _ => .dims
  | rect _ => .rect
  | grid _ => .grid
  | distribute _ => .distribute
  | stretch _ => .stretch

/-- Carries out a request. -/
def run [Scalar α] : Job α → Except (LayoutError α) (Output α)
  | dims d => (Dimension.resolveList d.specs d.center).map .intervals
  | rect o => o.points.map .points
  | grid g => g.points.map .points
  | distribute d => d.points.map .points
  | stretch s => s.tiles.map .tiles

end Job

structure NamedJob (α : Type) where
  name : String
  job : Job α
  deriving DecidableEq, Repr

/-- The jobs of a file, in the order in which they are run. -/
structure JobFile (α : Type) where
  jobs : List (NamedJob α) := []
  deriving DecidableEq, Repr

/-- What a job came to. -/
structure Report (α : Type) where
  name : String
  kind : String
  output : Output α
  deriving DecidableEq, Repr

/-- Runs a named job and reports on it. -/
def NamedJob.report {α : Type} [Scalar α] (n : NamedJob α) : Except (LayoutError α) (Report α) :=
  n.job.run.map fun output => ⟨n.name, n.job.kind.name, output⟩

end SketchLayout
