import SketchLayout.Config
import SketchLayout.Record.Job
import SketchLayout.Report.Style

/-!
# `render_table` and `render_jobs`

A report as a block of lines: an empty line, the name and kind of the job between two rules, the
items, and their number. Intervals stand beside the letters of the axes, with their sizes; points
and tiles are numbered from zero in columns. Numbers have a fixed number of places. Reports are
printed as an indented JSON list, or as one such table after another.

| definition | stands for |
| --- | --- |
| `Table.block`, its lines rendered | `render_table` |
| `Report.print` | `render_jobs` |
-/

namespace SketchLayout

namespace Table

/-- A number with a fixed number of places. -/
def number (precision : Nat) (x : Float) : List Char := Numeral.writeFixed precision (.ofFloat x)

def rule : Line := [{ text := List.replicate 60 '━', style := .gray }]

/-- The name and kind of a job. -/
def title (r : Report Float) : Line :=
  [{ text := "Job:".toList, style := .bold }, .ofText " ",
    { text := r.name.toList, style := .cyan }, .ofText " ",
    { text := ("(" ++ r.kind ++ ")").toList, style := .gray }]

/-- The line of an interval. -/
def intervalRow (precision : Nat) (axis : Axis) (i : Interval Float) : Line :=
  let cell (x : Float) : Span := { text := number precision x }
  [.ofText "  ", { text := (axis.name ++ ":").toList, style := .gray }, .ofText " [", cell i.min,
    .ofText ", ", cell i.max, .ofText "]  ", { text := "size".toList, style := .gray },
    .ofText " ", cell i.size]

/-- A line of cells, each in its width with a blank in front. -/
def cells (spans : List Span) : Line := .ofText " " :: spans.flatMap fun span => [.ofText " ", span]

def indexWidth : Nat := 5

/-- The headings of the columns. -/
def headings (width : Nat) (names : List String) : Line :=
  cells ({ text := ['#'], style := .gray, width := indexWidth } ::
    names.map fun name => { text := name.toList, style := .bold, width })

/-- The line of an item with its number. -/
def numberedRow (precision width : Nat) (index : Nat) (xs : List Float) : Line :=
  cells ({ text := Numeral.digits index, width := indexWidth } ::
    xs.map fun x => { text := number precision x, width })

/-- The lines of numbered items under their headings. -/
def numbered (precision width : Nat) (names : List String) (items : List (List Float)) :
    List Line :=
  headings width names ::
    items.zipIdx.map fun (xs, index) => numberedRow precision width index xs

/-- The lines of an output. Intervals beyond the three axes are left out. -/
def body (precision : Nat) : Output Float → List Line
  | .intervals items => List.zipWith (intervalRow precision) Axis.all items
  | .points items => numbered precision 14 ["x", "y"] (items.map fun p => [p.x, p.y])
  | .tiles items =>
    numbered precision 12 ["min_x", "max_x", "min_y", "max_y"]
      (items.map fun r => [r.x.min, r.x.max, r.y.min, r.y.max])

/-- The number of items; that there are none is worth a warning. -/
def summary (o : Output Float) : Line :=
  [.ofText "  ", { text := "Items:".toList, style := .gray }, .ofText " ",
    { text := Numeral.digits o.size, style := if o.size = 0 then .yellow else .green }]

/-- The lines of a report. -/
def block (precision : Nat) (r : Report Float) : List Line :=
  [[], rule, title r, rule] ++ body precision r.output ++ [summary r.output]

end Table

/-! ## Printed reports -/

namespace Report

/-- The tables of reports. -/
def table (precision : Nat) (colour : Bool) (reports : List (Report Float)) : List Char :=
  reports.flatMap fun r => (Table.block precision r).flatMap (Line.render colour)

/-- The JSON page of reports. -/
def page (reports : List (Report Float)) : String :=
  Json.toPage (.list (reports.map toDocument)) ++ "\n"

/-- The printed form of reports. Colour is for tables only. -/
def print (config : Config) (colour : Bool) (reports : List (Report Float)) : String :=
  match config.format with
  | .json => page reports
  | .table => String.ofList (table config.precision colour reports)

end Report

end SketchLayout
