import Mathlib.Data.List.Forall2
import SketchLayout.Proofs.Columns
import SketchLayout.Proofs.JsonDocuments
import SketchLayout.Report.Table

/-!
# JSON pages are faithful

What a program reads from a page of reports is what was reported. `Report.ofDocument?` reads an element of
the page: an object with a name, a kind and an output, where the only key of the output says what its list
holds. It undoes `Report.toDocument` (`Report.ofDocument?_toDocument`), and a page is read as the list of
these documents (`Report.read?_page`), so no two lists of reports share a page.
-/

namespace SketchLayout

open Document

/-! ## Reading reports -/

/-- The numbers of a list of just two. -/
def Document.pair? : Document → Option (Float × Float)
  | list [number a, number b] => some (a, b)
  | _ => none

/-- An interval as it stands on a page: its two bounds, which are not put in order. -/
def Interval.ofPair? (d : Document) : Option (Interval Float) := d.pair?.map fun (min, max) => ⟨min, max⟩

/-- A point as it stands on a page: its two coordinates. -/
def Point.ofPair? (d : Document) : Option (Point Float) := d.pair?.map fun (x, y) => ⟨x, y⟩

/-- A tile as it stands on a page: an object with its two intervals. -/
def Rect.ofSides? : Document → Option (Rect Float)
  | .object [("x", x), ("y", y)] => do return ⟨← Interval.ofPair? x, ← Interval.ofPair? y⟩
  | _ => none

/-- An output as it stands on a page: an object whose only key says what the list under it holds. -/
def Output.ofDocument? : Document → Option (Output Float)
  | .object [("intervals", .list items)] => (items.mapM Interval.ofPair?).map .intervals
  | .object [("points", .list items)] => (items.mapM Point.ofPair?).map .points
  | .object [("tiles", .list items)] => (items.mapM Rect.ofSides?).map .tiles
  | _ => none

/-- A report as it stands on a page. -/
def Report.ofDocument? : Document → Option (Report Float)
  | .object [("name", .text name), ("kind", .text kind), ("output", output)] =>
    (Output.ofDocument? output).map fun output => ⟨name, kind, output⟩
  | _ => none

theorem Interval.ofPair?_toDocument (i : Interval Float) : ofPair? i.toDocument = some i := rfl

theorem Point.ofPair?_toDocument (p : Point Float) : ofPair? p.toDocument = some p := rfl

theorem Rect.ofSides?_toDocument (r : Rect Float) : ofSides? r.toDocument = some r := rfl

/-- The only field of an output is read back. -/
theorem Output.ofDocument?_items (o : Output Float) : ofDocument? (.object [(o.name, .list o.items)]) = some o := by
  cases o with
  | intervals items =>
    have hitems := mapM_map_eq_some fun i (_ : i ∈ items) => i.ofPair?_toDocument
    exact congrArg (Option.map intervals) hitems
  | points items =>
    have hitems := mapM_map_eq_some fun p (_ : p ∈ items) => p.ofPair?_toDocument
    exact congrArg (Option.map points) hitems
  | tiles items =>
    have hitems := mapM_map_eq_some fun r (_ : r ∈ items) => r.ofSides?_toDocument
    exact congrArg (Option.map tiles) hitems

theorem Report.ofDocument?_toDocument (r : Report Float) : ofDocument? r.toDocument = some r := by
  show (Output.ofDocument? (.object [(r.output.name, .list r.output.items)])).map _ = some r
  rw [Output.ofDocument?_items]
  rfl

/-! ## Writing reports -/

section
variable {α : Type}

def Output.lengths : Output α → List α
  | intervals items => items.flatMap fun i => [i.min, i.max]
  | points items => items.flatMap fun p => [p.x, p.y]
  | tiles items => items.flatMap fun r => [r.x.min, r.x.max, r.y.min, r.y.max]

def Report.lengths (reports : List (Report α)) : List α := reports.flatMap (·.output.lengths)

end

theorem Interval.writable {i : Interval Float} (hmin : Json.ReadsBack i.min) (hmax : Json.ReadsBack i.max) :
    i.toDocument.Writable := by
  refine .list fun d hd => ?_
  simp only [List.mem_cons, List.not_mem_nil, or_false] at hd
  obtain rfl | rfl := hd
  · exact .number hmin
  · exact .number hmax

/-- Every item of an output can be written. -/
theorem Output.writable_items {o : Output Float} (hlengths : ∀ x ∈ o.lengths, Json.ReadsBack x) :
    ∀ d ∈ o.items, d.Writable := by
  intro d hd
  cases o with
  | intervals items =>
    obtain ⟨i, hi, rfl⟩ := List.mem_map.mp hd
    have hbounds := fun x hx => hlengths x (List.mem_flatMap.mpr ⟨i, hi, hx⟩)
    exact i.writable (hbounds _ (by simp)) (hbounds _ (by simp))
  | points items =>
    obtain ⟨p, hp, rfl⟩ := List.mem_map.mp hd
    have hcoordinates := fun x hx => hlengths x (List.mem_flatMap.mpr ⟨p, hp, hx⟩)
    exact Interval.writable (i := ⟨p.x, p.y⟩) (hcoordinates _ (by simp)) (hcoordinates _ (by simp))
  | tiles items =>
    obtain ⟨r, hr, rfl⟩ := List.mem_map.mp hd
    have hbounds := fun x hx => hlengths x (List.mem_flatMap.mpr ⟨r, hr, hx⟩)
    have hx := r.x.writable (hbounds _ (by simp)) (hbounds _ (by simp))
    have hy := r.y.writable (hbounds _ (by simp)) (hbounds _ (by simp))
    refine .object fun field hfield => ?_
    simp only [Rect.columns, List.zip_cons_cons, List.zip_nil_right, List.mem_cons, List.not_mem_nil,
      or_false] at hfield
    obtain rfl | rfl := hfield
    · exact hx
    · exact hy

theorem Report.writable {r : Report Float} (hlengths : ∀ x ∈ r.output.lengths, Json.ReadsBack x) :
    r.toDocument.Writable := by
  have houtput : (Document.object [(r.output.name, .list r.output.items)]).Writable := by
    refine .object fun field hfield => ?_
    obtain rfl := List.mem_singleton.mp hfield
    exact .list (Output.writable_items hlengths)
  refine .object fun field hfield => ?_
  simp only [List.mem_cons, List.not_mem_nil, or_false] at hfield
  obtain rfl | rfl | rfl := hfield
  · exact .text r.name
  · exact .text r.kind
  · exact houtput

/-! ## Pages -/

namespace Report

/-- A page is read as the list of the documents of its reports. -/
theorem read?_page {reports : List (Report Float)} (hlengths : ∀ x ∈ lengths reports, Json.ReadsBack x) :
    Json.read? (page reports) = some (.list (reports.map toDocument)) := by
  have hwritable : (Document.list (reports.map toDocument)).Writable := by
    refine .list fun d hd => ?_
    obtain ⟨r, hr, rfl⟩ := List.mem_map.mp hd
    exact r.writable fun x hx => hlengths x (List.mem_flatMap.mpr ⟨r, hr, hx⟩)
  have hbreak : ∀ c ∈ ['\n'], Json.isSpace c = true := List.forall_mem_singleton.2 rfl
  have hread := Json.Renders.read?_spaced (Json.renders_indented hwritable 0) hbreak
  rwa [String.ofList_append] at hread

/-- Reports are read back from their page. -/
theorem mapM_ofDocument? (reports : List (Report Float)) :
    (reports.map toDocument).mapM ofDocument? = some reports :=
  mapM_map_eq_some fun r _ => r.ofDocument?_toDocument

/-- Reports with the same page are the same. -/
theorem page_inj {reports others : List (Report Float)} (hlengths : ∀ x ∈ lengths reports, Json.ReadsBack x)
    (hothers : ∀ x ∈ lengths others, Json.ReadsBack x) (h : page others = page reports) : others = reports := by
  have hread := read?_page hothers
  rw [h, read?_page hlengths, Option.some.injEq, Document.list.injEq] at hread
  have hback := mapM_ofDocument? others
  rw [← hread, mapM_ofDocument? reports, Option.some.injEq] at hback
  exact hback.symm

end Report

/-- **JSON pages are faithful.** For reports whose lengths are finite and come back from their digits there
is one text that is printed as JSON, whatever the precision and the colour. It is read as a list with an
element for each report in order, from which the report is read back; and other such reports are printed
as another text. -/
theorem json_pages_faithful (reports : List (Report Float))
    (hfinite : ∀ x ∈ Report.lengths reports, (Binary.ofFloat x).isFinite = true)
    (hback : ∀ x ∈ Report.lengths reports, (Binary.ofFloat x).isFinite = true → Json.ReadsBack x) :
    ∃ text, (∀ precision colour, Report.print ⟨.json, precision⟩ colour reports = text) ∧
      (∃ ds, Json.read? text = some (.list ds) ∧ List.Forall₂ (fun r d => Report.ofDocument? d = some r) reports ds) ∧
      ∀ others : List (Report Float), (∀ x ∈ Report.lengths others, (Binary.ofFloat x).isFinite = true) →
        (∀ x ∈ Report.lengths others, (Binary.ofFloat x).isFinite = true → Json.ReadsBack x) →
        others ≠ reports → ∀ precision colour, Report.print ⟨.json, precision⟩ colour others ≠ text := by
  have hlengths : ∀ x ∈ Report.lengths reports, Json.ReadsBack x := fun x hx => hback x hx (hfinite x hx)
  refine ⟨Report.page reports, fun _ _ => rfl, ⟨reports.map Report.toDocument, Report.read?_page hlengths, ?_⟩, ?_⟩
  · rw [List.forall₂_map_right_iff, List.forall₂_same]
    exact fun r _ => r.ofDocument?_toDocument
  · intro others hfinite' hback' hne _ _ hsame
    exact hne (Report.page_inj hlengths (fun x hx => hback' x hx (hfinite' x hx)) hsame)

/-- A report of each shape, one of them without items. -/
def threeReports : List (Report Float) :=
  [⟨"room \"A\"\n", "dims", .intervals [⟨-0.0, 1e300⟩, ⟨0.1, 5e-324⟩]⟩, ⟨"", "distribute", .points []⟩,
    ⟨"é", "stretch", .tiles [⟨⟨-2.5, 7⟩, ⟨1e-7, 1e16⟩⟩]⟩]

/-- The reports are read back from their page, and in another order they have another page. -/
theorem three_reports_read_back :
    ((∀ x ∈ Report.lengths threeReports, (Binary.ofFloat x).isFinite = true) ∧
      ∀ x ∈ Report.lengths threeReports, (Binary.ofFloat x).isFinite = true → Json.ReadsBack x) ∧
    (∃ ds, Json.read? (Report.print ⟨.json, 2⟩ true threeReports) = some (.list ds) ∧
      List.Forall₂ (fun r d => Report.ofDocument? d = some r) threeReports ds) ∧
    Report.print ⟨.json, 0⟩ false threeReports.reverse ≠ Report.print ⟨.json, 2⟩ true threeReports := by
  have hfinite : ∀ x ∈ Report.lengths threeReports, (Binary.ofFloat x).isFinite = true := by decide +kernel
  have hback : ∀ x ∈ Report.lengths threeReports, (Binary.ofFloat x).isFinite = true → Json.ReadsBack x := by
    decide +kernel
  have hsame : ∀ x ∈ Report.lengths threeReports.reverse, x ∈ Report.lengths threeReports := by
    intro x hx
    simpa only [Report.lengths, List.mem_flatMap, List.mem_reverse] using hx
  have hne : threeReports.reverse ≠ threeReports := by decide +kernel
  obtain ⟨text, hprint, hread, hother⟩ := json_pages_faithful threeReports hfinite hback
  have htext := hprint 2 true
  refine ⟨⟨hfinite, hback⟩, by rwa [htext], ?_⟩
  rw [htext]
  exact hother _ (fun x hx => hfinite x (hsame x hx)) (fun x hx => hback x (hsame x hx)) hne 0 false

end SketchLayout
