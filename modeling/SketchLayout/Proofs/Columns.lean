import Mathlib.Data.List.Nodup
import Mathlib.Data.List.Perm.Basic
import SketchLayout.Record.Job

/-!
# Records in any order, with columns left out

An object with the columns of a record in any order, some of them left out, has the values of the
columns that are there (`columns?_of_perm`). So reading the record of a request of which only some
columns are there gives the request, with what is left out at its default (`pruned`), and a named job
is read from its fields in any order.
-/

namespace SketchLayout

open Document Column

/-- Items are read back from the list of what is written for each. -/
theorem mapM_map_eq_some {β γ : Type} {read : γ → Option β} {write : β → γ} :
    ∀ {items : List β}, (∀ b ∈ items, read (write b) = some b) → (items.map write).mapM read = some items
  | [], _ => rfl
  | b :: items, h => by
    have hrest := mapM_map_eq_some fun b' hb' => h b' (List.mem_cons_of_mem b hb')
    simp [List.mapM_cons, h b (List.mem_cons_self ..), hrest]

/-! ## Columns by name -/

namespace Document

theorem values_append (name : String) (fields left : List (String × Document)) :
    values name (fields ++ left) = values name fields ++ values name left := by
  simp [values]

theorem values_perm {fields fields' : List (String × Document)} (h : fields.Perm fields') (name : String) :
    (values name fields).Perm (values name fields') := (h.filter _).map _

theorem values_eq_nil {name : String} {fields : List (String × Document)} (h : name ∉ fields.map Prod.fst) :
    values name fields = [] := by
  simp only [values, List.map_eq_nil_iff, List.filter_eq_nil_iff, beq_iff_eq]
  intro field hfield heq
  exact h (heq ▸ List.mem_map_of_mem hfield)

theorem values_ne_nil {name : String} {fields : List (String × Document)} (h : name ∈ fields.map Prod.fst) :
    values name fields ≠ [] := by
  obtain ⟨field, hfield, rfl⟩ := List.mem_map.mp h
  intro hnil
  have hmem : field.2 ∈ values field.1 fields := List.mem_map_of_mem (List.mem_filter.mpr ⟨hfield, by simp⟩)
  simp [hnil] at hmem

/-- A field whose name does not repeat is the only value under its name. -/
theorem values_of_mem {fields : List (String × Document)} (hnodup : (fields.map Prod.fst).Nodup)
    {field : String × Document} (hfield : field ∈ fields) : values field.1 fields = [field.2] := by
  induction fields with
  | nil => cases hfield
  | cons f fields ih =>
    rw [List.map_cons, List.nodup_cons] at hnodup
    have hsplit := values_append field.1 [f] fields
    rw [List.singleton_append] at hsplit
    rw [hsplit]
    rcases List.mem_cons.mp hfield with rfl | htail
    · have hrest : values field.1 fields = [] := values_eq_nil hnodup.1
      rw [hrest]
      simp [values]
    · have hne : f.1 ≠ field.1 := by
        intro heq
        exact hnodup.1 (heq ▸ List.mem_map_of_mem htail)
      rw [ih hnodup.2 htail]
      simp [values, hne]

/-- The values of a record's columns when only those that `keep` says are there. -/
def part (keep : String → Bool) (fields : List (String × Document)) : List (Option Document) :=
  fields.map fun field => if keep field.1 then some field.2 else none

/-- Which columns are there when some fields are left out. -/
def kept (left : List (String × Document)) (name : String) : Bool := !(left.map Prod.fst).contains name

theorem kept_eq_true {left : List (String × Document)} {name : String} :
    kept left name = true ↔ name ∉ left.map Prod.fst := by simp [kept]

section Left

variable {fields there left : List (String × Document)} (hnodup : (fields.map Prod.fst).Nodup)
  (hperm : (there ++ left).Perm fields)
include hnodup hperm

/-- A field is there or left out. -/
theorem values_there {field : String × Document} (hfield : field ∈ fields) :
    values field.1 there = if kept left field.1 then [field.2] else [] := by
  have hvalues : (values field.1 there ++ values field.1 left).Perm [field.2] := by
    rw [← values_append, ← values_of_mem hnodup hfield]
    exact values_perm hperm field.1
  have hone := List.perm_singleton.mp hvalues
  by_cases hleft : field.1 ∈ left.map Prod.fst
  · rw [if_neg (by simpa [kept_eq_true] using hleft)]
    have hne := values_ne_nil hleft
    have hlen := congrArg List.length hone
    have hpos := List.length_pos_iff.mpr hne
    rw [List.length_append, List.length_singleton] at hlen
    exact List.eq_nil_of_length_eq_zero (by omega)
  · rw [if_pos (kept_eq_true.mpr hleft)]
    rw [values_eq_nil hleft, List.append_nil] at hone
    exact hone

/-- A field whose name is not there is among those left out. -/
theorem kept_or_mem {field : String × Document} (hfield : field ∈ fields) :
    kept left field.1 = true ∨ field ∈ left := by
  by_cases hkept : kept left field.1 = true
  · exact .inl hkept
  · obtain ⟨field', hfield', hname⟩ : ∃ f ∈ left, f.1 = field.1 := by simpa [kept_eq_true] using hkept
    have hin' : field' ∈ fields := hperm.subset (List.mem_append_right there hfield')
    have hsame : field' = field := List.inj_on_of_nodup_map hnodup hin' hfield hname
    exact .inr (hsame ▸ hfield')

/-- The order in which columns stand does not matter, and those that are left out are absent. -/
theorem columns?_of_perm : columns? (fields.map Prod.fst) (.object there) = some (part (kept left) fields) := by
  have hthere := fun field (hfield : field ∈ fields) => values_there hnodup hperm hfield
  have hsingle : ((fields.map Prod.fst).all fun name => (values name there).length ≤ 1) = true := by
    rw [List.all_map, List.all_eq_true]
    intro field hfield
    simp only [Function.comp_apply, hthere field hfield]
    split <;> simp
  simp only [columns?, hsingle, if_true, List.map_map, part, Option.some.injEq]
  refine List.map_congr_left fun field hfield => ?_
  simp only [Function.comp_apply, hthere field hfield]
  split <;> rfl

end Left

end Document

/-! ## Single columns -/

section Column

variable {β : Type} {read : Document → Option β}

theorem required_part (d : Document) {b : β} {there : Bool} (h : there = true) (hread : read d = some b) :
    required read (if there then some d else none) = some b := by
  rw [h]
  exact hread

theorem optional_of_ne_null {d : Document} (h : d ≠ .null) : optional read (some d) = (read d).map some := by
  unfold Column.optional
  split
  · rename_i heq
    cases heq
  · rename_i heq
    exact absurd (Option.some.inj heq) h
  · rename_i heq
    rw [Option.some.inj heq]

theorem optional_part (write : β → Document) {b : Option β} (hread : ∀ c ∈ b, read (write c) = some c)
    (hnull : ∀ c, write c ≠ .null) (there : Bool) :
    optional read (if there then some (ofOption write b) else none) = some (if there then b else none) := by
  cases there with
  | false => rfl
  | true =>
    cases b with
    | none => rfl
    | some c =>
      have hvalue : optional read (some (write c)) = (read (write c)).map some := optional_of_ne_null (hnull c)
      rw [hread c rfl] at hvalue
      exact hvalue

theorem defaulted_part (write : β → Document) (hread : ∀ b, read (write b) = some b) (value b : β) (there : Bool) :
    defaulted value read (if there then some (write b) else none) = some (if there then b else value) := by
  cases there with
  | false => rfl
  | true => exact hread b

theorem number_part (x : Option Float) (there : Bool) :
    optionalNumber (if there then some (ofOptionalNumber x) else none) = some (if there then x else none) :=
  optional_part .number (fun _ _ => rfl) (by simp) there

theorem toCount?_ofCount {n : Nat} (hn : n < 0x10000000000000000) : toCount? (ofCount n) = some n := by
  have hlt : (n : Int) < 0x10000000000000000 := by omega
  simp [ofCount, toCount?, hlt]

theorem count_part {n : Option Nat} (hn : ∀ m ∈ n, m < 0x10000000000000000) (there : Bool) :
    optionalCount (if there then some (ofOptionalCount n) else none) = some (if there then n else none) :=
  optional_part ofCount (fun m hm => toCount?_ofCount (hn m hm)) (by simp [ofCount]) there

theorem dimension_part (d : Option (Dimension Float)) (there : Bool) :
    optional Dimension.ofDocument? (if there then some (ofOption Dimension.toDocument d) else none) =
      some (if there then d else none) :=
  optional_part Dimension.toDocument (fun d _ => d.ofDocument?_toDocument)
    (fun d => by cases d <;> simp [Dimension.toDocument]) there

theorem zero_part (x : Float) (there : Bool) :
    numberOrZero (if there then some (.number x) else none) = some (if there then x else Scalar.zero) :=
  defaulted_part .number (fun _ => rfl) Scalar.zero x there

theorem center_part (c : Center) (there : Bool) :
    centerOrDefault (if there then some c.toDocument else none) = some (if there then c else .default) :=
  defaulted_part Center.toDocument Center.ofDocument?_toDocument .default c there

theorem anchor_part (isBlank : Document → Bool) (a : Anchor) (there : Bool) :
    defaulted .center (Anchor.ofDocument? isBlank) (if there then some a.toDocument else none) =
      some (if there then a else .center) :=
  defaulted_part Anchor.toDocument (Anchor.ofDocument?_toDocument isBlank) .center a there

end Column

/-! ## Requests -/

namespace Dims

/-- Dimensions to resolve, with what is not kept at its default. -/
def pruned (keep : String → Bool) (d : Dims Float) : Dims Float :=
  { d with center := if keep "center" then d.center else .default }

theorem specs?_toDocument (ds : List (Dimension Float)) : specs? (.list (ds.map Dimension.toDocument)) = some ds :=
  mapM_map_eq_some fun d _ => Dimension.ofDocument?_toDocument d

theorem ofDocument?_pruned {keep : String → Bool} {d : Dims Float} {doc : Document}
    (h : doc.columns? columns = some (part keep (Job.fieldsOf d.toDocument))) (hspecs : keep "specs" = true) :
    ofDocument? doc = some (d.pruned keep) := by
  have hds := required_part _ hspecs (specs?_toDocument d.specs)
  unfold ofDocument?
  rw [h]
  simp [part, Job.fieldsOf, toDocument, record, columns, hds, center_part, pruned]

end Dims

namespace Outline

/-- An outline, with what is not kept at its default. -/
def pruned (keep : String → Bool) (o : Outline Float) : Outline Float :=
  { o with center := if keep "center" then o.center else .default }

theorem ofDocument?_pruned {keep : String → Bool} {o : Outline Float} {doc : Document}
    (h : doc.columns? columns = some (part keep (Job.fieldsOf o.toDocument))) (hx : keep "size_x" = true)
    (hy : keep "size_y" = true) : ofDocument? doc = some (o.pruned keep) := by
  have hdx := required_part _ hx (Dimension.ofDocument?_toDocument o.sizeX)
  have hdy := required_part _ hy (Dimension.ofDocument?_toDocument o.sizeY)
  unfold ofDocument?
  rw [h]
  simp [part, Job.fieldsOf, toDocument, record, columns, requiredDimension, hdx, hdy, center_part, pruned]

end Outline

namespace Grid

/-- A grid, with what is not kept at its default. -/
def pruned (keep : String → Bool) (g : Grid Float) : Grid Float where
  x := ⟨g.x.count, if keep "spacing_x" then g.x.spacing else none, if keep "size_x" then g.x.size else none⟩
  y := ⟨g.y.count, if keep "spacing_y" then g.y.spacing else none, if keep "size_y" then g.y.size else none⟩
  center := if keep "center" then g.center else .default

theorem ofDocument?_pruned {keep : String → Bool} {g : Grid Float} {doc : Document}
    (h : doc.columns? columns = some (part keep (Job.fieldsOf g.toDocument))) (hx : keep "count_x" = true)
    (hy : keep "count_y" = true) (hnx : g.x.count < 0x10000000000000000) (hny : g.y.count < 0x10000000000000000) :
    ofDocument? doc = some (g.pruned keep) := by
  have hcx := required_part _ hx (toCount?_ofCount hnx)
  have hcy := required_part _ hy (toCount?_ofCount hny)
  unfold ofDocument?
  rw [h]
  simp [part, Job.fieldsOf, toDocument, record, columns, hcx, hcy, number_part, dimension_part, center_part, pruned]

end Grid

namespace Distribute

/-- Distributed tiles, with what is not kept at its default. -/
def pruned (keep : String → Bool) (d : Distribute Float) : Distribute Float where
  x := ⟨d.x.size, d.x.tileSize, if keep "count_x" then d.x.count else none,
    if keep "min_spacing_x" then d.x.minSpacing else Scalar.zero⟩
  y := ⟨d.y.size, d.y.tileSize, if keep "count_y" then d.y.count else none,
    if keep "min_spacing_y" then d.y.minSpacing else Scalar.zero⟩
  center := if keep "center" then d.center else .default
  anchor := if keep "result_pos" then d.anchor else .center

theorem ofDocument?_pruned {keep : String → Bool} {d : Distribute Float} (isBlank : Document → Bool) {doc : Document}
    (h : doc.columns? columns = some (part keep (Job.fieldsOf d.toDocument))) (hx : keep "size_x" = true)
    (hy : keep "size_y" = true) (htx : keep "tile_size_x" = true) (hty : keep "tile_size_y" = true)
    (hnx : ∀ n ∈ d.x.count, n < 0x10000000000000000) (hny : ∀ n ∈ d.y.count, n < 0x10000000000000000) :
    ofDocument? isBlank doc = some (d.pruned keep) := by
  have hdx := required_part _ hx (Dimension.ofDocument?_toDocument d.x.size)
  have hdy := required_part _ hy (Dimension.ofDocument?_toDocument d.y.size)
  have hsx : required toFloat? _ = some d.x.tileSize := required_part (.number d.x.tileSize) htx rfl
  have hsy : required toFloat? _ = some d.y.tileSize := required_part (.number d.y.tileSize) hty rfl
  unfold ofDocument?
  rw [h]
  simp [part, Job.fieldsOf, toDocument, record, columns, requiredDimension, hdx, hdy, hsx, hsy, count_part hnx,
    count_part hny, zero_part, center_part, anchor_part, pruned]

end Distribute

namespace Stretch

/-- Stretched tiles, with what is not kept at its default. -/
def pruned (keep : String → Bool) (s : Stretch Float) : Stretch Float where
  x := ⟨s.x.size, if keep "count_x" then s.x.count else none, if keep "min_tile_size_x" then s.x.minTile else none,
    if keep "max_tile_size_x" then s.x.maxTile else none, if keep "spacing_x" then s.x.spacing else Scalar.zero⟩
  y := ⟨s.y.size, if keep "count_y" then s.y.count else none, if keep "min_tile_size_y" then s.y.minTile else none,
    if keep "max_tile_size_y" then s.y.maxTile else none, if keep "spacing_y" then s.y.spacing else Scalar.zero⟩
  center := if keep "center" then s.center else .default

theorem ofDocument?_pruned {keep : String → Bool} {s : Stretch Float} {doc : Document}
    (h : doc.columns? columns = some (part keep (Job.fieldsOf s.toDocument))) (hx : keep "size_x" = true)
    (hy : keep "size_y" = true) (hnx : ∀ n ∈ s.x.count, n < 0x10000000000000000)
    (hny : ∀ n ∈ s.y.count, n < 0x10000000000000000) : ofDocument? doc = some (s.pruned keep) := by
  have hdx := required_part _ hx (Dimension.ofDocument?_toDocument s.x.size)
  have hdy := required_part _ hy (Dimension.ofDocument?_toDocument s.y.size)
  unfold ofDocument?
  rw [h]
  simp [part, Job.fieldsOf, toDocument, record, columns, requiredDimension, hdx, hdy, count_part hnx, count_part hny,
    number_part, zero_part, center_part, pruned]

end Stretch

/-! ## Jobs -/

namespace Kind

theorem ofName?_name (k : Kind) : ofName? k.name = some k := by cases k <;> decide

def columns : Kind → List String
  | dims => Dims.columns
  | rect => Outline.columns
  | grid => Grid.columns
  | distribute => Distribute.columns
  | stretch => Stretch.columns

/-- The columns that may be left out of the record of a kind, each with what it holds then. -/
def defaults : Kind → List (String × Document)
  | dims | rect => [("center", .bool true)]
  | grid => [("spacing_x", .null), ("spacing_y", .null), ("size_x", .null), ("size_y", .null), ("center", .bool true)]
  | distribute =>
    [("count_x", .null), ("count_y", .null), ("center", .bool true), ("result_pos", .text "center"),
      ("min_spacing_x", .number Scalar.zero), ("min_spacing_y", .number Scalar.zero)]
  | stretch =>
    [("count_x", .null), ("count_y", .null), ("min_tile_size_x", .null), ("max_tile_size_x", .null),
      ("min_tile_size_y", .null), ("max_tile_size_y", .null), ("spacing_x", .number Scalar.zero),
      ("spacing_y", .number Scalar.zero), ("center", .bool true)]

/-- The columns that must be in the record of a kind. -/
def required (k : Kind) : List String := k.columns.filter fun name => !(k.defaults.map Prod.fst).contains name

/-- No name of a job's fields repeats. -/
theorem nodup_columns (k : Kind) : ("name" :: "kind" :: k.columns).Nodup := by cases k <;> decide

theorem name_required (k : Kind) : "name" ∉ k.defaults.map Prod.fst := by cases k <;> decide

theorem kind_required (k : Kind) : "kind" ∉ k.defaults.map Prod.fst := by cases k <;> decide

end Kind

namespace Job

def counts {α : Type} : Job α → List Nat
  | dims _ | rect _ => []
  | grid g => [g.x.count, g.y.count]
  | distribute d => d.x.count.toList ++ d.y.count.toList
  | stretch s => s.x.count.toList ++ s.y.count.toList

/-- A request, with what is not kept at its default. -/
def pruned (keep : String → Bool) : Job Float → Job Float
  | dims d => .dims (d.pruned keep)
  | rect o => .rect (o.pruned keep)
  | grid g => .grid (g.pruned keep)
  | distribute d => .distribute (d.pruned keep)
  | stretch s => .stretch (s.pruned keep)

theorem map_fst_request (j : Job Float) : (fieldsOf j.request).map Prod.fst = j.kind.columns := by
  cases j <;> rfl

/-- No name in the record of a request repeats. -/
theorem nodup_request (j : Job Float) : ((fieldsOf j.request).map Prod.fst).Nodup := by
  rw [j.map_fst_request]
  exact (List.nodup_cons.mp (List.nodup_cons.mp j.kind.nodup_columns).2).2

/-- Reading the record of a request of which some columns are left out. -/
theorem ofRequest?_pruned {keep : String → Bool} {j : Job Float} (isBlank : Document → Bool) {doc : Document}
    (h : doc.columns? j.kind.columns = some (part keep (fieldsOf j.request)))
    (hkeep : ∀ name ∈ j.kind.required, keep name = true)
    (hcounts : ∀ n ∈ j.counts, n < 0x10000000000000000) :
    ofRequest? isBlank j.kind doc = some (j.pruned keep) := by
  cases j with
  | dims d =>
    have hthere : ∀ name ∈ Kind.dims.required, keep name = true := hkeep
    have hread := d.ofDocument?_pruned h (hthere _ (by decide))
    exact congrArg (Option.map dims) hread
  | rect o =>
    have hthere : ∀ name ∈ Kind.rect.required, keep name = true := hkeep
    have hread := o.ofDocument?_pruned h (hthere _ (by decide)) (hthere _ (by decide))
    exact congrArg (Option.map rect) hread
  | grid g =>
    have hthere : ∀ name ∈ Kind.grid.required, keep name = true := hkeep
    have hx : g.x.count < 0x10000000000000000 := hcounts _ (by simp [counts])
    have hy : g.y.count < 0x10000000000000000 := hcounts _ (by simp [counts])
    have hread := g.ofDocument?_pruned h (hthere _ (by decide)) (hthere _ (by decide)) hx hy
    exact congrArg (Option.map grid) hread
  | distribute d =>
    have hthere : ∀ name ∈ Kind.distribute.required, keep name = true := hkeep
    have hx : ∀ n ∈ d.x.count, n < 0x10000000000000000 := by
      intro n hn
      exact hcounts n (List.mem_append_left _ (Option.mem_toList.mpr hn))
    have hy : ∀ n ∈ d.y.count, n < 0x10000000000000000 := by
      intro n hn
      exact hcounts n (List.mem_append_right _ (Option.mem_toList.mpr hn))
    have hread := d.ofDocument?_pruned isBlank h (hthere _ (by decide)) (hthere _ (by decide))
      (hthere _ (by decide)) (hthere _ (by decide)) hx hy
    exact congrArg (Option.map distribute) hread
  | stretch s =>
    have hthere : ∀ name ∈ Kind.stretch.required, keep name = true := hkeep
    have hx : ∀ n ∈ s.x.count, n < 0x10000000000000000 := by
      intro n hn
      exact hcounts n (List.mem_append_left _ (Option.mem_toList.mpr hn))
    have hy : ∀ n ∈ s.y.count, n < 0x10000000000000000 := by
      intro n hn
      exact hcounts n (List.mem_append_right _ (Option.mem_toList.mpr hn))
    have hread := s.ofDocument?_pruned h (hthere _ (by decide)) (hthere _ (by decide)) hx hy
    exact congrArg (Option.map stretch) hread

end Job

/-! ## Depth -/

namespace Document

theorem readable_mono {a b : Nat} (hle : a ≤ b) {d : Document} (h : d.readable a = true) : d.readable b = true := by
  induction a generalizing b d with
  | zero => cases b <;> cases d <;> simp_all [readable]
  | succ a ih =>
    obtain ⟨b, rfl⟩ : ∃ k, b = k + 1 := ⟨b - 1, by omega⟩
    have hall : ∀ d : Document, d.readable a = true → d.readable b = true := fun d hd => ih (by omega) hd
    cases d with
    | list items =>
      simp only [readable, List.all_eq_true] at h ⊢
      exact fun d hd => hall d (h d hd)
    | object fields =>
      simp only [readable, List.all_eq_true] at h ⊢
      exact fun field hfield => hall field.2 (h field hfield)
    | _ => simp_all [readable]

theorem readable_dimension (d : Dimension Float) : d.toDocument.readable 1 = true := by cases d <;> rfl

theorem readable_option {β : Type} {write : β → Document} {levels : Nat} (h : ∀ b, (write b).readable levels = true)
    (b : Option β) : (ofOption write b).readable levels = true := by
  cases b with
  | none => cases levels <;> rfl
  | some b => exact h b

end Document

/-- No value of a request has brackets more than two deep. -/
theorem Job.readable_request (j : Job Float) : ∀ field ∈ fieldsOf j.request, field.2.readable 2 = true := by
  have hdimension : ∀ d : Dimension Float, d.toDocument.readable 2 = true := fun d =>
    readable_mono (by decide) (readable_dimension d)
  have hcenter : ∀ c : Center, c.toDocument.readable 2 = true := fun c => by cases c <;> rfl
  have hnumber : ∀ x, (ofOptionalNumber x).readable 2 = true := readable_option fun _ => rfl
  have hcount : ∀ n, (ofOptionalCount n).readable 2 = true := readable_option fun _ => rfl
  have hsize : ∀ d, (ofOption Dimension.toDocument d).readable 2 = true := readable_option hdimension
  cases j with
  | dims d =>
    have hspecs : (Document.list (d.specs.map Dimension.toDocument)).readable 2 = true := by
      simp [readable, readable_dimension]
    simp [request, fieldsOf, Dims.toDocument, record, Dims.columns, hspecs, hcenter]
  | rect o => simp [request, fieldsOf, Outline.toDocument, record, Outline.columns, hdimension, hcenter]
  | grid g =>
    simp [request, fieldsOf, Grid.toDocument, record, Grid.columns, ofCount, readable, hnumber, hsize, hcenter]
  | distribute d =>
    simp [request, fieldsOf, Distribute.toDocument, record, Distribute.columns, Anchor.toDocument, readable, hdimension,
      hcount, hcenter]
  | stretch s =>
    simp [request, fieldsOf, Stretch.toDocument, record, Stretch.columns, readable, hdimension, hcount, hnumber,
      hcenter]

/-! ## Requests in any order -/

/-- A request is read from the fields of its record in any order, with what is left out at its default. -/
theorem Job.ofRequest?_of_perm {there left : List (String × Document)} (isBlank : Document → Bool) {j : Job Float}
    (hcounts : ∀ n ∈ j.counts, n < 0x10000000000000000) (hperm : (there ++ left).Perm (fieldsOf j.request))
    (hleft : ∀ field ∈ left, field.1 ∈ j.kind.defaults.map Prod.fst) :
    ofRequest? isBlank j.kind (.object there) = some (j.pruned (kept left)) := by
  have hcolumns := columns?_of_perm j.nodup_request hperm
  rw [j.map_fst_request] at hcolumns
  have hrequired : ∀ name ∈ j.kind.required, kept left name = true := by
    intro name hname
    have hnot : name ∉ j.kind.defaults.map Prod.fst := by simpa using (List.mem_filter.mp hname).2
    refine kept_eq_true.mpr fun hmem => ?_
    obtain ⟨field, hfield, rfl⟩ := List.mem_map.mp hmem
    exact hnot (hleft field hfield)
  exact ofRequest?_pruned isBlank hcolumns hrequired hcounts

/-! ## Named jobs -/

/-- A field that must be there is found, and what is left over is the rest of the fields. -/
theorem perm_of_required {name : String} {d : Document} {fields there left : List (String × Document)}
    (hfields : name ∉ fields.map Prod.fst) (hleft : name ∉ left.map Prod.fst)
    (hperm : (there ++ left).Perm ((name, d) :: fields)) :
    values name there = [d] ∧ (there.filter (·.1 != name) ++ left).Perm fields := by
  have hothers : ∀ {fields : List (String × Document)}, name ∉ fields.map Prod.fst →
      fields.filter (·.1 != name) = fields := by
    intro fields hname
    refine List.filter_eq_self.mpr fun field hfield => ?_
    simp only [bne_iff_ne, ne_eq]
    intro heq
    exact hname (heq ▸ List.mem_map_of_mem hfield)
  constructor
  · have hvalues := values_perm hperm name
    have hhead := values_append name [(name, d)] fields
    rw [List.singleton_append, values_eq_nil hfields, List.append_nil] at hhead
    rw [values_append, values_eq_nil hleft, List.append_nil, hhead] at hvalues
    simpa [values] using hvalues
  · have hrest := hperm.filter (·.1 != name)
    rw [List.filter_append, hothers hleft, List.filter_cons_of_neg (by simp), hothers hfields] at hrest
    exact hrest

section Fields

variable {dialect : Dialect} {outer : Nat} {there left : List (String × Document)}
  (hdepth : ∀ d : Document, d.readable 2 = true → dialect.keeps outer d = true)
include hdepth

/-- A job is read from its fields in any order, with what is left out at its default. -/
theorem Job.ofFields?_of_perm {readKind : Document → Option Kind} {j : Job Float}
    (hkind : readKind (.text j.kind.name) = some j.kind) (hcounts : ∀ n ∈ j.counts, n < 0x10000000000000000)
    (hperm : (there ++ left).Perm j.toFields)
    (hleft : ∀ field ∈ left, field.1 ∈ j.kind.defaults.map Prod.fst) :
    ofFields? dialect outer readKind there = some (j.pruned (kept left)) := by
  have hkindFields : "kind" ∉ (fieldsOf j.request).map Prod.fst := by
    rw [j.map_fst_request]
    exact (List.nodup_cons.mp (List.nodup_cons.mp j.kind.nodup_columns).2).1
  have hkindLeft : "kind" ∉ left.map Prod.fst := by
    intro hmem
    obtain ⟨field, hfield, heq⟩ := List.mem_map.mp hmem
    exact j.kind.kind_required (heq ▸ hleft field hfield)
  obtain ⟨hvalues, hrest⟩ := perm_of_required hkindFields hkindLeft hperm
  have hkeeps : ((there.filter (·.1 != "kind")).all fun field => dialect.keeps outer field.2) = true := by
    rw [List.all_eq_true]
    intro field hfield
    exact hdepth _ (j.readable_request field (hrest.subset (List.mem_append_left left hfield)))
  have hread := ofRequest?_of_perm Dialect.isBlankKept hcounts hrest hleft
  simp only [ofFields?, hvalues, hkind, Option.bind_eq_bind, Option.bind_some, hkeeps, if_true, hread]

def NamedJob.toFields (n : NamedJob Float) : List (String × Document) := ("name", .text n.name) :: n.job.toFields

/-- A named job is read from its fields in any order, with what is left out at its default. -/
theorem NamedJob.ofDocument?_of_perm {n : NamedJob Float} (hcounts : ∀ m ∈ n.job.counts, m < 0x10000000000000000)
    (hperm : (there ++ left).Perm n.toFields)
    (hleft : ∀ field ∈ left, field.1 ∈ n.job.kind.defaults.map Prod.fst) :
    ofDocument? dialect outer (.object there) = some ⟨n.name, n.job.pruned (kept left)⟩ := by
  have hname : "name" ∉ n.job.toFields.map Prod.fst := by
    rw [Job.toFields, List.map_cons, n.job.map_fst_request]
    exact (List.nodup_cons.mp n.job.kind.nodup_columns).1
  have hnotleft : "name" ∉ left.map Prod.fst := by
    intro hmem
    obtain ⟨field, hfield, heq⟩ := List.mem_map.mp hmem
    exact n.job.kind.name_required (heq ▸ hleft field hfield)
  obtain ⟨hvalues, hrest⟩ := perm_of_required hname hnotleft hperm
  have hkind : (if dialect.numbered then Job.numberedKind? else Job.kind?) (.text n.job.kind.name) =
      some n.job.kind := by
    split <;> exact Kind.ofName?_name n.job.kind
  have hjob := Job.ofFields?_of_perm hdepth hkind hcounts hrest hleft
  simp only [ofDocument?, hvalues, hjob, Option.bind_eq_bind, Option.bind_some]
  rfl

end Fields

end SketchLayout
