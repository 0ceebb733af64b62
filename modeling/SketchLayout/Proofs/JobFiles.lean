import SketchLayout.Proofs.Columns
import SketchLayout.Proofs.JsonDocuments
import SketchLayout.Proofs.Units
import SketchLayout.Workspace.Jobs

/-!
# Job files survive JSON

A job file that is written as JSON is read back, and so is every other way to write it (`Written`): the
fields of a job in any order, without some of those that hold their default. Read back, a number that
was left out is zero, while what was left out may have been minus zero; these two are equal as
numbers, and `unsigned` is what numbers are up to that.
-/

namespace SketchLayout

open Document Column

/-! ## What a job file holds -/

section Contents

variable {α : Type}

def Dimension.lengths : Dimension α → List α
  | size s => [s]
  | range lo hi => [lo, hi]

def GridAxis.lengths (g : GridAxis α) : List α := g.spacing.toList ++ g.size.toList.flatMap Dimension.lengths

def DistributeAxis.lengths (d : DistributeAxis α) : List α := d.size.lengths ++ [d.tileSize, d.minSpacing]

def StretchAxis.lengths (s : StretchAxis α) : List α :=
  s.size.lengths ++ s.minTile.toList ++ s.maxTile.toList ++ [s.spacing]

def Job.lengths : Job α → List α
  | dims d => d.specs.flatMap Dimension.lengths
  | rect o => o.sizeX.lengths ++ o.sizeY.lengths
  | grid g => g.x.lengths ++ g.y.lengths
  | distribute d => d.x.lengths ++ d.y.lengths
  | stretch s => s.x.lengths ++ s.y.lengths

def JobFile.lengths (f : JobFile α) : List α := f.jobs.flatMap (·.job.lengths)

def JobFile.counts (f : JobFile α) : List Nat := f.jobs.flatMap (·.job.counts)

end Contents

/-! ## Ways to write a job file -/

/-- Whether two values are the same, their numbers up to `eq`. -/
def Document.Same (eq : Float → Float → Prop) : Document → Document → Prop
  | .number x, .number y => eq x y
  | c, d => c = d

/-- Whether a field of a request holds what it holds when it is left out. -/
def Kind.Spare (eq : Float → Float → Prop) (k : Kind) (field : String × Document) : Prop :=
  ∃ d, (field.1, d) ∈ k.defaults ∧ Same eq field.2 d

theorem Kind.Spare.mem_defaults {eq : Float → Float → Prop} {k : Kind} {field : String × Document}
    (h : k.Spare eq field) : field.1 ∈ k.defaults.map Prod.fst := by
  obtain ⟨d, hd, -⟩ := h
  exact List.mem_map.mpr ⟨_, hd, rfl⟩

/-- Whether a document is an object with the fields of a named job, in any order and without some that
hold their default. -/
def NamedJob.Written (eq : Float → Float → Prop) (n : NamedJob Float) (d : Document) : Prop :=
  ∃ there left, d = .object there ∧ (there ++ left).Perm n.toFields ∧ ∀ field ∈ left, n.job.kind.Spare eq field

/-- Whether a document lists the jobs of a file in order, each in some such way. -/
def JobFile.Written (eq : Float → Float → Prop) (f : JobFile Float) (d : Document) : Prop :=
  ∃ ds, d = .object [("jobs", .list ds)] ∧ List.Forall₂ (NamedJob.Written eq) f.jobs ds

/-- Every document in a file stands for one of its jobs. -/
theorem NamedJob.exists_of_mem {eq : Float → Float → Prop} {jobs : List (NamedJob Float)} {ds : List Document}
    (h : List.Forall₂ (NamedJob.Written eq) jobs ds) : ∀ d ∈ ds, ∃ n ∈ jobs, n.Written eq d := by
  induction h with
  | nil => simp
  | @cons n d jobs ds hjob _ ih =>
    intro d' hd'
    rcases List.mem_cons.mp hd' with rfl | hd'
    · exact ⟨n, List.mem_cons_self .., hjob⟩
    · obtain ⟨n', hn', hjob'⟩ := ih d' hd'
      exact ⟨n', List.mem_cons_of_mem n hn', hjob'⟩

theorem JobFile.written_toDocument (eq : Float → Float → Prop) (f : JobFile Float) : f.Written eq f.toDocument := by
  refine ⟨f.jobs.map NamedJob.toDocument, rfl, ?_⟩
  rw [List.forall₂_map_right_iff, List.forall₂_same]
  exact fun n _ => ⟨n.toFields, [], rfl, by simp, by simp⟩

/-! ## Zeros -/

/-- A number without the sign of zero. -/
def unsigned (x : Float) : Float := if x == Scalar.zero then Scalar.zero else x

theorem unsigned_of_zero {x : Float} (h : (x == Scalar.zero) = true) : unsigned x = unsigned Scalar.zero := by
  have hzero : unsigned Scalar.zero = Scalar.zero := by
    unfold unsigned
    split <;> rfl
  rw [hzero, unsigned, if_pos h]

/-! ## What is left out at its default -/

/-- The jobs of a file in other lengths. -/
def JobFile.map {α β : Type} (φ : α → β) (f : JobFile α) : JobFile β := ⟨f.jobs.map fun n => ⟨n.name, n.job.map φ⟩⟩

theorem JobFile.map_id {α : Type} (f : JobFile α) : f.map id = f := by simp [JobFile.map, Job.map_id]

section Same

variable {eq : Float → Float → Prop}

@[simp] theorem same_null {d : Document} : Same eq d .null ↔ d = .null := by cases d <;> simp [Same]

@[simp] theorem same_bool {d : Document} {b : Bool} : Same eq d (.bool b) ↔ d = .bool b := by cases d <;> simp [Same]

@[simp] theorem same_text {d : Document} {s : String} : Same eq d (.text s) ↔ d = .text s := by cases d <;> simp [Same]

@[simp] theorem same_number {x y : Float} : Same eq (.number x) (.number y) ↔ eq x y := Iff.rfl

variable {there : Bool}

theorem center_spare {c : Center} (h : there = true ∨ c.toDocument = .bool true) :
    (if there then c else .default) = c := by
  rcases h with h | h
  · rw [if_pos h]
  · cases c with
    | flag on =>
      cases h
      cases there <;> rfl
    | axes letters => cases h

theorem anchor_spare {a : Anchor} (h : there = true ∨ a.toDocument = .text "center") :
    (if there then a else .center) = a := by
  rcases h with h | h
  · rw [if_pos h]
  · have hread := Anchor.ofDocument?_toDocument (fun _ => false) a
    rw [h] at hread
    have hcenter : Anchor.center = a := Option.some.inj hread
    cases there <;> simp [hcenter]

theorem option_spare {β : Type} {write : β → Document} (hnull : ∀ b, write b ≠ .null) {b : Option β}
    (h : there = true ∨ ofOption write b = .null) : (if there then b else none) = b := by
  rcases h with h | h
  · rw [if_pos h]
  · cases b with
    | none => cases there <;> rfl
    | some b => exact absurd h (hnull b)

theorem zero_spare {φ : Float → Float} (hφ : ∀ x, eq x Scalar.zero → φ x = φ Scalar.zero) {x : Float}
    (h : there = true ∨ eq x Scalar.zero) : φ (if there then x else Scalar.zero) = φ x := by
  rcases h with h | h
  · rw [if_pos h]
  · cases there
    · exact (hφ x h).symm
    · rfl

/-- A request with columns left out that hold their default is the request, up to what `φ` tells apart. -/
theorem Job.pruned_map {φ : Float → Float} (hφ : ∀ x, eq x Scalar.zero → φ x = φ Scalar.zero) {keep : String → Bool}
    {j : Job Float} (h : ∀ field ∈ fieldsOf j.request, keep field.1 = true ∨ j.kind.Spare eq field) :
    (j.pruned keep).map φ = j.map φ := by
  have hnumber : ∀ x, Document.number x ≠ .null := by simp
  have hcount : ∀ n, ofCount n ≠ .null := by simp [ofCount]
  have hdimension : ∀ d : Dimension Float, d.toDocument ≠ .null := fun d => by cases d <;> simp [Dimension.toDocument]
  cases j with
  | dims d =>
    have hall : keep "specs" = true ∧ (keep "center" = true ∨ d.center.toDocument = .bool true) := by
      simpa [fieldsOf, request, Dims.toDocument, record, Dims.columns, kind, Kind.Spare, Kind.defaults] using h
    obtain ⟨-, hcenter⟩ := hall
    simp [pruned, Dims.pruned, map, Dims.map, center_spare hcenter]
  | rect o =>
    have hall : keep "size_x" = true ∧ keep "size_y" = true ∧
        (keep "center" = true ∨ o.center.toDocument = .bool true) := by
      simpa [fieldsOf, request, Outline.toDocument, record, Outline.columns, kind, Kind.Spare, Kind.defaults] using h
    obtain ⟨-, -, hcenter⟩ := hall
    simp [pruned, Outline.pruned, map, Outline.map, center_spare hcenter]
  | grid g =>
    have hall : keep "count_x" = true ∧ keep "count_y" = true ∧
        (keep "spacing_x" = true ∨ ofOptionalNumber g.x.spacing = .null) ∧
        (keep "spacing_y" = true ∨ ofOptionalNumber g.y.spacing = .null) ∧
        (keep "size_x" = true ∨ ofOption Dimension.toDocument g.x.size = .null) ∧
        (keep "size_y" = true ∨ ofOption Dimension.toDocument g.y.size = .null) ∧
        (keep "center" = true ∨ g.center.toDocument = .bool true) := by
      simpa [fieldsOf, request, Grid.toDocument, record, Grid.columns, kind, Kind.Spare, Kind.defaults] using h
    obtain ⟨-, -, hsx, hsy, hdx, hdy, hcenter⟩ := hall
    simp [pruned, Grid.pruned, map, Grid.map, GridAxis.map, option_spare hnumber hsx, option_spare hnumber hsy,
      option_spare hdimension hdx, option_spare hdimension hdy, center_spare hcenter]
  | distribute d =>
    have hall : keep "size_x" = true ∧ keep "size_y" = true ∧ keep "tile_size_x" = true ∧ keep "tile_size_y" = true ∧
        (keep "count_x" = true ∨ ofOptionalCount d.x.count = .null) ∧
        (keep "count_y" = true ∨ ofOptionalCount d.y.count = .null) ∧
        (keep "center" = true ∨ d.center.toDocument = .bool true) ∧
        (keep "result_pos" = true ∨ d.anchor.toDocument = .text "center") ∧
        (keep "min_spacing_x" = true ∨ eq d.x.minSpacing Scalar.zero) ∧
        (keep "min_spacing_y" = true ∨ eq d.y.minSpacing Scalar.zero) := by
      simpa [fieldsOf, request, Distribute.toDocument, record, Distribute.columns, kind, Kind.Spare, Kind.defaults]
        using h
    obtain ⟨-, -, -, -, hnx, hny, hcenter, hanchor, hsx, hsy⟩ := hall
    simp [pruned, Distribute.pruned, map, Distribute.map, DistributeAxis.map, option_spare hcount hnx,
      option_spare hcount hny, center_spare hcenter, anchor_spare hanchor, zero_spare hφ hsx, zero_spare hφ hsy]
  | stretch s =>
    have hall : keep "size_x" = true ∧ keep "size_y" = true ∧
        (keep "count_x" = true ∨ ofOptionalCount s.x.count = .null) ∧
        (keep "count_y" = true ∨ ofOptionalCount s.y.count = .null) ∧
        (keep "min_tile_size_x" = true ∨ ofOptionalNumber s.x.minTile = .null) ∧
        (keep "max_tile_size_x" = true ∨ ofOptionalNumber s.x.maxTile = .null) ∧
        (keep "min_tile_size_y" = true ∨ ofOptionalNumber s.y.minTile = .null) ∧
        (keep "max_tile_size_y" = true ∨ ofOptionalNumber s.y.maxTile = .null) ∧
        (keep "spacing_x" = true ∨ eq s.x.spacing Scalar.zero) ∧
        (keep "spacing_y" = true ∨ eq s.y.spacing Scalar.zero) ∧
        (keep "center" = true ∨ s.center.toDocument = .bool true) := by
      simpa [fieldsOf, request, Stretch.toDocument, record, Stretch.columns, kind, Kind.Spare, Kind.defaults] using h
    obtain ⟨-, -, hnx, hny, hlx, hhx, hly, hhy, hsx, hsy, hcenter⟩ := hall
    simp [pruned, Stretch.pruned, map, Stretch.map, StretchAxis.map, option_spare hcount hnx, option_spare hcount hny,
      option_spare hnumber hlx, option_spare hnumber hhx, option_spare hnumber hly, option_spare hnumber hhy,
      zero_spare hφ hsx, zero_spare hφ hsy, center_spare hcenter]

end Same

/-! ## Reading what is written -/

theorem NamedJob.nodup_toFields (n : NamedJob Float) : (n.toFields.map Prod.fst).Nodup := by
  have hnames : n.toFields.map Prod.fst = "name" :: "kind" :: n.job.kind.columns := by
    rw [toFields, Job.toFields, List.map_cons, List.map_cons, n.job.map_fst_request]
  rw [hnames]
  exact n.job.kind.nodup_columns

section Reading

variable {eq : Float → Float → Prop} {φ : Float → Float} (hφ : ∀ x, eq x Scalar.zero → φ x = φ Scalar.zero)
  {dialect : Dialect}
include hφ

/-- A request is read from its fields in any order and without some that hold their default, up to what `φ`
tells apart. -/
theorem Job.ofRequest?_written (isBlank : Document → Bool) {j : Job Float} {there left : List (String × Document)}
    (hcounts : ∀ n ∈ j.counts, n < 0x10000000000000000) (hperm : (there ++ left).Perm (fieldsOf j.request))
    (hleft : ∀ field ∈ left, j.kind.Spare eq field) :
    ∃ m : Job Float, ofRequest? isBlank j.kind (.object there) = some m ∧ m.map φ = j.map φ := by
  have hread := ofRequest?_of_perm isBlank hcounts hperm fun field hfield => (hleft field hfield).mem_defaults
  refine ⟨_, hread, pruned_map hφ fun field hfield => ?_⟩
  exact (kept_or_mem j.nodup_request hperm hfield).imp_right (hleft field)

theorem NamedJob.ofDocument?_written {outer : Nat}
    (hdepth : ∀ d : Document, d.readable 2 = true → dialect.keeps outer d = true) {n : NamedJob Float} {d : Document}
    (hcounts : ∀ m ∈ n.job.counts, m < 0x10000000000000000) (h : n.Written eq d) :
    ∃ m : NamedJob Float, ofDocument? dialect outer d = some m ∧ m.name = n.name ∧ m.job.map φ = n.job.map φ := by
  obtain ⟨there, left, rfl, hperm, hleft⟩ := h
  have hread := ofDocument?_of_perm hdepth hcounts hperm fun field hfield => (hleft field hfield).mem_defaults
  refine ⟨_, hread, rfl, Job.pruned_map hφ fun field hfield => ?_⟩
  have hin : field ∈ n.toFields := List.mem_cons_of_mem _ (List.mem_cons_of_mem _ hfield)
  exact (kept_or_mem n.nodup_toFields hperm hin).imp_right (hleft field)

/-- A file is read from any way to write it, up to what `φ` tells apart. -/
theorem JobFile.ofDocument?_written (hdepth : ∀ d : Document, d.readable 2 = true → dialect.keeps 3 d = true)
    {f : JobFile Float} {d : Document} (hcounts : ∀ m ∈ f.counts, m < 0x10000000000000000) (h : f.Written eq d) :
    ∃ g : JobFile Float, ofDocument? dialect d = some g ∧ g.map φ = f.map φ := by
  obtain ⟨ds, rfl, hjobs⟩ := h
  obtain ⟨jobs⟩ := f
  replace hjobs : List.Forall₂ (NamedJob.Written eq) jobs ds := hjobs
  suffices hall : ∃ js : List (NamedJob Float), ds.mapM (NamedJob.ofDocument? dialect 3) = some js ∧
      (JobFile.mk js).map φ = (JobFile.mk jobs).map φ by
    obtain ⟨js, hread, hmap⟩ := hall
    refine ⟨⟨js⟩, ?_, hmap⟩
    simp [ofDocument?, columns, columns?, values, defaulted, jobs?, hread]
  induction hjobs with
  | nil => exact ⟨[], rfl, rfl⟩
  | @cons n d jobs ds hjob _ ih =>
    have hhead : ∀ m ∈ n.job.counts, m < 0x10000000000000000 := fun m hm => hcounts m (by simp [counts, hm])
    have htail : ∀ m ∈ counts ⟨jobs⟩, m < 0x10000000000000000 := by
      intro m hm
      exact hcounts m (List.mem_append_right n.job.counts hm)
    obtain ⟨m, hread, hname, hmap⟩ := NamedJob.ofDocument?_written hφ hdepth hhead hjob
    obtain ⟨js, hreads, hmaps⟩ := ih htail
    refine ⟨m :: js, by simp [hread, hreads], ?_⟩
    simp only [JobFile.map, mk.injEq] at hmaps ⊢
    rw [List.map_cons, List.map_cons, hname, hmap, hmaps]

end Reading

/-! ## Writing -/

theorem writable_dimension {d : Dimension Float} (h : ∀ x ∈ d.lengths, Json.ReadsBack x) : d.toDocument.Writable := by
  cases d with
  | size s => exact .number (h s (by simp [Dimension.lengths]))
  | range lo hi =>
    refine .list fun d hd => ?_
    simp only [List.mem_cons, List.not_mem_nil, or_false] at hd
    obtain rfl | rfl := hd
    · exact .number (h lo (by simp [Dimension.lengths]))
    · exact .number (h hi (by simp [Dimension.lengths]))

theorem writable_option {β : Type} {write : β → Document} {b : Option β} (h : ∀ c ∈ b, (write c).Writable) :
    (ofOption write b).Writable := by
  cases b with
  | none => exact .null
  | some b => exact h b rfl

theorem writable_count {n : Nat} (h : n < 0x10000000000000000) : (ofCount n).Writable :=
  .int (by omega) (by omega)

theorem writable_center (c : Center) : c.toDocument.Writable := by
  cases c with
  | flag on => exact .bool on
  | axes letters => exact .text letters

theorem writable_optionalNumber {x : Option Float} (h : ∀ y ∈ x, Json.ReadsBack y) : (ofOptionalNumber x).Writable :=
  writable_option fun y hy => .number (h y hy)

theorem writable_optionalCount {n : Option Nat} (h : ∀ m ∈ n, m < 0x10000000000000000) :
    (ofOptionalCount n).Writable := writable_option fun m hm => writable_count (h m hm)

/-- What a grid gives for an axis can be written. -/
theorem GridAxis.writable {g : GridAxis Float} (hlengths : ∀ x ∈ g.lengths, Json.ReadsBack x)
    (hcount : g.count < 0x10000000000000000) :
    (ofCount g.count).Writable ∧ (ofOptionalNumber g.spacing).Writable ∧
      (ofOption Dimension.toDocument g.size).Writable := by
  refine ⟨writable_count hcount, writable_optionalNumber fun x hx => ?_, writable_option fun d hd => ?_⟩
  · exact hlengths x (by simp_all [lengths])
  · exact writable_dimension fun x hx => hlengths x (by simp_all [lengths])

/-- What a distribution gives for an axis can be written. -/
theorem DistributeAxis.writable {d : DistributeAxis Float} (hlengths : ∀ x ∈ d.lengths, Json.ReadsBack x)
    (hcount : ∀ n ∈ d.count, n < 0x10000000000000000) :
    d.size.toDocument.Writable ∧ (Document.number d.tileSize).Writable ∧ (ofOptionalCount d.count).Writable ∧
      (Document.number d.minSpacing).Writable := by
  refine ⟨writable_dimension fun x hx => ?_, .number ?_, writable_optionalCount hcount, .number ?_⟩
  · exact hlengths x (List.mem_append_left _ hx)
  · exact hlengths _ (by simp [lengths])
  · exact hlengths _ (by simp [lengths])

/-- What a stretching gives for an axis can be written. -/
theorem StretchAxis.writable {s : StretchAxis Float} (hlengths : ∀ x ∈ s.lengths, Json.ReadsBack x)
    (hcount : ∀ n ∈ s.count, n < 0x10000000000000000) :
    s.size.toDocument.Writable ∧ (ofOptionalCount s.count).Writable ∧ (ofOptionalNumber s.minTile).Writable ∧
      (ofOptionalNumber s.maxTile).Writable ∧ (Document.number s.spacing).Writable := by
  refine ⟨writable_dimension fun x hx => ?_, writable_optionalCount hcount, writable_optionalNumber fun x hx => ?_,
    writable_optionalNumber fun x hx => ?_, .number ?_⟩
  · exact hlengths x (by simp [lengths, hx])
  · exact hlengths x (by simp_all [lengths])
  · exact hlengths x (by simp_all [lengths])
  · exact hlengths _ (by simp [lengths])

/-- Every value of a request can be written. -/
theorem Job.writable_request {j : Job Float} (hlengths : ∀ x ∈ j.lengths, Json.ReadsBack x)
    (hcounts : ∀ n ∈ j.counts, n < 0x10000000000000000) : ∀ field ∈ fieldsOf j.request, field.2.Writable := by
  cases j with
  | dims d =>
    have hspecs : (Document.list (d.specs.map Dimension.toDocument)).Writable := by
      refine .list fun doc hdoc => ?_
      obtain ⟨spec, hspec, rfl⟩ := List.mem_map.mp hdoc
      exact writable_dimension fun x hx => hlengths x (List.mem_flatMap.mpr ⟨spec, hspec, hx⟩)
    simp [fieldsOf, request, Dims.toDocument, record, Dims.columns, hspecs, writable_center]
  | rect o =>
    have hx := writable_dimension fun x hx => hlengths x (List.mem_append_left o.sizeY.lengths hx)
    have hy := writable_dimension fun x hx => hlengths x (List.mem_append_right o.sizeX.lengths hx)
    simp [fieldsOf, request, Outline.toDocument, record, Outline.columns, hx, hy, writable_center]
  | grid g =>
    have hx := g.x.writable (fun x hx => hlengths x (List.mem_append_left g.y.lengths hx))
      (hcounts g.x.count (by simp [counts]))
    have hy := g.y.writable (fun x hx => hlengths x (List.mem_append_right g.x.lengths hx))
      (hcounts g.y.count (by simp [counts]))
    simp [fieldsOf, request, Grid.toDocument, record, Grid.columns, hx, hy, writable_center]
  | distribute d =>
    have hx := d.x.writable (fun x hx => hlengths x (List.mem_append_left d.y.lengths hx))
      fun n hn => hcounts n (List.mem_append_left _ (Option.mem_toList.mpr hn))
    have hy := d.y.writable (fun x hx => hlengths x (List.mem_append_right d.x.lengths hx))
      fun n hn => hcounts n (List.mem_append_right _ (Option.mem_toList.mpr hn))
    have hanchor : d.anchor.toDocument.Writable := .text d.anchor.name
    simp [fieldsOf, request, Distribute.toDocument, record, Distribute.columns, hx, hy, hanchor, writable_center]
  | stretch s =>
    have hx := s.x.writable (fun x hx => hlengths x (List.mem_append_left s.y.lengths hx))
      fun n hn => hcounts n (List.mem_append_left _ (Option.mem_toList.mpr hn))
    have hy := s.y.writable (fun x hx => hlengths x (List.mem_append_right s.x.lengths hx))
      fun n hn => hcounts n (List.mem_append_right _ (Option.mem_toList.mpr hn))
    simp [fieldsOf, request, Stretch.toDocument, record, Stretch.columns, hx, hy, writable_center]

/-- Every way to write a file can be written as JSON. -/
theorem JobFile.Written.writable {eq : Float → Float → Prop} {f : JobFile Float} {d : Document} (h : f.Written eq d)
    (hlengths : ∀ x ∈ f.lengths, Json.ReadsBack x) (hcounts : ∀ n ∈ f.counts, n < 0x10000000000000000) :
    d.Writable := by
  obtain ⟨ds, rfl, hjobs⟩ := h
  have hitems : ∀ doc ∈ ds, doc.Writable := by
    intro doc hdoc
    obtain ⟨n, hn, there, left, rfl, hperm, -⟩ := NamedJob.exists_of_mem hjobs doc hdoc
    have hrequest := n.job.writable_request (fun x hx => hlengths x (List.mem_flatMap.mpr ⟨n, hn, hx⟩))
      fun m hm => hcounts m (List.mem_flatMap.mpr ⟨n, hn, hm⟩)
    refine .object fun field hfield => ?_
    have hmem : field ∈ n.toFields := hperm.subset (List.mem_append_left left hfield)
    simp only [NamedJob.toFields, Job.toFields, List.mem_cons] at hmem
    rcases hmem with rfl | rfl | hmem
    · exact .text n.name
    · exact .text n.job.kind.name
    · exact hrequest field hmem
  refine .object fun field hfield => ?_
  obtain rfl := List.mem_singleton.mp hfield
  exact .list hitems

/-! ## Survival -/

/-- A value that is kept inside the brackets of a job file, of its list and of a job may have brackets. -/
theorem Dialect.json_keeps {d : Document} (h : d.readable 2 = true) : Dialect.json.keeps 3 d = true := by
  have hdeep : d.readable 124 = true := readable_mono (by decide) h
  exact hdeep

section Survival

variable {eq : Float → Float → Prop} {f : JobFile Float} {d : Document}
  (hlengths : ∀ x ∈ f.lengths, Json.ReadsBack x) (hcounts : ∀ n ∈ f.counts, n < 0x10000000000000000)
include hlengths hcounts

/-- A file is read from the text of any way to write it, up to what `φ` tells apart. -/
theorem JobFile.ofText?_written {φ : Float → Float} (hφ : ∀ x, eq x Scalar.zero → φ x = φ Scalar.zero)
    (h : f.Written eq d) :
    ∃ g : JobFile Float, ofText? .json (Json.toLine d) = some g ∧ ofText? .json (Json.toPage d) = some g ∧
      g.map φ = f.map φ := by
  have hwritable := h.writable hlengths hcounts
  obtain ⟨g, hread, hmap⟩ := ofDocument?_written hφ (fun _ => Dialect.json_keeps) hcounts h
  refine ⟨g, ?_, ?_, hmap⟩
  · show (Json.read? (Json.toLine d)).bind (ofDocument? .json) = some g
    rw [Json.read?_toLine hwritable]
    exact hread
  · show (Json.read? (Json.toPage d)).bind (ofDocument? .json) = some g
    rw [Json.read?_toPage hwritable]
    exact hread

end Survival

/-- **Job files survive JSON.** With counts in range and finite lengths that come back from their digits, a
file is read back from both layouts of its document, and so it is when the fields of its jobs are
permuted and fields at their default are left out. If minus zero counts as the default zero as well, what
is read back is equal to the file, signs of zeros apart. -/
theorem jobs_survive_json (f : JobFile Float) (hcounts : ∀ n ∈ f.counts, n < 0x10000000000000000)
    (hfinite : ∀ x ∈ f.lengths, (Binary.ofFloat x).isFinite = true)
    (hback : ∀ x ∈ f.lengths, (Binary.ofFloat x).isFinite = true → Json.ReadsBack x) :
    (JobFile.ofText? .json (Json.toLine f.toDocument) = some f ∧
      JobFile.ofText? .json (Json.toPage f.toDocument) = some f) ∧
    (∀ d, f.Written (· = ·) d →
      JobFile.ofText? .json (Json.toLine d) = some f ∧ JobFile.ofText? .json (Json.toPage d) = some f) ∧
    ∀ d, f.Written (fun x y => (x == y) = true) d →
      ∃ g, JobFile.ofText? .json (Json.toLine d) = some g ∧ JobFile.ofText? .json (Json.toPage d) = some g ∧
        g.map unsigned = f.map unsigned := by
  have hlengths : ∀ x ∈ f.lengths, Json.ReadsBack x := fun x hx => hback x hx (hfinite x hx)
  have hexact : ∀ d, f.Written (· = ·) d →
      JobFile.ofText? .json (Json.toLine d) = some f ∧ JobFile.ofText? .json (Json.toPage d) = some f := by
    intro d hd
    obtain ⟨g, hline, hpage, hmap⟩ := JobFile.ofText?_written hlengths hcounts (φ := id) (by simp) hd
    rw [JobFile.map_id, JobFile.map_id] at hmap
    subst hmap
    exact ⟨hline, hpage⟩
  refine ⟨hexact _ (f.written_toDocument _), hexact, fun d hd => ?_⟩
  exact JobFile.ofText?_written hlengths hcounts (fun x hx => unsigned_of_zero hx) hd

/-- Tiles that may touch, the smallest gap along Y given as minus zero. -/
def paving : NamedJob Float :=
  ⟨"tiles \"A\"\n",
    .distribute ⟨⟨.size 100, 7, none, 0.1⟩, ⟨.range 1e-7 (-60), 7.5, some 3, -0.0⟩, .axes "true", .origin⟩⟩

/-- As many columns as can be counted, centered by no letters at all. -/
def palisade : NamedJob Float :=
  ⟨"", .grid ⟨⟨18446744073709551615, none, some (.size 1e300)⟩, ⟨0, some 2.5, none⟩, .axes ""⟩⟩

/-- The jobs with their fields backwards, the smallest gap along Y left out. -/
def reversedFields : Document :=
  .object [("jobs", .list [.object paving.toFields.dropLast.reverse, .object palisade.toFields.reverse])]

/-- Both jobs are read back, also from their fields backwards. -/
theorem reversed_fields_survive :
    ((∀ n ∈ JobFile.counts ⟨[paving, palisade]⟩, n < 0x10000000000000000) ∧
      (∀ x ∈ JobFile.lengths ⟨[paving, palisade]⟩, (Binary.ofFloat x).isFinite = true) ∧
      ∀ x ∈ JobFile.lengths ⟨[paving, palisade]⟩, (Binary.ofFloat x).isFinite = true → Json.ReadsBack x) ∧
    JobFile.ofText? .json (Json.toLine (JobFile.toDocument ⟨[paving, palisade]⟩)) = some ⟨[paving, palisade]⟩ ∧
    ∃ g, JobFile.ofText? .json (Json.toLine reversedFields) = some g ∧
      g.map unsigned = JobFile.map unsigned ⟨[paving, palisade]⟩ := by
  have hcounts : ∀ n ∈ JobFile.counts ⟨[paving, palisade]⟩, n < 0x10000000000000000 := by decide +kernel
  have hfinite : ∀ x ∈ JobFile.lengths ⟨[paving, palisade]⟩, (Binary.ofFloat x).isFinite = true := by decide +kernel
  have hback : ∀ x ∈ JobFile.lengths ⟨[paving, palisade]⟩, (Binary.ofFloat x).isFinite = true → Json.ReadsBack x := by
    decide +kernel
  have hpaving : paving.Written (fun x y => (x == y) = true) (.object paving.toFields.dropLast.reverse) := by
    refine ⟨_, [("min_spacing_y", .number (-0.0))], rfl, (List.reverse_perm _).append_right _, ?_⟩
    intro field hfield
    obtain rfl := List.mem_singleton.mp hfield
    have hzero : ((-0.0 : Float) == Scalar.zero) = true := by decide +kernel
    exact ⟨.number Scalar.zero, by simp [paving, Job.kind, Kind.defaults], same_number.mpr hzero⟩
  have hpalisade : palisade.Written (fun x y => (x == y) = true) (.object palisade.toFields.reverse) :=
    ⟨_, [], rfl, by simp, by simp⟩
  obtain ⟨⟨hline, -⟩, -, hwritten⟩ := jobs_survive_json ⟨[paving, palisade]⟩ hcounts hfinite hback
  obtain ⟨g, hread, -, hsame⟩ := hwritten reversedFields ⟨_, rfl, .cons hpaving (.cons hpalisade .nil)⟩
  exact ⟨⟨hcounts, hfinite, hback⟩, hline, g, hread, hsame⟩

end SketchLayout
