import SketchLayout.Pattern.Setting
import SketchLayout.Proofs.JobFiles
import SketchLayout.Proofs.WholeLengths

/-!
# Patterns built step by step and read from records

A draft is a pattern as code writes it down: what it starts from and the settings that it takes, one after
another. A setting says some fields of the pattern's record, and only the last word on a field counts
(`latest`). The record of a draft is therefore what it starts from and the last word on each field that any
setting says something about; all else is left to the defaults of the record, which have to be those that
the pattern starts with. **A draft builds what its record is read as** (`drafts_match_records`).
-/

namespace SketchLayout

open Document

/-! ## What settings say -/

def GridSetting.fields : GridSetting Float → List (String × Document)
  | .spacing x y => [("spacing_x", .number x), ("spacing_y", .number y)]
  | .spacingX s => [("spacing_x", .number s)]
  | .spacingY s => [("spacing_y", .number s)]
  | .size x y => [("size_x", x.toDocument), ("size_y", y.toDocument)]
  | .sizeX d => [("size_x", d.toDocument)]
  | .sizeY d => [("size_y", d.toDocument)]
  | .center c => [("center", c.toDocument)]

def DistributeSetting.fields : DistributeSetting Float → List (String × Document)
  | .count x y => [("count_x", ofCount x), ("count_y", ofCount y)]
  | .countX n => [("count_x", ofCount n)]
  | .countY n => [("count_y", ofCount n)]
  | .center c => [("center", c.toDocument)]
  | .anchor a => [("result_pos", a.toDocument)]
  | .minSpacing x y => [("min_spacing_x", .number x), ("min_spacing_y", .number y)]

def StretchSetting.fields : StretchSetting Float → List (String × Document)
  | .count x y => [("count_x", ofCount x), ("count_y", ofCount y)]
  | .countX n => [("count_x", ofCount n)]
  | .countY n => [("count_y", ofCount n)]
  | .minTileX t => [("min_tile_size_x", .number t)]
  | .maxTileX t => [("max_tile_size_x", .number t)]
  | .minTileY t => [("min_tile_size_y", .number t)]
  | .maxTileY t => [("max_tile_size_y", .number t)]
  | .spacing x y => [("spacing_x", .number x), ("spacing_y", .number y)]
  | .center c => [("center", c.toDocument)]

/-! ## The last word on each field -/

/-- The last field of each name. -/
def latest : List (String × Document) → List (String × Document)
  | [] => []
  | new :: later => if new.1 ∈ later.map Prod.fst then latest later else new :: latest later

theorem mem_latest_cons {field new : String × Document} {later : List (String × Document)} :
    field ∈ latest (new :: later) ↔ (field = new ∧ new.1 ∉ later.map Prod.fst) ∨ field ∈ latest later := by
  rw [latest]
  split
  case isTrue hlater => simp only [hlater, not_true_eq_false, and_false, false_or]
  case isFalse hlater => simp only [List.mem_cons, hlater, not_false_eq_true, and_true]

theorem mem_of_mem_latest {field : String × Document} {news : List (String × Document)} (h : field ∈ latest news) :
    field ∈ news := by
  induction news with
  | nil => exact h
  | cons new later ih =>
    rcases mem_latest_cons.mp h with ⟨rfl, -⟩ | hlater
    · exact List.mem_cons_self ..
    · exact List.mem_cons_of_mem new (ih hlater)

theorem nodup_latest (news : List (String × Document)) : ((latest news).map Prod.fst).Nodup := by
  induction news with
  | nil => exact List.nodup_nil
  | cons new later ih =>
    rw [latest]
    split
    case isTrue => exact ih
    case isFalse hlater =>
      rw [List.map_cons, List.nodup_cons]
      refine ⟨fun hmem => ?_, ih⟩
      obtain ⟨field, hfield, heq⟩ := List.mem_map.mp hmem
      exact hlater (heq ▸ List.mem_map_of_mem (mem_of_mem_latest hfield))

/-! ## Saying fields of a record -/

/-- The fields of a record after one of them is said. -/
def overwrite (fields : List (String × Document)) (new : String × Document) : List (String × Document) :=
  fields.map fun old => if old.1 = new.1 then new else old

theorem map_fst_overwrite (fields : List (String × Document)) (new : String × Document) :
    (overwrite fields new).map Prod.fst = fields.map Prod.fst := by
  rw [overwrite, List.map_map]
  refine List.map_congr_left fun old _ => ?_
  simp only [Function.comp_apply]
  split
  case isTrue hname => exact hname.symm
  case isFalse => rfl

theorem mem_overwrite {fields : List (String × Document)} {field new : String × Document} :
    field ∈ overwrite fields new ↔
      (field ∈ fields ∧ field.1 ≠ new.1) ∨ (field = new ∧ new.1 ∈ fields.map Prod.fst) := by
  rw [overwrite, List.mem_map]
  constructor
  · rintro ⟨old, hold, rfl⟩
    split
    case isTrue hname => exact .inr ⟨rfl, hname ▸ List.mem_map_of_mem hold⟩
    case isFalse hname => exact .inl ⟨hold, hname⟩
  · rintro (⟨hfield, hname⟩ | ⟨rfl, hmem⟩)
    · exact ⟨field, hfield, if_neg hname⟩
    · obtain ⟨old, hold, hname⟩ := List.mem_map.mp hmem
      exact ⟨old, hold, if_pos hname⟩

/-- After fields are said one by one, a record holds the last word on each of them and what it held of all
others. -/
theorem mem_foldl_overwrite {news fields : List (String × Document)} {field : String × Document} :
    field ∈ news.foldl overwrite fields ↔
      (field ∈ fields ∧ field.1 ∉ news.map Prod.fst) ∨ (field ∈ latest news ∧ field.1 ∈ fields.map Prod.fst) := by
  induction news generalizing fields with
  | nil => simp [latest]
  | cons new later ih =>
    rw [List.foldl_cons, ih, mem_overwrite, map_fst_overwrite, mem_latest_cons, List.map_cons, List.mem_cons]
    -- the new field stays unless its name is said again, and then `latest` has left it out
    by_cases hnew : field = new
    · subst hnew
      tauto
    · tauto

/-! ## Drafts -/

/-- A pattern as it is built: what it starts from and the settings that it takes. -/
inductive Draft where
  | grid (countX countY : Nat) (settings : List (GridSetting Float))
  | distribute (sizeX sizeY : Dimension Float) (tileX tileY : Float) (settings : List (DistributeSetting Float))
  | stretch (sizeX sizeY : Dimension Float) (settings : List (StretchSetting Float))
  deriving DecidableEq, Repr

namespace Draft

def kind : Draft → Kind
  | grid .. => .grid
  | distribute .. => .distribute
  | stretch .. => .stretch

/-- The pattern before it takes settings. -/
def start : Draft → Job Float
  | grid countX countY _ => .grid (.new countX countY)
  | distribute sizeX sizeY tileX tileY _ => .distribute (.new sizeX sizeY tileX tileY)
  | stretch sizeX sizeY _ => .stretch (.new sizeX sizeY)

def job : Draft → Job Float
  | grid countX countY settings => .grid ((Grid.new countX countY).setAll settings)
  | distribute sizeX sizeY tileX tileY settings =>
    .distribute ((Distribute.new sizeX sizeY tileX tileY).setAll settings)
  | stretch sizeX sizeY settings => .stretch ((Stretch.new sizeX sizeY).setAll settings)

/-- The fields that the pattern starts from. -/
def arguments : Draft → List (String × Document)
  | grid countX countY _ => [("count_x", ofCount countX), ("count_y", ofCount countY)]
  | distribute sizeX sizeY tileX tileY _ =>
    [("size_x", sizeX.toDocument), ("size_y", sizeY.toDocument), ("tile_size_x", .number tileX),
      ("tile_size_y", .number tileY)]
  | stretch sizeX sizeY _ => [("size_x", sizeX.toDocument), ("size_y", sizeY.toDocument)]

/-- The fields that its settings say, in order. -/
def said : Draft → List (String × Document)
  | grid _ _ settings => settings.flatMap GridSetting.fields
  | distribute _ _ _ _ settings => settings.flatMap DistributeSetting.fields
  | stretch _ _ settings => settings.flatMap StretchSetting.fields

/-- The record of a draft: what it starts from and the last word on each field that a setting says. -/
def record (d : Draft) : List (String × Document) := d.arguments ++ latest d.said

/-- The defaults of the fields that no setting says. -/
def unsaid (d : Draft) : List (String × Document) := d.kind.defaults.filter (kept d.said ·.1)

theorem kind_job (d : Draft) : d.job.kind = d.kind := by cases d <;> rfl

end Draft

/-! ## From setting to setting -/

/-- Settings say only fields that may be left out. -/
theorem GridSetting.optional (s : GridSetting Float) :
    ∀ field ∈ s.fields, field.1 ∈ Kind.grid.defaults.map Prod.fst := by
  cases s <;> simp [fields, Kind.defaults]

theorem DistributeSetting.optional (s : DistributeSetting Float) :
    ∀ field ∈ s.fields, field.1 ∈ Kind.distribute.defaults.map Prod.fst := by
  cases s <;> simp [fields, Kind.defaults]

theorem StretchSetting.optional (s : StretchSetting Float) :
    ∀ field ∈ s.fields, field.1 ∈ Kind.stretch.defaults.map Prod.fst := by
  cases s <;> simp [fields, Kind.defaults]

/-- Taking a setting is saying its fields. -/
theorem Grid.fields_set (g : Grid Float) (s : GridSetting Float) :
    Job.fieldsOf (g.set s).toDocument = s.fields.foldl overwrite (Job.fieldsOf g.toDocument) := by
  cases s <;>
    simp [set, GridSetting.fields, overwrite, Job.fieldsOf, toDocument, Document.record, columns, ofOptionalNumber,
      ofOption]

theorem Distribute.fields_set (d : Distribute Float) (s : DistributeSetting Float) :
    Job.fieldsOf (d.set s).toDocument = s.fields.foldl overwrite (Job.fieldsOf d.toDocument) := by
  cases s <;>
    simp [set, DistributeSetting.fields, overwrite, Job.fieldsOf, toDocument, Document.record, columns,
      ofOptionalCount, ofOption]

theorem Stretch.fields_set (s : Stretch Float) (setting : StretchSetting Float) :
    Job.fieldsOf (s.set setting).toDocument = setting.fields.foldl overwrite (Job.fieldsOf s.toDocument) := by
  cases setting <;>
    simp [set, StretchSetting.fields, overwrite, Job.fieldsOf, toDocument, Document.record, columns, ofOptionalCount,
      ofOptionalNumber, ofOption]

/-- So taking settings in order is saying all their fields. -/
theorem fields_foldl {σ ρ : Type} (set : ρ → σ → ρ) (fields : ρ → List (String × Document))
    (said : σ → List (String × Document)) (hset : ∀ r s, fields (set r s) = (said s).foldl overwrite (fields r))
    (settings : List σ) (r : ρ) :
    fields (settings.foldl set r) = (settings.flatMap said).foldl overwrite (fields r) := by
  induction settings generalizing r with
  | nil => rfl
  | cons s settings ih => rw [List.foldl_cons, ih, hset, List.flatMap_cons, List.foldl_append]

namespace Draft

theorem said_optional (d : Draft) : ∀ field ∈ d.said, field.1 ∈ d.kind.defaults.map Prod.fst := by
  intro field hfield
  cases d with
  | grid countX countY settings =>
    obtain ⟨s, -, hs⟩ := List.mem_flatMap.mp hfield
    exact s.optional field hs
  | distribute sizeX sizeY tileX tileY settings =>
    obtain ⟨s, -, hs⟩ := List.mem_flatMap.mp hfield
    exact s.optional field hs
  | stretch sizeX sizeY settings =>
    obtain ⟨s, -, hs⟩ := List.mem_flatMap.mp hfield
    exact s.optional field hs

/-- **What a pattern starts with is what its record defaults to.** -/
theorem request_start (d : Draft) : Job.fieldsOf d.start.request = d.arguments ++ d.kind.defaults := by
  cases d <;> rfl

/-- The record of the pattern that is built is the one it starts with, with all fields said in order. -/
theorem request_job (d : Draft) :
    Job.fieldsOf d.job.request = d.said.foldl overwrite (Job.fieldsOf d.start.request) := by
  cases d with
  | grid countX countY settings =>
    exact fields_foldl _ (fun g => Job.fieldsOf (Grid.toDocument g)) _ Grid.fields_set settings _
  | distribute sizeX sizeY tileX tileY settings =>
    exact fields_foldl _ (fun d => Job.fieldsOf (Distribute.toDocument d)) _ Distribute.fields_set settings _
  | stretch sizeX sizeY settings =>
    exact fields_foldl _ (fun s => Job.fieldsOf (Stretch.toDocument s)) _ Stretch.fields_set settings _

/-! ## Drafts and records -/

theorem nodup_start (d : Draft) : ((d.arguments ++ d.kind.defaults).map Prod.fst).Nodup := by
  rw [← d.request_start]
  exact d.start.nodup_request

theorem mem_unsaid {d : Draft} {field : String × Document} :
    field ∈ d.unsaid ↔ field ∈ d.kind.defaults ∧ field.1 ∉ d.said.map Prod.fst := by
  rw [unsaid, List.mem_filter, kept_eq_true]

theorem nodup_record (d : Draft) : ((d.record ++ d.unsaid).map Prod.fst).Nodup := by
  have hstart := d.nodup_start
  rw [List.map_append, List.nodup_append'] at hstart
  obtain ⟨harguments, hdefaults, hdisjoint⟩ := hstart
  have hlatest : ∀ name ∈ (latest d.said).map Prod.fst, name ∈ d.said.map Prod.fst := by
    intro name hname
    obtain ⟨field, hfield, rfl⟩ := List.mem_map.mp hname
    exact List.mem_map_of_mem (mem_of_mem_latest hfield)
  have hsaid : ∀ name ∈ d.said.map Prod.fst, name ∈ d.kind.defaults.map Prod.fst := by
    intro name hname
    obtain ⟨field, hfield, rfl⟩ := List.mem_map.mp hname
    exact d.said_optional field hfield
  have hunsaid : ∀ name ∈ d.unsaid.map Prod.fst, name ∈ d.kind.defaults.map Prod.fst ∧ name ∉ d.said.map Prod.fst := by
    intro name hname
    obtain ⟨field, hfield, rfl⟩ := List.mem_map.mp hname
    exact ⟨List.mem_map_of_mem (mem_unsaid.mp hfield).1, (mem_unsaid.mp hfield).2⟩
  rw [record, List.append_assoc, List.map_append, List.map_append, List.nodup_append', List.nodup_append']
  refine ⟨harguments, ⟨nodup_latest d.said, ?_, fun name h h' => (hunsaid name h').2 (hlatest name h)⟩, ?_⟩
  · exact hdefaults.sublist (List.filter_sublist.map Prod.fst)
  · intro name h h'
    rcases List.mem_append.mp h' with h' | h'
    · exact hdisjoint h (hsaid name (hlatest name h'))
    · exact hdisjoint h (hunsaid name h').1

/-- The record of a draft is the record of what it builds but for fields that hold their default. -/
theorem record_perm (d : Draft) : (d.record ++ d.unsaid).Perm (Job.fieldsOf d.job.request) := by
  refine (List.perm_ext_iff_of_nodup (.of_map _ d.nodup_record) (.of_map _ d.job.nodup_request)).mpr fun field => ?_
  have hdisjoint : field ∈ d.arguments → field.1 ∉ d.said.map Prod.fst := by
    intro hfield hname
    obtain ⟨field', hsaid, heq⟩ := List.mem_map.mp hname
    have hstart := d.nodup_start
    rw [List.map_append, List.nodup_append'] at hstart
    exact hstart.2.2 (List.mem_map_of_mem hfield) (heq ▸ d.said_optional field' hsaid)
  have hcolumn : field ∈ latest d.said → field.1 ∈ (d.arguments ++ d.kind.defaults).map Prod.fst := by
    intro hfield
    rw [List.map_append]
    exact List.mem_append_right _ (d.said_optional field (mem_of_mem_latest hfield))
  rw [d.request_job, d.request_start, mem_foldl_overwrite, record, List.mem_append, List.mem_append, List.mem_append,
    mem_unsaid]
  tauto

theorem spare_unsaid (d : Draft) : ∀ field ∈ d.unsaid, d.job.kind.Spare (· = ·) field := by
  intro field hfield
  rw [d.kind_job]
  have hsame : Same (· = ·) field.2 field.2 := by cases field.2 <;> simp [Same]
  exact ⟨field.2, (mem_unsaid.mp hfield).1, hsame⟩

section Reading

variable {d : Draft} (hcounts : ∀ n ∈ d.job.counts, n < 0x10000000000000000) {doc : Document}
include hcounts

/-- A draft builds what its record is read as. -/
theorem ofRequest?_holds (isBlank : Document → Bool) (h : doc.Holds d.record) :
    Job.ofRequest? isBlank d.kind doc = some d.job := by
  obtain ⟨there, fields, rfl, hmeans, hperm⟩ := h
  obtain ⟨j, hread, hmap⟩ := Job.ofRequest?_written (φ := id) (by simp) isBlank hcounts
    ((hperm.append_right d.unsaid).trans d.record_perm) d.spare_unsaid
  rw [Job.map_id, Job.map_id] at hmap
  rw [d.kind_job, hmap] at hread
  exact Job.ofRequest?_means hmeans isBlank d.kind d.job hread

/-- So does a named job with the record of the draft. -/
theorem ofDocument?_holds {dialect : Dialect} {outer : Nat}
    (hdepth : ∀ d : Document, d.readable 2 = true → dialect.keeps outer d = true) {name : String}
    (h : doc.Holds (("name", .text name) :: ("kind", .text d.kind.name) :: d.record)) :
    NamedJob.ofDocument? dialect outer doc = some ⟨name, d.job⟩ := by
  obtain ⟨there, fields, rfl, hmeans, hperm⟩ := h
  have hfields : (fields ++ d.unsaid).Perm (NamedJob.toFields ⟨name, d.job⟩) := by
    rw [NamedJob.toFields, Job.toFields, d.kind_job]
    exact (hperm.append_right d.unsaid).trans ((d.record_perm.cons _).cons _)
  obtain ⟨⟨name', j⟩, hread, hname, hmap⟩ := NamedJob.ofDocument?_written (φ := id) (by simp) hdepth
    (n := ⟨name, d.job⟩) hcounts ⟨fields, d.unsaid, rfl, hfields, d.spare_unsaid⟩
  rw [Job.map_id, Job.map_id] at hmap
  obtain rfl : name' = name := hname
  obtain rfl : j = d.job := hmap
  exact NamedJob.ofDocument?_means hmeans _ hread

/-- The record of a draft has a form in JSON when its lengths have one. -/
theorem writable_record (hlengths : ∀ x ∈ d.job.lengths, Json.ReadsBack x) {fields : List (String × Document)}
    (hfields : fields.Perm d.record) : (object fields).Writable := by
  refine .object fun field hfield => d.job.writable_request hlengths hcounts field ?_
  exact d.record_perm.subset (List.mem_append_left _ (hfields.subset hfield))

end Reading

end Draft

/-- **A draft builds what its record is read as.** With counts in range, an object that holds what a draft
starts from and the last word on each field that its settings say, and nothing else, is read as the
pattern that is built, and so they run alike; a named job with these fields is read as that job in both
syntaxes; and the pattern comes back from both layouts of its record as JSON if its lengths do. -/
theorem drafts_match_records (d : Draft) (hcounts : ∀ n ∈ d.job.counts, n < 0x10000000000000000) :
    (∀ isBlank doc, doc.Holds d.record →
      Job.ofRequest? isBlank d.kind doc = some d.job ∧
        (Job.ofRequest? isBlank d.kind doc).map Job.run = some d.job.run) ∧
    (∀ name doc, doc.Holds (("name", .text name) :: ("kind", .text d.kind.name) :: d.record) →
      NamedJob.ofDocument? .json 3 doc = some ⟨name, d.job⟩ ∧
        NamedJob.ofDocument? .toml 3 doc = some ⟨name, d.job⟩) ∧
    ∀ fields : List (String × Document), fields.Perm d.record → (∀ x ∈ d.job.lengths, Json.ReadsBack x) →
      (Json.read? (Json.toLine (.object fields))).bind (Job.ofRequest? Dialect.json.isBlank d.kind) = some d.job ∧
        (Json.read? (Json.toPage (.object fields))).bind (Job.ofRequest? Dialect.json.isBlank d.kind) = some d.job := by
  refine ⟨fun isBlank doc hdoc => ?_, fun name doc hdoc => ?_, fun fields hfields hlengths => ?_⟩
  · have hread := Draft.ofRequest?_holds hcounts isBlank hdoc
    refine ⟨hread, ?_⟩
    rw [hread]
    rfl
  · refine ⟨Draft.ofDocument?_holds hcounts (fun _ => Dialect.json_keeps) hdoc, ?_⟩
    exact Draft.ofDocument?_holds hcounts (fun _ _ => rfl) hdoc
  · have hwritable := Draft.writable_record hcounts hlengths hfields
    have hread := Draft.ofRequest?_holds hcounts Dialect.json.isBlank ⟨fields, fields, rfl, .refl fields, hfields⟩
    rw [Json.read?_toLine hwritable, Json.read?_toPage hwritable]
    exact ⟨hread, hread⟩

/-- A pattern whose counts and gaps are set more than once. -/
def resetDraft : Draft :=
  .stretch (.size 90) (.range 40 0)
    [.countX 3, .spacing 2 3, .count 4 5, .minTileX 7.5, .center (.axes "x"), .spacing 1 0.5, .center (.flag false),
      .countX 6]

/-- The record of that pattern backwards, whole lengths without a point. -/
def reversedRecord : List (String × Document) :=
  [("count_x", .int 6), ("center", .bool false), ("spacing_y", .number 0.5), ("spacing_x", .int 1),
    ("min_tile_size_x", .number 7.5), ("count_y", .int 5), ("size_y", .list [.int 40, .number 0]),
    ("size_x", .int 90)]

theorem reset_draft_read_from_reversed_record :
    (∀ n ∈ resetDraft.job.counts, n < 0x10000000000000000) ∧ FieldsMean reversedRecord resetDraft.record.reverse ∧
    Job.ofRequest? Dialect.json.isBlank .stretch (.object reversedRecord) = some resetDraft.job ∧
    NamedJob.ofDocument? .json 3 (.object (("name", .text "slats") :: ("kind", .text "stretch") :: reversedRecord)) =
      some ⟨"slats", resetDraft.job⟩ ∧
    (∀ x ∈ resetDraft.job.lengths, Json.ReadsBack x) ∧
    (Json.read? (Json.toLine (.object resetDraft.record))).bind (Job.ofRequest? Dialect.json.isBlank .stretch) =
      some resetDraft.job := by
  have hcounts : ∀ n ∈ resetDraft.job.counts, n < 0x10000000000000000 := by decide +kernel
  have hlengths : ∀ x ∈ resetDraft.job.lengths, Json.ReadsBack x := by decide +kernel
  have hmeans : FieldsMean reversedRecord resetDraft.record.reverse :=
    .cons ⟨rfl, .refl _⟩ <| .cons ⟨rfl, .refl _⟩ <| .cons ⟨rfl, .refl _⟩ <| .cons ⟨rfl, .whole 1⟩ <|
      .cons ⟨rfl, .refl _⟩ <| .cons ⟨rfl, .refl _⟩ <|
        .cons ⟨rfl, .list (.cons (.whole 40) (.cons (.refl _) .nil))⟩ <| .cons ⟨rfl, .whole 90⟩ .nil
  have hperm : resetDraft.record.reverse.Perm resetDraft.record := List.reverse_perm _
  obtain ⟨hrequest, hnamed, htext⟩ := drafts_match_records resetDraft hcounts
  obtain ⟨hread, -⟩ := hrequest Dialect.json.isBlank _ ⟨reversedRecord, _, rfl, hmeans, hperm⟩
  obtain ⟨hjob, -⟩ := hnamed "slats" _
    ⟨_, _, rfl, .cons ⟨rfl, .refl _⟩ (.cons ⟨rfl, .refl _⟩ hmeans), (hperm.cons _).cons _⟩
  obtain ⟨hline, -⟩ := htext resetDraft.record (.refl _) hlengths
  exact ⟨hcounts, hmeans, hread, hjob, hlengths, hline⟩

end SketchLayout
