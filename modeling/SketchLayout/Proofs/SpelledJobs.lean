import SketchLayout.Proofs.NumberTexts
import SketchLayout.Proofs.OptionRows
import SketchLayout.Proofs.Outcomes
import SketchLayout.Proofs.Settled

/-!
# Commands that spell a job

A job whose centering is a word of letters can be spelled as a command: its kind, an option for each of
its fields, and its dimensions behind two hyphens (`Job.words`). The options may stand in any order, and
those that hold their default may be left out (`Job.Spelled`). Options about printing may stand in front
(`Invocation.Spelled`). Such a command is read as the job (`Invocation.ofWords?_words`), so it prints what
the job comes to, or complains of what the job fails with (`command_runs_spelled_job`).
-/

namespace SketchLayout

open Command

/-! ## Fields that are given -/

namespace Command

namespace Given

variable {β : Type} {g : Given} {read : String → Option β} {name : String}

theorem required_of_value {text : String} {b : β} (hvalue : g.value? name = some text) (hread : read text = some b) :
    g.required read name = some b := by rw [required, hvalue]; exact hread

theorem optional_of_value {write : β → String} {b : Option β} (hvalue : g.value? name = b.map write)
    (hread : ∀ c ∈ b, read (write c) = some c) : g.optional read name = some b := by
  unfold optional
  cases b with
  | none => rw [hvalue]; rfl
  | some c => rw [hvalue]; exact congrArg (Option.map some) (hread c rfl)

/-- An option that is left out at its default is read as its default. -/
theorem defaulted_of_value {write : β → String} {value b : β} (hread : read (write b) = some b)
    (hdefault : read (write value) = some value)
    (hvalue : g.value? name = some (write b) ∨ write b = write value ∧ g.value? name = none) :
    g.defaulted value read name = some b := by
  unfold defaulted optional
  rcases hvalue with hthere | ⟨hsame, hnone⟩
  · rw [hthere]
    show (read (write b)).map some >>= _ = _
    rw [hread]
    rfl
  · rw [hnone]
    have hb : value = b := Option.some.inj (hdefault.symm.trans ((congrArg read hsame.symm).trans hread))
    exact congrArg some hb

end Given

/-! ## Words for a job -/

theorem count?_ofCount {n : Nat} (h : n < CountLiteral.bound) : count? (Numeral.ofCount n) = some n := by
  rw [count?, CountLiteral.read_ofCount h]
  rfl

theorem anchor?_name (a : Anchor) : anchor? a.name = some a := by cases a <;> decide +kernel

end Command

/-- The options that may be left out at their default, each with the text of the default. -/
def Kind.spareOptions (k : Kind) : List (String × String) :=
  ("center", "true") ::
    match k with
    | distribute =>
      [("min-spacing-x", Numeral.ofFloat Scalar.zero), ("min-spacing-y", Numeral.ofFloat Scalar.zero),
        ("result-pos", Anchor.center.name)]
    | stretch => [("spacing-x", Numeral.ofFloat Scalar.zero), ("spacing-y", Numeral.ofFloat Scalar.zero)]
    | dims | rect | grid => []

namespace Job

/-- The fields of a request under the names of their options, each with its text if it is given. -/
def texts (word : String) : Job Float → List (String × Option String)
  | dims _ => [("center", some word)]
  | rect o => [("center", some word), ("size-x", some o.sizeX.toText), ("size-y", some o.sizeY.toText)]
  | grid g =>
    [("center", some word), ("size-x", g.x.size.map Dimension.toText), ("size-y", g.y.size.map Dimension.toText),
      ("count-x", some (Numeral.ofCount g.x.count)), ("count-y", some (Numeral.ofCount g.y.count)),
      ("spacing-x", g.x.spacing.map Numeral.ofFloat), ("spacing-y", g.y.spacing.map Numeral.ofFloat)]
  | distribute d =>
    [("center", some word), ("size-x", some d.x.size.toText), ("size-y", some d.y.size.toText),
      ("tile-x", some (Numeral.ofFloat d.x.tileSize)), ("tile-y", some (Numeral.ofFloat d.y.tileSize)),
      ("count-x", d.x.count.map Numeral.ofCount), ("count-y", d.y.count.map Numeral.ofCount),
      ("min-spacing-x", some (Numeral.ofFloat d.x.minSpacing)),
      ("min-spacing-y", some (Numeral.ofFloat d.y.minSpacing)), ("result-pos", some d.anchor.name)]
  | stretch s =>
    [("center", some word), ("size-x", some s.x.size.toText), ("size-y", some s.y.size.toText),
      ("count-x", s.x.count.map Numeral.ofCount), ("count-y", s.y.count.map Numeral.ofCount),
      ("min-x", s.x.minTile.map Numeral.ofFloat), ("max-x", s.x.maxTile.map Numeral.ofFloat),
      ("min-y", s.y.minTile.map Numeral.ofFloat), ("max-y", s.y.maxTile.map Numeral.ofFloat),
      ("spacing-x", some (Numeral.ofFloat s.x.spacing)), ("spacing-y", some (Numeral.ofFloat s.y.spacing))]

/-- Whether a row of options spells a request with a word for its centering: it holds the options of the
request in any order, without some that hold their default. -/
def Spelled (j : Job Float) (word : String) (row : List (String × String)) : Prop :=
  ∃ left, (row ++ left).Perm (present (j.texts word)) ∧ ∀ option ∈ left, option ∈ j.kind.spareOptions

/-- The texts of the dimensions that a request lists. -/
def operands : Job Float → List String
  | dims d => d.specs.map Dimension.toText
  | rect _ | grid _ | distribute _ | stretch _ => []

/-- What a command is given by a row of options and the dimensions. -/
def given (j : Job Float) (row : List (String × String)) : Given := .ofOptions row j.operands

/-- The words of a command: the kind, a row of options, and the dimensions behind two hyphens. -/
def words (j : Job Float) (row : List (String × String)) : List String :=
  j.kind.name :: (row.map written ++ if j.operands.isEmpty then [] else "--" :: j.operands)

/-- The fields of a request are the options of its command. -/
theorem map_fst_texts (word : String) (j : Job Float) :
    (j.texts word).map Prod.fst = (Verb.layout j.kind).switches.map (·.name) := by
  cases j <;> rfl

end Job

/-! ## Reading the words -/

/-- No two options that a command knows have one name. -/
theorem Kind.nodup_switches (k : Kind) :
    ((common ++ (Verb.layout k).switches).map (·.name)).Nodup := by cases k <;> decide

/-- Every option of a command takes a value. -/
theorem Kind.form_takes (k : Kind) :
    ∀ name ∈ (Verb.layout k).switches.map (·.name), (Verb.layout k).form.Takes name := by
  have hswitch : ∀ switch ∈ (Verb.layout k).switches,
      (Verb.layout k).form.named? switch.name = some switch ∧ switch.valued = true ∧ switch.name.toList ≠ [] ∧
        switch.name.toList.all (· != '=') = true := by
    cases k <;> decide
  intro name hname
  obtain ⟨switch, hmem, rfl⟩ := List.mem_map.mp hname
  obtain ⟨hnamed, hvalued, hne, hplain⟩ := hswitch switch hmem
  exact ⟨⟨switch, hnamed, rfl, hvalued⟩, hne, List.all_eq_true.mp hplain⟩

theorem Kind.ofName?_verb (k : Kind) : Verb.ofName? k.name = some (.layout k) := by cases k <;> decide

theorem Kind.isEnd_name (k : Kind) : preamble.isEnd {} k.name = true := by cases k <;> decide

namespace Job

theorem nodup_texts (word : String) (j : Job Float) : ((j.texts word).map Prod.fst).Nodup := by
  have hall := j.kind.nodup_switches
  rw [List.map_append] at hall
  rw [map_fst_texts]
  exact hall.of_append_right

section Spelled

variable {j : Job Float} {word : String} {row : List (String × String)} (h : j.Spelled word row)
include h

/-- The names in a row that spells a request are names of options of its command. -/
theorem Spelled.subset_switches : row.map Prod.fst ⊆ (Verb.layout j.kind).switches.map (·.name) := by
  obtain ⟨left, hperm, -⟩ := h
  rw [← j.map_fst_texts word]
  intro name hname
  refine (sublist_present _).subset ((hperm.map Prod.fst).subset ?_)
  rw [List.map_append]
  exact List.mem_append_left _ hname

theorem Spelled.nodup : (row.map Prod.fst).Nodup := by
  obtain ⟨left, hperm, -⟩ := h
  exact nodup_there ((sublist_present _).nodup (j.nodup_texts word)) hperm

/-- A field has its text in the row, or its option is left out at its default. -/
theorem Spelled.value {field : String × Option String} (hfield : field ∈ j.texts word) :
    (j.given row).value? field.1 = field.2 ∨
      ∃ text, field.2 = some text ∧ (field.1, text) ∈ j.kind.spareOptions ∧ (j.given row).value? field.1 = none := by
  obtain ⟨left, hperm, hspare⟩ := h
  rw [given, Given.value?_ofOptions]
  rcases value_there (j.nodup_texts word) hperm hfield with hthere | ⟨text, htext, hleft, hnone⟩
  · exact .inl hthere
  · exact .inr ⟨text, htext, hspare _ hleft, hnone⟩

/-- No common option is in the row. -/
theorem Spelled.common_notMem {name : String} (hname : name ∈ common.map (·.name)) : name ∉ row.map Prod.fst := by
  intro hmem
  have hall := j.kind.nodup_switches
  rw [List.map_append, List.nodup_append] at hall
  exact hall.2.2 _ hname _ (h.subset_switches hmem) rfl

/-- The words behind the kind are read as the row and the dimensions. -/
theorem Spelled.read_words (hroom : j.operands.length ≤ (Verb.layout j.kind).form.operands) :
    (Verb.layout j.kind).form.read (row.map written ++ if j.operands.isEmpty then [] else "--" :: j.operands) =
      some (j.given row, []) := by
  have hends : (Verb.layout j.kind).form.ends = [] := rfl
  have htakes : ∀ option ∈ row, (Verb.layout j.kind).form.Takes option.1 := fun option hoption =>
    j.kind.form_takes _ (h.subset_switches (List.mem_map_of_mem hoption))
  have hrow := Form.readFrom_written (by simp [hends]) (if j.operands.isEmpty then [] else "--" :: j.operands) row {}
    rfl htakes (by simpa using h.nodup)
  rw [Form.read]
  refine hrow.trans ?_
  split
  · rename_i hempty
    rw [given, List.isEmpty_iff.mp hempty]
    rfl
  · rw [Form.readFrom_hyphens hends rfl, Form.readFrom_literal hends _ _ (by simpa using hroom)]
    rfl

section Values

variable {β : Type} {name : String} {read : String → Option β} {write : β → String}

/-- A field that cannot be left out has its text in the row. -/
theorem Spelled.found {text : Option String} (hfield : (name, text) ∈ j.texts word)
    (hkeep : name ∉ j.kind.spareOptions.map Prod.fst) : (j.given row).value? name = text := by
  rcases h.value hfield with hthere | ⟨text, -, hspare, -⟩
  · exact hthere
  · exact absurd (List.mem_map_of_mem hspare) hkeep

theorem Spelled.required {b : β} (hfield : (name, some (write b)) ∈ j.texts word)
    (hkeep : name ∉ j.kind.spareOptions.map Prod.fst) (hread : read (write b) = some b) :
    (j.given row).required read name = some b := Given.required_of_value (h.found hfield hkeep) hread

theorem Spelled.optional {b : Option β} (hfield : (name, b.map write) ∈ j.texts word)
    (hkeep : name ∉ j.kind.spareOptions.map Prod.fst) (hread : ∀ c ∈ b, read (write c) = some c) :
    (j.given row).optional read name = some b := Given.optional_of_value (h.found hfield hkeep) hread

theorem Spelled.defaulted {value b : β} (hfield : (name, some (write b)) ∈ j.texts word)
    (hspare : ∀ text, (name, text) ∈ j.kind.spareOptions → text = write value) (hread : read (write b) = some b)
    (hdefault : read (write value) = some value) : (j.given row).defaulted value read name = some b := by
  refine Given.defaulted_of_value hread hdefault ?_
  rcases h.value hfield with hthere | ⟨text, htext, hleft, hnone⟩
  · exact .inl hthere
  · cases htext
    exact .inr ⟨hspare _ hleft, hnone⟩

end Values

/-- The centering is the word of the row. -/
theorem Spelled.center (hcenter : j.center = .axes word) : (j.given row).center = j.center := by
  have hfield : ("center", some word) ∈ j.texts word := by cases j <;> simp [texts]
  have hspare : ∀ text, ("center", text) ∈ j.kind.spareOptions → text = "true" := by
    cases j <;> simp [kind, Kind.spareOptions]
  rw [Given.center, hcenter]
  rcases h.value hfield with hthere | ⟨text, htext, hleft, hnone⟩
  · rw [hthere]
    rfl
  · cases htext
    rw [hnone, hspare word hleft]
    rfl

end Spelled

/-- Whether a job is within what options can give: counts below the bound, lengths whose texts are read back,
and one to three dimensions where dimensions are listed. -/
structure Sayable (j : Job Float) : Prop where
  counts : ∀ n ∈ j.counts, n < CountLiteral.bound
  lengths : ∀ x ∈ j.lengths, Numeral.ReadsBack x
  dimensions : ∀ d, j = .dims d → d.specs ≠ [] ∧ d.specs.length ≤ 3

namespace Sayable

variable {j : Job Float} (h : j.Sayable)
include h

theorem read_count {n : Nat} (hn : n ∈ j.counts) : count? (Numeral.ofCount n) = some n :=
  count?_ofCount (h.counts n hn)

theorem read_dimension {d : Dimension Float} (hd : ∀ x ∈ d.lengths, x ∈ j.lengths) : dimension? d.toText = some d :=
  Dimension.read?_toText fun x hx => h.lengths x (hd x hx)

/-- A job lists no more dimensions than its command takes. -/
theorem length_operands : j.operands.length ≤ (Verb.layout j.kind).form.operands := by
  cases j with
  | dims d =>
    rw [operands, List.length_map]
    exact (h.dimensions d rfl).2
  | rect _ | grid _ | distribute _ | stretch _ => exact Nat.le_refl 0

end Sayable

section Requests

variable {word : String} {row : List (String × String)}

theorem request?_dims {d : Dims Float} (h : (dims d).Spelled word row) (hcenter : d.center = .axes word)
    (hsayable : (dims d).Sayable) : request? (.layout .dims) ((dims d).given row) = some (.layout (.dims d)) := by
  have hspecs : ((dims d).given row).operands.mapM dimension? = some d.specs := mapM_map_eq_some fun spec hspec =>
    hsayable.read_dimension fun x hx => List.mem_flatMap.mpr ⟨spec, hspec, hx⟩
  have hsome : ((dims d).given row).operands.isEmpty = false := by
    simpa [given, Given.ofOptions, operands] using (hsayable.dimensions d rfl).1
  have hcentering : ((dims d).given row).center = d.center := h.center hcenter
  simp only [request?, dims?, hsome, Bool.false_eq_true, if_false, hspecs, hcentering, Option.bind_eq_bind,
    Option.bind_some, Option.pure_def, Option.map_some]

theorem request?_rect {o : Outline Float} (h : (rect o).Spelled word row) (hcenter : o.center = .axes word)
    (hsayable : (rect o).Sayable) : request? (.layout .rect) ((rect o).given row) = some (.layout (.rect o)) := by
  have hx : ((rect o).given row).required dimension? "size-x" = some o.sizeX :=
    h.required (by simp [texts]) (by simp [kind, Kind.spareOptions])
      (hsayable.read_dimension fun x hx => List.mem_append_left _ hx)
  have hy : ((rect o).given row).required dimension? "size-y" = some o.sizeY :=
    h.required (by simp [texts]) (by simp [kind, Kind.spareOptions])
      (hsayable.read_dimension fun x hx => List.mem_append_right _ hx)
  have hcentering : ((rect o).given row).center = o.center := h.center hcenter
  simp only [request?, outline?, hx, hy, hcentering, Option.bind_eq_bind, Option.bind_some, Option.pure_def,
    Option.map_some]

theorem request?_grid {g : Grid Float} (h : (grid g).Spelled word row) (hcenter : g.center = .axes word)
    (hsayable : (grid g).Sayable) : request? (.layout .grid) ((grid g).given row) = some (.layout (.grid g)) := by
  have hcountX : ((grid g).given row).required count? "count-x" = some g.x.count :=
    h.required (by simp [texts]) (by simp [kind, Kind.spareOptions])
      (hsayable.read_count (by simp [counts]))
  have hcountY : ((grid g).given row).required count? "count-y" = some g.y.count :=
    h.required (by simp [texts]) (by simp [kind, Kind.spareOptions])
      (hsayable.read_count (by simp [counts]))
  have hspacingX : ((grid g).given row).optional number? "spacing-x" = some g.x.spacing :=
    h.optional (by simp [texts]) (by simp [kind, Kind.spareOptions])
      fun x hx => hsayable.lengths x (by simp_all [lengths, GridAxis.lengths])
  have hspacingY : ((grid g).given row).optional number? "spacing-y" = some g.y.spacing :=
    h.optional (by simp [texts]) (by simp [kind, Kind.spareOptions])
      fun x hx => hsayable.lengths x (by simp_all [lengths, GridAxis.lengths])
  have hsizeX : ((grid g).given row).optional dimension? "size-x" = some g.x.size :=
    h.optional (by simp [texts]) (by simp [kind, Kind.spareOptions])
      fun d hd => hsayable.read_dimension fun x hx => by simp_all [lengths, GridAxis.lengths]
  have hsizeY : ((grid g).given row).optional dimension? "size-y" = some g.y.size :=
    h.optional (by simp [texts]) (by simp [kind, Kind.spareOptions])
      fun d hd => hsayable.read_dimension fun x hx => by simp_all [lengths, GridAxis.lengths]
  have hcentering : ((grid g).given row).center = g.center := h.center hcenter
  simp only [request?, grid?, hcountX, hcountY, hspacingX, hspacingY, hsizeX, hsizeY, hcentering,
    Option.bind_eq_bind, Option.bind_some, Option.pure_def, Option.map_some]

theorem request?_distribute {d : Distribute Float} (h : (distribute d).Spelled word row)
    (hcenter : d.center = .axes word) (hsayable : (distribute d).Sayable) :
    request? (.layout .distribute) ((distribute d).given row) = some (.layout (.distribute d)) := by
  have hzero : number? (Numeral.ofFloat Scalar.zero) = some Scalar.zero := by decide +kernel
  have hsizeX : ((distribute d).given row).required dimension? "size-x" = some d.x.size :=
    h.required (by simp [texts]) (by simp [kind, Kind.spareOptions])
      (hsayable.read_dimension fun x hx => by simp [lengths, DistributeAxis.lengths, hx])
  have hsizeY : ((distribute d).given row).required dimension? "size-y" = some d.y.size :=
    h.required (by simp [texts]) (by simp [kind, Kind.spareOptions])
      (hsayable.read_dimension fun x hx => by simp [lengths, DistributeAxis.lengths, hx])
  have htileX : ((distribute d).given row).required number? "tile-x" = some d.x.tileSize :=
    h.required (by simp [texts]) (by simp [kind, Kind.spareOptions])
      (hsayable.lengths _ (by simp [lengths, DistributeAxis.lengths]))
  have htileY : ((distribute d).given row).required number? "tile-y" = some d.y.tileSize :=
    h.required (by simp [texts]) (by simp [kind, Kind.spareOptions])
      (hsayable.lengths _ (by simp [lengths, DistributeAxis.lengths]))
  have hcountX : ((distribute d).given row).optional count? "count-x" = some d.x.count :=
    h.optional (by simp [texts]) (by simp [kind, Kind.spareOptions])
      fun n hn => hsayable.read_count (by simp_all [counts])
  have hcountY : ((distribute d).given row).optional count? "count-y" = some d.y.count :=
    h.optional (by simp [texts]) (by simp [kind, Kind.spareOptions])
      fun n hn => hsayable.read_count (by simp_all [counts])
  have hspacingX : ((distribute d).given row).defaulted Scalar.zero number? "min-spacing-x" = some d.x.minSpacing :=
    h.defaulted (by simp [texts]) (by simp [kind, Kind.spareOptions])
      (hsayable.lengths _ (by simp [lengths, DistributeAxis.lengths])) hzero
  have hspacingY : ((distribute d).given row).defaulted Scalar.zero number? "min-spacing-y" = some d.y.minSpacing :=
    h.defaulted (by simp [texts]) (by simp [kind, Kind.spareOptions])
      (hsayable.lengths _ (by simp [lengths, DistributeAxis.lengths])) hzero
  have hanchor : ((distribute d).given row).defaulted .center anchor? "result-pos" = some d.anchor :=
    h.defaulted (by simp [texts]) (by simp [kind, Kind.spareOptions]) (anchor?_name _) (anchor?_name _)
  have hcentering : ((distribute d).given row).center = d.center := h.center hcenter
  simp only [request?, distribute?, hsizeX, hsizeY, htileX, htileY, hcountX, hcountY, hspacingX, hspacingY, hanchor,
    hcentering, Option.bind_eq_bind, Option.bind_some, Option.pure_def, Option.map_some]

theorem request?_stretch {s : Stretch Float} (h : (stretch s).Spelled word row)
    (hcenter : s.center = .axes word) (hsayable : (stretch s).Sayable) :
    request? (.layout .stretch) ((stretch s).given row) = some (.layout (.stretch s)) := by
  have hzero : number? (Numeral.ofFloat Scalar.zero) = some Scalar.zero := by decide +kernel
  have hsizeX : ((stretch s).given row).required dimension? "size-x" = some s.x.size :=
    h.required (by simp [texts]) (by simp [kind, Kind.spareOptions])
      (hsayable.read_dimension fun x hx => by simp [lengths, StretchAxis.lengths, hx])
  have hsizeY : ((stretch s).given row).required dimension? "size-y" = some s.y.size :=
    h.required (by simp [texts]) (by simp [kind, Kind.spareOptions])
      (hsayable.read_dimension fun x hx => by simp [lengths, StretchAxis.lengths, hx])
  have hcountX : ((stretch s).given row).optional count? "count-x" = some s.x.count :=
    h.optional (by simp [texts]) (by simp [kind, Kind.spareOptions])
      fun n hn => hsayable.read_count (by simp_all [counts])
  have hcountY : ((stretch s).given row).optional count? "count-y" = some s.y.count :=
    h.optional (by simp [texts]) (by simp [kind, Kind.spareOptions])
      fun n hn => hsayable.read_count (by simp_all [counts])
  have hminX : ((stretch s).given row).optional number? "min-x" = some s.x.minTile :=
    h.optional (by simp [texts]) (by simp [kind, Kind.spareOptions])
      fun x hx => hsayable.lengths x (by simp_all [lengths, StretchAxis.lengths])
  have hmaxX : ((stretch s).given row).optional number? "max-x" = some s.x.maxTile :=
    h.optional (by simp [texts]) (by simp [kind, Kind.spareOptions])
      fun x hx => hsayable.lengths x (by simp_all [lengths, StretchAxis.lengths])
  have hminY : ((stretch s).given row).optional number? "min-y" = some s.y.minTile :=
    h.optional (by simp [texts]) (by simp [kind, Kind.spareOptions])
      fun x hx => hsayable.lengths x (by simp_all [lengths, StretchAxis.lengths])
  have hmaxY : ((stretch s).given row).optional number? "max-y" = some s.y.maxTile :=
    h.optional (by simp [texts]) (by simp [kind, Kind.spareOptions])
      fun x hx => hsayable.lengths x (by simp_all [lengths, StretchAxis.lengths])
  have hspacingX : ((stretch s).given row).defaulted Scalar.zero number? "spacing-x" = some s.x.spacing :=
    h.defaulted (by simp [texts]) (by simp [kind, Kind.spareOptions])
      (hsayable.lengths _ (by simp [lengths, StretchAxis.lengths])) hzero
  have hspacingY : ((stretch s).given row).defaulted Scalar.zero number? "spacing-y" = some s.y.spacing :=
    h.defaulted (by simp [texts]) (by simp [kind, Kind.spareOptions])
      (hsayable.lengths _ (by simp [lengths, StretchAxis.lengths])) hzero
  have hcentering : ((stretch s).given row).center = s.center := h.center hcenter
  simp only [request?, stretch?, hsizeX, hsizeY, hcountX, hcountY, hminX, hmaxX, hminY, hmaxY, hspacingX, hspacingY,
    hcentering, Option.bind_eq_bind, Option.bind_some, Option.pure_def, Option.map_some]

/-- What is given by the words of a job is the request for that job. -/
theorem request?_given {j : Job Float} (h : j.Spelled word row) (hcenter : j.center = .axes word)
    (hsayable : j.Sayable) : request? (.layout j.kind) (j.given row) = some (.layout j) := by
  cases j with
  | dims d => exact request?_dims h hcenter hsayable
  | rect o => exact request?_rect h hcenter hsayable
  | grid g => exact request?_grid h hcenter hsayable
  | distribute d => exact request?_distribute h hcenter hsayable
  | stretch s => exact request?_stretch h hcenter hsayable

end Requests

end Job

/-! ## Options about printing -/

/-- Options stand for no command. -/
theorem Command.written_notMem_ends (option : String × String) : written option ∉ preamble.ends := by
  have hletter : ∀ word ∈ preamble.ends, word.toList.head? ≠ some '-' := by decide
  intro hmem
  exact hletter _ hmem (by rw [toList_written]; rfl)

/-- Every option about printing that takes a value can stand in front of a command. -/
theorem Command.preamble_takes : ∀ name ∈ ["format", "precision", "config"], preamble.Takes name := by
  have hswitch : ∀ name ∈ ["format", "precision", "config"],
      (∃ switch ∈ common, preamble.named? name = some switch ∧ switch.name = name ∧ switch.valued = true) ∧
        name.toList ≠ [] ∧ name.toList.all (· != '=') = true := by decide
  intro name hname
  obtain ⟨⟨switch, -, hnamed⟩, hne, hplain⟩ := hswitch name hname
  exact ⟨⟨switch, hnamed⟩, hne, List.all_eq_true.mp hplain⟩

namespace Invocation

/-- What an invocation says about printing, under the names of the options, each with its text if it is given. -/
def texts (inv : Invocation) : List (String × Option String) :=
  [("format", inv.format.map OutputFormat.name), ("precision", inv.precision.map Numeral.ofCount),
    ("config", inv.config)]

/-- Whether a row of options spells what an invocation says about printing, in any order. -/
def Spelled (inv : Invocation) (front : List (String × String)) : Prop := front.Perm (present inv.texts)

/-- Whether options can say what an invocation says about printing: a precision below the bound, and a path
that is not empty. -/
structure Sayable (inv : Invocation) : Prop where
  precision : ∀ n ∈ inv.precision, n < CountLiteral.bound
  config : ∀ path ∈ inv.config, path.isEmpty = false

theorem nodup_texts (inv : Invocation) : (inv.texts.map Prod.fst).Nodup :=
  show ["format", "precision", "config"].Nodup by decide

section Front

variable {inv : Invocation} {front : List (String × String)} (h : inv.Spelled front)
include h

/-- The names in front of a command are those of options about printing. -/
theorem Spelled.subset_names : front.map Prod.fst ⊆ ["format", "precision", "config"] := by
  intro name hname
  exact (sublist_present inv.texts).subset ((h.map Prod.fst).subset hname)

/-- The words in front of a command are read as the row, up to the command. -/
theorem Spelled.read_preamble (k : Kind) (rest : List String) :
    preamble.read (front.map written ++ k.name :: rest) = some (.ofOptions front [], k.name :: rest) := by
  have hnodup : (front.map Prod.fst).Nodup :=
    (h.map Prod.fst).nodup_iff.mpr ((sublist_present _).nodup inv.nodup_texts)
  have hrow := Form.readFrom_written written_notMem_ends (k.name :: rest) front {} rfl
    (fun option hoption => preamble_takes _ (h.subset_names (List.mem_map_of_mem hoption))) (by simpa using hnodup)
  have hend : preamble.isEnd { given := .ofOptions front [] } k.name = true := k.isEnd_name
  refine hrow.trans ?_
  show preamble.readFrom { given := .ofOptions front [] } _ = _
  rw [Form.readFrom, if_pos hend]

theorem Spelled.value {name : String} {text : Option String} (hfield : (name, text) ∈ inv.texts) :
    (Given.ofOptions front []).value? name = text := by
  have hperm : (front ++ []).Perm (present inv.texts) := by rwa [List.append_nil]
  rw [Given.value?_ofOptions]
  rcases value_there inv.nodup_texts hperm hfield with hthere | ⟨_, _, hleft, _⟩
  · exact hthere
  · exact absurd hleft List.not_mem_nil

theorem Spelled.help_notGiven : (Given.ofOptions front []).has "help" = false := by
  rw [Bool.eq_false_iff, ne_eq, Given.has_ofOptions]
  intro hmem
  exact absurd (h.subset_names hmem) (by decide)

end Front

end Invocation

/-! ## Running the words -/

namespace Invocation

variable {inv : Invocation} {j : Job Float} {word : String} {front row : List (String × String)}

/-- A common option is the one in front of the command if the row behind the command does not hold it. -/
theorem common?_given (hrow : j.Spelled word row) {name : String} (hname : name ∈ common.map (·.name)) {β : Type}
    {read : String → Option β} {outer : Given} {b : Option β} (houter : outer.optional read name = some b) :
    common? outer (j.given row) read name = some b := by
  have hvalue : (j.given row).value? name = none := by
    rw [Job.given, Given.value?_ofOptions]
    exact lookup_eq_none (hrow.common_notMem hname)
  have hinner : (j.given row).optional read name = some none := by rw [Given.optional, hvalue]
  simp only [common?, houter, hinner, Option.bind_eq_bind, Option.bind_some, Option.pure_def, Option.none_or]

/-- An invocation for a layout is read back from the words that spell it. -/
theorem ofWords?_words (hrequest : inv.request = .layout j) (hcenter : j.center = .axes word)
    (hfront : inv.Spelled front) (hinv : inv.Sayable) (hrow : j.Spelled word row) (hsayable : j.Sayable) :
    ofWords? (front.map written ++ j.words row) = some inv := by
  have hhelp : (j.given row).has "help" = false := by
    rw [Bool.eq_false_iff, ne_eq, Job.given, Given.has_ofOptions]
    exact hrow.common_notMem (by decide)
  have hformat : common? (.ofOptions front []) (j.given row) OutputFormat.ofText? "format" = some inv.format := by
    refine common?_given hrow (by decide) ?_
    have hvalue : (Given.ofOptions front []).value? "format" = inv.format.map OutputFormat.name :=
      hfront.value (by simp [texts])
    refine Given.optional_of_value hvalue fun f _ => ?_
    cases f <;> decide +kernel
  have hprecision : common? (.ofOptions front []) (j.given row) count? "precision" = some inv.precision := by
    refine common?_given hrow (by decide) ?_
    have hvalue : (Given.ofOptions front []).value? "precision" = inv.precision.map Numeral.ofCount :=
      hfront.value (by simp [texts])
    exact Given.optional_of_value hvalue fun n hn => count?_ofCount (hinv.precision n hn)
  have hconfig : common? (.ofOptions front []) (j.given row) path? "config" = some inv.config := by
    refine common?_given hrow (by decide) ?_
    have hvalue : (Given.ofOptions front []).value? "config" = inv.config.map id :=
      (hfront.value (by simp [texts])).trans Option.map_id_apply.symm
    refine Given.optional_of_value hvalue fun path hpath => ?_
    rw [id, path?, hinv.config path hpath]
    rfl
  have hread := Job.request?_given hrow hcenter hsayable
  rw [← hrequest] at hread
  exact ofWords?_eq_some.mpr ⟨_, _, _, _, _, _, hfront.read_preamble j.kind _, j.kind.ofName?_verb,
    hrow.read_words hsayable.length_operands, by rw [hfront.help_notGiven, hhelp]; rfl, hformat, hprecision, hconfig,
    hread⟩

/-- A request for a layout prints the one report on it, or fails as the layout does. -/
theorem run_layout {view : View} {env : Environment} {config : Config} (hrequest : inv.request = .layout j)
    (hsettings : inv.settings view env = .ok config) (colour : Bool) :
    inv.run view env colour =
      (j.run.mapError (.request j.kind)).map fun output =>
        Report.print config colour [⟨j.kind.name, j.kind.name, output⟩] := by
  rw [run, hsettings, hrequest]
  show runLayout j >>= _ = _
  rw [runLayout]
  cases j.run <;> rfl

end Invocation

/-- The words that spell a job compute that job. If it succeeds, the command prints its output in one report
under the name of its kind; if it fails, the command prints nothing and complains of just that failure. -/
theorem command_runs_spelled_job {inv : Invocation} {j : Job Float} {word : String} {front row : List (String × String)}
    {view : View} {env : Environment} {config : Config} (hrequest : inv.request = .layout j)
    (hcenter : j.center = .axes word) (hfront : inv.Spelled front) (hinv : inv.Sayable) (hrow : j.Spelled word row)
    (hsayable : j.Sayable) (hsettings : inv.settings view env = .ok config) (colour : Bool) :
    (∀ output, j.run = .ok output →
      (Outcome.ofWords (front.map written ++ j.words row) view env colour).status = 0 ∧
        (Outcome.ofWords (front.map written ++ j.words row) view env colour).stdout =
          Report.print config colour [⟨j.kind.name, j.kind.name, output⟩]) ∧
    ∀ error, j.run = .error error →
      (Outcome.ofWords (front.map written ++ j.words row) view env colour).status = 1 ∧
        (Outcome.ofWords (front.map written ++ j.words row) view env colour).stdout = "" ∧
        ∃ failure, Outcome.ofWords (front.map written ++ j.words row) view env colour = .failed failure ∧
          failure.message = j.kind.name ++ " failed: " ++ error.message := by
  have hwords := Invocation.ofWords?_words hrequest hcenter hfront hinv hrow hsayable
  have hrun := Invocation.run_layout hrequest hsettings colour
  constructor
  · intro output houtput
    have houtcome : Outcome.ofWords (front.map written ++ j.words row) view env colour =
        .printed (Report.print config colour [⟨j.kind.name, j.kind.name, output⟩]) := by
      rw [Outcome.ofWords_eq_printed hwords, hrun, houtput]
      rfl
    rw [houtcome]
    exact ⟨rfl, rfl⟩
  · intro error herror
    have houtcome : Outcome.ofWords (front.map written ++ j.words row) view env colour =
        .failed (.request j.kind error) := by
      rw [Outcome.ofWords_eq_failed hwords, hrun, herror]
      rfl
    rw [houtcome]
    exact ⟨rfl, rfl, _, rfl, by simp [Failure.message, Failure.because, String.append_assoc]⟩

/-- Planks, two by three, over a floor whose ends along X are given backwards. -/
def planks (word : String) : Job Float := .stretch
  { x := { size := .range 6 (-2), count := some 2, spacing := 0 }
    y := { size := .size 3, minTile := some 0.5, maxTile := some 1.25, spacing := 0.25 }
    center := .axes word }

/-- The options of the planks in no order, without the spacing along X. -/
def planksRow (word : String) : List (String × String) :=
  [("size-y", "3"), ("min-y", "0.5"), ("center", word), ("max-y", "1.25"), ("size-x", "6,-2"), ("count-x", "2"),
    ("spacing-y", "0.25")]

/-- Centered along Y the planks are laid; centered along Z, which no floor has, they are complained of. -/
theorem stretch_job_run_by_words :
    let inv (word : String) : Invocation := { precision := some 1, request := .layout (planks word) }
    let bare : View := ⟨fun _ => .error .notFound, fun _ => false⟩
    (∀ word ∈ ["yY", "Z"], (planks word).center = .axes word ∧ (inv word).Spelled [("precision", "1")] ∧
      (inv word).Sayable ∧ (planks word).Spelled word (planksRow word) ∧ (planks word).Sayable ∧
      (inv word).settings bare {} = .ok ⟨.table, 1⟩) ∧
    (∃ output, (planks "yY").run = .ok output ∧ output.size = 6 ∧
      (Outcome.ofWords ["--precision=1", "stretch", "--size-y=3", "--min-y=0.5", "--center=yY", "--max-y=1.25",
          "--size-x=6,-2", "--count-x=2", "--spacing-y=0.25"] bare {} false).stdout =
        Report.print ⟨.table, 1⟩ false [⟨"stretch", "stretch", output⟩]) ∧
    ∃ failure, Outcome.ofWords ["--precision=1", "stretch", "--size-y=3", "--min-y=0.5", "--center=Z", "--max-y=1.25",
          "--size-x=6,-2", "--count-x=2", "--spacing-y=0.25"] bare {} false = .failed failure ∧
      failure.message =
        "stretch failed: invalid center specification \"Z\": expected a bool or a combination of XY" := by
  intro inv bare
  have hgood : ∀ word ∈ ["yY", "Z"], (planks word).center = .axes word ∧ (inv word).Spelled [("precision", "1")] ∧
      (inv word).Sayable ∧ (planks word).Spelled word (planksRow word) ∧ (planks word).Sayable ∧
      (inv word).settings bare {} = .ok ⟨.table, 1⟩ := by
    intro word hword
    have hfront : [("precision", "1")] = present (inv word).texts := rfl
    have hrow : ∀ word ∈ ["yY", "Z"],
        (planksRow word ++ [("spacing-x", "0")]).Perm (present ((planks word).texts word)) := by decide +kernel
    have hcounts : ∀ word ∈ ["yY", "Z"], ∀ n ∈ (planks word).counts, n < CountLiteral.bound := by decide +kernel
    have hlengths : ∀ word ∈ ["yY", "Z"], ∀ x ∈ (planks word).lengths, Numeral.ReadsBack x := by decide +kernel
    refine ⟨rfl, .of_eq hfront, ⟨by simp [inv]; decide, by simp [inv]⟩, ⟨_, hrow word hword, ?_⟩,
      ⟨hcounts word hword, hlengths word hword, fun d h => by cases h⟩, rfl⟩
    intro option hoption
    rw [List.mem_singleton.mp hoption]
    show ("spacing-x", "0") ∈ Kind.stretch.spareOptions
    decide +kernel
  refine ⟨hgood, ?_, ?_⟩
  · obtain ⟨hcenter, hfront, hinv, hrow, hsayable, hsettings⟩ := hgood "yY" (by simp)
    have hsize : (planks "yY").run.toOption.map Output.size = some 6 := by decide +kernel
    cases hrun : (planks "yY").run with
    | error e => rw [hrun] at hsize; cases hsize
    | ok output =>
      rw [hrun] at hsize
      refine ⟨output, rfl, Option.some.inj hsize, ?_⟩
      exact ((command_runs_spelled_job rfl hcenter hfront hinv hrow hsayable hsettings false).1 output hrun).2
  · obtain ⟨hcenter, hfront, hinv, hrow, hsayable, hsettings⟩ := hgood "Z" (by simp)
    have hrun : (planks "Z").run = .error (.invalidCenter "Z" .two) := by rfl
    obtain ⟨-, -, failure, hfailed, hmessage⟩ :=
      (command_runs_spelled_job rfl hcenter hfront hinv hrow hsayable hsettings false).2 _ hrun
    exact ⟨failure, hfailed, hmessage.trans (by decide +kernel)⟩

end SketchLayout
