import SketchLayout.Proofs.Layers
import SketchLayout.Proofs.TomlLines

/-!
# A configuration is saved and read back

Saving makes the text of a configuration first and touches the file afterwards. So a precision that TOML has
no integer for is a failure that leaves every file alone, and any other configuration, written to a path that
takes a file, is what the path gives from then on, whatever stood there before (`Config.saved_or_untouched`).
Which paths take a file is `Files.takes_iff`: they may start at the root or in the working directory and go up
and down between, as long as each directory on the way is there.

The two halves of that are laws of their own. A file that was written is read back, since the way to it leads
through directories only, and writing neither makes nor replaces one (`Files.Takes.read_put`). The text of a
configuration is a line for each setting, which a reader of TOML gives back (`Config.ofText?_toText`).
-/

namespace SketchLayout

/-! ## Writing and reading one file -/

namespace Files

variable {files : Files} {path : String} {place : Place}

/-- Only directories are entered. -/
theorem directory_of_step {part : String} {next : Place} (h : files.step place part = .ok next) :
    files.at? place = some .directory := by
  unfold step at h
  split at h
  · cases h
  · assumption
  · cases h

/-- A way through directories is not changed by an entry at a place that was none. -/
theorem walk_put (hplace : files.at? place ≠ some .directory) (entry : Entry) {parts : List String} {first last : Place}
    (h : parts.foldlM files.step first = .ok last) : parts.foldlM (files.put place entry).step first = .ok last := by
  induction parts generalizing first with
  | nil => exact h
  | cons part parts ih =>
    rw [List.foldlM_cons] at h ⊢
    cases hstep : files.step first part with
    | error fault =>
      rw [hstep] at h
      cases h
    | ok next =>
      have hfirst : files.at? first = some .directory := directory_of_step hstep
      have hne : first ≠ place := by
        rintro rfl
        exact hplace hfirst
      have hsame : (files.put place entry).step first part = .ok next := by
        rw [← hstep, step, step, at?_put_of_ne files hne]
      rw [hstep] at h
      rw [hsame]
      exact ih h

theorem checkedPath_eq_ok :
    checkedPath path = .ok () ↔
      path.contains '\x00' = false ∧ path.isEmpty = false ∧ path.utf8ByteSize ≤ pathLimit := by
  unfold checkedPath
  cases path.contains '\x00' with
  | true => simp
  | false =>
    cases path.isEmpty with
    | true => simp
    | false =>
      by_cases hlimit : pathLimit < path.utf8ByteSize
      · simp [hlimit]
      · simp [hlimit, Nat.le_of_not_lt hlimit]

theorem locate_eq_ok :
    files.locate path = .ok place ↔
      checkedPath path = .ok () ∧ (Path.parts path).foldlM files.step (files.start path) = .ok place := by
  unfold locate
  cases checkedPath path with
  | error fault => exact ⟨fun h => (nomatch h), fun h => (nomatch h.1)⟩
  | ok u => exact ⟨fun h => ⟨rfl, h⟩, fun h => h.2⟩

/-- Whether a path leads to a place where a file can be made or replaced. -/
structure Takes (files : Files) (path : String) (place : Place) : Prop where
  leads : files.locate path = .ok place
  noDirectory : files.at? place ≠ some .directory
  noSlash : path.endsWith "/" = false

/-- Whether a path takes a file, whatever its text (`writable_iff`). -/
def Writable (files : Files) (path : String) : Prop := ∃ place, files.Takes path place

/-- Which paths take a file: the parts lead through directories, to a place that is none. -/
theorem takes_iff :
    files.Takes path place ↔
      path.contains '\x00' = false ∧ (Path.parts path).foldlM files.step (files.start path) = .ok place ∧
        path.isEmpty = false ∧ path.endsWith "/" = false ∧ path.utf8ByteSize ≤ pathLimit ∧
        files.at? place ≠ some .directory := by
  constructor
  · rintro ⟨hleads, hdirectory, hslash⟩
    obtain ⟨hchecked, hwalk⟩ := locate_eq_ok.mp hleads
    obtain ⟨hzero, hnamed, hlimit⟩ := checkedPath_eq_ok.mp hchecked
    exact ⟨hzero, hwalk, hnamed, hslash, hlimit, hdirectory⟩
  · rintro ⟨hzero, hwalk, hnamed, hslash, hlimit, hdirectory⟩
    exact ⟨locate_eq_ok.mpr ⟨checkedPath_eq_ok.mpr ⟨hzero, hnamed, hlimit⟩, hwalk⟩, hdirectory, hslash⟩

theorem endsWith_slash : path.endsWith "/" = true ↔ path.toList.reverse.head? = some '/' := by
  rw [String.endsWith_eq_endsWith_toSlice, String.Slice.endsWith_string_iff, String.copy_toSlice,
    List.head?_reverse, List.getLast?_eq_some_iff]
  constructor
  · rintro ⟨front, hfront⟩
    exact ⟨front, hfront.symm⟩
  · rintro ⟨front, hfront⟩
    exact ⟨front, hfront.symm⟩

/-- Only slashes at the end of a path are stripped. -/
theorem unslashed_eq_self (h : path.endsWith "/" = false) : Path.unslashed path = path := by
  have hkeep : path.toList.reverse.dropWhile (· == '/') = path.toList.reverse := by
    cases hback : path.toList.reverse with
    | nil => rfl
    | cons c back =>
      have hc : c ≠ '/' := by
        rintro rfl
        have hslash : path.endsWith "/" = true := endsWith_slash.mpr (by rw [hback]; rfl)
        rw [hslash] at h
        cases h
      exact List.dropWhile_cons_of_neg (by simpa using hc)
  rw [Path.unslashed, hkeep, List.reverse_reverse, String.ofList_toList]

/-- What writing does: it puts the text at a place that takes a file, and at no other. -/
theorem write_eq_ok {content : String} {after : Files} :
    files.write path content = .ok after ↔
      ∃ place, files.Takes path place ∧ after = files.put place (.text content) := by
  unfold write
  simp only [bind_eq_ok]
  constructor
  · rintro ⟨_, hchecked, place, hwalk, hwritten⟩
    split at hwritten
    · cases hwritten
    · rename_i hdirectory
      cases hslash : path.endsWith "/" with
      | true =>
        rw [hslash] at hwritten
        cases hwritten
      | false =>
        rw [hslash] at hwritten
        cases hwritten
        rw [unslashed_eq_self hslash] at hwalk
        exact ⟨place, ⟨locate_eq_ok.mpr ⟨hchecked, hwalk⟩, hdirectory, hslash⟩, rfl⟩
  · rintro ⟨place, htakes, rfl⟩
    obtain ⟨hchecked, hwalk⟩ := locate_eq_ok.mp htakes.leads
    refine ⟨(), hchecked, place, by rw [unslashed_eq_self htakes.noSlash]; exact hwalk, ?_⟩
    split
    · rename_i hdirectory
      exact absurd hdirectory htakes.noDirectory
    · rw [htakes.noSlash]
      rfl

theorem writable_iff (content : String) : files.Writable path ↔ ∃ after, files.write path content = .ok after := by
  constructor
  · rintro ⟨place, htakes⟩
    exact ⟨_, write_eq_ok.mpr ⟨place, htakes, rfl⟩⟩
  · rintro ⟨after, hwritten⟩
    obtain ⟨place, htakes, -⟩ := write_eq_ok.mp hwritten
    exact ⟨place, htakes⟩

namespace Takes

variable (h : files.Takes path place)
include h

theorem locate_put (entry : Entry) : (files.put place entry).locate path = .ok place := by
  obtain ⟨hchecked, hwalk⟩ := locate_eq_ok.mp h.leads
  exact locate_eq_ok.mpr ⟨hchecked, walk_put h.noDirectory entry hwalk⟩

/-- **A text that was written is read back**, whatever stood at its place. -/
theorem read_put (content : String) : (files.put place (.text content)).read path = .ok content := by
  have hne : place ≠ [] := by
    rintro rfl
    exact h.noDirectory rfl
  have hthere : (files.put place (.text content)).at? place = some (.text content) := at?_put files hne _
  rw [read, h.locate_put, ok_bind, hthere]

end Takes

end Files

/-! ## The text of a configuration -/

namespace Config

variable {config : Config}

theorem bare_format : Toml.Bare "format" := ⟨by decide, by rw [← List.all_eq_true]; decide⟩

theorem bare_precision : Toml.Bare "precision" := ⟨by decide, by rw [← List.all_eq_true]; decide⟩

theorem isPlain_name (f : OutputFormat) : f.name.toList.all Toml.isPlain = true := by cases f <;> decide

/-- The lines of a configuration's text. -/
def settings (config : Config) (h : config.precision < 0x8000000000000000) : List Toml.Setting :=
  [⟨"format", .text (String.ofList config.format.name.toList), _, bare_format,
      Toml.endsLine_quoted (isPlain_name config.format)⟩,
    ⟨"precision", .ofCount config.precision, _, bare_precision, Toml.endsLine_count h⟩]

theorem toText?_eq (h : config.precision < 0x8000000000000000) :
    config.toText? = some (String.ofList ((config.settings h).flatMap Toml.Setting.line)) := by
  have hformat : "format = \"".toList = "format".toList ++ [' ', '=', ' ', '"'] := by decide
  have hprecision : "\"\nprecision = ".toList = ['"', '\n'] ++ "precision".toList ++ [' ', '=', ' '] := by decide
  have hend : "\n".toList = ['\n'] := by decide
  rw [toText?, if_pos h, Option.some.injEq, ← String.toList_inj]
  simp only [settings, Toml.Setting.line, String.toList_append, String.toList_ofList, hformat, hprecision, hend,
    List.flatMap_cons, List.flatMap_nil, List.append_assoc, List.cons_append, List.nil_append, List.append_nil]

/-- A document with both columns names every field, so none keeps its default. -/
theorem ofDocument?_of_columns {dialect : Dialect} {d format precision : Document}
    (hcolumns : d.columns? columns = some [some format, some precision])
    (hformat : OutputFormat.ofDocument? dialect format = some config.format)
    (hprecision : precision.toCount? = some config.precision) : ofDocument? dialect d = some config := by
  rw [ofDocument?, hcolumns]
  simp [Column.defaulted, hformat, hprecision]

/-- **The text of a configuration spells the configuration.** -/
theorem ofText?_toText (h : config.precision < 0x8000000000000000) :
    ofText? (String.ofList ((config.settings h).flatMap Toml.Setting.line)) = some config := by
  have hnodup : ((config.settings h).map Toml.Setting.name).Nodup := by
    show ["format", "precision"].Nodup
    decide
  have hread := Toml.read?_settings hnodup
  have hcolumns : (Document.object ((config.settings h).map fun s => (s.name, s.value))).columns? columns =
      some [some (.text config.format.name), some (.ofCount config.precision)] := by
    simp [settings, Document.columns?, columns, Document.values]
  have hprecision : (Document.ofCount config.precision).toCount? = some config.precision :=
    toCount?_ofCount (by omega)
  rw [ofText?, hread, Option.bind_some]
  exact ofDocument?_of_columns hcolumns (OutputFormat.ofName?_name config.format) hprecision

/-- A precision of at most sixty-three bits has a text that spells the configuration, a greater one has none. -/
theorem toText?_cases (config : Config) :
    (config.precision ≤ 0x7fffffffffffffff ∧ ∃ text, config.toText? = some text ∧ ofText? text = some config) ∨
      (0x7fffffffffffffff < config.precision ∧ config.toText? = none) := by
  by_cases h : config.precision < 0x8000000000000000
  · exact .inl ⟨Nat.le_of_lt_succ h, _, toText?_eq h, ofText?_toText h⟩
  · exact .inr ⟨Nat.not_lt.mp h, if_neg h⟩

/-! ## Saving -/

/-- What saving does: the text comes first, and only then is the file written. -/
theorem saving_run (config : Config) (files : Files) (path : String) :
    (config.saving path).run files =
      match config.toText? with
      | none => (.error .configUnspeakable, files)
      | some text =>
        match files.write path text with
        | .ok after => (.ok (), after)
        | .error fault => (.error (.configUnwritable path fault), files) := by
  unfold saving
  cases config.toText? with
  | none => rfl
  | some text =>
    show (match files.write path text with
      | .ok after => set after
      | .error fault => throw (.configUnwritable path fault) : ExceptT Failure (StateM Files) Unit).run files =
        match files.write path text with
        | .ok after => (.ok (), after)
        | .error fault => (.error (.configUnwritable path fault), files)
    cases files.write path text <;> rfl

/-- **A configuration is saved whole or not at all.** A precision of at most sixty-three bits is saved on every
path that takes a file, and then read back from there with the format, whatever the file held before. Any
greater precision is a failure that leaves all files as they were, so the path gives what it gave. -/
theorem saved_or_untouched (config : Config) (files : Files) {path : String} (h : files.Writable path) :
    (config.precision ≤ 0x7fffffffffffffff →
      ∃ after, (config.saving path).run files = (.ok (), after) ∧ ofFile after.view path = .ok config) ∧
    (0x7fffffffffffffff < config.precision →
      ∃ after, (config.saving path).run files = (.error .configUnspeakable, after) ∧ after = files ∧
        ofFile after.view path = ofFile files.view path) := by
  obtain ⟨place, htakes⟩ := h
  rw [saving_run]
  rcases config.toText?_cases with ⟨hprecision, text, htext, hread⟩ | ⟨hprecision, htext⟩
  · refine ⟨fun _ => ?_, fun hlarge => absurd hprecision (Nat.not_le.mpr hlarge)⟩
    have hwritten : files.write path text = .ok (files.put place (.text text)) :=
      Files.write_eq_ok.mpr ⟨place, htakes, rfl⟩
    have hthere : (files.put place (.text text)).view.read path = .ok text := htakes.read_put text
    exact ⟨files.put place (.text text), by simp only [htext, hwritten], by simp only [ofFile, hthere, hread]⟩
  · refine ⟨fun hsmall => absurd hprecision (Nat.not_lt.mpr hsmall), fun _ => ?_⟩
    exact ⟨files, by rw [htext], rfl, rfl⟩

/-- A directory with one file in it, two directories below the root, where paths start. -/
def studio : Files where
  entries := [(["srv"], .directory), (["srv", "studio"], .directory),
    (["srv", "studio", "layout.toml"], .text "precision = 9\n")]
  work := ["srv", "studio"]

/-- The file that is there is replaced by way of the root, one is made beside the directory, and a precision of
sixty-four bits makes none. -/
theorem saved_on_absolute_and_parent_paths :
    (studio.Writable "/srv/studio/layout.toml" ∧ studio.Writable "../spare.toml" ∧ studio.Writable "layout.toml") ∧
    (∃ after, ((⟨.json, 2⟩ : Config).saving "/srv/studio/layout.toml").run studio = (.ok (), after) ∧
      ofFile after.view "/srv/studio/layout.toml" = .ok ⟨.json, 2⟩) ∧
    (∃ after, ((⟨.json, 2⟩ : Config).saving "../spare.toml").run studio = (.ok (), after) ∧
      ofFile after.view "../spare.toml" = .ok ⟨.json, 2⟩) ∧
    ∃ after, ((⟨.json, 0x8000000000000000⟩ : Config).saving "layout.toml").run studio =
        (.error .configUnspeakable, after) ∧ after = studio ∧
      ofFile after.view "layout.toml" = ofFile studio.view "layout.toml" := by
  have habsolute : studio.Takes "/srv/studio/layout.toml" ["srv", "studio", "layout.toml"] :=
    Files.takes_iff.mpr ⟨by simp, eq_ok_of_toOption (by decide +kernel), by decide +kernel⟩
  have hparent : studio.Takes "../spare.toml" ["srv", "spare.toml"] :=
    Files.takes_iff.mpr ⟨by simp, eq_ok_of_toOption (by decide +kernel), by decide +kernel⟩
  have hrelative : studio.Takes "layout.toml" ["srv", "studio", "layout.toml"] :=
    Files.takes_iff.mpr ⟨by simp, eq_ok_of_toOption (by decide +kernel), by decide +kernel⟩
  exact ⟨⟨⟨_, habsolute⟩, ⟨_, hparent⟩, ⟨_, hrelative⟩⟩,
    (saved_or_untouched ⟨.json, 2⟩ studio ⟨_, habsolute⟩).1 (by decide),
    (saved_or_untouched ⟨.json, 2⟩ studio ⟨_, hparent⟩).1 (by decide),
    (saved_or_untouched ⟨.json, 0x8000000000000000⟩ studio ⟨_, hrelative⟩).2 (by decide)⟩

end Config

end SketchLayout
