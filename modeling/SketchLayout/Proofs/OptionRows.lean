import Mathlib.Data.List.Nodup
import Mathlib.Data.List.Perm.Basic
import SketchLayout.Command.Words

/-!
# Rows of options

A row of options, each written in one word with its value behind an equals sign, is read as these
options (`readFrom_written`), and words behind two lone hyphens are read as they are
(`readFrom_literal`). What is then found under a name does not depend on the order of the row
(`lookup_there`), so fields that were written as a row are found again one by one (`value_there`).
-/

namespace SketchLayout.Command

/-! ## Values by name -/

section Lookup

variable {β : Type}

theorem lookup_eq_none {name : String} {items : List (String × β)} (h : name ∉ items.map Prod.fst) :
    items.lookup name = none := by
  rw [List.lookup_eq_none_iff]
  intro item hitem
  have hne : name ≠ item.1 := by
    rintro rfl
    exact h (List.mem_map_of_mem hitem)
  simpa using hne

/-- An item whose name does not repeat is found under its name. -/
theorem lookup_of_mem {items : List (String × β)} (hnodup : (items.map Prod.fst).Nodup) {item : String × β}
    (h : item ∈ items) : items.lookup item.1 = some item.2 := by
  induction items with
  | nil => cases h
  | cons first items ih =>
    rw [List.map_cons, List.nodup_cons] at hnodup
    rcases List.mem_cons.mp h with rfl | h
    · rw [List.lookup_cons, BEq.rfl]
    · have hne : item.1 ≠ first.1 := fun heq => hnodup.1 (heq ▸ List.mem_map_of_mem h)
      have hbeq : (item.1 == first.1) = false := by simpa using hne
      rw [List.lookup_cons, hbeq]
      exact ih hnodup.2 h

section Left

variable {items there left : List (String × β)} (hnodup : (items.map Prod.fst).Nodup)
  (hperm : (there ++ left).Perm items)
include hperm

theorem notMem_there {name : String} (h : name ∉ items.map Prod.fst) : name ∉ there.map Prod.fst := by
  intro hmem
  exact h ((hperm.map Prod.fst).subset (by simpa using .inl (by simpa using hmem)))

include hnodup

/-- An item is found under its name, unless it was left out, and then nothing is. -/
theorem lookup_there {item : String × β} (h : item ∈ items) :
    there.lookup item.1 = some item.2 ∨ item ∈ left ∧ there.lookup item.1 = none := by
  have hboth : ((there ++ left).map Prod.fst).Nodup := (hperm.map Prod.fst).nodup_iff.mpr hnodup
  rw [List.map_append, List.nodup_append] at hboth
  obtain ⟨hthere, -, hapart⟩ := hboth
  rcases List.mem_append.mp (hperm.symm.subset h) with hin | hout
  · exact .inl (lookup_of_mem hthere hin)
  · refine .inr ⟨hout, lookup_eq_none fun hin => ?_⟩
    exact hapart _ hin _ (List.mem_map_of_mem hout) rfl

theorem nodup_there : (there.map Prod.fst).Nodup := by
  have hboth : ((there ++ left).map Prod.fst).Nodup := (hperm.map Prod.fst).nodup_iff.mpr hnodup
  rw [List.map_append, List.nodup_append] at hboth
  exact hboth.1

end Left

end Lookup

/-! ## Fields with and without texts -/

/-- The options among fields that have a text. -/
def present (fields : List (String × Option String)) : List (String × String) :=
  fields.filterMap fun field => field.2.map (field.1, ·)

theorem mem_present {fields : List (String × Option String)} {option : String × String} :
    option ∈ present fields ↔ (option.1, some option.2) ∈ fields := by
  simp only [present, List.mem_filterMap, Option.map_eq_some_iff]
  constructor
  · rintro ⟨⟨name, text⟩, hfield, value, rfl, rfl⟩
    exact hfield
  · intro h
    exact ⟨_, h, option.2, rfl, rfl⟩

theorem sublist_present (fields : List (String × Option String)) :
    ((present fields).map Prod.fst).Sublist (fields.map Prod.fst) := by
  induction fields with
  | nil => exact List.Sublist.slnil
  | cons field fields ih =>
    obtain ⟨name, text⟩ := field
    cases text with
    | none => exact ih.cons name
    | some text => exact ih.cons_cons name

/-- A field is found under its name with its text, unless its option was left out, and then nothing is. -/
theorem value_there {fields : List (String × Option String)} {there left : List (String × String)}
    (hnodup : (fields.map Prod.fst).Nodup) (hperm : (there ++ left).Perm (present fields))
    {field : String × Option String} (h : field ∈ fields) :
    there.lookup field.1 = field.2 ∨
      ∃ text, field.2 = some text ∧ (field.1, text) ∈ left ∧ there.lookup field.1 = none := by
  have hoptions := (sublist_present fields).nodup hnodup
  obtain ⟨name, text⟩ := field
  cases text with
  | some text =>
    have hoption : (name, text) ∈ present fields := mem_present.mpr h
    rcases lookup_there hoptions hperm hoption with hthere | ⟨hleft, hnone⟩
    · exact .inl hthere
    · exact .inr ⟨text, rfl, hleft, hnone⟩
  | none =>
    refine .inl (lookup_eq_none (notMem_there hperm fun hmem => ?_))
    -- the name would stand for two fields
    obtain ⟨option, hoption, hname⟩ := List.mem_map.mp hmem
    have hsame := List.inj_on_of_nodup_map hnodup (mem_present.mp hoption) h hname
    cases hsame

/-! ## Given options -/

/-- Options that were given with values, and operands. -/
def Given.ofOptions (options : List (String × String)) (operands : List String) : Given :=
  ⟨options.map fun o => (o.1, some o.2), operands⟩

theorem Given.value?_ofOptions (options : List (String × String)) (operands : List String) (name : String) :
    (ofOptions options operands).value? name = options.lookup name := by
  show ((options.map fun o => (o.1, some o.2)).lookup name).join = options.lookup name
  induction options with
  | nil => rfl
  | cons o options ih =>
    rw [List.map_cons, List.lookup_cons, List.lookup_cons]
    cases name == o.1 with
    | true => rfl
    | false => exact ih

theorem Given.has_ofOptions (options : List (String × String)) (operands : List String) (name : String) :
    (ofOptions options operands).has name = true ↔ name ∈ options.map Prod.fst := by
  simp [has, ofOptions]

/-! ## Rows as they are read -/

/-- An option in one word, with its value behind an equals sign. -/
def written (option : String × String) : String := "--" ++ option.1 ++ "=" ++ option.2

theorem toList_written (option : String × String) :
    (written option).toList = '-' :: '-' :: (option.1.toList ++ '=' :: option.2.toList) := by
  simp only [written, String.toList_append, List.append_assoc]
  rfl

/-- Whether a form knows an option that takes a value under a name that may stand in a word. -/
structure Form.Takes (form : Form) (name : String) : Prop where
  named : ∃ switch, form.named? name = some switch ∧ switch.name = name ∧ switch.valued = true
  ne_empty : name.toList ≠ []
  plain : ∀ c ∈ name.toList, (c != '=') = true

namespace Form

variable {form : Form}

/-- An option in one word is added to what was given. -/
theorem step_written {g : Given} (hoperands : g.operands = []) {option : String × String}
    (htakes : form.Takes option.1) :
    form.step { given := g } (written option) =
      (g.add? option.1 (some option.2)).map fun g' => { given := g' } := by
  obtain ⟨switch, hnamed, hname, hvalued⟩ := htakes.named
  have hanything : form.takesAnything { given := g } = false := by simp [takesAnything, hoperands]
  have htake : (option.1.toList ++ '=' :: option.2.toList).takeWhile (· != '=') = option.1.toList := by
    rw [List.takeWhile_append_of_pos htakes.plain]
    simp
  have hdrop : (option.1.toList ++ '=' :: option.2.toList).dropWhile (· != '=') = '=' :: option.2.toList := by
    rw [List.dropWhile_append_of_pos htakes.plain]
    rfl
  have hsome : option.1.toList.isEmpty = false := by simpa using htakes.ne_empty
  have hstep : form.step { given := g } (written option) =
      form.takeName { given := g } (written option) (option.1.toList ++ '=' :: option.2.toList) := by
    simp only [step, hanything, Bool.or_self, Bool.false_eq_true, if_false, toList_written]
    -- two hyphens alone are another word than two hyphens with a name
    split
    case h_1 heq => simp at heq
    case h_2 heq => simp only [List.cons.injEq, true_and] at heq; rw [heq]
    case h_3 h heq => exact absurd heq.symm (by simp_all)
    case h_4 h _ => simp at h
  rw [hstep]
  simp only [takeName, htake, hdrop, hsome, Bool.false_eq_true, if_false, String.ofList_toList, hnamed, takeSwitch,
    hvalued, hname]
  cases g.add? option.1 (some option.2) <;> rfl

/-- A row of options in one word each is read one by one, whatever follows. -/
theorem readFrom_written (hends : ∀ o, written o ∉ form.ends) (rest : List String) :
    ∀ (options : List (String × String)) (g : Given), g.operands = [] → (∀ o ∈ options, form.Takes o.1) →
      (g.options.map Prod.fst ++ options.map Prod.fst).Nodup →
      form.readFrom { given := g } (options.map written ++ rest) =
        form.readFrom { given := { g with options := g.options ++ options.map fun o => (o.1, some o.2) } } rest
  | [], g, _, _, _ => by simp
  | o :: options, g, hoperands, htakes, hnodup => by
    have hfresh : g.has o.1 = false := by
      rw [List.nodup_append] at hnodup
      simp only [Given.has, List.any_eq_false, beq_iff_eq]
      intro given hgiven heq
      exact hnodup.2.2 _ (List.mem_map_of_mem hgiven) o.1 (by simp) heq
    have hadd : g.add? o.1 (some o.2) = some { g with options := g.options ++ [(o.1, some o.2)] } := by
      simp [Given.add?, hfresh]
    have hend : form.isEnd { given := g } (written o) = false := by simpa [isEnd] using hends o
    have hnext := readFrom_written hends rest options { g with options := g.options ++ [(o.1, some o.2)] } hoperands
      (fun o' ho' => htakes o' (List.mem_cons_of_mem o ho')) (by simpa using hnodup)
    simp only [List.append_assoc, List.singleton_append] at hnext
    rw [List.map_cons, List.cons_append, readFrom, hend, step_written hoperands (htakes o (by simp)), hadd]
    simpa using hnext

/-- Behind two lone hyphens words are operands as they are, up to as many as the form takes. -/
theorem readFrom_literal (hends : form.ends = []) :
    ∀ (words : List String) (g : Given), g.operands.length + words.length ≤ form.operands →
      form.readFrom { given := g, literal := true } words = some ({ g with operands := g.operands ++ words }, [])
  | [], g, _ => by simp [readFrom]
  | word :: words, g, hroom => by
    rw [List.length_cons] at hroom
    have hlt : g.operands.length < form.operands := by omega
    have hend : form.isEnd { given := g, literal := true } word = false := by simp [isEnd]
    have hstep : form.step { given := g, literal := true } word =
        some { given := { g with operands := g.operands ++ [word] }, literal := true } := by
      simp [step, takeWord, hlt]
    have hnext := readFrom_literal hends words { g with operands := g.operands ++ [word] } (by
      rw [List.length_append, List.length_singleton]
      omega)
    rw [readFrom, hend, hstep]
    simpa using hnext

/-- Two lone hyphens turn to operands. -/
theorem readFrom_hyphens (hends : form.ends = []) {g : Given} (hoperands : g.operands = []) (words : List String) :
    form.readFrom { given := g } ("--" :: words) = form.readFrom { given := g, literal := true } words := by
  have hanything : form.takesAnything { given := g } = false := by simp [takesAnything, hoperands]
  have hend : form.isEnd { given := g } "--" = false := by simp [isEnd, hends]
  have hstep : form.step { given := g } "--" = some { given := g, literal := true } := by
    simp only [step, hanything, Bool.or_self, Bool.false_eq_true, if_false]
    rfl
  rw [readFrom, hend, hstep]
  rfl

end Form

end SketchLayout.Command
