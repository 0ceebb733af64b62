import Mathlib.Data.List.Forall2
import SketchLayout.Proofs.Columns

/-!
# Lengths given as whole numbers

A document may give a length as a whole number and means by it the double that the number stands for
(`Means`). A reading covers another when it gives whatever the other gives. Every reader is lenient:
reading a document covers reading what the document means. This is shown of each kind of value, then of
the columns of a record, and so it holds of requests and of named jobs (`NamedJob.ofDocument?_means`).
-/

namespace SketchLayout

open Document Column

/-! ## Meaning -/

/-- Whether one value means another: they are the same, but for whole numbers in the place of lengths. -/
inductive Document.Means : Document → Document → Prop
  | refl (d : Document) : Means d d
  | whole (n : Int) : Means (.int n) (.number (Float.ofInt n))
  | list {items items' : List Document} (h : List.Forall₂ Means items items') : Means (.list items) (.list items')

/-- Whether fields have the names of other fields, in order, with values that mean theirs. -/
def Document.FieldsMean : List (String × Document) → List (String × Document) → Prop :=
  List.Forall₂ fun field field' => field.1 = field'.1 ∧ field.2.Means field'.2

/-- Whether an object holds the given fields and nothing else: in any order, with whole numbers in the place
of lengths or not. -/
def Document.Holds (d : Document) (fields : List (String × Document)) : Prop :=
  ∃ there fields', d = .object there ∧ FieldsMean there fields' ∧ fields'.Perm fields

theorem Document.FieldsMean.refl (fields : List (String × Document)) : FieldsMean fields fields :=
  List.forall₂_same.mpr fun field _ => ⟨rfl, .refl field.2⟩

section Fields

variable {there fields : List (String × Document)}

theorem Document.FieldsMean.filter (h : FieldsMean there fields) (keep : String → Bool) :
    FieldsMean (there.filter (keep ·.1)) (fields.filter (keep ·.1)) := by
  induction h with
  | nil => exact .nil
  | @cons field field' there fields hfield _ ih =>
    rw [List.filter_cons, List.filter_cons, hfield.1]
    split
    · exact .cons hfield ih
    · exact ih

theorem Document.FieldsMean.values (h : FieldsMean there fields) (name : String) :
    List.Forall₂ Means (values name there) (values name fields) := by
  unfold Document.values
  rw [List.forall₂_map_left_iff, List.forall₂_map_right_iff]
  exact (h.filter (· == name)).imp fun _ _ hfield => hfield.2

theorem Document.FieldsMean.head? (h : FieldsMean there fields) (name : String) :
    Option.Rel Means (Document.values name there).head? (Document.values name fields).head? := by
  have hvalues := h.values name
  generalize Document.values name there = ds, Document.values name fields = ds' at hvalues
  cases hvalues with
  | nil => exact .none
  | cons hmeans _ => exact .some hmeans

theorem Document.FieldsMean.exists_of_values_eq (h : FieldsMean there fields) {name : String} {d' : Document}
    (hd' : Document.values name fields = [d']) : ∃ d, Document.values name there = [d] ∧ d.Means d' := by
  have hvalues := h.values name
  rw [hd'] at hvalues
  obtain ⟨d, ds, hmeans, hmore, hds⟩ := List.forall₂_cons_right_iff.mp hvalues
  cases hmore
  exact ⟨d, hds, hmeans⟩

end Fields

/-- What means a value that can be kept can be kept as well. -/
theorem Document.Means.readable {levels : Nat} {d d' : Document} (h : d.Means d') (hd' : d'.readable levels = true) :
    d.readable levels = true := by
  induction levels generalizing d d' with
  | zero =>
    cases h with
    | refl => exact hd'
    | whole n => rfl
    | list hitems => cases hd'
  | succ levels ih =>
    cases h with
    | refl => exact hd'
    | whole n => rfl
    | list hitems =>
      simp only [Document.readable, List.all_eq_true] at hd' ⊢
      induction hitems with
      | nil => simp
      | cons hmeans _ ihitems =>
        rw [List.forall_mem_cons] at hd' ⊢
        exact ⟨ih hmeans hd'.1, ihitems hd'.2⟩

theorem Document.Means.keeps {dialect : Dialect} {outer : Nat} {d d' : Document} (h : d.Means d')
    (hd' : dialect.keeps outer d' = true) : dialect.keeps outer d = true := by
  unfold Dialect.keeps at hd' ⊢
  split at hd'
  · rfl
  · exact h.readable hd'

/-! ## Readings that cover others -/

section Covers

variable {β γ : Type}

/-- Whether a reading gives whatever another gives. -/
def Covers (r r' : Option β) : Prop := ∀ b, r' = some b → r = some b

theorem Covers.refl (r : Option β) : Covers r r := fun _ h => h

theorem Covers.bind {r r' : Option β} {f f' : β → Option γ} (h : Covers r r') (hf : ∀ b, Covers (f b) (f' b)) :
    Covers (r.bind f) (r'.bind f') := by
  intro c hc
  obtain ⟨b, hb, hfb⟩ := Option.bind_eq_some_iff.mp hc
  exact Option.bind_eq_some_iff.mpr ⟨b, h b hb, hf b c hfb⟩

theorem Covers.map {r r' : Option β} (h : Covers r r') (f : β → γ) : Covers (r.map f) (r'.map f) := by
  intro c hc
  obtain ⟨b, hb, hfb⟩ := Option.map_eq_some_iff.mp hc
  exact Option.map_eq_some_iff.mpr ⟨b, h b hb, hfb⟩

theorem Covers.guard {r r' : Option β} {p p' : Prop} [Decidable p] [Decidable p'] (h : Covers r r') (hp : p' → p) :
    Covers (if p then r else none) (if p' then r' else none) := by
  intro b hb
  split at hb
  case isTrue hp' => rw [if_pos (hp hp'), h b hb]
  case isFalse => cases hb

/-- A reader is lenient when what it reads covers what it reads from whatever is meant (`R`). -/
structure Lenient (R : γ → γ → Prop) (read : γ → Option β) : Prop where
  covers {d d' : γ} (h : R d d') : Covers (read d) (read d')

end Covers

/-! ## Values -/

/-- A reader that takes neither doubles nor lists cannot tell a value from what it means. -/
theorem lenient_of_eq_none {β : Type} {read : Document → Option β} (hnumber : ∀ x, read (.number x) = none)
    (hlist : ∀ items, read (.list items) = none) : Lenient Means read where
  covers h := by
    cases h with
    | refl => exact .refl _
    | whole n =>
      intro b hb
      rw [hnumber] at hb
      cases hb
    | list =>
      intro b hb
      rw [hlist] at hb
      cases hb

theorem lenient_toCount? : Lenient Means toCount? := lenient_of_eq_none (fun _ => rfl) fun _ => rfl

theorem Center.lenient : Lenient Means Center.ofDocument? := lenient_of_eq_none (fun _ => rfl) fun _ => rfl

theorem Anchor.lenient (isBlank : Document → Bool) : Lenient Means (Anchor.ofDocument? isBlank) :=
  lenient_of_eq_none (fun _ => rfl) fun _ => rfl

theorem Job.lenient_kind? : Lenient Means Job.kind? := lenient_of_eq_none (fun _ => rfl) fun _ => rfl

theorem Job.lenient_numberedKind? : Lenient Means Job.numberedKind? := lenient_of_eq_none (fun _ => rfl) fun _ => rfl

theorem lenient_toFloat? : Lenient Means toFloat? where
  covers h := by
    cases h with
    | refl => exact .refl _
    | whole n => exact .refl _
    | list => exact fun b hb => nomatch hb

theorem Dimension.lenient : Lenient Means Dimension.ofDocument? where
  covers h := by
    cases h with
    | refl => exact .refl _
    | whole n => exact .refl _
    | list hitems =>
      rcases hitems with _ | ⟨hlo, _ | ⟨hhi, _ | _⟩⟩
      · exact .refl _
      · exact fun b hb => nomatch hb
      · exact (lenient_toFloat?.covers hlo).bind fun _ => (lenient_toFloat?.covers hhi).bind fun _ => .refl _
      · exact fun b hb => nomatch hb

theorem Dims.lenient_specs? : Lenient Means Dims.specs? where
  covers h := by
    cases h with
    | refl => exact .refl _
    | whole n => exact fun b hb => nomatch hb
    | list hitems =>
      show Covers (List.mapM Dimension.ofDocument? _) (List.mapM Dimension.ofDocument? _)
      induction hitems with
      | nil => exact .refl _
      | cons hmeans _ ih =>
        rw [List.mapM_cons, List.mapM_cons]
        exact (Dimension.lenient.covers hmeans).bind fun _ => ih.bind fun _ => .refl _

/-! ## Columns -/

section Column

variable {β : Type} {read : Document → Option β}

theorem Lenient.required (h : Lenient Means read) : Lenient (Option.Rel Means) (required read) where
  covers hc := by
    cases hc with
    | none => exact .refl _
    | some hmeans => exact h.covers hmeans

theorem Lenient.defaulted (h : Lenient Means read) (value : β) :
    Lenient (Option.Rel Means) (defaulted value read) where
  covers hc := by
    cases hc with
    | none => exact .refl _
    | some hmeans => exact h.covers hmeans

theorem Lenient.optional (h : Lenient Means read) : Lenient (Option.Rel Means) (optional read) where
  covers hc := by
    cases hc with
    | none => exact .refl _
    | some hmeans =>
      -- nothing but null means null, so both columns are read or neither is
      cases hmeans with
      | refl => exact .refl _
      | whole n => exact (h.covers (.whole n)).map some
      | list hitems => exact (h.covers (.list hitems)).map some

end Column

/-! ## Requests -/

section Requests

variable {β : Type} {there fields : List (String × Document)} (h : FieldsMean there fields)
include h

/-- Columns that are read by name may be read from what means them. -/
theorem Document.FieldsMean.columns? (names : List String) {f : List (Option Document) → Option β}
    (hf : Covers (f (names.map fun name => (Document.values name there).head?))
      (f (names.map fun name => (Document.values name fields).head?))) :
    Covers (((object there).columns? names).bind f) (((object fields).columns? names).bind f) := by
  have hlength : ∀ name, (Document.values name there).length = (Document.values name fields).length := fun name =>
    (h.values name).length_eq
  simp only [Document.columns?, hlength]
  split
  · exact hf
  · exact .refl _

/-- A column may be read from what means it. -/
theorem Document.FieldsMean.column {read : Option Document → Option β} (hread : Lenient (Option.Rel Means) read)
    (name : String) :
    Covers (read (Document.values name there).head?) (read (Document.values name fields).head?) :=
  hread.covers (h.head? name)

theorem Dims.ofDocument?_means : Covers (ofDocument? (.object there)) (ofDocument? (.object fields)) := by
  have hspecs := h.column lenient_specs?.required "specs"
  have hcenter := h.column (Center.lenient.defaulted .default) "center"
  exact h.columns? columns (hspecs.bind fun _ => hcenter.bind fun _ => .refl _)

theorem Outline.ofDocument?_means : Covers (ofDocument? (.object there)) (ofDocument? (.object fields)) := by
  have hsize := h.column Dimension.lenient.required
  have hcenter := h.column (Center.lenient.defaulted .default) "center"
  exact h.columns? columns
    ((hsize "size_x").bind fun _ => (hsize "size_y").bind fun _ => hcenter.bind fun _ => .refl _)

theorem Grid.ofDocument?_means : Covers (ofDocument? (.object there)) (ofDocument? (.object fields)) := by
  have hcount := h.column lenient_toCount?.required
  have hspacing := h.column lenient_toFloat?.optional
  have hsize := h.column Dimension.lenient.optional
  have hcenter := h.column (Center.lenient.defaulted .default) "center"
  exact h.columns? columns
    ((hcount "count_x").bind fun _ => (hspacing "spacing_x").bind fun _ => (hsize "size_x").bind fun _ =>
      (hcount "count_y").bind fun _ => (hspacing "spacing_y").bind fun _ => (hsize "size_y").bind fun _ =>
        hcenter.bind fun _ => .refl _)

theorem Distribute.ofDocument?_means (isBlank : Document → Bool) :
    Covers (ofDocument? isBlank (.object there)) (ofDocument? isBlank (.object fields)) := by
  have hsize := h.column Dimension.lenient.required
  have htile := h.column lenient_toFloat?.required
  have hcount := h.column lenient_toCount?.optional
  have hspacing := h.column (lenient_toFloat?.defaulted Scalar.zero)
  have hcenter := h.column (Center.lenient.defaulted .default) "center"
  have hanchor := h.column ((Anchor.lenient isBlank).defaulted .center) "result_pos"
  exact h.columns? columns
    ((hsize "size_x").bind fun _ => (htile "tile_size_x").bind fun _ => (hcount "count_x").bind fun _ =>
      (hspacing "min_spacing_x").bind fun _ =>
        (hsize "size_y").bind fun _ => (htile "tile_size_y").bind fun _ => (hcount "count_y").bind fun _ =>
          (hspacing "min_spacing_y").bind fun _ => hcenter.bind fun _ => hanchor.bind fun _ => .refl _)

theorem Stretch.ofDocument?_means : Covers (ofDocument? (.object there)) (ofDocument? (.object fields)) := by
  have hsize := h.column Dimension.lenient.required
  have hcount := h.column lenient_toCount?.optional
  have htile := h.column lenient_toFloat?.optional
  have hspacing := h.column (lenient_toFloat?.defaulted Scalar.zero)
  have hcenter := h.column (Center.lenient.defaulted .default) "center"
  exact h.columns? columns
    ((hsize "size_x").bind fun _ => (hcount "count_x").bind fun _ => (htile "min_tile_size_x").bind fun _ =>
      (htile "max_tile_size_x").bind fun _ => (hspacing "spacing_x").bind fun _ =>
        (hsize "size_y").bind fun _ => (hcount "count_y").bind fun _ => (htile "min_tile_size_y").bind fun _ =>
          (htile "max_tile_size_y").bind fun _ => (hspacing "spacing_y").bind fun _ => hcenter.bind fun _ => .refl _)

theorem Job.ofRequest?_means (isBlank : Document → Bool) (k : Kind) :
    Covers (ofRequest? isBlank k (.object there)) (ofRequest? isBlank k (.object fields)) := by
  cases k with
  | dims => exact (Dims.ofDocument?_means h).map dims
  | rect => exact (Outline.ofDocument?_means h).map rect
  | grid => exact (Grid.ofDocument?_means h).map grid
  | distribute => exact (Distribute.ofDocument?_means h isBlank).map distribute
  | stretch => exact (Stretch.ofDocument?_means h).map stretch

/-! ## Jobs -/

variable {dialect : Dialect} {outer : Nat}

theorem Document.FieldsMean.keeps (hfields : (fields.all fun field => dialect.keeps outer field.2) = true) :
    (there.all fun field => dialect.keeps outer field.2) = true := by
  induction h with
  | nil => rfl
  | @cons field field' there fields hfield _ ih =>
    rw [List.all_cons, Bool.and_eq_true] at hfields ⊢
    exact ⟨hfield.2.keeps hfields.1, ih hfields.2⟩

/-- A job may be read from fields that mean its fields. -/
theorem Job.ofFields?_means {readKind : Document → Option Kind} (hkind : Lenient Means readKind) :
    Covers (ofFields? dialect outer readKind there) (ofFields? dialect outer readKind fields) := by
  intro j hj
  unfold ofFields? at hj ⊢
  split at hj
  case h_1 k' hk' =>
    obtain ⟨k, hk, hmeans⟩ := h.exists_of_values_eq hk'
    have hrest := h.filter (· != "kind")
    rw [hk]
    exact (hkind.covers hmeans).bind (fun kind => (ofRequest?_means hrest _ kind).guard hrest.keeps) j hj
  case h_2 => cases hj

/-- A named job may be read from fields that mean its fields. -/
theorem NamedJob.ofDocument?_means :
    Covers (ofDocument? dialect outer (.object there)) (ofDocument? dialect outer (.object fields)) := by
  intro n hn
  simp only [ofDocument?] at hn ⊢
  split at hn
  case h_1 name hname =>
    obtain ⟨d, hd, hmeans⟩ := h.exists_of_values_eq hname
    obtain rfl : d = .text name := by cases hmeans; rfl
    have hkind : Lenient Means (if dialect.numbered then Job.numberedKind? else Job.kind?) := by
      split
      · exact Job.lenient_numberedKind?
      · exact Job.lenient_kind?
    simp only [hd]
    exact (Job.ofFields?_means (h.filter (· != "name")) hkind).bind (fun _ => .refl _) n hn
  case h_2 => cases hn

end Requests

end SketchLayout
