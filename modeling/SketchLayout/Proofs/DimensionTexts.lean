import SketchLayout.Proofs.Doubles
import SketchLayout.Proofs.NumberTexts

/-!
# Reading texts of dimensions

A dimension is a float literal, or two with a comma between them, and white space around a literal does not
count (`SpellsLength`). The reader looks for the first comma only and reads all that stands behind it; that a
second comma is refused all the same is due to the literals, which hold neither commas nor white space
(`FloatLiteral.plain_of_read?`).

The text of a dimension is read back as that dimension, given that the texts of its finite lengths are
(`dimension_texts_read`). What is not finite needs no such promise: there are three such doubles, and the
texts of these are read back (`Numeral.readsBack_of_not_finite`).
-/

namespace SketchLayout

/-! ## Literals -/

namespace FloatLiteral

/-- Neither a comma nor white space. -/
def Plain (c : Char) : Prop := c ≠ ',' ∧ isBlank c = false

instance (c : Char) : Decidable (Plain c) := inferInstanceAs (Decidable (_ ∧ _))

theorem plain_of_isDigit {c : Char} (h : c.isDigit = true) : Plain c := by
  have hplain : Numeral.plainChar c = true := by simp [Numeral.plainChar, h]
  exact ⟨by simpa using Numeral.ne_comma_of_plainChar hplain, Numeral.isBlank_of_plainChar hplain⟩

theorem plain_of_mem_takeWhile {ds : List Char} : ∀ c ∈ ds.takeWhile Char.isDigit, Plain c :=
  fun _ hc => plain_of_isDigit (List.mem_takeWhile_imp hc)

/-- A capital is neither a comma nor white space, and other characters are their own small letters. -/
theorem plain_of_toLower {c : Char} (h : Plain c.toLower) : Plain c := by
  by_cases hcapital : c.isUpper = true
  · have hrange : 'A'.val ≤ c.val ∧ c.val ≤ 'Z'.val := of_decide_eq_true hcapital
    rw [UInt32.le_iff_toNat_le, UInt32.le_iff_toNat_le] at hrange
    have hcode : 65 ≤ c.toNat ∧ c.toNat ≤ 90 := hrange
    constructor
    · rintro rfl
      exact absurd hcode (by decide)
    · simp [isBlank]
      omega
  · have hsame : c.toLower = c := by
      unfold Char.toLower
      exact dif_neg fun hrange => hcapital (decide_eq_true hrange)
    rwa [hsame] at h

theorem plain_of_sign {text : List Char} (h : ∀ c ∈ (sign text).2, Plain c) : ∀ c ∈ text, Plain c := by
  unfold sign at h
  split at h
  · exact List.forall_mem_cons.2 ⟨by decide, h⟩
  · exact List.forall_mem_cons.2 ⟨by decide, h⟩
  · exact h

theorem plain_of_exponent? {text : List Char} {e : Int} (h : exponent? text = some e) : ∀ c ∈ text, Plain c := by
  unfold exponent? at h
  dsimp only at h
  split at h
  · cases h
  · rename_i hdigits
    simp only [Bool.or_eq_true, not_or, Bool.not_eq_true', Bool.not_eq_false, List.all_eq_true] at hdigits
    exact plain_of_sign fun c hc => plain_of_isDigit (hdigits.2 c hc)

/-- The digits behind a point, and what follows them; none without a point. -/
def fraction : List Char → List Char × List Char
  | '.' :: rest => (rest.takeWhile Char.isDigit, rest.dropWhile Char.isDigit)
  | rest => ([], rest)

theorem plain_of_fraction {text : List Char} (h : ∀ c ∈ (fraction text).2, Plain c) : ∀ c ∈ text, Plain c := by
  unfold fraction at h
  split at h
  · rename_i rest
    refine List.forall_mem_cons.2 ⟨by decide, fun c hc => ?_⟩
    rw [← List.takeWhile_append_dropWhile (p := Char.isDigit) (l := rest)] at hc
    rcases List.mem_append.1 hc with hdigits | hrest
    · exact plain_of_mem_takeWhile c hdigits
    · exact h c hrest
  · exact h

/-- The exponent that ends a decimal, behind its mark. -/
def marked? : List Char → Option Int
  | [] => some 0
  | c :: rest => if c == 'e' || c == 'E' then exponent? rest else none

theorem plain_of_marked? {text : List Char} {e : Int} (h : marked? text = some e) : ∀ c ∈ text, Plain c := by
  cases text with
  | nil => simp
  | cons c rest =>
    simp only [marked?, Bool.or_eq_true, beq_iff_eq, Option.ite_none_right_eq_some] at h
    refine List.forall_mem_cons.2 ⟨?_, plain_of_exponent? h.2⟩
    rcases h.1 with rfl | rfl
    · decide
    · decide

/-- A decimal in its parts: digits, a fraction and an exponent. -/
theorem decimal?_eq (text : List Char) :
    decimal? text =
      if (text.takeWhile Char.isDigit).isEmpty && (fraction (text.dropWhile Char.isDigit)).1.isEmpty then none
      else (marked? (fraction (text.dropWhile Char.isDigit)).2).map fun (e : Int) =>
        (digitsValue (text.takeWhile Char.isDigit ++ (fraction (text.dropWhile Char.isDigit)).1),
          e - ((fraction (text.dropWhile Char.isDigit)).1.length : Int)) := by
  unfold decimal?
  dsimp only
  generalize text.dropWhile Char.isDigit = rest
  generalize text.takeWhile Char.isDigit = whole
  show (if (whole.isEmpty && (fraction rest).1.isEmpty) = true then none else
    match (fraction rest).2 with
    | [] => _
    | c :: rest => _) = _
  split
  · rfl
  · unfold marked?
    split
    · rfl
    · split
      · cases exponent? _ <;> rfl
      · rfl

theorem plain_of_decimal? {text : List Char} {r : Nat × Int} (h : decimal? text = some r) :
    ∀ c ∈ text, Plain c := by
  rw [decimal?_eq] at h
  split at h
  · cases h
  · obtain ⟨e, he, -⟩ := Option.map_eq_some_iff.1 h
    intro c hc
    rw [← List.takeWhile_append_dropWhile (p := Char.isDigit) (l := text)] at hc
    rcases List.mem_append.1 hc with hwhole | hrest
    · exact plain_of_mem_takeWhile c hwhole
    · exact plain_of_fraction (plain_of_marked? he) c hrest

/-- **No float literal holds a comma or white space.** -/
theorem plain_of_read? {text : List Char} {x : Float} (h : read? text = some x) : ∀ c ∈ text, Plain c := by
  -- a word is one of three, up to the case of its letters
  have hword : ∀ word : String, (word.toList.all fun c => decide (Plain c)) = true →
      String.ofList ((sign text).2.map Char.toLower) = word → ∀ c ∈ (sign text).2, Plain c := by
    intro word hplain heq c hc
    refine plain_of_toLower (of_decide_eq_true (List.all_eq_true.1 hplain _ ?_))
    rw [← heq, String.toList_ofList]
    exact List.mem_map_of_mem hc
  refine plain_of_sign ?_
  unfold read? at h
  dsimp only at h
  split at h
  · rename_i hinf
    rw [Bool.or_eq_true, beq_iff_eq, beq_iff_eq] at hinf
    rcases hinf with hinf | hinf
    · exact hword _ (by decide) hinf
    · exact hword _ (by decide) hinf
  · split at h
    · rename_i hnan
      exact hword _ (by decide) (beq_iff_eq.1 hnan)
    · obtain ⟨r, hr, -⟩ := Option.map_eq_some_iff.1 h
      exact plain_of_decimal? hr

/-- Whether a text is a float literal of this value, perhaps with white space around it. -/
def Spells (text : List Char) (x : Float) : Prop :=
  ∃ before literal behind, text = before ++ literal ++ behind ∧ (∀ c ∈ before ++ behind, isBlank c = true) ∧
    read? literal = some x

theorem not_comma_of_isBlank {c : Char} (h : isBlank c = true) : c ≠ ',' := by
  rintro rfl
  revert h
  decide

theorem Spells.notMem {text : List Char} {x : Float} (h : Spells text x) : ',' ∉ text := by
  obtain ⟨before, literal, behind, rfl, hblank, hread⟩ := h
  intro hmem
  rw [List.append_assoc, List.mem_append, List.mem_append] at hmem
  rcases hmem with hbefore | hliteral | hbehind
  · exact not_comma_of_isBlank (hblank _ (List.mem_append_left _ hbefore)) rfl
  · exact (plain_of_read? hread _ hliteral).1 rfl
  · exact not_comma_of_isBlank (hblank _ (List.mem_append_right _ hbehind)) rfl

/-- White space alone spells nothing. -/
theorem not_spells_of_isBlank {text : List Char} (h : ∀ c ∈ text, isBlank c = true) (x : Float) : ¬ Spells text x := by
  rintro ⟨before, literal, behind, rfl, -, hread⟩
  cases literal with
  | nil =>
    have hnone : read? [] = none := rfl
    cases hnone.symm.trans hread
  | cons c literal =>
    have hblank : isBlank c = true := h c (by simp)
    rw [(plain_of_read? hread c (List.mem_cons_self ..)).2] at hblank
    cases hblank

end FloatLiteral

/-! ## Margins -/

/-- A text is what trimming leaves of it, between white space. -/
theorem exists_margins (text : List Char) :
    ∃ before behind, text = before ++ trim text ++ behind ∧ ∀ c ∈ before ++ behind, isBlank c = true := by
  have hsplit : ∀ l : List Char, l.takeWhile isBlank ++ l.dropWhile isBlank = l := fun _ =>
    List.takeWhile_append_dropWhile
  refine ⟨text.takeWhile isBlank, ((text.dropWhile isBlank).reverse.takeWhile isBlank).reverse, ?_, ?_⟩
  · rw [trim, List.append_assoc, ← List.reverse_append, hsplit, List.reverse_reverse, hsplit]
  · intro c hc
    rcases List.mem_append.1 hc with hbefore | hbehind
    · exact List.mem_takeWhile_imp hbefore
    · exact List.mem_takeWhile_imp (List.mem_reverse.1 hbehind)

/-- Trimming takes the white space around a text that has none. -/
theorem trim_margins {before core behind : List Char} (hblank : ∀ c ∈ before ++ behind, isBlank c = true)
    (hcore : ∀ c ∈ core, isBlank c = false) : trim (before ++ core ++ behind) = core := by
  have hbefore : ∀ c ∈ before, isBlank c = true := fun c hc => hblank c (List.mem_append_left _ hc)
  have hbehind : ∀ c ∈ behind.reverse, isBlank c = true := fun c hc =>
    hblank c (List.mem_append_right _ (List.mem_reverse.1 hc))
  -- white space in front goes, and nothing else does while the text begins with another character
  have hkeep : ∀ rest : List Char, core ≠ [] → (core ++ rest).dropWhile isBlank = core ++ rest := by
    intro rest hne
    cases core with
    | nil => exact absurd rfl hne
    | cons c core => simp [hcore c]
  by_cases hne : core = []
  · subst hne
    have hnone : (before ++ behind).dropWhile isBlank = [] := List.dropWhile_eq_nil_iff.2 hblank
    simp [trim, hnone]
  · rw [trim, List.append_assoc, List.dropWhile_append_of_pos hbefore, hkeep behind hne, List.reverse_append,
      List.dropWhile_append_of_pos hbehind, dropWhile_isBlank_eq_self fun c hc => hcore c (List.mem_reverse.1 hc),
      List.reverse_reverse]

/-- A number between white space is read as the literal there. -/
theorem Dimension.readNumber?_eq_some {text : List Char} {x : Float} :
    readNumber? text = some x ↔ FloatLiteral.Spells text x := by
  constructor
  · intro h
    obtain ⟨before, behind, htext, hblank⟩ := exists_margins text
    exact ⟨before, trim text, behind, htext, hblank, h⟩
  · rintro ⟨before, literal, behind, rfl, hblank, hread⟩
    rw [readNumber?, trim_margins hblank fun c hc => (FloatLiteral.plain_of_read? hread c hc).2]
    exact hread

/-! ## The grammar -/

namespace Dimension

/-- Whether a text spells a dimension: one length without a comma, or a length on either side of its only
comma, the bounds in the order in which they are written. -/
def Spells (text : List Char) : Dimension Float → Prop
  | .size s => ',' ∉ text ∧ FloatLiteral.Spells text s
  | .range lo hi => ∃ before behind, text = before ++ ',' :: behind ∧ ',' ∉ before ∧ ',' ∉ behind ∧
      FloatLiteral.Spells before lo ∧ FloatLiteral.Spells behind hi

theorem Spells.count_le {text : List Char} {d : Dimension Float} (h : Spells text d) : text.count ',' ≤ 1 := by
  cases d with
  | size s => simp [List.count_eq_zero_of_not_mem h.1]
  | range lo hi =>
    obtain ⟨before, behind, rfl, hbefore, hbehind, -⟩ := h
    simp [List.count_eq_zero_of_not_mem hbefore, List.count_eq_zero_of_not_mem hbehind]

/-- What stands around the first comma of a text is settled by the text. -/
theorem first_comma_inj {before before' behind behind' : List Char} (hbefore : ',' ∉ before) (hbefore' : ',' ∉ before')
    (h : before ++ ',' :: behind = before' ++ ',' :: behind') : before = before' ∧ behind = behind' := by
  have htake := congrArg (List.takeWhile (· != ',')) h
  have hdrop := congrArg (List.dropWhile (· != ',')) h
  rw [takeWhile_comma hbefore, takeWhile_comma hbefore'] at htake
  rw [dropWhile_comma hbefore, dropWhile_comma hbefore'] at hdrop
  exact ⟨htake, (List.cons.inj hdrop).2⟩

/-- **Exactly the texts that spell a dimension are read**, and as that dimension. -/
theorem read?_eq_some {text : List Char} {d : Dimension Float} : read? text = some d ↔ Spells text d := by
  by_cases hmem : ',' ∈ text
  · obtain ⟨before, behind, rfl, hbefore⟩ := List.eq_append_cons_of_mem hmem
    rw [read?_append hbefore behind]
    simp only [Option.bind_eq_bind, Option.bind_eq_some_iff, Option.pure_def, Option.some.injEq,
      readNumber?_eq_some]
    constructor
    · rintro ⟨lo, hlo, hi, hhi, rfl⟩
      exact ⟨before, behind, rfl, hbefore, hhi.notMem, hlo, hhi⟩
    · intro h
      cases d with
      | size s => exact absurd hmem h.1
      | range lo hi =>
        obtain ⟨before', behind', heq, hbefore', -, hlo, hhi⟩ := h
        obtain ⟨rfl, rfl⟩ := first_comma_inj hbefore hbefore' heq
        exact ⟨lo, hlo, hi, hhi, rfl⟩
  · rw [read?_of_notMem hmem, Option.map_eq_some_iff]
    simp only [readNumber?_eq_some]
    constructor
    · rintro ⟨s, hs, rfl⟩
      exact ⟨hmem, hs⟩
    · intro h
      cases d with
      | size s => exact ⟨s, h.2, rfl⟩
      | range lo hi =>
        obtain ⟨before, behind, rfl, -⟩ := h
        exact absurd (by simp) hmem

theorem ofText_eq_ok {text : String} {d : Dimension Float} : ofText text = .ok d ↔ Spells text.toList d := by
  rw [← read?_eq_some, ofText]
  cases read? text.toList with
  | none => simp
  | some d' => simp

theorem ofText_eq_error {text : String} {e : LayoutError Float} :
    ofText text = .error e ↔ (∀ d, ¬ Spells text.toList d) ∧ e = .invalidDimension text := by
  simp only [← read?_eq_some, ofText]
  cases read? text.toList with
  | none => simp [eq_comm]
  | some d' => simp

/-- Whether there is nothing but white space in a text, or on one side of a comma of it. -/
def LeavesOut (text : List Char) : Prop :=
  (∀ c ∈ text, isBlank c = true) ∨
    ∃ before behind, text = before ++ ',' :: behind ∧
      ((∀ c ∈ before, isBlank c = true) ∨ ∀ c ∈ behind, isBlank c = true)

theorem LeavesOut.not_spells {text : List Char} (h : LeavesOut text) (d : Dimension Float) : ¬ Spells text d := by
  have hnone : ∀ l : List Char, (∀ c ∈ l, isBlank c = true) → ',' ∉ l := fun l hblank hmem =>
    FloatLiteral.not_comma_of_isBlank (hblank ',' hmem) rfl
  intro hspells
  rcases h with hblank | ⟨before, behind, rfl, hpart⟩
  · cases d with
    | size s => exact FloatLiteral.not_spells_of_isBlank hblank s hspells.2
    | range lo hi =>
      obtain ⟨before, behind, rfl, -⟩ := hspells
      exact hnone _ hblank (by simp)
  · cases d with
    | size s => exact hspells.1 (by simp)
    | range lo hi =>
      have hcount := hspells.count_le
      obtain ⟨before', behind', heq, hbefore', -, hlo, hhi⟩ := hspells
      -- there is but one comma, so the two readings part the text at the same place
      have hbefore : ',' ∉ before := by
        rw [List.count_append, List.count_cons_self] at hcount
        exact List.count_eq_zero.1 (by omega)
      obtain ⟨rfl, rfl⟩ := first_comma_inj hbefore hbefore' heq
      rcases hpart with hblank | hblank
      · exact FloatLiteral.not_spells_of_isBlank hblank lo hlo
      · exact FloatLiteral.not_spells_of_isBlank hblank hi hhi

end Dimension

/-! ## Round trip -/

/-- The doubles that are not finite are read back from their texts. -/
theorem Numeral.readsBack_of_not_finite {x : Float} (h : (Binary.ofFloat x).isFinite = false) : ReadsBack x := by
  rcases eq_of_not_finite h with rfl | rfl | rfl
  · decide +kernel
  · decide +kernel
  · decide +kernel

open Dimension in
/-- **Texts of dimensions.** A text is read as a dimension exactly if it spells it, and refused as it stands if
it spells none; so it is with two commas or more, and with nothing in the place of a length. And the text of a
dimension, whatever its lengths, is read back as this dimension, if the texts of the finite ones are. -/
theorem dimension_texts_read :
    (∀ text : String,
      (∀ s, ofText text = .ok (.size s) ↔ ',' ∉ text.toList ∧ FloatLiteral.Spells text.toList s) ∧
      (∀ lo hi, ofText text = .ok (.range lo hi) ↔
        ∃ before behind, text.toList = before ++ ',' :: behind ∧ ',' ∉ before ∧ ',' ∉ behind ∧
          FloatLiteral.Spells before lo ∧ FloatLiteral.Spells behind hi) ∧
      (∀ e, ofText text = .error e ↔ (∀ d, ¬ Spells text.toList d) ∧ e = .invalidDimension text) ∧
      (2 ≤ text.toList.count ',' ∨ LeavesOut text.toList → ofText text = .error (.invalidDimension text))) ∧
    ∀ d : Dimension Float, (∀ x ∈ d.lengths, (Binary.ofFloat x).isFinite = true → Numeral.ReadsBack x) →
      ofText d.toText = .ok d := by
  constructor
  · intro text
    refine ⟨fun s => ofText_eq_ok, fun lo hi => ofText_eq_ok, fun e => ofText_eq_error, ?_⟩
    intro h
    refine ofText_eq_error.2 ⟨fun d hd => ?_, rfl⟩
    rcases h with hcount | hout
    · have hle := hd.count_le
      omega
    · exact hout.not_spells d hd
  · intro d hback
    refine ofText_eq_ok.2 (read?_eq_some.1 (read?_toText fun x hx => ?_))
    cases hfinite : (Binary.ofFloat x).isFinite with
    | true => exact hback x hx hfinite
    | false => exact Numeral.readsBack_of_not_finite hfinite

/-- A range from two and a half down to minus zero. -/
def downwardRange : Dimension Float := .range (Float.ofBits 0x4004000000000000) (Float.ofBits 0x8000000000000000)

theorem downward_range_read_back :
    ((∀ x ∈ downwardRange.lengths, (Binary.ofFloat x).isFinite = true → Numeral.ReadsBack x) ∧
      downwardRange.toText = "2.5,-0" ∧ Dimension.ofText downwardRange.toText = .ok downwardRange) ∧
    2 ≤ "2.5,-0,".toList.count ',' ∧ Dimension.ofText "2.5,-0," = .error (.invalidDimension "2.5,-0,") := by
  have hback : ∀ x ∈ downwardRange.lengths, Numeral.ReadsBack x := by decide +kernel
  have hcount : 2 ≤ "2.5,-0,".toList.count ',' := by decide
  obtain ⟨hread, hround⟩ := dimension_texts_read
  exact ⟨⟨fun x hx _ => hback x hx, by decide +kernel, hround downwardRange fun x hx _ => hback x hx⟩, hcount,
    (hread "2.5,-0,").2.2.2 (.inl hcount)⟩

end SketchLayout
