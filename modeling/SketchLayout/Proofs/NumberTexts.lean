import SketchLayout.Dimension
import SketchLayout.Proofs.JobFiles

/-!
# Texts of counts, lengths and dimensions

A count is read from exactly the texts that spell it below the bound (`CountLiteral.read_eq_ok_iff`), so
it is read from its own digits. The text of a length holds neither a comma nor white space
(`Numeral.plainChar_write`); a dimension is therefore read back from its text as soon as its lengths
are (`Dimension.read?_toText`).
-/

namespace SketchLayout

/-! ## Counts -/

namespace CountLiteral

/-- The number that digits make of a number in front of them. -/
def extend (n : Nat) (ds : List Char) : Nat := ds.foldl (fun n c => 10 * n + (c.toNat - '0'.toNat)) n

theorem le_extend (n : Nat) (ds : List Char) : n ≤ extend n ds := by
  induction ds generalizing n with
  | nil => exact Nat.le_refl n
  | cons c ds ih =>
    have hrest := ih (10 * n + (c.toNat - '0'.toNat))
    simp only [extend, List.foldl_cons] at hrest ⊢
    omega

/-- Digits are pushed one by one as long as the number stays below the bound, which it does if it is below
the bound in the end. -/
theorem foldlM_push {ds : List Char} {n m : Nat} (hn : n < bound) :
    ds.foldlM push n = .ok m ↔ (∀ c ∈ ds, c.isDigit = true) ∧ extend n ds = m ∧ m < bound := by
  induction ds generalizing n with
  | nil =>
    simp only [List.foldlM_nil, pure, Except.pure, Except.ok.injEq, extend, List.foldl_nil]
    constructor
    · rintro rfl
      exact ⟨by simp, rfl, hn⟩
    · rintro ⟨-, rfl, -⟩
      rfl
  | cons c ds ih =>
    have hextend : extend n (c :: ds) = extend (10 * n + (c.toNat - '0'.toNat)) ds := rfl
    rw [List.foldlM_cons, hextend]
    by_cases hc : c.isDigit = true
    · by_cases hlt : 10 * n + (c.toNat - '0'.toNat) < bound
      · have hpush : push n c = .ok (10 * n + (c.toNat - '0'.toNat)) := by
          simp only [push, digit?, hc, if_true, hlt]
        rw [hpush]
        show ds.foldlM push (10 * n + (c.toNat - '0'.toNat)) = .ok m ↔ _
        rw [ih hlt, List.forall_mem_cons]
        simp only [hc, true_and]
      · have hpush : push n c = .error .tooLarge := by simp only [push, digit?, hc, if_true, hlt, if_false]
        have hle := le_extend (10 * n + (c.toNat - '0'.toNat)) ds
        simp only [hpush, bind, Except.bind, reduceCtorEq, false_iff]
        rintro ⟨-, rfl, hm⟩
        omega
    · have hpush : push n c = .error .strayCharacter := by simp only [push, digit?, hc]; rfl
      simp [hpush, bind, Except.bind, hc]

/-- A count is read from digits, perhaps behind a plus sign, that spell it below the bound, and from
nothing else. -/
theorem read_eq_ok_iff {text : List Char} {n : Nat} :
    read text = .ok n ↔
      ∃ ds, (text = ds ∨ text = '+' :: ds) ∧ ds ≠ [] ∧ (∀ c ∈ ds, c.isDigit = true) ∧ digitsValue ds = n ∧
        n < bound := by
  have hzero : 0 < bound := by decide
  unfold read
  split
  case h_1 => simp
  case h_2 =>
    simp only [reduceCtorEq, false_iff]
    rintro ⟨ds, heq | heq, hne, hdigits, -⟩
    · subst heq
      have hplus := hdigits '+' (by simp)
      simp at hplus
    · exact hne (List.cons.inj heq).2.symm
  case h_3 ds hne =>
    rw [foldlM_push hzero]
    constructor
    · rintro ⟨hdigits, hvalue, hlt⟩
      exact ⟨ds, .inr rfl, by simpa using hne, hdigits, hvalue, hlt⟩
    · rintro ⟨ds', heq | heq, -, hdigits, hvalue, hlt⟩
      · subst heq
        have hplus := hdigits '+' (by simp)
        simp at hplus
      · obtain rfl := (List.cons.inj heq).2
        exact ⟨hdigits, hvalue, hlt⟩
  case h_4 hne _ hplus =>
    rw [foldlM_push hzero]
    constructor
    · rintro ⟨hdigits, hvalue, hlt⟩
      exact ⟨text, .inl rfl, hne, hdigits, hvalue, hlt⟩
    · rintro ⟨ds', rfl | rfl, -, hdigits, hvalue, hlt⟩
      · exact ⟨hdigits, hvalue, hlt⟩
      · exact absurd rfl (hplus ds')

end CountLiteral

namespace Numeral

def ofCount (n : Nat) : String := String.ofList (digits n)

end Numeral

/-- A count is read back from its digits. -/
theorem CountLiteral.read_ofCount {n : Nat} (h : n < bound) : read (Numeral.ofCount n).toList = .ok n := by
  rw [Numeral.ofCount, String.toList_ofList, read_eq_ok_iff]
  exact ⟨Numeral.digits n, .inl rfl, Nat.toDigits_ne_nil, fun c => Json.isDigit_of_mem_digits,
    Json.digitsValue_digits n, h⟩

/-! ## Lengths -/

namespace Numeral

/-- Whether the text of a length is a text of that length. -/
def ReadsBack (x : Float) : Prop := FloatLiteral.read? (ofFloat x).toList = some x

instance (x : Float) : Decidable (ReadsBack x) := inferInstanceAs (Decidable (_ = _))

/-- The characters in texts of lengths. -/
def plainChar (c : Char) : Bool := c.isDigit || ['-', '.', 'N', 'a', 'i', 'n', 'f'].contains c

theorem plainChar_digits {n : Nat} {c : Char} (h : c ∈ digits n) : plainChar c = true := by
  simp [plainChar, Json.isDigit_of_mem_digits h]

theorem plainChar_pointed {n places : Nat} {c : Char} (h : c ∈ pointed n places) : plainChar c = true := by
  have hpadded : ∀ c ∈ List.replicate (places + 1 - (digits n).length) '0' ++ digits n, plainChar c = true := by
    intro c hc
    rcases List.mem_append.mp hc with hzero | hdigit
    · rw [List.eq_of_mem_replicate hzero]
      rfl
    · exact plainChar_digits hdigit
  simp only [pointed] at h
  split at h
  · exact hpadded c (List.mem_of_mem_take h)
  · rcases List.mem_append.mp h with hwhole | hrest
    · exact hpadded c (List.mem_of_mem_take hwhole)
    · rcases List.mem_cons.mp hrest with rfl | hfraction
      · rfl
      · exact hpadded c (List.mem_of_mem_drop hfraction)

theorem plainChar_writePositional {d : Decimal} {c : Char} (h : c ∈ writePositional false d) : plainChar c = true := by
  unfold writePositional at h
  split at h
  · simp only [Bool.false_eq_true, if_false, List.append_nil, List.mem_append] at h
    rcases h with hdigit | hzero
    · exact plainChar_digits hdigit
    · rw [List.eq_of_mem_replicate hzero]
      rfl
  · exact plainChar_pointed h

theorem plainChar_signed {negative : Bool} {text : List Char} (htext : ∀ c ∈ text, plainChar c = true) :
    ∀ c ∈ signed negative text, plainChar c = true := by
  intro c hc
  cases negative with
  | false => exact htext c hc
  | true =>
    rcases List.mem_cons.mp hc with rfl | hc
    · rfl
    · exact htext c hc

/-- A length is written with digits, a minus sign and a point, or as one of three words. -/
theorem plainChar_write (b : Binary) : ∀ c ∈ plain.write b, plainChar c = true := by
  cases b with
  | undefined => exact List.all_eq_true.mp rfl
  | infinite negative => exact plainChar_signed (List.all_eq_true.mp rfl)
  | finite negative mant exp edge => exact plainChar_signed fun _ => plainChar_writePositional

theorem plainChar_ofFloat (x : Float) : ∀ c ∈ (ofFloat x).toList, plainChar c = true := by
  rw [ofFloat, String.toList_ofList]
  exact plainChar_write _

theorem ne_comma_of_plainChar {c : Char} (h : plainChar c = true) : (c != ',') = true := by
  simp only [bne_iff_ne, ne_eq]
  rintro rfl
  revert h
  decide

theorem isBlank_of_plainChar {c : Char} (h : plainChar c = true) : isBlank c = false := by
  simp only [plainChar, Bool.or_eq_true, List.contains_iff_mem, List.mem_cons, List.not_mem_nil, or_false] at h
  rcases h with hdigit | rfl | rfl | rfl | rfl | rfl | rfl | rfl
  · have hrange : 48 ≤ c.toNat ∧ c.toNat ≤ 57 := by
      simp only [Char.isDigit, Bool.and_eq_true, decide_eq_true_eq, UInt32.le_iff_toNat_le, ge_iff_le] at hdigit
      exact hdigit
    simp [isBlank]
    omega
  all_goals decide

end Numeral

/-! ## Dimensions -/

theorem dropWhile_isBlank_eq_self {text : List Char} (h : ∀ c ∈ text, isBlank c = false) :
    text.dropWhile isBlank = text := by
  cases text with
  | nil => rfl
  | cons c cs => rw [List.dropWhile_cons_of_neg (by simp [h c])]

/-- A text without white space has nothing to trim. -/
theorem trim_eq_self {text : List Char} (h : ∀ c ∈ text, isBlank c = false) : trim text = text := by
  rw [trim, dropWhile_isBlank_eq_self h, dropWhile_isBlank_eq_self fun c hc => h c (List.mem_reverse.mp hc),
    List.reverse_reverse]

namespace Dimension

theorem readNumber?_ofFloat {x : Float} (h : Numeral.ReadsBack x) :
    readNumber? (Numeral.ofFloat x).toList = some x := by
  rw [readNumber?, trim_eq_self fun c hc => Numeral.isBlank_of_plainChar (Numeral.plainChar_ofFloat x c hc)]
  exact h

theorem ne_comma_of_notMem {text : List Char} (h : ',' ∉ text) : ∀ c ∈ text, (c != ',') = true := by
  intro c hc
  rw [bne_iff_ne]
  rintro rfl
  exact h hc

theorem takeWhile_comma {before : List Char} (h : ',' ∉ before) (behind : List Char) :
    (before ++ ',' :: behind).takeWhile (· != ',') = before := by
  rw [List.takeWhile_append_of_pos (ne_comma_of_notMem h)]
  simp

theorem dropWhile_comma {before : List Char} (h : ',' ∉ before) (behind : List Char) :
    (before ++ ',' :: behind).dropWhile (· != ',') = ',' :: behind := by
  rw [List.dropWhile_append_of_pos (ne_comma_of_notMem h)]
  simp

/-- A text without a comma is read as a size. -/
theorem read?_of_notMem {text : List Char} (h : ',' ∉ text) : read? text = (readNumber? text).map .size := by
  rw [read?, List.dropWhile_eq_nil_iff.mpr (ne_comma_of_notMem h)]

/-- A text with a comma is read as a range, with all that stands behind the first one in its second bound. -/
theorem read?_append {before : List Char} (h : ',' ∉ before) (behind : List Char) :
    read? (before ++ ',' :: behind) = do return .range (← readNumber? before) (← readNumber? behind) := by
  rw [read?, dropWhile_comma h, takeWhile_comma h]

/-- A dimension is read back from its text if its lengths are. -/
theorem read?_toText {d : Dimension Float} (h : ∀ x ∈ d.lengths, Numeral.ReadsBack x) :
    read? d.toText.toList = some d := by
  have hcomma : ∀ x : Float, ',' ∉ (Numeral.ofFloat x).toList := by
    intro x hmem
    have hne := Numeral.ne_comma_of_plainChar (Numeral.plainChar_ofFloat x ',' hmem)
    simp at hne
  cases d with
  | size s =>
    rw [toText, read?_of_notMem (hcomma s), readNumber?_ofFloat (h s (by simp [lengths]))]
    rfl
  | range lo hi =>
    have htext : (toText (.range lo hi)).toList =
        (Numeral.ofFloat lo).toList ++ ',' :: (Numeral.ofFloat hi).toList := by
      simp only [toText, String.toList_append, List.append_assoc]
      rfl
    rw [htext, read?_append (hcomma lo), readNumber?_ofFloat (h lo (by simp [lengths])),
      readNumber?_ofFloat (h hi (by simp [lengths]))]
    rfl

end Dimension

end SketchLayout
