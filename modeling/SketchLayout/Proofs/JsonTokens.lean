import Mathlib.Data.List.TakeWhile
import SketchLayout.Document.Json.Printer
import SketchLayout.Document.Json.Token

/-!
# Written tokens are read back

Texts and whole numbers as they are written are read as the tokens that they are, whatever follows,
as long as a number does not run on. `Spells` puts tokens together: it says which tokens a text
spells, white space between them apart, and `tokens?` finds them (`Spells.tokens?_eq`).
-/

namespace SketchLayout.Json

/-! ## Texts -/

/-- A control character is read back from its escape. -/
theorem hex4?_control :
    ∀ n < 0x20, hex4? '0' '0' (Nat.digitChar (n / 16)) (Nat.digitChar (n % 16)) = some n := by decide

theorem pieces?_plain {c : Char} (hquote : c ≠ '"') (hslash : c ≠ '\\') (hlow : ¬ c.toNat < 0x20)
    (rest : List Char) :
    pieces? (c :: rest) = (pieces? rest).map fun p => (.char c :: p.1, p.2) := by
  rw [pieces?.eq_def]
  split
  · simp_all
  · simp_all
  · simp_all
  · rename_i c' rest' _ _ _ heq
    obtain ⟨rfl, rfl⟩ := heq
    rw [if_neg hlow]
    cases pieces? rest <;> rfl
  · simp_all

/-- One character between quotes is read as itself. -/
theorem pieces?_escape (c : Char) (rest : List Char) :
    pieces? (escape c ++ rest) = (pieces? rest).map fun p => (.char c :: p.1, p.2) := by
  unfold escape
  split
  case h_8 h1 h2 h3 h4 h5 h6 h7 =>
    split
    case isTrue hlow =>
      have hunit : pieceOfUnit c.toNat = .char c := by
        unfold pieceOfUnit
        rw [if_neg, if_neg, Char.ofNat_toNat]
        · simp; omega
        · simp; omega
      simp only [List.cons_append, List.nil_append, pieces?, hex4?_control _ hlow]
      rw [← hunit]
      cases pieces? rest <;> rfl
    case isFalse hlow => exact pieces?_plain h1 h2 hlow rest
  all_goals
    simp only [List.cons_append, List.nil_append, pieces?]
    cases pieces? rest <;> rfl

theorem pieces?_flatMap_escape (cs rest : List Char) :
    pieces? (cs.flatMap escape ++ '"' :: rest) = some (cs.map .char, rest) := by
  induction cs with
  | nil => rfl
  | cons c cs ih =>
    rw [List.flatMap_cons, List.append_assoc, pieces?_escape, ih]
    rfl

theorem chars?_map_char (cs : List Char) : chars? (cs.map .char) = some cs := by
  induction cs with
  | nil => rfl
  | cons c cs ih =>
    rw [List.map_cons, chars?, ih]
    rfl

/-- A text between quotes is read back. -/
theorem token?_quote (s : String) (rest : List Char) :
    token? (quote s ++ rest) = some (.text (some s), rest) := by
  have hpieces := pieces?_flatMap_escape s.toList rest
  simp only [quote, List.cons_append, List.append_assoc, List.nil_append, token?, hpieces, Option.map_some,
    chars?_map_char, String.ofList_toList]

/-! ## Numbers -/

/-- Whether a character can stand in a number. -/
def inNumber (c : Char) : Bool := c.isDigit || c == '.' || c == 'e' || c == 'E' || c == '+' || c == '-'

/-- Whether a number in front of a text ends there. -/
def Apart (rest : List Char) : Prop := ∀ c ∈ rest.head?, inNumber c = false

theorem apart_cons {c : Char} (h : inNumber c = false) (rest : List Char) : Apart (c :: rest) := by
  intro d hd
  cases hd
  exact h

section Apart

variable {tail : List Char} (htail : Apart tail)
include htail

theorem takeWhile_isDigit_of_apart : tail.takeWhile Char.isDigit = [] ∧ tail.dropWhile Char.isDigit = tail := by
  cases tail with
  | nil => exact ⟨rfl, rfl⟩
  | cons c rest =>
    have hc : inNumber c = false := htail c rfl
    have hdigit : ¬ c.isDigit = true := by
      intro h
      simp [inNumber, h] at hc
    exact ⟨List.takeWhile_cons_of_neg hdigit, List.dropWhile_cons_of_neg hdigit⟩

theorem digits?_append {text ds rest : List Char} (h : digits? text = some (ds, rest)) :
    digits? (text ++ tail) = some (ds, rest ++ tail) := by
  obtain ⟨htake, hdrop⟩ := takeWhile_isDigit_of_apart htail
  have htext : text.takeWhile Char.isDigit ++ text.dropWhile Char.isDigit = text := List.takeWhile_append_dropWhile
  unfold digits? at h ⊢
  simp only [Option.ite_none_left_eq_some, Option.some.injEq, Prod.mk.injEq] at h
  obtain ⟨hne, rfl, rfl⟩ := h
  rw [List.takeWhile_append, List.dropWhile_append, htake, hdrop, List.append_nil]
  have hsame : (if (text.takeWhile Char.isDigit).length = text.length then text
      else text.takeWhile Char.isDigit) = text.takeWhile Char.isDigit := by
    split
    · rename_i hlen
      exact (List.IsPrefix.eq_of_length (List.takeWhile_prefix _) hlen).symm
    · rfl
  have hrest : (if (text.dropWhile Char.isDigit).isEmpty = true then tail
      else text.dropWhile Char.isDigit ++ tail) = text.dropWhile Char.isDigit ++ tail := by
    split
    · rename_i hempty
      rw [List.isEmpty_iff.mp hempty, List.nil_append]
    · rfl
  rw [hsame, hrest, if_neg hne]

theorem whole?_append {text ds rest : List Char} (h : whole? text = some (ds, rest)) :
    whole? (text ++ tail) = some (ds, rest ++ tail) := by
  cases text with
  | nil => simp [whole?, digits?] at h
  | cons c text =>
    by_cases hc : c = '0'
    · subst hc
      simp only [whole?, Option.some.injEq, Prod.mk.injEq] at h
      obtain ⟨rfl, rfl⟩ := h
      rfl
    · rw [whole?.eq_2 _ (by simpa using hc)] at h
      rw [whole?.eq_2 _ (by simpa using hc)]
      exact digits?_append htail h

theorem fraction?_append {text rest : List Char} {ds : Option (List Char)}
    (h : fraction? text = some (ds, rest)) : fraction? (text ++ tail) = some (ds, rest ++ tail) := by
  cases text with
  | nil =>
    obtain ⟨rfl, rfl⟩ : none = ds ∧ [] = rest := by simpa [fraction?] using h
    refine fraction?.eq_2 _ fun rest' heq => ?_
    have := htail '.' (by rw [← List.nil_append tail, heq]; rfl)
    simp [inNumber] at this
  | cons c text =>
    by_cases hc : c = '.'
    · subst hc
      simp only [fraction?, Option.map_eq_some_iff] at h
      obtain ⟨⟨ds', rest'⟩, hdigits, heq⟩ := h
      cases heq
      simp only [List.cons_append, fraction?, digits?_append htail hdigits, Option.map_some]
    · rw [fraction?.eq_2 _ (by simpa using hc)] at h
      cases h
      exact fraction?.eq_2 _ (by simpa using hc)

theorem sign_append (text : List Char) :
    FloatLiteral.sign (text ++ tail) = ((FloatLiteral.sign text).1, (FloatLiteral.sign text).2 ++ tail) := by
  cases text with
  | nil =>
    cases tail with
    | nil => rfl
    | cons c tail =>
      have hc : inNumber c = false := htail c rfl
      refine FloatLiteral.sign.eq_3 _ ?_ ?_
      all_goals
        rintro rest heq
        cases heq
        simp [inNumber] at hc
  | cons c text =>
    by_cases hminus : c = '-'
    · subst hminus; rfl
    · by_cases hplus : c = '+'
      · subst hplus; rfl
      · rw [List.cons_append, FloatLiteral.sign.eq_3 (c :: text) (by simpa using hminus) (by simpa using hplus)]
        exact FloatLiteral.sign.eq_3 _ (by simpa using hminus) (by simpa using hplus)

theorem exponent?_append {text rest : List Char} {exp : Option Int}
    (h : exponent? text = some (exp, rest)) : exponent? (text ++ tail) = some (exp, rest ++ tail) := by
  cases text with
  | nil =>
    obtain ⟨rfl, rfl⟩ : none = exp ∧ [] = rest := by simpa [exponent?] using h
    cases tail with
    | nil => rfl
    | cons c tail =>
      have hc : inNumber c = false := htail c rfl
      have hletter : ¬ (c == 'e' || c == 'E') = true := by
        intro hletter
        simp only [Bool.or_eq_true, beq_iff_eq] at hletter
        rcases hletter with rfl | rfl <;> simp [inNumber] at hc
      simp only [List.nil_append, exponent?, if_neg hletter]
  | cons c text =>
    simp only [List.cons_append, exponent?] at h ⊢
    split at h
    · rename_i hletter
      simp only [Option.map_eq_some_iff] at h
      obtain ⟨⟨ds, rest'⟩, hdigits, heq⟩ := h
      cases heq
      simp only [if_pos hletter, sign_append htail, digits?_append htail hdigits, Option.map_some]
    · rename_i hletter
      cases h
      rw [if_neg hletter]
      rfl

omit htail in
theorem minus_append {text : List Char} (hne : text ≠ []) :
    minus (text ++ tail) = ((minus text).1, (minus text).2 ++ tail) := by
  cases text with
  | nil => exact absurd rfl hne
  | cons c text =>
    by_cases hc : c = '-'
    · subst hc; rfl
    · rw [List.cons_append, minus.eq_2 (c :: text) (by simpa using hc)]
      exact minus.eq_2 _ (by simpa using hc)

/-- A number is read the same with a text behind it that it does not run on into. -/
theorem number?_append {text rest : List Char} {n : NumberToken} (h : number? text = some (n, rest)) :
    number? (text ++ tail) = some (n, rest ++ tail) := by
  have hne : text ≠ [] := by
    rintro rfl
    simp [number?, minus, whole?, digits?] at h
  simp only [number?, Option.bind_eq_bind, Option.bind_eq_some_iff] at h
  obtain ⟨⟨whole, rest₁⟩, hwhole, ⟨frac, rest₂⟩, hfrac, ⟨exp, rest₃⟩, hexp, heq⟩ := h
  cases heq
  have hwhole' := whole?_append htail hwhole
  have hfrac' := fraction?_append htail hfrac
  have hexp' := exponent?_append htail hexp
  simp only [number?, minus_append hne, Option.bind_eq_bind, hwhole', hfrac', hexp', Option.bind_some]
  rfl

end Apart

theorem digits?_shorter {text ds rest : List Char} (h : digits? text = some (ds, rest)) :
    rest.length < text.length := by
  have htext : text.takeWhile Char.isDigit ++ text.dropWhile Char.isDigit = text := List.takeWhile_append_dropWhile
  simp only [digits?, Option.ite_none_left_eq_some, Option.some.injEq, Prod.mk.injEq] at h
  obtain ⟨hne, rfl, rfl⟩ := h
  have hpos : 0 < (text.takeWhile Char.isDigit).length := by
    rw [List.length_pos_iff]
    simpa using hne
  have hlen := congrArg List.length htext
  rw [List.length_append] at hlen
  omega

theorem whole?_shorter {text ds rest : List Char} (h : whole? text = some (ds, rest)) :
    rest.length < text.length := by
  rw [whole?.eq_def] at h
  split at h
  · cases h
    simp
  · exact digits?_shorter h

theorem fraction?_le {text rest : List Char} {ds : Option (List Char)} (h : fraction? text = some (ds, rest)) :
    rest.length ≤ text.length := by
  rw [fraction?.eq_def] at h
  split at h
  · simp only [Option.map_eq_some_iff] at h
    obtain ⟨⟨ds', rest'⟩, hdigits, heq⟩ := h
    cases heq
    have := digits?_shorter hdigits
    simp only [List.length_cons]
    omega
  · cases h
    exact Nat.le_refl _

theorem sign_le (text : List Char) : (FloatLiteral.sign text).2.length ≤ text.length := by
  unfold FloatLiteral.sign
  split <;> simp

theorem exponent?_le {text rest : List Char} {exp : Option Int} (h : exponent? text = some (exp, rest)) :
    rest.length ≤ text.length := by
  cases text with
  | nil =>
    cases h
    exact Nat.le_refl _
  | cons c text =>
    simp only [exponent?] at h
    split at h
    · simp only [Option.map_eq_some_iff] at h
      obtain ⟨⟨ds, rest'⟩, hdigits, heq⟩ := h
      cases heq
      have h₁ := digits?_shorter hdigits
      have h₂ := sign_le text
      simp only [List.length_cons]
      omega
    · cases h
      exact Nat.le_refl _

/-- A number takes a character. -/
theorem number?_shorter {text rest : List Char} {n : NumberToken} (h : number? text = some (n, rest)) :
    rest.length < text.length := by
  simp only [number?, Option.bind_eq_bind, Option.bind_eq_some_iff] at h
  obtain ⟨⟨whole, rest₁⟩, hwhole, ⟨frac, rest₂⟩, hfrac, ⟨exp, rest₃⟩, hexp, heq⟩ := h
  cases heq
  have h₀ : (minus text).2.length ≤ text.length := by
    unfold minus
    split <;> simp
  have h₁ : rest₁.length < (minus text).2.length := whole?_shorter hwhole
  have h₂ : rest₂.length ≤ rest₁.length := fraction?_le hfrac
  have h₃ : rest₃.length ≤ rest₂.length := exponent?_le hexp
  show rest₃.length < text.length
  omega

theorem number?_of_token? {text rest : List Char} {n : NumberToken} (h : token? text = some (.number n, rest)) :
    number? text = some (n, rest) := by
  rw [token?.eq_def] at h
  split at h
  all_goals simp at h
  exact h

/-- A number begins with a minus sign or a digit, so no other token does. -/
theorem token?_of_number? {text rest : List Char} {n : NumberToken} (h : number? text = some (n, rest)) :
    token? text = some (.number n, rest) := by
  rw [token?.eq_def]
  split
  all_goals first
    | (rw [h]; rfl)
    | simp [number?, minus, whole?, digits?] at h

/-! ## Whole numbers -/

theorem digitsValue_digits (n : Nat) : digitsValue (Numeral.digits n) = n :=
  Nat.ofDigitChars_toDigits (by decide) (by decide)

theorem isDigit_of_mem_digits {n : Nat} {c : Char} (h : c ∈ Numeral.digits n) : c.isDigit = true :=
  Nat.isDigit_of_mem_toDigits (by decide) (by decide) h

/-- Only zero is written with a zero in front. -/
theorem head?_digits (n : Nat) (hn : n ≠ 0) : (Numeral.digits n).head? ≠ some '0' := by
  induction n using Nat.strongRecOn with
  | ind n ih =>
    unfold Numeral.digits at ih ⊢
    rw [Nat.toDigits_eq_if (by decide)]
    split
    · rename_i hlt
      have hfirst : ∀ m < 10, m ≠ 0 → Nat.digitChar m ≠ '0' := by decide
      simpa using hfirst n hlt hn
    · rename_i hle
      have hne : Nat.toDigits 10 (n / 10) ≠ [] := Nat.toDigits_ne_nil
      have hhead := ih (n / 10) (by omega) (by omega)
      cases hds : Nat.toDigits 10 (n / 10) with
      | nil => exact absurd hds hne
      | cons d ds =>
        rw [hds] at hhead
        exact hhead

/-- The digits of a number, read as the whole part of one. -/
theorem whole?_digits (n : Nat) : whole? (Numeral.digits n) = some (Numeral.digits n, []) := by
  by_cases hn : n = 0
  · subst hn
    rfl
  · have hall : ∀ c ∈ Numeral.digits n, c.isDigit = true := fun c => isDigit_of_mem_digits
    have hne : (Numeral.digits n).isEmpty = false := by simp [Numeral.digits, Nat.toDigits_ne_nil]
    rw [whole?.eq_2 _ fun rest heq => head?_digits n hn (by rw [heq]; rfl)]
    simp only [digits?, List.takeWhile_eq_self_iff.mpr hall, List.dropWhile_eq_nil_iff.mpr hall, hne,
      Bool.false_eq_true, if_false]

/-- The token of a whole number. -/
def integerToken (n : Int) : Token := .number ⟨⟨n < 0, n.natAbs, 0⟩, true⟩

theorem minus_integer (n : Int) : minus (integer n) = (decide (n < 0), Numeral.digits n.natAbs) := by
  unfold integer Numeral.signed
  by_cases hn : n < 0
  · simp [hn, minus]
  · simp only [hn, decide_false, Bool.false_eq_true, if_false]
    refine minus.eq_2 _ fun rest heq => ?_
    have hmem : '-' ∈ Numeral.digits n.natAbs := by simp [heq]
    have hdigit := isDigit_of_mem_digits hmem
    simp at hdigit

/-- A whole number is read back. -/
theorem token?_integer (n : Int) : token? (integer n) = some (integerToken n, []) := by
  refine token?_of_number? ?_
  simp [number?, minus_integer, whole?_digits, fraction?, exponent?, digitsValue_digits]

/-! ## Texts of tokens -/

/-- The tokens that a text spells, with white space between them. -/
inductive Spells : List Char → List Token → Prop
  | nil : Spells [] []
  | space {c : Char} {text : List Char} {ts : List Token} (hc : isSpace c = true) (h : Spells text ts) :
      Spells (c :: text) ts
  | token {text rest : List Char} {t : Token} {ts : List Token} (ht : token? text = some (t, rest))
      (hshorter : rest.length < text.length) (h : Spells rest ts) : Spells text (t :: ts)

/-- No token begins with white space. -/
theorem token?_space {c : Char} (hc : isSpace c = true) (text : List Char) : token? (c :: text) = none := by
  simp only [isSpace, Bool.or_eq_true, beq_iff_eq] at hc
  obtain ((rfl | rfl) | rfl) | rfl := hc <;> rfl

namespace Spells

theorem spaces {ws text : List Char} {ts : List Token} (hws : ∀ c ∈ ws, isSpace c = true) (h : Spells text ts) :
    Spells (ws ++ text) ts := by
  induction ws with
  | nil => exact h
  | cons c ws ih =>
    have hc : isSpace c = true := hws c (List.mem_cons_self ..)
    exact .space hc (ih fun d hd => hws d (List.mem_cons_of_mem c hd))

theorem tokensFrom_eq {text : List Char} {ts : List Token} (h : Spells text ts) :
    ∀ fuel, text.length ≤ fuel → tokensFrom fuel text = some ts := by
  induction h with
  | nil =>
    intro fuel _
    cases fuel <;> rfl
  | @space c text ts hc _ ih =>
    intro fuel hfuel
    cases fuel with
    | zero => simp at hfuel
    | succ fuel =>
      have hih := ih (fuel + 1) (by simp at hfuel; omega)
      simp only [tokensFrom, List.dropWhile_cons_of_pos hc] at hih ⊢
      exact hih
  | @token text rest t ts ht hshorter _ ih =>
    intro fuel hfuel
    cases fuel with
    | zero => omega
    | succ fuel =>
      cases text with
      | nil => simp at hshorter
      | cons c text =>
        have hc : ¬ isSpace c = true := by
          intro hc
          rw [token?_space hc] at ht
          cases ht
        have hih := ih fuel (by omega)
        simp only [tokensFrom, List.dropWhile_cons_of_neg hc, ht, Option.bind_eq_bind, Option.bind_some, hih]
        rfl

/-- What a text spells is what is read from it. -/
theorem tokens?_eq {text : List Char} {ts : List Token} (h : Spells text ts) : tokens? text = some ts :=
  h.tokensFrom_eq text.length (Nat.le_refl _)

end Spells

end SketchLayout.Json
