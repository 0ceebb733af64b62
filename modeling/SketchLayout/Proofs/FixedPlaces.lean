import Mathlib.Data.Rat.Floor
import Mathlib.Tactic.FieldSimp
import Mathlib.Tactic.Linarith
import SketchLayout.Proofs.NumberTexts

/-!
# Numbers with fixed places

A double written with a fixed number of places is its exact value, rounded once. `NearestEven` says what
rounding to whole units means, `Numeral.Shows` which number a text with just so many places spells, and
`Numeral.rounds_writeFixed` ties the two: the text spells the number of units that is nearest to the exact
value, the even one of two equally near ones. Digits behind the last one of the exact value are zeros, so
however many places are asked for nothing is rounded twice.
-/

namespace SketchLayout

/-! ## Rounding to whole units -/

/-- No whole number of units is nearer to a rational than `k` units, and none that is equally near unless
`k` is even. -/
structure NearestEven (unit q : Rat) (k : Int) : Prop where
  nearest : ∀ m : Int, |k * unit - q| ≤ |m * unit - q|
  even : ∀ m : Int, m ≠ k → |k * unit - q| = |m * unit - q| → k % 2 = 0

namespace NearestEven
variable {unit q : Rat} {k : Int}

theorem neg (h : NearestEven unit q k) : NearestEven unit (-q) (-k) := by
  have hflip : ∀ m : Int, |((-m : Int) : Rat) * unit - -q| = |m * unit - q| := by
    intro m
    rw [← abs_neg]
    congr 1
    push_cast
    ring
  constructor
  · intro m
    have hm := h.nearest (-m)
    rwa [hflip k, ← neg_neg m, hflip (-m)]
  · intro m hne heq
    rw [hflip k, ← neg_neg m, hflip (-m)] at heq
    have := h.even (-m) (by omega) heq
    omega

/-- Within half a unit nothing is nearer, for two whole numbers of units are a unit apart. -/
theorem of_half (hunit : 0 < unit) (hle : |k * unit - q| ≤ unit / 2) (heven : |k * unit - q| = unit / 2 → k % 2 = 0) :
    NearestEven unit q k := by
  have hstep : ∀ m : Int, m ≠ k → unit ≤ |k * unit - q| + |m * unit - q| := by
    intro m hne
    have hapart : (1 : Rat) ≤ |(m : Rat) - k| := by
      have hint : 1 ≤ |m - k| := Int.one_le_abs (sub_ne_zero.2 hne)
      exact_mod_cast hint
    calc unit ≤ |(m : Rat) - k| * unit := le_mul_of_one_le_left hunit.le hapart
      _ = |(m - k) * unit| := by rw [abs_mul, abs_of_pos hunit]
      _ = |(m * unit - q) - (k * unit - q)| := by ring_nf
      _ ≤ |m * unit - q| + |k * unit - q| := abs_sub _ _
      _ = |k * unit - q| + |m * unit - q| := add_comm _ _
  constructor
  · intro m
    rcases eq_or_ne m k with rfl | hne
    · exact le_rfl
    · have := hstep m hne
      linarith
  · intro m hne heq
    have := hstep m hne
    exact heven (by linarith)

/-- An exact number of units needs no rounding. -/
theorem of_eq (hunit : 0 < unit) (h : k * unit = q) : NearestEven unit q k := by
  have hzero : |k * unit - q| = 0 := by rw [h, sub_self, abs_zero]
  refine of_half hunit ?_ fun htie => ?_
  · rw [hzero]
    linarith
  · rw [hzero] at htie
    linarith

end NearestEven

namespace Decimal

/-- The nearest whole number to a quotient, compared without dividing. -/
theorem roundEven_near (num : Nat) {den : Nat} (hden : 0 < den) :
    (2 * num ≤ 2 * (roundEven num den * den) + den ∧ 2 * (roundEven num den * den) ≤ 2 * num + den) ∧
      (2 * num = 2 * (roundEven num den * den) + den ∨ 2 * (roundEven num den * den) = 2 * num + den →
        roundEven num den % 2 = 0) := by
  have hsplit : num / den * den + num % den = num := Nat.div_add_mod' num den
  have hrest : num % den < den := Nat.mod_lt num hden
  have hnext : (num / den + 1) * den = num / den * den + den := Nat.succ_mul _ _
  unfold roundEven
  simp only
  split
  · rename_i hlt
    rw [Nat.compare_eq_lt] at hlt
    omega
  · rename_i hgt
    rw [Nat.compare_eq_gt] at hgt
    rw [hnext]
    omega
  · rename_i heq
    rw [Nat.compare_eq_eq] at heq
    split
    · rename_i heven
      have heven : num / den % 2 = 0 := by simpa using heven
      omega
    · rename_i hodd
      have hodd : ¬ num / den % 2 = 0 := by simpa using hodd
      rw [hnext]
      omega

/-- A quotient without remainder is not rounded. -/
theorem roundEven_mul {den : Nat} (hden : 0 < den) (k : Nat) : roundEven (den * k) den = k := by
  unfold roundEven
  rw [Nat.mul_mod_right, Nat.mul_div_cancel_left k hden, Nat.mul_zero]
  have hlt : compare 0 den = .lt := Nat.compare_eq_lt.2 hden
  rw [hlt]

/-- The nearest whole number of units to an exact value, units and value as quotients by whole numbers. -/
theorem nearestEven_roundEven (num : Nat) {den unit : Nat} (hden : 0 < den) (hunit : 0 < unit) :
    NearestEven (1 / unit) (num / (den * unit)) (roundEven num den) := by
  have hden' : (0 : Rat) < den := by exact_mod_cast hden
  have hunit' : (0 : Rat) < unit := by exact_mod_cast hunit
  have hscale : (0 : Rat) < 2 * den * unit := by positivity
  obtain ⟨⟨hlow, hhigh⟩, htie⟩ := roundEven_near num hden
  generalize roundEven num den = k at hlow hhigh htie
  have hdist : ((k : Int) : Rat) * (1 / unit) - num / (den * unit) = (2 * (k * den) - 2 * num) / (2 * den * unit) := by
    push_cast
    field_simp
  have hhalf : (1 : Rat) / unit / 2 = den / (2 * den * unit) := by field_simp
  have hlow' : (2 : Rat) * num ≤ 2 * (k * den) + den := by exact_mod_cast hlow
  have hhigh' : (2 : Rat) * (k * den) ≤ 2 * num + den := by exact_mod_cast hhigh
  refine .of_half (by positivity) ?_ fun heq => ?_
  · rw [hdist, hhalf, abs_div, abs_of_pos hscale, div_le_div_iff_of_pos_right hscale, abs_le]
    constructor <;> linarith
  · rw [hdist, hhalf, abs_div, abs_of_pos hscale, div_left_inj' hscale.ne', abs_eq hden'.le] at heq
    have heven : k % 2 = 0 := by
      refine htie (heq.symm.imp (fun h => ?_) fun h => ?_)
      · have : (2 : Rat) * num = 2 * (k * den) + den := by linarith
        exact_mod_cast this
      · have : (2 : Rat) * (k * den) = 2 * num + den := by linarith
        exact_mod_cast this
    omega

end Decimal

/-! ## Exact values -/

/-- The size of a double as a quotient of whole numbers. -/
theorem Binary.scaled_eq (mant : Nat) (exp : Int) :
    scaled mant exp = ((mant * Nat.pow 2 exp.toNat : Nat) : Rat) / (Nat.pow 2 (-exp).toNat : Nat) := by
  cases exp with
  | ofNat e =>
    have hneg : (-Int.ofNat e).toNat = 0 := by simp
    rw [hneg]
    simp [scaled]
  | negSucc e =>
    have hpos : (Int.negSucc e).toNat = 0 := rfl
    have hneg : (-Int.negSucc e).toNat = e + 1 := by simp
    rw [hpos, hneg, scaled, Rat.mkRat_eq_div]
    simp

/-- The places that are worked out are enough: the number of units of `10 ^ -places` is rounded once. -/
theorem Decimal.nearestEven_fixed (mant : Nat) (exp : Int) (places : Nat) :
    NearestEven (1 / 10 ^ places) (Binary.scaled mant exp)
      (fixed mant exp (min places (-exp).toNat) * 10 ^ (places - min places (-exp).toNat) : Nat) := by
  have htwo : 0 < Nat.pow 2 (-exp).toNat := Nat.pow_pos (by decide)
  have hten : ∀ n : Nat, ((Nat.pow 10 n : Nat) : Rat) = 10 ^ n := fun n => by simp
  rw [Binary.scaled_eq]
  rcases Nat.le_total places (-exp).toNat with hle | hle
  · -- as many places as are asked for: the quotient itself is rounded
    have hunit : 0 < Nat.pow 10 places := Nat.pow_pos (by decide)
    have hnear := nearestEven_roundEven (mant * Nat.pow 2 exp.toNat * Nat.pow 10 places) htwo hunit
    rw [Nat.min_eq_left hle, Nat.sub_self, pow_zero, Nat.mul_one]
    have hcancel : ((mant * Nat.pow 2 exp.toNat * Nat.pow 10 places : Nat) : Rat) /
        ((Nat.pow 2 (-exp).toNat : Nat) * (Nat.pow 10 places : Nat)) =
        ((mant * Nat.pow 2 exp.toNat : Nat) : Rat) / (Nat.pow 2 (-exp).toNat : Nat) := by
      rw [Nat.cast_mul _ (Nat.pow 10 places), mul_div_mul_right]
      exact_mod_cast hunit.ne'
    rwa [hcancel, hten] at hnear
  · -- the last digit of the exact value comes before: the quotient is whole, and zeros follow
    have hwhole : fixed mant exp (-exp).toNat = mant * Nat.pow 2 exp.toNat * Nat.pow 5 (-exp).toNat := by
      have hnum : mant * Nat.pow 2 exp.toNat * Nat.pow 10 (-exp).toNat =
          Nat.pow 2 (-exp).toNat * (mant * Nat.pow 2 exp.toNat * Nat.pow 5 (-exp).toNat) := by
        have hsplit : Nat.pow 10 (-exp).toNat = Nat.pow 2 (-exp).toNat * Nat.pow 5 (-exp).toNat :=
          Nat.mul_pow 2 5 (-exp).toNat
        rw [hsplit]
        ac_rfl
      rw [fixed, hnum, roundEven_mul htwo]
    rw [Nat.min_eq_right hle, hwhole]
    refine .of_eq (by positivity) ?_
    have hplaces : (10 : Rat) ^ places = 10 ^ (-exp).toNat * 10 ^ (places - (-exp).toNat) := by
      rw [← pow_add, Nat.add_sub_cancel' hle]
    have hsplit : (10 : Rat) ^ (-exp).toNat = 2 ^ (-exp).toNat * 5 ^ (-exp).toNat := by
      rw [← mul_pow]
      norm_num
    rw [hplaces, hsplit]
    push_cast
    simp only [Nat.pow_eq, Nat.cast_pow, Nat.cast_ofNat]
    field_simp

/-! ## Digits -/

/-- Zeros in front count for nothing. -/
theorem digitsValue_zeros_append (k : Nat) (ds : List Char) :
    digitsValue (List.replicate k '0' ++ ds) = digitsValue ds := by
  induction k with
  | zero => rfl
  | succ k ih =>
    rw [← ih]
    rfl

/-- Zeros behind count for a power of ten. -/
theorem digitsValue_append_zeros (ds : List Char) (k : Nat) :
    digitsValue (ds ++ List.replicate k '0') = digitsValue ds * 10 ^ k := by
  induction k with
  | zero => simp
  | succ k ih =>
    have hlast : digitsValue (ds ++ List.replicate k '0' ++ ['0']) = 10 * digitsValue (ds ++ List.replicate k '0') := by
      simp [digitsValue]
    rw [List.replicate_succ', ← List.append_assoc, hlast, ih, pow_succ]
    ring

theorem isDigit_of_mem_replicate {k : Nat} {c : Char} (h : c ∈ List.replicate k '0') : c.isDigit = true := by
  rw [List.eq_of_mem_replicate h]
  rfl

namespace Numeral

/-- Whether a text spells `n` with the point before the last `places` of its digits, at least one digit in
front of the point, and no point when there are no places. -/
def Shows (places n : Nat) (text : List Char) : Prop :=
  ∃ whole rest, text = (if places = 0 then whole else whole ++ '.' :: rest) ∧ whole ≠ [] ∧ rest.length = places ∧
    (∀ c ∈ whole ++ rest, c.isDigit = true) ∧ digitsValue (whole ++ rest) = n

theorem shows_pointed (n places : Nat) : Shows places n (pointed n places) := by
  have hpadded : ∃ ds, ds = List.replicate (places + 1 - (digits n).length) '0' ++ digits n ∧ places < ds.length ∧
      (∀ c ∈ ds, c.isDigit = true) ∧ digitsValue ds = n := by
    refine ⟨_, rfl, ?_, fun c hc => ?_, ?_⟩
    · rw [List.length_append, List.length_replicate]
      omega
    · rcases List.mem_append.mp hc with hzero | hdigit
      · exact isDigit_of_mem_replicate hzero
      · exact Json.isDigit_of_mem_digits hdigit
    · rw [digitsValue_zeros_append, Json.digitsValue_digits]
  obtain ⟨ds, hds, hlength, hdigits, hvalue⟩ := hpadded
  have hsplit : ds.take (ds.length - places) ++ ds.drop (ds.length - places) = ds := List.take_append_drop _ ds
  refine ⟨ds.take (ds.length - places), ds.drop (ds.length - places), ?_, ?_, ?_, ?_, ?_⟩
  · simp only [pointed, ← hds, beq_iff_eq]
  · rw [← List.length_pos_iff, List.length_take]
    omega
  · rw [List.length_drop]
    omega
  · rwa [hsplit]
  · rwa [hsplit]

/-- More places are zeros behind the digits that are there. -/
theorem Shows.zeros {known places n : Nat} {text : List Char} (h : Shows known n text) (hle : known ≤ places) :
    Shows places (n * 10 ^ (places - known))
      (text ++ (if known == 0 && places != 0 then ['.'] else []) ++ List.replicate (places - known) '0') := by
  obtain ⟨whole, rest, rfl, hne, hlength, hdigits, rfl⟩ := h
  refine ⟨whole, rest ++ List.replicate (places - known) '0', ?_, hne, ?_, fun c hc => ?_, ?_⟩
  · by_cases hplaces : places = 0
    · have hknown : known = 0 := by omega
      simp [hplaces, hknown]
    · by_cases hknown : known = 0
      · have hrest : rest = [] := List.eq_nil_of_length_eq_zero (hlength.trans hknown)
        simp [hplaces, hknown, hrest]
      · simp [hplaces, hknown]
  · rw [List.length_append, List.length_replicate, hlength]
    omega
  · rw [← List.append_assoc] at hc
    rcases List.mem_append.mp hc with hthere | hzero
    · exact hdigits c hthere
    · exact isDigit_of_mem_replicate hzero
  · rw [← List.append_assoc, digitsValue_append_zeros]

/-- Whether a text spells the number of units of `10 ^ -places` that is nearest to a rational, with a minus
sign for the negative. -/
def Rounds (places : Nat) (q : Rat) (text : List Char) : Prop :=
  ∃ (negative : Bool) (n : Nat) (shown : List Char), text = signed negative shown ∧ Shows places n shown ∧
    NearestEven (1 / 10 ^ places) q (if negative then -(n : Int) else n)

/-- **A double is written rounded once**, to the nearest number with so many places. -/
theorem rounds_writeFixed {b : Binary} {q : Rat} (h : b.reach = .finite q) (places : Nat) :
    Rounds places q (writeFixed places b) := by
  cases b with
  | undefined => cases h
  | infinite negative => cases negative <;> cases h
  | finite negative mant exp edge =>
    have hle : min places (-exp).toNat ≤ places := Nat.min_le_left _ _
    have hshows := (shows_pointed (Decimal.fixed mant exp (min places (-exp).toNat)) _).zeros hle
    have hnear := Decimal.nearestEven_fixed mant exp places
    refine ⟨negative, _, _, rfl, hshows, ?_⟩
    have hq : (if negative then -Binary.scaled mant exp else Binary.scaled mant exp) = q := Reach.finite.inj h
    rw [← hq]
    cases negative with
    | false => exact hnear
    | true => exact hnear.neg

/-- Half a unit above an even number of units, and above an odd one. -/
example : fixed 3 0.0625 = "0.062" ∧ fixed 1 (-0.75) = "-0.8" := by decide +kernel

theorem pointed_ne_nil (n places : Nat) : pointed n places ≠ [] := by
  obtain ⟨whole, rest, htext, hne, -⟩ := shows_pointed n places
  rw [htext]
  split
  · exact hne
  · simp

theorem signed_ne_nil {negative : Bool} {text : List Char} (h : text ≠ []) : signed negative text ≠ [] := by
  cases negative
  · exact h
  · exact List.cons_ne_nil _ _

theorem writeFixed_ne_nil (places : Nat) (b : Binary) : writeFixed places b ≠ [] := by
  cases b with
  | undefined => exact List.cons_ne_nil _ _
  | infinite negative => exact signed_ne_nil (by decide)
  | finite negative mant exp edge =>
    refine signed_ne_nil ?_
    simp only [List.append_assoc, ne_eq, List.append_eq_nil_iff, not_and]
    exact fun h => absurd h (pointed_ne_nil _ _)

theorem plainChar_writeFixed (places : Nat) (b : Binary) : ∀ c ∈ writeFixed places b, plainChar c = true := by
  cases b with
  | undefined => exact List.all_eq_true.mp rfl
  | infinite negative => exact plainChar_signed (List.all_eq_true.mp rfl)
  | finite negative mant exp edge =>
    refine plainChar_signed fun c hc => ?_
    rcases List.mem_append.mp hc with hthere | hzero
    · rcases List.mem_append.mp hthere with hpointed | hpoint
      · exact plainChar_pointed hpointed
      · split at hpoint
        · rw [List.mem_singleton.mp hpoint]
          rfl
        · cases hpoint
    · rw [List.eq_of_mem_replicate hzero]
      rfl

end Numeral

end SketchLayout
