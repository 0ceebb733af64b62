import Mathlib.Algebra.Order.Field.Power
import Mathlib.Algebra.Order.Field.Rat
import Mathlib.Tactic.Linarith
import SketchLayout.Number.Binary
import SketchLayout.Proofs.Line

/-!
# Doubles in their order

A check on a double is a comparison, and a comparison with what is no number fails whichever way it is put.
`Scalar.lt_float` and `Scalar.le_float` say that doubles compare just as their places on the extended line do,
where `Reach.undefined` is neither below nor above anything: so what is proved of places is proved of checks,
and the double that slips through is known by name (`Float.isNaN_iff`).

Two doubles of one sign are compared by their exponents first and by their mantissas next. That this is the
order of their values rests on the form in which doubles are unpacked: mantissas have all fifty-three bits,
those at the least exponent apart (`Unpacked`).
-/

namespace SketchLayout

open Float.Model

/-! ## Sizes -/

/-- The mantissa and the exponent of a double that is neither zero nor an end of the line: the mantissa has
fifty-three bits, or fewer at the least exponent. -/
structure Unpacked (mant : Nat) (exp : Int) : Prop where
  mant_lt : mant < 9007199254740992
  least_le : -1074 ≤ exp
  full : exp = -1074 ∨ 4503599627370496 ≤ mant

theorem Binary.scaled_eq_zpow (mant : Nat) (exp : Int) : scaled mant exp = mant * (2 : Rat) ^ exp := by
  cases exp with
  | ofNat e => simp [scaled]
  | negSucc e =>
    rw [scaled, Rat.mkRat_eq_div, zpow_negSucc, div_eq_mul_inv]
    simp

namespace Unpacked
variable {m n : Nat} {e f : Int}

/-- A greater exponent makes a greater double: a full mantissa is at least half of any. -/
theorem scaled_lt_of_exp_lt (hm : Unpacked m e) (hn : Unpacked n f) (hef : e < f) :
    Binary.scaled m e < Binary.scaled n f := by
  have hfull : 4503599627370496 ≤ n := by
    have hleast := hm.least_le
    rcases hn.full with h | h
    · omega
    · exact h
  have hmant : (m : Rat) < 9007199254740992 := by exact_mod_cast hm.mant_lt
  have hmant' : (4503599627370496 : Rat) ≤ n := by exact_mod_cast hfull
  have hpow : (0 : Rat) < 2 ^ e := by positivity
  have hstep : (2 : Rat) ^ (e + 1) ≤ 2 ^ f := zpow_le_zpow_right₀ (by norm_num) (by omega)
  rw [Binary.scaled_eq_zpow, Binary.scaled_eq_zpow]
  calc (m : Rat) * 2 ^ e < 9007199254740992 * 2 ^ e := mul_lt_mul_of_pos_right hmant hpow
    _ = 4503599627370496 * 2 ^ (e + 1) := by rw [zpow_add_one₀ (by norm_num)]; ring
    _ ≤ 4503599627370496 * 2 ^ f := mul_le_mul_of_nonneg_left hstep (by norm_num)
    _ ≤ n * 2 ^ f := mul_le_mul_of_nonneg_right hmant' (by positivity)

end Unpacked

theorem Binary.scaled_lt_of_mant_lt {m n : Nat} (e : Int) (h : m < n) : scaled m e < scaled n e := by
  have hmant : (m : Rat) < n := by exact_mod_cast h
  rw [scaled_eq_zpow, scaled_eq_zpow]
  exact mul_lt_mul_of_pos_right hmant (by positivity)

theorem Binary.scaled_pos {m : Nat} (e : Int) (h : 0 < m) : 0 < scaled m e := by
  have hmant : (0 : Rat) < m := by exact_mod_cast h
  rw [scaled_eq_zpow]
  positivity

/-- **Exponents first, mantissas next**: that is how doubles of one sign compare. -/
theorem Unpacked.compare_eq {m n : Nat} {e f : Int} (hm : Unpacked m e) (hn : Unpacked n f) :
    (compare e f).then (compare m n) = cmp (Binary.scaled m e) (Binary.scaled n f) := by
  rcases lt_trichotomy e f with hlt | rfl | hgt
  · rw [Int.compare_eq_lt.2 hlt, (cmp_eq_lt_iff _ _).2 (scaled_lt_of_exp_lt hm hn hlt)]
    rfl
  · rw [Int.compare_eq_eq.2 rfl, Ordering.then]
    rcases lt_trichotomy m n with hlt | rfl | hgt
    · rw [Nat.compare_eq_lt.2 hlt, (cmp_eq_lt_iff _ _).2 (Binary.scaled_lt_of_mant_lt e hlt)]
    · rw [Nat.compare_eq_eq.2 rfl, (cmp_eq_eq_iff _ _).2 rfl]
    · rw [Nat.compare_eq_gt.2 hgt, (cmp_eq_gt_iff _ _).2 (Binary.scaled_lt_of_mant_lt e hgt)]
  · rw [Int.compare_eq_gt.2 hgt, (cmp_eq_gt_iff _ _).2 (scaled_lt_of_exp_lt hn hm hgt)]
    rfl

/-! ## Places -/

/-- How two places on the line compare. What is nowhere compares with nothing. -/
def Reach.order : Reach → Reach → Option Ordering
  | finite p, finite q => some (cmp p q)
  | undefined, _ | _, undefined => none
  | below, below | above, above => some .eq
  | below, _ | _, above => some .lt
  | above, _ | _, below => some .gt

theorem Reach.lt_eq_order (a b : Reach) : lt a b = (order a b == some .lt) := by
  cases a with
  | finite p =>
    cases b with
    | finite q => rw [lt, order, Bool.eq_iff_iff, decide_eq_true_iff, beq_iff_eq, Option.some.injEq, cmp_eq_lt_iff]
    | _ => rfl
  | _ => cases b <;> rfl

theorem Reach.le_eq_order (a b : Reach) : le a b = (order a b).any Ordering.isLE := by
  cases a with
  | finite p =>
    cases b with
    | finite q =>
      rw [le, order, Option.any_some, Bool.eq_iff_iff, decide_eq_true_iff, Ordering.isLE_iff_ne_gt]
      exact not_lt.symm.trans (not_congr (cmp_eq_gt_iff p q).symm)
    | _ => rfl
  | _ => cases b <;> rfl

/-- Of two places at most one is below the other. -/
theorem Reach.lt_asymm {a b : Reach} (h : lt a b = true) : lt b a = false := by
  cases a with
  | finite p =>
    cases b with
    | finite q =>
      rw [lt, decide_eq_true_iff] at h
      exact decide_eq_false (h.not_gt)
    | above => rfl
    | _ => cases h
  | below =>
    cases b with
    | finite q => rfl
    | above => rfl
    | _ => cases h
  | _ => cases h

/-- The place on the line that an unpacked double has. -/
inductive Stands : UnpackedFloat → Reach → Prop
  | nowhere : Stands .notANumber .undefined
  | below : Stands (.infinity .negative) .below
  | above : Stands (.infinity .positive) .above
  | zero (s : UnpackedFloat.Sign) : Stands (.zero s) (.finite 0)
  | positive {m : Nat} {e : Int} (h : 0 < m) (hm : Unpacked m e) :
      Stands (.finite .positive m e h) (.finite (Binary.scaled m e))
  | negative {m : Nat} {e : Int} (h : 0 < m) (hm : Unpacked m e) :
      Stands (.finite .negative m e h) (.finite (-Binary.scaled m e))

/-- Unpacked doubles compare as their places do. -/
theorem Stands.compare_eq {u v : UnpackedFloat} {a b : Reach} (hu : Stands u a) (hv : Stands v b) :
    u.compare v = Reach.order a b := by
  have hlt : ∀ {p q : Rat}, p < q → Reach.order (.finite p) (.finite q) = some .lt :=
    fun h => congrArg some ((cmp_eq_lt_iff _ _).2 h)
  have hgt : ∀ {p q : Rat}, q < p → Reach.order (.finite p) (.finite q) = some .gt :=
    fun h => congrArg some ((cmp_eq_gt_iff _ _).2 h)
  cases hu with
  | nowhere => cases hv <;> rfl
  | below => cases hv <;> rfl
  | above => cases hv <;> rfl
  | zero s =>
    cases hv with
    | zero t => exact congrArg some ((cmp_eq_eq_iff _ _).2 rfl).symm
    | positive h hm => exact (hlt (Binary.scaled_pos _ h)).symm
    | negative h hm => exact (hgt (neg_neg_of_pos (Binary.scaled_pos _ h))).symm
    | _ => rfl
  | positive h hm =>
    cases hv with
    | zero t => exact (hgt (Binary.scaled_pos _ h)).symm
    | positive h' hn => exact congrArg some (hm.compare_eq hn)
    | negative h' hn =>
      exact (hgt ((neg_neg_of_pos (Binary.scaled_pos _ h')).trans (Binary.scaled_pos _ h))).symm
    | _ => rfl
  | negative h hm =>
    cases hv with
    | zero t => exact (hlt (neg_neg_of_pos (Binary.scaled_pos _ h))).symm
    | positive h' hn =>
      exact (hlt ((neg_neg_of_pos (Binary.scaled_pos _ h)).trans (Binary.scaled_pos _ h'))).symm
    | negative h' hn =>
      -- below zero the greater size is the lesser double
      refine congrArg some ?_
      have hanti : StrictAnti (Neg.neg : Rat → Rat) := fun _ _ h => neg_lt_neg h
      rw [hm.compare_eq hn, cmp_swap, hanti.cmp_map_eq]
    | _ => rfl

/-! ## Words -/

section
variable (b : BitVec Format.binary64.numBits)

theorem toNat_unpackExponent :
    (UnpackedFloat.unpackExponent b).toNat = b.toNat / Binary.hiddenBit % 2048 := by
  show (b.toNat >>> 52) % 2 ^ 11 = _
  rw [Nat.shiftRight_eq_div_pow]
  rfl

theorem toNat_unpackMantissa : (UnpackedFloat.unpackMantissa b).toNat = b.toNat % Binary.hiddenBit := rfl

theorem toNat_unpackSign : (UnpackedFloat.unpackSign b).toNat = b.toNat / Binary.signBit % 2 := by
  show (b.toNat >>> 63) % 2 ^ 1 = _
  rw [Nat.shiftRight_eq_div_pow]
  rfl

end

theorem sign_cases (s : BitVec 1) :
    (UnpackedFloat.Sign.ofBitVec s = .positive ∧ (s.toNat == 1) = false) ∨
      (UnpackedFloat.Sign.ofBitVec s = .negative ∧ (s.toNat == 1) = true) := by
  by_cases hs : s = 0#1
  · subst hs
    exact .inl ⟨rfl, rfl⟩
  · have hone : s = 1#1 := by bv_omega
    subst hone
    exact .inr ⟨rfl, rfl⟩

theorem stands_finite (s : BitVec 1) {m m' : Nat} {e e' : Int} {edge : Bool} (h : 0 < m) (hm : Unpacked m' e')
    (hmant : m = m') (hexp : e = e') :
    Stands (.finite (.ofBitVec s) m e h) (Binary.finite (s.toNat == 1) m' e' edge).reach := by
  subst hmant hexp
  rcases sign_cases s with ⟨hs, hbit⟩ | ⟨hs, hbit⟩
  · rw [hs, hbit]
    exact .positive h hm
  · rw [hs, hbit]
    exact .negative h hm

theorem stands_zero (s : BitVec 1) {exp : Int} {edge : Bool} :
    Stands (.zero (.ofBitVec s)) (Binary.finite (s.toNat == 1) 0 exp edge).reach := by
  have hzero : (Binary.finite (s.toNat == 1) 0 exp edge).reach = .finite 0 := by
    simp [Binary.reach, Binary.scaled_eq_zpow]
  rw [hzero]
  exact .zero _

/-- The hidden bit in front of a mantissa. -/
theorem toNat_one_append (mantissa : BitVec 52) : (1#1 ++ mantissa).toNat = Binary.hiddenBit + mantissa.toNat := by
  rw [BitVec.toNat_append, ← Nat.shiftLeft_add_eq_or_of_lt mantissa.isLt]
  rfl

/-- A word unpacks to the place that its fields spell. -/
theorem stands_unpack (b : BitVec Format.binary64.numBits) :
    Stands (UnpackedFloat.unpack .binary64 b) (Binary.ofBits b.toNat).reach := by
  have hmantissa : (UnpackedFloat.unpackMantissa b).toNat < 4503599627370496 := (UnpackedFloat.unpackMantissa b).isLt
  have hexponent : (UnpackedFloat.unpackExponent b).toNat < 2048 := (UnpackedFloat.unpackExponent b).isLt
  delta UnpackedFloat.unpack Binary.ofBits
  dsimp only
  rw [← toNat_unpackExponent, ← toNat_unpackMantissa, ← toNat_unpackSign]
  -- one side tests a field as a vector of bits, the other as a number
  by_cases htop : UnpackedFloat.unpackExponent b = -1#11
  · have hfull : (UnpackedFloat.unpackExponent b).toNat = 2047 := congrArg BitVec.toNat htop
    rw [if_pos htop, if_pos (beq_iff_eq.2 hfull)]
    by_cases hmant : UnpackedFloat.unpackMantissa b = 0#52
    · have hnone : (UnpackedFloat.unpackMantissa b).toNat = 0 := congrArg BitVec.toNat hmant
      rw [if_pos hmant, if_pos (beq_iff_eq.2 hnone)]
      rcases sign_cases (UnpackedFloat.unpackSign b) with ⟨hs, hbit⟩ | ⟨hs, hbit⟩
      · rw [hs, hbit]
        exact .above
      · rw [hs, hbit]
        exact .below
    · have hsome : (UnpackedFloat.unpackMantissa b).toNat ≠ 0 := fun h => hmant (BitVec.eq_of_toNat_eq h)
      rw [if_neg hmant, if_neg (mt beq_iff_eq.1 hsome)]
      exact .nowhere
  · have hfull : (UnpackedFloat.unpackExponent b).toNat ≠ 2047 := fun h => htop (BitVec.eq_of_toNat_eq h)
    rw [if_neg htop, if_neg (mt beq_iff_eq.1 hfull)]
    by_cases hleast : UnpackedFloat.unpackExponent b = 0#11
    · have hexp : (UnpackedFloat.unpackExponent b).toNat = 0 := congrArg BitVec.toNat hleast
      rw [if_pos hleast, if_pos (beq_iff_eq.2 hexp)]
      by_cases hmant : UnpackedFloat.unpackMantissa b = 0#52
      · have hnone : (UnpackedFloat.unpackMantissa b).toNat = 0 := congrArg BitVec.toNat hmant
        rw [dif_pos hmant, hnone]
        exact stands_zero _
      · rw [dif_neg hmant]
        refine stands_finite _ _ ⟨by omega, by omega, .inl rfl⟩ rfl ?_
        rw [hexp]
        rfl
    · have hexp : (UnpackedFloat.unpackExponent b).toNat ≠ 0 := fun h => hleast (BitVec.eq_of_toNat_eq h)
      rw [if_neg hleast, if_neg (mt beq_iff_eq.1 hexp)]
      have hhidden : Binary.hiddenBit = 4503599627370496 := rfl
      have hbias : ((Format.binary64.exponentBias : Int) + (52 : Nat)) = 1075 := rfl
      exact stands_finite _ _ ⟨by omega, by omega, .inr (by omega)⟩ (toNat_one_append _) (by rw [hbias])

/-! ## Doubles -/

theorem stands_float (x : Float) : Stands x.toModel.unpack (Scalar.reach x) := stands_unpack x.toModel.toBits.toBitVec

/-- **Doubles compare as their places do.** -/
theorem Scalar.lt_float (x y : Float) : Scalar.lt x y = (Scalar.reach x).lt (Scalar.reach y) := by
  rw [Reach.lt_eq_order, ← (stands_float x).compare_eq (stands_float y)]
  show decide (decide (_ = true) = true) = _
  rw [Bool.decide_eq_true, Bool.decide_eq_true]
  rfl

theorem Scalar.le_float (x y : Float) : Scalar.le x y = (Scalar.reach x).le (Scalar.reach y) := by
  rw [Reach.le_eq_order, ← (stands_float x).compare_eq (stands_float y)]
  show decide (decide (_ = true) = true) = _
  rw [Bool.decide_eq_true, Bool.decide_eq_true]
  rfl

/-- What is no number has no place, and nothing else has none. -/
theorem isNaN_iff {x : Float} : x.isNaN = true ↔ Scalar.reach x = .undefined := by
  show x.toModel.unpack.isNaN = true ↔ _
  have h := stands_float x
  generalize x.toModel.unpack = u at h
  generalize Scalar.reach x = a at h
  cases h with
  | nowhere => exact ⟨fun _ => rfl, fun _ => rfl⟩
  | _ => exact ⟨Bool.noConfusion, Reach.noConfusion⟩

/-! ## What is not finite -/

/-- A double is its word. -/
theorem float_ext {x y : Float} (h : x.toBits.toNat = y.toBits.toNat) : x = y := by
  have hbits : x.toModel.toBits = y.toModel.toBits := UInt64.toNat_inj.1 h
  obtain ⟨⟨b, hb⟩⟩ := x
  obtain ⟨⟨c, hc⟩⟩ := y
  cases hbits
  rfl

theorem Binary.isFinite_of_exponent {word : Nat} (h : word / hiddenBit % 2048 ≠ 2047) :
    (ofBits word).isFinite = true := by
  unfold ofBits
  dsimp only
  rw [if_neg (by simpa using h)]
  split <;> rfl

/-- Three doubles are not finite: the one that is no number, and the two ends of the line. -/
theorem eq_of_not_finite {x : Float} (h : (Binary.ofFloat x).isFinite = false) :
    x = Float.ofBits 0x7ff8000000000000 ∨ x = Float.ofBits 0x7ff0000000000000 ∨
      x = Float.ofBits 0xfff0000000000000 := by
  have hlt : x.toBits.toNat < 18446744073709551616 := x.toBits.toNat_lt
  have htop : x.toBits.toNat / Binary.hiddenBit % 2048 = 2047 := by
    refine Classical.byContradiction fun hexp => ?_
    rw [Binary.ofFloat, Binary.isFinite_of_exponent hexp] at h
    cases h
  by_cases hfraction : x.toBits.toNat % Binary.hiddenBit = 0
  · have hcases : x.toBits.toNat = 0x7ff0000000000000 ∨ x.toBits.toNat = 0xfff0000000000000 := by
      simp only [Binary.hiddenBit] at htop hfraction
      omega
    rcases hcases with hbits | hbits
    · exact .inr (.inl (float_ext hbits))
    · exact .inr (.inr (float_ext hbits))
  · -- of the words with such a fraction one is a double
    have hexp : @UnpackedFloat.unpackExponent .binary64 x.toModel.toBits.toBitVec = -1#11 := by
      refine BitVec.eq_of_toNat_eq ?_
      rw [toNat_unpackExponent]
      exact htop
    have hmant : @UnpackedFloat.unpackMantissa .binary64 x.toModel.toBits.toBitVec ≠ 0#52 := by
      intro hzero
      exact hfraction (congrArg BitVec.toNat hzero)
    exact .inl (float_ext (congrArg BitVec.toNat (x.toModel.valid.eq_packedNaN hexp hmant)))

end SketchLayout
