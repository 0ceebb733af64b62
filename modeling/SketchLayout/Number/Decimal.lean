import SketchLayout.Number.Binary

/-!
# Decimal digits of a double

Two ways to write `mant · 2 ^ exp` in tens. *Shortest*: the fewest digits that lie among the reals
rounding to the double, and of those the nearest to it. *Fixed*: the exact value, rounded to a given
number of places with halves to the even neighbour. Both compare whole numbers only.
-/

namespace SketchLayout

/-- `digits · 10 ^ exp`. -/
structure Decimal where
  digits : Nat
  exp : Int
  deriving DecidableEq, Repr

/-- Which of two equally near digit strings is taken. -/
inductive Tie where
  | even
  | away
  deriving DecidableEq, Repr

namespace Decimal

/-- Moves trailing zeros from the digits to the exponent, at most `fuel` of them. -/
def strip : Nat → Decimal → Decimal
  | 0, d => d
  | fuel + 1, d =>
    if d.digits % 10 == 0 && d.digits != 0 then strip fuel ⟨d.digits / 10, d.exp + 1⟩ else d

/-- Compares `a · 10 ^ i` with `b · 2 ^ j`, exactly. -/
def compareScaled (a : Nat) (i : Int) (b : Nat) (j : Int) : Ordering :=
  compare (a * Nat.pow 10 i.toNat * Nat.pow 2 (-j).toNat)
    (b * Nat.pow 2 j.toNat * Nat.pow 10 (-i).toNat)

/-- Whether a decimal lies among the reals that round to `mant · 2 ^ exp`: between the midpoints to
the two neighbours, midpoints included when the mantissa is even. -/
def roundsTo (mant : Nat) (exp : Int) (edge : Bool) (d : Decimal) : Bool :=
  let low := compareScaled d.digits d.exp (if edge then 4 * mant - 1 else 4 * mant - 2) (exp - 2)
  let high := compareScaled d.digits d.exp (4 * mant + 2) (exp - 2)
  let ends := mant % 2 == 0
  (low == .gt || (ends && low == .eq)) && (high == .lt || (ends && high == .eq))

/-- The number of decimal digits of a positive number, and 1 for zero. -/
def width (n : Nat) : Nat := (Nat.toDigits 10 n).length

/-- The place of the leading digit of `mant · 2 ^ exp`: the value lies in `[10 ^ p, 10 ^ (p + 1))`. -/
def leadingPlace (mant : Nat) (exp : Int) : Int :=
  if 0 ≤ exp then width (mant * Nat.pow 2 exp.toNat) - 1
  else
    -- fifty-three bits and an exponent of −1074 leave at most 324 leading zeros
    let shift : Nat := 330
    (width (mant * Nat.pow 10 shift / Nat.pow 2 (-exp).toNat) : Int) - 1 - shift

/-- The largest multiple of `10 ^ place` that is not above `mant · 2 ^ exp`, counted in such
multiples. -/
def floorAt (mant : Nat) (exp : Int) (place : Int) : Nat :=
  (mant * Nat.pow 2 exp.toNat * Nat.pow 10 (-place).toNat) /
    (Nat.pow 2 (-exp).toNat * Nat.pow 10 place.toNat)

/-- The best decimal with its last digit at `place`, if one of the value's two neighbours there
rounds to it: the nearer of the two, and on a tie the one `tie` names. -/
def atPlace? (tie : Tie) (mant : Nat) (exp : Int) (edge : Bool) (place : Int) : Option Decimal :=
  let below : Decimal := ⟨floorAt mant exp place, place⟩
  let above : Decimal := ⟨below.digits + 1, place⟩
  match roundsTo mant exp edge below, roundsTo mant exp edge above with
  | false, false => none
  | true, false => some below
  | false, true => some above
  | true, true =>
    match compareScaled (2 * below.digits + 1) place (2 * mant) exp with
    | .gt => some below
    | .lt => some above
    | .eq =>
      match tie with
      | .away => some above
      | .even => some (if below.digits % 2 == 0 then below else above)

/-- The exact value, for which no digit is lost. -/
def exact (mant : Nat) (exp : Int) : Decimal :=
  if 0 ≤ exp then ⟨mant * Nat.pow 2 exp.toNat, 0⟩ else ⟨mant * Nat.pow 5 (-exp).toNat, exp⟩

/-- The fewest digits that round to `mant · 2 ^ exp`, without trailing zeros. -/
def shortest (tie : Tie) (mant : Nat) (exp : Int) (edge : Bool) : Decimal :=
  if mant == 0 then ⟨0, 0⟩
  else
    let lead := leadingPlace mant exp
    let found := (List.range 17).findSome? fun (n : Nat) => atPlace? tie mant exp edge (lead - n)
    strip 400 (found.getD (exact mant exp))

/-- The nearest whole number to `num / den`, halves to the even neighbour. -/
def roundEven (num den : Nat) : Nat :=
  let q := num / den
  match compare (2 * (num % den)) den with
  | .lt => q
  | .gt => q + 1
  | .eq => if q % 2 == 0 then q else q + 1

/-- `mant · 2 ^ exp` in units of `10 ^ -places`, rounded half to even. -/
def fixed (mant : Nat) (exp : Int) (places : Nat) : Nat :=
  roundEven (mant * Nat.pow 2 exp.toNat * Nat.pow 10 places) (Nat.pow 2 (-exp).toNat)

end Decimal

end SketchLayout
