import SketchLayout.Scalar

/-!
# Doubles taken apart

A double is not a number, an infinity, or a signed whole number of units `2 ^ exp`. `Binary.ofFloat`
reads that off the sixty-four bits. Everything exact that is said of doubles (their decimal text,
the whole units in them) is said of this form.
-/

namespace SketchLayout

/-- The exact content of a double. -/
inductive Binary where
  | undefined
  | infinite (negative : Bool)
  /-- `± mant · 2 ^ exp`; `edge` says that the gap below is half the gap above. -/
  | finite (negative : Bool) (mant : Nat) (exp : Int) (edge : Bool)
  deriving DecidableEq, Repr

namespace Binary

/-- The bit of a word that holds the sign: two to the sixty-third. -/
def signBit : Nat := 0x8000000000000000

/-- The leading bit of a full mantissa, which a word leaves out: two to the fifty-second. -/
def hiddenBit : Nat := 0x10000000000000

/-- Reads the fields of a word: one bit of sign, eleven of exponent, fifty-two of fraction. -/
def ofBits (word : Nat) : Binary :=
  let negative := word / signBit % 2 == 1
  let exponent : Nat := word / hiddenBit % 2048
  let fraction : Nat := word % hiddenBit
  if exponent == 2047 then
    if fraction == 0 then .infinite negative else .undefined
  else if exponent == 0 then .finite negative fraction (-1074) false
  else .finite negative (hiddenBit + fraction) (exponent - 1075) (fraction == 0 && exponent > 1)

def ofFloat (x : Float) : Binary := ofBits x.toBits.toNat

/-- `mant · 2 ^ exp`. -/
def scaled (mant : Nat) (exp : Int) : Rat :=
  match exp with
  | .ofNat e => ((mant * Nat.pow 2 e : Nat) : Rat)
  | .negSucc e => mkRat mant (Nat.pow 2 (e + 1))

def reach : Binary → Reach
  | .undefined => .undefined
  | .infinite true => .below
  | .infinite false => .above
  | .finite negative mant exp _ =>
    .finite (if negative then -scaled mant exp else scaled mant exp)

def isFinite : Binary → Bool
  | .finite .. => true
  | _ => false

end Binary

/-- Doubles are lengths; their arithmetic rounds to the nearest double. -/
instance : Scalar Float where
  ofNat := Float.ofNat
  lt a b := decide (a < b)
  le a b := decide (a ≤ b)
  reach x := (Binary.ofFloat x).reach

end SketchLayout
