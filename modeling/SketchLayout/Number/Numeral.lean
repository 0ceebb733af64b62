import SketchLayout.Number.Decimal

/-!
# Written numbers

How a double is written: which exponents are written positionally, what the exponent looks like,
what stands for the values that are no numbers. A `Numeral` collects these choices; the digits come
from `Decimal`. `plain` is the form of messages and dimension texts, `document` the form of JSON
documents, and `fixed` writes a given number of places for tables.
-/

namespace SketchLayout

/-- The choices in writing a double. -/
structure Numeral where
  /-- which digits on a tie -/
  tie : Tie
  /-- the places of the leading digit that are written positionally; `none` for all -/
  positional : Option (Int × Int)
  /-- whether a whole number keeps `.0` -/
  pointZero : Bool
  deriving Repr

namespace Numeral

/-- Messages and dimension texts: positional throughout, no needless point, ties away from zero. -/
def plain : Numeral := ⟨.away, none, false⟩

/-- JSON documents: positional from `1e-5` up to `1e16`, with at least one decimal place there. -/
def document : Numeral := ⟨.even, some (-5, 16), true⟩

def digits (n : Nat) : List Char := Nat.toDigits 10 n

/-- A number with `places` of its digits behind the point, and no point when there are none. -/
def pointed (n : Nat) (places : Nat) : List Char :=
  let ds := digits n
  let ds := List.replicate (places + 1 - ds.length) '0' ++ ds
  let whole := ds.take (ds.length - places)
  if places == 0 then whole else whole ++ '.' :: ds.drop (ds.length - places)

/-- A decimal without an exponent. -/
def writePositional (pointZero : Bool) (d : Decimal) : List Char :=
  if 0 ≤ d.exp then
    digits d.digits ++ List.replicate d.exp.toNat '0' ++ (if pointZero then ['.', '0'] else [])
  else pointed d.digits (-d.exp).toNat

/-- A decimal with one digit before the point and a signed exponent. -/
def writeScientific (d : Decimal) : List Char :=
  let ds := digits d.digits
  let lead := d.exp + ds.length - 1
  let sign := if lead < 0 then '-' else '+'
  (match ds with
    | [] => []
    | [c] => [c]
    | c :: rest => c :: '.' :: rest) ++ 'e' :: sign :: digits lead.natAbs

/-- Whether the leading digit of a decimal is at a place that is written positionally. -/
def isPositional (form : Numeral) (d : Decimal) : Bool :=
  match form.positional with
  | none => true
  | some (first, last) =>
    let lead := d.exp + (digits d.digits).length - 1
    d.digits == 0 || (first ≤ lead && lead < last)

/-- A minus sign in front of a negative number's text. -/
def signed (negative : Bool) (text : List Char) : List Char := if negative then '-' :: text else text

def write (form : Numeral) : Binary → List Char
  | .undefined => "NaN".toList
  | .infinite negative => signed negative "inf".toList
  | .finite negative mant exp edge =>
    let d := Decimal.shortest form.tie mant exp edge
    signed negative (if form.isPositional d then writePositional form.pointZero d
      else writeScientific d)

/-- The text of a double's content with a fixed number of places. Places beyond the last digit of
the exact value are zeros. -/
def writeFixed (places : Nat) : Binary → List Char
  | .undefined => "NaN".toList
  | .infinite negative => signed negative "inf".toList
  | .finite negative mant exp _ =>
    let known := min places (-exp).toNat
    let text := pointed (Decimal.fixed mant exp known) known
    let point := if known == 0 && places != 0 then ['.'] else []
    signed negative (text ++ point ++ List.replicate (places - known) '0')

def ofFloat (x : Float) : String := String.ofList (plain.write (.ofFloat x))

def fixed (places : Nat) (x : Float) : String := String.ofList (writeFixed places (.ofFloat x))

end Numeral

end SketchLayout
