import SketchLayout.Number.Binary

/-!
# Reading numbers

The grammar of number texts given by users, for sizes and for counts (`parse`). A float literal is
an optional sign followed by `inf`, `infinity` or `nan` in any letter case, or by digits with an
optional point and an optional exponent, at least one digit standing before or after the point; it
means the double nearest to the decimal it spells. A count literal is an optional plus sign and
digits, below `2 ^ 64`.
-/

namespace SketchLayout

def digit? (c : Char) : Option Nat := if c.isDigit then some (c.toNat - '0'.toNat) else none

/-- The number that a run of digits spells. -/
def digitsValue (ds : List Char) : Nat := ds.foldl (fun n c => 10 * n + (c.toNat - '0'.toNat)) 0

/-- A decimal as a user spells it: `± digits · 10 ^ exp`. -/
structure Spelled where
  negative : Bool
  digits : Nat
  exp : Int
  deriving DecidableEq, Repr

namespace Spelled

/-- The double nearest to a spelled decimal, halves to the even one. A decimal beyond the range of
doubles is settled by the place of its leading digit. -/
def toFloat (s : Spelled) : Float :=
  let lead := s.exp + (Nat.toDigits 10 s.digits).length
  let size : Float :=
    if s.digits == 0 || lead < -330 then 0
    else if 310 < lead then Float.ofBits 0x7ff0000000000000
    else Float.ofScientific s.digits (decide (s.exp < 0)) s.exp.natAbs
  if s.negative then -size else size

end Spelled

namespace FloatLiteral

/-- Splits off a sign; the flag tells whether it is a minus. -/
def sign : List Char → Bool × List Char
  | '-' :: rest => (true, rest)
  | '+' :: rest => (false, rest)
  | rest => (false, rest)

/-- An exponent: a sign and at least one digit, up to the end of the text. -/
def exponent? (text : List Char) : Option Int :=
  let (negative, ds) := sign text
  if ds.isEmpty || !ds.all Char.isDigit then none
  else some (if negative then -(digitsValue ds : Int) else digitsValue ds)

/-- An unsigned decimal: digits with an optional point, and an optional exponent. -/
def decimal? (text : List Char) : Option (Nat × Int) := do
  let whole := text.takeWhile Char.isDigit
  let rest := text.dropWhile Char.isDigit
  let (frac, rest) := match rest with
    | '.' :: rest => (rest.takeWhile Char.isDigit, rest.dropWhile Char.isDigit)
    | rest => ([], rest)
  if whole.isEmpty && frac.isEmpty then none
  let exp ← match rest with
    | [] => some 0
    | c :: rest => if c == 'e' || c == 'E' then exponent? rest else none
  return (digitsValue (whole ++ frac), exp - frac.length)

/-- The double that a text spells, if it is a float literal. -/
def read? (text : List Char) : Option Float :=
  let (negative, rest) := sign text
  let word := String.ofList (rest.map Char.toLower)
  if word == "inf" || word == "infinity" then
    some (Float.ofBits (if negative then 0xfff0000000000000 else 0x7ff0000000000000))
  else if word == "nan" then some (Float.ofBits 0x7ff8000000000000)
  else (decimal? rest).map fun (digits, exp) => Spelled.toFloat ⟨negative, digits, exp⟩

end FloatLiteral

/-- Why a text is no count. -/
inductive CountFault where
  | empty
  | strayCharacter
  | tooLarge
  deriving DecidableEq, Repr

def CountFault.message : CountFault → String
  | .empty => "cannot parse integer from empty string"
  | .strayCharacter => "invalid digit found in string"
  | .tooLarge => "number too large to fit in target type"

namespace CountLiteral

/-- The first number that is too large for a count: two to the sixty-fourth. -/
def bound : Nat := 0x10000000000000000

/-- One more digit of a count. A stray character is reported before an overflow. -/
def push (n : Nat) (c : Char) : Except CountFault Nat :=
  match digit? c with
  | none => .error .strayCharacter
  | some d => if 10 * n + d < bound then .ok (10 * n + d) else .error .tooLarge

/-- The count that a text spells. A lone sign is a stray character. -/
def read (text : List Char) : Except CountFault Nat :=
  match text with
  | [] => .error .empty
  | ['+'] => .error .strayCharacter
  | '+' :: ds => ds.foldlM push 0
  | ds => ds.foldlM push 0

end CountLiteral

end SketchLayout
