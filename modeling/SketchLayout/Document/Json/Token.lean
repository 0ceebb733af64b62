import SketchLayout.Number.Literal

/-!
# JSON tokens

A JSON text is a sequence of tokens with white space between them: brackets, commas and colons,
words, numbers and texts. No two tokens that begin a value can stand side by side, so what runs
together is told apart later. A text may name half of a pair of surrogates, which is a token but no
text.
-/

namespace SketchLayout.Json

/-- A number as it is spelled. -/
structure NumberToken where
  spelled : Spelled
  /-- neither a point nor an exponent -/
  whole : Bool
  deriving DecidableEq, Repr

inductive Token where
  | openList
  | closeList
  | openObject
  | closeObject
  | comma
  | colon
  | null
  | bool (b : Bool)
  | number (n : NumberToken)
  /-- `none` for a text with a lone surrogate -/
  | text (s : Option String)
  deriving DecidableEq, Repr

def isSpace (c : Char) : Bool := c == ' ' || c == '\n' || c == '\t' || c == '\r'

def hexDigit? (c : Char) : Option Nat :=
  if c.isDigit then some (c.toNat - '0'.toNat)
  else if 'a' ≤ c && c ≤ 'f' then some (c.toNat - 'a'.toNat + 10)
  else if 'A' ≤ c && c ≤ 'F' then some (c.toNat - 'A'.toNat + 10)
  else none

/-- The number that four hexadecimal digits spell. -/
def hex4? (a b c d : Char) : Option Nat := do
  return ((← hexDigit? a) * 16 + (← hexDigit? b)) * 256 + (← hexDigit? c) * 16 + (← hexDigit? d)

/-- What one character or escape of a text stands for. -/
inductive Piece where
  | char (c : Char)
  | high (unit : Nat)
  | low (unit : Nat)
  deriving DecidableEq, Repr

/-- The piece that a sixteen-bit unit is. -/
def pieceOfUnit (n : Nat) : Piece :=
  if 0xd800 ≤ n && n < 0xdc00 then .high n
  else if 0xdc00 ≤ n && n < 0xe000 then .low n
  else .char (Char.ofNat n)

/-- The pieces of a text up to its closing quote, and what follows the quote. -/
def pieces? : List Char → Option (List Piece × List Char)
  | '"' :: rest => some ([], rest)
  | '\\' :: 'u' :: a :: b :: c :: d :: rest => do
    let unit ← hex4? a b c d
    let (ps, rest) ← pieces? rest
    return (pieceOfUnit unit :: ps, rest)
  | '\\' :: e :: rest => do
    let c ← match e with
      | '"' => some '"'
      | '\\' => some '\\'
      | '/' => some '/'
      | 'b' => some '\x08'
      | 'f' => some '\x0c'
      | 'n' => some '\n'
      | 'r' => some '\r'
      | 't' => some '\t'
      | _ => none
    let (ps, rest) ← pieces? rest
    return (.char c :: ps, rest)
  | c :: rest => if c.toNat < 0x20 then none else do
    let (ps, rest) ← pieces? rest
    return (.char c :: ps, rest)
  | [] => none

/-- The characters of a text; a high unit must be followed by a low one, and a low one must follow
a high one. -/
def chars? : List Piece → Option (List Char)
  | [] => some []
  | .char c :: rest => (chars? rest).map (c :: ·)
  | .high h :: .low l :: rest =>
    (chars? rest).map (Char.ofNat (0x10000 + (h - 0xd800) * 0x400 + (l - 0xdc00)) :: ·)
  | .high _ :: _ | .low _ :: _ => none

/-- The digits at the head of a text, of which there must be one. -/
def digits? (text : List Char) : Option (List Char × List Char) :=
  let ds := text.takeWhile Char.isDigit
  if ds.isEmpty then none else some (ds, text.dropWhile Char.isDigit)

/-- A minus sign at the head of a text, if there is one. -/
def minus : List Char → Bool × List Char
  | '-' :: rest => (true, rest)
  | text => (false, text)

/-- The whole part of a number: a zero, or digits of which zero is not the first. -/
def whole? : List Char → Option (List Char × List Char)
  | '0' :: rest => some (['0'], rest)
  | text => digits? text

/-- The digits behind a point, if there is a point. -/
def fraction? : List Char → Option (Option (List Char) × List Char)
  | '.' :: rest => (digits? rest).map fun (ds, rest) => (some ds, rest)
  | text => some (none, text)

/-- The exponent behind its letter, if there is the letter. -/
def exponent? : List Char → Option (Option Int × List Char)
  | c :: rest =>
    if c == 'e' || c == 'E' then
      let (negative, rest) := FloatLiteral.sign rest
      (digits? rest).map fun (ds, rest) =>
        (some (if negative then -(digitsValue ds : Int) else digitsValue ds), rest)
    else some (none, c :: rest)
  | [] => some (none, [])

/-- The number at the head of a text: an optional minus sign, digits without a leading zero, and
optionally a point with digits and an exponent with digits. -/
def number? (text : List Char) : Option (NumberToken × List Char) := do
  let (negative, text) := minus text
  let (whole, text) ← whole? text
  let (frac, text) ← fraction? text
  let (exp, text) ← exponent? text
  let places := frac.getD []
  let spelled := ⟨negative, digitsValue (whole ++ places), exp.getD 0 - places.length⟩
  return (⟨spelled, frac.isNone && exp.isNone⟩, text)

/-- The token at the head of a text that begins with no white space, and what follows it. -/
def token? : List Char → Option (Token × List Char)
  | '[' :: rest => some (.openList, rest)
  | ']' :: rest => some (.closeList, rest)
  | '{' :: rest => some (.openObject, rest)
  | '}' :: rest => some (.closeObject, rest)
  | ',' :: rest => some (.comma, rest)
  | ':' :: rest => some (.colon, rest)
  | '"' :: rest => (pieces? rest).map fun (ps, rest) =>
    (.text ((chars? ps).map String.ofList), rest)
  | 'n' :: 'u' :: 'l' :: 'l' :: rest => some (.null, rest)
  | 't' :: 'r' :: 'u' :: 'e' :: rest => some (.bool true, rest)
  | 'f' :: 'a' :: 'l' :: 's' :: 'e' :: rest => some (.bool false, rest)
  | rest => (number? rest).map fun (n, rest) => (.number n, rest)

/-- The tokens of a text. Every token takes a character, so the length of the text is fuel enough. -/
def tokensFrom : Nat → List Char → Option (List Token)
  | 0, text => if text.all isSpace then some [] else none
  | fuel + 1, text =>
    match text.dropWhile isSpace with
    | [] => some []
    | text => do
      let (t, rest) ← token? text
      let ts ← tokensFrom fuel rest
      return t :: ts

/-- The tokens of a text, if it is made of tokens. -/
def tokens? (text : List Char) : Option (List Token) := tokensFrom text.length text

end SketchLayout.Json
