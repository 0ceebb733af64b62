import SketchLayout.Document
import SketchLayout.Document.Json.Token

/-!
# TOML words

Values that are written without quotes or brackets: booleans, integers, doubles, dates and times.
Digits may be grouped by single underscores. A decimal has no leading zero; integers have
sixty-four bits; a double must not run over the greatest one, while below the least one it is minus
infinity.
-/

namespace SketchLayout.Toml

def isWordChar (c : Char) : Bool :=
  c.isAlphanum || c == '+' || c == '-' || c == '.' || c == '_' || c == ':'

/-- The digits of a group without the underscores between them, from a digit on. -/
def ungroupRest? (isDigit : Char → Bool) : List Char → Option (List Char)
  | [] => some []
  | '_' :: c :: rest => if isDigit c then (ungroupRest? isDigit rest).map (c :: ·) else none
  | c :: rest => if isDigit c then (ungroupRest? isDigit rest).map (c :: ·) else none

/-- The digits of a group without the underscores between them. -/
def ungroup? (isDigit : Char → Bool) : List Char → Option (List Char)
  | [] => none
  | c :: rest => if isDigit c then (ungroupRest? isDigit rest).map (c :: ·) else none

/-- An integer of sixty-four bits. -/
def bounded? (n : Int) : Option Document :=
  if -0x8000000000000000 ≤ n && n < 0x8000000000000000 then some (.int n) else none

/-- The number that digits of a base spell. -/
def inBase (base : Nat) (ds : List Char) : Nat :=
  ds.foldl (fun n c => base * n + (Json.hexDigit? c).getD 0) 0

/-- An integer with a base mark. -/
def based? (base : Nat) (isDigit : Char → Bool) (text : List Char) : Option Document := do
  let ds ← ungroup? isDigit text
  bounded? (inBase base ds)

def isGroupChar (c : Char) : Bool := c.isDigit || c == '_'

/-- A double that a decimal spells; positive infinity is refused. -/
def double? (s : Spelled) : Option Document :=
  let x := s.toFloat
  if Binary.ofFloat x = .infinite false then none else some (.number x)

/-- An exponent, without its mark. -/
def exponent? (text : List Char) : Option Int := do
  let (negative, ds) := FloatLiteral.sign text
  let ds ← ungroup? Char.isDigit ds
  return if negative then -(digitsValue ds : Int) else digitsValue ds

/-- A decimal integer or double without its sign. -/
def decimal? (negative : Bool) (text : List Char) : Option Document := do
  let whole ← ungroup? Char.isDigit (text.takeWhile isGroupChar)
  if whole.head? == some '0' && whole.length != 1 then none
  match text.dropWhile isGroupChar with
  | [] =>
    let n := digitsValue whole
    bounded? (if negative then -n else n)
  | '.' :: rest =>
    let frac ← ungroup? Char.isDigit (rest.takeWhile isGroupChar)
    let exp ← match rest.dropWhile isGroupChar with
      | [] => some 0
      | c :: rest => if c == 'e' || c == 'E' then exponent? rest else none
    double? ⟨negative, digitsValue (whole ++ frac), exp - frac.length⟩
  | c :: rest =>
    if c == 'e' || c == 'E' then double? ⟨negative, digitsValue whole, ← exponent? rest⟩ else none

def number? (text : List Char) : Option Document :=
  match text with
  | '0' :: 'x' :: ds => based? 16 (fun c => (Json.hexDigit? c).isSome) ds
  | '0' :: 'o' :: ds => based? 8 (fun c => '0' ≤ c && c ≤ '7') ds
  | '0' :: 'b' :: ds => based? 2 (fun c => c == '0' || c == '1') ds
  | _ =>
    let (negative, rest) := FloatLiteral.sign text
    if rest == ['i', 'n', 'f'] then
      some (.number (Float.ofBits (if negative then 0xfff0000000000000 else 0x7ff0000000000000)))
    else if rest == ['n', 'a', 'n'] then some (.number (Float.ofBits 0x7ff8000000000000))
    else decimal? negative rest

/-! ## Dates and times -/

def two? (a b : Char) : Option Nat := do return 10 * (← digit? a) + (← digit? b)

def daysIn (year month : Nat) : Nat :=
  if month == 2 then
    if year % 4 == 0 && (year % 100 != 0 || year % 400 == 0) then 29 else 28
  else if month == 4 || month == 6 || month == 9 || month == 11 then 30
  else 31

/-- What follows a date. -/
def afterDate? : List Char → Option (List Char)
  | y₁ :: y₂ :: y₃ :: y₄ :: '-' :: m₁ :: m₂ :: '-' :: d₁ :: d₂ :: rest => do
    let year := 100 * (← two? y₁ y₂) + (← two? y₃ y₄)
    let month ← two? m₁ m₂
    let day ← two? d₁ d₂
    if 1 ≤ month && month ≤ 12 && 1 ≤ day && day ≤ daysIn year month then some rest else none
  | _ => none

/-- What follows a time of day. -/
def afterTime? : List Char → Option (List Char)
  | h₁ :: h₂ :: ':' :: m₁ :: m₂ :: ':' :: s₁ :: s₂ :: rest => do
    let hour ← two? h₁ h₂
    let minute ← two? m₁ m₂
    let second ← two? s₁ s₂
    if hour ≤ 23 && minute ≤ 59 && second ≤ 60 then
      match rest with
      | '.' :: rest =>
        if (rest.takeWhile Char.isDigit).isEmpty then none else some (rest.dropWhile Char.isDigit)
      | rest => some rest
    else none
  | _ => none

def isOffset : List Char → Bool
  | [c] => c == 'Z' || c == 'z'
  | [sign, h₁, h₂, ':', m₁, m₂] =>
    (sign == '+' || sign == '-') && (two? h₁ h₂).any (· ≤ 23) && (two? m₁ m₂).any (· ≤ 59)
  | _ => false

/-- Whether a text is a date, a time of day, or a date and a time with or without an offset. -/
def isStamp (text : List Char) : Bool :=
  match afterDate? text with
  | some [] => true
  | some (c :: rest) =>
    (c == 'T' || c == 't' || c == ' ') &&
      match afterTime? rest with
      | some rest => rest.isEmpty || isOffset rest
      | none => false
  | none => afterTime? text == some []

def word? (text : List Char) : Option Document :=
  if text == ['t', 'r', 'u', 'e'] then some (.bool true)
  else if text == ['f', 'a', 'l', 's', 'e'] then some (.bool false)
  else if isStamp text then some (.stamp (String.ofList text))
  else number? text

/-- The value of the word at the head of a text, and what follows it. A date may be joined to a time
by a single space. -/
def wordAt? (text : List Char) : Option (Document × List Char) :=
  let word := text.takeWhile isWordChar
  let rest := text.dropWhile isWordChar
  match rest with
  | ' ' :: c :: more =>
    if afterDate? word == some [] && c.isDigit then
      (word? (word ++ ' ' :: (c :: more).takeWhile isWordChar)).map
        (·, (c :: more).dropWhile isWordChar)
    else (word? word).map (·, rest)
  | _ => (word? word).map (·, rest)

end SketchLayout.Toml
