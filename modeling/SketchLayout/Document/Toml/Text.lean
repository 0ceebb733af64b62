import SketchLayout.Document.Json.Token

/-!
# TOML texts

Texts in double quotes know escapes, texts in single quotes do not. Three quotes open a text that
may run over lines; a line break right behind the opening does not count, and one or two quotes
may stand before the closing three.
-/

namespace SketchLayout.Toml

/-- Characters that may stand in a text, quotes and backslashes apart. -/
def isTextChar (c : Char) : Bool := c == '\t' || (0x20 ≤ c.toNat && c.toNat != 0x7f)

def charOf? (n : Nat) : Option Char := if n.isValidChar then some (Char.ofNat n) else none

/-- The escaped character behind a backslash, and what follows it. -/
def escape? : List Char → Option (Char × List Char)
  | 'b' :: rest => some ('\x08', rest)
  | 't' :: rest => some ('\t', rest)
  | 'n' :: rest => some ('\n', rest)
  | 'f' :: rest => some ('\x0c', rest)
  | 'r' :: rest => some ('\r', rest)
  | '"' :: rest => some ('"', rest)
  | '\\' :: rest => some ('\\', rest)
  | 'u' :: a :: b :: c :: d :: rest => do
    return (← charOf? (← Json.hex4? a b c d), rest)
  | 'U' :: a :: b :: c :: d :: e :: f :: g :: h :: rest => do
    return (← charOf? ((← Json.hex4? a b c d) * 65536 + (← Json.hex4? e f g h)), rest)
  | _ => none

/-- A text in double quotes, from behind the opening quote. -/
def basicFrom? : Nat → List Char → Option (List Char × List Char)
  | 0, _ => none
  | fuel + 1, text =>
    match text with
    | '"' :: rest => some ([], rest)
    | '\\' :: rest => do
      let (c, rest) ← escape? rest
      let (cs, rest) ← basicFrom? fuel rest
      return (c :: cs, rest)
    | c :: rest => if !isTextChar c then none else do
      let (cs, rest) ← basicFrom? fuel rest
      return (c :: cs, rest)
    | [] => none

/-- A text in single quotes, from behind the opening quote. -/
def literal? (text : List Char) : Option (List Char × List Char) :=
  match text.dropWhile fun c => c != '\'' && isTextChar c with
  | '\'' :: rest => some (text.takeWhile fun c => c != '\'' && isTextChar c, rest)
  | _ => none

/-- What follows white space and line breaks. -/
def dropBreaks : List Char → List Char
  | ' ' :: rest | '\t' :: rest | '\n' :: rest | '\r' :: '\n' :: rest => dropBreaks rest
  | rest => rest

/-- What follows one line break, if there is one. -/
def afterBreak? : List Char → Option (List Char)
  | '\n' :: rest | '\r' :: '\n' :: rest => some rest
  | _ => none

def isSpace (c : Char) : Bool := c == ' ' || c == '\t'

/-- The closing three quotes with one or two quotes of the text before them. -/
def closing? (quote : Char) : List Char → Option (List Char × List Char)
  | a :: b :: c :: rest =>
    if a == quote && b == quote && c == quote then
      match rest with
      | d :: e :: rest' =>
        if d == quote && e == quote then some ([quote, quote], rest')
        else if d == quote then some ([quote], e :: rest')
        else some ([], rest)
      | [d] => if d == quote then some ([quote], []) else some ([], [d])
      | [] => some ([], [])
    else none
  | _ => none

/-- A text over lines, from behind the opening quotes; in double quotes, escapes are known and a
backslash at the end of a line joins it to the next text. -/
def longFrom? (quote : Char) : Nat → List Char → Option (List Char × List Char)
  | 0, _ => none
  | fuel + 1, text =>
    match closing? quote text with
    | some done => some done
    | none =>
      match afterBreak? text with
      | some rest => do
        let (cs, rest) ← longFrom? quote fuel rest
        return ('\n' :: cs, rest)
      | none =>
        match text with
        | [] => none
        | c :: rest =>
          if c == '\\' && quote == '"' then
            match afterBreak? (rest.dropWhile isSpace) with
            | some rest => longFrom? quote fuel (dropBreaks rest)
            | none => do
              let (c, rest) ← escape? rest
              let (cs, rest) ← longFrom? quote fuel rest
              return (c :: cs, rest)
          else if !isTextChar c then none
          else do
            let (cs, rest) ← longFrom? quote fuel rest
            return (c :: cs, rest)

/-- A text over lines, from behind the opening quotes; a first line break does not count. -/
def long? (quote : Char) (text : List Char) : Option (List Char × List Char) :=
  longFrom? quote (text.length + 1) ((afterBreak? text).getD text)

/-- A text in double quotes, from behind the opening quote. -/
def basic? (text : List Char) : Option (List Char × List Char) := basicFrom? text.length text

/-- The text at the head of a text, and what follows it. -/
def text? : List Char → Option (List Char × List Char)
  | '"' :: '"' :: '"' :: rest => long? '"' rest
  | '"' :: rest => basic? rest
  | '\'' :: '\'' :: '\'' :: rest => long? '\'' rest
  | '\'' :: rest => literal? rest
  | _ => none

end SketchLayout.Toml
