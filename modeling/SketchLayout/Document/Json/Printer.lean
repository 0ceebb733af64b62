import SketchLayout.Document
import SketchLayout.Number.Numeral

/-!
# Writing JSON

A document as JSON text, on one line (`to_string`) or indented by two spaces a level
(`to_string_pretty`). Numbers are written by `Numeral.document`; a double that is no number is
written as `null`, and so is what has no value.
-/

namespace SketchLayout.Json

/-- The form of one character between quotes: quotes, backslashes and controls are escaped. -/
def escape (c : Char) : List Char :=
  match c with
  | '"' => ['\\', '"']
  | '\\' => ['\\', '\\']
  | '\x08' => ['\\', 'b']
  | '\t' => ['\\', 't']
  | '\n' => ['\\', 'n']
  | '\x0c' => ['\\', 'f']
  | '\r' => ['\\', 'r']
  | c =>
    if c.toNat < 0x20 then
      ['\\', 'u', '0', '0', Nat.digitChar (c.toNat / 16), Nat.digitChar (c.toNat % 16)]
    else [c]

def quote (s : String) : List Char := '"' :: s.toList.flatMap escape ++ ['"']

def integer (n : Int) : List Char := Numeral.signed (n < 0) (Numeral.digits n.natAbs)

/-- A value that holds no other values. -/
def atom : Document → List Char
  | .bool true => "true".toList
  | .bool false => "false".toList
  | .int n => integer n
  | .number x =>
    if (Binary.ofFloat x).isFinite then Numeral.document.write (.ofFloat x) else "null".toList
  | .text s | .stamp s => quote s
  | _ => "null".toList

mutual

/-- A document on one line. -/
def compact : Document → List Char
  | .list items => '[' :: compactItems items ++ [']']
  | .object fields => '{' :: compactFields fields ++ ['}']
  | d => atom d

/-- The items of a list, separated by commas. -/
def compactItems : List Document → List Char
  | [] => []
  | [d] => compact d
  | d :: rest => compact d ++ ',' :: compactItems rest

/-- The fields of an object, separated by commas. -/
def compactFields : List (String × Document) → List Char
  | [] => []
  | [(name, d)] => quote name ++ ':' :: compact d
  | (name, d) :: rest => quote name ++ ':' :: compact d ++ ',' :: compactFields rest

end

/-- A new line, indented by two spaces a level. -/
def newline (level : Nat) : List Char := '\n' :: List.replicate (2 * level) ' '

mutual

/-- A document with a line for every item and field, starting at an indentation level. -/
def indented (level : Nat) : Document → List Char
  | .list [] => ['[', ']']
  | .list (d :: rest) =>
    '[' :: newline (level + 1) ++ indented (level + 1) d ++ indentedItems (level + 1) rest ++
      newline level ++ [']']
  | .object [] => ['{', '}']
  | .object ((name, d) :: rest) =>
    '{' :: newline (level + 1) ++ quote name ++ ':' :: ' ' :: indented (level + 1) d ++
      indentedFields (level + 1) rest ++ newline level ++ ['}']
  | d => atom d

/-- The further items of a list. -/
def indentedItems (level : Nat) : List Document → List Char
  | [] => []
  | d :: rest => ',' :: newline level ++ indented level d ++ indentedItems level rest

/-- The further fields of an object. -/
def indentedFields (level : Nat) : List (String × Document) → List Char
  | [] => []
  | (name, d) :: rest =>
    ',' :: newline level ++ quote name ++ ':' :: ' ' :: indented level d ++
      indentedFields level rest

end

/-- A document as a line of JSON. -/
def toLine (d : Document) : String := String.ofList (compact d)

/-- A document as indented JSON. -/
def toPage (d : Document) : String := String.ofList (indented 0 d)

end SketchLayout.Json
