import SketchLayout.Document.Toml.Table
import SketchLayout.Document.Toml.Text
import SketchLayout.Document.Toml.Word

/-!
# Reading TOML

The document that `toml` reads a text as. Lines are read one after another into a table that starts
empty; a header moves the place where the following keys go. Lists and inline tables may be nested
less than eighty deep, and so may the parts of a key.
-/

namespace SketchLayout.Toml

/-- The number of levels that values may not reach. -/
def nestingLimit : Nat := 80

/-! ## Blanks, comments and line ends -/

def dropSpace (text : List Char) : List Char := text.dropWhile isSpace

/-- What follows a comment, the mark already read. -/
def dropComment (text : List Char) : List Char := text.dropWhile isTextChar

/-- What follows the end of a line: blanks, perhaps a comment, and a break or the end. -/
def lineEnd? (text : List Char) : Option (List Char) :=
  let text := match dropSpace text with
    | '#' :: rest => dropComment rest
    | rest => rest
  if text.isEmpty then some [] else afterBreak? text

/-- What follows blanks, line breaks and comments. -/
def dropFiller : Nat → List Char → List Char
  | 0, text => text
  | fuel + 1, text =>
    match dropBreaks text with
    | '#' :: rest =>
      match afterBreak? (dropComment rest) with
      | some rest => dropFiller fuel rest
      | none => '#' :: rest
    | rest => rest

def afterFiller (text : List Char) : List Char := dropFiller text.length text

/-! ## Keys -/

def isKeyChar (c : Char) : Bool := c.isAlphanum || c == '-' || c == '_'

/-- One part of a key: bare, or in quotes. -/
def keyPart? (text : List Char) : Option (String × List Char) :=
  match text with
  | '"' :: rest => (basic? rest).map fun (cs, rest) => (String.ofList cs, rest)
  | '\'' :: rest => (literal? rest).map fun (cs, rest) => (String.ofList cs, rest)
  | _ =>
    let word := text.takeWhile isKeyChar
    if word.isEmpty then none else some (String.ofList word, text.dropWhile isKeyChar)

/-- The parts of a key, separated by points, with blanks around each. -/
def keyFrom? : Nat → List Char → Option (List String × List Char)
  | 0, _ => none
  | fuel + 1, text => do
    let (part, rest) ← keyPart? (dropSpace text)
    match dropSpace rest with
    | '.' :: rest =>
      let (parts, rest) ← keyFrom? fuel rest
      return (part :: parts, rest)
    | rest => return ([part], rest)

/-- A key: the way to a table, the name in it, and what follows. -/
def key? (text : List Char) : Option ((List String × String) × List Char) := do
  let (parts, rest) ← keyFrom? nestingLimit text
  let name ← parts.getLast?
  if parts.length < nestingLimit then some ((parts.dropLast, name), rest) else none

/-! ## Values -/

mutual

/-- The value at the head of a text, at most `levels` brackets deep, and what follows it. -/
def value? : Nat → Nat → List Char → Option (Document × List Char)
  | 0, _, _ => none
  | fuel + 1, levels, text =>
    match text with
    | '"' :: _ | '\'' :: _ => (text? text).map fun (cs, rest) => (.text (String.ofList cs), rest)
    | '[' :: rest =>
      if levels = 0 then none
      else
        match afterFiller rest with
        | ']' :: rest => some (.list [], rest)
        | rest => (items? fuel (levels - 1) rest).map fun (ds, rest) => (.list ds, rest)
    | '{' :: rest =>
      if levels = 0 then none
      else
        match dropSpace rest with
        | '}' :: rest => some (.object [], rest)
        | rest => (fields? fuel (levels - 1) [] rest).map fun (fs, rest) =>
          (.object (fieldsToDocument fs), rest)
    | _ => wordAt? text

/-- The items of a list up to its bracket, the first one at the head of the text. A comma may stand
behind the last. -/
def items? : Nat → Nat → List Char → Option (List Document × List Char)
  | 0, _, _ => none
  | fuel + 1, levels, text => do
    let (d, rest) ← value? fuel levels text
    match afterFiller rest with
    | ']' :: rest => return ([d], rest)
    | ',' :: rest =>
      match afterFiller rest with
      | ']' :: rest => return ([d], rest)
      | rest =>
        let (ds, rest) ← items? fuel levels rest
        return (d :: ds, rest)
    | _ => none

/-- The fields of an inline table up to its brace, the first one at the head of the text. -/
def fields? : Nat → Nat → Fields → List Char → Option (Fields × List Char)
  | 0, _, _, _ => none
  | fuel + 1, levels, fields, text => do
    let ((path, name), rest) ← key? text
    match rest with
    | '=' :: rest =>
      let (d, rest) ← value? fuel levels (dropSpace rest)
      let fields ← assign? name d path fields
      match dropSpace rest with
      | '}' :: rest => return (fields, rest)
      | ',' :: rest => fields? fuel levels fields rest
      | _ => none
    | _ => none

end

/-! ## Lines -/

/-- What has been read, and the header that keys now go under. -/
structure Progress where
  fields : Fields := []
  header : List String := []

/-- The path and name of a header, closed by the given brackets at the end of its line. -/
def header? (close : List Char) (text : List Char) :
    Option ((List String × String) × List Char) := do
  let (key, rest) ← key? text
  if close.isPrefixOf rest then return (key, ← lineEnd? (rest.drop close.length)) else none

/-- Reads one line, and gives what follows it. -/
def line? (p : Progress) (text : List Char) : Option (Progress × List Char) :=
  match text with
  | '[' :: '[' :: rest => do
    let ((path, name), rest) ← header? [']', ']'] rest
    return (⟨← openItem? path name p.fields, path ++ [name]⟩, rest)
  | '[' :: rest => do
    let ((path, name), rest) ← header? [']'] rest
    return (⟨← openTable? path name p.fields, path ++ [name]⟩, rest)
  | _ => do
    let ((path, name), rest) ← key? text
    match rest with
    | '=' :: rest =>
      let (d, rest) ← value? (2 * rest.length + 1) (nestingLimit - 1) (dropSpace rest)
      let rest ← lineEnd? rest
      return ({ p with fields := ← within? (assign? name d path) p.header p.fields }, rest)
    | _ => none

/-- Reads lines to the end of the text. Every line takes a character. -/
def lines? : Nat → Progress → List Char → Option Progress
  | 0, p, text => if text.isEmpty then some p else none
  | fuel + 1, p, text =>
    match dropSpace text with
    | [] => some p
    | text =>
      match lineEnd? text with
      | some rest => lines? fuel p rest
      | none => do
        let (p, rest) ← line? p text
        lines? fuel p rest

/-- The document that a text spells, if it is TOML. A byte order mark in front does not count. -/
def read? (text : String) : Option Document := do
  let text := match text.toList with
    | '\ufeff' :: rest => rest
    | rest => rest
  let p ← lines? text.length {} text
  return .object (fieldsToDocument p.fields)

end SketchLayout.Toml
