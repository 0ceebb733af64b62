import SketchLayout.Document
import SketchLayout.Document.Json.Token

/-!
# Reading JSON

The document that `serde_json` reads a text as. Whole numbers from `-2 ^ 63` up to `2 ^ 64 - 1` are
integers, minus zero apart; every other number is the nearest double. A number beyond every double,
a text with a lone surrogate, and an object with such a text for a name are well formed but
unreadable.
-/

namespace SketchLayout.Json

def numberValue (n : NumberToken) : Document :=
  let s := n.spelled
  if n.whole && !s.negative && s.digits < 0x10000000000000000 then .int s.digits
  else if n.whole && s.negative && s.digits != 0 && s.digits ≤ 0x8000000000000000 then
    .int (-s.digits)
  else
    let x := s.toFloat
    if (Binary.ofFloat x).isFinite then .number x else .unreadable

/-- The value of an object; one name without a text spoils it. -/
def objectValue (fields : List (Option String × Document)) : Document :=
  match fields.mapM fun field => field.1.map fun name => (name, field.2) with
  | some fields => .object fields
  | none => .unreadable

mutual

/-- The value at the head of a token list, and what follows it. -/
def value? : Nat → List Token → Option (Document × List Token)
  | 0, _ => none
  | fuel + 1, ts =>
    match ts with
    | .null :: rest => some (.null, rest)
    | .bool b :: rest => some (.bool b, rest)
    | .number n :: rest => some (numberValue n, rest)
    | .text (some s) :: rest => some (.text s, rest)
    | .text none :: rest => some (.unreadable, rest)
    | .openList :: .closeList :: rest => some (.list [], rest)
    | .openList :: rest => (items? fuel rest).map fun (ds, rest) => (.list ds, rest)
    | .openObject :: .closeObject :: rest => some (.object [], rest)
    | .openObject :: rest => (fields? fuel rest).map fun (fs, rest) => (objectValue fs, rest)
    | _ => none

/-- The items of a list up to its closing bracket. -/
def items? : Nat → List Token → Option (List Document × List Token)
  | 0, _ => none
  | fuel + 1, ts => do
    let (d, rest) ← value? fuel ts
    match rest with
    | .comma :: rest => (items? fuel rest).map fun (ds, rest) => (d :: ds, rest)
    | .closeList :: rest => some ([d], rest)
    | _ => none

/-- The fields of an object up to its closing brace. -/
def fields? : Nat → List Token → Option (List (Option String × Document) × List Token)
  | 0, _ => none
  | fuel + 1, ts =>
    match ts with
    | .text name :: .colon :: rest => do
      let (d, rest) ← value? fuel rest
      match rest with
      | .comma :: rest => (fields? fuel rest).map fun (fs, rest) => ((name, d) :: fs, rest)
      | .closeObject :: rest => some ([(name, d)], rest)
      | _ => none
    | _ => none

end

/-- The document that a text spells, if it is JSON. A value takes at most two steps a token. -/
def read? (text : String) : Option Document := do
  let ts ← tokens? text.toList
  match ← value? (2 * ts.length + 1) ts with
  | (d, []) => some d
  | _ => none

end SketchLayout.Json
