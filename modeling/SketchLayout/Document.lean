/-!
# Documents

The values that jobs and configurations are read from and written to, whatever the syntax. Fields of
an object keep their order and may repeat; what a repetition means is for the reader of the object
to say. `unreadable` stands for a part that is well formed but has no value, such as a number beyond
every double: a reader may pass over it, but not take it.
-/

namespace SketchLayout

/-- A value read from a document or to be written to one. -/
inductive Document where
  | null
  | bool (b : Bool)
  | int (n : Int)
  | number (x : Float)
  | text (s : String)
  /-- a date or a time -/
  | stamp (s : String)
  | list (items : List Document)
  | object (fields : List (String × Document))
  | unreadable
  deriving Repr

namespace Document

/-- Whether nothing in a value is unreadable and at most `levels` brackets are open at once. -/
def readable : Nat → Document → Bool
  | _, unreadable => false
  | 0, list _ | 0, object _ => false
  | levels + 1, list items => items.all (readable levels)
  | levels + 1, object fields => fields.all fun field => readable levels field.2
  | _, null | _, bool _ | _, int _ | _, number _ | _, text _ | _, stamp _ => true

/-- Every value that an object holds under a name, in order. -/
def values (name : String) (fields : List (String × Document)) : List Document :=
  (fields.filter (·.1 == name)).map (·.2)

/-- The values of a record's columns, in the order of their names: by name from an object, in which
no column may repeat and other fields are passed over, or by place from a list, which may be shorter
than the record but not longer. -/
def columns? (names : List String) : Document → Option (List (Option Document))
  | object fields =>
    if names.all fun name => (values name fields).length ≤ 1 then
      some (names.map fun name => (values name fields).head?)
    else none
  | list items =>
    if items.length ≤ names.length then
      some (items.map some ++ List.replicate (names.length - items.length) none)
    else none
  | _ => none

end Document

end SketchLayout
