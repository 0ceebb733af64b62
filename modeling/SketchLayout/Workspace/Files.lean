/-!
# Paths and files

The files that configurations and jobs are read from and written to: what `read_to_string`, `write`, `exists`
and `extension` answer. A path is a text of names with slashes between them. It starts at the root when a slash
stands in front, and else in the working directory, which may lie anywhere below the root. An empty name and `.`
stay where they are, `..` goes one directory up, and the root is above itself. Reading goes from name to name and
stops at the first that cannot be entered; writing makes or replaces a file in a directory that is there.
-/

namespace SketchLayout

/-! ## Paths -/

namespace Path

/-- The parts of a text between slashes. -/
def split : List Char → List (List Char)
  | [] => [[]]
  | c :: rest =>
    if c == '/' then [] :: split rest
    else
      match split rest with
      | [] => [[c]]
      | part :: parts => (c :: part) :: parts

/-- The names of a path, from the outermost directory on. -/
def parts (path : String) : List String := (split path.toList).map String.ofList

/-- The names that lead somewhere. -/
def steps (path : String) : List String := (parts path).filter fun part => part != "" && part != "."

/-- The name of the file that a path leads to, unless its last step goes up. -/
def fileName? (path : String) : Option String := (steps path).getLast?.filter (· != "..")

/-- What follows the last dot of a name, unless that dot stands in front. -/
def extensionOf? (name : List Char) : Option (List Char) :=
  let tail := name.reverse.takeWhile (· != '.')
  if tail.length + 1 < name.length then some tail.reverse else none

/-- The extension of a path, in small letters. -/
def extension? (path : String) : Option String := do
  let ext ← extensionOf? (← fileName? path).toList
  return String.ofList (ext.map Char.toLower)

/-- A path without the slashes at its end. -/
def unslashed (path : String) : String := String.ofList (path.toList.reverse.dropWhile (· == '/')).reverse

end Path

/-! ## Files -/

inductive FileFault where
  | notFound
  | notDirectory
  | isDirectory
  | nameTooLong
  | zeroInName
  | notText
  /-- any other fault, in the system's words -/
  | other (text : String)
  deriving DecidableEq, Repr

namespace FileFault

/-- A fault of the system with its number. -/
def numbered (text : String) (number : Nat) : String :=
  text ++ " (os error " ++ toString number ++ ")"

def message : FileFault → String
  | notFound => numbered "No such file or directory" 2
  | notDirectory => numbered "Not a directory" 20
  | isDirectory => numbered "Is a directory" 21
  | nameTooLong => numbered "File name too long" 36
  | zeroInName => "file name contained an unexpected NUL byte"
  | notText => "stream did not contain valid UTF-8"
  | other text => text

end FileFault

inductive Entry where
  | text (content : String)
  /-- a file whose bytes are no text -/
  | binary
  | directory
  deriving DecidableEq, Repr

/-- A place: the names that lead to it from the root. -/
abbrev Place := List String

/-- What stands below the root, each entry under its place, and the directory that a path starts in. -/
structure Files where
  entries : List (Place × Entry) := []
  work : Place := []
  deriving DecidableEq, Repr

namespace Files

/-- What stands at a place. The root is always a directory. -/
def at? (files : Files) (place : Place) : Option Entry :=
  if place.isEmpty then some .directory else files.entries.lookup place

/-- The longest name, in bytes. -/
def nameLimit : Nat := 255

/-- The longest path, in bytes. -/
def pathLimit : Nat := 4095

/-- Goes from a directory to the place that one part of a path names. -/
def step (files : Files) (place : Place) (part : String) : Except FileFault Place :=
  match files.at? place with
  | none => .error .notFound
  | some .directory =>
    if part == "" || part == "." then .ok place
    -- the root has nothing above it, and `dropLast` leaves it where it is
    else if part == ".." then .ok place.dropLast
    else if nameLimit < part.utf8ByteSize then .error .nameTooLong
    else .ok (place ++ [part])
  | some _ => .error .notDirectory

def start (files : Files) (path : String) : Place := if path.startsWith "/" then [] else files.work

/-- What is refused of a path before any part of it is followed. -/
def checkedPath (path : String) : Except FileFault Unit :=
  if path.contains '\x00' then .error .zeroInName
  else if path.isEmpty then .error .notFound
  else if pathLimit < path.utf8ByteSize then .error .nameTooLong
  else .ok ()

/-- The place that a path leads to; nothing need stand there. -/
def locate (files : Files) (path : String) : Except FileFault Place := do
  checkedPath path
  (Path.parts path).foldlM files.step (files.start path)

def read (files : Files) (path : String) : Except FileFault String := do
  match files.at? (← files.locate path) with
  | none => .error .notFound
  | some .directory => .error .isDirectory
  | some .binary => .error .notText
  | some (.text content) => .ok content

/-- Whether anything stands at a path. -/
def holds (files : Files) (path : String) : Bool :=
  match files.locate path with
  | .ok place => (files.at? place).isSome
  | .error _ => false

/-- Puts an entry at a place, whatever stood there. -/
def put (files : Files) (place : Place) (entry : Entry) : Files :=
  { files with entries := files.entries.filter (·.1 != place) ++ [(place, entry)] }

theorem lookup_filter_append (place other : Place) (entry : Entry) (items : List (Place × Entry)) :
    (items.filter (·.1 != place) ++ [(place, entry)]).lookup other =
      if other = place then some entry else items.lookup other := by
  by_cases h : other = place
  · subst h
    induction items with
    | nil => simp
    | cons item items ih =>
      obtain ⟨key, value⟩ := item
      by_cases hkey : key = other
      · simpa [hkey] using ih
      · have hother : (other == key) = false := by simpa using fun e => hkey e.symm
        simpa [hkey, List.lookup_cons, hother] using ih
  · have hother : (other == place) = false := by simpa using h
    induction items with
    | nil => simp [h, hother, List.lookup_cons]
    | cons item items ih =>
      obtain ⟨key, value⟩ := item
      rw [if_neg h] at ih ⊢
      by_cases hkey : key = place
      · simp [hkey, hother, List.lookup_cons, ih]
      · simp [hkey, List.lookup_cons, ih]

theorem at?_put (files : Files) {place : Place} (h : place ≠ []) (entry : Entry) :
    (files.put place entry).at? place = some entry := by
  simp [at?, put, h, lookup_filter_append]

/-- What stands at any other place stays. -/
theorem at?_put_of_ne (files : Files) {place other : Place} (h : other ≠ place) (entry : Entry) :
    (files.put place entry).at? other = files.at? other := by
  simp [at?, put, h, lookup_filter_append]

/-- Makes or replaces the file at a path. A path that ends in a slash names no file. -/
def write (files : Files) (path : String) (content : String) : Except FileFault Files := do
  checkedPath path
  let place ← (Path.parts (Path.unslashed path)).foldlM files.step (files.start path)
  match files.at? place with
  | some .directory => .error .isDirectory
  | _ => if path.endsWith "/" then .error .isDirectory else .ok (files.put place (.text content))

end Files

/-- What can be seen of the files: the texts behind paths and what is there at all. -/
structure View where
  read : String → Except FileFault String
  holds : String → Bool

def Files.view (files : Files) : View := ⟨files.read, files.holds⟩

end SketchLayout
