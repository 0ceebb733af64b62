/-!
# Command words

How a row of words is taken apart into options and operands before `Cli` is made of them. An option
has a long name, written behind two hyphens, and perhaps a letter, written behind one; letters
without values may share a hyphen. A value is attached, with or without an equals sign behind a
letter and with one behind a name, or it is the next word. No option may be given twice, and none
may be left without its value.

A word that begins with a hyphen is a value only where one may: behind an option that says so, or
among operands that do. Where operands may begin with hyphens, words that name no option are left to
them, and from the first operand on every word is one. Two hyphens alone make all later words
operands.
-/

namespace SketchLayout.Command

structure Switch where
  name : String
  letter : Option Char := none
  /-- whether it takes a value -/
  valued : Bool := true
  /-- whether its value may begin with a hyphen -/
  hyphens : Bool := false
  deriving DecidableEq, Repr

/-- What a row of words may hold. -/
structure Form where
  switches : List Switch
  /-- the most operands -/
  operands : Nat := 0
  /-- whether operands may begin with hyphens -/
  hyphens : Bool := false
  /-- the words that end the row -/
  ends : List String := []
  deriving DecidableEq, Repr

/-- What has been read of a row. -/
structure Given where
  /-- the options that were given, with their values -/
  options : List (String × Option String) := []
  operands : List String := []
  deriving DecidableEq, Repr

namespace Given

def has (g : Given) (name : String) : Bool := g.options.any (·.1 == name)

def value? (g : Given) (name : String) : Option String := (g.options.lookup name).join

/-- One more option. -/
def add? (g : Given) (name : String) (value : Option String) : Option Given :=
  if g.has name then none else some { g with options := g.options ++ [(name, value)] }

end Given

/-- Where a row of words has been read to. -/
structure State where
  given : Given := {}
  /-- an option whose value is the next word -/
  pending : Option Switch := none
  /-- whether two hyphens have been read -/
  literal : Bool := false
  deriving DecidableEq, Repr

namespace Form

def named? (form : Form) (name : String) : Option Switch := form.switches.find? (·.name == name)

def lettered? (form : Form) (letter : Char) : Option Switch :=
  form.switches.find? (·.letter == some letter)

/-- Whether a word is taken as it is, hyphens or not. -/
def takesAnything (form : Form) (s : State) : Bool :=
  match s.pending with
  | some switch => switch.hyphens
  | none => form.hyphens && !s.given.operands.isEmpty

/-- Takes a word as the pending value, or else as an operand. -/
def takeWord (form : Form) (s : State) (word : String) : Option State :=
  match s.pending with
  | some switch => do
    return { s with given := ← s.given.add? switch.name (some word), pending := none }
  | none =>
    if s.given.operands.length < form.operands then
      some { s with given := { s.given with operands := s.given.operands ++ [word] } }
    else none

/-- Takes an option whose value, if there is one, is attached. -/
def takeSwitch (s : State) (switch : Switch) (attached : Option String) : Option State :=
  match s.pending, switch.valued, attached with
  | some _, _, _ | none, false, some _ => none
  | none, true, none => some { s with pending := some switch }
  | none, true, some value => do return { s with given := ← s.given.add? switch.name (some value) }
  | none, false, none => do return { s with given := ← s.given.add? switch.name none }

/-- Reads the name of an option and what is attached to it. -/
def takeName (form : Form) (s : State) (word : String) (text : List Char) : Option State :=
  let name := text.takeWhile (· != '=')
  let attached := match text.dropWhile (· != '=') with
    | [] => none
    | _ :: value => some (String.ofList value)
  if name.isEmpty then none
  else
    match form.named? (String.ofList name) with
    | some switch => takeSwitch s switch attached
    | none => if form.hyphens then form.takeWord s word else none

/-- Reads the letters behind a hyphen. The first that takes a value has what follows attached. -/
def takeLetters (form : Form) : State → List Char → Option State
  | s, [] => some s
  | s, c :: rest => do
    let switch ← form.lettered? c
    if switch.valued then
      takeSwitch s switch (match rest with
        | [] => none
        | '=' :: value => some (String.ofList value)
        | value => some (String.ofList value))
    else takeLetters form (← takeSwitch s switch none) rest

/-- Reads one word. -/
def step (form : Form) (s : State) (word : String) : Option State :=
  if s.literal || form.takesAnything s then form.takeWord s word
  else
    match word.toList with
    | ['-', '-'] => if s.pending.isSome then none else some { s with literal := true }
    | '-' :: '-' :: text => form.takeName s word text
    | '-' :: c :: letters =>
      if form.hyphens && !(c :: letters).all fun c => (form.lettered? c).isSome then
        form.takeWord s word
      else form.takeLetters s (c :: letters)
    | _ => form.takeWord s word

/-- Whether a word ends the row. -/
def isEnd (form : Form) (s : State) (word : String) : Bool :=
  !s.literal && s.pending.isNone && form.ends.contains word

/-- Reads a row of words up to the word that ends it, if one does, and gives what follows from
there on. -/
def readFrom (form : Form) : State → List String → Option (Given × List String)
  | s, [] => if s.pending.isSome then none else some (s.given, [])
  | s, word :: rest =>
    if form.isEnd s word then some (s.given, word :: rest)
    else do form.readFrom (← form.step s word) rest

/-- Reads a row of words. -/
def read (form : Form) (words : List String) : Option (Given × List String) := form.readFrom {} words

end Form

end SketchLayout.Command
