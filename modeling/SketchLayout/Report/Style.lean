/-!
# Styled text

A line of a table is a row of spans, each with one style and aligned to the right in a width of its
own. Without colour a span is its text; with colour its style is switched on before the padded text
and off behind it, and switched on again wherever the text itself switches styles off.

Colour can be forced or ruled out by the environment. Otherwise it is for terminals, unless the
environment says no.
-/

namespace SketchLayout

inductive Style where
  | plain
  | bold
  | green
  | yellow
  | cyan
  | gray
  /-- bold and red -/
  | alarm
  deriving DecidableEq, Repr

namespace Style

/-- The numbers that switch a style on. -/
def codes : Style → List Nat
  | plain => []
  | bold => [1]
  | green => [32]
  | yellow => [33]
  | cyan => [36]
  | gray => [90]
  | alarm => [1, 31]

/-- The sequence that carries numbers to the terminal. -/
def escape (codes : List Nat) : List Char :=
  '\x1b' :: '[' :: (List.intercalate [';'] (codes.map (Nat.toDigits 10))) ++ ['m']

def off : List Char := escape [0]

end Style

/-- A run of text in one style. -/
structure Span where
  text : List Char
  style : Style := .plain
  width : Nat := 0
  deriving DecidableEq, Repr

namespace Span

def ofText (text : String) : Span := { text := text.toList }

/-- A text aligned to the right. -/
def pad (width : Nat) (text : List Char) : List Char :=
  List.replicate (width - text.length) ' ' ++ text

/-- A text in which every sequence that switches styles off is followed by another sequence. -/
def reopen (on : List Char) : List Char → List Char
  | '\x1b' :: '[' :: '0' :: 'm' :: rest => Style.off ++ on ++ reopen on rest
  | c :: rest => c :: reopen on rest
  | [] => []

/-- The characters of a span. -/
def render (colour : Bool) (s : Span) : List Char :=
  if colour && s.style != .plain then
    let on := Style.escape s.style.codes
    on ++ pad s.width (reopen on s.text) ++ Style.off
  else pad s.width s.text

end Span

/-- A line of a table. -/
abbrev Line := List Span

/-- The characters of a line, with its line break. -/
def Line.render (colour : Bool) (line : Line) : List Char :=
  line.flatMap (Span.render colour) ++ ['\n']

/-! ## Whether there is colour -/

/-- What decides about colour. -/
structure ColourWish where
  /-- forces colour unless it is `0` -/
  force : Option String := none
  /-- rules colour out when it is set at all -/
  never : Option String := none
  /-- rules colour out when it is `0` -/
  wanted : Option String := none
  /-- whether the output goes to a terminal -/
  terminal : Bool := false
  deriving DecidableEq, Repr

namespace ColourWish

/-- The variable that forces colour. -/
def forceVariable : String := "CLICOLOR_FORCE"

/-- The variable that rules colour out. -/
def neverVariable : String := "NO_COLOR"

/-- The variable that may refuse colour on terminals. -/
def wantedVariable : String := "CLICOLOR"

/-- Whether there is colour. -/
def on (wish : ColourWish) : Bool :=
  wish.force.any (· != "0") ||
    (wish.never.isNone && wish.terminal && wish.wanted.all (· != "0"))

end ColourWish

end SketchLayout
