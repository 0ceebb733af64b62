import SketchLayout.Command.Outcome

/-!
# `main`, the command line program

Reads what the command needs of the files and the environment, runs it, prints the result and gives
the exit status.
-/

namespace SketchLayout.Shell

/-- The fault that a system error is. -/
def faultOf : IO.Error → FileFault
  | .noFileOrDirectory .. => .notFound
  | .inappropriateType _ code _ =>
    -- the number may come with a minus sign
    if code == 21 || code == 0 - 21 then .isDirectory else .notDirectory
  | e => .other (toString e)

def observe (path : String) : IO (String × Except FileFault String) := do
  try
    let bytes ← IO.FS.readBinFile path
    return (path, match String.fromUTF8? bytes with
      | some text => .ok text
      | none => .error .notText)
  catch e => return (path, .error (faultOf e))

/-- The view of the files that have been read. -/
def viewOf (seen : List (String × Except FileFault String)) : View where
  read path := (seen.lookup path).getD (.error .notFound)
  holds path :=
    match seen.lookup path with
    | none | some (.error .notFound) => false
    | some _ => true

def environment : IO Environment := do
  return {
    format := ← IO.getEnv Environment.formatVariable
    precision := ← IO.getEnv Environment.precisionVariable }

def colourWish : IO ColourWish := do
  return {
    force := ← IO.getEnv ColourWish.forceVariable
    never := ← IO.getEnv ColourWish.neverVariable
    wanted := ← IO.getEnv ColourWish.wantedVariable
    terminal := ← (← IO.getStdout).isTty }

def run (words : List String) : IO UInt32 := do
  let seen ← match Invocation.ofWords? words with
    | none => pure []
    | some inv => inv.paths.mapM observe
  let env ← environment
  let wish ← colourWish
  let outcome := Outcome.ofWords words (viewOf seen) env wish.on
  IO.print outcome.stdout
  match outcome with
  | .printed _ => pure ()
  | .failed failure => IO.eprintln (failure.complaint wish.on)
  | .refused => IO.eprintln "error: these words make no command"
  return outcome.status.toUInt32

end SketchLayout.Shell

def main (words : List String) : IO UInt32 := SketchLayout.Shell.run words
