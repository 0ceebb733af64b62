import SketchLayout.Job
import SketchLayout.Number.Literal
import SketchLayout.Workspace.Files

/-!
# Why a run fails

Every failure of a run: files that cannot be read, written or understood, settings that mean
nothing, and jobs that are wrong. The wording goes from the outermost circumstance to the cause, as
the contexts are put around an error in `OutputConfig`, `load_job_file`, `run_job_file` and `single`.
-/

namespace SketchLayout

/-- Why a run fails. -/
inductive Failure where
  | unknownFormat (text : String)
  | configUnreadable (path : String) (fault : FileFault)
  | configMalformed (path : String)
  /-- a precision that has no text -/
  | configUnspeakable
  | configUnwritable (path : String) (fault : FileFault)
  /-- the environment asks for a format that is none -/
  | formatSetting (text : String)
  /-- the environment asks for a precision that is none -/
  | precisionSetting (text : String) (fault : CountFault)
  | jobsUnreadable (path : String) (fault : FileFault)
  | jobsUnsupported (path : String)
  | jobsMalformed (path : String)
  /-- a job of a file -/
  | job (name : String) (kind : Kind) (error : LayoutError Float)
  /-- a job given in words -/
  | request (kind : Kind) (error : LayoutError Float)
  deriving Repr

namespace Failure

def because (circumstance cause : String) : String := circumstance ++ ": " ++ cause

/-- The complaint about a format. -/
def formatComplaint (text : String) : String :=
  "Unknown output format: " ++ text ++ " (expected json or table)"

def message : Failure → String
  | unknownFormat text => formatComplaint text
  | configUnreadable path fault =>
    because (because "Failed to read config file" (Quoted.quote path)) fault.message
  | configMalformed path => because "Failed to parse config file" (Quoted.quote path)
  | configUnspeakable => "Failed to serialize config"
  | configUnwritable path fault =>
    because (because "Failed to write config file" (Quoted.quote path)) fault.message
  | formatSetting text => because "Invalid POLYFRAME_LAYOUT_FORMAT" (formatComplaint text)
  | precisionSetting text fault =>
    because (because "Invalid POLYFRAME_LAYOUT_PRECISION" text) fault.message
  | jobsUnreadable path fault =>
    because (because "Failed to read job file" (Quoted.quote path)) fault.message
  | jobsUnsupported path =>
    because "Unsupported job file extension" (Quoted.quote path) ++ " (expected .toml or .json)"
  | jobsMalformed path => because "Failed to parse job file" (Quoted.quote path)
  | job name kind error =>
    because ("Job '" ++ name ++ "' (" ++ kind.name ++ ") failed") error.message
  | request kind error => because (kind.name ++ " failed") error.message

/-- The layout error behind a failure, if there is one. -/
def layoutError? : Failure → Option (LayoutError Float)
  | job _ _ error | request _ error => some error
  | _ => none

end Failure

end SketchLayout
