/-
# Source.Scan -- the classified lines of a source file

A file that is missing, is no regular file or cannot be read is passed over with
a reason; the batch it belongs to goes on.
-/
import LineCensus.Disk.Read
import LineCensus.Line.Classify
import LineCensus.Log

set_option autoImplicit false

namespace LineCensus

/-- A file that was passed over. -/
structure SkippedFile where
  path : String
  reason : String
  deriving DecidableEq

/-- Why a source file is passed over. -/
inductive SkipCause where
  | missing
  | notAFile
  | unreadable (problem : ReadProblem)

def SkipCause.reason : SkipCause → String
  | .missing => "file does not exist"
  | .notAFile => "not a regular file"
  | .unreadable problem => problem.reason

namespace Source

def scanLog : String := "source_metrics.scanning.scanner"

/-- The lines of a file with their line feeds, or why there are none. -/
def readLines (disk : Disk) (encoding path : String) :
    Except Fault (Except SkipCause (List Text)) :=
  if !disk.exists? path then .ok (.error .missing)
  else if !disk.isFile path then .ok (.error .notAFile)
  else match disk.readText encoding path with
    | .ok text => .ok (.ok text.lines)
    | .error (.problem problem) => .ok (.error (.unreadable problem))
    | .error (.fault fault) => .error fault

/-- Classify the lines of a file, or pass it over. -/
def scan (disk : Disk) (encoding path : String) : Logged (Except SkippedFile (List Line)) := do
  match ← Logged.ofExcept (readLines disk encoding path) with
  | .error cause =>
      Logged.write .warning scanLog ("Skipping " ++ path ++ ": " ++ cause.reason)
      return .error ⟨path, cause.reason⟩
  | .ok lines =>
      Logged.write .debug scanLog
        ("Scanning " ++ path ++ " (" ++ toString lines.length ++ " lines)")
      return .ok (lines.map Line.classify)

end Source
end LineCensus
