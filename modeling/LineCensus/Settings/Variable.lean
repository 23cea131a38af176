/-
# Settings.Variable -- settings from the environment

Every setting has a variable.  Its text is read by the kind of the setting: a
whole number, a switch, a list of patterns between commas, or a text.
-/
import LineCensus.Settings.Basic
import LineCensus.Text.Letter
import LineCensus.Text.Whole

set_option autoImplicit false

namespace LineCensus
namespace Variable

/-- How the text of a variable is read. -/
inductive Kind where
  | text
  | whole
  | switch
  | patterns
  deriving DecidableEq

def namePrefix : String := "SOURCE_METRICS_"

/-- The settings with the kinds of their variables. -/
def kinds : List (String × Kind) :=
  [("language", .text), ("largest_files_limit", .whole), ("workers", .whole),
    ("parallel_threshold", .whole), ("encoding", .text), ("include_manifests", .switch),
    ("exclude_patterns", .patterns), ("verbosity", .text)]

def nameOf (key : String) : String :=
  namePrefix ++ key.map Char.toUpper

/-- The patterns of a list: the segments between commas without white space
around them, blank ones left out. -/
def patterns (text : Text) : List Text :=
  ((Text.segments ',' text).map Text.trim).filter fun segment => !segment.isEmpty

def onWords : List String := ["true", "1", "yes", "on"]
def offWords : List String := ["false", "0", "no", "off"]

/-- A switch, in letters of either case. -/
def switch (text : String) : Except Refusal Bool :=
  let word := String.ofList (lowercase text.toList)
  if onWords.contains word then .ok true
  else if offWords.contains word then .ok false
  else .error (.notASwitch text)

def read (kind : Kind) (text : String) : Except Refusal Value :=
  match kind with
  | .text => .ok (.text text)
  | .whole => (Whole.ofText text).map .whole
  | .switch => (switch text).map .flag
  | .patterns => .ok (.list ((patterns text.toList).map fun p => .text (String.ofList p)))

/-- The settings that variables set, in the order of the settings.  The first
variable that cannot be read is an error. -/
def settings (environment : List (String × String)) :
    List (String × Kind) → Except ReportedError Table
  | [] => .ok []
  | (key, kind) :: rest =>
      match environment.lookup (nameOf key) with
      | none => settings environment rest
      | some text =>
          match read kind text with
          | .error refusal => .error (.variable (nameOf key) refusal)
          | .ok value => (settings environment rest).map ((key, value) :: ·)

def all (environment : List (String × String)) : Except ReportedError Table :=
  settings environment kinds

end Variable
end LineCensus
