/-
# Command.Request -- what a command line asks for

There are two commands: one analyzes files and folders, one tells the version.
Help for either, or for both together, is asked for by an option, and wins over
everything else that the words can be read as.

Values are checked in the order in which their options first appear, and paths
after them.  A value that does not fit is an error of usage; a NUL character in a
path is a fault.
-/
import LineCensus.Command.Words
import LineCensus.Disk.Tree
import LineCensus.Report.Format
import LineCensus.Settings.Basic
import LineCensus.Text.Whole

set_option autoImplicit false

namespace LineCensus

/-- What is asked of an analysis. -/
structure AnalyzeRequest where
  /-- None stand for the current folder. -/
  paths : List String := []
  format : ReportFormat := .rich
  settingsFile : Option String := none
  workers : Option Int := none
  largest : Option Int := none
  withManifests : Bool := true
  verbose : Bool := false
  quiet : Bool := false

inductive Command where
  | help
  | version
  | analyze (request : AnalyzeRequest)

/-- Why a command line is no command. -/
inductive Rejection where
  | usage (error : UsageError)
  | fault (fault : Fault)

/-! ## Options -/

inductive HelpOption where
  | help
  deriving DecidableEq

inductive AnalyzeOption where
  | format
  | settings
  | workers
  | top
  | noManifests
  | verbose
  | quiet
  | help
  deriving DecidableEq

def helpName : String := "help"

def HelpOption.forms : List (OptionForm HelpOption) :=
  [{ key := .help, long := helpName }]

namespace AnalyzeOption

def long : AnalyzeOption → String
  | .format => "format"
  | .settings => "config"
  | .workers => "workers"
  | .top => "top"
  | .noManifests => "no-manifests"
  | .verbose => "verbose"
  | .quiet => "quiet"
  | .help => helpName

def letter : AnalyzeOption → Option Char
  | .format => some 'f'
  | .settings => some 'c'
  | .workers => some 'w'
  | .verbose => some 'v'
  | .quiet => some 'q'
  | _ => none

def takesValue : AnalyzeOption → Bool
  | .format => true
  | .settings => true
  | .workers => true
  | .top => true
  | _ => false

def all : List AnalyzeOption :=
  [.format, .settings, .workers, .top, .noManifests, .verbose, .quiet, .help]

def forms : List (OptionForm AnalyzeOption) :=
  all.map fun key =>
    { key, long := key.long, letter := key.letter, takesValue := key.takesValue }

end AnalyzeOption

/-! ## Values -/

/-- The long s, which is another form of the letter s. -/
def longS : Char := Char.ofNat 0x17F

/-- A word without the difference of its letters' forms. -/
def folded (word : String) : String :=
  String.ofList ((lowercase word.toList).map fun c => if c = longS then 's' else c)

/-- The least and the largest number of workers. -/
def leastWorkers : Int := 1
def mostWorkers : Int := 32

namespace AnalyzeRequest

def refuse {α : Type} (option : AnalyzeOption) (value : String) : Except Rejection α :=
  .error (.usage (.badValue option.long value))

/-- The whole number of a value within bounds. -/
def number (option : AnalyzeOption) (least : Int) (most : Option Int) (value : String) :
    Except Rejection Int :=
  match Whole.ofText value with
  | .ok n => if least ≤ n ∧ most.all (n ≤ ·) then .ok n else refuse option value
  | .error _ => refuse option value

def formatOf (value : String) : Except Rejection ReportFormat :=
  match ReportFormat.names.lookup (folded value) with
  | some format => .ok format
  | none => refuse .format value

/-- The path of a file that is there. -/
def fileOf (disk : Disk) (value : String) : Except Rejection String :=
  if Disk.hasNul value then .error (.fault (.refused .nulInPath))
  else if disk.isFile value then .ok value
  else refuse .settings value

/-- Take in one option. -/
def set (disk : Disk) (request : AnalyzeRequest) (option : AnalyzeOption) (value : String) :
    Except Rejection AnalyzeRequest := do
  match option with
  | .format => return { request with format := ← formatOf value }
  | .settings => return { request with settingsFile := some (← fileOf disk value) }
  | .workers =>
      return { request with workers := some (← number .workers leastWorkers mostWorkers value) }
  | .top => return { request with largest := some (← number .top 0 none value) }
  | .noManifests => return { request with withManifests := false }
  | .verbose => return { request with verbose := true }
  | .quiet => return { request with quiet := true }
  | .help => return request

/-- A path that an analysis can be asked for. -/
def pathOf (word : String) : Except Rejection String :=
  if Disk.hasNul word then .error (.fault (.refused .nulInPath)) else .ok (Path.tidy word)

def ofWords (disk : Disk) (words : Words AnalyzeOption) : Except Rejection AnalyzeRequest := do
  let request ← (Words.lastValues words.uses).foldlM (fun r use => set disk r use.1 use.2) {}
  return { request with paths := ← words.plain.mapM pathOf }

/-- The verbosity that the switches name. -/
def verbosity (request : AnalyzeRequest) : Verbosity :=
  if request.quiet then .quiet else if request.verbose then .verbose else .normal

end AnalyzeRequest

/-! ## Commands -/

namespace Command

def analyzeName : String := "analyze"
def versionName : String := "version"

def readWords {κ : Type} (mixed : Bool) (forms : List (OptionForm κ)) (arguments : List String) :
    Except Rejection (Words κ) :=
  (Words.read mixed forms arguments).mapError .usage

def asksHelp {κ : Type} [DecidableEq κ] (help : κ) (words : Words κ) : Bool :=
  words.uses.any fun use => use.1 = help

/-- The command of the words after its name. -/
def ofName (disk : Disk) (name : String) (arguments : List String) : Except Rejection Command := do
  if name = analyzeName then
    let words ← readWords true AnalyzeOption.forms arguments
    if asksHelp .help words then return .help
    else return .analyze (← AnalyzeRequest.ofWords disk words)
  else if name = versionName then
    let words ← readWords true HelpOption.forms arguments
    if asksHelp .help words then return .help
    else match words.plain with
      | [] => return .version
      | word :: _ => throw (.usage (.surplusWord word))
  else throw (.usage (.unknownCommand name))

/-- The command of a command line. -/
def ofArguments (disk : Disk) (arguments : List String) : Except Rejection Command := do
  let words ← readWords false HelpOption.forms arguments
  if asksHelp .help words then return .help
  else match words.plain with
    | [] => throw (.usage .noCommand)
    | name :: rest => ofName disk name rest

end Command
end LineCensus
