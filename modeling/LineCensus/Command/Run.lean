/-
# Command.Run -- what a command does

An analysis loads its settings, walks its roots, measures what it finds and
writes the report.  An error that the program reports goes to the error output,
where its text is read as markup; every other fault ends the command without a
word.

The level of the log follows the switches first and the settings as soon as they
are known.
-/
import LineCensus.Command.Request
import LineCensus.Discovery.Roots
import LineCensus.Journal
import LineCensus.Report.Analyze
import LineCensus.Settings.Load

set_option autoImplicit false

namespace LineCensus

/-- How a command ends. -/
structure Ending where
  exit : Nat := 0
  output : String := ""
  errorOutput : String := ""
  /-- The level of the log, zero if it was never set up. -/
  level : Int := 0
  /-- Why the command line is none; it is not part of the outputs. -/
  usage : Option UsageError := none
  /-- A fault that is not reported in the program's own words. -/
  fault : Option Fault := none
  log : List LogRecord := []

namespace Ending

def usageExit : Nat := 2
def faultExit : Nat := 1

/-- The width of a terminal. -/
def terminalWidth : Nat := 80

def terminalLines (glyphs : Glyphs) (text : Text) : List Text :=
  Wrap.page glyphs terminalWidth text

/-- Whether a text is one line as it stands. -/
def isOneLine (glyphs : Glyphs) (text : Text) : Bool :=
  (terminalLines glyphs text).length == 1 && !text.contains '\t'

/-- A reported error as it is shown. -/
def errorText (glyphs : Glyphs) (error : ReportedError) : Except Fault String := do
  let shown ← Markup.shownUndivided glyphs (isOneLine glyphs)
    ("[red]Error:[/red] " ++ error.text).toList
  return Screen.textOf (terminalLines glyphs shown)

/-- A path that cannot be analyzed is an error of usage. -/
def exitOf : ReportedError → Nat
  | .invalidPath _ _ => usageExit
  | _ => faultExit

/-- The end that a fault makes. -/
def ofFault (glyphs : Glyphs) (level : Int) (fault : Fault) : Ending :=
  match fault with
  | .reported error =>
      match errorText glyphs error with
      | .ok text => { exit := exitOf error, errorOutput := text, level }
      | .error unshown => { exit := faultExit, level, fault := some unshown }
  | other => { exit := faultExit, level, fault := some other }

def ofRejection : Rejection → Ending
  | .usage error => { exit := usageExit, usage := some error }
  | .fault fault => { exit := faultExit, fault := some fault }

end Ending

namespace AnalyzeRequest

/-- The settings that a request sets itself. -/
def overrides (request : AnalyzeRequest) : Table :=
  (request.workers.map fun n => ("workers", Value.whole n)).toList
    ++ (request.largest.map fun n => ("largest_files_limit", Value.whole n)).toList
    ++ (if request.withManifests then [] else [("include_manifests", .flag false)])
    ++ [(Settings.verboseKey, .flag request.verbose), (Settings.quietKey, .flag request.quiet)]

/-- Where the analysis begins. -/
def roots (disk : Disk) (request : AnalyzeRequest) : List String :=
  if request.paths.isEmpty then [disk.currentFolder] else request.paths

/-- The report on everything under the roots. -/
def report (disk : Disk) (settings : Settings) (workers : Workers) (roots : List String) :
    Logged Report := do
  let found ← Discovery.ofRoots disk settings roots
  Logged.write .info Journal.rootName
    ("Found " ++ toString found.sources.length ++ " source files and "
      ++ toString found.manifests.length ++ " manifests")
  Report.analyze disk settings workers none found.sources found.manifests

/-- A report as it is printed; every form ends in a line break. -/
def printed (glyphs : Glyphs) (format : ReportFormat) (report : Report) :
    Except Fault String := do
  let text ← format.textWithin glyphs Ending.terminalWidth report
  return match format with
    | .json => text ++ "\n"
    | .rich => text

/-- Do an analysis. -/
def run (glyphs : Glyphs) (disk : Disk) (environment : List (String × String)) (workers : Workers)
    (request : AnalyzeRequest) : Ending :=
  match Settings.load disk environment request.settingsFile request.overrides with
  | .error fault => Ending.ofFault glyphs request.verbosity.level fault
  | .ok settings =>
      let level := settings.verbosity.level
      let work := report disk settings workers (request.roots disk)
      match work.result.bind (printed glyphs request.format) with
      | .ok output => { output, level, log := work.log }
      | .error fault => { Ending.ofFault glyphs level fault with log := work.log }

end AnalyzeRequest

namespace Command

def versionText : String := "source-metrics version 0.1.0\n"

/-- Do what a command line asks for. -/
def run (disk : Disk) (environment : List (String × String)) (workers : Workers)
    (arguments : List String) (glyphs : Glyphs := .plain) : Ending :=
  match ofArguments disk arguments with
  | .error rejection => Ending.ofRejection rejection
  | .ok .help => {}
  | .ok .version => { output := versionText }
  | .ok (.analyze request) => request.run glyphs disk environment workers

end Command
end LineCensus
