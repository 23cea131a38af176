/-
# Settings.Load -- settings from all their sources

Sources are laid over each other, a later one winning key by key: the file in
the home folder, the file in the current folder, a named file, variables, and
what the caller sets.  A caller's null sets nothing, and its two switches for the
verbosity win over a verbosity it names.

A key that is no setting is an error.  A value that fails its check is reported
under its key, unless it cannot be written.
-/
import LineCensus.Settings.File
import LineCensus.Settings.Variable

set_option autoImplicit false

namespace LineCensus
namespace Settings

/-- The key of a switch in what a caller sets. -/
def verboseKey : String := "verbose"
def quietKey : String := "quiet"
def verbosityKey : String := "verbosity"

/-- Take a switch out of what a caller sets; if it is on, it names the
verbosity. -/
def resolveSwitch (key : String) (verbosity : Verbosity) (overrides : Table) : Table :=
  let rest := overrides.filter (·.1 != key)
  match overrides.get? key with
  | some value =>
      if value.isTruthy then Table.set verbosityKey (.text verbosity.name) rest else rest
  | none => rest

def isNull : Value → Bool
  | .null => true
  | _ => false

/-- The settings that a caller sets. -/
def overrideLayer (overrides : Table) : Table :=
  let resolved := resolveSwitch quietKey .quiet (resolveSwitch verboseKey .verbose overrides)
  resolved.filter fun entry => !isNull entry.2

/-- Keys that are no settings, in order and each once. -/
def unknownKeys (merged : Table) : List String :=
  ((merged.map (·.1)).filter fun key => !Draft.keys.contains key).mergeSort (· ≤ ·)

/-- The word at the head of a message. -/
def firstWord (message : String) : String :=
  String.ofList (message.toList.takeWhile (· != ' '))

/-- The fault of a value that is refused: it is reported with the value, which has
to be written for that. -/
def unacceptable (key : String) (value : Value) (refusal : Refusal) : Fault :=
  if Value.deepestWritten < value.depth then .tooDeep
  else if value.isWritable then .reported (.invalidSetting key value refusal.message)
  else .refused .tooLongToWrite

/-- Check merged settings. -/
def ofMerged (merged : Table) : Except Fault Settings :=
  let unknown := unknownKeys merged
  if !unknown.isEmpty then .error (.reported (.unknownSettings unknown))
  else match (Draft.ofTable merged).check with
    | .error (.refused refusal) =>
        let key := firstWord refusal.message
        .error (unacceptable key ((merged.get? key).getD .null) refusal)
    | result => result

/-- The settings of all sources, merged. -/
def merge (disk : Disk) (environment : List (String × String)) (named : Option String)
    (overrides : Table) : Except Fault Table := do
  let global ← SettingsFile.loadIfThere disk (SettingsFile.globalPath disk)
  let project ← SettingsFile.loadIfThere disk (SettingsFile.projectPath disk)
  let explicit ← match named with
    | some path => SettingsFile.loadNamed disk (Path.tidy path)
    | none => pure []
  let fromEnvironment ← (Variable.all environment).mapError .reported
  let layers := [global, project, explicit, fromEnvironment, overrideLayer overrides]
  return layers.foldl Table.merge []

/-- Load the settings of an analysis. -/
def load (disk : Disk) (environment : List (String × String)) (named : Option String)
    (overrides : Table) : Except Fault Settings := do
  ofMerged (← merge disk environment named overrides)

end Settings
end LineCensus
