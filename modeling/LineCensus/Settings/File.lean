/-
# Settings.File -- settings from files

A settings file is a document whose settings stand in one section, or at its top
if it has no such section.
-/
import LineCensus.Fault
import LineCensus.Toml.Document

set_option autoImplicit false

namespace LineCensus
namespace SettingsFile

def fileName : String := "source-metrics.toml"

/-- The section that holds the settings. -/
def sectionName : String := "source-metrics"

/-- The settings of a document. -/
def layer (document : Table) : Table :=
  match document.get? sectionName with
  | some (.table inner) => inner
  | _ => document

/-- The settings of a file. -/
def load (disk : Disk) (path : String) : Except Fault Table :=
  match disk.content path with
  | .error problem => .error (.reported (.settingsFile path (.unreadable problem)))
  | .ok content =>
      match Utf8.decodeStrict? content.data.toList with
      | none => .error .malformedText
      | some text =>
          match Toml.read text with
          | .ok document => .ok (layer document)
          | .error .malformed => .error (.reported (.settingsFile path .malformed))
          | .error .tooDeep => .error .tooDeep
          | .error (.tooManyDigits count) => .error (.refused (.tooManyDigits count))

/-- The settings of a file that need not be there. -/
def loadIfThere (disk : Disk) (path : String) : Except Fault Table := do
  if ← (disk.isThere path).mapError .disk then load disk path else return []

/-- The settings of a file that must be there. -/
def loadNamed (disk : Disk) (path : String) : Except Fault Table := do
  if ← (disk.isThere path).mapError .disk then load disk path
  else throw (.reported (.settingsFileMissing path))

def globalPath (disk : Disk) : String :=
  Path.join disk.home ("." ++ fileName)

def projectPath (disk : Disk) : String :=
  Path.join disk.currentFolder fileName

end SettingsFile
end LineCensus
