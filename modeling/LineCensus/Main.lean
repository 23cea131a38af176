/-
# Main -- the program

The program sees the files that standard input lists, one path a line.  A star
behind a path marks an executable file, and a slash a folder that may be empty.
Besides those it sees the arguments that are files, and the settings files of the
home folder and the current one.
-/
import LineCensus.Command.Run
import LineCensus.Disk.Build

set_option autoImplicit false

namespace LineCensus
namespace Program

/-- The file at a path, if it can be read. -/
def fileAt (path : String) (executable : Bool) : IO (Option (String × Node)) := do
  match ← (IO.FS.readBinFile path).toBaseIO with
  | .ok content => return some (path, .file content executable)
  | .error _ => return none

/-- The file or folder of a line. -/
def listed (line : String) : IO (Option (String × Node)) :=
  match line.toList.reverse with
  | '/' :: rest => return some (String.ofList rest.reverse, .folder [])
  | '*' :: rest => fileAt (String.ofList rest.reverse) true
  | _ => fileAt line false

/-- The variables that set settings. -/
def environment : IO (List (String × String)) :=
  Variable.kinds.filterMapM fun entry => do
    let name := Variable.nameOf entry.1
    return (← IO.getEnv name).map fun text => (name, text)

/-- The disk that the program sees. -/
def disk (arguments : List String) : IO Disk := do
  let home := (← IO.getEnv "HOME").getD "/"
  let current := (← IO.getEnv "PWD").getD "/"
  let bare := Disk.ofNodes current home []
  let named := arguments ++ [SettingsFile.globalPath bare, SettingsFile.projectPath bare]
  let files ← (named.filter (!Disk.hasNul ·)).filterMapM fun path => fileAt path false
  let others ← (← (← IO.getStdin).lines).toList.filterMapM listed
  return Disk.ofNodes current home
    ((files ++ others).map fun entry => (Path.absolute current entry.1, entry.2))

/-- Print the records that the level lets through. -/
def printLog (ending : Ending) : IO Unit :=
  for entry in ending.log do
    if ending.level ≤ entry.severity.level then
      IO.eprintln (entry.severity.name ++ " " ++ entry.message)

def run (arguments : List String) : IO UInt32 := do
  let ending := Command.run (← disk arguments) (← environment) Schedule.inOrder arguments
  printLog ending
  IO.eprint ending.errorOutput
  if let some error := ending.usage then IO.eprintln error.message
  IO.print ending.output
  return UInt32.ofNat ending.exit

end Program
end LineCensus

def main (arguments : List String) : IO UInt32 :=
  LineCensus.Program.run arguments
