/-
# Journal -- where records are kept

A journal is set up for a verbosity, which says the least level of a record that
is kept, and has outlets: the screen, and a file if one is named.  Setting it up
again replaces the outlets.  Everything that can fail is done before the first
change, so a setup that fails leaves the journal as it was.

Records are written under names.  A record rises from its name to the nearest name
above it that is in use, and so on; if it comes to the root name it reaches the
outlets.  A record with a number that is too long to be written, and one nested too deep,
fails before anything is written.
-/
import LineCensus.Disk.Build
import LineCensus.Log
import LineCensus.Settings.Basic

set_option autoImplicit false

namespace LineCensus

/-! ## Levels -/

/-- The least severity that a verbosity keeps. -/
def Verbosity.least : Verbosity → Severity
  | .quiet => .error
  | .normal => .warning
  | .verbose => .debug

def Verbosity.level (verbosity : Verbosity) : Int :=
  verbosity.least.level

namespace Journal

/-- The verbosity of a value.  A list and a table cannot even be looked up. -/
def verbosityOf (value : Value) : Except Fault Verbosity :=
  match value with
  | .text name =>
      match Verbosity.ofName? name with
      | some verbosity => .ok verbosity
      | none => .error (.refused (.verbosity value))
  | .list _ => .error .wrongKind
  | .table _ => .error .wrongKind
  | _ => .error (.refused (.verbosity value))

/-- The name of the level that nothing is below. -/
def zeroLevelName : String := "NOTSET"

/-- A level by name, or by number if it has none. -/
def levelName (level : Int) : String :=
  if level = 0 then zeroLevelName
  else match Severity.all.find? fun severity => severity.level = level with
    | some severity => severity.name
    | none => "Level " ++ toString level

/-! ## Names -/

def rootName : String := "source_metrics"

/-- The name of a part of the program.  A name that begins like the root name is
taken as it is. -/
def nameOf : Option String → String
  | none => rootName
  | some part =>
      if rootName.toList.isPrefixOf part.toList then part else rootName ++ "." ++ part

/-- The name of a part that a value names; only a text can be asked how it
begins. -/
def nameOfValue : Value → Except Fault String
  | .null => .ok (nameOf none)
  | .text part => .ok (nameOf (some part))
  | _ => .error .unsupported

/-- Whether records rise to the root name from a name, of which the characters are
read from the last one on.  What stands before a dot is a name above; records rise
to it if it is in use, and else the dot next to this one is passed over. -/
def rises (inUse : List String) (passOver : Bool) : List Char → Bool
  | [] => false
  | c :: before =>
      if c = '.' ∧ passOver = false then
        let above := String.ofList before.reverse
        above == rootName || rises inUse (!inUse.contains above) before
      else rises inUse false before

/-- Whether the records of a name reach the outlets. -/
def isOwnName (inUse : List String) (name : String) : Bool :=
  name == rootName || rises inUse false name.toList.reverse

end Journal

/-! ## Journals -/

inductive Outlet where
  | screen
  /-- A file, by its absolute path. -/
  | file (path : String)
  deriving DecidableEq

structure Journal where
  disk : Disk
  /-- Zero until the journal is set up. -/
  level : Int := 0
  outlets : List Outlet := []
  /-- The names that were asked for, the last one first. -/
  names : List String := []

namespace Journal

/-- Work on a journal.  A fault keeps the changes that were made before it. -/
abbrev Work := ExceptT Fault (StateM Journal)

/-- The journal and the result after some work. -/
def perform {α : Type} (work : Work α) (journal : Journal) : Except Fault α × Journal :=
  StateT.run (ExceptT.run work) journal

/-- The path of the file that a value names; what counts as absent names none. -/
def filePath? (disk : Disk) (value : Value) : Except Fault (Option String) :=
  if !value.isTruthy then .ok none
  else match value with
    | .text path =>
        if Disk.hasNul path then .error (.refused .nulInPath)
        else .ok (some (Path.absolute disk.currentFolder path))
    | _ => .error .wrongKind

/-- The disk on which a file is there to be appended to. -/
def opened (disk : Disk) (path : String) : Except PathProblem Disk :=
  match disk.find path with
  | .ok node => if node.isFile then .ok disk else .error .isAFolder
  | .error .missing =>
      match disk.find (Path.dirname path) with
      | .ok _ => .ok (disk.put path (.file ByteArray.empty false))
      | .error problem => .error problem
  | .error problem => .error problem

/-- Open the file of a value for appending. -/
def openFile (value : Value) : Work (List Outlet) := do
  let journal ← get
  match ← filePath? journal.disk value with
  | none => return []
  | some path =>
      let disk ← (opened journal.disk path).mapError Fault.disk
      set { journal with disk }
      return [.file path]

/-- Set up for a verbosity and perhaps a file. -/
def setUp (verbosity file : Value) : Work Unit := do
  let verbosity ← verbosityOf verbosity
  let files ← openFile file
  modify fun journal => { journal with level := verbosity.level, outlets := .screen :: files }

/-! ## Records -/

/-- A record as a line of a file; `stamp` says when it was written. -/
def lineOf (stamp name : String) (level : Int) (message : String) : String :=
  " - ".intercalate [stamp, name, levelName level, message] ++ "\n"

/-- Append to a file. -/
def append (disk : Disk) (path text : String) : Disk :=
  match disk.find path with
  | .ok (.file content executable) =>
      disk.put path (.file (content ++ text.toUTF8) executable)
  | _ => disk

def appendTo (text : String) (disk : Disk) : Outlet → Disk
  | .screen => disk
  | .file path => append disk path text

/-- A value as it can be written: not nested too deep, and without a number that is too
long. -/
def checkMessage (message : Value) : Except Fault Unit :=
  if Value.deepestWritten < message.depth then .error .tooDeep
  else if message.isWritable then .ok ()
  else .error (.refused .tooLongToWrite)

/-- Whether a record can be written.  A level that may be kept somewhere has to be written
for every record, the message for those that come to the screen. -/
def checkRecord (name : String) (level : Int) (message : Value) (journal : Journal) :
    Except Fault Unit :=
  if 0 ≤ level ∧ isShort level = false then .error (.refused .tooLongToWrite)
  else if (isOwnName journal.names name ∧ journal.level ≤ level) ∧ .screen ∈ journal.outlets then
    checkMessage message
  else .ok ()

/-- Write a record under a name to every outlet, if its level is kept. -/
def record (stamp name : String) (level : Int) (message : String) (journal : Journal) : Journal :=
  if isOwnName journal.names name ∧ journal.level ≤ level then
    let line := lineOf stamp name level message
    { journal with disk := journal.outlets.foldl (appendTo line) journal.disk }
  else journal

/-- The level that a value is. -/
def levelOf : Value → Except Fault Int
  | .whole level => .ok level
  | .flag b => .ok (if b then 1 else 0)
  | _ => .error .wrongKind

/-- Ask for the name of a part that a value names, which is in use from then on. -/
def useName (value : Value) : Work String := do
  let name ← nameOfValue value
  modify fun journal => { journal with names := name :: journal.names }
  return name

/-- Write a record whose name, level and message are values. -/
def recordValues (stamp : String) (name level message : Value) : Work Unit := do
  let name ← useName name
  let level ← levelOf level
  let journal ← get
  checkRecord name level message journal
  modify (record stamp name level message.plain)

end Journal
end LineCensus
