/-
# Disk.Tree -- files and folders, and what a path leads to

A disk is a tree of folders and a current folder.  `Disk.find` follows a path
part by part: a part can be missing, stand below something that is no folder, or
have a name longer than any name can be.  Where a path ends in a slash it must
lead to a folder.  A path with a NUL character leads nowhere and is refused
before anything is looked up.
-/
import LineCensus.Disk.Path
import LineCensus.Encoding.Utf8

set_option autoImplicit false

namespace LineCensus

inductive Node where
  | file (content : ByteArray) (executable : Bool)
  | folder (entries : List (String × Node))

namespace Node

instance : Inhabited Node := ⟨.folder []⟩

def isFile : Node → Bool
  | .file _ _ => true
  | .folder _ => false

def child? (name : String) : Node → Option Node
  | .file _ _ => none
  | .folder entries => entries.lookup name

end Node

structure Disk where
  root : Node
  /-- An absolute path. -/
  currentFolder : String
  home : String

/-- Why a path does not lead to what was asked for. -/
inductive PathProblem where
  | missing
  | notAFolder
  | isAFolder
  | nameTooLong
  deriving DecidableEq

namespace PathProblem

def number : PathProblem → Nat
  | .missing => 2
  | .notAFolder => 20
  | .isAFolder => 21
  | .nameTooLong => 36

def reason : PathProblem → String
  | .missing => "No such file or directory"
  | .notAFolder => "Not a directory"
  | .isAFolder => "Is a directory"
  | .nameTooLong => "File name too long"

/-- A path that is nowhere, as opposed to one that cannot be asked about. -/
def isAbsence : PathProblem → Bool
  | .missing => true
  | .notAFolder => true
  | .isAFolder => false
  | .nameTooLong => false

end PathProblem

namespace Disk

/-- The longest name of a file, in octets. -/
def nameLimit : Nat := 255

/-- The longest path, in octets. -/
def pathLimit : Nat := 4095

def textOctets (s : String) : Nat :=
  Utf8.octetCount s.toList

/-- Follow parts from a node; `above` are the folders it was reached through,
nearest first. -/
def descend (node : Node) (above : List Node) : List String → Except PathProblem Node
  | [] => .ok node
  | part :: rest =>
      match node with
      | .file _ _ => .error .notAFolder
      | .folder entries =>
          if part = "" ∨ part = "." then descend node above rest
          else if part = ".." then
            match above with
            | parent :: higher => descend parent higher rest
            | [] => descend node [] rest
          else if nameLimit < textOctets part then .error .nameTooLong
          else match entries.lookup part with
            | some next => descend next (node :: above) rest
            | none => .error .missing

def hasNul (path : String) : Bool :=
  path.toList.contains (Char.ofNat 0)

/-- What a path without NUL leads to.  The text after a final slash is an empty
part, which only a folder has. -/
def find (disk : Disk) (path : String) : Except PathProblem Node :=
  if path.isEmpty then .error .missing
  else if pathLimit < textOctets path then .error .nameTooLong
  else
    let whole := Path.join disk.currentFolder path
    descend disk.root [] ((Text.segments '/' whole.toList).map String.ofList)

/-- The entries of the folder that a path leads to, none if it leads to no folder. -/
def listing (disk : Disk) (path : String) : List (String × Node) :=
  match disk.find path with
  | .ok (.folder entries) => entries
  | _ => []

/-- Whether a path leads anywhere; a path that cannot be followed does not. -/
def exists? (disk : Disk) (path : String) : Bool :=
  !hasNul path && (disk.find path).isOk

/-- Whether a path leads anywhere.  A name that is too long cannot be asked
about. -/
def isThere (disk : Disk) (path : String) : Except PathProblem Bool :=
  if hasNul path then .ok false
  else match disk.find path with
    | .ok _ => .ok true
    | .error problem => if problem.isAbsence then .ok false else .error problem

def isFile (disk : Disk) (path : String) : Bool :=
  !hasNul path &&
    match disk.find path with
    | .ok node => node.isFile
    | .error _ => false

/-- The content of a file. -/
def content (disk : Disk) (path : String) : Except PathProblem ByteArray :=
  match disk.find path with
  | .ok (.file content _) => .ok content
  | .ok (.folder _) => .error .isAFolder
  | .error problem => .error problem

end Disk
end LineCensus
