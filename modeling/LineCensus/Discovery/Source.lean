/-
# Discovery.Source -- which files are sources

A file is a source by its extension, or because it is executable and its first
line names the interpreter.
-/
import LineCensus.Encoding.Decode
import LineCensus.Fault

set_option autoImplicit false

namespace LineCensus
namespace Source

def extensions : List String := [".rb", ".rake", ".gemspec"]

def interpreter : Text := "ruby".toList

def hasExtension (path : String) : Bool :=
  extensions.any fun extension => extension.toList.isSuffixOf path.toList

/-- The first line of a file, without its end. -/
def firstLine (content : ByteArray) : Text :=
  ((Charset.decodeUtf8 content.data.toList).unifyBreaks).takeWhile (· != '\n')

/-- Whether a file is run by the interpreter. -/
def namesInterpreter : Node → Bool
  | .file content executable => executable && interpreter.occursIn (firstLine content)
  | .folder _ => false

/-- Whether the file that a path leads to is run by the interpreter. -/
def hasShebang (disk : Disk) (path : String) : Except Fault Bool :=
  if Disk.hasNul path then .error (.refused .nulInPath)
  else match disk.find path with
    | .ok node => .ok (namesInterpreter node)
    | .error _ => .ok false

/-- Whether a path is that of a source.  The disk is not asked if the extension
tells. -/
def isSource (disk : Disk) (path : String) : Except Fault Bool :=
  if hasExtension path then .ok true else hasShebang disk path

end Source
end LineCensus
