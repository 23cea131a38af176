/-
# Listing.ListedFile -- what is known of a file without reading it

Path, size and the parts of the name.  A path that leads nowhere is listed with
size zero and marked as gone.
-/
import LineCensus.Fault
import LineCensus.Text.Letter

set_option autoImplicit false

namespace LineCensus

structure ListedFile where
  path : String
  size : Int
  /-- In small letters and with its point; empty if there is none. -/
  extension : String
  directory : String
  basename : String
  isPresent : Bool := true
  deriving DecidableEq

/-- The size at which a folder is listed: one block. -/
def folderSize : Nat := 4096

def Node.size : Node → Nat
  | .file content _ => content.size
  | .folder _ => folderSize

namespace ListedFile

/-- List a path. -/
def ofPath (disk : Disk) (path : String) : Except Fault ListedFile :=
  if Disk.hasNul path then .error (.refused .nulInPath)
  else
    let basename := Path.basename path
    let found := disk.find path
    .ok {
      path
      size := match found with
        | .ok node => node.size
        | .error _ => 0
      extension := String.ofList (lowercase (Path.splitExtension basename).2.toList)
      directory := Path.dirname path
      basename
      isPresent := found.isOk }

def ofPaths (disk : Disk) (paths : List String) : Except Fault (List ListedFile) :=
  paths.mapM (ofPath disk)

/-- The name without its extension. -/
def stem (file : ListedFile) : String :=
  (Path.splitExtension file.basename).1

end ListedFile
end LineCensus
