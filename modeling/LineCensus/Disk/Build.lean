/-
# Disk.Build -- a disk from a list of its files
-/
import LineCensus.Disk.Tree

set_option autoImplicit false

namespace LineCensus
namespace Node

/-- Replace the entry of a name, or add it at the end. -/
def setEntry (name : String) (node : Node) : List (String × Node) → List (String × Node)
  | [] => [(name, node)]
  | (n, old) :: rest =>
      if n = name then (name, node) :: rest else (n, old) :: setEntry name node rest

/-- Put a node where the parts of a path lead, making folders on the way.  A
folder that is already there stays. -/
def place (what : Node) : List String → Node → Node
  | [], .folder entries => if what.isFile then what else .folder entries
  | [], .file _ _ => what
  | name :: rest, .folder entries =>
      .folder (setEntry name (place what rest ((entries.lookup name).getD (.folder []))) entries)
  | name :: rest, .file _ _ => .folder [(name, place what rest (.folder []))]

end Node

namespace Disk

/-- The disk with a node at an absolute path. -/
def put (disk : Disk) (path : String) (node : Node) : Disk :=
  { disk with root := Node.place node (Path.parts path) disk.root }

/-- The disk that holds nodes at absolute paths. -/
def ofNodes (currentFolder home : String) (nodes : List (String × Node)) : Disk :=
  let bare : Disk := { root := .folder [], currentFolder, home }
  nodes.foldl (fun disk entry => disk.put entry.1 entry.2) (bare.put currentFolder (.folder []))

end Disk
end LineCensus
