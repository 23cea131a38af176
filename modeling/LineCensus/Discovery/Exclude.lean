/-
# Discovery.Exclude -- folders that are not looked into

A folder is excluded when a pattern fits its name or its path from the root.
Patterns are tried in order, and no pattern after one that fits is looked at.
-/
import LineCensus.Disk.Path
import LineCensus.Fault
import LineCensus.Pattern.Glob

set_option autoImplicit false

namespace LineCensus
namespace Exclude

/-- Whether a pattern fits the name or the path of a folder. -/
def fitsFolder (relative pattern : String) : Bool :=
  Glob.fits pattern.toList (Path.basename relative).toList
    || Glob.fits pattern.toList relative.toList

/-- Try patterns, each of which must be a text. -/
def tryPatterns (relative : String) : List Value → Except Fault Bool
  | [] => .ok false
  | .text pattern :: rest =>
      if fitsFolder relative pattern then .ok true else tryPatterns relative rest
  | _ :: _ => .error .wrongKind

/-- The patterns of a setting: the items of a list, the characters of a text, the
keys of a table.  Other values hold none and cannot be asked. -/
def patterns? : Value → Option (List Value)
  | .list items => some items
  | .text s => some (s.toList.map fun c => .text (String.singleton c))
  | .table entries => some (entries.map fun entry => .text entry.1)
  | _ => none

/-- Whether the folder at a path from the root is excluded. -/
def excludes (patterns : Value) (relative : String) : Except Fault Bool :=
  match patterns? patterns with
  | some items => tryPatterns relative items
  | none => .error .wrongKind

end Exclude
end LineCensus
