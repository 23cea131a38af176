/-
# Listing.Largest -- the largest files

Files by size, largest first; files of one size keep their order.  The list is
cut at a limit; a negative limit leaves out that many at the end.
-/
import LineCensus.Listing.Size

set_option autoImplicit false

namespace LineCensus

structure LargeFile where
  path : String
  size : Int
  kib : Amount
  deriving DecidableEq

/-- The first `limit` items, or all but the last ones if it is negative. -/
def takeLimit {α : Type} (limit : Int) (items : List α) : List α :=
  if limit < 0 then items.take (items.length - limit.natAbs) else items.take limit.natAbs

/-- Only whole numbers and flags are limits. -/
def limitOf : Value → Except Fault Int
  | .whole n => .ok n
  | .flag b => .ok (if b then 1 else 0)
  | _ => .error .wrongKind

namespace LargeFile

/-- Files by falling size. -/
def ranking (files : List ListedFile) : List ListedFile :=
  files.mergeSort fun a b => b.size ≤ a.size

def ofListed (file : ListedFile) : Except Fault LargeFile := do
  return { path := file.path, size := file.size, kib := ← sizeInKib file.size }

/-- The largest files up to a limit. -/
def ofFiles (limit : Int) (files : List ListedFile) : Except Fault (List LargeFile) :=
  (takeLimit limit (ranking files)).mapM ofListed

end LargeFile
end LineCensus
