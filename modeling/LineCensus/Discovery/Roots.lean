/-
# Discovery.Roots -- the sources and manifests under several roots

Roots are walked one after the other and what is found is joined, so a file that
two roots lead to is listed twice.  Every root must be there; the first that is
missing ends the search.
-/
import LineCensus.Discovery.Walk

set_option autoImplicit false

namespace LineCensus
namespace Discovery

def missingRoot : String := "path does not exist"

/-- Walk one root that must be there. -/
def ofPresentRoot (disk : Disk) (settings : Settings) (root : String) : Logged Discovery := do
  if ← Logged.ofExcept ((disk.isThere root).mapError .disk) then ofRoot disk settings root
  else Logged.fail (.reported (.invalidPath root missingRoot))

/-- Walk roots in order, `found` being what was found before. -/
def ofRootsAfter (disk : Disk) (settings : Settings) (found : Discovery) :
    List String → Logged Discovery
  | [] => return found
  | root :: rest => do
      let here ← ofPresentRoot disk settings root
      ofRootsAfter disk settings (found ++ here) rest

def ofRoots (disk : Disk) (settings : Settings) (roots : List String) : Logged Discovery :=
  ofRootsAfter disk settings {} roots

end Discovery
end LineCensus
