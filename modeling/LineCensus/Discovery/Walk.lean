/-
# Discovery.Walk -- the sources and manifests under a folder

The walk goes through a folder and every folder in it that is not excluded; what
lies below an excluded folder is never seen.  All folders in a folder are asked about
before the first of them is looked into.  A folder whose path cannot be followed, which
below the root means that the path is too long, is passed over in silence, and a folder
too many levels below the root ends the walk.

Of the files it meets the walk keeps the sources and the manifests, each list sorted by
path.  A root that is a file is classified on its own.
-/
import LineCensus.Discovery.Exclude
import LineCensus.Discovery.Source
import LineCensus.Log
import LineCensus.Manifest.Kind
import LineCensus.Settings.Basic

set_option autoImplicit false

namespace LineCensus

/-- Paths of sources and of manifests.  A file can be both. -/
structure Discovery where
  sources : List String := []
  manifests : List String := []

namespace Discovery

def discoveryLog : String := "source_metrics.scanning.discovery"

instance : Append Discovery :=
  ⟨fun a b => ⟨a.sources ++ b.sources, a.manifests ++ b.manifests⟩⟩

/-- The path of an entry from the root, where the root itself has the empty
path. -/
def relativePath (folder name : String) : String :=
  if folder.isEmpty then name else folder ++ "/" ++ name

/-! ## One folder -/

/-- Whether an entry that is a folder is excluded, which is logged. -/
def isPruned (patterns : Value) (relative : String) : Logged Bool := do
  let excluded ← Logged.ofExcept (Exclude.excludes patterns relative)
  if excluded then Logged.write .debug discoveryLog ("Pruning " ++ relative)
  return excluded

/-- The names of the folders among entries that are to be looked into.  `relative` is the
path of the folder that holds them from the root. -/
def keptFolders (patterns : Value) (relative : String) :
    List (String × Node) → Logged (List String)
  | [] => return []
  | (_, .file _ _) :: rest => keptFolders patterns relative rest
  | (name, .folder _) :: rest => do
      let pruned ← isPruned patterns (relativePath relative name)
      let others ← keptFolders patterns relative rest
      return if pruned then others else name :: others

/-- The paths of the files among the entries of a folder. -/
def filesIn (path : String) (entries : List (String × Node)) : List String :=
  (entries.filter fun entry => entry.2.isFile).map fun entry => Path.join path entry.1

/-! ## A walk -/

/-- How many levels below the root a folder is still looked into.  A walk is nested as
deep as the folders are, and the runtime sets a limit to that. -/
def deepestFolder : Nat := 980

/-- The paths of the files below a folder that is `room - 1` levels above the deepest that
is looked into.  `path` is the path of the folder, `relative` its path from the root. -/
def walk (disk : Disk) (patterns : Value) : Nat → String → String → Logged (List String)
  | 0, _, _ => Logged.fail .tooDeep
  | room + 1, path, relative => do
      let entries := disk.listing path
      let kept ← keptFolders patterns relative entries
      let below ← kept.mapM fun name =>
        walk disk patterns room (Path.join path name) (relativePath relative name)
      return filesIn path entries ++ below.flatten

/-! ## What is kept -/

def sourcesAmong (disk : Disk) : List String → Except Fault (List String)
  | [] => return []
  | path :: rest => do
      let isSource ← Source.isSource disk path
      let others ← sourcesAmong disk rest
      return if isSource then path :: others else others

/-- Keep the sources, and the manifests if they are wanted. -/
def classify (disk : Disk) (includeManifests : Bool) (paths : List String) :
    Except Fault Discovery := do
  let sources ← sourcesAmong disk paths
  let manifests := paths.filter fun path =>
    includeManifests && (ManifestKind.ofPath? path).isSome
  return { sources := sources.mergeSort (· ≤ ·), manifests := manifests.mergeSort (· ≤ ·) }

/-- The paths of the files at or below what a path leads to. -/
def filesAt (disk : Disk) (patterns : Value) (path : String) : Node → Logged (List String)
  | .file _ _ => return [path]
  | .folder _ => walk disk patterns (deepestFolder + 1) path ""

/-- What is found under a root that may be missing.  A root whose name is too
long cannot be asked about. -/
def ofRoot (disk : Disk) (settings : Settings) (root : String) : Logged Discovery := do
  if Disk.hasNul root then Logged.fail (.refused .nulInPath)
  else
    let path := Path.absolute disk.currentFolder root
    match disk.find path with
    | .ok node =>
        let met ← filesAt disk settings.excludePatterns path node
        Logged.ofExcept (classify disk settings.includeManifests.isTruthy met)
    | .error problem => if problem.isAbsence then return {} else Logged.fail (.disk problem)

end Discovery
end LineCensus
