/-
# Disk.Path -- path texts

A path is a text whose parts are separated by slashes.  The functions here work
on the text alone and never look at a disk.

`Path.tidy` drops empty parts and single dots, which cannot change what a path
means; `Path.collapse` also removes a part together with the `..` after it.
-/
import LineCensus.Text.Search

set_option autoImplicit false

namespace LineCensus
namespace Path

/-- The text after the last slash. -/
def basename (path : String) : String :=
  String.ofList (Text.splitAfterLast '/' path.toList).2

/-- The text before the last slash, without the slashes at its end unless there
is nothing else. -/
def dirname (path : String) : String :=
  let head := (Text.splitAfterLast '/' path.toList).1
  if head.all (· = '/') then String.ofList head
  else String.ofList (head.dropEndWhile (· = '/'))

/-- A file name as stem and extension.  The extension begins at the last point
of the last part; points at the head of that part begin none. -/
def splitExtension (path : String) : String × String :=
  let cs := path.toList
  let (folder, name) := Text.splitAfterLast '/' cs
  let points := name.takeWhile (· = '.')
  let rest := name.dropWhile (· = '.')
  let (stem, extension) := Text.splitAfterLast '.' rest
  if stem.isEmpty then (path, "")
  else (String.ofList (folder ++ points ++ stem.dropLast), String.ofList ('.' :: extension))

def isAbsolute (path : String) : Bool :=
  path.toList.head? == some '/'

/-- A path taken from a folder. -/
def join (folder path : String) : String :=
  if isAbsolute path then path
  else if folder.isEmpty ∨ folder.toList.getLast? = some '/' then folder ++ path
  else folder ++ "/" ++ path

/-- The parts of a path that are neither empty nor a single dot. -/
def parts (path : String) : List String :=
  ((Text.segments '/' path.toList).map String.ofList).filter fun part => part != "" && part != "."

/-- The slashes that a path keeps at its head: exactly two are kept. -/
def rootSlashes (path : String) : String :=
  match path.toList with
  | '/' :: '/' :: '/' :: _ => "/"
  | '/' :: '/' :: _ => "//"
  | '/' :: _ => "/"
  | _ => ""

/-- A root and parts as a path; no parts below no root are the current
folder. -/
def assemble (root : String) (parts : List String) : String :=
  let joined := "/".intercalate parts
  if root.isEmpty ∧ parts.isEmpty then "." else root ++ joined

/-- The same path without empty parts and single dots. -/
def tidy (path : String) : String :=
  assemble (rootSlashes path) (parts path)

/-- Remove every part that is followed by `..`; `kept` are the parts so far,
last first.  At the root there is nothing above. -/
def collapseParts (rooted : Bool) (kept : List String) : List String → List String
  | [] => kept.reverse
  | part :: rest =>
      if part = ".." then
        match kept with
        | last :: before =>
            if last = ".." then collapseParts rooted (part :: kept) rest
            else collapseParts rooted before rest
        | [] => collapseParts rooted (if rooted then [] else [part]) rest
      else collapseParts rooted (part :: kept) rest

/-- A path without `..`, as far as the text tells. -/
def collapse (path : String) : String :=
  let root := rootSlashes path
  assemble root (collapseParts (!root.isEmpty) [] (parts path))

/-- A path from a folder, collapsed and with a single slash at its head. -/
def absolute (folder path : String) : String :=
  assemble "/" (collapseParts true [] (parts (join folder path)))

end Path
end LineCensus
