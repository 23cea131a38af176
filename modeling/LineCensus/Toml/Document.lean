/-
# Toml.Document -- a settings document as a table

A document is a sequence of lines: pairs of a key and a value, headers that open
a table, and headers that add a table to a list.

A table is opened at most once, by a header or by the points in a key; lists and
tables that are written out as values are closed for good.  What the points in a
key opened can still be added to by keys in the same section, so it counts as
opened only from the next header on.
-/
import LineCensus.Toml.Value

set_option autoImplicit false

namespace LineCensus
namespace Toml

structure Document where
  table : Table := []
  /-- The path of the section. -/
  header : Key := []
  /-- Paths that no header or dotted key may open again. -/
  opened : List Key := []
  /-- Paths that are opened from the next header on. -/
  opening : List Key := []
  /-- Paths that nothing may be added to. -/
  closed : List Key := []

namespace Document

/-- The heads of a key that are shorter than the key, without the empty one. -/
def properHeads (key : Key) : List Key :=
  (List.range key.length).drop 1 |>.map key.take

/-- Set a key of the section. -/
def setKey (doc : Document) (key : Key) (value : Value) : Except Flaw Document := do
  let heads := (properHeads key).map (doc.header ++ ·)
  if heads.any doc.opened.contains then throw .malformed
  let (parent, name) := splitKey key
  let path := doc.header ++ parent
  if isClosed doc.closed path then throw .malformed
  let table ← changeAt true (insertNew name value) path doc.table
  return { doc with
    table
    opening := heads ++ doc.opening
    closed := if isContainer value then (doc.header ++ key) :: doc.closed else doc.closed }

/-- What the keys of a section opened is open for good when the next begins. -/
def endSection (doc : Document) : Document :=
  { doc with opened := doc.opening ++ doc.opened, opening := [] }

/-- Open a table. -/
def openTable (doc : Document) (path : Key) : Except Flaw Document := do
  if doc.opened.contains path || isClosed doc.closed path then throw .malformed
  return { doc with
    table := ← makePath path doc.table
    header := path
    opened := path :: doc.opened }

/-- Add a table to a list.  What was opened in the table before it is free
again. -/
def addTable (doc : Document) (path : Key) : Except Flaw Document := do
  if isClosed doc.closed path then throw .malformed
  let (parent, name) := splitKey path
  return { doc with
    table := ← changeAt true (appendTable name) parent doc.table
    header := path
    opened := path :: doc.opened.filter (!path.isPrefixOf ·)
    closed := doc.closed.filter (!path.isPrefixOf ·) }

/-- A pair of a key and a value. -/
def pair (doc : Document) : Reader Document := do
  let path ← key
  Reader.expect "="
  skipSpace
  let v ← readValue
  (doc.setKey path v : Except Flaw Document)

/-- A header. -/
def headerLine (doc : Document) : Reader Document := do
  let doc := doc.endSection
  let isList ← Reader.accept "[["
  unless isList do Reader.expect "["
  skipSpace
  let path ← key
  let doc ← ((if isList then doc.addTable path else doc.openTable path) : Except Flaw Document)
  Reader.expect (if isList then "]]" else "]")
  return doc

/-- The statement at the head of a line, if there is one. -/
def statement (doc : Document) : Reader Document := do
  match ← Reader.peek? with
  | some c =>
      if isKeyStart c then pair doc
      else if c = '[' then headerLine doc
      else return doc
  | none => return doc

/-- The lines that are left.  Each takes at least the line break at its end. -/
def lines (doc : Document) : Nat → Reader Document
  | 0 => Reader.fail
  | fuel + 1 => do
      skipSpace
      let doc ← statement doc
      skipSpace
      skipComment
      match ← Reader.peek? with
      | none => return doc
      | some c =>
          if c = '\n' then
            Reader.drop 1
            lines doc fuel
          else Reader.fail

end Document

/-- Line breaks of two characters written as one. -/
def joinBreaks (done : Text) : Text → Text
  | [] => done.reverse
  | '\r' :: '\n' :: rest => joinBreaks ('\n' :: done) rest
  | c :: rest => joinBreaks (c :: done) rest

/-- The table of a document. -/
def read (text : Text) : Except Flaw Table := do
  let source := joinBreaks [] text
  let (doc, _) ← (Document.lines {} (source.length + 1)).run source
  return doc.table

end Toml
end LineCensus
