/-
# Toml.Nest -- tables inside tables

A path of keys leads from a table into the tables below it, making those that
are missing.  Where it meets a list it goes on in the last item, if that is
allowed; where it meets anything else it cannot go on.
-/
import LineCensus.Toml.Number

set_option autoImplicit false

namespace LineCensus
namespace Toml

/-- Change the table that a path leads to. -/
def changeAt (throughLists : Bool) (change : Table → Except Flaw Table) :
    Key → Table → Except Flaw Table
  | [], table => change table
  | key :: rest, table => do
      let inside (inner : Table) : Except Flaw Table := changeAt throughLists change rest inner
      match table.get? key with
      | none => return table.set key (.table (← inside []))
      | some (.table inner) => return table.set key (.table (← inside inner))
      | some (.list items) =>
          match throughLists, items.getLast? with
          | true, some (.table inner) =>
              return table.set key (.list (items.dropLast ++ [.table (← inside inner)]))
          | _, _ => throw .malformed
      | some _ => throw .malformed

/-- Make the tables along a path. -/
def makePath (path : Key) (table : Table) : Except Flaw Table :=
  changeAt true .ok path table

/-- Set a key that must be new. -/
def insertNew (key : String) (value : Value) (table : Table) : Except Flaw Table :=
  match table.get? key with
  | some _ => .error .malformed
  | none => .ok (table.set key value)

/-- Add an empty table to the list of a key, or begin one. -/
def appendTable (key : String) (table : Table) : Except Flaw Table :=
  match table.get? key with
  | none => .ok (table.set key (.list [.table []]))
  | some (.list items) => .ok (table.set key (.list (items ++ [.table []])))
  | some _ => .error .malformed

/-- A key as the path before its last part, and that part. -/
def splitKey (key : Key) : Key × String :=
  (key.dropLast, key.getLast?.getD "")

end Toml
end LineCensus
