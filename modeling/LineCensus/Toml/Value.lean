/-
# Toml.Value -- the values of keys

Texts, truth values, lists, tables in braces, moments and numbers.  In a table
in braces no key may be set twice, and no key may reach into a list or a table
that is already written out.

Values may be nested only so deep: `room` is what is left of the depth, of which
a list takes two parts and a table in braces three.

`fuel` bounds the steps of the reading.  Every second step takes a character, so
twice the length of the text is enough.
-/
import LineCensus.Toml.Nest
import LineCensus.Toml.Time

set_option autoImplicit false

namespace LineCensus
namespace Toml

/-- Whether a value has values in it. -/
def isContainer : Value → Bool
  | .list _ => true
  | .table _ => true
  | _ => false

/-- Whether a path leads to or into one of the paths that are closed. -/
def isClosed (closed : List Key) (path : Key) : Bool :=
  closed.any (·.isPrefixOf path)

/-- A moment or a number. -/
def plainValue : Reader Value := do
  match ← (moment? (← Reader.rest) : Except Flaw (Option (Moment × Text))) with
  | some (moment, rest) =>
      set rest
      return .moment moment
  | none => number

/-- The room of a document. -/
def wholeRoom : Nat := 980

/-- What is left of the room inside a list or a table that takes `parts` of it.  At
least two more are needed to read what stands in it. -/
def roomInside (parts room : Nat) : Reader Nat :=
  if parts + 2 ≤ room then return room - parts else throw Flaw.tooDeep

def listParts : Nat := 2
def tableParts : Nat := 3

mutual

def value (room : Nat) : Nat → Reader Value
  | 0 => Reader.fail
  | fuel + 1 => do
      match ← Reader.peek? with
      | none => Reader.fail
      | some c =>
          if c = '"' ∨ c = '\'' then return .text (← quotedText)
          else if ← Reader.accept "true" then return .flag true
          else if ← Reader.accept "false" then return .flag false
          else if ← Reader.accept "[" then
            let room ← roomInside listParts room
            skipAllFiller
            items room [] fuel
          else if ← Reader.accept "\x7b" then
            let room ← roomInside tableParts room
            skipSpace
            if ← Reader.accept "\x7d" then return .table []
            else pairs room [] [] fuel
          else plainValue

/-- The items of a list after `done`, last first. -/
def items (room : Nat) (done : List Value) : Nat → Reader Value
  | 0 => Reader.fail
  | fuel + 1 => do
      if ← Reader.accept "]" then return .list done.reverse
      else
        let item ← value room fuel
        skipAllFiller
        if ← Reader.accept "]" then return .list (item :: done).reverse
        else
          Reader.expect ","
          skipAllFiller
          items room (item :: done) fuel

/-- The pairs of a table in braces after those in `table`; `closed` are the paths
that no later key may enter. -/
def pairs (room : Nat) (table : Table) (closed : List Key) : Nat → Reader Value
  | 0 => Reader.fail
  | fuel + 1 => do
      let path ← key
      Reader.expect "="
      skipSpace
      let v ← value room fuel
      if isClosed closed path then Reader.fail
      let (parent, name) := splitKey path
      let table ← (changeAt false (insertNew name v) parent table : Except Flaw Table)
      skipSpace
      if ← Reader.accept "\x7d" then return .table table
      else
        Reader.expect ","
        skipSpace
        pairs room table (if isContainer v then path :: closed else closed) fuel

end

/-- A value at the head of the text that is left. -/
def readValue : Reader Value := do
  value wholeRoom (2 * (← Reader.rest).length + 2)

end Toml
end LineCensus
