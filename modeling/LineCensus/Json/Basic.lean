/-
# Json.Basic -- values as JSON text

Arrays and objects are laid out over lines, two blanks deeper at each level; an
empty one is two brackets.  Texts are pure ASCII: quotes, backslashes and all
characters outside the printable ASCII range are escaped, those beyond sixteen
bits as two surrogates.  A number in double precision has its shortest text; what
is not finite is written by name.
-/
import LineCensus.Number.Shortest
import LineCensus.Text.Quoted
import LineCensus.Value.Basic

set_option autoImplicit false

namespace LineCensus

inductive Json where
  | null
  | flag (b : Bool)
  | whole (n : Int)
  | real (x : Binary64)
  | text (s : String)
  | array (items : List Json)
  | object (fields : List (String × Json))

namespace Json

/-! ## Texts -/

/-- One unit of sixteen bits as an escape. -/
def escapeUnit (unit : Nat) : List Char :=
  '\\' :: 'u' :: hexDigits 4 unit

def escapeChar (c : Char) : List Char :=
  if c = '"' then ['\\', '"']
  else if c = '\\' then ['\\', '\\']
  else if c = '\n' then ['\\', 'n']
  else if c = '\r' then ['\\', 'r']
  else if c = '\t' then ['\\', 't']
  else if c.toNat = 0x0C then ['\\', 'f']
  else if c.toNat = 0x08 then ['\\', 'b']
  else if 0x20 ≤ c.toNat ∧ c.toNat < 0x7F then [c]
  else if c.toNat < 0x10000 then escapeUnit c.toNat
  else
    let offset := c.toNat - 0x10000
    escapeUnit (0xD800 + offset / 0x400) ++ escapeUnit (0xDC00 + offset % 0x400)

def textToken (s : String) : List Char :=
  '"' :: s.toList.flatMap escapeChar ++ ['"']

/-! ## Numbers -/

/-- A number in double precision; what is not finite has a name. -/
def realToken : Binary64 → List Char
  | .nan => "NaN".toList
  | .signed negative rank =>
      if Binary64.infiniteRank ≤ rank then
        (if negative then "-Infinity" else "Infinity").toList
      else (Binary64.text (.signed negative rank)).toList

/-! ## Layout -/

/-- A line break and the blanks before the items of a level. -/
def breakAt (level : Nat) : List Char :=
  '\n' :: List.replicate (2 * level) ' '

mutual

/-- A value whose items stand at `level + 1`. -/
def render (level : Nat) : Json → List Char
  | .null => "null".toList
  | .flag b => (if b then "true" else "false").toList
  | .whole n => (toString n).toList
  | .real x => realToken x
  | .text s => textToken s
  | .array [] => ['[', ']']
  | .array (item :: rest) =>
      '[' :: breakAt (level + 1) ++ render (level + 1) item ++ renderItems (level + 1) rest
        ++ breakAt level ++ [']']
  | .object [] => ['\x7b', '\x7d']
  | .object ((key, value) :: rest) =>
      '\x7b' :: breakAt (level + 1) ++ textToken key ++ ':' :: ' ' :: render (level + 1) value
        ++ renderFields (level + 1) rest ++ breakAt level ++ ['\x7d']

/-- The items after the first. -/
def renderItems (level : Nat) : List Json → List Char
  | [] => []
  | item :: rest => ',' :: breakAt level ++ render level item ++ renderItems level rest

/-- The fields after the first. -/
def renderFields (level : Nat) : List (String × Json) → List Char
  | [] => []
  | (key, value) :: rest =>
      ',' :: breakAt level ++ textToken key ++ ':' :: ' ' :: render level value
        ++ renderFields level rest

end

/-! ## Numbers in a value -/

mutual

/-- The whole numbers, in order. -/
def wholes : Json → List Int
  | .whole n => [n]
  | .array items => wholesOfItems items
  | .object fields => wholesOfFields fields
  | _ => []

def wholesOfItems : List Json → List Int
  | [] => []
  | item :: rest => wholes item ++ wholesOfItems rest

def wholesOfFields : List (String × Json) → List Int
  | [] => []
  | (_, value) :: rest => wholes value ++ wholesOfFields rest

end

/-- Whether every whole number in a value is short enough to be written. -/
def isWritable (value : Json) : Bool :=
  value.wholes.all isShort

/-- The text of a value. -/
def toText (value : Json) : String :=
  String.ofList (render 0 value)

end Json
end LineCensus
