/-
# Value.Basic -- values that a settings file can hold

Settings arrive from files, variables and callers and are checked only by the
comparisons that use them, so until then a setting is a `Value` of any kind.

`plain` writes a value as a message shows it; inside a list or a table every
value is shown in its unambiguous form, `shown`.  A value can be written only if
its whole numbers are not too long, `isWritable`, and it is not nested too deep,
`depth`.
-/
import LineCensus.Number.Amount
import LineCensus.Text.Quoted
import LineCensus.Value.Moment

set_option autoImplicit false

namespace LineCensus

inductive Value where
  | null
  | flag (b : Bool)
  | whole (n : Int)
  | real (x : Binary64)
  | text (s : String)
  | moment (m : Moment)
  | list (items : List Value)
  | table (entries : List (String × Value))

/-- The longest decimal text that a whole number is read from or written to. -/
def digitLimit : Nat := 4300

/-- Whether a whole number is short enough to be written. -/
def isShort (n : Int) : Bool :=
  n.natAbs < tenTo digitLimit

namespace Value

instance : Inhabited Value := ⟨.null⟩
instance : Coe String Value := ⟨.text⟩

/-! ## Written forms -/

mutual

/-- The unambiguous form: texts in quotes. -/
def shown : Value → String
  | .null => "None"
  | .flag b => if b then "True" else "False"
  | .whole n => toString n
  | .real x => x.text
  | .text s => quoted s
  | .moment m => m.call
  | .list items => "[" ++ ", ".intercalate (shownItems items) ++ "]"
  | .table entries => "\x7b" ++ ", ".intercalate (shownEntries entries) ++ "\x7d"

def shownItems : List Value → List String
  | [] => []
  | v :: rest => v.shown :: shownItems rest

def shownEntries : List (String × Value) → List String
  | [] => []
  | (key, v) :: rest => (quoted key ++ ": " ++ v.shown) :: shownEntries rest

end

/-- The plain form: a text or a moment stands as it is. -/
def plain : Value → String
  | .text s => s
  | .moment m => m.text
  | v => v.shown

mutual

/-- Whether every whole number in a value is short enough to be written. -/
def isWritable : Value → Bool
  | .whole n => isShort n
  | .list items => areWritable items
  | .table entries => areWritableEntries entries
  | _ => true

def areWritable : List Value → Bool
  | [] => true
  | v :: rest => v.isWritable && areWritable rest

def areWritableEntries : List (String × Value) → Bool
  | [] => true
  | (_, v) :: rest => v.isWritable && areWritableEntries rest

end

mutual

/-- How many lists and tables a value is nested. -/
def depth : Value → Nat
  | .list items => depthOfItems items + 1
  | .table entries => depthOfEntries entries + 1
  | _ => 0

def depthOfItems : List Value → Nat
  | [] => 0
  | v :: rest => max v.depth (depthOfItems rest)

def depthOfEntries : List (String × Value) → Nat
  | [] => 0
  | (_, v) :: rest => max v.depth (depthOfEntries rest)

end

/-- The deepest value that is written. -/
def deepestWritten : Nat := 985

/-! ## Questions that every value answers -/

/-- Whether a value counts as present: not null, false, zero or empty. -/
def isTruthy : Value → Bool
  | .null => false
  | .flag b => b
  | .whole n => n != 0
  | .real x => !x.isZero
  | .text s => !s.isEmpty
  | .moment _ => true
  | .list items => !items.isEmpty
  | .table entries => !entries.isEmpty

def isText : Value → Bool
  | .text _ => true
  | _ => false

/-- The number that a value is; a flag counts as one or zero. -/
def amount? : Value → Option Amount
  | .flag b => some (.whole (if b then 1 else 0))
  | .whole n => some (.whole n)
  | .real x => some (.real x)
  | _ => none

/-- A value against a whole number; only numbers compare.  The inner result is
none for what is not a number. -/
def compareWhole? (n : Int) (value : Value) : Option (Option Ordering) :=
  value.amount?.map (·.compareInt n)

end Value

/-- Keys with their values, in order of first setting; every key once. -/
abbrev Table := List (String × Value)

namespace Table

def get? (entries : Table) (key : String) : Option Value :=
  entries.lookup key

/-- Set a key: in its place if it is there, at the end otherwise. -/
def set (key : String) (value : Value) : Table → Table
  | [] => [(key, value)]
  | (k, v) :: rest => if k = key then (k, value) :: rest else (k, v) :: set key value rest

/-- Set every key of `upper`, in order. -/
def merge (lower upper : Table) : Table :=
  upper.foldl (fun table entry => table.set entry.1 entry.2) lower

end Table
end LineCensus
