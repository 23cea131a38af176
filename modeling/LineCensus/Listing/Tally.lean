/-
# Listing.Tally -- counts by key

A tally has every key once, in the order in which the keys were first seen, with
the number of times each was seen.
-/

set_option autoImplicit false

namespace LineCensus

abbrev Tally := List (String × Int)

namespace Tally

/-- Count a key once more. -/
def add (key : String) : Tally → Tally
  | [] => [(key, 1)]
  | (k, n) :: rest => if k = key then (k, n + 1) :: rest else (k, n) :: add key rest

def ofKeys (keys : List String) : Tally :=
  keys.foldl (fun tally key => tally.add key) []

/-- Largest counts first; equal counts keep their order. -/
def byCount (tally : Tally) : Tally :=
  tally.mergeSort fun a b => b.2 ≤ a.2

/-- The first key with the largest count, `best` so far. -/
def topFrom (best : String × Int) : Tally → String
  | [] => best.1
  | entry :: rest => if best.2 < entry.2 then topFrom entry rest else topFrom best rest

/-- The key with the largest count, the first of several. -/
def top? : Tally → Option String
  | [] => none
  | entry :: rest => some (topFrom entry rest)

end Tally
end LineCensus
