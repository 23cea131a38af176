/-
# Text.RangeTable -- sets of characters given by ranges of code points

The character standard states its properties as ranges.  A `RangeTable` lists
them in increasing order and `contains` finds a code point by halving, so that a
character costs a dozen comparisons however long the table is.
-/

set_option autoImplicit false

namespace LineCensus

/-- Disjoint ranges of code points in increasing order, both ends included. -/
structure RangeTable where
  ranges : Array (Nat × Nat)

namespace RangeTable

/-- Look for `point` among the ranges at positions `low ≤ i < high`.  Each round
halves the window, so `rounds` need not exceed the length of `high - low` in
binary. -/
def search (ranges : Array (Nat × Nat)) (point : Nat) : Nat → Nat → Nat → Bool
  | 0, _, _ => false
  | rounds + 1, low, high =>
      if low < high then
        let middle := (low + high) / 2
        match ranges[middle]? with
        | none => false
        | some (first, last) =>
            if point < first then search ranges point rounds low middle
            else if last < point then search ranges point rounds (middle + 1) high
            else true
      else false

def contains (table : RangeTable) (c : Char) : Bool :=
  search table.ranges c.toNat (Nat.log2 table.ranges.size + 1) 0 table.ranges.size

end RangeTable

end LineCensus
