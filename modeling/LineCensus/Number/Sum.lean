/-
# Number.Sum -- the sum of doubles

Rounding makes a sum depend on the order in which it is taken.  Here a long list is
cut in two and the halves are summed apart; a short one is summed in eight lanes, each
taking every eighth number, and the lanes are then added in pairs.  What is left over
when the lanes are full is added at the end.  A list that does not fit the buffer is
summed one buffer after the other.
-/
import LineCensus.Number.Binary64

set_option autoImplicit false

namespace LineCensus
namespace Binary64

/-- How many numbers are summed side by side. -/
def laneCount : Nat := 8

/-- The longest list that is not cut in two. -/
def blockLength : Nat := 128

/-- How many numbers are buffered. -/
def bufferLength : Nat := 8192

/-- Cut a list in groups of `size`, of which the last can be shorter. -/
def groups (size : Nat) (values : List Binary64) : List (List Binary64) :=
  (List.range ((values.length + size - 1) / size)).map fun i => (values.drop (size * i)).take size

/-- The sum of each lane. -/
def laneSums : List (List Binary64) → List Binary64
  | [] => []
  | first :: others => others.foldl (List.zipWith add) first

/-- The sum of all lanes; zero if there are none. -/
def addLanes : List Binary64 → Binary64
  | [a, b, c, d, e, f, g, h] => ((a.add b).add (c.add d)).add ((e.add f).add (g.add h))
  | _ => zero

/-- The sum of a short list. -/
def blockSum (values : List Binary64) : Binary64 :=
  let whole := values.length / laneCount * laneCount
  (values.drop whole).foldl add (addLanes (laneSums (groups laneCount (values.take whole))))

/-- The sum of a list, which is cut in two as long as it is no short one and at most
`cuts` times.  The first part is one of whole lanes. -/
def halvesSum : Nat → List Binary64 → Binary64
  | 0, values => blockSum values
  | cuts + 1, values =>
      if values.length ≤ blockLength then blockSum values
      else
        let half := values.length / 2 / laneCount * laneCount
        (halvesSum cuts (values.take half)).add (halvesSum cuts (values.drop half))

/-- The sum of a list. -/
def sum (values : List Binary64) : Binary64 :=
  (groups bufferLength values).foldl
    (fun total group => total.add (halvesSum group.length group)) zero

end Binary64
end LineCensus
