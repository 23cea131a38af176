/-
# Measure.Lengths -- the distribution of block lengths

Lengths are words of 64 bits; a length outside them is a fault.  Of an even
number of lengths, the median is the upper one of the two in the middle.
-/
import LineCensus.Measure.Ratio
import LineCensus.Number.Sum

set_option autoImplicit false

namespace LineCensus

/-- What is reported of a list of lengths; all zero if there are none. -/
structure LengthSummary where
  count : Int := 0
  average : Amount := .zero
  minimum : Int := 0
  maximum : Int := 0
  median : Int := 0
  deriving DecidableEq

namespace LengthSummary

/-- The numbers of a signed word of 64 bits. -/
def isWord64 (n : Int) : Bool :=
  -(twoTo 63 : Int) ≤ n && n < twoTo 63

/-- The sum in double precision. -/
def doubleSum (values : List Int) : Except Fault Binary64 := do
  return Binary64.sum (← values.mapM fun n => (Amount.whole n).toBinary64)

def ofLengths (lengths : List Int) : Except Fault LengthSummary := do
  if lengths.isEmpty then return {}
  if !lengths.all isWord64 then throw .tooLarge
  let sorted := lengths.mergeSort (· ≤ ·)
  let count := sorted.length
  let average ← rounded averagePlaces ((← doubleSum sorted).div (Binary64.ofCount count))
  return {
    count
    average
    minimum := sorted.head?.getD 0
    maximum := sorted.getLast?.getD 0
    median := sorted[count / 2]?.getD 0 }

end LengthSummary
end LineCensus
