/-
# Measure.Ratio -- quotients for a report

A quotient is taken in double precision and rounded to decimal places.  A
quotient by zero is zero, so that an empty corpus has averages.  A number beyond
the doubles is a fault.
-/
import LineCensus.Fault

set_option autoImplicit false

namespace LineCensus

def Amount.toBinary64 : Amount → Except Fault Binary64
  | .whole n =>
      match Binary64.ofInt? n with
      | some x => .ok x
      | none => .error .tooLarge
  | .real x => .ok x

/-- The places of an average. -/
def averagePlaces : Int := 2

/-- Round for a report. -/
def rounded (places : Int) (x : Binary64) : Except Fault Binary64 :=
  match x.roundPlaces places with
  | some y => .ok y
  | none => .error .tooLarge

/-- The quotient of two amounts, rounded; zero if the second is zero. -/
def ratio (numerator denominator : Amount) (places : Int) :
    Except Fault Binary64 := do
  if denominator.isZero then return Binary64.zero
  let above ← numerator.toBinary64
  let below ← denominator.toBinary64
  rounded places (above.div below)

def hundred : Binary64 := Binary64.ofUnits false (100 * Binary64.unitsPerOne) 1

/-- A part of a whole in hundredths, rounded; zero if the whole is zero. -/
def percentage (part whole : Amount) (places : Int) :
    Except Fault Binary64 := do
  if whole.isZero then return Binary64.zero
  let above ← part.toBinary64
  let below ← whole.toBinary64
  rounded places ((above.div below).mul hundred)

end LineCensus
