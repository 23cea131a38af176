/-
# Measure.Quotient -- quotients of values of any kind

What is divided may be anything that can be read as a number in double precision,
a text included; what it is divided by must be a number.  A quotient is rounded to
decimal places or, when no places are asked for, to a whole number.
-/
import LineCensus.Measure.Lengths
import LineCensus.Text.Real

set_option autoImplicit false

namespace LineCensus

/-- How far a number is rounded. -/
inductive Rounding where
  | toPlaces (places : Int)
  | toWhole

namespace Rounding

/-- Places are a whole number or a flag, and null asks for none. -/
def ofValue : Value → Except Fault Rounding
  | .null => .ok .toWhole
  | .flag b => .ok (.toPlaces (if b then 1 else 0))
  | .whole places => .ok (.toPlaces places)
  | _ => .error .wrongKind

/-- Round to the closest whole number. -/
def toWholeNumber (x : Binary64) : Except Fault Int :=
  match x with
  | .nan => .error (.refused .noWholeNumber)
  | _ =>
      match x.roundWhole? with
      | some n => .ok n
      | none => .error .tooLarge

def round (x : Binary64) : Rounding → Except Fault Amount
  | .toPlaces places => return .real (← rounded places x)
  | .toWhole => return .whole (← toWholeNumber x)

end Rounding

namespace Value

/-- A value as an amount. -/
def toAmount (value : Value) : Except Fault Amount :=
  match value.amount? with
  | some amount => .ok amount
  | none => .error .wrongKind

/-- A value in double precision; a text is read. -/
def toReal : Value → Except Fault Binary64
  | .text s => (Real.ofText s).mapError .refused
  | value => do (← value.toAmount).toBinary64

/-- Whether a value is the number zero. -/
def isZero (value : Value) : Bool :=
  value.amount?.any Amount.isZero

/-- The quotient of two values times a factor, rounded; zero if the second is
zero. -/
def scaledQuotient (scale : Binary64 → Binary64) (numerator denominator places : Value) :
    Except Fault Amount := do
  if denominator.isZero then return .zero
  let above ← numerator.toReal
  let below ← (← denominator.toAmount).toBinary64
  (← Rounding.ofValue places).round (scale (above.div below))

/-- The quotient of two values, rounded. -/
def quotient (numerator denominator places : Value) : Except Fault Amount :=
  scaledQuotient id numerator denominator places

/-- A part of a whole in hundredths, rounded. -/
def share (part whole places : Value) : Except Fault Amount :=
  scaledQuotient (·.mul hundred) part whole places

end Value

/-! ## Lengths given as values -/

/-- A length: a number without its fraction, or a text that writes a whole
number. -/
def lengthOf : Value → Except Fault Int
  | .text s => (Whole.ofText s).mapError .refused
  | .real x =>
      match x with
      | .nan => .error (.refused .noWholeNumber)
      | _ =>
          match x.truncate? with
          | some n => .ok n
          | none => .error .tooLarge
  | .flag b => .ok (if b then 1 else 0)
  | .whole n => .ok n
  | _ => .error .wrongKind

/-- A length that is a word of 64 bits. -/
def wordOf (value : Value) : Except Fault Int := do
  let n ← lengthOf value
  if LengthSummary.isWord64 n then return n else throw .tooLarge

/-- The lengths that a value holds: the items of a list.  An empty text and an
empty table hold none. -/
def LengthSummary.ofValue : Value → Except Fault LengthSummary
  | .list items => do LengthSummary.ofLengths (← items.mapM wordOf)
  | .text s => if s.isEmpty then .ok {} else do
      let _ ← (Whole.ofText s).mapError Fault.refused
      throw .wrongKind
  | .table entries => if entries.isEmpty then .ok {} else .error .wrongKind
  | _ => .error .wrongKind

end LineCensus
