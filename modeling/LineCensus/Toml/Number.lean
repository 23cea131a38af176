/-
# Toml.Number -- numbers

Whole numbers in four bases, and numbers with a fraction or an exponent in
double precision.  An underscore may stand between two digits.  A reader takes
the longest head that is a number; what follows is for the caller.
-/
import LineCensus.Fault
import LineCensus.Toml.Quoted

set_option autoImplicit false

namespace LineCensus
namespace Toml

/-- A run of digits in a base that a letter after zero announces. -/
def basedNumber? (text : Text) : Option (Nat × Nat) :=
  match text with
  | '0' :: letter :: rest =>
      let base? :=
        if letter = 'x' then some (16, isHexDigit)
        else if letter = 'b' then some (2, fun c => c == '0' || c == '1')
        else if letter = 'o' then some (8, fun c => '0' ≤ c && c ≤ '7')
        else none
      match base? with
      | none => none
      | some (base, isDigit) =>
          let (length, digits) := digitRun isDigit rest
          if length = 0 then none
          else some (length + 2, digits.foldl (fun value c => value * base + hexDigitValue c) 0)
  | _ => none

/-- A decimal number as it is written. -/
structure Decimal where
  length : Nat
  negative : Bool
  whole : Text
  places : Text
  exponent : Option (Bool × Text)

/-- The sign at the head of a text: how long it is, and whether it is minus. -/
def sign (text : Text) : Nat × Bool :=
  match text with
  | '-' :: _ => (1, true)
  | '+' :: _ => (1, false)
  | _ => (0, false)

/-- The whole part of a decimal number: zero, or digits that do not begin with
zero. -/
def wholePart (text : Text) : Nat × Text :=
  match text with
  | '0' :: _ => (1, ['0'])
  | _ => digitRun Char.isDigit text

def fractionPart (text : Text) : Nat × Text :=
  match text with
  | '.' :: rest =>
      let (length, digits) := digitRun Char.isDigit rest
      if length = 0 then (0, []) else (length + 1, digits)
  | _ => (0, [])

def exponentPart (text : Text) : Nat × Option (Bool × Text) :=
  match text with
  | e :: rest =>
      if e = 'e' ∨ e = 'E' then
        let (signLength, negative) := sign rest
        let (length, digits) := digitRun Char.isDigit (rest.drop signLength)
        if length = 0 then (0, none) else (length + signLength + 1, some (negative, digits))
      else (0, none)
  | [] => (0, none)

def decimal? (text : Text) : Option Decimal :=
  let (signLength, negative) := sign text
  let (wholeLength, whole) := wholePart (text.drop signLength)
  if wholeLength = 0 then none
  else
    let afterWhole := text.drop (signLength + wholeLength)
    let (placesLength, places) := fractionPart afterWhole
    let (exponentLength, exponent) := exponentPart (afterWhole.drop placesLength)
    some {
      length := signLength + wholeLength + placesLength + exponentLength
      negative
      whole
      places
      exponent }

/-- The value of a decimal number: whole if it has neither fraction nor
exponent. -/
def Decimal.value (d : Decimal) : Except Flaw Value :=
  if d.places.isEmpty ∧ d.exponent.isNone then
    if digitLimit < d.whole.length then .error (.tooManyDigits d.whole.length)
    else
      let n : Int := Binary64.digitsValue d.whole
      .ok (.whole (if d.negative then -n else n))
  else
    let power : Int :=
      match d.exponent with
      | some (negative, digits) =>
          if negative then -(Binary64.digitsValue digits : Int) else Binary64.digitsValue digits
      | none => 0
    .ok (.real (Binary64.ofDecimal d.negative (Binary64.digitsValue (d.whole ++ d.places))
      (power - d.places.length)))

/-- The names of the numbers that no digits write. -/
def specialNumbers : List (String × Binary64) :=
  [("inf", .signed false Binary64.infiniteRank), ("nan", .nan),
    ("+inf", .signed false Binary64.infiniteRank), ("-inf", .signed true Binary64.infiniteRank),
    ("+nan", .nan), ("-nan", .nan)]

/-- A number. -/
def number : Reader Value := do
  let text ← Reader.rest
  match basedNumber? text with
  | some (length, n) =>
      Reader.drop length
      return .whole n
  | none =>
      match decimal? text with
      | some d =>
          Reader.drop d.length
          (d.value : Except Flaw Value)
      | none =>
          match specialNumbers.find? fun entry => entry.1.toList.isPrefixOf text with
          | some (name, x) =>
              Reader.drop name.length
              return .real x
          | none => Reader.fail

end Toml
end LineCensus
