/-
# Text.Whole -- reading a whole number from a text

Decimal digits of any script, with a sign before them and white space around
them.  An underscore may stand between two digits.  A number with more digits
than `digitLimit` is refused by its length, before anything after it is looked
at.
-/
import LineCensus.Fault
import LineCensus.Text.Digit

set_option autoImplicit false

namespace LineCensus
namespace Whole

/-- White space around a number: the separator controls are none. -/
def isNumberBlank (c : Char) : Bool :=
  isBlank c && !(28 ≤ c.toNat && c.toNat < 32)

def isNumberChar (c : Char) : Bool :=
  isDecimal c || c == '_'

/-- Whether underscores stand only between digits; `afterDigit` says that a digit
stands before. -/
def wellSeparated (afterDigit : Bool) : Text → Bool
  | [] => afterDigit
  | c :: rest =>
      if c = '_' then afterDigit && wellSeparated false rest else wellSeparated true rest

def digitsOf (run : Text) : List Nat :=
  run.filterMap digitValue?

def value (digits : List Nat) : Nat :=
  digits.foldl (fun n d => 10 * n + d) 0

/-- The whole number that a text writes. -/
def ofText (text : String) : Except Refusal Int :=
  let body := text.toList.dropWhile isNumberBlank
  let (negative, unsigned) :=
    match body with
    | '-' :: rest => (true, rest)
    | '+' :: rest => (false, rest)
    | rest => (false, rest)
  let run := unsigned.takeWhile isNumberChar
  let digits := digitsOf run
  if !wellSeparated false run then .error (.notANumber text)
  else if digitLimit < digits.length then .error (.tooManyDigits digits.length)
  else if ((unsigned.dropWhile isNumberChar).dropWhile isNumberBlank).isEmpty then
    let n : Int := value digits
    .ok (if negative then -n else n)
  else .error (.notANumber text)

end Whole
end LineCensus
