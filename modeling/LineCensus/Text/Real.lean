/-
# Text.Real -- reading a number in double precision from a text

A decimal number with a sign and white space around it, a point and an exponent,
or the name of a number that no digits write, in letters of either case.  Digits
may be of any script, and an underscore may stand between two of them.
-/
import LineCensus.Text.DigitRun
import LineCensus.Text.Letter
import LineCensus.Text.Whole

set_option autoImplicit false

namespace LineCensus
namespace Real

/-- Without white space around. -/
def trimmed (text : Text) : Text :=
  ((text.dropWhile Whole.isNumberBlank).reverse.dropWhile Whole.isNumberBlank).reverse

/-- A decimal digit of any script as the ASCII digit. -/
def plainDigit (c : Char) : Char :=
  match digitValue? c with
  | some d => Nat.digitChar d
  | none => c

/-- Drop the underscores between two digits; none if one stands elsewhere. -/
def withoutUnderscores? (afterDigit : Bool) : Text → Option Text
  | [] => some []
  | '_' :: c :: rest =>
      if afterDigit && c.isDigit then (withoutUnderscores? true rest).map (c :: ·) else none
  | c :: rest =>
      if c = '_' then none else (withoutUnderscores? c.isDigit rest).map (c :: ·)

/-- The long name of the infinity. -/
def infinityName : Text := "infinity".toList

/-- The number of a name or of digits in small letters. -/
def ofSmall? (text : Text) : Option Binary64 :=
  let (sign, body) := text.span fun c => c == '-' || c == '+'
  if body = infinityName ∧ sign.length ≤ 1 then Binary64.ofText? (sign ++ body.take 3)
  else Binary64.ofText? text

/-- The number that a text writes. -/
def ofText (text : String) : Except Refusal Binary64 :=
  let plain := (lowercase (trimmed text.toList)).map plainDigit
  match (withoutUnderscores? false plain).bind ofSmall? with
  | some x => .ok x
  | none => .error (.notADecimal text)

end Real
end LineCensus
