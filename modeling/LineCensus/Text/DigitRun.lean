/-
# Text.DigitRun -- ASCII digits in a base, and runs of them

Hexadecimal digits have either case.  `digitRun` takes the longest head that is
digits with single underscores between them.
-/
import LineCensus.Text.Blank

set_option autoImplicit false

namespace LineCensus

def isHexDigit (c : Char) : Bool :=
  c.isDigit || ('a' ≤ c && c ≤ 'f') || ('A' ≤ c && c ≤ 'F')

def hexDigitValue (c : Char) : Nat :=
  if c.isDigit then c.toNat - 48
  else if 'a' ≤ c then c.toNat - 87
  else c.toNat - 55

def hexValue (digits : Text) : Nat :=
  digits.foldl (fun value c => value * 16 + hexDigitValue c) 0

/-- Digits with single underscores between them: how long the run is, and the
digits without the underscores. -/
def digitRun (isDigit : Char → Bool) : Text → Nat × Text
  | [] => (0, [])
  | c :: '_' :: d :: rest =>
      if isDigit c then
        if isDigit d then
          let (length, digits) := digitRun isDigit (d :: rest)
          (length + 2, c :: digits)
        else (1, [c])
      else (0, [])
  | c :: rest =>
      if isDigit c then
        let (length, digits) := digitRun isDigit rest
        (length + 1, c :: digits)
      else (0, [])

/-- The first `count` characters, if they are hexadecimal digits. -/
def hexHead? (count : Nat) (text : Text) : Option Nat :=
  let digits := text.take count
  if digits.length = count ∧ digits.all isHexDigit then some (hexValue digits) else none

end LineCensus
