/-
# Number.Decimal -- doubles and decimal places

`roundPlaces` rounds the exact value of a double to a number of decimal places,
a half to the even neighbour, and then to the closest double.  Places may be
negative: tens, hundreds and so on.  `ofDecimal` is the double closest to a
decimal number.
-/
import LineCensus.Number.Binary64

set_option autoImplicit false

namespace LineCensus

/-- The whole number closest to a quotient, of two equally close the even one. -/
def roundQuotient (numerator denominator : Nat) : Nat :=
  let quotient := numerator / denominator
  let twice := 2 * (numerator % denominator)
  if twice < denominator then quotient
  else if denominator < twice then quotient + 1
  else if quotient % 2 = 0 then quotient
  else quotient + 1

namespace Binary64

/-- No double has a digit that counts beyond this place. -/
def lastPlace : Int := 323

/-- No double reaches half of this power of ten. -/
def firstPlace : Int := -308

/-- Round to `places` decimal places; nothing if the rounded number is too large
for a double.  What is not finite stays as it is, and the sign is kept even on
zero. -/
def roundPlaces (places : Int) : Binary64 → Option Binary64
  | .nan => some .nan
  | .signed negative rank =>
      if infiniteRank ≤ rank ∨ lastPlace < places then some (.signed negative rank)
      else if places < firstPlace then some (.signed negative 0)
      else
        let power := tenTo places.natAbs
        let rounded :=
          if 0 ≤ places then
            ofUnits negative (roundQuotient (units rank * power) unitsPerOne * unitsPerOne) power
          else
            ofUnits negative
              (roundQuotient (units rank) (unitsPerOne * power) * power * unitsPerOne) 1
        if rounded.isFinite then some rounded else none

def signedWhole (negative : Bool) (n : Nat) : Int :=
  if negative then -(n : Int) else n

/-- The whole number closest to a finite number, a half to the even neighbour. -/
def roundWhole? : Binary64 → Option Int
  | .nan => none
  | .signed negative rank =>
      if infiniteRank ≤ rank then none
      else some (signedWhole negative (roundQuotient (units rank) unitsPerOne))

/-- A finite number without its fraction. -/
def truncate? : Binary64 → Option Int
  | .nan => none
  | .signed negative rank =>
      if infiniteRank ≤ rank then none
      else some (signedWhole negative (units rank / unitsPerOne))

/-- How many decimal digits `n` has; none for zero. -/
def digitCount (n : Nat) : Nat :=
  if n = 0 then 0 else (Nat.toDigits 10 n).length

/-- The double closest to `digits · 10 ^ power`.  Numbers that are certainly
beyond the largest or below the smallest double are settled by their length. -/
def ofDecimal (negative : Bool) (digits : Nat) (power : Int) : Binary64 :=
  let magnitude := digitCount digits + power
  if digits = 0 ∨ magnitude < -330 then .signed negative 0
  else if 310 < magnitude then .signed negative infiniteRank
  else if 0 ≤ power then ofUnits negative (digits * tenTo power.natAbs * unitsPerOne) 1
  else ofUnits negative (digits * unitsPerOne) (tenTo power.natAbs)

/-! ## Reading -/

/-- The value of a run of ASCII digits. -/
def digitsValue (digits : List Char) : Nat :=
  digits.foldl (fun value c => 10 * value + (c.toNat - 48)) 0

/-- Whether a text begins with a minus, and what follows its sign. -/
def splitSign : List Char → Bool × List Char
  | '-' :: rest => (true, rest)
  | '+' :: rest => (false, rest)
  | rest => (false, rest)

/-- The digits behind a point, if there is one, and what follows them. -/
def splitPlaces : List Char → List Char × List Char
  | '.' :: rest => (rest.takeWhile Char.isDigit, rest.dropWhile Char.isDigit)
  | rest => ([], rest)

/-- The exponent behind the digits: a letter, a sign, and digits.  If there is nothing, it is
zero. -/
def exponentOf? : List Char → Option Int
  | [] => some 0
  | e :: rest =>
      if e = 'e' ∨ e = 'E' then
        let (down, digits) := splitSign rest
        if digits.isEmpty || !digits.all Char.isDigit then none
        else some (if down then -(digitsValue digits : Int) else digitsValue digits)
      else none

/-- Read `digits [. digits] [e [sign] digits]` as a whole number times a power of ten. -/
def decimalOf? (text : List Char) : Option (Nat × Int) :=
  let whole := text.takeWhile Char.isDigit
  let (places, rest) := splitPlaces (text.dropWhile Char.isDigit)
  if whole.isEmpty && places.isEmpty then none
  else (exponentOf? rest).map fun exponent =>
    (digitsValue (whole ++ places), exponent - places.length)

/-- Read a decimal with or without a sign, `nan`, `inf` or `-inf`. -/
def ofText? (text : List Char) : Option Binary64 :=
  let (negative, body) := splitSign text
  if body = ['n', 'a', 'n'] then some .nan
  else if body = ['i', 'n', 'f'] then some (.signed negative infiniteRank)
  else (decimalOf? body).map fun decimal => ofDecimal negative decimal.1 decimal.2

end Binary64
end LineCensus
