/-
# Number.Shortest -- the shortest decimal text of a double

The text of a double has the fewest digits from which the same double is read
back, and of the decimals with that many digits it is the closest one.  For
each number of digits from one on, the two decimals around the double are tried
against the interval of numbers that round to it; its ends belong to it exactly
when the rank is even.

`text` writes positionally from 10⁻⁴ up to below 10¹⁶, always with a point, and
with a signed exponent of at least two digits elsewhere.
-/
import LineCensus.Number.Decimal

set_option autoImplicit false

namespace LineCensus
namespace Binary64

/-- The number of places that a double below one is moved to reach one. -/
def placesToOne (u : Nat) : Nat → Nat → Nat
  | 0, places => places
  | fuel + 1, places =>
      if unitsPerOne ≤ u * tenTo places then places else placesToOne u fuel (places + 1)

/-- The exponent `k` with `10 ^ (k - 1) ≤ x < 10 ^ k`, where `x` is `u` units
and not zero. -/
def decimalExponent (u : Nat) : Int :=
  if unitsPerOne ≤ u then digitCount (u / unitsPerOne) else 1 - placesToOne u 330 1

/-- Whether the double of a positive rank is closest to a number, where both are on a scale
of `factor` for each unit. -/
def isClosest (rank factor scaled : Nat) : Bool :=
  let bottom := (units (rank - 1) + units rank) * factor
  let top := (units rank + units (rank + 1)) * factor
  if rank % 2 = 0 then bottom ≤ 2 * scaled && 2 * scaled ≤ top
  else bottom < 2 * scaled && 2 * scaled < top

/-- A decimal with `count` digits that reads back as the double of `rank`, if
there is one: the closest, and of two equally close the even one.  `k` is the
decimal exponent of the double. -/
def decimal? (rank : Nat) (k : Int) (count : Nat) : Option Nat :=
  let factor := tenTo (count - k).toNat
  let step := unitsPerOne * tenTo (k - count).toNat
  let value := units rank * factor
  let lower := value / step
  let upper := lower + 1
  let below := value - lower * step
  let above := upper * step - value
  match isClosest rank factor (lower * step), isClosest rank factor (upper * step) with
  | true, true => some (if below < above ∨ (below = above ∧ lower % 2 = 0) then lower else upper)
  | true, false => some lower
  | false, true => some upper
  | false, false => none

/-- The first number of digits that will do; seventeen always do. -/
def searchDecimal (rank : Nat) (k : Int) : Nat → Nat → Nat × Nat
  | 0, count => (units rank, count)
  | fuel + 1, count =>
      match decimal? rank k count with
      | some digits => (digits, count)
      | none => searchDecimal rank k fuel (count + 1)

/-- The digits of the shortest decimal of a positive rank, without trailing
zeros, and its decimal exponent. -/
def shortest (rank : Nat) : List Char × Int :=
  let k := decimalExponent (units rank)
  let (digits, count) := searchDecimal rank k 17 1
  let written := Nat.toDigits 10 digits
  ((written.reverse.dropWhile (· = '0')).reverse, k + written.length - count)

def signText (negative : Bool) : String :=
  if negative then "-" else ""

/-- A decimal exponent with its sign and at least two digits. -/
def exponentText (e : Int) : List Char :=
  let digits := Nat.toDigits 10 e.natAbs
  (if e < 0 then '-' else '+') :: (if digits.length < 2 then '0' :: digits else digits)

/-- The digits `ds` of a decimal whose exponent is `k`. -/
def decimalText (ds : List Char) (k : Int) : List Char :=
  if -4 < k ∧ k ≤ 16 then
    if k ≤ 0 then '0' :: '.' :: (List.replicate k.natAbs '0' ++ ds)
    else if ds.length ≤ k then
      ds ++ List.replicate (k.natAbs - ds.length) '0' ++ ['.', '0']
    else ds.take k.natAbs ++ '.' :: ds.drop k.natAbs
  else
    let tail := ds.drop 1
    ds.take 1 ++ (if tail.isEmpty then [] else '.' :: tail) ++ 'e' :: exponentText (k - 1)

/-- The shortest text of a double. -/
def text : Binary64 → String
  | .nan => "nan"
  | .signed negative rank =>
      if infiniteRank ≤ rank then signText negative ++ "inf"
      else if rank = 0 then signText negative ++ "0.0"
      else
        let (ds, k) := shortest rank
        signText negative ++ String.ofList (decimalText ds k)

end Binary64
end LineCensus
