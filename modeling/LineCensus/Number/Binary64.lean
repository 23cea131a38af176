/-
# Number.Binary64 -- double precision numbers, exactly

A number is its sign and its rank: the non-negative doubles in increasing order
are 0, 1, 2, …, so the rank of a double is the integer that its bits spell.
Every finite double is a whole multiple of 2⁻¹⁰⁷⁴, and `units` is that multiple.
All arithmetic is done on these whole numbers and rounded once, by
`nearestRank`: the closest double, of two equally close ones that of even rank.

Ranks from `infiniteRank` on stand for the infinity, and rounding produces none
above it.
-/
import LineCensus.Number.Basic

set_option autoImplicit false

namespace LineCensus

/-- A double precision number. -/
inductive Binary64 where
  | nan
  | signed (negative : Bool) (rank : Nat)
  deriving DecidableEq

namespace Binary64

def infiniteRank : Nat := 2047 * twoTo 52

/-- How many units of 2⁻¹⁰⁷⁴ make one. -/
def unitsPerOne : Nat := twoTo 1074

/-- The double of a rank, in units of 2⁻¹⁰⁷⁴. -/
def units (rank : Nat) : Nat :=
  let exponent := rank / twoTo 52
  let fraction := rank % twoTo 52
  if exponent = 0 then fraction else (twoTo 52 + fraction) * twoTo (exponent - 1)

/-- The rank of the largest double of at most `n` units. -/
def floorRank (n : Nat) : Nat :=
  if n < twoTo 53 then n
  else
    let shift := Nat.log2 n - 52
    shift * twoTo 52 + n / twoTo shift

/-- The rank of the double closest to `numerator / denominator` units, the even
one of two equally close. -/
def nearestRank (numerator denominator : Nat) : Nat :=
  let lower := floorRank (numerator / denominator)
  let twice := 2 * numerator
  let middle := (units lower + units (lower + 1)) * denominator
  if twice < middle then lower
  else if middle < twice then lower + 1
  else if lower % 2 = 0 then lower
  else lower + 1

/-- The double closest to a fraction of a unit, or the infinity. -/
def ofUnits (negative : Bool) (numerator denominator : Nat) : Binary64 :=
  .signed negative (min (nearestRank numerator denominator) infiniteRank)

def zero : Binary64 := .signed false 0
def infinity : Binary64 := .signed false infiniteRank

def isFinite : Binary64 → Bool
  | .nan => false
  | .signed _ rank => rank < infiniteRank

/-- A finite number in units of 2⁻¹⁰⁷⁴, with its sign. -/
def signedUnits : Binary64 → Int
  | .nan => 0
  | .signed negative rank => if negative then -(units rank : Int) else units rank

/-! ## Whole numbers -/

/-- A whole number as the closest double, and nothing if it is too large. -/
def ofInt? (n : Int) : Option Binary64 :=
  let x := ofUnits (n < 0) (n.natAbs * unitsPerOne) 1
  if x.isFinite then some x else none

/-- How many there are of something as the closest double, or the infinity. -/
def ofCount (count : Nat) : Binary64 :=
  ofUnits false (count * unitsPerOne) 1

/-- The quotient of two whole numbers as the closest double, and nothing if it
is too large.  The denominator is not zero. -/
def ratio? (numerator denominator : Int) : Option Binary64 :=
  let x := ofUnits ((numerator < 0) != (denominator < 0))
    (numerator.natAbs * unitsPerOne) denominator.natAbs
  if x.isFinite then some x else none

/-! ## Arithmetic -/

def ofSignedUnits (n : Int) : Binary64 :=
  ofUnits (n < 0) n.natAbs 1

/-- The sum.  Zeros of different sign, and opposite numbers, make the positive
zero. -/
def add : Binary64 → Binary64 → Binary64
  | .nan, _ => .nan
  | _, .nan => .nan
  | .signed s m, .signed t n =>
      if infiniteRank ≤ m then
        if infiniteRank ≤ n && s != t then .nan else .signed s infiniteRank
      else if infiniteRank ≤ n then .signed t infiniteRank
      else if m = 0 ∧ n = 0 then .signed (s && t) 0
      else ofSignedUnits (signedUnits (.signed s m) + signedUnits (.signed t n))

def mul : Binary64 → Binary64 → Binary64
  | .nan, _ => .nan
  | _, .nan => .nan
  | .signed s m, .signed t n =>
      if infiniteRank ≤ m then
        if n = 0 then .nan else .signed (s != t) infiniteRank
      else if infiniteRank ≤ n then
        if m = 0 then .nan else .signed (s != t) infiniteRank
      else ofUnits (s != t) (units m * units n) unitsPerOne

/-- The quotient.  A quotient by zero is not a number; callers exclude it. -/
def div : Binary64 → Binary64 → Binary64
  | .nan, _ => .nan
  | _, .nan => .nan
  | .signed s m, .signed t n =>
      if infiniteRank ≤ m then
        if infiniteRank ≤ n then .nan else .signed (s != t) infiniteRank
      else if infiniteRank ≤ n then .signed (s != t) 0
      else if n = 0 then .nan
      else ofUnits (s != t) (units m * unitsPerOne) (units n)

/-! ## Order -/

/-- A number against a fraction of one, `numerator / 2 ^ 1074`; infinities lie
outside all fractions, and what is not a number has no place. -/
def compareUnits (x : Binary64) (n : Int) : Option Ordering :=
  match x with
  | .nan => none
  | .signed negative rank =>
      if infiniteRank ≤ rank then some (if negative then .lt else .gt)
      else some (compare x.signedUnits n)

def compareInt (x : Binary64) (n : Int) : Option Ordering :=
  x.compareUnits (n * unitsPerOne)

/-- The order of two numbers, none if one is not a number.  Both zeros are
equal. -/
def order (x y : Binary64) : Option Ordering :=
  match x, y with
  | .nan, _ => none
  | _, .nan => none
  | .signed s m, .signed t n =>
      let place (negative : Bool) (rank : Nat) : Int :=
        if negative then -(min rank infiniteRank : Nat) else (min rank infiniteRank : Nat)
      some (compare (place s m) (place t n))

def isZero (x : Binary64) : Bool :=
  x.order zero == some .eq

/-- Whether `x` is at least the whole number `n`. -/
def atLeast (x : Binary64) (n : Int) : Bool :=
  match x.compareInt n with
  | some .gt => true
  | some .eq => true
  | _ => false

end Binary64
end LineCensus
