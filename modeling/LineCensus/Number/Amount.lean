/-
# Number.Amount -- numbers as they come

A number that is counted is whole, one that is computed is a double, and one that
is given can be either.  The text of an amount tells the two apart.
-/
import LineCensus.Number.Shortest

set_option autoImplicit false

namespace LineCensus

/-- A number, whole or in double precision. -/
inductive Amount where
  | whole (n : Int)
  | real (x : Binary64)
  deriving DecidableEq

namespace Amount

instance : Coe Int Amount := ⟨.whole⟩
instance : Coe Binary64 Amount := ⟨.real⟩

/-- Zero in double precision. -/
def zero : Amount := .real Binary64.zero

def isZero : Amount → Bool
  | .whole n => n == 0
  | .real x => x.isZero

/-- An amount against a whole number; what is not a number has no place. -/
def compareInt (n : Int) : Amount → Option Ordering
  | .whole m => some (compare m n)
  | .real x => x.compareInt n

def atLeast (amount : Amount) (n : Int) : Bool :=
  match amount.compareInt n with
  | some .gt => true
  | some .eq => true
  | _ => false

def isBelow (amount : Amount) (n : Int) : Bool :=
  amount.compareInt n == some .lt

def text : Amount → String
  | .whole n => toString n
  | .real x => x.text

end Amount
end LineCensus
