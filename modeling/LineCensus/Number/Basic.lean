/-
# Number.Basic -- powers and sums of whole numbers
-/

set_option autoImplicit false

namespace LineCensus

def twoTo (exponent : Nat) : Nat :=
  Nat.pow 2 exponent

def tenTo (exponent : Nat) : Nat :=
  Nat.pow 10 exponent

def sumNat (numbers : List Nat) : Nat :=
  numbers.foldr (· + ·) 0

def sumInt (numbers : List Int) : Int :=
  numbers.foldr (· + ·) 0

@[simp] theorem sumNat_nil : sumNat [] = 0 := rfl

@[simp] theorem sumNat_cons (n : Nat) (rest : List Nat) :
    sumNat (n :: rest) = n + sumNat rest := rfl

@[simp] theorem sumInt_nil : sumInt [] = 0 := rfl

@[simp] theorem sumInt_cons (n : Int) (rest : List Int) :
    sumInt (n :: rest) = n + sumInt rest := rfl

theorem sumNat_append (first second : List Nat) :
    sumNat (first ++ second) = sumNat first + sumNat second := by
  induction first with
  | nil => simp
  | cons n rest ih =>
      rw [List.cons_append, sumNat_cons, sumNat_cons, ih, Nat.add_assoc]

/-- The order of the numbers does not count. -/
theorem sumInt_perm {first second : List Int} (same : first.Perm second) :
    sumInt first = sumInt second := by
  induction same with
  | nil => rfl
  | cons n _ ih => rw [sumInt_cons, sumInt_cons, ih]
  | swap n m rest =>
      simp only [sumInt_cons]
      omega
  | trans _ _ ih ih' => exact ih.trans ih'

end LineCensus
