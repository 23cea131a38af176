/-
# Proofs.Digits -- the decimal digits of a whole number

The digits of a number are ASCII digits, begin with no zero unless the number is zero, and
have the number as their value.  Zeros behind them multiply by a power of ten, and a number
that ten does not divide has no zero at the end.
-/
import LineCensus.Number.Decimal
import Mathlib.Algebra.Ring.Nat
import Mathlib.Data.List.TakeWhile
import Mathlib.Data.Nat.Init

set_option autoImplicit false

namespace LineCensus
namespace Binary64

/-! ## The value of digits -/

theorem digitsValue_eq (digits : List Char) : digitsValue digits = Nat.ofDigitChars 10 digits 0 :=
  rfl

theorem digitsValue_toDigits (n : Nat) : digitsValue (Nat.toDigits 10 n) = n := by
  rw [digitsValue_eq, Nat.ofDigitChars_toDigits (by decide) (by decide)]

theorem digitsValue_append (digits more : List Char) :
    digitsValue (digits ++ more) = digitsValue digits * 10 ^ more.length + digitsValue more := by
  simp only [digitsValue_eq]
  rw [Nat.ofDigitChars_append, Nat.ofDigitChars_eq_ofDigitChars_zero, Nat.mul_comm]

theorem digitsValue_zeros (count : Nat) : digitsValue (List.replicate count '0') = 0 := by
  induction count with
  | zero => rfl
  | succ count ih =>
      rw [List.replicate_succ', digitsValue_append, ih, Nat.zero_mul, Nat.zero_add]
      rfl

/-! ## Digits of a number -/

theorem isDigit_toDigits {n : Nat} {c : Char} (member : c ∈ Nat.toDigits 10 n) :
    c.isDigit = true :=
  Nat.isDigit_of_mem_toDigits (by decide) (by decide) member

theorem digitChar_ne_zero {n : Nat} (digit : n < 10) (nonzero : n ≠ 0) : Nat.digitChar n ≠ '0' := by
  intro same
  have code := Nat.toNat_digitChar_of_lt_ten digit
  rw [same] at code
  exact nonzero (Nat.add_left_cancel code).symm

/-- The digits of a positive number begin with no zero. -/
theorem head_toDigits {n : Nat} (positive : 0 < n) :
    ∃ c rest, Nat.toDigits 10 n = c :: rest ∧ c ≠ '0' := by
  induction n using Nat.strongRecOn with
  | ind n ih =>
      rw [Nat.toDigits_eq_if (by decide)]
      split
      · exact ⟨_, [], rfl, digitChar_ne_zero ‹_› (Nat.ne_of_gt positive)⟩
      · obtain ⟨c, rest, digits, nonzero⟩ := ih (n / 10) (by omega) (by omega)
        exact ⟨c, rest ++ [Nat.digitChar (n % 10)], by rw [digits, List.cons_append], nonzero⟩

/-- The digits of a number that ten does not divide end in no zero. -/
theorem getLast_toDigits {n : Nat} (reduced : n % 10 ≠ 0) :
    (Nat.toDigits 10 n).getLast? ≠ some '0' := by
  have last : (Nat.toDigits 10 n).getLast? = some (Nat.digitChar (n % 10)) := by
    rw [Nat.toDigits_eq_if (by decide)]
    split
    · rw [List.getLast?_singleton, Nat.mod_eq_of_lt ‹_›]
    · rw [List.getLast?_concat]
  rw [last]
  exact fun same => digitChar_ne_zero (Nat.mod_lt n (by decide)) reduced (Option.some.inj same)

/-- Zeros behind the digits of a number. -/
theorem toDigits_mul_pow {n : Nat} (positive : 0 < n) (zeros : Nat) :
    Nat.toDigits 10 (n * 10 ^ zeros) = Nat.toDigits 10 n ++ List.replicate zeros '0' := by
  induction zeros with
  | zero => simp
  | succ zeros ih =>
      have scaled : 0 < n * 10 ^ zeros := Nat.mul_pos positive (Nat.pow_pos (by decide))
      rw [Nat.pow_succ, ← Nat.mul_assoc, Nat.mul_comm _ 10, ← Nat.add_zero (10 * _),
        ← Nat.toDigits_append_toDigits (by decide) scaled (by decide), ih, List.replicate_succ',
        List.append_assoc, Nat.toDigits_zero]

/-- Zeros at the end are dropped, and what stands before them is kept. -/
theorem dropZeros_append {digits : List Char} (reduced : digits.getLast? ≠ some '0')
    (zeros : Nat) :
    ((digits ++ List.replicate zeros '0').reverse.dropWhile (· = '0')).reverse = digits := by
  have isZero : ∀ c ∈ List.replicate zeros '0', decide (c = '0') = true := by
    intro c member
    rw [List.eq_of_mem_replicate member]
    rfl
  rw [List.reverse_append, List.reverse_replicate, List.dropWhile_append_of_pos isZero]
  cases backwards : digits.reverse with
  | nil => rw [List.dropWhile_nil, ← backwards, List.reverse_reverse]
  | cons c rest =>
      have last : digits.getLast? = some c := by
        rw [← List.head?_reverse, backwards, List.head?_cons]
      rw [last] at reduced
      rw [List.dropWhile_cons_of_neg (by simpa using fun same => reduced (congrArg some same)),
        ← backwards, List.reverse_reverse]

/-- Every positive number is one that ten does not divide, times a power of ten. -/
theorem exists_reduced {n : Nat} (positive : 0 < n) :
    ∃ m zeros, m % 10 ≠ 0 ∧ n = m * 10 ^ zeros := by
  induction n using Nat.strongRecOn with
  | ind n ih =>
      by_cases reduced : n % 10 = 0
      · obtain ⟨m, zeros, mReduced, same⟩ := ih (n / 10) (by omega) (by omega)
        refine ⟨m, zeros + 1, mReduced, ?_⟩
        rw [Nat.pow_succ, ← Nat.mul_assoc, ← same]
        omega
      · exact ⟨n, 0, reduced, (Nat.mul_one n).symm⟩

/-- A power of ten is one, times a power of ten, and nothing else that ten does not divide. -/
theorem eq_one_of_pow {n zeros count : Nat} (reduced : n % 10 ≠ 0)
    (power : n * 10 ^ zeros = 10 ^ count) : n = 1 := by
  have scale : 0 < 10 ^ zeros := Nat.pow_pos (by decide)
  rcases Nat.lt_or_ge zeros count with more | enough
  · obtain ⟨less, rfl⟩ : ∃ less, count = less + 1 + zeros := ⟨count - zeros - 1, by omega⟩
    rw [Nat.pow_add] at power
    have divided := Nat.eq_of_mul_eq_mul_right scale power
    rw [divided, Nat.pow_succ, Nat.mul_mod_left] at reduced
    exact absurd rfl reduced
  · have least : n * 10 ^ zeros ≤ 1 * 10 ^ zeros := by
      rw [power, Nat.one_mul]
      exact Nat.pow_le_pow_right (by decide) enough
    have := Nat.le_of_mul_le_mul_right least scale
    omega

end Binary64
end LineCensus
