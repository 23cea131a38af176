/-
# Proofs.Rounding -- what stays within the doubles

A fraction of units has a finite double unless it is beyond all of them, and rounding to
decimal places never makes a finite number too large.  A double that is large has no
decimal places to lose: from 2⁵³ on every double is whole, so it is its own rounding.

* `Binary64.isFinite_ofUnits`: a bound below which every fraction has a finite double.
* `Binary64.nearestRank_units`: the double closest to a double is that double.
* `Binary64.roundPlaces_isSome`: no rounding to decimal places is too large.
* `exists_ratio_iff`, `exists_percentage_iff`: which whole numbers have a quotient.
-/
import LineCensus.Measure.Lengths
import LineCensus.Proofs.Step
import Mathlib.Data.Nat.Log

set_option autoImplicit false

namespace LineCensus
namespace Binary64

/-! ## Ranks -/

theorem twoTo_add (m n : Nat) : twoTo (m + n) = twoTo m * twoTo n :=
  Nat.pow_add 2 m n

theorem twoTo_pos (n : Nat) : 0 < twoTo n :=
  Nat.two_pow_pos n

theorem twoTo_le {m n : Nat} (least : m ≤ n) : twoTo m ≤ twoTo n :=
  Nat.pow_le_pow_right (by decide) least

theorem twoTo_dvd {m n : Nat} (least : m ≤ n) : twoTo m ∣ twoTo n :=
  Nat.pow_dvd_pow 2 least

theorem twoTo_53 : twoTo 53 = 2 * twoTo 52 :=
  Nat.pow_succ'

/-- The rank of what is below a power of two. -/
theorem floorRank_lt {n k : Nat} (bound : n < twoTo (53 + k)) :
    floorRank n < (k + 2) * twoTo 52 := by
  have double := twoTo_53
  have expand : (k + 2) * twoTo 52 = k * twoTo 52 + twoTo 53 := by rw [Nat.add_mul, double]
  rw [expand]
  unfold floorRank
  split
  · exact Nat.lt_of_lt_of_le ‹_› (Nat.le_add_left _ _)
  rename_i large
  have nonzero : n ≠ 0 := fun zero => large (zero ▸ twoTo_pos 53)
  have log_lt : Nat.log2 n < 53 + k := (Nat.log2_lt nonzero).2 bound
  have log_ge : 53 ≤ Nat.log2 n := (Nat.le_log2 nonzero).2 (Nat.le_of_not_lt large)
  have below : n < twoTo 53 * twoTo (Nat.log2 n - 52) := by
    rw [← twoTo_add, show 53 + (Nat.log2 n - 52) = Nat.log2 n + 1 by omega]
    exact Nat.lt_log2_self
  have quotient : n / twoTo (Nat.log2 n - 52) < twoTo 53 :=
    Nat.div_lt_of_lt_mul (by rwa [Nat.mul_comm])
  have shift : (Nat.log2 n - 52) * twoTo 52 ≤ k * twoTo 52 := Nat.mul_le_mul_right _ (by omega)
  exact Nat.add_lt_add_of_le_of_lt shift quotient

theorem nearestRank_le (numerator denominator : Nat) :
    nearestRank numerator denominator ≤ floorRank (numerator / denominator) + 1 := by
  simp only [nearestRank]
  repeat' split
  all_goals omega

/-- What is below 2¹⁰²³ has a finite double. -/
theorem isFinite_ofUnits (negative : Bool) {numerator denominator : Nat}
    (bound : numerator / denominator < twoTo 2097) :
    (ofUnits negative numerator denominator).isFinite = true := by
  have rank : floorRank (numerator / denominator) < 2046 * twoTo 52 := floorRank_lt bound
  have nearest := nearestRank_le numerator denominator
  have last : 2046 * twoTo 52 < infiniteRank :=
    Nat.mul_lt_mul_of_pos_right (by decide) (twoTo_pos 52)
  simp only [ofUnits, isFinite, decide_eq_true_eq]
  omega

/-! ## Doubles are their own rounding -/

/-- The units of a normal double, by its exponent and its fraction. -/
theorem units_normal (exponent : Nat) {fraction : Nat} (small : fraction < twoTo 52) :
    units ((exponent + 1) * twoTo 52 + fraction) = (twoTo 52 + fraction) * twoTo exponent := by
  have quotient : ((exponent + 1) * twoTo 52 + fraction) / twoTo 52 = exponent + 1 := by
    rw [Nat.mul_comm, Nat.mul_add_div (twoTo_pos 52), Nat.div_eq_of_lt small, Nat.add_zero]
  have remainder : ((exponent + 1) * twoTo 52 + fraction) % twoTo 52 = fraction := by
    rw [Nat.mul_comm, Nat.mul_add_mod, Nat.mod_eq_of_lt small]
  simp only [units, quotient, remainder, Nat.add_sub_cancel]
  rw [if_neg (Nat.succ_ne_zero exponent)]

theorem exists_normal {rank : Nat} (normal : twoTo 52 ≤ rank) :
    ∃ exponent fraction, fraction < twoTo 52 ∧
      rank = (exponent + 1) * twoTo 52 + fraction := by
  have quotient : 1 ≤ rank / twoTo 52 := (Nat.one_le_div_iff (twoTo_pos 52)).2 normal
  refine ⟨rank / twoTo 52 - 1, rank % twoTo 52, Nat.mod_lt _ (twoTo_pos 52), ?_⟩
  rw [Nat.sub_add_cancel quotient, Nat.mul_comm, Nat.div_add_mod]

theorem floorRank_units {rank : Nat} (normal : twoTo 52 ≤ rank) :
    floorRank (units rank) = rank := by
  obtain ⟨exponent, fraction, small, rfl⟩ := exists_normal normal
  have double := twoTo_53
  rw [units_normal exponent small]
  have nonzero : (twoTo 52 + fraction) * twoTo exponent ≠ 0 :=
    Nat.mul_ne_zero (by have := twoTo_pos 52; omega) (Nat.ne_of_gt (twoTo_pos exponent))
  have log : Nat.log2 ((twoTo 52 + fraction) * twoTo exponent) = 52 + exponent := by
    refine (Nat.log2_eq_iff nonzero).2 ⟨?_, ?_⟩
    · rw [Nat.pow_add]
      exact Nat.mul_le_mul_right _ (Nat.le_add_right _ _)
    · rw [Nat.add_right_comm, Nat.pow_add]
      exact Nat.mul_lt_mul_of_pos_right (by change _ < twoTo 53; omega) (twoTo_pos exponent)
  unfold floorRank
  split
  · rename_i low
    -- Below 2⁵³ units the exponent is zero, where ranks and units agree.
    have zero : exponent = 0 := by
      by_contra positive
      have two : 2 ≤ twoTo exponent := Nat.le_self_pow (by omega) 2
      have : (twoTo 52 + fraction) * 2 ≤ (twoTo 52 + fraction) * twoTo exponent :=
        Nat.mul_le_mul_left _ two
      omega
    subst zero
    simp [twoTo]
  · simp only [log, Nat.add_sub_cancel_left]
    rw [Nat.mul_div_cancel _ (twoTo_pos exponent), Nat.add_mul, Nat.one_mul, Nat.add_assoc]

theorem units_lt_succ {rank : Nat} (normal : twoTo 52 ≤ rank) : units rank < units (rank + 1) := by
  obtain ⟨exponent, fraction, small, rfl⟩ := exists_normal normal
  rw [units_normal exponent small]
  rcases Nat.lt_or_ge (fraction + 1) (twoTo 52) with more | carry
  · rw [Nat.add_assoc, units_normal exponent more]
    exact Nat.mul_lt_mul_of_pos_right (by omega) (twoTo_pos exponent)
  · have next : (exponent + 1) * twoTo 52 + fraction + 1 = (exponent + 1 + 1) * twoTo 52 + 0 := by
      rw [Nat.add_mul (exponent + 1) 1]
      omega
    rw [next, units_normal (exponent + 1) (twoTo_pos 52), twoTo_add, Nat.mul_comm (twoTo exponent),
      ← Nat.mul_assoc]
    refine Nat.mul_lt_mul_of_pos_right ?_ (twoTo_pos exponent)
    change twoTo 52 + fraction < (twoTo 52 + 0) * 2
    omega

/-- The double closest to a double is that double, however the fraction is written. -/
theorem nearestRank_units {rank factor : Nat} (normal : twoTo 52 ≤ rank) (positive : 0 < factor) :
    nearestRank (units rank * factor) factor = rank := by
  have more := units_lt_succ normal
  have middle : 2 * (units rank * factor) < (units rank + units (rank + 1)) * factor := by
    rw [← Nat.mul_assoc]
    exact Nat.mul_lt_mul_of_pos_right (by omega) positive
  simp only [nearestRank, Nat.mul_div_cancel _ positive, floorRank_units normal, middle, if_true]

/-! ## Decimal places -/

theorem roundQuotient_le (numerator denominator : Nat) :
    roundQuotient numerator denominator ≤ numerator / denominator + 1 := by
  simp only [roundQuotient]
  repeat' split
  all_goals omega

/-- What can be divided is not rounded. -/
theorem roundQuotient_mul (quotient : Nat) {denominator : Nat} (positive : 0 < denominator) :
    roundQuotient (quotient * denominator) denominator = quotient := by
  simp [roundQuotient, Nat.mul_div_cancel _ positive, positive]

theorem unitsPerOne_dvd {rank : Nat} (large : 1075 * twoTo 52 ≤ rank) :
    unitsPerOne ∣ units rank := by
  have normal : twoTo 52 ≤ rank :=
    Nat.le_trans (Nat.le_mul_of_pos_left _ (by decide)) large
  obtain ⟨exponent, fraction, small, rfl⟩ := exists_normal normal
  have enough : 1074 ≤ exponent := by
    by_contra less
    have : (exponent + 1) * twoTo 52 ≤ 1074 * twoTo 52 := Nat.mul_le_mul_right _ (by omega)
    have split : 1075 * twoTo 52 = 1074 * twoTo 52 + twoTo 52 := Nat.succ_mul 1074 (twoTo 52)
    omega
  rw [units_normal exponent small]
  exact Nat.dvd_mul_left_of_dvd (twoTo_dvd enough) _

theorem units_lt {rank : Nat} (few : rank < 1075 * twoTo 52) : units rank < twoTo 1127 := by
  rcases Nat.lt_or_ge rank (twoTo 52) with subnormal | normal
  · have exponent : rank / twoTo 52 = 0 := Nat.div_eq_of_lt subnormal
    simp only [units, exponent, if_true, Nat.mod_eq_of_lt subnormal]
    exact Nat.lt_of_lt_of_le subnormal (twoTo_le (by decide))
  · obtain ⟨exponent, fraction, small, rfl⟩ := exists_normal normal
    have bounded : exponent ≤ 1073 := by
      by_contra more
      have : 1075 * twoTo 52 ≤ (exponent + 1) * twoTo 52 := Nat.mul_le_mul_right _ (by omega)
      omega
    rw [units_normal exponent small]
    have double := twoTo_53
    calc (twoTo 52 + fraction) * twoTo exponent
        < twoTo 53 * twoTo exponent :=
          Nat.mul_lt_mul_of_pos_right (by omega) (twoTo_pos exponent)
      _ = twoTo (53 + exponent) := (twoTo_add 53 exponent).symm
      _ ≤ twoTo 1127 := twoTo_le (by omega)

/-- A finite number rounded to decimal places is finite. -/
theorem isFinite_rounded (negative : Bool) {rank power : Nat} (finite : rank < infiniteRank)
    (positive : 0 < power) :
    (ofUnits negative (roundQuotient (units rank * power) unitsPerOne * unitsPerOne)
      power).isFinite = true := by
  have one : 0 < unitsPerOne := twoTo_pos 1074
  rcases Nat.lt_or_ge rank (1075 * twoTo 52) with few | large
  · refine isFinite_ofUnits negative ?_
    have nearest := roundQuotient_le (units rank * power) unitsPerOne
    have whole : units rank * power / unitsPerOne * unitsPerOne ≤ units rank * power :=
      Nat.div_mul_le_self _ _
    have numerator : roundQuotient (units rank * power) unitsPerOne * unitsPerOne ≤
        (units rank + unitsPerOne) * power := by
      calc roundQuotient (units rank * power) unitsPerOne * unitsPerOne
          ≤ (units rank * power / unitsPerOne + 1) * unitsPerOne := Nat.mul_le_mul_right _ nearest
        _ ≤ units rank * power + unitsPerOne := by rw [Nat.add_mul, Nat.one_mul]; omega
        _ ≤ (units rank + unitsPerOne) * power := by
          rw [Nat.add_mul]
          exact Nat.add_le_add_left (Nat.le_mul_of_pos_right _ positive) _
    calc roundQuotient (units rank * power) unitsPerOne * unitsPerOne / power
        ≤ (units rank + unitsPerOne) * power / power := Nat.div_le_div_right numerator
      _ = units rank + unitsPerOne := Nat.mul_div_cancel _ positive
      _ < twoTo 1127 + unitsPerOne := Nat.add_lt_add_right (units_lt few) unitsPerOne
      _ ≤ twoTo 2097 := by decide +kernel
  · -- A double this large is whole, so nothing is rounded.
    obtain ⟨whole, exact_units⟩ := unitsPerOne_dvd large
    have unrounded : roundQuotient (units rank * power) unitsPerOne * unitsPerOne =
        units rank * power := by
      rw [exact_units, Nat.mul_comm unitsPerOne, Nat.mul_right_comm, roundQuotient_mul _ one]
    have normal : twoTo 52 ≤ rank :=
      Nat.le_trans (Nat.le_mul_of_pos_left _ (by decide)) large
    rw [unrounded, ofUnits, nearestRank_units normal positive,
      Nat.min_eq_left (Nat.le_of_lt finite)]
    exact decide_eq_true finite

/-- No rounding to decimal places makes a number too large. -/
theorem roundPlaces_isSome {places : Int} (decimal : 0 ≤ places) (x : Binary64) :
    (x.roundPlaces places).isSome = true := by
  cases x with
  | nan => rfl
  | signed negative rank =>
      simp only [roundPlaces]
      split
      · rfl
      rename_i finite
      have small : ¬ places < firstPlace := fun less => absurd decimal (by
        have : firstPlace < 0 := by decide
        omega)
      have power : 0 < tenTo places.natAbs := Nat.pow_pos (by decide)
      simp only [small, if_false]
      rw [if_pos (isFinite_rounded negative (by omega) power)]
      rfl

end Binary64

/-! ## Amounts -/

theorem exists_rounded {places : Int} (decimal : 0 ≤ places) (x : Binary64) :
    ∃ y, rounded places x = .ok y := by
  obtain ⟨y, rounds⟩ := Option.isSome_iff_exists.1 (x.roundPlaces_isSome decimal)
  exact ⟨y, by rw [rounded, rounds]⟩

theorem Amount.exists_toBinary64_iff {n : Int} :
    (∃ x, (Amount.whole n).toBinary64 = .ok x) ↔ (Binary64.ofInt? n).isSome = true := by
  generalize given : Amount.whole n = amount
  fun_cases toBinary64 amount with
  | case1 m x number =>
      cases given
      simp [number]
  | case2 m fails =>
      cases given
      simp [fails]
  | case3 x => cases given

/-- A fraction below 2¹⁰²³ is a double. -/
theorem Binary64.ratio?_isSome {numerator : Int} (denominator : Int)
    (bound : numerator.natAbs < twoTo 1023) : (ratio? numerator denominator).isSome = true := by
  have one : 0 < unitsPerOne := twoTo_pos 1074
  have most : twoTo 2097 = twoTo 1023 * unitsPerOne := by rw [unitsPerOne, ← twoTo_add]
  have below : numerator.natAbs * unitsPerOne / denominator.natAbs < twoTo 2097 := by
    rw [most]
    exact Nat.lt_of_le_of_lt (Nat.div_le_self _ _) (Nat.mul_lt_mul_of_pos_right bound one)
  rw [ratio?, if_pos (isFinite_ofUnits _ below)]
  rfl

/-- A whole number below 2¹⁰²³ is a double. -/
theorem Binary64.ofInt?_isSome {n : Int} (bound : n.natAbs < twoTo 1023) :
    (ofInt? n).isSome = true := by
  have same : ofInt? n = ratio? n 1 := by simp [ofInt?, ratio?]
  rw [same]
  exact ratio?_isSome 1 bound

/-- A word of 64 bits is a double. -/
theorem ofInt?_word {n : Int} (word : LengthSummary.isWord64 n = true) :
    (Binary64.ofInt? n).isSome = true := by
  simp only [LengthSummary.isWord64, Bool.and_eq_true, decide_eq_true_eq] at word
  have bound : n.natAbs ≤ twoTo 63 := by omega
  exact Binary64.ofInt?_isSome (Nat.lt_of_le_of_lt bound (by decide +kernel))

/-! ## Quotients -/

/-- Two numbers with a quotient in double precision: both are doubles, or the second is zero
and the quotient is too. -/
def HasQuotient (numerator denominator : Int) : Prop :=
  denominator = 0 ∨
    (Binary64.ofInt? numerator).isSome = true ∧ (Binary64.ofInt? denominator).isSome = true

theorem Amount.isZero_whole {n : Int} : (Amount.whole n).isZero = true ↔ n = 0 :=
  beq_iff_eq

/-- A quotient that is scaled before it is rounded. -/
theorem exists_scaled_iff {numerator denominator places : Int} (decimal : 0 ≤ places)
    (scale : Binary64 → Binary64) :
    (∃ z, (if (Amount.whole denominator).isZero then Except.ok Binary64.zero else do
      let above ← (Amount.whole numerator).toBinary64
      let below ← (Amount.whole denominator).toBinary64
      rounded places (scale (above.div below))) = .ok z) ↔ HasQuotient numerator denominator := by
  rw [HasQuotient, ← Amount.isZero_whole]
  by_cases zero : (Amount.whole denominator).isZero = true
  · rw [if_pos zero]
    exact ⟨fun _ => .inl zero, fun _ => ⟨Binary64.zero, rfl⟩⟩
  · rw [if_neg zero, or_iff_right zero, ← Amount.exists_toBinary64_iff,
      ← Amount.exists_toBinary64_iff]
    simp only [exists_bind_eq_ok_iff, exists_rounded decimal, and_true]
    exact exists_and_right

theorem exists_ratio_iff {numerator denominator places : Int} (decimal : 0 ≤ places) :
    (∃ z, ratio numerator denominator places = .ok z) ↔ HasQuotient numerator denominator :=
  exists_scaled_iff decimal id

theorem exists_percentage_iff {part whole places : Int} (decimal : 0 ≤ places) :
    (∃ z, percentage part whole places = .ok z) ↔ HasQuotient part whole :=
  exists_scaled_iff decimal (·.mul hundred)

end LineCensus
