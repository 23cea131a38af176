/-
# Proofs.Nearest -- which numbers a double is the closest to

The units of the doubles increase with their ranks, and between 1 and 2⁻⁵³ of a double is
the distance to its neighbour below.  So the numbers that round to a double are those
between the two middles to its neighbours, `Binary64.RoundsTo`, and this is what the
rounding of the program decides (`Binary64.nearestRank_eq_iff`) and what the reading of a
decimal decides (`Binary64.ofDecimal_eq_iff`).  A number that is closer to the power of two
behind the largest double has no double (`Binary64.ratio?_isSome_iff`).
-/
import LineCensus.Proofs.Rounding
import Mathlib.Algebra.Order.Field.Basic
import Mathlib.Data.Rat.Lemmas
import Mathlib.Tactic.Linarith
import Mathlib.Tactic.NormNum
import Mathlib.Tactic.Positivity
import Mathlib.Tactic.FieldSimp
import Mathlib.Tactic.Ring

set_option autoImplicit false

namespace LineCensus
namespace Binary64

/-! ## Units by rank -/

theorem units_subnormal {rank : Nat} (subnormal : rank < twoTo 52) : units rank = rank := by
  simp only [units, Nat.div_eq_of_lt subnormal, Nat.mod_eq_of_lt subnormal, if_true]

/-- A whole number of 53 bits has at most sixteen digits. -/
theorem twoTo_53_lt : twoTo 53 < 10 ^ 16 := by decide

theorem units_zero : units 0 = 0 :=
  units_subnormal (twoTo_pos 52)

/-- A double is a number of 53 bits times a power of two. -/
theorem units_shift (shift : Nat) {bits : Nat} (least : twoTo 52 ≤ bits) (most : bits ≤ twoTo 53) :
    units (shift * twoTo 52 + bits) = bits * twoTo shift := by
  have double := twoTo_53
  rcases Nat.eq_or_lt_of_le most with full | short
  · have next : shift * twoTo 52 + bits = (shift + 1 + 1) * twoTo 52 + 0 := by
      rw [full, double, Nat.add_mul, Nat.add_mul]
      omega
    rw [next, units_normal (shift + 1) (twoTo_pos 52), full, double, twoTo_add, Nat.add_zero,
      Nat.mul_comm 2, Nat.mul_assoc, Nat.mul_comm (twoTo shift)]
    rfl
  · have fraction : bits - twoTo 52 < twoTo 52 := by omega
    have normal : shift * twoTo 52 + bits = (shift + 1) * twoTo 52 + (bits - twoTo 52) := by
      rw [Nat.add_mul]
      omega
    rw [normal, units_normal shift fraction, Nat.add_sub_cancel' least]

theorem exists_shift {rank : Nat} (normal : twoTo 52 ≤ rank) :
    ∃ shift bits, twoTo 52 ≤ bits ∧ bits < twoTo 53 ∧ rank = shift * twoTo 52 + bits := by
  obtain ⟨exponent, fraction, small, rfl⟩ := exists_normal normal
  refine ⟨exponent, twoTo 52 + fraction, Nat.le_add_right _ _, ?_, ?_⟩
  · have double := twoTo_53
    omega
  · rw [Nat.add_mul]
    omega

theorem units_lt_units_succ (rank : Nat) : units rank < units (rank + 1) := by
  rcases Nat.lt_or_ge rank (twoTo 52) with subnormal | normal
  · rw [units_subnormal subnormal]
    rcases Nat.eq_or_lt_of_le (Nat.succ_le_of_lt subnormal) with full | short
    · have first : units (0 * twoTo 52 + twoTo 52) = twoTo 52 * twoTo 0 :=
        units_shift 0 (Nat.le_refl _) (twoTo_le (by decide))
      rw [Nat.zero_mul, Nat.zero_add, show twoTo 0 = 1 from rfl, Nat.mul_one] at first
      rw [show rank + 1 = twoTo 52 from full, first]
      omega
    · rw [units_subnormal short]
      omega
  · exact units_lt_succ normal

theorem units_strictMono : StrictMono units :=
  strictMono_nat_of_lt_succ units_lt_units_succ

/-! ## The distance to a neighbour -/

/-- The distance of a double to the one below: the one above is not closer, and there are
less than 10¹⁶ such distances in the double itself. -/
def IsGap (rank gap : Nat) : Prop :=
  units (rank - 1) + gap = units rank ∧ units rank + gap ≤ units (rank + 1) ∧
    units rank < 10 ^ 16 * gap

theorem isGap_of_bits {shift bits : Nat} (least : twoTo 52 < bits) (most : bits < twoTo 53) :
    IsGap (shift * twoTo 52 + bits) (twoTo shift) := by
  obtain ⟨less, rfl⟩ : ∃ less, bits = less + 1 := ⟨bits - 1, by omega⟩
  have few : less + 1 < 10 ^ 16 := Nat.lt_trans most twoTo_53_lt
  refine ⟨?_, ?_, ?_⟩
  · rw [units_shift shift (Nat.le_of_lt least) (Nat.le_of_lt most), ← Nat.add_assoc,
      Nat.add_sub_cancel, units_shift shift (by omega) (by omega), Nat.add_mul, Nat.one_mul]
  · rw [units_shift shift (Nat.le_of_lt least) (Nat.le_of_lt most), Nat.add_assoc,
      units_shift shift (by omega) (by omega), Nat.add_mul (less + 1), Nat.one_mul]
  · rw [units_shift shift (Nat.le_of_lt least) (Nat.le_of_lt most)]
    exact Nat.mul_lt_mul_of_pos_right few (twoTo_pos shift)

/-- The first double of a power of two is half as far from the one below as from the one
above. -/
theorem isGap_first (shift : Nat) :
    IsGap ((shift + 1) * twoTo 52 + twoTo 52) (twoTo shift) := by
  have double := twoTo_53
  have one := twoTo_pos 52
  have below : (shift + 1) * twoTo 52 + twoTo 52 - 1 = shift * twoTo 52 + (twoTo 53 - 1) := by
    rw [Nat.add_mul]
    omega
  have here : units ((shift + 1) * twoTo 52 + twoTo 52) = twoTo 53 * twoTo shift := by
    have same : (shift + 1) * twoTo 52 + twoTo 52 = shift * twoTo 52 + twoTo 53 := by
      rw [Nat.add_mul]
      omega
    rw [same, units_shift shift (by omega) (Nat.le_refl _)]
  have next : units ((shift + 1) * twoTo 52 + twoTo 52 + 1) =
      twoTo 53 * twoTo shift + 2 * twoTo shift := by
    rw [Nat.add_assoc, units_shift (shift + 1) (by omega) (by omega), Nat.add_mul, twoTo_add,
      double]
    change twoTo 52 * (twoTo shift * 2) + 1 * (twoTo shift * 2) = _
    ring
  refine ⟨?_, ?_, ?_⟩
  · rw [below, here, units_shift shift (by omega) (by omega), Nat.sub_mul, Nat.one_mul]
    exact Nat.sub_add_cancel (Nat.le_mul_of_pos_left _ (by omega))
  · rw [here, next]
    omega
  · rw [here]
    exact Nat.mul_lt_mul_of_pos_right twoTo_53_lt (twoTo_pos shift)

theorem exists_gap {rank : Nat} (positive : 0 < rank) : ∃ gap, IsGap rank gap := by
  have double := twoTo_53
  rcases Nat.lt_or_ge (twoTo 52) rank with normal | low
  · obtain ⟨shift, bits, least, most, rfl⟩ := exists_shift (Nat.le_of_lt normal)
    rcases Nat.eq_or_lt_of_le least with rfl | inner
    · cases shift with
      | zero => omega
      | succ shift => exact ⟨_, isGap_first shift⟩
    · exact ⟨_, isGap_of_bits inner most⟩
  · -- The doubles up to here are whole units.
    have whole {n : Nat} (least : n ≤ twoTo 52 + 1) : units n = n := by
      rcases Nat.lt_or_ge n (twoTo 52) with subnormal | normal
      · exact units_subnormal subnormal
      · have first := units_shift 0 normal (by omega)
        rwa [Nat.zero_mul, Nat.zero_add, show twoTo 0 = 1 from rfl, Nat.mul_one] at first
    have few := twoTo_53_lt
    refine ⟨1, ?_, ?_, ?_⟩
    · rw [whole (by omega), whole (by omega)]
      omega
    · rw [whole (by omega), whole (by omega)]
    · rw [whole (by omega)]
      omega

/-! ## The double below a number -/

/-- The first 53 bits of a number are those of the double below it. -/
theorem floorRank_bits {n : Nat} (normal : twoTo 52 ≤ n) :
    ∃ shift bits, twoTo 52 ≤ bits ∧ bits < twoTo 53 ∧ floorRank n = shift * twoTo 52 + bits ∧
      bits * twoTo shift ≤ n ∧ n < (bits + 1) * twoTo shift := by
  have one : twoTo 0 = 1 := rfl
  rcases Nat.lt_or_ge n (twoTo 53) with short | long
  · refine ⟨0, n, normal, short, ?_, ?_, ?_⟩
    · rw [floorRank, if_pos short, Nat.zero_mul, Nat.zero_add]
    · rw [one, Nat.mul_one]
    · rw [one, Nat.mul_one]
      exact Nat.lt_succ_self n
  have nonzero : n ≠ 0 := Nat.ne_of_gt (Nat.lt_of_lt_of_le (twoTo_pos 52) normal)
  have high : 53 ≤ Nat.log2 n := (Nat.le_log2 nonzero).2 long
  have scale := twoTo_pos (Nat.log2 n - 52)
  have least : twoTo 52 * twoTo (Nat.log2 n - 52) ≤ n := by
    rw [← twoTo_add, show 52 + (Nat.log2 n - 52) = Nat.log2 n by omega]
    exact Nat.log2_self_le nonzero
  have most : n < twoTo 53 * twoTo (Nat.log2 n - 52) := by
    rw [← twoTo_add, show 53 + (Nat.log2 n - 52) = Nat.log2 n + 1 by omega]
    exact Nat.lt_log2_self
  refine ⟨Nat.log2 n - 52, n / twoTo (Nat.log2 n - 52), ?_, ?_, ?_, ?_, ?_⟩
  · exact (Nat.le_div_iff_mul_le scale).2 least
  · exact (Nat.div_lt_iff_lt_mul scale).2 most
  · rw [floorRank, if_neg (Nat.not_lt_of_le long)]
  · exact Nat.div_mul_le_self _ _
  · rw [Nat.add_mul, Nat.one_mul]
    exact Nat.lt_div_mul_add scale

/-- The double below `n` units is the largest that is not above. -/
theorem floorRank_spec (n : Nat) :
    units (floorRank n) ≤ n ∧ n < units (floorRank n + 1) := by
  rcases Nat.lt_or_ge n (twoTo 52) with subnormal | normal
  · have short : n < twoTo 53 := Nat.lt_of_lt_of_le subnormal (twoTo_le (by decide))
    have next := units_lt_units_succ n
    rw [floorRank, if_pos short]
    rw [units_subnormal subnormal] at next ⊢
    exact ⟨Nat.le_refl n, next⟩
  · obtain ⟨shift, bits, least, most, rank, below, above⟩ := floorRank_bits normal
    rw [rank, Nat.add_assoc, units_shift shift least (Nat.le_of_lt most),
      units_shift shift (Nat.le_succ_of_le least) most]
    exact ⟨below, above⟩

/-! ## What rounds to a double -/

/-- A number of units is between the middles to the neighbours of a double.  A middle belongs
to the double if its rank is even. -/
structure RoundsTo (rank : Nat) (value : ℚ) : Prop where
  above : (units (rank - 1) + units rank : ℚ) < 2 * value ∨
    (units (rank - 1) + units rank : ℚ) = 2 * value ∧ rank % 2 = 0
  below : 2 * value < (units rank + units (rank + 1) : ℚ) ∨
    2 * value = (units rank + units (rank + 1) : ℚ) ∧ rank % 2 = 0

namespace RoundsTo

variable {rank : Nat} {value : ℚ}

theorem bottom_le (rounds : RoundsTo rank value) :
    (units (rank - 1) + units rank : ℚ) ≤ 2 * value :=
  rounds.above.elim le_of_lt fun middle => middle.1.le

theorem le_top (rounds : RoundsTo rank value) :
    2 * value ≤ (units rank + units (rank + 1) : ℚ) :=
  rounds.below.elim le_of_lt fun middle => middle.1.le

theorem iff_parity : RoundsTo rank value ↔
    if rank % 2 = 0 then
      (units (rank - 1) + units rank : ℚ) ≤ 2 * value ∧
        2 * value ≤ (units rank + units (rank + 1) : ℚ)
    else
      (units (rank - 1) + units rank : ℚ) < 2 * value ∧
        2 * value < (units rank + units (rank + 1) : ℚ) := by
  split <;> rename_i parity
  · refine ⟨fun rounds => ⟨rounds.bottom_le, rounds.le_top⟩, fun ⟨above, below⟩ => ?_⟩
    exact ⟨above.lt_or_eq.imp_right (⟨·, parity⟩), below.lt_or_eq.imp_right (⟨·, parity⟩)⟩
  · refine ⟨fun rounds => ⟨?_, ?_⟩, fun ⟨above, below⟩ => ⟨.inl above, .inl below⟩⟩
    · exact rounds.above.resolve_right fun middle => parity middle.2
    · exact rounds.below.resolve_right fun middle => parity middle.2

/-- What lies between a number and the double rounds to the double if the number does. -/
theorem of_between (rounds : RoundsTo rank value) {other : ℚ}
    (between : value ≤ other ∧ other ≤ units rank ∨ (units rank : ℚ) ≤ other ∧ other ≤ value)
    (positive : 0 < rank) : RoundsTo rank other := by
  have before : (units (rank - 1) : ℚ) < units rank :=
    Nat.cast_lt.2 (units_strictMono (Nat.sub_lt positive Nat.one_pos))
  have after : (units rank : ℚ) < units (rank + 1) := Nat.cast_lt.2 (units_lt_units_succ rank)
  have bottom := rounds.bottom_le
  have top := rounds.le_top
  rcases between with ⟨low, high⟩ | ⟨low, high⟩
  · refine ⟨?_, .inl (by linarith)⟩
    rcases low.eq_or_lt with rfl | more
    · exact rounds.above
    · exact .inl (by linarith)
  · refine ⟨.inl (by linarith), ?_⟩
    rcases high.eq_or_lt with rfl | less
    · exact rounds.below
    · exact .inl (by linarith)

end RoundsTo

/-- The double below a fraction of units. -/
theorem floorRank_div (numerator : Nat) {denominator : Nat} (positive : 0 < denominator) :
    (units (floorRank (numerator / denominator)) : ℚ) ≤ numerator / denominator ∧
      (numerator / denominator : ℚ) < units (floorRank (numerator / denominator) + 1) := by
  have scale : (0 : ℚ) < denominator := Nat.cast_pos.2 positive
  obtain ⟨below, above⟩ := floorRank_spec (numerator / denominator)
  rw [le_div_iff₀ scale, div_lt_iff₀ scale]
  constructor
  · exact_mod_cast (Nat.le_div_iff_mul_le positive).1 below
  · exact_mod_cast (Nat.div_lt_iff_lt_mul positive).1 above

/-- Rounding decides between the double below a fraction and the one above. -/
theorem nearestRank_cases (numerator : Nat) {denominator : Nat} (positive : 0 < denominator) :
    let lower := floorRank (numerator / denominator)
    let middle : ℚ := units lower + units (lower + 1)
    let twice : ℚ := 2 * (numerator / denominator)
    nearestRank numerator denominator = lower ∧
        (twice < middle ∨ twice = middle ∧ lower % 2 = 0) ∨
      nearestRank numerator denominator = lower + 1 ∧
        (middle < twice ∨ twice = middle ∧ (lower + 1) % 2 = 0) := by
  have scale : (0 : ℚ) < denominator := Nat.cast_pos.2 positive
  simp only [nearestRank]
  generalize floorRank (numerator / denominator) = lower
  have above : (units lower + units (lower + 1) : ℚ) < 2 * (numerator / denominator) ↔
      (units lower + units (lower + 1)) * denominator < 2 * numerator := by
    rw [← mul_div_assoc, lt_div_iff₀ scale]
    exact_mod_cast Iff.rfl
  have below : 2 * (numerator / denominator : ℚ) < units lower + units (lower + 1) ↔
      2 * numerator < (units lower + units (lower + 1)) * denominator := by
    rw [← mul_div_assoc, div_lt_iff₀ scale]
    exact_mod_cast Iff.rfl
  have at_middle (notBelow : ¬ 2 * numerator < (units lower + units (lower + 1)) * denominator)
      (notAbove : ¬ (units lower + units (lower + 1)) * denominator < 2 * numerator) :
      2 * (numerator / denominator : ℚ) = units lower + units (lower + 1) :=
    le_antisymm (not_lt.1 (mt above.1 notAbove)) (not_lt.1 (mt below.1 notBelow))
  split
  · exact .inl ⟨rfl, .inl (below.2 ‹_›)⟩
  split
  · exact .inr ⟨rfl, .inl (above.2 ‹_›)⟩
  split
  · exact .inl ⟨rfl, .inr ⟨at_middle ‹_› ‹_›, ‹_›⟩⟩
  · exact .inr ⟨rfl, .inr ⟨at_middle ‹_› ‹_›, by omega⟩⟩

/-- Rounding gives a double just for the numbers that round to it. -/
theorem nearestRank_eq_iff {rank numerator denominator : Nat} (some_units : 0 < rank)
    (positive : 0 < denominator) :
    nearestRank numerator denominator = rank ↔ RoundsTo rank (numerator / denominator) := by
  obtain ⟨low, high⟩ := floorRank_div numerator positive
  have choice := nearestRank_cases numerator positive
  simp only at choice
  generalize floorRank (numerator / denominator) = lower at *
  generalize (numerator / denominator : ℚ) = value at *
  generalize nearestRank numerator denominator = nearest at *
  have increasing {a b : Nat} : (units a : ℚ) < units b ↔ a < b := by
    rw [Nat.cast_lt, units_strictMono.lt_iff_lt]
  constructor
  · rintro rfl
    rcases choice with ⟨rfl, choice⟩ | ⟨rfl, choice⟩
    · have before : (units (nearest - 1) : ℚ) < units nearest := increasing.2 (by omega)
      exact ⟨.inl (by linarith), choice⟩
    · have after : (units (lower + 1) : ℚ) < units (lower + 1 + 1) := increasing.2 (by omega)
      refine ⟨?_, .inl (by linarith)⟩
      rw [Nat.add_sub_cancel]
      exact choice.imp_right fun middle => ⟨middle.1.symm, middle.2⟩
  · intro rounds
    have bottom := rounds.bottom_le
    have top := rounds.le_top
    have before : (units (rank - 1) : ℚ) < units rank := increasing.2 (by omega)
    have after : (units rank : ℚ) < units (rank + 1) := increasing.2 (by omega)
    have atLeast : rank - 1 < lower + 1 := increasing.1 (by linarith)
    have atMost : lower < rank + 1 := increasing.1 (by linarith)
    rcases (by omega : lower = rank ∨ lower + 1 = rank) with rfl | rfl
    · rcases choice with ⟨rfl, -⟩ | ⟨-, more | ⟨middle, odd⟩⟩
      · rfl
      · linarith
      · rcases rounds.below with less | ⟨-, even⟩
        · linarith
        · omega
    · rw [Nat.add_sub_cancel] at bottom
      rcases choice with ⟨-, less | ⟨middle, odd⟩⟩ | ⟨rfl, -⟩
      · linarith
      · rcases rounds.above with more | ⟨-, even⟩
        · rw [Nat.add_sub_cancel] at more
          linarith
        · omega
      · rfl

/-! ## Decimals -/

/-- The value of a decimal, in units. -/
def decimalUnits (digits : Nat) (power : Int) : ℚ :=
  digits * 10 ^ power * unitsPerOne

theorem decimalUnits_zero (power : Int) : decimalUnits 0 power = 0 := by
  rw [decimalUnits, Nat.cast_zero, zero_mul, zero_mul]

/-- Zeros behind the digits can be told by the power instead. -/
theorem decimalUnits_mul_pow (digits zeros : Nat) (power : Int) :
    decimalUnits (digits * 10 ^ zeros) power = decimalUnits digits (power + zeros) := by
  rw [decimalUnits, decimalUnits, Nat.cast_mul, Nat.cast_pow, Nat.cast_ofNat, ← zpow_natCast,
    mul_assoc (digits : ℚ), ← zpow_add₀ (by norm_num), add_comm power]

theorem cast_tenTo (k : Nat) : (tenTo k : ℚ) = 10 ^ k :=
  Nat.cast_pow 10 k

theorem cast_unitsPerOne_pos : (0 : ℚ) < unitsPerOne :=
  Nat.cast_pos.2 (twoTo_pos 1074)

theorem digitCount_spec {n : Nat} (nonzero : 0 < n) :
    10 ^ (digitCount n - 1) ≤ n ∧ n < 10 ^ digitCount n ∧ 0 < digitCount n := by
  have count : digitCount n = (Nat.toDigits 10 n).length := by
    rw [digitCount, if_neg (by omega)]
  have length := Nat.length_toDigits_pos (b := 10) (n := n)
  rw [count]
  refine ⟨?_, (Nat.length_toDigits_le_iff (by decide) length).1 (Nat.le_refl _), length⟩
  rcases Nat.lt_or_ge 1 (Nat.toDigits 10 n).length with more | one
  · have shorter : ¬ n < 10 ^ ((Nat.toDigits 10 n).length - 1) := by
      rw [← Nat.length_toDigits_le_iff (by decide) (by omega)]
      omega
    exact Nat.le_of_not_lt shorter
  · rw [show (Nat.toDigits 10 n).length - 1 = 0 by omega]
    exact nonzero

/-- The number of digits and the power of ten give the magnitude of a decimal. -/
theorem decimalUnits_bounds {digits : Nat} (nonzero : 0 < digits) (power : Int) :
    10 ^ (digitCount digits + power - 1) * (unitsPerOne : ℚ) ≤ decimalUnits digits power ∧
      decimalUnits digits power < 10 ^ (digitCount digits + power) * (unitsPerOne : ℚ) := by
  obtain ⟨least, most, count⟩ := digitCount_spec nonzero
  have ten : (0 : ℚ) < 10 ^ power := zpow_pos (by norm_num) power
  have low : ((10 : ℚ) ^ (digitCount digits + power - 1)) =
      10 ^ (digitCount digits - 1) * 10 ^ power := by
    rw [← zpow_natCast, ← zpow_add₀ (by norm_num)]
    congr 1
    omega
  have high : ((10 : ℚ) ^ (digitCount digits + power)) = 10 ^ digitCount digits * 10 ^ power := by
    rw [zpow_add₀ (by norm_num), zpow_natCast]
  rw [low, high, decimalUnits]
  constructor
  · refine mul_le_mul_of_nonneg_right ?_ cast_unitsPerOne_pos.le
    exact mul_le_mul_of_nonneg_right (by exact_mod_cast least) ten.le
  · refine mul_lt_mul_of_pos_right ?_ cast_unitsPerOne_pos
    exact mul_lt_mul_of_pos_right (by exact_mod_cast most) ten

/-- The fraction that is rounded when a decimal is read. -/
theorem ofDecimal_eq_ofUnits (negative : Bool) {digits : Nat} {power : Int}
    (nonzero : 0 < digits) (low : -330 ≤ digitCount digits + power)
    (high : digitCount digits + power ≤ 310) :
    ∃ numerator denominator : Nat, 0 < denominator ∧
      (numerator / denominator : ℚ) = decimalUnits digits power ∧
      ofDecimal negative digits power = ofUnits negative numerator denominator := by
  have neither : ¬ (digits = 0 ∨ digitCount digits + power < -330) := by omega
  rw [ofDecimal]
  simp only [if_neg neither, if_neg (Int.not_lt.2 high)]
  rcases lt_or_ge power 0 with below | above
  · rw [if_neg (Int.not_le.2 below)]
    refine ⟨digits * unitsPerOne, tenTo power.natAbs, Nat.pow_pos (by decide), ?_, rfl⟩
    obtain ⟨k, rfl⟩ : ∃ k : Nat, power = -k := ⟨power.natAbs, by omega⟩
    rw [decimalUnits, zpow_neg, zpow_natCast, Nat.cast_mul, Int.natAbs_neg, Int.natAbs_natCast,
      cast_tenTo]
    ring
  · rw [if_pos above]
    refine ⟨_, _, Nat.one_pos, ?_, rfl⟩
    obtain ⟨k, rfl⟩ := Int.eq_ofNat_of_zero_le above
    rw [decimalUnits, zpow_natCast, Nat.cast_mul, Nat.cast_mul, Int.natAbs_natCast,
      cast_tenTo, Nat.cast_one, div_one]

theorem RoundsTo.one_le {rank : Nat} {value : ℚ} (rounds : RoundsTo rank value)
    (some_units : 0 < rank) : 1 ≤ 2 * value := by
  have first : units 0 < units rank := units_strictMono some_units
  have one : (1 : ℚ) ≤ units rank := by exact_mod_cast (show 1 ≤ units rank by omega)
  have before : (0 : ℚ) ≤ units (rank - 1) := Nat.cast_nonneg _
  linarith [rounds.bottom_le]

theorem RoundsTo.lt_infinite {rank : Nat} {value : ℚ} (rounds : RoundsTo rank value)
    (finite : rank < infiniteRank) : value < units infiniteRank := by
  have here : (units rank : ℚ) < units infiniteRank := Nat.cast_lt.2 (units_strictMono finite)
  have next : (units (rank + 1) : ℚ) ≤ units infiniteRank :=
    Nat.cast_le.2 (units_strictMono.monotone finite)
  linarith [rounds.le_top]

/-- Zero rounds to no other double. -/
theorem digits_pos {rank digits : Nat} {power : Int} (positive : 0 < rank)
    (rounds : RoundsTo rank (decimalUnits digits power)) : 0 < digits := by
  rcases Nat.eq_zero_or_pos digits with rfl | nonzero
  · have one := rounds.one_le positive
    rw [decimalUnits_zero] at one
    linarith
  · exact nonzero

/-- What rounds to a finite double other than zero is not settled by its magnitude. -/
theorem magnitude_of_roundsTo {rank digits : Nat} {power : Int} (some_units : 0 < rank)
    (finite : rank < infiniteRank) (rounds : RoundsTo rank (decimalUnits digits power)) :
    0 < digits ∧ -330 ≤ digitCount digits + power ∧ digitCount digits + power ≤ 310 := by
  have one := rounds.one_le some_units
  have bounded := rounds.lt_infinite finite
  have nonzero := digits_pos some_units rounds
  obtain ⟨least, most⟩ := decimalUnits_bounds nonzero power
  refine ⟨nonzero, ?_, ?_⟩
  · by_contra low
    have small : (10 : ℚ) ^ (digitCount digits + power) ≤ (10 : ℚ) ^ (-331 : Int) :=
      zpow_le_zpow_right₀ (by norm_num) (by omega)
    have half : 2 * (unitsPerOne : ℚ) ≤ 10 ^ 331 := by
      rw [← cast_tenTo]
      exact_mod_cast (by decide +kernel : 2 * unitsPerOne ≤ tenTo 331)
    have less : 2 * decimalUnits digits power < 1 := by
      calc 2 * decimalUnits digits power
          < 2 * (10 ^ (digitCount digits + power) * (unitsPerOne : ℚ)) := by linarith
        _ ≤ 2 * (10 ^ (-331 : Int) * (unitsPerOne : ℚ)) := by
          have := mul_le_mul_of_nonneg_right small cast_unitsPerOne_pos.le
          linarith
        _ = (10 ^ 331)⁻¹ * (2 * (unitsPerOne : ℚ)) := by
          rw [zpow_neg, show (331 : Int) = (331 : Nat) from rfl, zpow_natCast, mul_left_comm]
        _ ≤ 1 := by
          rw [inv_mul_le_iff₀ (by positivity), mul_one]
          exact half
    linarith
  · by_contra high
    have large : (tenTo 310 : ℚ) ≤ (10 : ℚ) ^ (digitCount digits + power - 1) := by
      rw [cast_tenTo, ← zpow_natCast]
      exact zpow_le_zpow_right₀ (by norm_num) (by push_cast; omega)
    have beyond : (units infiniteRank : ℚ) ≤ tenTo 310 * unitsPerOne := by
      exact_mod_cast (by decide +kernel : units infiniteRank ≤ tenTo 310 * unitsPerOne)
    have := mul_le_mul_of_nonneg_right large cast_unitsPerOne_pos.le
    linarith

/-- A finite double other than zero is read from just the decimals that round to it. -/
theorem ofDecimal_eq_iff (negative : Bool) {rank : Nat} (some_units : 0 < rank)
    (finite : rank < infiniteRank) (digits : Nat) (power : Int) :
    ofDecimal negative digits power = .signed negative rank ↔
      RoundsTo rank (decimalUnits digits power) := by
  by_cases within : 0 < digits ∧ -330 ≤ digitCount digits + power ∧
      digitCount digits + power ≤ 310
  · obtain ⟨nonzero, low, high⟩ := within
    obtain ⟨numerator, denominator, positive, value, read⟩ :=
      ofDecimal_eq_ofUnits negative nonzero low high
    rw [read, ← value, ← nearestRank_eq_iff some_units positive, ofUnits]
    simp only [signed.injEq, true_and]
    omega
  · refine ⟨fun read => ?_, fun rounds =>
      absurd (magnitude_of_roundsTo some_units finite rounds) within⟩
    rw [ofDecimal] at read
    split at read
    · simp only [signed.injEq] at read
      omega
    · split at read
      · simp only [signed.injEq] at read
        omega
      · omega

/-! ## What is too large -/

/-- The first number that is too large for a double: half way between the largest double and
the next power of two. -/
def firstTooLarge : Nat := twoTo 1024 - twoTo 970

theorem firstTooLarge_units :
    units (infiniteRank - 1) + units infiniteRank = 2 * (firstTooLarge * unitsPerOne) := by
  decide +kernel

/-- A fraction of units has a finite double just below the first number that is too large. -/
theorem isFinite_ofUnits_iff (negative : Bool) (numerator : Nat) {denominator : Nat}
    (positive : 0 < denominator) :
    (ofUnits negative numerator denominator).isFinite = true ↔
      numerator < firstTooLarge * unitsPerOne * denominator := by
  have scale : (0 : ℚ) < denominator := Nat.cast_pos.2 positive
  have middle : (units (infiniteRank - 1) + units infiniteRank : ℚ) =
      2 * (firstTooLarge * unitsPerOne : Nat) := by
    exact_mod_cast firstTooLarge_units
  have odd : (infiniteRank - 1) % 2 = 1 := by decide +kernel
  have some_rank : 0 < infiniteRank := by decide +kernel
  have finite : (ofUnits negative numerator denominator).isFinite = true ↔
      nearestRank numerator denominator < infiniteRank := by
    simp only [ofUnits, isFinite, decide_eq_true_eq]
    omega
  have below : numerator < firstTooLarge * unitsPerOne * denominator ↔
      (numerator / denominator : ℚ) < (firstTooLarge * unitsPerOne : Nat) := by
    rw [div_lt_iff₀ scale]
    exact_mod_cast Iff.rfl
  have increasing {a b : Nat} (before : a ≤ b) : (units a : ℚ) ≤ units b :=
    Nat.cast_le.2 (units_strictMono.monotone before)
  have next : (units (infiniteRank - 1) : ℚ) < units infiniteRank :=
    Nat.cast_lt.2 (units_strictMono (Nat.sub_lt some_rank Nat.one_pos))
  rw [finite, below]
  obtain ⟨low, high⟩ := floorRank_div numerator positive
  have choice := nearestRank_cases numerator positive
  simp only at choice
  generalize floorRank (numerator / denominator) = lower at *
  generalize (numerator / denominator : ℚ) = value at *
  generalize nearestRank numerator denominator = nearest at *
  generalize firstTooLarge * unitsPerOne = bound at *
  rcases Nat.lt_trichotomy (lower + 1) infiniteRank with under | last | beyond
  · have largest := increasing (Nat.le_sub_one_of_lt under)
    exact ⟨fun _ => by linarith, fun _ => by omega⟩
  · obtain rfl : lower = infiniteRank - 1 := by omega
    rw [last] at choice
    rcases choice with ⟨rfl, less | ⟨-, even⟩⟩ | ⟨rfl, more⟩
    · exact ⟨fun _ => by linarith, fun _ => by omega⟩
    · omega
    · refine ⟨fun less => absurd less (Nat.lt_irrefl _), fun less => ?_⟩
      rcases more with more | ⟨same, -⟩ <;> linarith
  · have infinite := increasing (show infiniteRank ≤ lower by omega)
    exact ⟨fun _ => by omega, fun _ => by linarith⟩

/-- The fractions that have a double. -/
theorem ratio?_isSome_iff (numerator : Int) {denominator : Int} (nonzero : denominator ≠ 0) :
    (ratio? numerator denominator).isSome = true ↔
      numerator.natAbs < firstTooLarge * denominator.natAbs := by
  have one : 0 < unitsPerOne := twoTo_pos 1074
  have positive : 0 < denominator.natAbs := Int.natAbs_pos.2 nonzero
  have finite := isFinite_ofUnits_iff ((numerator < 0) != (denominator < 0))
    (numerator.natAbs * unitsPerOne) positive
  rw [Nat.mul_right_comm, Nat.mul_lt_mul_right one] at finite
  rw [← finite, ratio?]
  split <;> simp [*]

/-- The whole numbers that have a double. -/
theorem ofInt?_isSome_iff (n : Int) : (ofInt? n).isSome = true ↔ n.natAbs < firstTooLarge := by
  have same : ofInt? n = ratio? n 1 := by simp [ofInt?, ratio?]
  rw [same, ratio?_isSome_iff n (by decide), Int.natAbs_one, Nat.mul_one]

end Binary64
end LineCensus
