/-
# Proofs.Shortest -- the shortest decimal of a double

The decimals with a number of digits are the points of a grid around a double.  The search
tries the two points next to the double, and they are enough: whatever decimal is read back
as the double, a point next to it on the grid of its number of digits is too
(`Binary64.decimal?_none`).  Seventeen digits always do, because the grid is then closer than
the doubles are (`Binary64.exists_decimal?`).

So the search ends with a decimal that is read back, has the fewest digits of all that are,
and is the closest of those (`Binary64.shortest_spec`).
-/
import LineCensus.Number.Shortest
import LineCensus.Proofs.Digits
import LineCensus.Proofs.Nearest
import Mathlib.Algebra.Order.Field.Power

set_option autoImplicit false

namespace LineCensus
namespace Binary64

/-! ## The decimal exponent -/

theorem placesToOne_spec {u : Nat} (fuel places : Nat) (positive : 0 < places)
    (before : u * tenTo (places - 1) < unitsPerOne)
    (reached : unitsPerOne ≤ u * tenTo (places + fuel)) :
    0 < placesToOne u fuel places ∧ u * tenTo (placesToOne u fuel places - 1) < unitsPerOne ∧
      unitsPerOne ≤ u * tenTo (placesToOne u fuel places) := by
  induction fuel generalizing places with
  | zero => exact ⟨positive, before, reached⟩
  | succ fuel ih =>
      rw [placesToOne]
      split
      · exact ⟨positive, before, ‹_›⟩
      · refine ih (places + 1) (Nat.succ_pos _) (Nat.lt_of_not_le ‹_›) ?_
        rwa [Nat.add_right_comm, Nat.add_assoc]

/-- The decimal exponent tells between which powers of ten a double is. -/
theorem decimalExponent_spec {u : Nat} (positive : 0 < u) :
    10 ^ (decimalExponent u - 1) * (unitsPerOne : ℚ) ≤ u ∧
      (u : ℚ) < 10 ^ decimalExponent u * unitsPerOne := by
  have one : 0 < unitsPerOne := twoTo_pos 1074
  rw [decimalExponent]
  split
  · rename_i large
    obtain ⟨least, most, count⟩ := digitCount_spec (Nat.div_pos large one)
    have below : 10 ^ (digitCount (u / unitsPerOne) - 1) * unitsPerOne ≤ u :=
      (Nat.le_div_iff_mul_le one).1 least
    have above : u < 10 ^ digitCount (u / unitsPerOne) * unitsPerOne :=
      (Nat.div_lt_iff_lt_mul one).1 most
    generalize digitCount (u / unitsPerOne) = k at *
    rw [show (k : Int) - 1 = (k - 1 : Nat) by omega, zpow_natCast, zpow_natCast]
    exact ⟨by exact_mod_cast below, by exact_mod_cast above⟩
  · rename_i small
    obtain ⟨some_place, before, reached⟩ :=
      placesToOne_spec 330 1 Nat.one_pos (by simpa [tenTo] using small) (by
        have enough : unitsPerOne ≤ tenTo (1 + 330) := by decide +kernel
        exact Nat.le_trans enough (Nat.le_mul_of_pos_left _ positive))
    generalize placesToOne u 330 1 = places at *
    have ten : (0 : ℚ) < 10 ^ places := by positivity
    have ten' : (0 : ℚ) < 10 ^ (places - 1) := by positivity
    rw [show 1 - (places : Int) - 1 = -places by omega,
      show 1 - (places : Int) = -(places - 1 : Nat) by omega, zpow_neg, zpow_neg, zpow_natCast,
      zpow_natCast, inv_mul_le_iff₀ ten, lt_inv_mul_iff₀ ten', ← cast_tenTo, ← cast_tenTo,
      mul_comm, mul_comm (tenTo (places - 1) : ℚ)]
    exact ⟨by exact_mod_cast reached, by exact_mod_cast before⟩

/-! ## The grid of a number of digits -/

/-- A decimal on the grid of `count` digits around a double of decimal exponent `k`, in
units. -/
def gridUnits (k : Int) (count digits : Nat) : ℚ :=
  decimalUnits digits (k - count)

theorem gridUnits_succ (k : Int) (count digits : Nat) :
    gridUnits k count (digits + 1) = gridUnits k count digits + gridUnits k count 1 := by
  simp only [gridUnits, decimalUnits]
  push_cast
  ring

theorem gridUnits_le (k : Int) (count : Nat) {digits other : Nat} :
    gridUnits k count digits ≤ gridUnits k count other ↔ digits ≤ other := by
  have scale : (0 : ℚ) < 10 ^ (k - count) * unitsPerOne :=
    mul_pos (zpow_pos (by norm_num) _) cast_unitsPerOne_pos
  simp only [gridUnits, decimalUnits, mul_assoc]
  rw [mul_le_mul_iff_of_pos_right scale, Nat.cast_le]

/-- The search looks at the double and at the grid on one scale of whole numbers. -/
theorem grid_scale (k : Int) (count digits : Nat) :
    ((digits * (unitsPerOne * tenTo (k - count).toNat) : Nat) : ℚ) =
      tenTo (count - k).toNat * gridUnits k count digits := by
  have powers : (10 : ℚ) ^ (k - count).toNat =
      10 ^ (count - k).toNat * 10 ^ (k - count) := by
    rw [← zpow_natCast, ← zpow_natCast, ← zpow_add₀ (by norm_num)]
    congr 1
    omega
  rw [gridUnits, decimalUnits]
  push_cast
  rw [cast_tenTo, cast_tenTo, powers]
  ring

theorem isClosest_iff (rank : Nat) {factor scaled : Nat} {value : ℚ} (positive : 0 < factor)
    (onScale : (scaled : ℚ) = factor * value) :
    isClosest rank factor scaled = true ↔ RoundsTo rank value := by
  have scale : (0 : ℚ) < factor := Nat.cast_pos.2 positive
  have twice : ((2 * scaled : Nat) : ℚ) = 2 * value * factor := by
    push_cast
    rw [onScale]
    ring
  have le {n : Nat} : n * factor ≤ 2 * scaled ↔ (n : ℚ) ≤ 2 * value := by
    rw [← Nat.cast_le (α := ℚ), twice, Nat.cast_mul, mul_le_mul_iff_of_pos_right scale]
  have ge {n : Nat} : 2 * scaled ≤ n * factor ↔ 2 * value ≤ (n : ℚ) := by
    rw [← Nat.cast_le (α := ℚ), twice, Nat.cast_mul, mul_le_mul_iff_of_pos_right scale]
  rw [isClosest, RoundsTo.iff_parity, ← Nat.cast_add, ← Nat.cast_add]
  split
  · rw [Bool.and_eq_true, decide_eq_true_eq, decide_eq_true_eq, le, ge]
  · rw [Bool.and_eq_true, decide_eq_true_eq, decide_eq_true_eq, lt_iff_lt_of_le_iff_le ge,
      lt_iff_lt_of_le_iff_le le]

/-- What the search has found out about the two points of a grid next to a double. -/
inductive Tried (rank : Nat) (k : Int) (count lower : Nat) : Option Nat → Prop where
  | lower (rounds : RoundsTo rank (gridUnits k count lower))
      (closer : RoundsTo rank (gridUnits k count (lower + 1)) →
        units rank - gridUnits k count lower ≤ gridUnits k count (lower + 1) - units rank) :
      Tried rank k count lower (some lower)
  | upper (rounds : RoundsTo rank (gridUnits k count (lower + 1)))
      (closer : RoundsTo rank (gridUnits k count lower) →
        gridUnits k count (lower + 1) - units rank ≤ units rank - gridUnits k count lower) :
      Tried rank k count lower (some (lower + 1))
  | neither (below : ¬ RoundsTo rank (gridUnits k count lower))
      (above : ¬ RoundsTo rank (gridUnits k count (lower + 1))) : Tried rank k count lower none

theorem tried_decimal? (rank : Nat) (k : Int) (count : Nat) :
    ∃ lower, gridUnits k count lower ≤ units rank ∧ units rank < gridUnits k count (lower + 1) ∧
      Tried rank k count lower (decimal? rank k count) := by
  have some_factor : 0 < tenTo (count - k).toNat := Nat.pow_pos (by decide)
  have some_step : 0 < unitsPerOne * tenTo (k - count).toNat :=
    Nat.mul_pos (twoTo_pos 1074) (Nat.pow_pos (by decide))
  have onScale := grid_scale k count
  rw [decimal?]
  generalize unitsPerOne * tenTo (k - count).toNat = step at *
  generalize tenTo (count - k).toNat = factor at *
  have scale : (0 : ℚ) < factor := Nat.cast_pos.2 some_factor
  have low : units rank * factor / step * step ≤ units rank * factor := Nat.div_mul_le_self _ _
  have high : units rank * factor < (units rank * factor / step + 1) * step := by
    rw [Nat.add_mul, Nat.one_mul]
    exact Nat.lt_div_mul_add some_step
  generalize units rank * factor / step = lower at *
  have closest := isClosest_iff rank some_factor (onScale lower)
  have closestAbove := isClosest_iff rank some_factor (onScale (lower + 1))
  have below : ((units rank * factor - lower * step : Nat) : ℚ) =
      factor * (units rank - gridUnits k count lower) := by
    rw [Nat.cast_sub low, onScale, Nat.cast_mul]
    ring
  have above : (((lower + 1) * step - units rank * factor : Nat) : ℚ) =
      factor * (gridUnits k count (lower + 1) - units rank) := by
    rw [Nat.cast_sub (Nat.le_of_lt high), onScale, Nat.cast_mul]
    ring
  refine ⟨lower, ?_, ?_, ?_⟩
  · rw [← mul_le_mul_iff_of_pos_left scale, ← onScale, mul_comm (factor : ℚ)]
    exact_mod_cast low
  · rw [← mul_lt_mul_iff_of_pos_left scale, ← onScale, mul_comm (factor : ℚ)]
    exact_mod_cast high
  · split <;> rename_i hereFound aboveFound <;>
      simp only [hereFound, aboveFound, Bool.false_eq_true, true_iff, false_iff] at closest closestAbove
    · split <;> rename_i nearer
      · refine .lower closest fun _ => ?_
        rw [← mul_le_mul_iff_of_pos_left scale, ← below, ← above, Nat.cast_le]
        omega
      · refine .upper closestAbove fun _ => ?_
        rw [← mul_le_mul_iff_of_pos_left scale, ← below, ← above, Nat.cast_le]
        omega
    · exact .lower closest fun rounds => absurd rounds closestAbove
    · exact .upper closestAbove fun rounds => absurd rounds closest
    · exact .neither closest closestAbove

/-- If some point of the grid rounds to the double, the point next to the double on that side
does too. -/
theorem rounds_next {rank : Nat} {k : Int} {count lower other : Nat} (positive : 0 < rank)
    (low : gridUnits k count lower ≤ units rank)
    (high : units rank < gridUnits k count (lower + 1))
    (rounds : RoundsTo rank (gridUnits k count other)) :
    gridUnits k count other ≤ gridUnits k count lower ∧
        RoundsTo rank (gridUnits k count lower) ∨
      gridUnits k count (lower + 1) ≤ gridUnits k count other ∧
        RoundsTo rank (gridUnits k count (lower + 1)) := by
  rcases Nat.lt_or_ge lower other with above | below
  · have further : gridUnits k count (lower + 1) ≤ gridUnits k count other := (gridUnits_le k count).2 above
    exact .inr ⟨further, rounds.of_between (.inr ⟨high.le, further⟩) positive⟩
  · have further : gridUnits k count other ≤ gridUnits k count lower := (gridUnits_le k count).2 below
    exact .inl ⟨further, rounds.of_between (.inl ⟨further, low⟩) positive⟩

/-- What the search finds rounds to the double, and no other point of the grid that does is
closer. -/
theorem decimal?_some {rank : Nat} {k : Int} {count digits : Nat} (positive : 0 < rank)
    (found : decimal? rank k count = some digits) :
    RoundsTo rank (gridUnits k count digits) ∧
      ∀ other, RoundsTo rank (gridUnits k count other) →
        |gridUnits k count digits - units rank| ≤ |gridUnits k count other - units rank| := by
  obtain ⟨lower, low, high, tried⟩ := tried_decimal? rank k count
  rw [found] at tried
  have below (other : ℚ) (further : other ≤ gridUnits k count lower) :
      units rank - gridUnits k count lower ≤ |other - units rank| := by
    rw [abs_sub_comm]
    exact (sub_le_sub_left further _).trans (le_abs_self _)
  have above (other : ℚ) (further : gridUnits k count (lower + 1) ≤ other) :
      gridUnits k count (lower + 1) - units rank ≤ |other - units rank| :=
    (sub_le_sub_right further _).trans (le_abs_self _)
  cases tried with
  | lower rounds closer =>
      refine ⟨rounds, fun other otherRounds => ?_⟩
      rw [abs_sub_comm, abs_of_nonneg (sub_nonneg.2 low)]
      rcases rounds_next positive low high otherRounds with ⟨further, -⟩ | ⟨further, next⟩
      · exact below _ further
      · exact (closer next).trans (above _ further)
  | upper rounds closer =>
      refine ⟨rounds, fun other otherRounds => ?_⟩
      rw [abs_of_nonneg (sub_nonneg.2 high.le)]
      rcases rounds_next positive low high otherRounds with ⟨further, next⟩ | ⟨further, -⟩
      · exact (closer next).trans (below _ further)
      · exact above _ further

/-- If the search finds nothing, no point of the grid rounds to the double. -/
theorem decimal?_none {rank : Nat} {k : Int} {count : Nat} (positive : 0 < rank)
    (nothing : decimal? rank k count = none) (other : Nat) :
    ¬ RoundsTo rank (gridUnits k count other) := by
  intro rounds
  obtain ⟨lower, low, high, tried⟩ := tried_decimal? rank k count
  rw [nothing] at tried
  cases tried with
  | neither below above =>
      rcases rounds_next positive low high rounds with ⟨-, next⟩ | ⟨-, next⟩
      · exact below next
      · exact above next

/-- The grid of seventeen digits is closer than the doubles are, so one of the two points next
to a double rounds to it. -/
theorem exists_decimal? {rank : Nat} (positive : 0 < rank) :
    ∃ digits, decimal? rank (decimalExponent (units rank)) 17 = some digits := by
  have some_units : 0 < units rank := Nat.lt_of_le_of_lt (Nat.zero_le _) (units_strictMono positive)
  obtain ⟨least, -⟩ := decimalExponent_spec some_units
  obtain ⟨gap, below, above, few⟩ := exists_gap positive
  generalize decimalExponent (units rank) = k at *
  have close : gridUnits k 17 1 < gap := by
    have ten : (10 : ℚ) ^ (k - 1) = 10 ^ (k - 17) * 10 ^ 16 := by
      rw [← zpow_natCast, ← zpow_add₀ (by norm_num)]
      congr 1
      omega
    have few : (units rank : ℚ) < 10 ^ 16 * gap := by exact_mod_cast few
    rw [gridUnits, decimalUnits]
    push_cast
    rw [ten] at least
    linarith
  obtain ⟨lower, low, high, tried⟩ := tried_decimal? rank k 17
  have next := gridUnits_succ k 17 lower
  have below : (units (rank - 1) + gap : ℚ) = units rank := by exact_mod_cast below
  have above : (units rank + gap : ℚ) ≤ units (rank + 1) := by exact_mod_cast above
  cases found : decimal? rank k 17 with
  | some digits => exact ⟨digits, rfl⟩
  | none =>
      rw [found] at tried
      cases tried with
      | neither notLower notUpper =>
          rcases le_or_gt (2 * units rank : ℚ)
            (gridUnits k 17 lower + gridUnits k 17 (lower + 1)) with nearLower | nearUpper
          · exact absurd (RoundsTo.mk (.inl (by linarith)) (.inl (by linarith))) notLower
          · exact absurd (RoundsTo.mk (.inl (by linarith)) (.inl (by linarith))) notUpper

/-! ## The search -/

theorem searchDecimal_spec {rank : Nat} {k : Int} {fuel count last : Nat}
    (within : count ≤ last ∧ last < count + fuel)
    (found : ∃ digits, decimal? rank k last = some digits) :
    ∃ digits many, searchDecimal rank k fuel count = (digits, many) ∧
      decimal? rank k many = some digits ∧ count ≤ many ∧
      ∀ fewer, count ≤ fewer → fewer < many → decimal? rank k fewer = none := by
  induction fuel generalizing count with
  | zero => omega
  | succ fuel ih =>
      rw [searchDecimal]
      split
      · exact ⟨_, count, rfl, ‹_›, Nat.le_refl _, fun fewer _ _ => by omega⟩
      · rename_i nothing
        have later : count + 1 ≤ last := by
          rcases Nat.eq_or_lt_of_le within.1 with rfl | more
          · obtain ⟨digits, found⟩ := found
            rw [nothing] at found
            cases found
          · exact more
        obtain ⟨digits, many, searched, here, least, before⟩ := ih ⟨later, by omega⟩
        refine ⟨digits, many, searched, here, by omega, fun fewer first less => ?_⟩
        rcases Nat.eq_or_lt_of_le first with rfl | more
        · exact nothing
        · exact before fewer more less

/-- A number that rounds to the double of a positive rank has, on every grid that is not
coarser, a point between it and the double. -/
theorem exists_between {rank : Nat} {k : Int} {count digits : Nat} {power : Int}
    (least : 10 ^ (k - 1) * (unitsPerOne : ℚ) ≤ units rank) (nonzero : 0 < digits)
    (fine : digitCount digits ≤ count) :
    ∃ point, decimalUnits digits power ≤ gridUnits k count point ∧
        gridUnits k count point ≤ units rank ∨
      (units rank : ℚ) ≤ gridUnits k count point ∧
        gridUnits k count point ≤ decimalUnits digits power := by
  obtain ⟨-, most⟩ := decimalUnits_bounds nonzero power
  obtain ⟨-, -, some_digit⟩ := digitCount_spec nonzero
  rcases lt_or_ge (digitCount digits + power) k with smaller | larger
  · -- The decimal is below the power of ten that is not above the double.
    refine ⟨10 ^ (count - 1), .inl ?_⟩
    have point : gridUnits k count (10 ^ (count - 1)) = 10 ^ (k - 1) * unitsPerOne := by
      rw [gridUnits, decimalUnits, Nat.cast_pow, Nat.cast_ofNat, ← zpow_natCast,
        ← zpow_add₀ (by norm_num)]
      congr 2
      omega
    rw [point]
    refine ⟨most.le.trans ?_, least⟩
    exact mul_le_mul_of_nonneg_right (zpow_le_zpow_right₀ (by norm_num) (by omega))
      cast_unitsPerOne_pos.le
  · -- The decimal is on the grid.
    have point : gridUnits k count (digits * 10 ^ (power - (k - count)).toNat) =
        decimalUnits digits power := by
      rw [gridUnits, decimalUnits_mul_pow]
      congr 1
      omega
    refine ⟨digits * 10 ^ (power - (k - count)).toNat, ?_⟩
    rw [point]
    rcases le_total (decimalUnits digits power) (units rank) with below | above
    · exact .inl ⟨le_refl _, below⟩
    · exact .inr ⟨above, le_refl _⟩

/-- A decimal that rounds to a double, of the fewest digits and the closest of those. -/
structure IsShortest (rank digits : Nat) (power : Int) : Prop where
  rounds : RoundsTo rank (decimalUnits digits power)
  fewest : ∀ others otherPower, RoundsTo rank (decimalUnits others otherPower) →
    digitCount digits ≤ digitCount others
  closest : ∀ others otherPower, RoundsTo rank (decimalUnits others otherPower) →
    digitCount others ≤ digitCount digits →
      |decimalUnits digits power - units rank| ≤ |decimalUnits others otherPower - units rank|

/-- A point of the grid of the first number of digits for which the search finds one is a
shortest decimal. -/
theorem isShortest_of_grid {rank count point digits zeros : Nat} (positive : 0 < rank)
    (found : decimal? rank (decimalExponent (units rank)) count = some point)
    (first : ∀ fewer, 1 ≤ fewer → fewer < count →
      decimal? rank (decimalExponent (units rank)) fewer = none)
    (same : point = digits * 10 ^ zeros) (few : digitCount digits ≤ count) :
    IsShortest rank digits (decimalExponent (units rank) - count + zeros) := by
  have some_units : 0 < units rank := Nat.lt_of_le_of_lt (Nat.zero_le _) (units_strictMono positive)
  obtain ⟨least, -⟩ := decimalExponent_spec some_units
  obtain ⟨rounds, closest⟩ := decimal?_some positive found
  generalize decimalExponent (units rank) = k at *
  have onGrid : decimalUnits digits (k - count + zeros) = gridUnits k count point := by
    rw [gridUnits, same, decimalUnits_mul_pow]
  refine ⟨onGrid ▸ rounds, ?_, ?_⟩
  · intro others power otherRounds
    have nonzero := digits_pos positive otherRounds
    obtain ⟨-, -, some_digit⟩ := digitCount_spec nonzero
    by_contra fewer
    obtain ⟨other, between⟩ := exists_between least nonzero (Nat.le_refl (digitCount others))
    exact decimal?_none positive (first _ some_digit (by omega)) other
      (otherRounds.of_between between positive)
  · intro others power otherRounds noMore
    obtain ⟨other, between⟩ :=
      exists_between least (digits_pos positive otherRounds) (noMore.trans few)
    rw [onGrid]
    refine (closest other (otherRounds.of_between between positive)).trans ?_
    rcases between with ⟨low, high⟩ | ⟨low, high⟩
    · rw [abs_of_nonpos (by linarith), abs_of_nonpos (by linarith)]
      linarith
    · rw [abs_of_nonneg (by linarith), abs_of_nonneg (by linarith)]
      linarith

theorem digitCount_le_of_lt {n count : Nat} (below : n < 10 ^ count) : digitCount n ≤ count := by
  rcases Nat.eq_zero_or_pos n with rfl | positive
  · exact Nat.zero_le count
  · obtain ⟨least, -, -⟩ := digitCount_spec positive
    by_contra more
    have : 10 ^ count ≤ 10 ^ (digitCount n - 1) := Nat.pow_le_pow_right (by decide) (by omega)
    omega

/-- The points that the search finds have no more digits than the grid, apart from zeros. -/
theorem digitCount_of_found {rank count point digits zeros : Nat} (positive : 0 < rank)
    (some_count : 1 ≤ count)
    (found : decimal? rank (decimalExponent (units rank)) count = some point)
    (same : point = digits * 10 ^ zeros) (reduced : digits % 10 ≠ 0) :
    digitCount digits ≤ count := by
  have some_units : 0 < units rank := Nat.lt_of_le_of_lt (Nat.zero_le _) (units_strictMono positive)
  obtain ⟨-, most⟩ := decimalExponent_spec some_units
  obtain ⟨lower, low, -, tried⟩ := tried_decimal? rank (decimalExponent (units rank)) count
  rw [found] at tried
  generalize decimalExponent (units rank) = k at *
  have power : gridUnits k count (10 ^ count) = 10 ^ k * unitsPerOne := by
    rw [gridUnits, ← Nat.one_mul (10 ^ count), decimalUnits_mul_pow, decimalUnits, Nat.cast_one,
      one_mul]
    congr 2
    omega
  have below : lower < 10 ^ count := by
    rw [← not_le, ← gridUnits_le k count, not_le, power]
    exact low.trans_lt most
  have atMost : point ≤ 10 ^ count := by
    cases tried with
    | lower => omega
    | upper => omega
  rcases Nat.eq_or_lt_of_le atMost with full | less
  · -- Ten does not divide the digits of a power of ten, so they are a single one.
    rw [eq_one_of_pow reduced (same.symm.trans full)]
    exact some_count
  · have fewer : digits ≤ point := by
      rw [same]
      exact Nat.le_mul_of_pos_right _ (Nat.pow_pos (by decide))
    exact digitCount_le_of_lt (Nat.lt_of_le_of_lt fewer less)

/-- **The digits that are written for a double are those of its shortest decimal.** -/
theorem shortest_spec {rank : Nat} (positive : 0 < rank) :
    ∃ digits power, digits % 10 ≠ 0 ∧ IsShortest rank digits power ∧
      shortest rank = (Nat.toDigits 10 digits, power + digitCount digits) := by
  obtain ⟨point, count, searched, found, some_count, first⟩ :=
    searchDecimal_spec (by omega : 1 ≤ 17 ∧ 17 < 1 + 17) (exists_decimal? positive)
  have nonzero : 0 < point := digits_pos positive (decimal?_some positive found).1
  obtain ⟨digits, zeros, reduced, same⟩ := exists_reduced nonzero
  refine ⟨digits, _, reduced, isShortest_of_grid positive found first same
    (digitCount_of_found positive some_count found same reduced), ?_⟩
  have some_digits : 0 < digits := by omega
  rw [shortest, searched]
  simp only
  rw [same, toDigits_mul_pow some_digits, dropZeros_append (getLast_toDigits reduced),
    List.length_append, List.length_replicate, digitCount, if_neg (Nat.ne_of_gt some_digits)]
  generalize decimalExponent (units rank) = k
  refine Prod.ext rfl ?_
  push_cast
  ring

end Binary64
end LineCensus
