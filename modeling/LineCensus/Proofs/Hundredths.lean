/-
# Proofs.Hundredths -- numbers that are rounded to two places, and their texts

A double is rounded to the closest number of hundredths, and then to the closest double.  What is
written for this double is the number of hundredths again, if it has at most fifteen digits: a
decimal that long is closer to its double than to any other decimal of that length.

* `le_roundQuotient_iff`: from where on a quotient is rounded up.
* `Binary64.decimalUnits_unique`: a double has one decimal of at most fifteen digits.
* `Binary64.decimalOf?_text_of_rounds`: this is the one that is written.
* `Binary64.ofInt?_spec`: the double of a whole number.
* `Binary64.rounded_averagePlaces`, `Binary64.decimalOf?_text_hundredths`: rounding, and what is
  written then.
-/
import LineCensus.Measure.Ratio
import LineCensus.Proofs.Numerals

set_option autoImplicit false

namespace LineCensus

/-! ## Quotients to the closest whole number -/

theorem le_roundQuotient {n numerator denominator : Nat} (positive : 0 < denominator)
    (below : n * denominator ≤ numerator) : n ≤ roundQuotient numerator denominator := by
  have quotient : n ≤ numerator / denominator := (Nat.le_div_iff_mul_le positive).2 below
  simp only [roundQuotient]
  repeat' split
  all_goals omega

/-- A quotient is rounded to an even number or beyond from half of one below it on. -/
theorem le_roundQuotient_iff {n numerator denominator : Nat} (positive : 0 < denominator)
    (even : n % 2 = 0) :
    n ≤ roundQuotient numerator denominator ↔
      2 * n * denominator ≤ 2 * numerator + denominator := by
  obtain ⟨quotient, rest, small, rfl⟩ :
      ∃ quotient rest, rest < denominator ∧ numerator = denominator * quotient + rest :=
    ⟨_, _, Nat.mod_lt numerator positive, (Nat.div_add_mod numerator denominator).symm⟩
  have divides : (denominator * quotient + rest) / denominator = quotient := by
    rw [Nat.mul_add_div positive, Nat.div_eq_of_lt small, Nat.add_zero]
  have leaves : (denominator * quotient + rest) % denominator = rest := by
    rw [Nat.mul_add_mod, Nat.mod_eq_of_lt small]
  simp only [roundQuotient, divides, leaves]
  rw [Nat.mul_comm denominator, Nat.mul_assoc]
  rcases Nat.lt_trichotomy n (quotient + 1) with below | rfl | above
  · have products : n * denominator ≤ quotient * denominator :=
      Nat.mul_le_mul_right _ (Nat.le_of_lt_succ below)
    refine iff_of_true ?_ (by omega)
    repeat' split
    all_goals omega
  · rw [Nat.add_mul, Nat.one_mul]
    repeat' split
    all_goals omega
  · have products : (quotient + 2) * denominator ≤ n * denominator :=
      Nat.mul_le_mul_right _ above
    rw [Nat.add_mul] at products
    refine iff_of_false ?_ (by omega)
    repeat' split
    all_goals omega

/-- Only the ratio of the two numbers counts. -/
theorem roundQuotient_mul_mul (numerator denominator : Nat) {factor : Nat} (positive : 0 < factor) :
    roundQuotient (numerator * factor) (denominator * factor) =
      roundQuotient numerator denominator := by
  have quotient : numerator * factor / (denominator * factor) = numerator / denominator :=
    Nat.mul_div_mul_right _ _ positive
  have rest : 2 * (numerator * factor % (denominator * factor)) =
      2 * (numerator % denominator) * factor := by
    rw [Nat.mul_mod_mul_right, Nat.mul_assoc]
  simp only [roundQuotient, quotient, rest, Nat.mul_lt_mul_right positive]

namespace Binary64

/-! ## Decimals of few digits -/

/-- The double above a normal double is at most 2⁻⁵² of it away. -/
theorem units_succ_le {rank : Nat} (normal : twoTo 52 ≤ rank) :
    units (rank + 1) * twoTo 52 ≤ units rank * (twoTo 52 + 1) := by
  obtain ⟨shift, bits, least, most, rfl⟩ := exists_shift normal
  rw [Nat.add_assoc, units_shift shift least (Nat.le_of_lt most),
    units_shift shift (Nat.le_succ_of_le least) most, Nat.mul_right_comm, Nat.mul_right_comm bits]
  refine Nat.mul_le_mul_right _ ?_
  rw [Nat.succ_mul, Nat.mul_add]
  omega

/-- Numbers that round to one double differ by at most 2⁻⁵² of it. -/
theorem RoundsTo.sub_le {rank : Nat} {value other : ℚ} (normal : twoTo 52 < rank)
    (rounds : RoundsTo rank value) (otherRounds : RoundsTo rank other) :
    (value - other) * twoTo 52 ≤ units rank := by
  have next : (units (rank + 1) * twoTo 52 : ℚ) ≤ units rank * (twoTo 52 + 1) := by
    exact_mod_cast units_succ_le (Nat.le_of_lt normal)
  have before : (units rank * twoTo 52 : ℚ) ≤ units (rank - 1) * (twoTo 52 + 1) := by
    have below := units_succ_le (Nat.le_sub_one_of_lt normal)
    rw [Nat.sub_add_cancel (Nat.one_le_of_lt normal)] at below
    exact_mod_cast below
  have increasing : (units (rank - 1) : ℚ) ≤ units rank :=
    Nat.cast_le.2 (units_strictMono.monotone (Nat.sub_le rank 1))
  have scale : (0 : ℚ) < twoTo 52 := Nat.cast_pos.2 (twoTo_pos 52)
  have top := mul_le_mul_of_nonneg_right rounds.le_top scale.le
  have bottom := mul_le_mul_of_nonneg_right otherRounds.bottom_le scale.le
  generalize (twoTo 52 : ℚ) = precision at *
  linarith

/-- **Decimals of less than 51 bits that round to one double are equal.** -/
theorem decimalUnits_unique {rank digits others : Nat} {power otherPower : Int}
    (normal : twoTo 52 < rank) (few : digits < twoTo 51) (fewOthers : others < twoTo 51)
    (rounds : RoundsTo rank (decimalUnits digits power))
    (otherRounds : RoundsTo rank (decimalUnits others otherPower)) :
    decimalUnits digits power = decimalUnits others otherPower := by
  wlog order : otherPower ≤ power
  · exact (this normal fewOthers few otherRounds rounds (by omega)).symm
  -- On the scale of the smaller power both are whole, and two whole numbers of this scale are too
  -- far apart to round to one double.
  obtain ⟨zeros, rfl⟩ : ∃ zeros : Nat, power = otherPower + zeros :=
    ⟨(power - otherPower).toNat, by omega⟩
  rw [← decimalUnits_mul_pow] at rounds ⊢
  generalize digits * 10 ^ zeros = padded at *
  have close := rounds.sub_le normal otherRounds
  have close' := otherRounds.sub_le normal rounds
  have bottom := otherRounds.bottom_le
  have before : (0 : ℚ) ≤ units (rank - 1) := Nat.cast_nonneg _
  simp only [decimalUnits, mul_assoc] at *
  have some_step : (0 : ℚ) < 10 ^ otherPower * unitsPerOne :=
    mul_pos (zpow_pos (by norm_num) _) cast_unitsPerOne_pos
  generalize (10 : ℚ) ^ otherPower * unitsPerOne = step at *
  have fine : 2 * (others * step) < step * twoTo 52 := by
    have double : twoTo 52 = 2 * twoTo 51 := Nat.pow_succ'
    have fewer : (2 * others : ℚ) < twoTo 52 := by exact_mod_cast (by omega : 2 * others < twoTo 52)
    nlinarith
  have apart {low high : Nat} (less : low < high) :
      step * twoTo 52 ≤ (high * step - low * step) * twoTo 52 := by
    have one : (low : ℚ) + 1 ≤ high := by exact_mod_cast less
    refine mul_le_mul_of_nonneg_right ?_ (Nat.cast_nonneg _)
    nlinarith
  rcases Nat.lt_trichotomy padded others with less | rfl | more
  · linarith [apart less]
  · rfl
  · linarith [apart more]

/-- The text of a finite double that is not negative is a decimal that rounds to it, of the
fewest digits. -/
theorem exists_decimalOf?_text {rank : Nat} (finite : rank < infiniteRank) :
    ∃ digits zeros : Nat, ∃ power : Int,
      decimalOf? (text (.signed false rank)).toList = some (digits * 10 ^ zeros, power - zeros) ∧
      IsShortest rank digits power := by
  obtain ⟨numeral, digits, power, written, writes, isShortest⟩ := text_spec false finite
  obtain ⟨zeros, value, scale⟩ := writes.value
  refine ⟨digits, zeros, power, ?_, isShortest⟩
  rw [written, show (signText false).toList = [] from rfl, List.nil_append,
    Numeral.decimalOf?_text writes.proper, value, scale]

/-- **A double that a decimal of at most fifteen digits rounds to is written as this decimal.** -/
theorem decimalOf?_text_of_rounds {rank digits : Nat} {power : Int} (normal : twoTo 52 < rank)
    (finite : rank < infiniteRank) (few : digits < 10 ^ 15)
    (rounds : RoundsTo rank (decimalUnits digits power)) :
    ∃ (written : Nat) (otherPower : Int),
      decimalOf? (text (.signed false rank)).toList = some (written, otherPower) ∧
      (written * 10 ^ otherPower : ℚ) = digits * 10 ^ power := by
  obtain ⟨shortest, zeros, otherPower, read, isShortest⟩ := exists_decimalOf?_text finite
  refine ⟨_, _, read, ?_⟩
  have bits : 10 ^ 15 < twoTo 51 := by decide
  have fewest : digitCount shortest ≤ 15 :=
    (isShortest.fewest digits power rounds).trans (digitCount_le_of_lt few)
  have fewer : shortest < 10 ^ 15 := by
    rcases Nat.eq_zero_or_pos shortest with rfl | positive
    · decide
    · exact (digitCount_spec positive).2.1.trans_le (Nat.pow_le_pow_right (by decide) fewest)
  have same :=
    decimalUnits_unique normal (fewer.trans bits) (few.trans bits) isShortest.rounds rounds
  rw [show otherPower = otherPower - zeros + zeros by omega, ← decimalUnits_mul_pow] at same
  exact mul_right_cancel₀ cast_unitsPerOne_pos.ne' same

/-! ## Doubles of whole numbers -/

/-- A double that is not above a fraction is not above what the fraction is rounded to. -/
theorem le_nearestRank {rank numerator denominator : Nat} (positive : 0 < denominator)
    (below : units rank * denominator ≤ numerator) : rank ≤ nearestRank numerator denominator := by
  have here : units rank ≤ numerator / denominator := (Nat.le_div_iff_mul_le positive).2 below
  have next := (floorRank_spec (numerator / denominator)).2
  have least : rank < floorRank (numerator / denominator) + 1 :=
    units_strictMono.lt_iff_lt.1 (here.trans_lt next)
  simp only [nearestRank]
  repeat' split
  all_goals omega

/-- A whole number of 53 bits is a double. -/
theorem exists_units {n : Nat} (positive : 0 < n) (short : n < twoTo 53) :
    ∃ rank, twoTo 52 ≤ rank ∧ units rank = n * unitsPerOne := by
  have nonzero : n ≠ 0 := Nat.ne_of_gt positive
  have log : Nat.log2 n < 53 := (Nat.log2_lt nonzero).2 short
  have least : twoTo 52 ≤ n * twoTo (52 - Nat.log2 n) := by
    calc twoTo 52 = twoTo (Nat.log2 n) * twoTo (52 - Nat.log2 n) := by
          rw [← twoTo_add]
          congr 1
          omega
      _ ≤ n * twoTo (52 - Nat.log2 n) := Nat.mul_le_mul_right _ (Nat.log2_self_le nonzero)
  have most : n * twoTo (52 - Nat.log2 n) ≤ twoTo 53 := by
    calc n * twoTo (52 - Nat.log2 n)
        ≤ twoTo (Nat.log2 n + 1) * twoTo (52 - Nat.log2 n) :=
          Nat.mul_le_mul_right _ (Nat.le_of_lt Nat.lt_log2_self)
      _ = twoTo 53 := by
          rw [← twoTo_add]
          congr 1
          omega
  refine ⟨(1022 + Nat.log2 n) * twoTo 52 + n * twoTo (52 - Nat.log2 n),
    least.trans (Nat.le_add_left _ _), ?_⟩
  rw [units_shift _ least most, Nat.mul_assoc, ← twoTo_add, unitsPerOne]
  congr 2
  omega

theorem nearestRank_zero : nearestRank 0 1 = 0 := by
  decide +kernel

/-- Up to 2⁵³ the double of a whole number is the number itself. -/
theorem units_nearestRank {n : Nat} (short : n < twoTo 53) :
    units (nearestRank (n * unitsPerOne) 1) = n * unitsPerOne := by
  rcases Nat.eq_zero_or_pos n with rfl | positive
  · rw [Nat.zero_mul, nearestRank_zero, units_zero]
  · obtain ⟨rank, normal, whole⟩ := exists_units positive short
    have itself := nearestRank_units normal Nat.one_pos
    rw [Nat.mul_one, whole] at itself
    rw [itself, whole]

theorem units_twoTo_53 : units (1076 * twoTo 52) = twoTo 53 * unitsPerOne := by
  decide +kernel

theorem units_nearestRank_ge {n : Nat} (long : twoTo 53 ≤ n) :
    twoTo 53 * unitsPerOne ≤ units (nearestRank (n * unitsPerOne) 1) := by
  rw [← units_twoTo_53]
  refine units_strictMono.monotone (le_nearestRank Nat.one_pos ?_)
  rw [units_twoTo_53, Nat.mul_one]
  exact Nat.mul_le_mul_right _ long

/-- The double of a whole number: up to 2⁵³ the number itself, and not less beyond. -/
theorem ofInt?_spec {n : Nat} (fits : n < firstTooLarge) :
    ∃ rank, ofInt? n = some (.signed false rank) ∧ rank < infiniteRank ∧
      (n < twoTo 53 → units rank = n * unitsPerOne) ∧
      (twoTo 53 ≤ n → twoTo 53 * unitsPerOne ≤ units rank) := by
  obtain ⟨x, number⟩ := Option.isSome_iff_exists.1 ((ofInt?_isSome_iff n).2 fits)
  have sign : decide ((n : Int) < 0) = false := decide_eq_false (by omega)
  simp only [ofInt?, sign, Int.natAbs_natCast] at number
  split at number
  · rename_i finite
    cases number
    simp only [ofUnits, isFinite, decide_eq_true_eq] at finite
    have small : nearestRank (n * unitsPerOne) 1 < infiniteRank := by omega
    refine ⟨nearestRank (n * unitsPerOne) 1, ?_, small, units_nearestRank, units_nearestRank_ge⟩
    simp only [ofInt?, sign, Int.natAbs_natCast, ofUnits, Nat.min_eq_left (Nat.le_of_lt small),
      isFinite, small, decide_true, if_true]
  · cases number

theorem compareUnits_finite {rank : Nat} (finite : rank < infiniteRank) (n : Int) :
    compareUnits (.signed false rank) n = some (compare (units rank : Int) n) := by
  rw [compareUnits, if_neg (Nat.not_le_of_lt finite)]
  rfl

theorem atLeast_of_compareInt {x : Binary64} {n value bound : Int}
    (order : x.compareInt n = some (compare value bound)) : x.atLeast n = true ↔ bound ≤ value := by
  rw [atLeast, order]
  rcases lt_trichotomy value bound with less | rfl | more
  · simp [compare_lt_iff_lt.2 less, less]
  · simp
  · simp [compare_gt_iff_gt.2 more, more.le]

theorem atLeast_iff {rank : Nat} (finite : rank < infiniteRank) (n : Nat) :
    (signed false rank).atLeast n = true ↔ n * unitsPerOne ≤ units rank := by
  have order : compareInt (.signed false rank) n =
      some (compare (units rank : Int) ((n * unitsPerOne : Nat) : Int)) := by
    rw [compareInt, compareUnits_finite finite, Nat.cast_mul]
  rw [atLeast_of_compareInt order, Nat.cast_le]

/-! ## Rounding to two places -/

/-- What a finite double is rounded to, as the double closest to so many hundredths. -/
theorem rounded_averagePlaces {rank : Nat} (finite : rank < infiniteRank) :
    ∃ near, rounded averagePlaces (.signed false rank) = .ok (.signed false near) ∧
      near < infiniteRank ∧
      near = nearestRank (roundQuotient (units rank * 100) unitsPerOne * unitsPerOne) 100 := by
  have isFinite := isFinite_rounded false finite (by decide : 0 < 100)
  have inRange : ¬ (infiniteRank ≤ rank ∨ lastPlace < averagePlaces) :=
    not_or.2 ⟨Nat.not_le_of_lt finite, by decide⟩
  have notBelow : ¬ averagePlaces < firstPlace := by decide
  have decimal : 0 ≤ averagePlaces := by decide
  have hundred : tenTo averagePlaces.natAbs = 100 := rfl
  simp only [rounded, roundPlaces, if_neg inRange, if_neg notBelow, if_pos decimal, hundred,
    if_pos isFinite]
  generalize roundQuotient (units rank * 100) unitsPerOne * unitsPerOne = numerator at *
  have small : nearestRank numerator 100 < infiniteRank := by
    simp only [ofUnits, Binary64.isFinite, decide_eq_true_eq] at isFinite
    omega
  exact ⟨_, by rw [ofUnits, Nat.min_eq_left (Nat.le_of_lt small)], small, rfl⟩

/-- A number of hundredths has a normal double. -/
theorem normal_hundredths {hundredths : Nat} (positive : 0 < hundredths) :
    twoTo 52 < nearestRank (hundredths * unitsPerOne) 100 := by
  have small : units (1015 * twoTo 52) * 100 ≤ unitsPerOne := by decide +kernel
  have normal : twoTo 52 < 1015 * twoTo 52 := by decide +kernel
  refine Nat.lt_of_lt_of_le normal (le_nearestRank (by decide) ?_)
  exact Nat.le_trans small (Nat.le_mul_of_pos_left _ positive)

/-- Hundredths are a decimal with two places. -/
theorem hundredths_units (hundredths : Nat) :
    ((hundredths * unitsPerOne : Nat) / (100 : Nat) : ℚ) = decimalUnits hundredths (-2) := by
  rw [decimalUnits, Nat.cast_mul, show (10 : ℚ) ^ (-2 : Int) = 1 / 100 by norm_num]
  push_cast
  ring

/-- Hundredths of at most fifteen digits are written as they are. -/
theorem decimalOf?_text_hundredths {hundredths : Nat} (few : hundredths < 10 ^ 15)
    (finite : nearestRank (hundredths * unitsPerOne) 100 < infiniteRank) :
    ∃ (written : Nat) (power : Int),
      decimalOf? (text (.signed false (nearestRank (hundredths * unitsPerOne) 100))).toList =
        some (written, power) ∧
      (written * 10 ^ power : ℚ) = hundredths / 100 := by
  rcases Nat.eq_zero_or_pos hundredths with rfl | positive
  · refine ⟨0, -1, ?_, by norm_num⟩
    rw [Nat.zero_mul]
    decide +kernel
  · have normal := normal_hundredths positive
    have rounds := (nearestRank_eq_iff (Nat.lt_trans (twoTo_pos 52) normal) (by decide)).1
      (Eq.refl (nearestRank (hundredths * unitsPerOne) 100))
    rw [hundredths_units] at rounds
    obtain ⟨written, power, read, value⟩ := decimalOf?_text_of_rounds normal finite few rounds
    refine ⟨written, power, read, ?_⟩
    rw [value]
    norm_num
    ring

theorem units_one : units (1023 * twoTo 52) = unitsPerOne := by
  decide +kernel

theorem one_le_units {rank : Nat} (least : 1023 * twoTo 52 ≤ rank) :
    (unitsPerOne : ℚ) ≤ units rank := by
  rw [← units_one]
  exact Nat.cast_le.2 (units_strictMono.monotone least)

/-- The text of two or more tells a number that is not below one. -/
theorem exists_text_one_le {hundredths : Nat} (large : 200 ≤ hundredths)
    (finite : nearestRank (hundredths * unitsPerOne) 100 < infiniteRank) :
    ∃ (written : Nat) (power : Int),
      decimalOf? (text (.signed false (nearestRank (hundredths * unitsPerOne) 100))).toList =
        some (written, power) ∧
      (1 : ℚ) ≤ written * 10 ^ power := by
  have above_one : 1023 * twoTo 52 + 1 ≤ nearestRank (hundredths * unitsPerOne) 100 := by
    have next : units (1023 * twoTo 52 + 1) * 100 ≤ 200 * unitsPerOne := by decide +kernel
    exact le_nearestRank (by decide) (next.trans (Nat.mul_le_mul_right _ large))
  generalize nearestRank (hundredths * unitsPerOne) 100 = rank at *
  obtain ⟨digits, zeros, power, read, isShortest⟩ := exists_decimalOf?_text finite
  refine ⟨_, _, read, ?_⟩
  have one : (unitsPerOne : ℚ) ≤ decimalUnits (digits * 10 ^ zeros) (power - zeros) := by
    rw [decimalUnits_mul_pow, sub_add_cancel]
    linarith [isShortest.rounds.bottom_le, one_le_units (Nat.le_sub_one_of_lt above_one),
      one_le_units (Nat.le_of_lt above_one)]
  rw [decimalUnits] at one
  exact (le_mul_iff_one_le_left cast_unitsPerOne_pos).1 one

end Binary64
end LineCensus
