/-
# Proofs.Scaling -- sizes in words

A size is divided by 1024 while it has four digits in that base, and only then rounded to two
places.  Up to 2⁵³ the divisions are exact, so the number that is written is the size over a power
of 1024, rounded once (`Tells.number_eq`).  The unit is chosen before the rounding, so a size that
is half of a hundredth or less below the next unit is written as 1024 of the unit below it
(`RoundsOver`).

* `scaleSize_spec`: the divisions, by induction on the units above.
* `roundsOver_iff`: the sizes that are rounded over.
* `size_in_words`: the number and the unit for every size.
* `not_every_size_below_1024`: a size that is rounded over.
-/
import LineCensus.Listing.Size
import LineCensus.Proofs.Hundredths
import LineCensus.Proofs.Paths

set_option autoImplicit false

namespace LineCensus

/-! ## Dividing by 1024 -/

namespace Binary64

theorem kibibyteReal_eq : kibibyteReal = .signed false (1033 * twoTo 52) := by
  decide +kernel

theorem units_kibibyte : units (1033 * twoTo 52) = 1024 * unitsPerOne := by
  decide +kernel

/-- To divide a double that is not small by 1024 loses nothing. -/
theorem div_kibibyte {rank : Nat} (finite : rank < infiniteRank)
    (large : 1024 * unitsPerOne ≤ units rank) :
    ∃ scaled, (signed false rank).div kibibyteReal = .signed false scaled ∧
      scaled < infiniteRank ∧ units scaled * 1024 = units rank := by
  have least : 1033 * twoTo 52 ≤ rank := by
    rwa [← units_kibibyte, units_strictMono.le_iff_le] at large
  obtain ⟨shift, bits, leastBits, mostBits, rfl⟩ := exists_shift
    (Nat.le_trans (Nat.le_mul_of_pos_left _ (by decide)) least)
  -- The fraction stays, and the exponent becomes ten less.
  obtain ⟨lower, rfl⟩ : ∃ lower, shift = lower + 10 := by
    refine ⟨shift - 10, ?_⟩
    have double := twoTo_53
    by_contra low
    have few : shift * twoTo 52 ≤ 9 * twoTo 52 := Nat.mul_le_mul_right _ (by omega)
    omega
  have before : lower * twoTo 52 + bits ≤ (lower + 10) * twoTo 52 + bits := by
    rw [Nat.add_mul]
    omega
  have exact_units : units (lower * twoTo 52 + bits) * 1024 =
      units ((lower + 10) * twoTo 52 + bits) := by
    rw [units_shift lower leastBits (Nat.le_of_lt mostBits),
      units_shift (lower + 10) leastBits (Nat.le_of_lt mostBits), twoTo_add, Nat.mul_assoc]
    rfl
  have small : lower * twoTo 52 + bits < infiniteRank := Nat.lt_of_le_of_lt before finite
  refine ⟨lower * twoTo 52 + bits, ?_, small, exact_units⟩
  have some_units : 0 < 1024 * unitsPerOne := Nat.mul_pos (by decide) (twoTo_pos 1074)
  have nearest : nearestRank (units ((lower + 10) * twoTo 52 + bits) * unitsPerOne)
      (1024 * unitsPerOne) = lower * twoTo 52 + bits := by
    rw [← exact_units, Nat.mul_assoc]
    exact nearestRank_units (Nat.le_trans leastBits (Nat.le_add_left _ _)) some_units
  have one_finite : ¬ infiniteRank ≤ 1033 * twoTo 52 := by decide +kernel
  have one_some : 1033 * twoTo 52 ≠ 0 := by decide +kernel
  rw [kibibyteReal_eq, div, if_neg (Nat.not_le_of_lt finite), if_neg one_finite, if_neg one_some,
    units_kibibyte, ofUnits, nearest, Nat.min_eq_left (Nat.le_of_lt small)]
  rfl

end Binary64

/-! ## Scaling -/

/-- What the divisions make of a double: it is divided once for each unit that is passed over,
until it has less than four digits or no unit is left. -/
structure IsScaled (rank : Nat) (units : List String) (steps scaled : Nat) (unit : String) :
    Prop where
  unit : units[steps]? = some unit
  finite : scaled < Binary64.infiniteRank
  divided : Binary64.units scaled * 1024 ^ steps = Binary64.units rank
  least : 0 < steps → Binary64.unitsPerOne ≤ Binary64.units scaled
  most : steps + 1 < units.length → Binary64.units scaled < 1024 * Binary64.unitsPerOne

/-- A double of less than four digits is left as it is, and so is one without units above. -/
theorem IsScaled.unscaled (unit : String) {above : List String} {rank : Nat}
    (finite : rank < Binary64.infiniteRank)
    (small : above = [] ∨ Binary64.units rank < 1024 * Binary64.unitsPerOne) :
    IsScaled rank (unit :: above) 0 rank unit where
  unit := rfl
  finite := finite
  divided := Nat.mul_one _
  least none := absurd none (Nat.lt_irrefl 0)
  most more := small.resolve_left fun empty => by simp [empty] at more

/-- One more division before the others. -/
theorem IsScaled.cons {unit chosen : String} {above : List String} {rank first steps scaled : Nat}
    (isScaled : IsScaled first above steps scaled chosen)
    (large : 1024 * Binary64.unitsPerOne ≤ Binary64.units rank)
    (divided : Binary64.units first * 1024 = Binary64.units rank) :
    IsScaled rank (unit :: above) (steps + 1) scaled chosen where
  unit := isScaled.unit
  finite := isScaled.finite
  divided := by rw [Nat.pow_succ, ← Nat.mul_assoc, isScaled.divided, divided]
  least _ := by
    rcases Nat.eq_zero_or_pos steps with rfl | more
    · have same := isScaled.divided
      rw [Nat.pow_zero, Nat.mul_one] at same
      rw [same]
      rw [← divided, Nat.mul_comm] at large
      exact Nat.le_of_mul_le_mul_right large (by decide)
    · exact isScaled.least more
  most more := isScaled.most (Nat.lt_of_succ_lt_succ more)

/-- **Scaling divides without loss, and as often as it should.** -/
theorem scaleSize_spec (unit : String) (above : List String) {rank : Nat}
    (finite : rank < Binary64.infiniteRank) :
    ∃ steps scaled chosen,
      scaleSize (.signed false rank) unit above = (.signed false scaled, chosen) ∧
      IsScaled rank (unit :: above) steps scaled chosen := by
  induction above generalizing rank unit with
  | nil => exact ⟨0, rank, unit, rfl, .unscaled unit finite (.inl rfl)⟩
  | cons next above ih =>
      have digits := Binary64.atLeast_iff finite 1024
      rw [scaleSize]
      split
      · rename_i four
        have large := digits.1 four
        obtain ⟨first, divides, firstFinite, divided⟩ := Binary64.div_kibibyte finite large
        obtain ⟨steps, scaled, chosen, scales, isScaled⟩ := ih next firstFinite
        rw [divides]
        exact ⟨steps + 1, scaled, chosen, scales, isScaled.cons large divided⟩
      · rename_i less
        have small := Nat.lt_of_not_le (mt digits.2 less)
        exact ⟨0, rank, unit, rfl, .unscaled unit finite (.inr small)⟩

/-! ## Sizes in words -/

/-- The units, the smallest first. -/
def sizeUnits : List String := "B" :: unitsAbove

/-- How many units a size passes over. -/
def unitsPassed (size : Nat) : Nat := min (Nat.log 1024 size) 4

/-- The number and the unit that words tell. -/
def readSize? (words : String) : Option (ℚ × String) :=
  let (before, unit) := Text.splitAfterLast ' ' words.toList
  (Binary64.decimalOf? before.dropLast).map fun (digits, power) =>
    (digits * 10 ^ power, String.ofList unit)

/-- A size that is half of a hundredth or less below the next unit: at least 1023.995 of the `k`-th
unit above the smallest, and less than 1024. -/
def RoundsOver (size : Nat) : Prop :=
  ∃ k, 1 ≤ k ∧ k ≤ 3 ∧ 204799 * 1024 ^ k ≤ 200 * size ∧ size < 1024 ^ (k + 1)

/-- The sizes that are rounded over are three bands. -/
theorem roundsOver_iff {size : Nat} :
    RoundsOver size ↔ 1048571 ≤ size ∧ size ≤ 1048575 ∨
      1073736582 ≤ size ∧ size ≤ 1073741823 ∨ 1099506259067 ≤ size ∧ size ≤ 1099511627775 := by
  constructor
  · rintro ⟨k, some_k, most, above, below⟩
    obtain rfl | rfl | rfl : k = 1 ∨ k = 2 ∨ k = 3 := by omega
    all_goals omega
  · rintro (band | band | band)
    · exact ⟨1, by omega, by omega, by omega, by omega⟩
    · exact ⟨2, by omega, by omega, by omega, by omega⟩
    · exact ⟨3, by omega, by omega, by omega, by omega⟩

/-- What the words for a size tell. -/
structure Tells (size : Nat) (number : ℚ) (unit : String) : Prop where
  unit_eq : sizeUnits[unitsPassed size]? = some unit
  /-- The number is the size in this unit, rounded to hundredths. -/
  number_eq : size < 2 ^ 53 →
    number = roundQuotient (100 * size) (1024 ^ unitsPassed size) / 100
  one_le : unit ≠ "B" → 1 ≤ number
  le_1024 : unit ≠ "TB" → number ≤ 1024
  /-- It has less than four digits, but for the sizes that are rounded over. -/
  lt_1024_iff : unit = "TB" ∨ number < 1024 ↔ ¬ RoundsOver size

theorem readSize?_words (number : String) {unit : String} (unspaced : ' ' ∉ unit.toList) :
    readSize? (number ++ " " ++ unit) =
      (Binary64.decimalOf? number.toList).map fun decimal =>
        ((decimal.1 : ℚ) * 10 ^ decimal.2, unit) := by
  have spelled : (number ++ " " ++ unit).toList = number.toList ++ ' ' :: unit.toList := by
    simp [String.toList_append]
  rw [readSize?, spelled, Text.splitAfterLast_append _ unspaced]
  simp only [List.dropLast_concat, String.ofList_toList]

theorem sizeText_def :
    sizeText = fun size => size.toBinary64 >>= fun x =>
      rounded averagePlaces (scaleSize x "B" unitsAbove).1 >>= fun y =>
        .ok (y.text ++ " " ++ (scaleSize x "B" unitsAbove).2) := by
  delta sizeText
  rfl

theorem sizeText_of {size : Amount} {x y z : Binary64} {unit : String}
    (double : size.toBinary64 = .ok x) (scales : scaleSize x "B" unitsAbove = (y, unit))
    (rounds : rounded averagePlaces y = .ok z) :
    sizeText size = .ok (z.text ++ " " ++ unit) := by
  rw [sizeText_def]
  beta_reduce
  rw [double, ok_bind, scales, rounds, ok_bind]

theorem sizeText_error {size : Amount} {fault : Fault} (fails : size.toBinary64 = .error fault) :
    sizeText size = .error fault := by
  rw [sizeText_def]
  beta_reduce
  rw [fails]
  rfl

theorem Amount.toBinary64_whole (n : Int) :
    (Amount.whole n).toBinary64 = (Binary64.ofInt? n).elim (.error .tooLarge) .ok := by
  generalize given : Amount.whole n = amount
  fun_cases toBinary64 amount with
  | case1 m x number =>
      cases given
      rw [number, Option.elim_some]
  | case2 m fails =>
      cases given
      rw [fails, Option.elim_none]
  | case3 x => cases given

/-! ## The unit -/

/-- What the place of a unit tells of it. -/
theorem sizeUnits_spec {steps : Nat} {unit : String} (chosen : sizeUnits[steps]? = some unit) :
    steps ≤ 4 ∧ (unit ≠ "B" ↔ 0 < steps) ∧ (unit ≠ "TB" ↔ steps < 4) ∧ ' ' ∉ unit.toList := by
  match steps with
  | 0 | 1 | 2 | 3 | 4 =>
      cases chosen
      decide
  | _ + 5 => simp [sizeUnits, unitsAbove] at chosen

/-- A size passes over as many units as it has digits in base 1024 behind the first, and not
over the last. -/
theorem unitsPassed_eq {size steps : Nat} (few : steps ≤ 4)
    (least : 0 < steps → 1024 ^ steps ≤ size) (most : steps < 4 → size < 1024 ^ (steps + 1)) :
    unitsPassed size = steps := by
  rw [unitsPassed]
  have atLeast : steps ≤ Nat.log 1024 size := by
    rcases Nat.eq_zero_or_pos steps with rfl | more
    · exact Nat.zero_le _
    · exact Nat.le_log_of_pow_le (by decide) (least more)
  rcases Nat.eq_or_lt_of_le few with rfl | short
  · exact Nat.min_eq_right atLeast
  · have atMost : Nat.log 1024 size < steps + 1 := Nat.log_lt_of_lt_pow' (by omega) (most short)
    omega

theorem roundsOver_iff_unitsPassed {size : Nat} :
    RoundsOver size ↔
      unitsPassed size < 4 ∧ 204799 * 1024 ^ unitsPassed size ≤ 200 * size := by
  constructor
  · rintro ⟨k, some_k, most, above, below⟩
    have passed : unitsPassed size = k :=
      unitsPassed_eq (by omega) (fun _ => by omega) fun _ => below
    rw [passed]
    exact ⟨by omega, above⟩
  · rintro ⟨short, above⟩
    have log : unitsPassed size = Nat.log 1024 size := by
      rw [unitsPassed] at short ⊢
      omega
    have below : size < 1024 ^ (unitsPassed size + 1) := by
      rw [log]
      exact Nat.lt_pow_succ_log_self (by decide) size
    refine ⟨unitsPassed size, ?_, by omega, above, below⟩
    -- A size in the smallest unit is whole, so it is not rounded.
    by_contra none
    have zero : unitsPassed size = 0 := by omega
    rw [zero] at above below
    omega

namespace IsScaled

variable {rank size steps scaled : Nat} {unit : String}

section Whole

variable (isScaled : IsScaled rank sizeUnits steps scaled unit)
  (whole : Binary64.units rank = size * Binary64.unitsPerOne)
include isScaled whole

theorem pow_le (more : 0 < steps) : 1024 ^ steps ≤ size := by
  have least := Nat.mul_le_mul_right (1024 ^ steps) (isScaled.least more)
  rw [isScaled.divided, whole, Nat.mul_comm] at least
  exact Nat.le_of_mul_le_mul_right least (Binary64.twoTo_pos 1074)

theorem lt_pow (short : steps < 4) : size < 1024 ^ (steps + 1) := by
  have most := Nat.mul_lt_mul_of_pos_right (isScaled.most (Nat.succ_lt_succ short))
    (Nat.pow_pos (by decide) : 0 < 1024 ^ steps)
  rw [isScaled.divided, whole, Nat.mul_right_comm, ← Nat.pow_succ'] at most
  exact Nat.lt_of_mul_lt_mul_right most

/-- A size that is a double passes over as many units as there are divisions. -/
theorem unitsPassed_eq : unitsPassed size = steps :=
  LineCensus.unitsPassed_eq (sizeUnits_spec isScaled.unit).1 (isScaled.pow_le whole)
    (isScaled.lt_pow whole)

theorem hundredths_eq :
    roundQuotient (Binary64.units scaled * 100) Binary64.unitsPerOne =
      roundQuotient (100 * size) (1024 ^ steps) := by
  have some_units : 0 < Binary64.unitsPerOne := Binary64.twoTo_pos 1074
  rw [← roundQuotient_mul_mul _ _ (Nat.pow_pos (by decide) : 0 < 1024 ^ steps),
    ← roundQuotient_mul_mul (100 * size) _ some_units, Nat.mul_right_comm, isScaled.divided, whole,
    Nat.mul_comm (1024 ^ steps), Nat.mul_comm _ 100, Nat.mul_assoc]

/-- The hundredths of a size that is a double. -/
theorem tells_of_whole :
    Tells size ((roundQuotient (100 * size) (1024 ^ steps) : ℚ) / 100) unit := by
  have passed := isScaled.unitsPassed_eq whole
  obtain ⟨few, above, below, -⟩ := sizeUnits_spec isScaled.unit
  have scale : 0 < 1024 ^ steps := Nat.pow_pos (by decide)
  constructor
  case unit_eq =>
    rw [passed]
    exact isScaled.unit
  case number_eq =>
    intro _
    rw [passed]
  case one_le =>
    intro larger
    have least : 100 ≤ roundQuotient (100 * size) (1024 ^ steps) :=
      le_roundQuotient scale (Nat.mul_le_mul_left 100 (isScaled.pow_le whole (above.1 larger)))
    rw [one_le_div (by norm_num)]
    exact_mod_cast least
  case le_1024 =>
    intro smaller
    have most := isScaled.lt_pow whole (below.1 smaller)
    have quotient : 100 * size / 1024 ^ steps < 102400 := by
      rw [Nat.div_lt_iff_lt_mul scale]
      rw [Nat.pow_succ] at most
      omega
    have near := Binary64.roundQuotient_le (100 * size) (1024 ^ steps)
    rw [div_le_iff₀ (by norm_num)]
    exact_mod_cast (by omega : roundQuotient (100 * size) (1024 ^ steps) ≤ 1024 * 100)
  case lt_1024_iff =>
    have roundsUp : 102400 ≤ roundQuotient (100 * size) (1024 ^ steps) ↔
        2 * 102400 * 1024 ^ steps ≤ 2 * (100 * size) + 1024 ^ steps :=
      le_roundQuotient_iff scale (by decide)
    have four : (roundQuotient (100 * size) (1024 ^ steps) : ℚ) / 100 < 1024 ↔
        roundQuotient (100 * size) (1024 ^ steps) < 102400 := by
      rw [div_lt_iff₀ (by norm_num)]
      exact_mod_cast Iff.rfl
    rw [roundsOver_iff_unitsPassed, passed, four, ← below]
    by_cases last : unit = "TB"
    · simp [last]
    · simp only [last, false_or, ne_eq, not_false_eq_true, true_and]
      omega

/-- Its hundredths are few: it is below 2⁵³. -/
theorem hundredths_lt (short : size < twoTo 53) :
    roundQuotient (100 * size) (1024 ^ steps) < 10 ^ 15 := by
  have near := Binary64.roundQuotient_le (100 * size) (1024 ^ steps)
  have power : twoTo 53 = 2 ^ 53 := rfl
  rcases Nat.eq_zero_or_pos steps with rfl | more
  · have most := isScaled.lt_pow whole (by decide)
    omega
  · have divided : 100 * size / 1024 ^ steps ≤ 100 * size / 1024 :=
      Nat.div_le_div_left (Nat.le_self_pow (Nat.ne_of_gt more) 1024) (by decide)
    omega

end Whole

section Large

variable (isScaled : IsScaled rank sizeUnits steps scaled unit)
  (large : twoTo 53 * Binary64.unitsPerOne ≤ Binary64.units rank)
include isScaled large

/-- From 2⁵³ on all units are passed over. -/
theorem steps_eq_four : steps = 4 := by
  have few := (sizeUnits_spec isScaled.unit).1
  by_contra fewer
  have short : steps ≤ 3 := by omega
  have most := isScaled.most (show steps + 1 < 5 by omega)
  refine Nat.not_lt_of_le large ?_
  calc Binary64.units rank
      = Binary64.units scaled * 1024 ^ steps := isScaled.divided.symm
    _ ≤ Binary64.units scaled * 1024 ^ 3 :=
        Nat.mul_le_mul_left _ (Nat.pow_le_pow_right (by decide) short)
    _ < 1024 * Binary64.unitsPerOne * 1024 ^ 3 := Nat.mul_lt_mul_of_pos_right most (by decide)
    _ ≤ twoTo 53 * Binary64.unitsPerOne := by
        rw [Nat.mul_right_comm]
        exact Nat.mul_le_mul_right _ (by decide)

theorem hundredths_ge :
    200 ≤ roundQuotient (Binary64.units scaled * 100) Binary64.unitsPerOne := by
  refine le_roundQuotient (Binary64.twoTo_pos 1074) ?_
  have power : twoTo 53 = 2 ^ 53 := rfl
  have last := isScaled.steps_eq_four large
  rw [← isScaled.divided, last, power] at large
  generalize Binary64.unitsPerOne = one at *
  omega

theorem tells_of_large {number : ℚ} (long : twoTo 53 ≤ size) (atLeast : 1 ≤ number) :
    Tells size number unit := by
  have last := isScaled.steps_eq_four large
  have room : 1024 ^ 4 ≤ twoTo 53 := by decide
  have passed : unitsPassed size = 4 :=
    LineCensus.unitsPassed_eq (Nat.le_refl 4) (fun _ => room.trans long) (by omega)
  have chosen := isScaled.unit
  rw [last] at chosen
  cases chosen
  constructor
  case unit_eq => rw [passed]; rfl
  case number_eq => exact fun short => absurd short (Nat.not_lt_of_le long)
  case one_le => exact fun _ => atLeast
  case le_1024 => exact fun smaller => absurd rfl smaller
  case lt_1024_iff =>
    rw [roundsOver_iff_unitsPassed, passed]
    simp

end Large

end IsScaled

/-- The words of a size are those of its double, divided and rounded. -/
theorem exists_words {size : Amount} {rank : Nat}
    (double : size.toBinary64 = .ok (.signed false rank)) (finite : rank < Binary64.infiniteRank) :
    ∃ words steps scaled unit near, sizeText size = .ok words ∧
      IsScaled rank sizeUnits steps scaled unit ∧ near < Binary64.infiniteRank ∧
      near = Binary64.nearestRank (roundQuotient (Binary64.units scaled * 100)
        Binary64.unitsPerOne * Binary64.unitsPerOne) 100 ∧
      readSize? words =
        (Binary64.decimalOf? (Binary64.text (.signed false near)).toList).map fun decimal =>
          ((decimal.1 : ℚ) * 10 ^ decimal.2, unit) := by
  obtain ⟨steps, scaled, unit, scales, isScaled⟩ := scaleSize_spec "B" unitsAbove finite
  obtain ⟨near, rounds, small, nearest⟩ := Binary64.rounded_averagePlaces isScaled.finite
  obtain ⟨-, -, -, unspaced⟩ := sizeUnits_spec isScaled.unit
  exact ⟨_, steps, scaled, unit, near, sizeText_of double scales rounds, isScaled, small, nearest,
    readSize?_words _ unspaced⟩

theorem sizeText_of_tooLarge {size : Nat} (tooLarge : Binary64.firstTooLarge ≤ size) :
    sizeText (.whole size) = .error .tooLarge := by
  have none : Binary64.ofInt? size = .none := by
    rw [← Option.not_isSome_iff_eq_none, Binary64.ofInt?_isSome_iff, Int.natAbs_natCast]
    exact Nat.not_lt_of_le tooLarge
  have double := Amount.toBinary64_whole size
  rw [none, Option.elim_none] at double
  exact sizeText_error double

theorem exists_sizeText_of_fits {size : Nat} (fits : size < Binary64.firstTooLarge) :
    ∃ words number unit, sizeText (.whole size) = .ok words ∧
      readSize? words = some (number, unit) ∧ Tells size number unit := by
  obtain ⟨rank, ofInt, finite, whole, large⟩ := Binary64.ofInt?_spec fits
  have double := Amount.toBinary64_whole size
  rw [ofInt, Option.elim_some] at double
  obtain ⟨words, steps, scaled, unit, near, written, isScaled, small, rfl, reads⟩ :=
    exists_words double finite
  rcases Nat.lt_or_ge size (twoTo 53) with short | long
  · rw [isScaled.hundredths_eq (whole short)] at reads small
    obtain ⟨digits, power, read, value⟩ :=
      Binary64.decimalOf?_text_hundredths (isScaled.hundredths_lt (whole short) short) small
    refine ⟨words, _, unit, written, ?_, isScaled.tells_of_whole (whole short)⟩
    rw [reads, read, Option.map_some, value]
  · obtain ⟨digits, power, read, atLeast⟩ :=
      Binary64.exists_text_one_le (isScaled.hundredths_ge (large long)) small
    refine ⟨words, _, unit, written, ?_, isScaled.tells_of_large (large long) long atLeast⟩
    rw [reads, read, Option.map_some]

/-- **The words for a size.**  A size has words just if it has a double.  They tell the unit that
the size calls for, and up to 2⁵³ the size in this unit, rounded once.  The number is at least one
in every unit but the smallest, and it has less than four digits in every unit but the largest,
unless the size is rounded over. -/
theorem size_in_words (size : Nat) :
    (Binary64.firstTooLarge ≤ size → sizeText (.whole size) = .error .tooLarge) ∧
    (size < Binary64.firstTooLarge →
      ∃ words number unit, sizeText (.whole size) = .ok words ∧
        readSize? words = some (number, unit) ∧ Tells size number unit) :=
  ⟨sizeText_of_tooLarge, exists_sizeText_of_fits⟩

/-- **Not every size is told in less than four digits**: the last size before a mebibyte is divided
once, and then rounded to 1024. -/
theorem not_every_size_below_1024 :
    ¬ ∀ size words number unit, sizeText (.whole (size : Nat)) = .ok words →
      readSize? words = some (number, unit) → unit = "TB" ∨ number < 1024 := by
  intro holds
  have words : sizeText (.whole (1048575 : Nat)) = .ok "1024.0 KB" :=
    toOption_eq_some_iff.1 (by decide +kernel)
  have read : readSize? ("1024.0" ++ " " ++ "KB") = some (1024, "KB") := by
    have decimal : Binary64.decimalOf? "1024.0".toList = some (10240, -1) := by decide
    rw [readSize?_words _ (by decide), decimal]
    norm_num
  rcases holds 1048575 _ _ _ words read with last | less
  · simp at last
  · norm_num at less

end LineCensus
