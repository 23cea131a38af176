/-
# Proofs.Numerals -- the texts of doubles, and what is read from them

A numeral is a whole part, places behind a point, and an exponent; the places or the
exponent can be missing.  Reading takes a numeral apart again (`Binary64.decimalOf?_numeral`),
and all three layouts of a decimal are numerals of its value (`Binary64.exists_numeral`), so
the text of a finite double is read as that double (`Binary64.ofText?_text`).
-/
import LineCensus.Proofs.Shortest

set_option autoImplicit false

namespace LineCensus
namespace Binary64

/-! ## Runs of digits -/

/-- A tail that does not go on with a digit. -/
def EndsDigits (rest : List Char) : Prop :=
  rest.head?.all (fun c => !c.isDigit) = true

theorem takeWhile_digits {digits rest : List Char} (areDigits : ∀ c ∈ digits, c.isDigit = true)
    (ends : EndsDigits rest) :
    (digits ++ rest).takeWhile Char.isDigit = digits ∧
      (digits ++ rest).dropWhile Char.isDigit = rest := by
  rw [List.takeWhile_append_of_pos areDigits, List.dropWhile_append_of_pos areDigits]
  cases rest with
  | nil => simp
  | cons c rest =>
      have notDigit : ¬ c.isDigit = true := by
        simpa [EndsDigits] using ends
      rw [List.takeWhile_cons_of_neg notDigit, List.dropWhile_cons_of_neg notDigit,
        List.append_nil]
      exact ⟨rfl, rfl⟩

/-! ## Exponents -/

theorem splitSign_of_digit {c : Char} (digit : c.isDigit = true) (rest : List Char) :
    splitSign (c :: rest) = (false, c :: rest) := by
  unfold splitSign
  split
  · rename_i same
    cases same
    cases digit
  · rename_i same
    cases same
    cases digit
  · rfl

/-- The digits of an exponent, at least two. -/
theorem exponentText_spec (e : Int) :
    ∃ digits, exponentText e = (if e < 0 then '-' else '+') :: digits ∧ digits ≠ [] ∧
      (∀ c ∈ digits, c.isDigit = true) ∧ digitsValue digits = e.natAbs := by
  rw [exponentText]
  by_cases short : (Nat.toDigits 10 e.natAbs).length < 2
  · rw [if_pos short]
    refine ⟨_, rfl, List.cons_ne_nil _ _, ?_, ?_⟩
    · intro c member
      rcases List.mem_cons.1 member with rfl | member
      · rfl
      · exact isDigit_toDigits member
    · have padded := digitsValue_append ['0'] (Nat.toDigits 10 e.natAbs)
      rwa [digitsValue_toDigits, show digitsValue ['0'] = 0 from rfl, Nat.zero_mul,
        Nat.zero_add] at padded
  · rw [if_neg short]
    exact ⟨_, rfl, Nat.toDigits_ne_nil, fun c => isDigit_toDigits, digitsValue_toDigits _⟩

theorem exponentOf?_exponentText (e : Int) : exponentOf? ('e' :: exponentText e) = some e := by
  obtain ⟨digits, text, nonempty, areDigits, value⟩ := exponentText_spec e
  have some_digit : digits.isEmpty = false := by simpa using nonempty
  have all : digits.all Char.isDigit = true := List.all_eq_true.2 areDigits
  rw [text, exponentOf?, if_pos (.inl rfl)]
  rcases lt_or_ge e 0 with negative | positive
  · simp only [if_pos negative, splitSign, some_digit, all, value]
    simp only [Bool.not_true, Bool.or_self, Bool.false_eq_true, if_false, if_true, Option.some.injEq]
    omega
  · simp only [if_neg (not_lt.2 positive), splitSign, some_digit, all, value]
    simp only [Bool.not_true, Bool.or_self, Bool.false_eq_true, if_false, Option.some.injEq]
    omega

/-! ## Numerals -/

/-- A whole part, places behind a point, and an exponent. -/
structure Numeral where
  whole : List Char
  places : List Char
  exponent : Option Int

namespace Numeral

def placesText (numeral : Numeral) : List Char :=
  if numeral.places.isEmpty then [] else '.' :: numeral.places

def exponentPart (numeral : Numeral) : List Char :=
  match numeral.exponent with
  | none => []
  | some e => 'e' :: exponentText e

def text (numeral : Numeral) : List Char :=
  numeral.whole ++ (numeral.placesText ++ numeral.exponentPart)

/-- The digits are digits, and the whole part is there. -/
structure IsProper (numeral : Numeral) : Prop where
  wholeDigits : ∀ c ∈ numeral.whole, c.isDigit = true
  some_whole : numeral.whole ≠ []
  placeDigits : ∀ c ∈ numeral.places, c.isDigit = true

variable {numeral : Numeral}

theorem endsDigits_exponentPart (numeral : Numeral) : EndsDigits numeral.exponentPart := by
  unfold exponentPart
  split
  · rfl
  · rfl

theorem endsDigits_placesText (numeral : Numeral) :
    EndsDigits (numeral.placesText ++ numeral.exponentPart) := by
  unfold placesText
  split
  · exact endsDigits_exponentPart numeral
  · rfl

theorem splitPlaces_text (proper : numeral.IsProper) :
    splitPlaces (numeral.placesText ++ numeral.exponentPart) =
      (numeral.places, numeral.exponentPart) := by
  obtain ⟨taken, dropped⟩ :=
    takeWhile_digits proper.placeDigits (endsDigits_exponentPart numeral)
  unfold placesText
  split
  · rename_i none
    rw [List.isEmpty_iff.1 none, List.nil_append]
    unfold exponentPart
    split <;> rfl
  · rw [List.cons_append, splitPlaces, taken, dropped]

theorem exponentOf?_exponentPart (numeral : Numeral) :
    exponentOf? numeral.exponentPart = some (numeral.exponent.getD 0) := by
  unfold exponentPart
  split <;> rename_i exponent
  · rw [exponent]
    rfl
  · rw [exponent, exponentOf?_exponentText]
    rfl

/-- A numeral is read as its digits and its power of ten. -/
theorem decimalOf?_text (proper : numeral.IsProper) :
    decimalOf? numeral.text =
      some (digitsValue (numeral.whole ++ numeral.places),
        numeral.exponent.getD 0 - numeral.places.length) := by
  obtain ⟨taken, dropped⟩ := takeWhile_digits proper.wholeDigits (endsDigits_placesText numeral)
  have some_whole : numeral.whole.isEmpty = false := by simpa using proper.some_whole
  rw [decimalOf?, text, taken, dropped, splitPlaces_text proper]
  simp only [some_whole, Bool.false_and, Bool.false_eq_true, if_false, exponentOf?_exponentPart,
    Option.map_some]

/-- A numeral of `digits · 10 ^ power` that no whole number has: zeros can stand behind the
digits, and before them only one. -/
structure Writes (numeral : Numeral) (digits : Nat) (power : Int) : Prop where
  proper : numeral.IsProper
  isReal : numeral.places ≠ [] ∨ numeral.exponent.isSome = true
  leading : numeral.whole = ['0'] ∨ numeral.whole.head? ≠ some '0'
  value : ∃ zeros : Nat, digitsValue (numeral.whole ++ numeral.places) = digits * 10 ^ zeros ∧
    numeral.exponent.getD 0 - numeral.places.length = power - zeros

end Numeral

section Layouts

variable {n : Nat} (positive : 0 < n) (power : Int)
include positive

theorem length_toDigits : (Nat.toDigits 10 n).length = digitCount n := by
  rw [digitCount, if_neg (Nat.ne_of_gt positive)]

/-- Below one, the places begin with zeros. -/
theorem writes_small (low : power + digitCount n ≤ 0) :
    Numeral.Writes
      ⟨['0'], List.replicate (power + digitCount n).natAbs '0' ++ Nat.toDigits 10 n, none⟩ n
      power where
  proper :=
    { wholeDigits := by simp
      some_whole := by simp
      placeDigits := by
        intro c member
        rcases List.mem_append.1 member with zero | digit
        · rw [List.eq_of_mem_replicate zero]
          rfl
        · exact isDigit_toDigits digit }
  isReal := .inl (by simp [Nat.toDigits_ne_nil])
  leading := .inl rfl
  value := by
    refine ⟨0, ?_, ?_⟩
    · rw [← List.append_assoc, digitsValue_append, digitsValue_append, digitsValue_zeros,
        digitsValue_toDigits, show digitsValue ['0'] = 0 from rfl]
      simp
    · rw [List.length_append, List.length_replicate, length_toDigits positive]
      simp only [Option.getD_none]
      omega

/-- A whole number has a zero behind the point. -/
theorem writes_whole (high : (Nat.toDigits 10 n).length ≤ power + digitCount n) :
    Numeral.Writes
      ⟨Nat.toDigits 10 n ++
        List.replicate ((power + digitCount n).natAbs - (Nat.toDigits 10 n).length) '0',
        ['0'], none⟩ n power where
  proper :=
    { wholeDigits := by
        intro c member
        rcases List.mem_append.1 member with digit | zero
        · exact isDigit_toDigits digit
        · rw [List.eq_of_mem_replicate zero]
          rfl
      some_whole := by simp [Nat.toDigits_ne_nil]
      placeDigits := by simp }
  isReal := .inl (by simp)
  leading := by
    obtain ⟨c, rest, digits, nonzero⟩ := head_toDigits positive
    right
    simpa [digits] using nonzero
  value := by
    refine ⟨(power + digitCount n).natAbs - (Nat.toDigits 10 n).length + 1, ?_, ?_⟩
    · rw [digitsValue_append, digitsValue_append, digitsValue_zeros, digitsValue_toDigits,
        List.length_replicate, show digitsValue ['0'] = 0 from rfl, List.length_singleton]
      ring
    · rw [length_toDigits positive] at *
      simp only [Option.getD_none, List.length_singleton]
      omega

/-- The point, or the exponent, divides the digits. -/
theorem writes_split {split : Nat} (some_whole : 0 < split) (exponent : Option Int)
    (isReal : split < (Nat.toDigits 10 n).length ∨ exponent.isSome = true)
    (scale : exponent.getD 0 - ((Nat.toDigits 10 n).length - split : Nat) = power) :
    Numeral.Writes ⟨(Nat.toDigits 10 n).take split, (Nat.toDigits 10 n).drop split, exponent⟩ n
      power where
  proper :=
    { wholeDigits := fun c member => isDigit_toDigits (List.mem_of_mem_take member)
      some_whole := by
        simp only [ne_eq, List.take_eq_nil_iff, Nat.toDigits_ne_nil, or_false]
        omega
      placeDigits := fun c member => isDigit_toDigits (List.mem_of_mem_drop member) }
  isReal := isReal.imp_left fun inside => by
    simp only [ne_eq, List.drop_eq_nil_iff]
    omega
  leading := by
    obtain ⟨c, rest, digits, nonzero⟩ := head_toDigits positive
    obtain ⟨more, rfl⟩ := Nat.exists_eq_succ_of_ne_zero (Nat.ne_of_gt some_whole)
    right
    simpa [digits] using nonzero
  value := by
    refine ⟨0, ?_, ?_⟩
    · rw [List.take_append_drop, digitsValue_toDigits, Nat.pow_zero, Nat.mul_one]
    · rw [List.length_drop, scale]
      simp

/-- Every layout of a decimal is a numeral of its value. -/
theorem exists_numeral :
    ∃ numeral : Numeral, decimalText (Nat.toDigits 10 n) (power + digitCount n) = numeral.text ∧
      numeral.Writes n power := by
  have count := length_toDigits positive
  rw [decimalText]
  split
  · split
    · exact ⟨_, by simp [Numeral.text, Numeral.placesText, Numeral.exponentPart],
        writes_small positive power ‹_›⟩
    split
    · exact ⟨_, by simp [Numeral.text, Numeral.placesText, Numeral.exponentPart],
        writes_whole positive power ‹_›⟩
    · refine ⟨_, ?_, writes_split positive power (by omega : 0 < (power + digitCount n).natAbs) none
        (.inl (by omega)) ?_⟩
      · have inside : ¬ (Nat.toDigits 10 n).length ≤ (power + digitCount n).natAbs := by omega
        simp [Numeral.text, Numeral.placesText, Numeral.exponentPart, inside]
      · simp only [Option.getD_none]
        omega
  · refine ⟨_, ?_, writes_split positive power Nat.one_pos (some (power + digitCount n - 1))
      (.inr rfl) ?_⟩
    · simp only [Numeral.text, Numeral.placesText, Numeral.exponentPart, List.append_assoc]
    · have some_digit := (digitCount_spec positive).2.2
      simp only [Option.getD_some]
      omega

end Layouts

/-! ## Texts of doubles -/

theorem isShortest_zero : IsShortest 0 0 0 := by
  have zero := decimalUnits_zero 0
  refine ⟨⟨.inr ⟨?_, rfl⟩, .inl ?_⟩, fun _ _ _ => Nat.zero_le _, fun _ _ _ _ => ?_⟩
  · simp [zero, units_zero]
  · have second : units (0 + 1) = 1 := units_subnormal (by decide)
    simp [zero, units_zero, second]
  · rw [zero, units_zero, Nat.cast_zero, sub_zero, abs_zero]
    exact abs_nonneg _

theorem isShortest_zero_digits {digits : Nat} {power : Int}
    (isShortest : IsShortest 0 digits power) : digits = 0 := by
  have fewest : digitCount digits ≤ 0 := isShortest.fewest 0 0 isShortest_zero.rounds
  by_contra some_digits
  have := (digitCount_spec (Nat.pos_of_ne_zero some_digits)).2.2
  omega

theorem writes_zero : Numeral.Writes ⟨['0'], ['0'], none⟩ 0 0 where
  proper := ⟨by simp, by simp, by simp⟩
  isReal := .inl (by simp)
  leading := .inl rfl
  value := ⟨1, rfl, rfl⟩

/-- The text of a finite double is a numeral of its shortest decimal, behind its sign. -/
theorem text_spec (negative : Bool) {rank : Nat} (finite : rank < infiniteRank) :
    ∃ (numeral : Numeral) (digits : Nat) (power : Int),
      (text (.signed negative rank)).toList = (signText negative).toList ++ numeral.text ∧
      numeral.Writes digits power ∧ IsShortest rank digits power := by
  rw [text, if_neg (Nat.not_le_of_lt finite)]
  rcases Nat.eq_zero_or_pos rank with rfl | positive
  · refine ⟨_, 0, 0, ?_, writes_zero, isShortest_zero⟩
    rw [if_pos rfl, String.toList_append]
    rfl
  · obtain ⟨digits, power, reduced, isShortest, written⟩ := shortest_spec positive
    obtain ⟨numeral, layout, writes⟩ := exists_numeral (by omega : 0 < digits) power
    refine ⟨numeral, digits, power, ?_, writes, isShortest⟩
    rw [if_neg (Nat.ne_of_gt positive), written, String.toList_append, String.toList_ofList, layout]

theorem Numeral.exists_head {numeral : Numeral} (proper : numeral.IsProper) :
    ∃ c rest, c.isDigit = true ∧ numeral.text = c :: rest := by
  obtain ⟨c, rest, whole⟩ := List.exists_cons_of_ne_nil proper.some_whole
  refine ⟨c, rest ++ (numeral.placesText ++ numeral.exponentPart),
    proper.wholeDigits c (by simp [whole]), ?_⟩
  rw [text, whole, List.cons_append]

theorem splitSign_signed (negative : Bool) {numeral : Numeral} (proper : numeral.IsProper) :
    splitSign ((signText negative).toList ++ numeral.text) = (negative, numeral.text) := by
  obtain ⟨c, rest, digit, written⟩ := Numeral.exists_head proper
  cases negative with
  | true => rfl
  | false =>
      rw [written]
      exact splitSign_of_digit digit rest

/-- A numeral behind a sign is read as its decimal. -/
theorem ofText?_signed (negative : Bool) {numeral : Numeral} (proper : numeral.IsProper) :
    ofText? ((signText negative).toList ++ numeral.text) =
      (decimalOf? numeral.text).map fun decimal => ofDecimal negative decimal.1 decimal.2 := by
  obtain ⟨c, rest, digit, written⟩ := Numeral.exists_head proper
  have noName {name : List Char} (letter : name.head?.all (fun c => !c.isDigit) = true) :
      numeral.text ≠ name := by
    rintro rfl
    rw [written] at letter
    simp [digit] at letter
  rw [ofText?, splitSign_signed negative proper]
  simp only
  rw [if_neg (noName (by decide)), if_neg (noName (by decide))]

/-- The decimal that a numeral writes is read as every double that it rounds to. -/
theorem ofDecimal_of_rounds (negative : Bool) {rank digits : Nat} {power : Int}
    (finite : rank < infiniteRank) (isShortest : IsShortest rank digits power) (zeros : Nat) :
    ofDecimal negative (digits * 10 ^ zeros) (power - zeros) = .signed negative rank := by
  rcases Nat.eq_zero_or_pos rank with rfl | positive
  · rw [isShortest_zero_digits isShortest, Nat.zero_mul, ofDecimal, if_pos (.inl rfl)]
  · rw [ofDecimal_eq_iff negative positive finite, decimalUnits_mul_pow, sub_add_cancel]
    exact isShortest.rounds

/-- A text is read as a double, and none of fewer digits, and none closer of no more, is. -/
structure IsShortestToken (negative : Bool) (rank : Nat) (token : List Char) : Prop where
  readsBack : ofText? token = some (.signed negative rank)
  shortest : ∃ (digits zeros : Nat) (power : Int),
    decimalOf? (splitSign token).2 = some (digits * 10 ^ zeros, power - zeros) ∧
    ∀ others otherPower, ofDecimal negative others otherPower = .signed negative rank →
      digitCount digits ≤ digitCount others ∧
      (digitCount others ≤ digitCount digits →
        |decimalUnits digits power - units rank| ≤ |decimalUnits others otherPower - units rank|)

/-- **The text of a finite double is its shortest token.** -/
theorem isShortestToken_text (negative : Bool) {rank : Nat} (finite : rank < infiniteRank) :
    IsShortestToken negative rank (text (.signed negative rank)).toList := by
  obtain ⟨numeral, digits, power, written, writes, isShortest⟩ := text_spec negative finite
  obtain ⟨zeros, value, scale⟩ := writes.value
  have decimal : decimalOf? numeral.text = some (digits * 10 ^ zeros, power - zeros) := by
    rw [Numeral.decimalOf?_text writes.proper, value, scale]
  refine ⟨?_, digits, zeros, power, ?_, ?_⟩
  · rw [written, ofText?_signed negative writes.proper, decimal, Option.map_some,
      ofDecimal_of_rounds negative finite isShortest]
  · rw [written, splitSign_signed negative writes.proper, decimal]
  · intro others otherPower read
    rcases Nat.eq_zero_or_pos rank with rfl | positive
    · rw [isShortest_zero_digits isShortest, decimalUnits_zero, units_zero, Nat.cast_zero, sub_zero,
        abs_zero]
      exact ⟨Nat.zero_le _, fun _ => abs_nonneg _⟩
    · rw [ofDecimal_eq_iff negative positive finite] at read
      exact ⟨isShortest.fewest others otherPower read, isShortest.closest others otherPower read⟩

end Binary64
end LineCensus
