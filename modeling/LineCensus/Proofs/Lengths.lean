/-
# Proofs.Lengths -- what a summary says of its lengths

Lengths are sorted before anything is taken from them.  So a summary does not depend on their
order, and what it takes from the sorted list is told by how many lengths lie below and above.

* `succ_le_countP`, `length_sub_le_countP`: how many entries of a sorted list are at most, and
  how many at least, the one at a place.
* `LengthSummary.ofLengths_of_words`, `LengthSummary.ofLengths_of_large`: lengths that are
  words of 64 bits have a summary, others have none.
* `LengthSummary.describes_of_ofLengths`: minimum, maximum and median of any lengths.
* `lengths_summarized`: all of it together, for arbitrary lengths.
-/
import LineCensus.Measure.Quotient
import LineCensus.Proofs.Rounding
import Mathlib.Algebra.Ring.Int.Defs
import Mathlib.Data.List.Pairwise
import Mathlib.Data.List.Sort

set_option autoImplicit false

namespace LineCensus

/-! ## Sorted lists -/

section Sorted

variable {ascending : List Int} {place : Nat}

/-- The entries of a sorted list up to a place are at most the one there. -/
theorem succ_le_countP (sorted : ascending.Pairwise (· ≤ ·)) (inside : place < ascending.length) :
    place + 1 ≤ ascending.countP (· ≤ ascending[place]) := by
  have below : ∀ n ∈ ascending.take (place + 1), decide (n ≤ ascending[place]) = true := by
    intro n member
    obtain ⟨i, before, rfl⟩ := List.getElem_of_mem member
    rw [List.length_take] at before
    rw [List.getElem_take, decide_eq_true_eq]
    exact sorted.rel_get_of_le (a := ⟨i, by omega⟩) (b := ⟨place, inside⟩)
      (show i ≤ place by omega)
  calc place + 1
      = (ascending.take (place + 1)).length := by rw [List.length_take, Nat.min_eq_left inside]
    _ = (ascending.take (place + 1)).countP (· ≤ ascending[place]) :=
        (List.countP_eq_length.2 below).symm
    _ ≤ ascending.countP (· ≤ ascending[place]) := (List.take_sublist _ _).countP_le

/-- The entries of a sorted list from a place on are at least the one there. -/
theorem length_sub_le_countP (sorted : ascending.Pairwise (· ≤ ·))
    (inside : place < ascending.length) :
    ascending.length - place ≤ ascending.countP (ascending[place] ≤ ·) := by
  have above : ∀ n ∈ ascending.drop place, decide (ascending[place] ≤ n) = true := by
    intro n member
    obtain ⟨i, before, rfl⟩ := List.getElem_of_mem member
    rw [List.length_drop] at before
    rw [List.getElem_drop, decide_eq_true_eq]
    exact sorted.rel_get_of_le (a := ⟨place, inside⟩) (b := ⟨place + i, by omega⟩)
      (Nat.le_add_right place i)
  calc ascending.length - place
      = (ascending.drop place).length := List.length_drop.symm
    _ = (ascending.drop place).countP (ascending[place] ≤ ·) :=
        (List.countP_eq_length.2 above).symm
    _ ≤ ascending.countP (ascending[place] ≤ ·) := (List.drop_sublist _ _).countP_le

end Sorted

namespace LengthSummary

variable {lengths : List Int} {summary : LengthSummary}

theorem sorted_lengths (lengths : List Int) : (lengths.mergeSort (· ≤ ·)).Pairwise (· ≤ ·) :=
  List.pairwise_mergeSort' (· ≤ ·) lengths

theorem isWord64_iff {n : Int} : isWord64 n = true ↔ -2 ^ 63 ≤ n ∧ n < 2 ^ 63 := by
  simp only [isWord64, Bool.and_eq_true, decide_eq_true_eq]
  exact Iff.rfl

/-! ## Which lengths have a summary -/

theorem exists_doubleSum (words : ∀ n ∈ lengths, isWord64 n = true) :
    ∃ sum, doubleSum lengths = .ok sum := by
  have numbers : ∃ doubles, lengths.mapM (fun n => (Amount.whole n).toBinary64) = .ok doubles :=
    exists_mapM_eq_ok_iff.2 fun n member =>
      Amount.exists_toBinary64_iff.2 (ofInt?_word (words n member))
  obtain ⟨doubles, numbers⟩ := numbers
  exact ⟨_, by rw [doubleSum, numbers, ok_bind]; rfl⟩

/-- Lengths that are words of 64 bits have a summary, taken from the sorted lengths. -/
theorem ofLengths_of_words (some_length : lengths ≠ [])
    (words : ∀ n ∈ lengths, isWord64 n = true) :
    ∃ average, ofLengths lengths = .ok {
      count := lengths.length
      average
      minimum := (lengths.mergeSort (· ≤ ·)).head?.getD 0
      maximum := (lengths.mergeSort (· ≤ ·)).getLast?.getD 0
      median := (lengths.mergeSort (· ≤ ·))[lengths.length / 2]?.getD 0 } := by
  have nonempty : ¬ lengths.isEmpty = true := fun none => some_length (List.isEmpty_iff.1 none)
  have all : lengths.all isWord64 = true := List.all_eq_true.2 words
  obtain ⟨sum, sumOk⟩ := exists_doubleSum fun n (member : n ∈ lengths.mergeSort (· ≤ ·)) =>
    words n (List.mem_mergeSort.1 member)
  obtain ⟨average, averageOk⟩ := exists_rounded (by decide : (0 : Int) ≤ averagePlaces)
    (sum.div (Binary64.ofCount lengths.length))
  refine ⟨average, ?_⟩
  rw [ofLengths, if_neg nonempty, all, if_neg (by decide)]
  simp only [List.length_mergeSort]
  rw [sumOk, ok_bind, averageOk, ok_bind]
  rfl

/-- A length that is no word of 64 bits is too large for any summary. -/
theorem ofLengths_of_large (large : ∃ n ∈ lengths, isWord64 n = false) :
    ofLengths lengths = .error .tooLarge := by
  obtain ⟨n, member, beyond⟩ := large
  have nonempty : ¬ lengths.isEmpty = true := by
    rw [List.isEmpty_iff]
    exact List.ne_nil_of_mem member
  have notAll : lengths.all isWord64 = false := by
    rw [List.all_eq_false]
    exact ⟨n, member, by simp [beyond]⟩
  rw [ofLengths, if_neg nonempty, notAll, if_pos (by decide)]
  rfl

theorem words_or_large (lengths : List Int) :
    (∀ n ∈ lengths, isWord64 n = true) ∨ ∃ n ∈ lengths, isWord64 n = false := by
  by_cases words : ∀ n ∈ lengths, isWord64 n = true
  · exact .inl words
  · exact .inr (by simpa using words)

theorem exists_ofLengths_iff :
    (∃ summary, ofLengths lengths = .ok summary) ↔ ∀ n ∈ lengths, isWord64 n = true := by
  constructor
  · rintro ⟨summary, summarizes⟩
    rcases words_or_large lengths with words | large
    · exact words
    · rw [ofLengths_of_large large] at summarizes
      cases summarizes
  · intro words
    by_cases none : lengths = []
    · subst none
      exact ⟨{}, rfl⟩
    · obtain ⟨average, summarizes⟩ := ofLengths_of_words none words
      exact ⟨_, summarizes⟩

theorem ofLengths_eq_error_iff {fault : Fault} :
    ofLengths lengths = .error fault ↔
      fault = .tooLarge ∧ ∃ n ∈ lengths, isWord64 n = false := by
  constructor
  · intro fails
    rcases words_or_large lengths with words | large
    · obtain ⟨summary, summarizes⟩ := exists_ofLengths_iff.2 words
      rw [summarizes] at fails
      cases fails
    · rw [ofLengths_of_large large] at fails
      cases fails
      exact ⟨rfl, large⟩
  · rintro ⟨rfl, large⟩
    exact ofLengths_of_large large

/-- What a summary takes from the lengths. -/
theorem ofLengths_eq_ok (summarizes : ofLengths lengths = .ok summary) :
    summary.count = lengths.length ∧
      (lengths ≠ [] → summary.minimum = (lengths.mergeSort (· ≤ ·)).head?.getD 0 ∧
        summary.maximum = (lengths.mergeSort (· ≤ ·)).getLast?.getD 0 ∧
        summary.median = (lengths.mergeSort (· ≤ ·))[lengths.length / 2]?.getD 0) := by
  have words := exists_ofLengths_iff.1 ⟨summary, summarizes⟩
  by_cases none : lengths = []
  · subst none
    cases summarizes
    exact ⟨rfl, fun some_length => absurd rfl some_length⟩
  · obtain ⟨average, taken⟩ := ofLengths_of_words none words
    rw [taken] at summarizes
    cases summarizes
    exact ⟨rfl, fun _ => ⟨rfl, rfl, rfl⟩⟩

/-- Lengths that are given as values have the summary of the lengths. -/
theorem ofValue_list (lengths : List Int) :
    ofValue (.list (lengths.map .whole)) = ofLengths lengths := by
  have word {n : Int} : wordOf (.whole n) = if isWord64 n then .ok n else .error .tooLarge := rfl
  have items : (lengths.map Value.whole).mapM wordOf = lengths.mapM (wordOf ∘ Value.whole) :=
    List.mapM_map
  rw [ofValue, items]
  rcases words_or_large lengths with words | ⟨n, member, beyond⟩
  · have all : lengths.mapM (wordOf ∘ Value.whole) = .ok lengths := by
      rw [mapM_eq_ok_iff, List.forall₂_same]
      intro n member
      rw [Function.comp_apply, word, if_pos (words n member)]
    rw [all, ok_bind]
  · have fails : lengths.mapM (wordOf ∘ Value.whole) = .error .tooLarge := by
      refine mapM_eq_error (fun m _ => ?_) ⟨n, member, ?_⟩
      · rw [Function.comp_apply, word]
        split
        · exact .inr ⟨m, rfl⟩
        · exact .inl rfl
      · rw [Function.comp_apply, word, if_neg (by simp [beyond])]
    rw [fails, ofLengths_of_large ⟨n, member, beyond⟩]
    rfl

/-! ## What a summary says -/

/-- Lengths in another order have the same summary. -/
theorem ofLengths_perm {lengths' : List Int} (same : lengths.Perm lengths') :
    ofLengths lengths = ofLengths lengths' := by
  have sorted : lengths.mergeSort (· ≤ ·) = lengths'.mergeSort (· ≤ ·) :=
    List.Perm.eq_of_pairwise (fun a b _ _ => Int.le_antisymm) (sorted_lengths lengths)
      (sorted_lengths lengths')
      ((List.mergeSort_perm _ _).trans (same.trans (List.mergeSort_perm _ _).symm))
  rw [ofLengths, ofLengths, sorted, same.isEmpty_eq, same.all_eq]

/-- The count, the bounds and the upper median of lengths. -/
structure Describes (summary : LengthSummary) (lengths : List Int) : Prop where
  count : summary.count = lengths.length
  minimum_mem : summary.minimum ∈ lengths
  minimum_le : ∀ n ∈ lengths, summary.minimum ≤ n
  maximum_mem : summary.maximum ∈ lengths
  le_maximum : ∀ n ∈ lengths, n ≤ summary.maximum
  median_mem : summary.median ∈ lengths
  below_median : lengths.length / 2 + 1 ≤ lengths.countP (· ≤ summary.median)
  above_median : lengths.length - lengths.length / 2 ≤ lengths.countP (summary.median ≤ ·)

theorem describes_of_ofLengths (some_length : lengths ≠ [])
    (summarizes : ofLengths lengths = .ok summary) : summary.Describes lengths := by
  obtain ⟨count, taken⟩ := ofLengths_eq_ok summarizes
  obtain ⟨minimum, maximum, median⟩ := taken some_length
  have nonempty : 0 < lengths.length := List.length_pos_of_ne_nil some_length
  have sorted := sorted_lengths lengths
  have same : (lengths.mergeSort (· ≤ ·)).Perm lengths := List.mergeSort_perm _ _
  generalize lengths.mergeSort (· ≤ ·) = ascending at *
  rw [← same.length_eq] at nonempty median
  have middle : ascending.length / 2 < ascending.length := Nat.div_lt_self nonempty (by decide)
  rw [List.head?_eq_getElem?, List.getElem?_eq_getElem nonempty, Option.getD_some] at minimum
  rw [List.getLast?_eq_getElem?, List.getElem?_eq_getElem (by omega), Option.getD_some] at maximum
  rw [List.getElem?_eq_getElem middle, Option.getD_some] at median
  have ascends {n : Int} (member : n ∈ lengths) : ascending[0] ≤ n ∧
      n ≤ ascending[ascending.length - 1] := by
    obtain ⟨i, inside, rfl⟩ := List.getElem_of_mem (same.mem_iff.2 member)
    exact ⟨sorted.rel_get_of_le (a := ⟨0, nonempty⟩) (b := ⟨i, inside⟩) (Nat.zero_le i),
      sorted.rel_get_of_le (a := ⟨i, inside⟩) (b := ⟨ascending.length - 1, by omega⟩)
        (Nat.le_sub_one_of_lt inside)⟩
  have isLength {n : Int} (member : n ∈ ascending) : n ∈ lengths := same.mem_iff.1 member
  refine ⟨count, ?_, fun n member => ?_, ?_, fun n member => ?_, ?_, ?_, ?_⟩
  · exact minimum ▸ isLength (List.getElem_mem _)
  · exact minimum ▸ (ascends member).1
  · exact maximum ▸ isLength (List.getElem_mem _)
  · exact maximum ▸ (ascends member).2
  · exact median ▸ isLength (List.getElem_mem _)
  · rw [median, ← same.length_eq, ← same.countP_eq]
    exact succ_le_countP sorted middle
  · rw [median, ← same.length_eq, ← same.countP_eq]
    exact length_sub_le_countP sorted middle

end LengthSummary

/-- **A summary is right for any lengths.**  Lengths that are words of 64 bits have a summary,
with their number, their least and their greatest, and a median that is reached by more than
half of them from below and by at least half of them from above.  The order of the lengths
does not count, and there is no summary if and only if a length is no word of 64 bits. -/
theorem lengths_summarized (lengths : List Int) :
    (lengths ≠ [] → (∀ n ∈ lengths, -2 ^ 63 ≤ n ∧ n < 2 ^ 63) →
      ∃ summary, LengthSummary.ofLengths lengths = .ok summary ∧ summary.Describes lengths) ∧
    (∀ lengths', lengths.Perm lengths' →
      LengthSummary.ofLengths lengths' = LengthSummary.ofLengths lengths) ∧
    (∀ fault, LengthSummary.ofLengths lengths = .error fault ↔
      fault = .tooLarge ∧ ∃ n ∈ lengths, ¬ (-2 ^ 63 ≤ n ∧ n < 2 ^ 63)) := by
  refine ⟨fun some_length words => ?_, fun lengths' same => ?_, fun fault => ?_⟩
  · obtain ⟨summary, summarizes⟩ := LengthSummary.exists_ofLengths_iff.2 fun n member =>
      LengthSummary.isWord64_iff.2 (words n member)
    exact ⟨summary, summarizes, LengthSummary.describes_of_ofLengths some_length summarizes⟩
  · exact (LengthSummary.ofLengths_perm same).symm
  · rw [LengthSummary.ofLengths_eq_error_iff]
    simp only [← LengthSummary.isWord64_iff, Bool.not_eq_true]

/-- Of an even number of lengths the median is the upper one in the middle, and the first
number that is no word of 64 bits is too large. -/
theorem lengths_summarized_evenCount :
    ([7, 3, 5, 9] : List Int) ≠ [] ∧ (∀ n ∈ [7, 3, 5, 9], -2 ^ 63 ≤ n ∧ n < (2 : Int) ^ 63) ∧
    (∃ summary, LengthSummary.ofLengths [7, 3, 5, 9] = .ok summary ∧
      summary.Describes [7, 3, 5, 9] ∧ summary.median = 7) ∧
    LengthSummary.ofLengths [9, 7, 5, 3] = LengthSummary.ofLengths [7, 3, 5, 9] ∧
    LengthSummary.ofLengths [1, 2 ^ 63] = .error .tooLarge := by
  have some_length : ([7, 3, 5, 9] : List Int) ≠ [] := by decide
  have words : ∀ n ∈ [7, 3, 5, 9], -2 ^ 63 ≤ n ∧ n < (2 : Int) ^ 63 := by decide
  obtain ⟨summary, summarizes, describes⟩ :=
    (lengths_summarized [7, 3, 5, 9]).1 some_length words
  have median : summary.median = 7 := by
    have member := describes.median_mem
    have below := describes.below_median
    have above := describes.above_median
    generalize summary.median = median at *
    simp only [List.mem_cons, List.not_mem_nil, or_false] at member
    rcases member with rfl | rfl | rfl | rfl
    · rfl
    all_goals revert below above; decide
  exact ⟨some_length, words, ⟨summary, summarizes, describes, median⟩,
    (lengths_summarized [7, 3, 5, 9]).2.1 _ (by decide),
    ((lengths_summarized [1, 2 ^ 63]).2.2 _).2 ⟨rfl, 2 ^ 63, by decide, by decide⟩⟩

end LineCensus
