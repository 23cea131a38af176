/-
# Proofs.Decisions -- decision points are whole words and runs of operators

`decisionPoints` goes through a text character by character, tries the decision words
where a word begins, and takes operators in pairs.  This module counts by runs
instead: `Text.runs p` are the stretches of characters that satisfy `p` and are as long
as can be, and `runDecisions` gives one point for every run of word characters that is a
decision word, and half its length, rounded down, for every run of `&` and of `|`.

* `Text.weigh_eq`: a count over runs is that of the first run and those after it.
* `decisionWordsFrom_eq`, `operatorsFrom_eq`: the two walks count the same.
* `complexity_exact`: the complexity of a file is one more than the points of its whole
  text.  A line feed is in no run, so no run goes across a line end
  (`runDecisions_append_cons`).
-/
import LineCensus.Measure.File
import Mathlib.Data.List.Basic

set_option autoImplicit false

namespace LineCensus

/-! ## Runs -/

namespace Text

/-- The maximal runs of characters that satisfy `p`, from left to right. -/
def runs (p : Char → Bool) (text : Text) : List Text :=
  (text.splitOnP fun c => !p c).filter fun run => !run.isEmpty

/-- The sum of the weights of the runs. -/
def weigh (p : Char → Bool) (weight : Text → Nat) (text : Text) : Nat :=
  sumNat ((text.runs p).map weight)

end Text

/-- The words that are decision points. -/
def pointWords : List Text :=
  ["if", "unless", "while", "until", "for", "case", "rescue", "ensure"].map String.toList

/-- A word is one point or none. -/
def wordPoints (word : Text) : Nat :=
  if word ∈ pointWords then 1 else 0

/-- A run of one character is a point for every two of them. -/
def pairPoints (run : Text) : Nat :=
  run.length / 2

/-- The decision points of a text, counted by its runs. -/
def runDecisions (text : Text) : Nat :=
  text.weigh isWord wordPoints + text.weigh (· == '&') pairPoints
    + text.weigh (· == '|') pairPoints

namespace Text

variable {p : Char → Bool} {weight : Text → Nat}

theorem weigh_nil : weigh p weight [] = 0 := by
  simp [weigh, runs, List.splitOnP_nil]

/-- A character outside ends the runs before it and begins none. -/
theorem weigh_append_cons {c : Char} (outside : p c = false) (before rest : Text) :
    weigh p weight (before ++ c :: rest) = weigh p weight before + weigh p weight rest := by
  have cut : (before ++ c :: rest).splitOnP (fun c => !p c) =
      before.splitOnP (fun c => !p c) ++ rest.splitOnP fun c => !p c :=
    List.splitOnP_append_cons before rest (by simp [outside])
  simp only [weigh, runs, cut, List.filter_append, List.map_append, sumNat_append]

theorem weigh_cons_of_outside {c : Char} (outside : p c = false) (rest : Text) :
    weigh p weight (c :: rest) = weigh p weight rest := by
  have cut : weigh p weight ([] ++ c :: rest) = weigh p weight [] + weigh p weight rest :=
    weigh_append_cons outside [] rest
  rwa [List.nil_append, weigh_nil, Nat.zero_add] at cut

/-- A text without a character outside is one run, or none if it is empty. -/
theorem weigh_of_inside (light : weight [] = 0) {text : Text} (inside : ∀ c ∈ text, p c = true) :
    weigh p weight text = weight text := by
  have whole : (text.splitOnP fun c => !p c) = [text] :=
    List.splitOnP_eq_singleton fun c member => by simp [inside c member]
  cases text with
  | nil => rw [weigh_nil, light]
  | cons c rest => simp [weigh, runs, whole]

/-- The first run is the longest head inside; the others are those of what is left. -/
theorem weigh_eq (light : weight [] = 0) (text : Text) :
    weigh p weight text = weight (text.takeWhile p) + weigh p weight (text.dropWhile p) := by
  have head : weigh p weight (text.takeWhile p) = weight (text.takeWhile p) :=
    weigh_of_inside light (List.all_eq_true.1 List.all_takeWhile)
  conv_lhs => rw [← List.takeWhile_append_dropWhile (p := p) (l := text)]
  cases left : text.dropWhile p with
  | nil => rw [List.append_nil, weigh_nil, head, Nat.add_zero]
  | cons c rest =>
      have outside : p c = false := by
        have := List.head?_dropWhile_not p text
        simpa [left] using this
      rw [weigh_append_cons outside, weigh_cons_of_outside outside, head]

end Text

/-- A line feed is in no run, so the points of two texts add up across it. -/
theorem runDecisions_append_cons (before rest : Text) :
    runDecisions (before ++ '\n' :: rest) = runDecisions before + runDecisions rest := by
  have noWord : isWord '\n' = false := by decide
  unfold runDecisions
  rw [Text.weigh_append_cons noWord, Text.weigh_append_cons (by decide),
    Text.weigh_append_cons (by decide)]
  omega

/-! ## Words -/

/-- A word stands at the head of a text exactly if it is the first run. -/
theorem headIs_iff {word : Text} (letters : ∀ c ∈ word, isWord c = true) (text : Text) :
    word.headIs text = true ↔ text.takeWhile isWord = word := by
  induction word generalizing text with
  | nil => cases text <;> simp [Text.headIs, List.takeWhile_cons]
  | cons w word ih =>
      have wordStarts : isWord w = true := letters w (by simp)
      have later := ih fun c member => letters c (List.mem_cons_of_mem w member)
      cases text with
      | nil => simp [Text.headIs]
      | cons c rest =>
          by_cases same : w = c
          · subst same
            rw [List.takeWhile_cons_of_pos wordStarts, List.cons.injEq, ← later rest]
            simp [Text.headIs]
          · have otherHead : List.takeWhile isWord (c :: rest) ≠ w :: word := by
              intro equal
              cases inside : isWord c with
              | false => simp [inside] at equal
              | true =>
                  rw [List.takeWhile_cons_of_pos inside, List.cons.injEq] at equal
                  exact same equal.1.symm
            simp [Text.headIs, List.isPrefixOf, same, otherHead]

/-- Words that are all of word characters. -/
theorem letters_of_all {words : List Text} (inside : words.all (·.all isWord) = true) :
    ∀ word ∈ words, ∀ c ∈ word, isWord c = true := by
  intro word member
  exact List.all_eq_true.1 (List.all_eq_true.1 inside word member)

theorem any_headIs_iff (text : Text) :
    decisionWords.any (·.headIs text) = true ↔ text.takeWhile isWord ∈ pointWords := by
  have letters := letters_of_all (by decide +kernel : decisionWords.all (·.all isWord) = true)
  have sameWords : decisionWords = pointWords := by decide
  rw [List.any_eq_true, ← sameWords]
  constructor
  · rintro ⟨word, member, head⟩
    rwa [(headIs_iff (letters word member) text).1 head]
  · intro member
    exact ⟨_, member, (headIs_iff (letters _ member) text).2 rfl⟩

/-- The walk counts the runs that are decision words.  While a word goes on, the first
run of the rest is its end and does not count. -/
theorem decisionWordsFrom_eq (inWord : Bool) (count : Nat) (text : Text) :
    decisionWordsFrom inWord count text =
      count + Text.weigh isWord wordPoints (if inWord then text.dropWhile isWord else text) := by
  have light : wordPoints [] = 0 := by decide
  induction text generalizing inWord count with
  | nil => simp [decisionWordsFrom, Text.weigh_nil]
  | cons c rest ih =>
      rw [decisionWordsFrom, ih]
      cases inside : isWord c with
      | false =>
          have noRun : (c :: rest).takeWhile isWord = [] :=
            List.takeWhile_cons_of_neg (by simp [inside])
          have noWord : decisionWords.any (·.headIs (c :: rest)) = false := by
            rw [← Bool.not_eq_true, any_headIs_iff, noRun]
            decide
          have stays : (c :: rest).dropWhile isWord = c :: rest :=
            List.dropWhile_cons_of_neg (by simp [inside])
          simp [noWord, stays, Text.weigh_cons_of_outside inside]
      | true =>
          have passes : (c :: rest).dropWhile isWord = rest.dropWhile isWord :=
            List.dropWhile_cons_of_pos inside
          cases inWord with
          | true => simp [passes]
          | false =>
              have first := Text.weigh_eq (p := isWord) light (c :: rest)
              have found := any_headIs_iff (c :: rest)
              rw [passes] at first
              simp only [Bool.not_false, Bool.true_and, if_true, Bool.false_eq_true, if_false,
                found, first, wordPoints]
              split <;> omega

/-! ## Operators -/

/-- Two of a character that come first are one point. -/
theorem weigh_pair (mark : Char) (rest : Text) :
    Text.weigh (· == mark) pairPoints (mark :: mark :: rest) =
      1 + Text.weigh (· == mark) pairPoints rest := by
  have light : pairPoints [] = 0 := rfl
  rw [Text.weigh_eq light, Text.weigh_eq light rest]
  simp only [List.takeWhile_cons, List.dropWhile_cons, beq_self_eq_true, if_true, pairPoints,
    List.length_cons]
  omega

/-- A character that is not one of two comes to nothing. -/
theorem weigh_single {mark c : Char} {rest : Text}
    (single : ∀ more, c = mark → rest ≠ mark :: more) :
    Text.weigh (· == mark) pairPoints (c :: rest) = Text.weigh (· == mark) pairPoints rest := by
  by_cases same : c = mark
  · subst same
    have noRun : rest.takeWhile (· == c) = [] ∧ rest.dropWhile (· == c) = rest := by
      cases rest with
      | nil => simp
      | cons d more =>
          have other : d ≠ c := fun equal => single more rfl (by rw [equal])
          simp [other]
    rw [Text.weigh_eq rfl]
    simp [noRun, pairPoints]
  · exact Text.weigh_cons_of_outside (by simpa using same) rest

/-- The walk counts half of every run. -/
theorem operatorsFrom_eq (count : Nat) (text : Text) :
    operatorsFrom count text =
      count + (Text.weigh (· == '&') pairPoints text + Text.weigh (· == '|') pairPoints text) := by
  fun_induction operatorsFrom count text with
  | case1 count rest ih =>
      rw [ih, weigh_pair, weigh_single (by simp), weigh_single (by simp)]
      omega
  | case2 count rest ih =>
      rw [ih, weigh_pair '|', weigh_single (by simp), weigh_single (by simp)]
      omega
  | case3 count c rest notAnd notOr ih =>
      rw [ih, weigh_single notAnd, weigh_single notOr]
  | case4 count => simp [Text.weigh_nil]

theorem decisionPoints_eq (text : Text) : decisionPoints text = runDecisions text := by
  rw [decisionPoints, decisionWordsFrom_eq, operatorsFrom_eq, runDecisions]
  simp only [Bool.false_eq_true, if_false]
  omega

/-! ## Files -/

/-- Points are counted line by line or in the lines joined. -/
theorem sum_decisionPoints (lines : List Line) :
    sumNat (lines.map (decisionPoints ·.raw)) =
      runDecisions (List.intercalate ['\n'] (lines.map (·.raw))) := by
  induction lines with
  | nil => decide
  | cons line rest ih =>
      rw [List.map_cons, sumNat_cons, ih, decisionPoints_eq]
      cases rest with
      | nil => simp [runDecisions, Text.weigh_nil]
      | cons next more =>
          rw [List.map_cons, List.map_cons, List.map_cons, List.intercalate_cons_cons,
            List.append_assoc, List.singleton_append, runDecisions_append_cons]

/-- **The complexity of a file is one more than the decision points of its whole text**:
of the texts of its lines, joined by line feeds, it counts every run of word characters
that is a decision word, and half of every run of `&` and of `|`. -/
theorem complexity_exact (path : String) (texts : List Text) :
    (FileMeasure.ofLines path (texts.map Line.classify)).complexity =
      1 + (runDecisions
        (List.intercalate ['\n'] ((texts.map Line.classify).map (·.raw))) : Int) := by
  rw [← sum_decisionPoints]
  rfl

/-- Three bars are one operator, and a word that goes on is no decision word. -/
example : runDecisions "if a || b ||| ifs && c".toList = 4 := by decide +kernel

end LineCensus
