/-
# Proofs.Fragments -- the facts of a manifest in two parts

A manifest can be put together of two texts.  If the first is empty or ends with a line feed, no
row goes across the cut (`Text.rows_append`), and no word that is looked for does, since none has a
line feed in it (`mentions_append`).  So the rows are counted one by one in either part, a word
stands in the whole if it stands in a part, and the facts of the whole are put together of those of
the parts (`facts_appended`).

The line feed matters: a carriage return ends a row as well, but a line feed behind it would be
part of the same end, and a word can be cut in two anywhere else.
-/
import LineCensus.Manifest.Facts
import Mathlib.Data.List.Infix

set_option autoImplicit false

namespace LineCensus
namespace Text

/-! ## Words -/

theorem occursIn_iff {part text : Text} : part.occursIn text = true ↔ part <:+: text := by
  induction text with
  | nil => simp [occursIn]
  | cons c rest ih =>
      rw [occursIn, List.infix_cons_iff, ← ih, ← List.isPrefixOf_iff_prefix]
      by_cases here : part.isPrefixOf (c :: rest) = true
      · simp [here]
      · simp [here]

/-- A text that does not hold the last character of the first part stands in one of the parts if
it stands in both together. -/
theorem infix_append_iff {part first second : Text}
    (uncut : ∀ c, first.getLast? = some c → c ∉ part) :
    part <:+: first ++ second ↔ part <:+: first ∨ part <:+: second := by
  rw [List.infix_append_iff]
  constructor
  · rintro (inFirst | inSecond | ⟨left, right, rfl, ends, begins⟩)
    · exact .inl inFirst
    · exact .inr inSecond
    · -- What stands on both sides of the cut holds the character before it.
      rcases List.eq_nil_or_concat left with rfl | ⟨before, c, rfl⟩
      · exact .inr begins.isInfix
      · have last : first.getLast? = some c := by
          obtain ⟨earlier, rfl⟩ := ends
          rw [List.concat_eq_append, ← List.append_assoc, List.getLast?_concat]
        exact absurd (by simp) (uncut c last)
  · rintro (inFirst | inSecond)
    · exact .inl inFirst
    · exact .inr (.inl inSecond)

/-! ## Rows -/

/-- A break ends the row before it, so the rows behind it are those of what is left.  After a
carriage return nothing of a row has been read. -/
theorem rowsFrom_append_break {c : Char} (breaks : isRowBreak c = true) (afterReturn : Bool)
    (current : Text) (done : List Text) (fresh : afterReturn = true → current = [])
    (before rest : Text) :
    rowsFrom afterReturn current done (before ++ c :: rest) =
      rowsFrom (c = '\r') [] (rowsFrom afterReturn current done (before ++ [c])).reverse rest := by
  induction before generalizing afterReturn current done with
  | nil =>
      by_cases second : (c = '\n' && afterReturn) = true
      · simp only [Bool.and_eq_true, decide_eq_true_eq] at second
        obtain ⟨rfl, rfl⟩ := second
        simp [rowsFrom, fresh rfl]
      · simp [rowsFrom, second, breaks]
  | cons d before ih =>
      rw [List.cons_append, List.cons_append, rowsFrom, rowsFrom]
      split
      · apply ih
        simp
      split
      · apply ih
        simp
      · apply ih
        simp

/-- The rows that are done stand before the others. -/
theorem rowsFrom_done (afterReturn : Bool) (current : Text) (done : List Text) (text : Text) :
    rowsFrom afterReturn current done text =
      done.reverse ++ rowsFrom afterReturn current [] text := by
  induction text generalizing afterReturn current done with
  | nil =>
      by_cases empty : current.isEmpty = true
      · simp [rowsFrom, empty]
      · simp [rowsFrom, empty]
  | cons c rest ih =>
      rw [rowsFrom, rowsFrom]
      split
      · exact ih false current done
      split
      · rw [ih _ [] (current.reverse :: done), ih _ [] [current.reverse]]
        simp
      · exact ih false (c :: current) done

/-- **The rows of two texts, of which the first is empty or ends with a line feed, are those of
the first and then those of the second.** -/
theorem rows_append {first second : Text} (ends : first = [] ∨ first.getLast? = some '\n') :
    (first ++ second).rows = first.rows ++ second.rows := by
  rcases ends with rfl | ends
  · rfl
  · obtain ⟨before, rfl⟩ := List.getLast?_eq_some_iff.1 ends
    have feed : isRowBreak '\n' = true := by decide
    have cut : rows (before ++ '\n' :: second) =
        rowsFrom false [] (rows (before ++ ['\n'])).reverse second :=
      rowsFrom_append_break feed false [] [] (fun _ => rfl) before second
    rw [List.append_assoc, List.singleton_append, cut, rowsFrom_done, List.reverse_reverse]
    rfl

/-- A carriage return does not do: the line feed behind it belongs to the same end. -/
example :
    (rows "a\r\nb".toList).length = 2 ∧
      (rows "a\r".toList).length + (rows "\nb".toList).length = 3 := by
  decide

end Text

/-! ## Facts -/

/-- A word without a line feed stands in two texts together if it stands in one of them. -/
theorem mentions_append {first second : Text} (ends : first = [] ∨ first.getLast? = some '\n')
    {word : String} (noFeed : '\n' ∉ word.toList) :
    mentions (first ++ second) word = (mentions first word || mentions second word) := by
  have uncut : ∀ c, first.getLast? = some c → c ∉ word.toList := by
    intro c last
    rcases ends with rfl | feed
    · simp at last
    · rw [feed] at last
      cases last
      exact noFeed
  rw [Bool.eq_iff_iff, Bool.or_eq_true]
  simp only [mentions, Text.occursIn_iff]
  exact Text.infix_append_iff uncut

/-- The facts of two dependency lists in one. -/
def GemfileFacts.followedBy (first second : GemfileFacts) : GemfileFacts where
  totalGems := first.totalGems + second.totalGems
  hasSource := first.hasSource || second.hasSource
  hasGroups := first.hasGroups || second.hasGroups
  hasGitDependencies := first.hasGitDependencies || second.hasGitDependencies
  hasPathDependencies := first.hasPathDependencies || second.hasPathDependencies
  lineCount := first.lineCount + second.lineCount

/-- The facts of two package descriptions in one. -/
def GemspecFacts.followedBy (first second : GemspecFacts) : GemspecFacts where
  hasDependencies := first.hasDependencies || second.hasDependencies
  hasDevDependencies := first.hasDevDependencies || second.hasDevDependencies
  hasVersion := first.hasVersion || second.hasVersion
  hasDescription := first.hasDescription || second.hasDescription
  hasHomepage := first.hasHomepage || second.hasHomepage
  lineCount := first.lineCount + second.lineCount

/-- **The facts of two texts in one are put together of theirs.**  If the first text is empty or
ends with a line feed, packages and rows add up, and what is found in one of the two is found in
the whole. -/
theorem facts_appended {first second : Text} (ends : first = [] ∨ first.getLast? = some '\n') :
    GemfileFacts.ofText (first ++ second) =
      (GemfileFacts.ofText first).followedBy (GemfileFacts.ofText second) ∧
    GemspecFacts.ofText (first ++ second) =
      (GemspecFacts.ofText first).followedBy (GemspecFacts.ofText second) := by
  constructor
  · simp (disch := decide) only [GemfileFacts.ofText, GemfileFacts.followedBy,
      mentions_append ends, Text.rows_append ends, List.countP_append, List.length_append,
      Int.natCast_add]
  · simp (disch := decide) only [GemspecFacts.ofText, GemspecFacts.followedBy,
      mentions_append ends, Text.rows_append ends, List.length_append, Int.natCast_add,
      GemspecFacts.mk.injEq, and_true]
    -- The first flag asks for two words in either part.
    ac_rfl

/-- No `source ` is read across the cut, and the packages of either part are counted. -/
theorem facts_appended_splitWord :
    let first := "gem 'a'\r\nsour\n".toList
    let second := "ce 'x'\x0b gem 'b', git: 'y'".toList
    (first = [] ∨ first.getLast? = some '\n') ∧
    GemfileFacts.ofText (first ++ second) =
      { totalGems := 2, hasGitDependencies := true, lineCount := 4 } ∧
    GemspecFacts.ofText (first ++ second) = { lineCount := 4 } := by
  have ends : "gem 'a'\r\nsour\n".toList = [] ∨
      "gem 'a'\r\nsour\n".toList.getLast? = some '\n' := by decide
  obtain ⟨gemfile, gemspec⟩ :=
    @facts_appended _ "ce 'x'\x0b gem 'b', git: 'y'".toList ends
  refine ⟨ends, ?_, ?_⟩
  · rw [gemfile]
    decide
  · rw [gemspec]
    decide

end LineCensus
