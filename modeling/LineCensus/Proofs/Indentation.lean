/-
# Proofs.Indentation -- white space around a line changes nothing

A line is classified by its text without the white space around it, but its decision
points are counted in the text as it stands.  The two views agree: a blank character
is in no word and in no operator, so it ends runs and begins none
(`runDecisions_padded`), and what is cut off a line is blank (`Text.eq_padded_trim`).

* `Line.classify_trim`: a line is classified as its trimmed text is, apart from the text
  that it keeps as it stands.
* `FileMeasure.ofLines_classify`: nor does the measure of a file need that text.
* `measure_padded`: so lines can be indented in any way, each by its own white space.
-/
import LineCensus.Proofs.Decisions
import Mathlib.Data.List.DropRight

set_option autoImplicit false

namespace LineCensus

/-! ## White space is in no run -/

/-- No blank character is a word character. -/
theorem isWord_of_isBlank {c : Char} (blank : isBlank c = true) : isWord c = false := by
  have listed : c.toNat ∈ List.range' 9 5 ++ List.range' 28 5 ++ [0x85, 0xA0, 0x1680]
      ++ List.range' 0x2000 11 ++ [0x2028, 0x2029, 0x202F, 0x205F, 0x3000] := by
    simp only [isBlank, Bool.or_eq_true, Bool.and_eq_true, decide_eq_true_eq, beq_iff_eq] at blank
    simp only [List.mem_append, List.mem_range'_1, List.mem_cons, List.not_mem_nil, or_false]
    omega
  rw [← Char.ofNat_toNat c]
  generalize c.toNat = point at listed
  revert point
  decide +kernel

namespace Text

variable {p : Char → Bool} {weight : Text → Nat}

theorem weigh_of_outside {text : Text} (outside : ∀ c ∈ text, p c = false) :
    weigh p weight text = 0 := by
  induction text with
  | nil => exact weigh_nil
  | cons c rest ih =>
      rw [weigh_cons_of_outside (outside c (by simp))]
      exact ih fun d member => outside d (List.mem_cons_of_mem c member)

/-- Characters outside on both ends leave the runs as they are. -/
theorem weigh_padded {before after : Text} (text : Text) (outBefore : ∀ c ∈ before, p c = false)
    (outAfter : ∀ c ∈ after, p c = false) :
    weigh p weight (before ++ text ++ after) = weigh p weight text := by
  have noHead : weigh p weight (before ++ text) = weigh p weight text := by
    induction before with
    | nil => rfl
    | cons c rest ih =>
        rw [List.cons_append, weigh_cons_of_outside (outBefore c (by simp))]
        exact ih fun d member => outBefore d (List.mem_cons_of_mem c member)
  cases after with
  | nil => rw [List.append_nil, noHead]
  | cons c rest =>
      have noTail : weigh p weight rest = 0 :=
        weigh_of_outside fun d member => outAfter d (List.mem_cons_of_mem c member)
      rw [weigh_append_cons (outAfter c (by simp)), noHead, noTail, Nat.add_zero]

end Text

/-- White space around a text has no part in its decision points. -/
theorem runDecisions_padded {before after : Text} (text : Text)
    (blankBefore : ∀ c ∈ before, isBlank c = true) (blankAfter : ∀ c ∈ after, isBlank c = true) :
    runDecisions (before ++ text ++ after) = runDecisions text := by
  have padded (p : Char → Bool) (weight : Text → Nat)
      (outside : ∀ c, isBlank c = true → p c = false) :
      Text.weigh p weight (before ++ text ++ after) = Text.weigh p weight text :=
    Text.weigh_padded text (fun c member => outside c (blankBefore c member))
      fun c member => outside c (blankAfter c member)
  have noMark (mark : Char) (dark : isBlank mark = false) (c : Char) (blank : isBlank c = true) :
      (c == mark) = false := by
    rw [beq_eq_false_iff_ne]
    rintro rfl
    rw [dark] at blank
    cases blank
  unfold runDecisions
  rw [padded isWord wordPoints fun _ => isWord_of_isBlank,
    padded (· == '&') pairPoints (noMark '&' (by decide)),
    padded (· == '|') pairPoints (noMark '|' (by decide))]

/-! ## What is cut off -/

namespace Text

variable {p : Char → Bool}

theorem eq_dropEndWhile_append (p : Char → Bool) (text : Text) :
    ∃ cut : Text, (∀ c ∈ cut, p c = true) ∧ text = text.dropEndWhile p ++ cut := by
  exact ⟨text.rtakeWhile p, fun c member => List.mem_rtakeWhile_imp member,
    List.rdropWhile_append_rtakeWhile.symm⟩

theorem dropEndWhile_append {after : Text} (text : Text) (cut : ∀ c ∈ after, p c = true) :
    (text ++ after).dropEndWhile p = text.dropEndWhile p := by
  have all : ∀ c ∈ after.reverse, p c = true := fun c member => cut c (List.mem_reverse.1 member)
  rw [dropEndWhile, List.reverse_append, List.dropWhile_append_of_pos all, dropEndWhile]

/-- A text is its trimmed text with white space around it. -/
theorem eq_padded_trim (text : Text) :
    ∃ before after : Text, (∀ c ∈ before, isBlank c = true) ∧ (∀ c ∈ after, isBlank c = true) ∧
      text = before ++ text.trim ++ after := by
  obtain ⟨after, blankAfter, whole⟩ := eq_dropEndWhile_append isBlank text.trimStart
  refine ⟨text.takeWhile isBlank, after, fun c member => List.mem_takeWhile_imp member,
    blankAfter, ?_⟩
  rw [List.append_assoc, trim, trimEnd, ← whole, trimStart, List.takeWhile_append_dropWhile]

/-- Trimming takes away whatever white space stands around a text. -/
theorem trim_padded {before after : Text} (text : Text)
    (blankBefore : ∀ c ∈ before, isBlank c = true) (blankAfter : ∀ c ∈ after, isBlank c = true) :
    (before ++ text ++ after).trim = text.trim := by
  have start : (before ++ text ++ after).trimStart = (text ++ after).trimStart := by
    rw [List.append_assoc, trimStart, List.dropWhile_append_of_pos blankBefore, trimStart]
  rw [trim, start, trimStart, trim, trimStart, List.dropWhile_append]
  split
  · -- The text is blank throughout, so nothing is left of it or of what follows it.
    rename_i gone
    rw [List.isEmpty_iff.1 gone, trimEnd, trimEnd]
    have same := dropEndWhile_append ([] : Text)
      fun c member => blankAfter c (List.dropWhile_subset isBlank member)
    rwa [List.nil_append] at same
  · exact dropEndWhile_append _ blankAfter

theorem trim_trim (text : Text) : text.trim.trim = text.trim := by
  obtain ⟨before, after, blankBefore, blankAfter, whole⟩ := text.eq_padded_trim
  have same := trim_padded text.trim blankBefore blankAfter
  rw [← whole] at same
  exact same.symm

theorem isBlank_of_isLineEnd {c : Char} (ends : isLineEnd c = true) : isBlank c = true := by
  simp only [isLineEnd, Bool.or_eq_true, beq_iff_eq] at ends
  rcases ends with rfl | rfl <;> decide

theorem withoutEnd_trim (text : Text) : text.trim.dropEndWhile isLineEnd = text.trim := by
  refine List.rdropWhile_eq_self_iff.2 fun nonempty ends => ?_
  exact List.rdropWhile_last_not isBlank text.trimStart nonempty (isBlank_of_isLineEnd ends)

/-- The end of a line is white space. -/
theorem trim_withoutEnd (text : Text) : (text.dropEndWhile isLineEnd).trim = text.trim := by
  obtain ⟨cut, lineEnds, whole⟩ := eq_dropEndWhile_append isLineEnd text
  have start : ∀ c ∈ ([] : Text), isBlank c = true := fun c member => absurd member List.not_mem_nil
  have same := trim_padded (text.dropEndWhile isLineEnd) start
    fun c member => isBlank_of_isLineEnd (lineEnds c member)
  rw [List.nil_append, ← whole] at same
  exact same.symm

end Text

/-! ## Lines -/

namespace Line

/-- A line that keeps nothing of its text but the trimmed text. -/
def bare (line : Line) : Line :=
  { line with raw := line.trimmed }

theorem raw_classify (text : Text) :
    (classify text).raw = text.dropEndWhile isLineEnd := by
  simp only [classify]
  split
  · rfl
  split <;> rfl

/-- A line is classified as its trimmed text is. -/
theorem classify_trim (text : Text) : classify text.trim = (classify text).bare := by
  simp only [classify, Text.trim_withoutEnd, Text.trim_trim, Text.withoutEnd_trim]
  split
  · rfl
  split <;> rfl

theorem trimmed_classify (text : Text) : (classify text).trimmed = text.trim := by
  have same : (classify text.trim).raw = (classify text).trimmed := by rw [classify_trim, bare]
  rw [← same, raw_classify, Text.withoutEnd_trim]

end Line

/-- The decision points of a line are those of its trimmed text. -/
theorem decisionPoints_raw (text : Text) :
    decisionPoints (Line.classify text).raw = runDecisions text.trim := by
  obtain ⟨before, after, blankBefore, blankAfter, whole⟩ :=
    (text.dropEndWhile isLineEnd).eq_padded_trim
  rw [Line.raw_classify, decisionPoints_eq, whole, runDecisions_padded _ blankBefore blankAfter,
    Text.trim_withoutEnd]

/-! ## Measures -/

namespace Tracker

/-- Only the tags of lines count for the tracker. -/
theorem feedFrom_bare (t : Tracker) (number : Int) (lines : List Line) :
    t.feedFrom number (lines.map Line.bare) = t.feedFrom number lines := by
  induction lines generalizing t number with
  | nil => rfl
  | cons line rest ih =>
      rw [List.map_cons, feedFrom, feedFrom, ih]
      rfl

end Tracker

namespace FileMeasure

/-- A measure needs no more of a line than its trimmed text. -/
theorem ofLines_bare (path : String) {lines : List Line}
    (points : ∀ line ∈ lines, decisionPoints line.trimmed = decisionPoints line.raw) :
    ofLines path (lines.map Line.bare) = ofLines path lines := by
  have tracker : Tracker.ofLines (lines.map Line.bare) = Tracker.ofLines lines := by
    rw [Tracker.ofLines, Tracker.feedFrom_bare, Tracker.ofLines]
  have samePoints : (lines.map Line.bare).map (decisionPoints ·.raw) =
      lines.map (decisionPoints ·.raw) := by
    rw [List.map_map]
    exact List.map_congr_left points
  simp only [ofLines, tracker, samePoints, List.length_map, List.countP_map]
  rfl

theorem ofLines_classify (path : String) (texts : List Text) :
    ofLines path ((texts.map Line.classify).map Line.bare) =
      ofLines path (texts.map Line.classify) := by
  refine ofLines_bare path fun line member => ?_
  obtain ⟨text, -, rfl⟩ := List.mem_map.1 member
  rw [decisionPoints_raw, Line.trimmed_classify, decisionPoints_eq]

end FileMeasure

/-! ## Indented lines -/

/-- White space before and after a text. -/
structure Padding where
  before : Text
  after : Text
  blankBefore : ∀ c ∈ before, isBlank c = true
  blankAfter : ∀ c ∈ after, isBlank c = true

/-- A text with white space around it. -/
def Padding.around (padding : Padding) (text : Text) : Text :=
  padding.before ++ text ++ padding.after

theorem Padding.trim_around (padding : Padding) (text : Text) :
    (padding.around text).trim = text.trim :=
  Text.trim_padded text padding.blankBefore padding.blankAfter

theorem Padding.bare_classify (padding : Padding) (text : Text) :
    (Line.classify (padding.around text)).bare = (Line.classify text).bare := by
  rw [← Line.classify_trim, padding.trim_around, Line.classify_trim]

/-- **Structure is free of indentation.**  Whatever white space is put around each line, line
ends included, the file has the same measure, and each line has the same trimmed text, kind,
tag and keyword. -/
theorem measure_padded (path : String) (lines : List (Padding × Text)) :
    FileMeasure.ofLines path
        (lines.map fun (padding, text) => Line.classify (padding.around text)) =
      FileMeasure.ofLines path (lines.map fun (_, text) => Line.classify text) ∧
    ∀ (padding : Padding) (text : Text),
      (Line.classify (padding.around text)).trimmed = (Line.classify text).trimmed ∧
      (Line.classify (padding.around text)).kind = (Line.classify text).kind ∧
      (Line.classify (padding.around text)).tag = (Line.classify text).tag ∧
      (Line.classify (padding.around text)).keyword = (Line.classify text).keyword := by
  refine ⟨?_, fun padding text => ?_⟩
  · have padded := FileMeasure.ofLines_classify path
      (lines.map fun (padding, text) => padding.around text)
    have plain := FileMeasure.ofLines_classify path (lines.map fun (_, text) => text)
    simp only [List.map_map, Function.comp_def, Padding.bare_classify] at padded plain
    rw [← padded, plain]
  · have same := padding.bare_classify text
    simp only [Line.bare, Line.mk.injEq] at same
    obtain ⟨-, trimmed, kind, tag, keyword⟩ := same
    exact ⟨trimmed, kind, tag, keyword⟩

/-- An ideographic space before it and a form feed after it leave an `end` what it is. -/
example : (Line.classify (Char.ofNat 0x3000 :: "end".toList ++ [Char.ofNat 12])).tag =
    .closesBlock := by decide

end LineCensus
