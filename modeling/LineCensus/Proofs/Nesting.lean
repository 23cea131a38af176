/-
# Proofs.Nesting -- the depth of a file is its greatest surplus of openings

The tracker counts depth line by line and stops at zero, so closing lines that close nothing
are forgotten.  Without a tracker, the depth of a file is the greatest surplus of opening over
closing lines in any stretch of consecutive lines, the empty one included.

What makes the two the same is kept at every line (`Peaks`): the depth reached so far is the
greatest surplus of a stretch that ends there, and the greatest depth reached so far is that of
any stretch.  A line either extends the stretches that end before it or starts anew from the
empty one, which is the floor at zero (`Tracker.feed_depth`).

* `Peaks.feed`: the step.
* `nesting_exact`: the depth of a file, in the tracker and in its measure.
-/
import LineCensus.Proofs.Extents
import Mathlib.Order.Bounds.Basic
import Mathlib.Order.MinMax

set_option autoImplicit false

namespace LineCensus

/-! ## Surpluses -/

/-- How many more of the lines open a block than close one. -/
def surplus (lines : List Line) : Int :=
  openings lines - closings lines

/-- What one line adds to a surplus. -/
def LineTag.rise (tag : LineTag) : Int :=
  if tag.opens then 1 else if tag = .closesBlock then -1 else 0

@[simp] theorem surplus_nil : surplus [] = 0 := rfl

@[simp] theorem surplus_snoc (lines : List Line) (line : Line) :
    surplus (lines ++ [line]) = surplus lines + line.tag.rise := by
  simp only [surplus, openings_snoc, closings_snoc, LineTag.rise]
  by_cases opens : line.tag.opens = true
  · have closesNothing : line.tag ≠ .closesBlock := by
      intro closes
      simp [closes, LineTag.opens] at opens
    simp [opens, closesNothing]
    omega
  · by_cases closes : line.tag = .closesBlock
    · simp [closes, LineTag.opens]
      omega
    · simp [opens, closes]

/-! ## One line -/

namespace Tracker

variable (t : Tracker) (tag : LineTag) (number : Int)

/-- The depth follows the surplus, but never below zero. -/
theorem feed_depth : ((t.feed tag number).depth : Int) = max 0 (t.depth + tag.rise) := by
  unfold feed LineTag.rise
  split
  · simp only [enter]
    omega
  split
  · rw [leave_depth]
    omega
  · omega

theorem leave_maxDepth : (t.leave number).maxDepth = t.maxDepth := by
  unfold leave
  split
  · split <;> rfl
  · rfl

/-- The greatest depth is that of any line so far. -/
theorem feed_maxDepth (bounded : t.depth ≤ t.maxDepth) :
    (t.feed tag number).maxDepth = max t.maxDepth (t.feed tag number).depth := by
  unfold feed
  split
  · rfl
  split
  · rw [leave_maxDepth, leave_depth]
    omega
  · omega

end Tracker

/-! ## What the depths are -/

/-- The depths of a tracker after the lines are greatest surpluses. -/
structure Peaks (lines : List Line) (t : Tracker) : Prop where
  /-- Of the stretches that end with the last line. -/
  depth : IsGreatest {b | ∃ stretch, stretch <:+ lines ∧ surplus stretch = b} (t.depth : Int)
  /-- Of all stretches. -/
  maxDepth : IsGreatest {b | ∃ stretch, stretch <:+: lines ∧ surplus stretch = b} (t.maxDepth : Int)

namespace Peaks

variable {lines : List Line} {t : Tracker}

theorem empty : Peaks [] {} where
  depth := by
    refine ⟨⟨[], List.suffix_rfl, rfl⟩, ?_⟩
    rintro b ⟨stretch, inside, rfl⟩
    rw [List.suffix_nil.1 inside]
    exact Int.le_refl 0
  maxDepth := by
    refine ⟨⟨[], List.infix_rfl, rfl⟩, ?_⟩
    rintro b ⟨stretch, inside, rfl⟩
    rw [List.infix_nil.1 inside]
    exact Int.le_refl 0

theorem depth_le (peaks : Peaks lines t) : t.depth ≤ t.maxDepth := by
  obtain ⟨stretch, ends, reached⟩ := peaks.depth.1
  have below := peaks.maxDepth.2 ⟨stretch, ends.isInfix, reached⟩
  exact Int.ofNat_le.1 below

/-- The stretches that end with a new line: the empty one, and those that end before it with
the line behind them. -/
theorem feed_depth (peaks : Peaks lines t) (line : Line) (number : Int) :
    IsGreatest {b | ∃ stretch, stretch <:+ lines ++ [line] ∧ surplus stretch = b}
      ((t.feed line.tag number).depth : Int) := by
  rw [Tracker.feed_depth]
  constructor
  · rcases max_choice 0 ((t.depth : Int) + line.tag.rise) with floor | above
    · rw [floor]
      exact ⟨[], List.nil_suffix, rfl⟩
    · rw [above]
      obtain ⟨stretch, ends, reached⟩ := peaks.depth.1
      refine ⟨stretch ++ [line], ?_, by rw [surplus_snoc, reached]⟩
      exact List.suffix_concat_iff.2 (.inr ⟨stretch, rfl, ends⟩)
  · rintro b ⟨stretch, ends, rfl⟩
    rcases List.suffix_concat_iff.1 ends with rfl | ⟨before, rfl, endsBefore⟩
    · exact le_max_left _ _
    · have below := peaks.depth.2 ⟨before, endsBefore, rfl⟩
      rw [surplus_snoc]
      apply le_max_of_le_right
      omega

/-- **Every line keeps the depths greatest surpluses.** -/
theorem feed (peaks : Peaks lines t) (line : Line) (number : Int) :
    Peaks (lines ++ [line]) (t.feed line.tag number) where
  depth := peaks.feed_depth line number
  maxDepth := by
    have here := peaks.feed_depth line number
    rw [Tracker.feed_maxDepth t line.tag number peaks.depth_le]
    constructor
    · rcases max_choice t.maxDepth (t.feed line.tag number).depth with old | new
      · rw [old]
        obtain ⟨stretch, inside, reached⟩ := peaks.maxDepth.1
        exact ⟨stretch, List.infix_concat_iff.2 (.inr inside), reached⟩
      · rw [new]
        obtain ⟨stretch, ends, reached⟩ := here.1
        exact ⟨stretch, ends.isInfix, reached⟩
    · rintro b ⟨stretch, inside, rfl⟩
      rcases List.infix_concat_iff.1 inside with ends | before
      · have below := here.2 ⟨stretch, ends, rfl⟩
        omega
      · have below := peaks.maxDepth.2 ⟨stretch, before, rfl⟩
        omega

/-- The lines of a file keep them so. -/
theorem feedFrom (peaks : Peaks lines t) (number : Int) (rest : List Line) :
    Peaks (lines ++ rest) (t.feedFrom number rest) := by
  induction rest generalizing lines t number with
  | nil => simpa [Tracker.feedFrom] using peaks
  | cons line rest ih =>
      have after := ih (peaks.feed line number) (number + 1)
      rwa [List.append_assoc, List.singleton_append] at after

end Peaks

/-! ## The depth of a file -/

/-- **The depth of a file is its greatest surplus.**  Some stretch of consecutive lines, perhaps
the empty one, opens as many blocks more than it closes, and none opens more than that; the
measure of the file has the same depth. -/
theorem nesting_exact (path : String) (lines : List Line) :
    IsGreatest
      {b : Int | ∃ stretch, stretch <:+: lines ∧ (openings stretch : Int) - closings stretch = b}
      (Tracker.ofLines lines).maxDepth ∧
    (FileMeasure.ofLines path lines).maxNestingDepth = (Tracker.ofLines lines).maxDepth := by
  have peaks : Peaks lines (({} : Tracker).feedFrom 1 lines) := Peaks.empty.feedFrom 1 lines
  exact ⟨peaks.maxDepth, rfl⟩

/-- Closing lines too many in the middle: the stretch behind them decides. -/
example :
    let lines := ["if x", "end", "end", "end", "def m", "if y", "end"].map (Line.classify ·.toList)
    (Tracker.ofLines lines).maxDepth = 2 ∧ surplus lines = -1 := by
  decide

end LineCensus
