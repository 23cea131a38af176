/-
# Proofs.Splicing -- lines behind a file and lines in the middle of it

A tracker goes on from its depth and its open blocks alone.  What it has closed it only
keeps (`Tracker.feedFrom_after`), and the numbers of lines it only copies
(`Tracker.feedFrom_renumber`).  So two runs that differ in their past or in the numbers of
their lines can be followed side by side.

* `Nested.openBlocks_eq_nil`: at depth zero nothing is open, however many closing lines too
  many there were.
* `measure_appended`: from there on a tracker is as good as new, so the measure of two files in
  one is put together from theirs.
* `measure_inserted`: a line without a tag moves the lines behind it down by one, so it
  lengthens the blocks around it and no others.
-/
import LineCensus.Proofs.Counters
import LineCensus.Proofs.Nesting

set_option autoImplicit false

namespace LineCensus

/-! ## The depths of open blocks -/

namespace Tracker

/-- The open blocks lie one in the other, above depth zero and not above the depth of the
tracker. -/
structure Nested (t : Tracker) : Prop where
  strict : t.openBlocks.Pairwise fun inner outer => outer.depth < inner.depth
  within : ∀ block ∈ t.openBlocks, 1 ≤ block.depth ∧ block.depth ≤ t.depth
  highest : t.depth ≤ t.maxDepth

namespace Nested

variable {t : Tracker}

theorem empty : Nested {} where
  strict := .nil
  within := by simp
  highest := Nat.le_refl 0

theorem enter (nested : t.Nested) (kind? : Option Extent.Kind) (number : Int) :
    (t.enter kind? number).Nested where
  strict := by
    cases kind? with
    | none => exact nested.strict
    | some kind =>
        refine .cons ?_ nested.strict
        intro block member
        have := (nested.within block member).2
        exact Nat.lt_succ_of_le this
  within := by
    intro block member
    rcases mem_enter_openBlocks.1 member with ⟨kind, -, rfl⟩ | old
    · simp [Tracker.enter]
    · have := nested.within block old
      simp only [Tracker.enter]
      omega
  highest := by
    simp only [Tracker.enter]
    omega

theorem leave (nested : t.Nested) (number : Int) : (t.leave number).Nested where
  strict := nested.strict.sublist leave_openBlocks_sublist
  within := by
    intro block member
    have bounded : ∀ block ∈ t.openBlocks, block.depth ≤ t.depth :=
      fun block member => (nested.within block member).2
    obtain ⟨old, different⟩ := (mem_leave_openBlocks nested.strict bounded).1 member
    have := nested.within block old
    rw [leave_depth]
    omega
  highest := by
    have := nested.highest
    rw [leave_depth, leave_maxDepth]
    omega

/-- **Every line keeps the blocks nested**, whatever its number. -/
theorem feed (nested : t.Nested) (tag : LineTag) (number : Int) : (t.feed tag number).Nested := by
  unfold Tracker.feed
  split
  · exact nested.enter tag.extentKind? number
  split
  · exact nested.leave number
  · exact nested

theorem feedFrom (nested : t.Nested) (number : Int) (lines : List Line) :
    (t.feedFrom number lines).Nested := by
  induction lines generalizing t number with
  | nil => exact nested
  | cons line rest ih => exact ih (nested.feed line.tag number) (number + 1)

/-- At depth zero nothing is open. -/
theorem openBlocks_eq_nil (nested : t.Nested) (floor : t.depth = 0) : t.openBlocks = [] := by
  apply List.eq_nil_iff_forall_not_mem.2
  intro block member
  have := nested.within block member
  omega

end Nested
end Tracker

/-! ## A past, and other numbers -/

/-- The same extent, with another number for every line. -/
def Extent.renumber (f : Int → Int) (extent : Extent) : Extent :=
  { extent with startLine := f extent.startLine, endLine := f extent.endLine }

theorem Extent.ofKind_renumber (f : Int → Int) (kind : Extent.Kind) (extents : List Extent) :
    ofKind kind (extents.map (renumber f)) = (ofKind kind extents).map (renumber f) := by
  simp only [ofKind, List.filter_map]
  rfl

namespace Tracker

/-- A tracker that has also kept what an earlier one found. -/
def after (earlier t : Tracker) : Tracker :=
  { t with
    maxDepth := max earlier.maxDepth t.maxDepth
    closed := t.closed ++ earlier.closed }

/-- The same tracker, with another number for every line that it has seen. -/
def renumber (f : Int → Int) (t : Tracker) : Tracker :=
  { t with
    closed := t.closed.map (Extent.renumber f)
    openBlocks := t.openBlocks.map fun block => { block with startLine := f block.startLine } }

variable (earlier t : Tracker) (f : Int → Int)

/-- What is closed already has no part in what a line does. -/
theorem feed_after (tag : LineTag) (number : Int) :
    (after earlier t).feed tag number = after earlier (t.feed tag number) := by
  unfold feed
  split
  · simp only [enter, after, Nat.max_assoc]
  split
  · cases shape : t.openBlocks with
    | nil => simp only [leave, after, shape]
    | cons block outer =>
        simp only [leave, after, shape]
        by_cases same : block.depth = t.depth
        · simp only [same, if_true, List.cons_append]
        · simp only [same, if_false]
  · rfl

theorem feedFrom_after (number : Int) (lines : List Line) :
    (after earlier t).feedFrom number lines = after earlier (t.feedFrom number lines) := by
  induction lines generalizing t number with
  | nil => rfl
  | cons line rest ih => rw [feedFrom, feed_after, ih, feedFrom]

/-- Numbers of lines are copied and never compared. -/
theorem feed_renumber (tag : LineTag) (number : Int) :
    (t.renumber f).feed tag (f number) = (t.feed tag number).renumber f := by
  unfold feed
  split
  · cases tag.extentKind? <;> rfl
  split
  · cases shape : t.openBlocks with
    | nil => simp only [leave, renumber, shape, List.map_nil]
    | cons block outer =>
        simp only [leave, renumber, shape, List.map_cons]
        by_cases same : block.depth = t.depth
        · simp only [same, if_true, List.map_cons]
          rfl
        · simp only [same, if_false, List.map_cons]
  · rfl

/-- Consecutive lines stay consecutive if all of them are moved by as much. -/
theorem feedFrom_renumber {number shift : Int} (moves : ∀ n, number ≤ n → f n = n + shift)
    (lines : List Line) :
    (t.renumber f).feedFrom (number + shift) lines = (t.feedFrom number lines).renumber f := by
  induction lines generalizing t number with
  | nil => rfl
  | cons line rest ih =>
      have here := moves number (Int.le_refl number)
      have next : number + shift + 1 = number + 1 + shift := by omega
      rw [feedFrom, ← here, feed_renumber, here, next, ih, feedFrom]
      intro n later
      apply moves
      omega

theorem feedFrom_append (number : Int) (first second : List Line) :
    t.feedFrom number (first ++ second) =
      (t.feedFrom number first).feedFrom (number + first.length) second := by
  induction first generalizing t number with
  | nil => simp [feedFrom]
  | cons line rest ih =>
      have next : number + 1 + (rest.length : Int) = number + (line :: rest).length := by
        simp only [List.length_cons]
        omega
      rw [List.cons_append, feedFrom, ih, feedFrom, next]

end Tracker

/-! ## One file behind another -/

/-- The measure of two files in one.  A file counts for one in the complexity, two files in one
still do. -/
def FileMeasure.followedBy (first second : FileMeasure) : FileMeasure where
  path := first.path
  totalLines := first.totalLines + second.totalLines
  codeLines := first.codeLines + second.codeLines
  commentLines := first.commentLines + second.commentLines
  blankLines := first.blankLines + second.blankLines
  complexity := first.complexity + second.complexity - 1
  maxNestingDepth := max first.maxNestingDepth second.maxNestingDepth
  methodDeclarations := first.methodDeclarations + second.methodDeclarations
  classDeclarations := first.classDeclarations + second.classDeclarations
  moduleDeclarations := first.moduleDeclarations + second.moduleDeclarations
  methodLengths := first.methodLengths ++ second.methodLengths
  classSizes := first.classSizes ++ second.classSizes

namespace Tracker

/-- From depth zero on, the lines of a second file are followed as from its beginning, but with
higher numbers. -/
theorem feedFrom_appended {first : List Line} (second : List Line)
    (floor : (({} : Tracker).feedFrom 1 first).depth = 0) :
    ({} : Tracker).feedFrom 1 (first ++ second) =
      after (({} : Tracker).feedFrom 1 first)
        ((({} : Tracker).feedFrom 1 second).renumber (· + (first.length : Int))) := by
  have nested := Nested.empty.feedFrom 1 first
  have nothing := nested.openBlocks_eq_nil floor
  have fresh : ({} : Tracker).feedFrom 1 first =
      after (({} : Tracker).feedFrom 1 first) (({} : Tracker).renumber (· + (first.length : Int))) := by
    generalize ({} : Tracker).feedFrom 1 first = t at floor nothing
    obtain ⟨depth, maxDepth, closed, openBlocks⟩ := t
    simp only at floor nothing
    subst floor nothing
    simp [after, renumber]
  rw [feedFrom_append]
  nth_rewrite 1 [fresh]
  rw [feedFrom_after, feedFrom_renumber]
  intro n _
  rfl

theorem maxDepth_appended {first : List Line} (second : List Line)
    (floor : (({} : Tracker).feedFrom 1 first).depth = 0) :
    (ofLines (first ++ second)).maxDepth = max (ofLines first).maxDepth (ofLines second).maxDepth := by
  simp only [ofLines, feedFrom_appended second floor]
  rfl

/-- The extents of the first file, and then those of the second, moved down. -/
theorem extents_appended {first : List Line} (second : List Line)
    (floor : (({} : Tracker).feedFrom 1 first).depth = 0) :
    (ofLines (first ++ second)).extents =
      (ofLines first).extents ++
        (ofLines second).extents.map (Extent.renumber (· + (first.length : Int))) := by
  simp only [ofLines, feedFrom_appended second floor, extents, finish, after, renumber,
    List.reverse_append, List.map_reverse]

end Tracker

theorem lengths_appended {first : List Line} (second : List Line)
    (floor : (({} : Tracker).feedFrom 1 first).depth = 0) (kind : Extent.Kind) :
    (Extent.ofKind kind (Tracker.ofLines (first ++ second)).extents).map Extent.length =
      (Extent.ofKind kind (Tracker.ofLines first).extents).map Extent.length ++
        (Extent.ofKind kind (Tracker.ofLines second).extents).map Extent.length := by
  have moved (extent : Extent) :
      (extent.renumber (· + (first.length : Int))).length = extent.length := by
    simp only [Extent.renumber, Extent.length]
    omega
  rw [Tracker.extents_appended second floor, Extent.ofKind, List.filter_append, List.map_append]
  congr 1
  show (Extent.ofKind kind _).map Extent.length = _
  rw [Extent.ofKind_renumber, List.map_map]
  apply List.map_congr_left
  intro extent _
  exact moved extent

/-- **Files that leave nothing open can be measured one by one.**  If the depth is zero behind
the first file, however many closing lines too many it has, then in the measure of both in one
all lines, declarations and decision points add, the greater depth counts, and the lengths
of the first come before those of the second. -/
theorem measure_appended (path : String) (first second : List Line)
    (floor : (({} : Tracker).feedFrom 1 first).depth = 0) :
    FileMeasure.ofLines path (first ++ second) =
      (FileMeasure.ofLines path first).followedBy (FileMeasure.ofLines path second) := by
  have deepest := Tracker.maxDepth_appended second floor
  simp only [FileMeasure.ofLines, FileMeasure.followedBy, lengths_appended second floor, deepest,
    List.length_append, List.countP_append, List.map_append, sumNat_append, Int.natCast_add,
    baseComplexity, FileMeasure.mk.injEq, true_and, and_true]
  omega

/-- A first file with two closing lines too many, and a second one that closes what the first
never opened. -/
def surplusEnds : List Line :=
  ["end", "class A", "  def f", "    x if y && z", "  end", "end", "end"].map (Line.classify ·.toList)

def unfinishedClass : List Line :=
  ["end", "def g", "end", "# more", "class B", "if x"].map (Line.classify ·.toList)

theorem measure_appended_surplusEnds :
    (({} : Tracker).feedFrom 1 surplusEnds).depth = 0 ∧
      FileMeasure.ofLines "a.rb" (surplusEnds ++ unfinishedClass) =
        (FileMeasure.ofLines "a.rb" surplusEnds).followedBy
          (FileMeasure.ofLines "a.rb" unfinishedClass) ∧
      (FileMeasure.ofLines "a.rb" (surplusEnds ++ unfinishedClass)).methodLengths = [3, 2] := by
  have floor : (({} : Tracker).feedFrom 1 surplusEnds).depth = 0 := by decide
  have whole := measure_appended "a.rb" surplusEnds unfinishedClass floor
  refine ⟨floor, whole, ?_⟩
  rw [whole]
  decide

/-! ## A line in the middle of a file -/

/-- The number of a line when another line comes behind line `place`. -/
def makeRoom (place : Nat) (number : Int) : Int :=
  if number ≤ place then number else number + 1

namespace Extent

/-- An extent becomes longer by a line that comes between its first and its last one. -/
theorem length_makeRoom (place : Nat) {extent : Extent} (ordered : extent.startLine < extent.endLine) :
    (extent.renumber (makeRoom place)).length =
      extent.length + if extent.startLine ≤ place ∧ place < extent.endLine then 1 else 0 := by
  simp only [renumber, length, makeRoom]
  split <;> split <;> split <;> omega

end Extent

/-- Every extent begins before it ends. -/
theorem extent_ordered {lines : List Line} {extent : Extent}
    (member : extent ∈ (Tracker.ofLines lines).extents) : extent.startLine < extent.endLine := by
  obtain ⟨kind, first, last, rfl, spans⟩ := (mem_extents_iff lines extent).1 member
  exact Int.ofNat_lt.2 spans.ordered

/-- Numbers that no line has so far can change without effect. -/
theorem Tracks.renumber_eq {lines : List Line} {t : Tracker} (tracks : Tracks lines t)
    {f : Int → Int} (fixed : ∀ n ≤ (lines.length : Int), f n = n) : t.renumber f = t := by
  have closed : t.closed.map (Extent.renumber f) = t.closed := by
    refine (List.map_congr_left ?_).trans (List.map_id _)
    intro extent member
    obtain ⟨kind, first, last, rfl, spans⟩ := (tracks.closed extent).1 member
    have ordered := spans.ordered
    have most := (tagAt?_eq_some spans.closes).2
    simp only [Extent.renumber, fixed first (by omega), fixed last (by omega)]
    rfl
  have openBlocks :
      t.openBlocks.map (fun block => { block with startLine := f block.startLine }) =
        t.openBlocks := by
    refine (List.map_congr_left ?_).trans (List.map_id _)
    intro block member
    obtain ⟨first, start, stays, -⟩ := tracks.openOnly block member
    have least := stays.first_le
    simp only [start, fixed first (by omega)]
    rw [← start]
    rfl
  rw [Tracker.renumber, closed, openBlocks]

namespace Tracker

/-- A line without a tag leaves the tracker as it is, and gives the lines behind it higher
numbers. -/
theorem feedFrom_inserted (before after : List Line) {line : Line} (untagged : line.tag = .plain) :
    ({} : Tracker).feedFrom 1 (before ++ line :: after) =
      (({} : Tracker).feedFrom 1 (before ++ after)).renumber (makeRoom before.length) := by
  have tracks : Tracks before (({} : Tracker).feedFrom 1 before) := Tracks.empty.feedFrom before
  have fixed : ∀ n ≤ (before.length : Int), makeRoom before.length n = n := by
    intro n old
    rw [makeRoom, if_pos old]
  have unmoved := tracks.renumber_eq fixed
  have moves : ∀ n : Int, 1 + (before.length : Int) ≤ n → makeRoom before.length n = n + 1 := by
    intro n new
    rw [makeRoom, if_neg (by omega)]
  have passed : (({} : Tracker).feedFrom 1 before).feed line.tag (1 + (before.length : Int)) =
      ({} : Tracker).feedFrom 1 before := by
    simp [untagged, feed, LineTag.opens]
  rw [feedFrom_append, feedFrom_append, feedFrom, passed]
  nth_rewrite 1 [← unmoved]
  exact feedFrom_renumber _ _ moves after

/-- The extents keep their number, order and kind. -/
theorem extents_inserted (before after : List Line) {line : Line} (untagged : line.tag = .plain) :
    (ofLines (before ++ line :: after)).extents =
      (ofLines (before ++ after)).extents.map (Extent.renumber (makeRoom before.length)) := by
  simp only [ofLines, feedFrom_inserted before after untagged, extents, finish, renumber,
    List.map_reverse]

theorem maxDepth_inserted (before after : List Line) {line : Line} (untagged : line.tag = .plain) :
    (ofLines (before ++ line :: after)).maxDepth = (ofLines (before ++ after)).maxDepth := by
  simp only [ofLines, feedFrom_inserted before after untagged]
  rfl

end Tracker

/-- The lengths of the extents of a kind when a line comes behind line `place`: those around
the place are longer by one. -/
def lengthsAround (place : Nat) (kind : Extent.Kind) (extents : List Extent) : List Int :=
  (Extent.ofKind kind extents).map fun extent =>
    extent.length + if extent.startLine ≤ (place : Int) ∧ (place : Int) < extent.endLine then 1 else 0

theorem lengths_inserted (before after : List Line) {line : Line} (untagged : line.tag = .plain)
    (kind : Extent.Kind) :
    (Extent.ofKind kind (Tracker.ofLines (before ++ line :: after)).extents).map Extent.length =
      lengthsAround before.length kind (Tracker.ofLines (before ++ after)).extents := by
  rw [Tracker.extents_inserted before after untagged, Extent.ofKind_renumber, List.map_map]
  apply List.map_congr_left
  intro extent member
  exact Extent.length_makeRoom _ (extent_ordered (List.mem_of_mem_filter member))

theorem countP_inserted (p : Line → Bool) (before after : List Line) (line : Line) :
    ((before ++ line :: after).countP p : Int) =
      (before ++ after).countP p + if p line = true then 1 else 0 := by
  rw [List.countP_append, List.countP_append, List.countP_cons]
  split <;> omega

/-- A line without a tag declares no module. -/
theorem Line.declaresModule_of_untagged {text : Text} (untagged : (classify text).tag = .plain) :
    (classify text).declaresModule = false := by
  have keyword : (classify text).keyword = none := by
    rcases classify_cases text with ⟨-, -, none⟩ | ⟨-, ofTrimmed⟩
    · exact none
    · rcases LineTag.ofTrimmed_cases text.trim with
        given | given | ⟨word, -, given | ⟨given, -⟩ | ⟨given, -⟩⟩
      all_goals
        rw [ofTrimmed, untagged, Prod.mk.injEq] at given
      · cases given.1
      · exact given.2
      all_goals cases given.1
  simp [declaresModule, keyword]

/-- **A line without a tag counts for itself and lengthens what is around it.**  The file has
one line more, in the counter of its kind, and the decision points of the line; depth and
declarations stay; and the extents stay in number, order and kind, where those that begin
before the new line and end behind it are longer by one, and the others are as long as
before. -/
theorem measure_inserted (path : String) (before after : List Line) (text : Text)
    (untagged : (Line.classify text).tag = .plain) :
    let line := Line.classify text
    let old := FileMeasure.ofLines path (before ++ after)
    let extents := (Tracker.ofLines (before ++ after)).extents
    FileMeasure.ofLines path (before ++ line :: after) =
      { old with
        totalLines := old.totalLines + 1
        codeLines := old.codeLines + if line.kind = .code then 1 else 0
        commentLines := old.commentLines + if line.kind = .comment then 1 else 0
        blankLines := old.blankLines + if line.kind = .blank then 1 else 0
        complexity := old.complexity + decisionPoints line.raw
        methodLengths := lengthsAround before.length .method extents
        classSizes := lengthsAround before.length .classBody extents } ∧
    (Tracker.ofLines (before ++ line :: after)).extents =
      extents.map (Extent.renumber (makeRoom before.length)) := by
  intro line old extents
  refine ⟨?_, Tracker.extents_inserted before after untagged⟩
  have deepest := Tracker.maxDepth_inserted before after untagged
  have noModule := Line.declaresModule_of_untagged untagged
  have total : ((before ++ line :: after).length : Int) = (before ++ after).length + 1 := by
    simp only [List.length_append, List.length_cons]
    omega
  have points : (sumNat ((before ++ line :: after).map (decisionPoints ·.raw)) : Int) =
      sumNat ((before ++ after).map (decisionPoints ·.raw)) + decisionPoints line.raw := by
    simp only [List.map_append, List.map_cons, sumNat_append, sumNat_cons]
    omega
  simp only [line] at total points ⊢
  simp only [old, extents, FileMeasure.ofLines, lengths_inserted before after untagged, deepest,
    countP_inserted, total, points, untagged, noModule]
  simp [Int.add_assoc]

/-- The lines before and behind the body of a method, in a class that has another method before
it and a closing line too many after it. -/
def methodHead : List Line :=
  ["class A", "def f", "end", "def g"].map (Line.classify ·.toList)

def methodTail : List Line :=
  ["end", "end", "end", "def h", "end"].map (Line.classify ·.toList)

theorem measure_inserted_remark :
    (Line.classify "  # end".toList).tag = .plain ∧
      FileMeasure.ofLines "a.rb" (methodHead ++ Line.classify "  # end".toList :: methodTail) =
        { FileMeasure.ofLines "a.rb" (methodHead ++ methodTail) with
          totalLines := 10
          commentLines := 1
          methodLengths := [2, 3, 2]
          classSizes := [7] } := by
  have untagged : (Line.classify "  # end".toList).tag = .plain := by decide
  refine ⟨untagged, ?_⟩
  rw [(measure_inserted "a.rb" methodHead methodTail "  # end".toList untagged).1]
  decide

end LineCensus
