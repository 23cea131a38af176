/-
# Proofs.Bounds -- the totals of a corpus bound each other

Every number of a corpus is a sum over its files, a maximum over them, or taken from the
sorted lengths of their blocks.  So what bounds the numbers of each file bounds the totals.

* `LengthSummary.bounds_of_ofLengths`: what bounds all lengths bounds their summary.
* `CorpusMeasure.bounded_of_folds`: from the bounds of the files to those of the corpus.
* `CorpusMeasure.exists_ofFiles_iff`: which files are folded.  `CorpusMeasure.exists_ofFiles`:
  when all totals are doubles and all lengths are words, they are.
* `corpus_bounded`: both, for files of arbitrary lines.
-/
import LineCensus.Proofs.Balance
import LineCensus.Proofs.Counters
import LineCensus.Proofs.Lengths
import Mathlib.Algebra.Order.BigOperators.Group.List
import Mathlib.Algebra.Order.Group.Int

set_option autoImplicit false

namespace LineCensus

/-! ## Sums over files -/

section Sums

variable {α : Type} {xs : List α} {f g : α → Int}

theorem sumInt_map_le (least : ∀ x ∈ xs, f x ≤ g x) : sumInt (xs.map f) ≤ sumInt (xs.map g) :=
  List.sum_le_sum least

theorem sumInt_map_add :
    sumInt (xs.map fun x => f x + g x) = sumInt (xs.map f) + sumInt (xs.map g) :=
  List.sum_map_add

theorem sumInt_map_one (xs : List α) : sumInt (xs.map fun _ => 1) = xs.length := by
  induction xs with
  | nil => rfl
  | cons x rest ih =>
      rw [List.map_cons, sumInt_cons, ih, List.length_cons]
      omega

end Sums

namespace CorpusMeasure

variable {files : List FileMeasure} {f g : FileMeasure → Int}

theorem total_le_total (least : ∀ file ∈ files, f file ≤ g file) : total f files ≤ total g files :=
  sumInt_map_le least

theorem total_add : total (fun file => f file + g file) files = total f files + total g files :=
  sumInt_map_add

theorem le_total (least : ∀ file ∈ files, 0 ≤ f file) {file : FileMeasure} (member : file ∈ files) :
    f file ≤ total f files := by
  refine List.single_le_sum (fun n found => ?_) _ (List.mem_map_of_mem member)
  obtain ⟨file', member', rfl⟩ := List.mem_map.1 found
  exact least file' member'

theorem length_flatMap (lengths : FileMeasure → List Int) :
    ((files.flatMap lengths).length : Int) = total (fun file => (lengths file).length) files := by
  induction files with
  | nil => rfl
  | cons file rest ih =>
      rw [List.flatMap_cons, List.length_append, Int.natCast_add, ih]
      rfl

theorem deepest_le {bound : Int} (least : 0 ≤ bound)
    (deep : ∀ file ∈ files, file.maxNestingDepth ≤ bound) : deepest files ≤ bound := by
  unfold deepest
  cases most : (files.map (·.maxNestingDepth)).max? with
  | none => exact least
  | some depth =>
      obtain ⟨file, member, rfl⟩ := List.mem_map.1 (List.max?_mem most)
      exact deep file member

end CorpusMeasure

/-! ## Lengths -/

namespace LengthSummary

variable {lengths : List Int} {summary : LengthSummary}

/-- The least, the middle and the last of the lengths lie in this order, within any bounds of
the lengths. -/
theorem bounds_of_ofLengths {least most : Int} (summarizes : ofLengths lengths = .ok summary)
    (within : ∀ n ∈ lengths, least ≤ n ∧ n ≤ most) (some_length : 0 < summary.count) :
    least ≤ summary.minimum ∧ summary.minimum ≤ summary.median ∧
      summary.median ≤ summary.maximum ∧ summary.maximum ≤ most := by
  have count := (ofLengths_eq_ok summarizes).1
  have describes := describes_of_ofLengths (List.ne_nil_of_length_pos (by omega)) summarizes
  exact ⟨(within _ describes.minimum_mem).1, describes.minimum_le _ describes.median_mem,
    describes.le_maximum _ describes.median_mem, (within _ describes.maximum_mem).2⟩

/-- Lengths of at most that many blocks, none shorter than two lines or longer than all
lines. -/
structure Within (summary : LengthSummary) (blocks lines : Int) : Prop where
  count : summary.count ≤ blocks
  ordered : 0 < summary.count → 2 ≤ summary.minimum ∧ summary.minimum ≤ summary.median ∧
    summary.median ≤ summary.maximum ∧ summary.maximum ≤ lines

end LengthSummary

/-! ## Totals -/

namespace CorpusMeasure

/-- How the numbers of a corpus bound each other. -/
structure Bounded (corpus : CorpusMeasure) (branchings : Int) : Prop where
  kinds : corpus.lines.total = corpus.lines.code + corpus.lines.comment + corpus.lines.blank
  roles : corpus.methods.methods + corpus.types.classes + corpus.types.modules +
    corpus.methodLengths.count + corpus.classSizes.count ≤ corpus.lines.code
  methodLengths : corpus.methodLengths.Within corpus.methods.methods corpus.lines.total
  classSizes : corpus.classSizes.Within corpus.types.classes corpus.lines.total
  nesting : corpus.nesting.deepest ≤ corpus.lines.code
  complexity : corpus.filesAnalyzed + branchings ≤ corpus.complexity.total

variable {files : List FileMeasure} {corpus : CorpusMeasure}

theorem within_of_folds {lengths : FileMeasure → List Int} {blocks : FileMeasure → Int}
    {summary : LengthSummary}
    (summarizes : LengthSummary.ofLengths (files.flatMap lengths) = .ok summary)
    (lines : ∀ file ∈ files, 0 ≤ file.totalLines)
    (count : ∀ file ∈ files, (lengths file).length ≤ blocks file)
    (within : ∀ file ∈ files, ∀ n ∈ lengths file, 2 ≤ n ∧ n ≤ file.totalLines) :
    summary.Within (total blocks files) (total (·.totalLines) files) where
  count := by
    rw [(LengthSummary.ofLengths_eq_ok summarizes).1, length_flatMap]
    exact total_le_total count
  ordered := by
    refine LengthSummary.bounds_of_ofLengths summarizes fun n member => ?_
    obtain ⟨file, found, member⟩ := List.mem_flatMap.1 member
    have bounds := within file found n member
    exact ⟨bounds.1, Int.le_trans bounds.2 (le_total lines found)⟩

/-- What bounds the numbers of every file bounds those of the corpus. -/
theorem bounded_of_folds {α : Type} {sources : List α} {measure : α → FileMeasure}
    {branchings : α → Int} (folds : Folds (sources.map measure) corpus)
    (bounded : ∀ source ∈ sources, (measure source).Bounded (branchings source)) :
    corpus.Bounded (sumInt (sources.map branchings)) := by
  have each {Holds : FileMeasure → Prop}
      (holds : ∀ measure branchings, measure.Bounded branchings → Holds measure) :
      ∀ file ∈ sources.map measure, Holds file := by
    intro file member
    obtain ⟨source, found, rfl⟩ := List.mem_map.1 member
    exact holds _ _ (bounded source found)
  have lines := each fun _ _ bounded => bounded.lines
  refine ⟨?kinds, ?roles, ?methodLengths, ?classSizes, ?nesting, ?complexity⟩
  case kinds =>
    rw [folds.lines, folds.code, folds.comments, folds.blanks, ← total_add, ← total_add]
    exact congrArg sumInt (List.map_congr_left (each fun _ _ bounded => bounded.kinds))
  case roles =>
    rw [folds.methods, folds.classes, folds.modules, folds.code,
      (LengthSummary.ofLengths_eq_ok folds.methodLengths).1,
      (LengthSummary.ofLengths_eq_ok folds.classSizes).1, length_flatMap, length_flatMap,
      ← total_add, ← total_add, ← total_add, ← total_add]
    exact total_le_total (each fun _ _ bounded => bounded.roles)
  case methodLengths =>
    rw [folds.methods, folds.lines]
    exact within_of_folds folds.methodLengths lines (each fun _ _ bounded => bounded.methods)
      (each fun _ _ bounded => bounded.methodLengths)
  case classSizes =>
    rw [folds.classes, folds.lines]
    exact within_of_folds folds.classSizes lines (each fun _ _ bounded => bounded.classes)
      (each fun _ _ bounded => bounded.classSizes)
  case nesting =>
    rw [folds.nesting, folds.code]
    have code := each fun _ _ bounded => bounded.code
    have shallow := each fun _ _ bounded => bounded.nesting
    exact deepest_le (List.sum_nonneg (by simpa using code)) fun file member =>
      Int.le_trans (shallow file member) (le_total code member)
  case complexity =>
    rw [folds.analyzed, folds.complexity]
    have sums := sumInt_map_le fun source member => (bounded source member).complexity
    rw [sumInt_map_add, sumInt_map_one] at sums
    rw [List.length_map, total, List.map_map]
    exact sums

/-! ## A corpus that can be folded -/

/-- The quotients of a corpus, each as what is divided and by what. -/
def quotients (files : List FileMeasure) : List (Int × Int) :=
  [(total (·.commentLines) files, total (·.totalLines) files),
    (total (·.complexity) files, files.length),
    (total (·.maxNestingDepth) files, files.length),
    (total (·.methodDeclarations) files, total (·.totalLines) files),
    (total (·.classDeclarations) files, files.length),
    (total (·.moduleDeclarations) files, files.length)]

/-- Files are folded just if their lengths are words of 64 bits and their totals have
quotients. -/
theorem exists_ofFiles_iff :
    (∃ corpus, ofFiles files = .ok corpus) ↔
      (∀ n ∈ files.flatMap (·.methodLengths) ++ files.flatMap (·.classSizes),
        LengthSummary.isWord64 n = true) ∧
      ∀ pair ∈ quotients files, HasQuotient pair.1 pair.2 := by
  have average : 0 ≤ averagePlaces := by decide
  have density : 0 ≤ densityPlaces := by decide
  have done (corpus : CorpusMeasure) :
      ∃ result, (pure corpus : Except Fault CorpusMeasure) = .ok result := ⟨corpus, rfl⟩
  simp only [ofFiles, exists_bind_eq_ok_iff, done, and_true, exists_and_right,
    exists_ratio_iff average, exists_percentage_iff average, exists_percentage_iff density,
    LengthSummary.exists_ofLengths_iff, quotients, List.forall_mem_append, List.forall_mem_cons,
    List.not_mem_nil, false_imp_iff, implies_true, and_assoc]

/-- The totals of files that are numbers in double precision, to be divided or to divide. -/
def totals (files : List FileMeasure) : List Int :=
  [(files.length : Int), total (·.totalLines) files, total (·.commentLines) files,
    total (·.complexity) files, total (·.maxNestingDepth) files,
    total (·.methodDeclarations) files, total (·.classDeclarations) files,
    total (·.moduleDeclarations) files, ((files.flatMap (·.methodLengths)).length : Int),
    ((files.flatMap (·.classSizes)).length : Int)]

/-- All totals are doubles and all lengths are words of 64 bits. -/
structure Fits (files : List FileMeasure) : Prop where
  totals : ∀ n ∈ totals files, (Binary64.ofInt? n).isSome = true
  lengths : ∀ n ∈ files.flatMap (·.methodLengths) ++ files.flatMap (·.classSizes),
    LengthSummary.isWord64 n = true

/-- What fits is folded. -/
theorem exists_ofFiles (fits : Fits files) : ∃ corpus, ofFiles files = .ok corpus := by
  refine exists_ofFiles_iff.2 ⟨fits.lengths, ?_⟩
  have double {n : Int} (member : n ∈ totals files) := fits.totals n member
  simp only [quotients, List.forall_mem_cons, List.not_mem_nil, false_imp_iff, implies_true,
    and_true]
  refine ⟨?_, ?_, ?_, ?_, ?_, ?_⟩ <;>
    exact .inr ⟨double (by simp [totals]), double (by simp [totals])⟩

end CorpusMeasure

/-! ## Files of arbitrary lines -/

/-- The measures of files, each given by its path and the texts of its lines. -/
def measureAll (files : List (String × List Text)) : List FileMeasure :=
  files.map fun file => FileMeasure.ofLines file.1 (file.2.map Line.classify)

/-- The classified lines of all files. -/
def linesOf (files : List (String × List Text)) : List Line :=
  files.flatMap fun file => file.2.map Line.classify

theorem branchings_linesOf (files : List (String × List Text)) :
    (branchings (linesOf files) : Int) =
      sumInt (files.map fun file => (branchings (file.2.map Line.classify) : Int)) := by
  induction files with
  | nil => rfl
  | cons file rest ih =>
      rw [List.map_cons, sumInt_cons, ← ih, linesOf, List.flatMap_cons, branchings,
        List.countP_append, Int.natCast_add]
      rfl

/-- **The totals of a corpus bound each other.**  Of any files, whatever their lines:
lines are code, comments or blank, every declaration and every closed method or class takes
its own line of code, lengths lie between two and all lines, no block is deeper than there
is code, and every file and every line that begins with a branch counts in the complexity.
There is a corpus whenever all totals are doubles and all lengths are words of 64 bits. -/
theorem corpus_bounded (files : List (String × List Text)) :
    (∀ corpus, CorpusMeasure.ofFiles (measureAll files) = .ok corpus →
      corpus.Bounded (branchings (linesOf files))) ∧
    (CorpusMeasure.Fits (measureAll files) →
      ∃ corpus, CorpusMeasure.ofFiles (measureAll files) = .ok corpus) := by
  refine ⟨fun corpus folded => ?_, CorpusMeasure.exists_ofFiles⟩
  rw [branchings_linesOf]
  exact CorpusMeasure.bounded_of_folds (CorpusMeasure.folds_of_ofFiles folded)
    fun file _ => FileMeasure.bounded_ofLines file.1 file.2

/-- A class with a method that branches, and a file whose only line closes nothing. -/
def classAndSurplusEnd : List (String × List Text) :=
  [("a.rb", ["class A", "  def f", "    if x", "    end", "  end", "end"].map String.toList),
    ("b.rb", ["end"].map String.toList)]

theorem corpus_bounded_classAndSurplusEnd :
    CorpusMeasure.Fits (measureAll classAndSurplusEnd) ∧
      branchings (linesOf classAndSurplusEnd) = 1 ∧
      ∃ corpus, CorpusMeasure.ofFiles (measureAll classAndSurplusEnd) = .ok corpus ∧
        corpus.methodLengths.count = 1 ∧ corpus.Bounded 1 := by
  have words : ∀ n ∈ CorpusMeasure.totals (measureAll classAndSurplusEnd),
      LengthSummary.isWord64 n = true := by decide +kernel
  have fits : CorpusMeasure.Fits (measureAll classAndSurplusEnd) :=
    ⟨fun n member => ofInt?_word (words n member), by decide +kernel⟩
  have one : branchings (linesOf classAndSurplusEnd) = 1 := by decide +kernel
  obtain ⟨corpus, folded⟩ := (corpus_bounded classAndSurplusEnd).2 fits
  have bounded := (corpus_bounded classAndSurplusEnd).1 corpus folded
  rw [one] at bounded
  have count := (LengthSummary.ofLengths_eq_ok
    (CorpusMeasure.folds_of_ofFiles folded).methodLengths).1
  exact ⟨fits, one, corpus, folded, count, bounded⟩

end LineCensus
