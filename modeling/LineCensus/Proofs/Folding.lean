/-
# Proofs.Folding -- a corpus in two parts

Totals are taken once, over the complete list of files.  They are those of any two parts of
the list put together, and a part that has no lengths leaves the summary of the other.

* `CorpusMeasure.total_append`, `CorpusMeasure.deepest_append`: sums are added, depths
  compared.
* `CorpusMeasure.exists_ofFiles_of_sublist`: when a list of files is folded, so is each part.
* `LengthSummary.joins_of_ofLengths`: the lengths of two parts.
* `corpus_joins`: all numbers of a corpus that can be put together, for arbitrary parts.
-/
import LineCensus.Proofs.Bounds
import LineCensus.Proofs.Nearest

set_option autoImplicit false

namespace LineCensus

/-! ## Files without negative numbers -/

/-- Whatever is counted in a file, it is not less than none. -/
structure FileMeasure.NonNegative (file : FileMeasure) : Prop where
  totalLines : 0 ≤ file.totalLines
  codeLines : 0 ≤ file.codeLines
  commentLines : 0 ≤ file.commentLines
  blankLines : 0 ≤ file.blankLines
  complexity : 0 ≤ file.complexity
  maxNestingDepth : 0 ≤ file.maxNestingDepth
  methodDeclarations : 0 ≤ file.methodDeclarations
  classDeclarations : 0 ≤ file.classDeclarations
  moduleDeclarations : 0 ≤ file.moduleDeclarations

/-- So it is in every file that is measured. -/
theorem FileMeasure.nonNegative_ofLines (path : String) (lines : List Line) :
    (ofLines path lines).NonNegative where
  totalLines := Int.natCast_nonneg _
  codeLines := Int.natCast_nonneg _
  commentLines := Int.natCast_nonneg _
  blankLines := Int.natCast_nonneg _
  complexity := Int.add_nonneg (by decide) (Int.natCast_nonneg _)
  maxNestingDepth := Int.natCast_nonneg _
  methodDeclarations := Int.natCast_nonneg _
  classDeclarations := Int.natCast_nonneg _
  moduleDeclarations := Int.natCast_nonneg _

namespace CorpusMeasure

variable {files first second : List FileMeasure} {f : FileMeasure → Int}

/-! ## Sums and depths -/

theorem total_append : total f (first ++ second) = total f first + total f second := by
  rw [total, List.map_append]
  exact List.sum_append

theorem total_nonneg (least : ∀ file ∈ files, 0 ≤ f file) : 0 ≤ total f files :=
  List.sum_nonneg (by simpa using least)

theorem total_le_of_sublist (part : first.Sublist files) (least : ∀ file ∈ files, 0 ≤ f file) :
    total f first ≤ total f files :=
  (part.map f).sum_le_sum (by simpa using least)

theorem le_deepest {file : FileMeasure} (member : file ∈ files) :
    file.maxNestingDepth ≤ deepest files := by
  unfold deepest
  cases most : (files.map (·.maxNestingDepth)).max? with
  | none =>
      rw [List.max?_eq_none_iff, List.map_eq_nil_iff] at most
      exact absurd most (List.ne_nil_of_mem member)
  | some depth => exact (List.max?_eq_some_iff.1 most).2 _ (List.mem_map_of_mem member)

theorem deepest_nonneg (least : ∀ file ∈ files, 0 ≤ file.maxNestingDepth) :
    0 ≤ deepest files := by
  cases files with
  | nil => exact Int.le_refl 0
  | cons file rest =>
      exact Int.le_trans (least file List.mem_cons_self) (le_deepest List.mem_cons_self)

/-- No files count as depth zero, which is below any depth of the others. -/
theorem deepest_append (least : ∀ file ∈ first ++ second, 0 ≤ file.maxNestingDepth) :
    deepest (first ++ second) = max (deepest first) (deepest second) := by
  have nonneg := deepest_nonneg least
  have nonnegFirst : 0 ≤ deepest first :=
    deepest_nonneg fun file member => least file (List.mem_append_left second member)
  have deep : deepest (first ++ second) ≤ max (deepest first) (deepest second) := by
    refine deepest_le (by omega) fun file member => ?_
    rcases List.mem_append.1 member with member | member
    all_goals
      have := le_deepest member
      omega
  have left : deepest first ≤ deepest (first ++ second) :=
    deepest_le nonneg fun file member => le_deepest (List.mem_append_left second member)
  have right : deepest second ≤ deepest (first ++ second) :=
    deepest_le nonneg fun file member => le_deepest (List.mem_append_right first member)
  omega

end CorpusMeasure

/-! ## A part of a corpus -/

/-- Smaller numbers have a quotient if larger ones have. -/
theorem HasQuotient.mono {numerator denominator numerator' denominator' : Int}
    (quotient : HasQuotient numerator' denominator')
    (above : 0 ≤ numerator ∧ numerator ≤ numerator')
    (below : 0 ≤ denominator ∧ denominator ≤ denominator') :
    HasQuotient numerator denominator := by
  rcases quotient with zero | ⟨double, double'⟩
  · exact .inl (by omega)
  · rw [Binary64.ofInt?_isSome_iff] at double double'
    exact .inr ⟨(Binary64.ofInt?_isSome_iff _).2 (by omega),
      (Binary64.ofInt?_isSome_iff _).2 (by omega)⟩

namespace CorpusMeasure

/-- When a list of files is folded, so is each part of it: its totals are no larger, and it has
no other lengths. -/
theorem exists_ofFiles_of_sublist {files part : List FileMeasure}
    (nonNegative : ∀ file ∈ files, file.NonNegative) (sublist : part.Sublist files)
    (folds : ∃ corpus, ofFiles files = .ok corpus) : ∃ corpus, ofFiles part = .ok corpus := by
  rw [exists_ofFiles_iff] at folds ⊢
  obtain ⟨words, quotient⟩ := folds
  have fewer {lengths : FileMeasure → List Int} {n : Int} (member : n ∈ part.flatMap lengths) :
      n ∈ files.flatMap lengths := by
    obtain ⟨file, found, member⟩ := List.mem_flatMap.1 member
    exact List.mem_flatMap.2 ⟨file, sublist.mem found, member⟩
  have less {f : FileMeasure → Int} (least : ∀ {file}, file.NonNegative → 0 ≤ f file) :
      0 ≤ total f part ∧ total f part ≤ total f files := by
    have least file (member : file ∈ files) : 0 ≤ f file := least (nonNegative file member)
    exact ⟨total_nonneg fun file found => least file (sublist.mem found),
      total_le_of_sublist sublist least⟩
  have shorter : 0 ≤ (part.length : Int) ∧ (part.length : Int) ≤ files.length :=
    ⟨Int.natCast_nonneg _, Int.ofNat_le.2 sublist.length_le⟩
  have lines := less (·.totalLines)
  refine ⟨fun n member => words n ?_, ?_⟩
  · exact List.mem_append.2 ((List.mem_append.1 member).imp fewer fewer)
  · simp only [quotients, List.forall_mem_cons, List.not_mem_nil, false_imp_iff, implies_true,
      and_true] at quotient ⊢
    obtain ⟨comments, complexity, nesting, methods, classes, modules⟩ := quotient
    exact ⟨comments.mono (less (·.commentLines)) lines,
      complexity.mono (less (·.complexity)) shorter,
      nesting.mono (less (·.maxNestingDepth)) shorter,
      methods.mono (less (·.methodDeclarations)) lines,
      classes.mono (less (·.classDeclarations)) shorter,
      modules.mono (less (·.moduleDeclarations)) shorter⟩

end CorpusMeasure

/-! ## Lengths -/

namespace LengthSummary

/-- A summary of what two others summarize.  One that summarizes nothing is all zero, and its
zeros are left out of the comparisons. -/
structure Joins (first second whole : LengthSummary) : Prop where
  count : whole.count = first.count + second.count
  minimum : 0 < first.count → 0 < second.count →
    whole.minimum = min first.minimum second.minimum
  maximum : 0 < first.count → 0 < second.count →
    whole.maximum = max first.maximum second.maximum
  noFirst : first.count = 0 → whole = second
  noSecond : second.count = 0 → whole = first

theorem joins_of_ofLengths {xs ys : List Int} {first second whole : LengthSummary}
    (ofFirst : ofLengths xs = .ok first) (ofSecond : ofLengths ys = .ok second)
    (ofWhole : ofLengths (xs ++ ys) = .ok whole) : first.Joins second whole := by
  have firstCount := (ofLengths_eq_ok ofFirst).1
  have secondCount := (ofLengths_eq_ok ofSecond).1
  have described (someFirst : 0 < first.count) (someSecond : 0 < second.count) :
      first.Describes xs ∧ second.Describes ys ∧ whole.Describes (xs ++ ys) := by
    have left : xs ≠ [] := List.ne_nil_of_length_pos (by omega)
    have right : ys ≠ [] := List.ne_nil_of_length_pos (by omega)
    exact ⟨describes_of_ofLengths left ofFirst, describes_of_ofLengths right ofSecond,
      describes_of_ofLengths (List.append_ne_nil_of_left_ne_nil left ys) ofWhole⟩
  refine ⟨?count, fun someFirst someSecond => ?minimum, fun someFirst someSecond => ?maximum,
    fun none => ?noFirst, fun none => ?noSecond⟩
  case count =>
    rw [(ofLengths_eq_ok ofWhole).1, firstCount, secondCount, List.length_append,
      Int.natCast_add]
  case minimum =>
    obtain ⟨left, right, both⟩ := described someFirst someSecond
    have belowLeft := both.minimum_le _ (List.mem_append_left ys left.minimum_mem)
    have belowRight := both.minimum_le _ (List.mem_append_right xs right.minimum_mem)
    rcases List.mem_append.1 both.minimum_mem with member | member
    · have := left.minimum_le _ member
      omega
    · have := right.minimum_le _ member
      omega
  case maximum =>
    obtain ⟨left, right, both⟩ := described someFirst someSecond
    have aboveLeft := both.le_maximum _ (List.mem_append_left ys left.maximum_mem)
    have aboveRight := both.le_maximum _ (List.mem_append_right xs right.maximum_mem)
    rcases List.mem_append.1 both.maximum_mem with member | member
    · have := left.le_maximum _ member
      omega
    · have := right.le_maximum _ member
      omega
  case noFirst =>
    obtain rfl : xs = [] := List.eq_nil_of_length_eq_zero (by omega)
    rw [List.nil_append, ofSecond] at ofWhole
    exact (Except.ok.inj ofWhole).symm
  case noSecond =>
    obtain rfl : ys = [] := List.eq_nil_of_length_eq_zero (by omega)
    rw [List.append_nil, ofFirst] at ofWhole
    exact (Except.ok.inj ofWhole).symm

end LengthSummary

/-! ## Two parts of a corpus -/

namespace CorpusMeasure

/-- The numbers of two corpora put together.  Averages and medians are not told by those of
the parts, except where a part has no lengths. -/
structure Joins (first second whole : CorpusMeasure) : Prop where
  lines : whole.lines.total = first.lines.total + second.lines.total
  code : whole.lines.code = first.lines.code + second.lines.code
  comments : whole.lines.comment = first.lines.comment + second.lines.comment
  blanks : whole.lines.blank = first.lines.blank + second.lines.blank
  complexity : whole.complexity.total = first.complexity.total + second.complexity.total
  methods : whole.methods.methods = first.methods.methods + second.methods.methods
  classes : whole.types.classes = first.types.classes + second.types.classes
  modules : whole.types.modules = first.types.modules + second.types.modules
  analyzed : whole.filesAnalyzed = first.filesAnalyzed + second.filesAnalyzed
  inComplexity : whole.complexity.files = first.complexity.files + second.complexity.files
  inNesting : whole.nesting.files = first.nesting.files + second.nesting.files
  inDensity : whole.methods.lines = first.methods.lines + second.methods.lines
  nesting : whole.nesting.deepest = max first.nesting.deepest second.nesting.deepest
  methodLengths : first.methodLengths.Joins second.methodLengths whole.methodLengths
  classSizes : first.classSizes.Joins second.classSizes whole.classSizes

variable {first second : List FileMeasure} {left right whole : CorpusMeasure}

theorem joins_of_folds (ofFirst : Folds first left) (ofSecond : Folds second right)
    (ofWhole : Folds (first ++ second) whole)
    (nonNegative : ∀ file ∈ first ++ second, file.NonNegative) : left.Joins right whole := by
  have lengths {numbers : FileMeasure → List Int} {a b c : LengthSummary}
      (left : LengthSummary.ofLengths (first.flatMap numbers) = .ok a)
      (right : LengthSummary.ofLengths (second.flatMap numbers) = .ok b)
      (both : LengthSummary.ofLengths ((first ++ second).flatMap numbers) = .ok c) :
      a.Joins b c := by
    rw [List.flatMap_append] at both
    exact LengthSummary.joins_of_ofLengths left right both
  have count : ((first ++ second).length : Int) = first.length + second.length := by
    rw [List.length_append, Int.natCast_add]
  exact
    { lines := by rw [ofWhole.lines, ofFirst.lines, ofSecond.lines, total_append]
      code := by rw [ofWhole.code, ofFirst.code, ofSecond.code, total_append]
      comments := by rw [ofWhole.comments, ofFirst.comments, ofSecond.comments, total_append]
      blanks := by rw [ofWhole.blanks, ofFirst.blanks, ofSecond.blanks, total_append]
      complexity := by
        rw [ofWhole.complexity, ofFirst.complexity, ofSecond.complexity, total_append]
      methods := by rw [ofWhole.methods, ofFirst.methods, ofSecond.methods, total_append]
      classes := by rw [ofWhole.classes, ofFirst.classes, ofSecond.classes, total_append]
      modules := by rw [ofWhole.modules, ofFirst.modules, ofSecond.modules, total_append]
      analyzed := by rw [ofWhole.analyzed, ofFirst.analyzed, ofSecond.analyzed, count]
      inComplexity := by
        rw [ofWhole.inComplexity, ofFirst.inComplexity, ofSecond.inComplexity, count]
      inNesting := by rw [ofWhole.inNesting, ofFirst.inNesting, ofSecond.inNesting, count]
      inDensity := by
        rw [ofWhole.inDensity, ofFirst.inDensity, ofSecond.inDensity, total_append]
      nesting := by
        rw [ofWhole.nesting, ofFirst.nesting, ofSecond.nesting]
        exact deepest_append fun file member => (nonNegative file member).maxNestingDepth
      methodLengths := lengths ofFirst.methodLengths ofSecond.methodLengths ofWhole.methodLengths
      classSizes := lengths ofFirst.classSizes ofSecond.classSizes ofWhole.classSizes }

end CorpusMeasure

/-- **A corpus is told by its parts.**  When files without negative numbers are folded, so are
both parts of their list, wherever it is divided.  All counts are the sums of those of the
parts, as they are sums over the files, the deepest nesting is the deeper one, and lengths have
the smaller minimum and the larger maximum, or the whole summary of the only part with lengths.
The average length of the methods is in every corpus that of the summary of their lengths. -/
theorem corpus_joins {first second : List FileMeasure} {whole : CorpusMeasure}
    (nonNegative : ∀ file ∈ first ++ second, file.NonNegative)
    (folded : CorpusMeasure.ofFiles (first ++ second) = .ok whole) :
    CorpusMeasure.Folds (first ++ second) whole ∧
    ∃ left right, CorpusMeasure.ofFiles first = .ok left ∧
      CorpusMeasure.ofFiles second = .ok right ∧ left.Joins right whole ∧
      ∀ corpus ∈ [left, right, whole],
        corpus.methods.averageLength = corpus.methodLengths.average := by
  have folds {part : List FileMeasure} (sublist : part.Sublist (first ++ second)) :=
    CorpusMeasure.exists_ofFiles_of_sublist nonNegative sublist ⟨whole, folded⟩
  obtain ⟨left, leftFolded⟩ := folds (List.sublist_append_left first second)
  obtain ⟨right, rightFolded⟩ := folds (List.sublist_append_right first second)
  have ofFirst := CorpusMeasure.folds_of_ofFiles leftFolded
  have ofSecond := CorpusMeasure.folds_of_ofFiles rightFolded
  have ofWhole := CorpusMeasure.folds_of_ofFiles folded
  refine ⟨ofWhole, left, right, leftFolded, rightFolded,
    CorpusMeasure.joins_of_folds ofFirst ofSecond ofWhole nonNegative, ?_⟩
  simp only [List.forall_mem_cons, List.not_mem_nil, false_imp_iff, implies_true, and_true]
  exact ⟨ofFirst.averageLength, ofSecond.averageLength, ofWhole.averageLength⟩

/-- Behind a file with a class, one without lengths leaves the summary of the classes. -/
theorem corpus_joins_classAndSurplusEnd :
    (∀ file ∈ measureAll (classAndSurplusEnd.take 1) ++ measureAll (classAndSurplusEnd.drop 1),
      file.NonNegative) ∧
    ∃ left right whole : CorpusMeasure,
      CorpusMeasure.ofFiles (measureAll (classAndSurplusEnd.take 1) ++
        measureAll (classAndSurplusEnd.drop 1)) = .ok whole ∧
      left.Joins right whole ∧ left.classSizes.count = 1 ∧ right.classSizes.count = 0 ∧
      whole.classSizes = left.classSizes := by
  have nonNegative : ∀ file ∈ measureAll (classAndSurplusEnd.take 1) ++
      measureAll (classAndSurplusEnd.drop 1), file.NonNegative := by
    intro file member
    rw [measureAll, measureAll, ← List.map_append, List.take_append_drop] at member
    obtain ⟨⟨path, texts⟩, -, rfl⟩ := List.mem_map.1 member
    exact FileMeasure.nonNegative_ofLines path _
  have words : ∀ n ∈ CorpusMeasure.totals (measureAll (classAndSurplusEnd.take 1) ++
      measureAll (classAndSurplusEnd.drop 1)), LengthSummary.isWord64 n = true := by
    decide +kernel
  obtain ⟨whole, folded⟩ := CorpusMeasure.exists_ofFiles
    ⟨fun n member => ofInt?_word (words n member), by decide +kernel⟩
  obtain ⟨-, left, right, leftFolded, rightFolded, joins, -⟩ := corpus_joins nonNegative folded
  have leftCount := (LengthSummary.ofLengths_eq_ok
    (CorpusMeasure.folds_of_ofFiles leftFolded).classSizes).1
  have rightCount := (LengthSummary.ofLengths_eq_ok
    (CorpusMeasure.folds_of_ofFiles rightFolded).classSizes).1
  have none : right.classSizes.count = 0 := rightCount.trans (by decide +kernel)
  exact ⟨nonNegative, left, right, whole, folded, joins, leftCount.trans (by decide +kernel),
    none, joins.classSizes.noSecond none⟩

end LineCensus
