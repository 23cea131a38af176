/-
# Proofs.Magnitudes -- how large the numbers of a report can be

No number of a report is much larger than the files it is made of.  A text has no more
characters than its file has octets, and no more lines, decision points or blocks than
characters.  So where sizes of files and the number of sources are words of 64 bits, all
totals are doubles, and neither a corpus nor a report fails for being too large.

* `length_read?_utf8`: characters and octets.
* `FileMeasure.atMost_ofLines`: the numbers of a file and the characters of its text.
* `CorpusMeasure.fits_of_atMost`: the totals of such files are doubles.
* `Report.exists_compose`: a report of listed files whose sizes are words.
-/
import LineCensus.Proofs.Bounds
import LineCensus.Proofs.Octets

set_option autoImplicit false

namespace LineCensus

/-! ## Characters -/

namespace Utf8

theorem length_flushed_begin (done : List (Option Char)) (octet : UInt8) :
    (begin done octet).flushed.length = done.length + 1 := by
  simp only [begin]
  repeat' split
  all_goals rfl

theorem length_flushed_step (state : State) (octet : UInt8) :
    (step state octet).flushed.length ≤ state.flushed.length + 1 := by
  unfold step
  split
  · rename_i closed
    rw [length_flushed_begin, State.flushed, closed]
    exact Nat.le_refl _
  · rename_i p isOpen
    have before : state.flushed.length = state.done.length + 1 := by
      rw [State.flushed, isOpen]
      rfl
    rw [before]
    split
    · split
      · exact Nat.le_succ _
      · exact Nat.le_succ _
    · rw [length_flushed_begin]
      exact Nat.le_refl _

theorem length_flushed_foldl (state : State) (octets : List UInt8) :
    (octets.foldl step state).flushed.length ≤ state.flushed.length + octets.length := by
  induction octets generalizing state with
  | nil => exact Nat.le_refl _
  | cons octet rest ih =>
      have here := length_flushed_step state octet
      have later := ih (step state octet)
      rw [List.foldl_cons, List.length_cons]
      omega

theorem length_decode (octets : List UInt8) : (decode octets).length ≤ octets.length := by
  have whole := length_flushed_foldl {} octets
  rw [decode, State.finish, List.length_reverse]
  exact Nat.le_trans whole (by simp [State.flushed])

end Utf8

namespace Text

theorem length_unifyBreaks (text : Text) : text.unifyBreaks.length ≤ text.length := by
  have shrinks (afterReturn : Bool) (done : Text) :
      (unifyBreaksFrom afterReturn done text).length ≤ done.length + text.length := by
    induction text generalizing afterReturn done with
    | nil => simp [unifyBreaksFrom]
    | cons c rest ih =>
        rw [unifyBreaksFrom, List.length_cons]
        split
        · have later := ih true ('\n' :: done)
          rw [List.length_cons] at later
          omega
        split
        · have later := ih false done
          omega
        · have later := ih false (c :: done)
          rw [List.length_cons] at later
          omega
  have whole := shrinks false []
  rwa [List.length_nil, Nat.zero_add] at whole

/-- The lines of a text, joined, are the text. -/
theorem flatten_lines (text : Text) : text.lines.flatten = text := by
  have joined (current : Text) (done : List Text) :
      (linesFrom current done text).flatten = done.reverse.flatten ++ current.reverse ++ text := by
    induction text generalizing current done with
    | nil => cases current <;> simp [linesFrom]
    | cons c rest ih =>
        rw [linesFrom]
        split
        · rw [ih]
          simp
        · rw [ih]
          simp
  exact joined [] []

theorem ne_nil_of_mem_lines {text line : Text} (member : line ∈ text.lines) : line ≠ [] := by
  have filled (text current : Text) (done : List Text) (before : ∀ line ∈ done, line ≠ []) :
      ∀ line ∈ linesFrom current done text, line ≠ [] := by
    induction text generalizing current done with
    | nil =>
        intro line member
        cases current with
        | nil => exact before line (by simpa [linesFrom] using member)
        | cons c rest =>
            rcases (by simpa [linesFrom] using member : line ∈ done ∨ line = _) with old | rfl
            · exact before line old
            · simp
    | cons c rest ih =>
        rw [linesFrom]
        split
        · refine ih [] _ fun line member => ?_
          rcases List.mem_cons.1 member with rfl | old
          · simp
          · exact before line old
        · exact ih (c :: current) done before
  exact filled text [] [] (by simp) line member

theorem length_lines (text : Text) : text.lines.length ≤ text.length := by
  have atLeastOne (lines : List Text) (filled : ∀ line ∈ lines, line ≠ []) :
      lines.length ≤ lines.flatten.length := by
    induction lines with
    | nil => exact Nat.le_refl 0
    | cons line rest ih =>
        have here := List.length_pos_of_ne_nil (filled line (by simp))
        have later := ih fun other member => filled other (List.mem_cons_of_mem line member)
        rw [List.length_cons, List.flatten_cons, List.length_append]
        omega
  have whole := atLeastOne text.lines fun line => ne_nil_of_mem_lines
  rwa [flatten_lines] at whole

end Text

/-- A file read as UTF-8 has no more characters than octets. -/
theorem length_read?_utf8 {octets : List UInt8} {text : Text}
    (reads : Charset.utf8.read? octets = some text) : text.length ≤ octets.length := by
  cases reads
  calc (Charset.decodeUtf8 octets).unifyBreaks.length
      ≤ (Charset.decodeUtf8 octets).length := Text.length_unifyBreaks _
    _ = (Utf8.decode octets).length := List.length_map _
    _ ≤ octets.length := Utf8.length_decode octets

/-! ## Files -/

theorem decisionPoints_le (text : Text) : decisionPoints text ≤ 2 * text.length := by
  have words (inWord : Bool) (count : Nat) (text : Text) :
      decisionWordsFrom inWord count text ≤ count + text.length := by
    induction text generalizing inWord count with
    | nil => exact Nat.le_refl _
    | cons c rest ih =>
        rw [decisionWordsFrom, List.length_cons]
        refine Nat.le_trans (ih _ _) ?_
        split <;> omega
  have operators (count : Nat) (text : Text) : operatorsFrom count text ≤ count + text.length := by
    fun_induction operatorsFrom count text <;> simp only [List.length_cons, List.length_nil] <;>
      omega
  have both := Nat.add_le_add (words false 0 text) (operators 0 text)
  rw [decisionPoints]
  omega

namespace CorpusMeasure

/-- The numbers of a file that are added up over a corpus. -/
def counters : List (FileMeasure → Int) :=
  [fun _ => 1, (·.totalLines), (·.commentLines), (·.complexity), (·.maxNestingDepth),
    (·.methodDeclarations), (·.classDeclarations), (·.moduleDeclarations),
    fun file => file.methodLengths.length, fun file => file.classSizes.length]

theorem totals_eq (files : List FileMeasure) : totals files = counters.map (total · files) := by
  simp only [totals, counters, length_flatMap, List.map_cons, List.map_nil, total, sumInt_map_one]

end CorpusMeasure

namespace FileMeasure

/-- No number of a file is out of proportion to a text of so many characters. -/
structure AtMost (size : Nat) (measure : FileMeasure) : Prop where
  counters : ∀ number ∈ CorpusMeasure.counters,
    0 ≤ number measure ∧ number measure ≤ 2 * (size : Int) + 1
  lengths : ∀ n ∈ measure.methodLengths ++ measure.classSizes, 0 ≤ n ∧ n ≤ (size : Int)

theorem sum_decisionPoints_le (text : Text) :
    sumNat ((text.lines.map Line.classify).map (decisionPoints ·.raw)) ≤ 2 * text.length := by
  have raw (line : Text) : decisionPoints (Line.classify line).raw ≤ 2 * line.length := by
    obtain ⟨cut, -, whole⟩ := Text.eq_dropEndWhile_append isLineEnd line
    have shorter := congrArg List.length whole
    have points := decisionPoints_le (line.dropEndWhile isLineEnd)
    rw [List.length_append] at shorter
    rw [Line.raw_classify]
    omega
  have each : sumNat ((text.lines.map Line.classify).map (decisionPoints ·.raw)) ≤
      2 * text.lines.flatten.length := by
    generalize text.lines = lines
    induction lines with
    | nil => exact Nat.le_refl _
    | cons line rest ih =>
        have here := raw line
        rw [List.map_cons, List.map_cons, sumNat_cons, List.flatten_cons, List.length_append]
        omega
  rwa [Text.flatten_lines] at each

/-- The numbers of a file are in proportion to its text. -/
theorem atMost_ofLines (path : String) (text : Text) :
    (ofLines path (text.lines.map Line.classify)).AtMost text.length := by
  have bounded := bounded_ofLines path text.lines
  have points := sum_decisionPoints_le text
  have lines : (ofLines path (text.lines.map Line.classify)).totalLines ≤ text.length := by
    simpa [ofLines] using text.length_lines
  have complexity : (ofLines path (text.lines.map Line.classify)).complexity ≤
      2 * (text.length : Int) + 1 := by
    simp only [ofLines, baseComplexity]
    omega
  have counted : 0 ≤ (ofLines path (text.lines.map Line.classify)).commentLines ∧
      0 ≤ (ofLines path (text.lines.map Line.classify)).blankLines ∧
      0 ≤ (ofLines path (text.lines.map Line.classify)).maxNestingDepth ∧
      0 ≤ (ofLines path (text.lines.map Line.classify)).methodDeclarations ∧
      0 ≤ (ofLines path (text.lines.map Line.classify)).classDeclarations ∧
      0 ≤ (ofLines path (text.lines.map Line.classify)).moduleDeclarations := by
    simp [ofLines]
  obtain ⟨someLines, code, kinds, roles, methods, classes, methodLengths, classSizes, nesting,
    branches⟩ := bounded
  generalize ofLines path (text.lines.map Line.classify) = measure at *
  constructor
  case counters =>
    simp only [CorpusMeasure.counters, List.forall_mem_cons, List.not_mem_nil, false_imp_iff,
      implies_true, and_true]
    omega
  case lengths =>
    intro n member
    rcases List.mem_append.1 member with method | body
    · have := methodLengths n method
      omega
    · have := classSizes n body
      omega

end FileMeasure

/-! ## Totals -/

/-- A sum of so many numbers, none of them negative or much beyond a word, is far below the
largest double. -/
theorem natAbs_sumInt_lt {numbers : List Int} (few : numbers.length < twoTo 63)
    (each : ∀ n ∈ numbers, 0 ≤ n ∧ n ≤ twoTo 65) : (sumInt numbers).natAbs < twoTo 1023 := by
  have most : numbers.length * twoTo 65 < twoTo 1023 :=
    Nat.lt_of_le_of_lt (Nat.mul_le_mul_right _ (Nat.le_of_lt few)) (by decide +kernel)
  have within : 0 ≤ sumInt numbers ∧ sumInt numbers ≤ (numbers.length * twoTo 65 : Nat) := by
    clear few most
    induction numbers with
    | nil => simp
    | cons n rest ih =>
        have here := each n (by simp)
        have later := ih fun m member => each m (List.mem_cons_of_mem n member)
        rw [sumInt_cons, List.length_cons, Nat.succ_mul]
        omega
  omega

/-- Files whose numbers are in proportion to texts that a machine can hold are folded. -/
theorem CorpusMeasure.fits_of_atMost {files : List FileMeasure} (few : files.length < twoTo 63)
    (each : ∀ file ∈ files, ∃ size < twoTo 63, file.AtMost size) : Fits files where
  totals n member := by
    rw [totals_eq] at member
    obtain ⟨number, counted, rfl⟩ := List.mem_map.1 member
    refine Binary64.ofInt?_isSome (natAbs_sumInt_lt (by rwa [List.length_map]) fun m found => ?_)
    obtain ⟨file, isFile, rfl⟩ := List.mem_map.1 found
    obtain ⟨size, small, atMost⟩ := each file isFile
    have bounds := atMost.counters number counted
    have double : 2 * twoTo 63 + 1 ≤ twoTo 65 := by decide +kernel
    omega
  lengths n member := by
    obtain ⟨file, isFile, found⟩ :
        ∃ file ∈ files, n ∈ file.methodLengths ++ file.classSizes := by
      rcases List.mem_append.1 member with method | body
      · obtain ⟨file, isFile, found⟩ := List.mem_flatMap.1 method
        exact ⟨file, isFile, List.mem_append_left _ found⟩
      · obtain ⟨file, isFile, found⟩ := List.mem_flatMap.1 body
        exact ⟨file, isFile, List.mem_append_right _ found⟩
    obtain ⟨size, small, atMost⟩ := each file isFile
    have bounds := atMost.lengths n found
    simp only [LengthSummary.isWord64, Bool.and_eq_true, decide_eq_true_eq]
    omega

/-! ## Sizes -/

/-- The definition, for both arguments at once: with the arguments in place, to compare the
two sides is to compute the quotient. -/
theorem quotient_def :
    quotient = fun numerator denominator =>
      match Binary64.ratio? numerator denominator with
      | some x => .ok x
      | none => .error .tooLarge := by
  delta quotient
  rfl

theorem exists_quotient {numerator : Int} (denominator : Int)
    (bound : numerator.natAbs < twoTo 1023) : ∃ x, quotient numerator denominator = .ok x := by
  obtain ⟨x, number⟩ := Option.isSome_iff_exists.1 (Binary64.ratio?_isSome denominator bound)
  rw [quotient_def]
  beta_reduce
  rw [number]
  exact ⟨x, rfl⟩

theorem exists_sizeText (x : Binary64) : ∃ words, sizeText (.real x) = .ok words := by
  obtain ⟨y, rounds⟩ := exists_rounded (by decide : (0 : Int) ≤ averagePlaces)
    (scaleSize x "B" unitsAbove).1
  have scaled : sizeText (.real x) =
      rounded averagePlaces (scaleSize x "B" unitsAbove).1 >>= fun y =>
        .ok (y.text ++ " " ++ (scaleSize x "B" unitsAbove).2) := rfl
  rw [scaled, rounds]
  exact ⟨_, rfl⟩

/-- A size as a machine stores it. -/
def IsSize (n : Int) : Prop :=
  0 ≤ n ∧ n < twoTo 63

variable {files : List ListedFile}

theorem AverageSize.exists_ofFiles (few : files.length < twoTo 63)
    (sizes : ∀ file ∈ files, IsSize file.size) : ∃ average, ofFiles files = .ok average := by
  have bound : (sumInt (files.map (·.size))).natAbs < twoTo 1023 := by
    refine natAbs_sumInt_lt (by rwa [List.length_map]) fun n member => ?_
    obtain ⟨file, isFile, rfl⟩ := List.mem_map.1 member
    have room : twoTo 63 ≤ twoTo 65 := by decide +kernel
    have size := sizes file isFile
    unfold IsSize at size
    omega
  obtain ⟨average, averageOk⟩ := exists_quotient files.length bound
  obtain ⟨bytes, bytesOk⟩ := exists_rounded (by decide : (0 : Int) ≤ averagePlaces) average
  obtain ⟨kib, kibOk⟩ := exists_rounded (by decide : (0 : Int) ≤ averagePlaces)
    (average.div kibibyteReal)
  obtain ⟨words, wordsOk⟩ := exists_sizeText average
  rw [ofFiles]
  split
  · exact ⟨_, rfl⟩
  · rw [averageOk, ok_bind, bytesOk, ok_bind, kibOk, ok_bind, wordsOk]
    exact ⟨_, rfl⟩

theorem LargeFile.exists_ofFiles (limit : Int) (sizes : ∀ file ∈ files, IsSize file.size) :
    ∃ largest, ofFiles limit files = .ok largest := by
  have listed (file : ListedFile) (isFile : file ∈ files) :
      ∃ large, ofListed file = .ok large ∧ True := by
    have room : twoTo 63 ≤ twoTo 1023 := by decide +kernel
    have size := sizes file isFile
    unfold IsSize at size
    have bound : file.size.natAbs < twoTo 1023 := by omega
    obtain ⟨x, divides⟩ := exists_quotient kibibyte bound
    obtain ⟨kib, rounds⟩ := exists_rounded (by decide : (0 : Int) ≤ averagePlaces) x
    rw [ofListed, sizeInKib, divides, ok_bind, rounds]
    exact ⟨_, rfl, trivial⟩
  obtain ⟨largest, all, -⟩ := mapM_ok_of_forall fun file member =>
    listed file (List.mem_mergeSort.1 ((takeLimit_sublist limit _).subset member))
  exact ⟨largest, all⟩

/-- Listed files whose sizes are sizes have a report, if the settings have a language and a
limit. -/
theorem Report.exists_compose {sources manifests : List ListedFile} {settings : Settings}
    {limit : Int} {language : String} (corpus : CorpusSurvey) (survey : ManifestSurvey)
    (limited : limitOf settings.largestFilesLimit = .ok limit)
    (named : languageName settings.language = .ok language)
    (few : sources.length < twoTo 63)
    (sizes : ∀ file ∈ sources ++ manifests, IsSize file.size) :
    ∃ report, compose sources manifests corpus survey settings = .ok report := by
  obtain ⟨largest, listed⟩ := LargeFile.exists_ofFiles limit sizes
  obtain ⟨average, averaged⟩ := AverageSize.exists_ofFiles few
    fun file member => sizes file (List.mem_append_left _ member)
  rw [compose, limited, ok_bind, listed, ok_bind, averaged, ok_bind]
  simp only [summarize, named, ok_bind]
  exact ⟨_, rfl⟩

end LineCensus
