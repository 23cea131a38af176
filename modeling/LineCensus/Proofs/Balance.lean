/-
# Proofs.Balance -- the numbers of a report agree

A report is composed of a survey of the corpus and of two listings, and each number in
it is one of theirs.

* `Corpus.comesOf_of_measure`: what comes of one source, and from it by induction over
  the batch `Collection.of_comesOf`: sources are measured or passed over, in order.
* `Report.pieces_of_analyze`: an analysis that returns has composed its report of these
  pieces, and `Report.Composed` says what the report takes from each.
* `report_balances`: the numbers of files agree with the files and with each other.
-/
import LineCensus.Proofs.Listing
import LineCensus.Proofs.Reading

set_option autoImplicit false

namespace LineCensus

/-! ## A corpus -/

namespace CorpusMeasure

/-- What a corpus takes from its files. -/
structure Folds (files : List FileMeasure) (corpus : CorpusMeasure) : Prop where
  lines : corpus.lines.total = total (·.totalLines) files
  code : corpus.lines.code = total (·.codeLines) files
  comments : corpus.lines.comment = total (·.commentLines) files
  blanks : corpus.lines.blank = total (·.blankLines) files
  complexity : corpus.complexity.total = total (·.complexity) files
  nesting : corpus.nesting.deepest = deepest files
  methods : corpus.methods.methods = total (·.methodDeclarations) files
  classes : corpus.types.classes = total (·.classDeclarations) files
  modules : corpus.types.modules = total (·.moduleDeclarations) files
  methodLengths : LengthSummary.ofLengths (files.flatMap (·.methodLengths)) =
    .ok corpus.methodLengths
  classSizes : LengthSummary.ofLengths (files.flatMap (·.classSizes)) = .ok corpus.classSizes
  analyzed : corpus.filesAnalyzed = files.length
  inComplexity : corpus.complexity.files = files.length
  inNesting : corpus.nesting.files = files.length
  inDensity : corpus.methods.lines = total (·.totalLines) files
  averageLength : corpus.methods.averageLength = corpus.methodLengths.average

theorem folds_of_ofFiles {files : List FileMeasure} {corpus : CorpusMeasure}
    (folded : ofFiles files = .ok corpus) : Folds files corpus := by
  unfold ofFiles at folded
  obtain ⟨methodLengths, lengthsOk, folded⟩ := bind_eq_ok folded
  obtain ⟨classSizes, sizesOk, folded⟩ := bind_eq_ok folded
  obtain ⟨commentShare, -, folded⟩ := bind_eq_ok folded
  obtain ⟨complexity, -, folded⟩ := bind_eq_ok folded
  obtain ⟨nesting, -, folded⟩ := bind_eq_ok folded
  obtain ⟨density, -, folded⟩ := bind_eq_ok folded
  obtain ⟨classes, -, folded⟩ := bind_eq_ok folded
  obtain ⟨modules, -, folded⟩ := bind_eq_ok folded
  cases folded
  exact ⟨rfl, rfl, rfl, rfl, rfl, rfl, rfl, rfl, rfl, lengthsOk, sizesOk, rfl, rfl, rfl, rfl, rfl⟩

end CorpusMeasure

/-- A file whose text can be read. -/
def isReadable (disk : Disk) (encoding path : String) : Bool :=
  (disk.readText encoding path).isOk

/-- The lines of a file are those of its text, and a file without a text has none. -/
theorem Source.readLines_eq_ok {disk : Disk} {encoding path : String}
    {outcome : Except SkipCause (List Text)} (reads : readLines disk encoding path = .ok outcome) :
    (∃ text, disk.readText encoding path = .ok text ∧ outcome = .ok text.lines) ∨
      ∃ cause, (∀ text, disk.readText encoding path ≠ .ok text) ∧ outcome = .error cause := by
  unfold readLines at reads
  split at reads
  · rename_i absent
    refine .inr ⟨.missing, fun text some_text => ?_, (Except.ok.inj reads).symm⟩
    simp [(Disk.isFile_of_readText some_text).1] at absent
  split at reads
  · rename_i notAFile
    refine .inr ⟨.notAFile, fun text some_text => ?_, (Except.ok.inj reads).symm⟩
    simp [(Disk.isFile_of_readText some_text).2] at notAFile
  split at reads
  · rename_i text some_text
    exact .inl ⟨text, some_text, (Except.ok.inj reads).symm⟩
  · rename_i problem fails
    refine .inr ⟨.unreadable problem, fun text some_text => ?_, (Except.ok.inj reads).symm⟩
    rw [some_text] at fails
    cases fails
  · cases reads

/-- What a file comes to when it comes to anything. -/
theorem Corpus.comesOf_of_measure {disk : Disk} {settings : Settings} {path : String}
    {outcome : Outcome} (measured : (measure disk settings path).result = .ok outcome) :
    ComesOf disk settings.encoding path outcome := by
  rw [measure, Source.scan, Logged.bind_result, Logged.bind_result, Logged.ofExcept] at measured
  obtain ⟨scanned, scan, measured⟩ := bind_eq_ok measured
  obtain ⟨lines, reads, scan⟩ := bind_eq_ok scan
  rcases Source.readLines_eq_ok reads with ⟨text, some_text, rfl⟩ | ⟨cause, none, rfl⟩
  · cases scan
    cases measured
    exact .measured text some_text
  · cases scan
    cases measured
    exact .passedOver cause.reason cause.reason_ne_empty none

theorem ComesOf.isReadable_eq {disk : Disk} {encoding path : String} {outcome : Outcome}
    (comes : ComesOf disk encoding path outcome) :
    isReadable disk encoding path = outcome.isOk := by
  unfold isReadable
  cases comes with
  | measured text some_text =>
      rw [some_text]
      rfl
  | passedOver reason _ none =>
      cases reads : disk.readText encoding path with
      | ok text => exact absurd reads (none text)
      | error _ => rfl

namespace Collection

theorem ofOutcomes_measured (measure : FileMeasure) (rest : List Outcome) :
    ofOutcomes (.ok measure :: rest) =
      { measured := measure :: (ofOutcomes rest).measured
        skipped := (ofOutcomes rest).skipped } := rfl

theorem ofOutcomes_skipped (record : SkippedFile) (rest : List Outcome) :
    ofOutcomes (.error record :: rest) =
      { measured := (ofOutcomes rest).measured
        skipped := record :: (ofOutcomes rest).skipped } := rfl

/-- One record for every file without a text, in the order of the files, and one measure
for each of the others. -/
theorem of_comesOf {disk : Disk} {encoding : String} {paths : List String}
    {outcomes : List Outcome} (comes : List.Forall₂ (ComesOf disk encoding) paths outcomes) :
    (ofOutcomes outcomes).skipped.map (·.path) = paths.filter (!isReadable disk encoding ·) ∧
      (ofOutcomes outcomes).measured.length + (ofOutcomes outcomes).skipped.length =
        paths.length := by
  induction comes with
  | nil => exact ⟨rfl, rfl⟩
  | @cons path outcome paths outcomes here _ ih =>
      obtain ⟨records, counts⟩ := ih
      have readable := here.isReadable_eq
      cases here with
      | measured text _ =>
          have kept : isReadable disk encoding path = true := readable
          rw [ofOutcomes_measured]
          refine ⟨by simp [kept, records], ?_⟩
          simp only [List.length_cons]
          omega
      | passedOver reason _ _ =>
          have skipped : isReadable disk encoding path = false := readable
          rw [ofOutcomes_skipped]
          refine ⟨by simp [skipped, records], ?_⟩
          simp only [List.length_cons]
          omega

end Collection

/-- The survey of a corpus that no cancel cuts short. -/
theorem CorpusSurvey.of_ofPaths {disk : Disk} {settings : Settings} {workers : Workers}
    {cancelAfter : Option Nat} {paths : List String} {survey : CorpusSurvey}
    (uncancelled : Corpus.admitted cancelAfter paths.length = paths.length)
    (surveyed : (ofPaths disk settings workers cancelAfter paths).result = .ok survey) :
    survey.skipped.map (·.path) = paths.filter (!isReadable disk settings.encoding ·) ∧
      survey.totals.filesAnalyzed + survey.skipped.length = paths.length ∧
      survey.totals.complexity.files = survey.totals.filesAnalyzed ∧
      survey.totals.nesting.files = survey.totals.filesAnalyzed := by
  rw [ofPaths_result] at surveyed
  obtain ⟨collection, collected, surveyed⟩ := bind_eq_ok surveyed
  obtain ⟨totals, folded, surveyed⟩ := bind_eq_ok surveyed
  cases surveyed
  rw [Corpus.collect_eq_ok_iff, Corpus.beforeCancel_eq_take, uncancelled, List.take_length]
    at collected
  obtain ⟨outcomes, measured, rfl⟩ := collected
  have comes := measured.imp fun _ _ => Corpus.comesOf_of_measure
  obtain ⟨records, counts⟩ := Collection.of_comesOf comes
  have folds := CorpusMeasure.folds_of_ofFiles folded
  refine ⟨records, ?_, folds.inComplexity.trans folds.analyzed.symm,
    folds.inNesting.trans folds.analyzed.symm⟩
  rw [folds.analyzed]
  exact_mod_cast counts

/-! ## A report -/

namespace Report

/-- What stands in a report that is composed of these pieces. -/
structure Composed (sources manifests : List ListedFile) (corpus : CorpusSurvey)
    (survey : ManifestSurvey) (settings : Settings) (report : Report) : Prop where
  counts : report.counts =
    { total := (sources ++ manifests).length
      sources := sources.length
      manifests := manifests.length
      analyzed := corpus.totals.filesAnalyzed
      skipped := corpus.skipped.length }
  types : report.files.types = extensionCounts (sources ++ manifests)
  directories : report.files.directories = directoryCounts (sources ++ manifests)
  sizes : report.files.sizes = SizeCounts.ofFiles (sources ++ manifests)
  naming : report.files.naming = NamingCounts.ofFiles sources
  largest : ∃ limit, limitOf settings.largestFilesLimit = .ok limit ∧
    LargeFile.ofFiles limit (sources ++ manifests) = .ok report.files.largest
  averageSize : AverageSize.ofFiles sources = .ok report.code.averageSize
  coarseSizes : report.code.sizes = CoarseSizeCounts.ofFiles sources
  complexity : report.complexity.complexity = corpus.totals.complexity
  nesting : report.complexity.nesting = corpus.totals.nesting
  survey : report.manifests = survey
  skipped : report.skipped = corpus.skipped
  summary : report.summarize settings = .ok report.summary

variable {settings : Settings} {report : Report}

theorem composed_of_compose {sources manifests : List ListedFile} {corpus : CorpusSurvey}
    {survey : ManifestSurvey}
    (composed : compose sources manifests corpus survey settings = .ok report) :
    Composed sources manifests corpus survey settings report := by
  obtain ⟨limit, limited, composed⟩ := bind_eq_ok composed
  obtain ⟨largest, listed, composed⟩ := bind_eq_ok composed
  obtain ⟨averageSize, averaged, composed⟩ := bind_eq_ok composed
  obtain ⟨summary, summarized, composed⟩ := bind_eq_ok composed
  cases composed
  exact
    { counts := rfl, types := rfl, directories := rfl, sizes := rfl, naming := rfl
      largest := ⟨limit, limited, listed⟩
      averageSize := averaged
      coarseSizes := rfl, complexity := rfl, nesting := rfl, survey := rfl, skipped := rfl
      summary := summarized }

/-- The numbers of files in a summary are those of the report. -/
theorem counts_of_summarize {summary : Summary}
    (summarized : report.summarize settings = .ok summary) :
    summary.totalFiles = report.counts.total ∧ summary.filesAnalyzed = report.counts.analyzed ∧
      summary.filesSkipped = report.counts.skipped := by
  obtain ⟨language, -, summarized⟩ := bind_eq_ok summarized
  cases summarized
  exact ⟨rfl, rfl, rfl⟩

/-- The result of an analysis, its log left out. -/
theorem analyze_result (disk : Disk) (settings : Settings) (workers : Workers)
    (cancelAfter : Option Nat) (sources manifests : List String) :
    (analyze disk settings workers cancelAfter sources manifests).result = (do
      let corpus ← (CorpusSurvey.ofPaths disk settings workers cancelAfter sources).result
      let survey ← (ManifestSurvey.ofPaths disk settings.encoding manifests).result
      let listedSources ← ListedFile.ofPaths disk sources
      let listedManifests ← ListedFile.ofPaths disk manifests
      compose listedSources listedManifests corpus survey settings) := by
  unfold analyze
  simp only [Logged.bind_result]
  rfl

/-- The pieces that an analysis composes its report of. -/
theorem composed_of_analyze {disk : Disk} {workers : Workers} {cancelAfter : Option Nat}
    {sources manifests : List String}
    (returned : (analyze disk settings workers cancelAfter sources manifests).result =
      .ok report) :
    ∃ corpus survey listedSources listedManifests,
      (CorpusSurvey.ofPaths disk settings workers cancelAfter sources).result = .ok corpus ∧
      (ManifestSurvey.ofPaths disk settings.encoding manifests).result = .ok survey ∧
      ListedFile.ofPaths disk sources = .ok listedSources ∧
      ListedFile.ofPaths disk manifests = .ok listedManifests ∧
      compose listedSources listedManifests corpus survey settings = .ok report := by
  rw [analyze_result] at returned
  obtain ⟨corpus, surveyed, returned⟩ := bind_eq_ok returned
  obtain ⟨survey, manifestsRead, returned⟩ := bind_eq_ok returned
  obtain ⟨listedSources, sourcesListed, returned⟩ := bind_eq_ok returned
  obtain ⟨listedManifests, manifestsListed, composed⟩ := bind_eq_ok returned
  exact ⟨corpus, survey, listedSources, listedManifests, surveyed, manifestsRead,
    sourcesListed, manifestsListed, composed⟩

/-- What the report of an analysis takes from its pieces. -/
theorem pieces_of_analyze {disk : Disk} {workers : Workers} {cancelAfter : Option Nat}
    {sources manifests : List String}
    (returned : (analyze disk settings workers cancelAfter sources manifests).result =
      .ok report) :
    ∃ corpus survey listedSources listedManifests,
      (CorpusSurvey.ofPaths disk settings workers cancelAfter sources).result = .ok corpus ∧
      ListedFile.ofPaths disk sources = .ok listedSources ∧
      ListedFile.ofPaths disk manifests = .ok listedManifests ∧
      Composed listedSources listedManifests corpus survey settings report := by
  obtain ⟨corpus, survey, listedSources, listedManifests, surveyed, -, sourcesListed,
    manifestsListed, composed⟩ := composed_of_analyze returned
  exact ⟨corpus, survey, listedSources, listedManifests, surveyed, sourcesListed,
    manifestsListed, composed_of_compose composed⟩

end Report

/-! ## The books of a report -/

/-- The numbers of a report on sources and manifests agree with the files and with each
other. -/
structure Report.Balances (disk : Disk) (encoding : String) (limit : Nat)
    (sources manifests : List String) (report : Report) : Prop where
  sourceCount : report.counts.sources = sources.length
  analyzed : report.counts.sources = report.counts.analyzed + report.counts.skipped
  skipped : report.counts.skipped = report.skipped.length
  /-- One record for every source without a text, in order. -/
  records : report.skipped.map (·.path) = sources.filter (!isReadable disk encoding ·)
  inSummary : report.summary.filesAnalyzed = report.counts.analyzed
  inComplexity : report.complexity.complexity.files = report.counts.analyzed
  inNesting : report.complexity.nesting.files = report.counts.analyzed
  manifestCount : report.counts.manifests = manifests.length
  total : report.counts.total = report.counts.sources + report.counts.manifests
  types : report.files.types.total = report.counts.total
  directories : report.files.directories.total = report.counts.total
  sizes : report.files.sizes.total = (sources ++ manifests).countP disk.exists?
  /-- Of the sources alone, the coarse sizes are the fine ones with the two largest
  classes in one. -/
  coarseSizes : ∃ listed, ListedFile.ofPaths disk sources = .ok listed ∧
    report.code.sizes.tiny = (SizeCounts.ofFiles listed).tiny ∧
    report.code.sizes.small = (SizeCounts.ofFiles listed).small ∧
    report.code.sizes.medium = (SizeCounts.ofFiles listed).medium ∧
    report.code.sizes.large =
      (SizeCounts.ofFiles listed).large + (SizeCounts.ofFiles listed).huge
  largest : (report.files.largest.length : Int) = min (limit : Int) report.counts.total

/-- **The numbers of a report agree**: a source is analyzed or skipped, every listed file
is in one group of each kind, and the largest files are as many as asked for, or all. -/
theorem report_balances {disk : Disk} {settings : Settings} {workers : Workers}
    {cancelAfter : Option Nat} {sources manifests : List String} {limit : Nat} {report : Report}
    (uncancelled : Corpus.admitted cancelAfter sources.length = sources.length)
    (limited : limitOf settings.largestFilesLimit = .ok limit)
    (returned : (Report.analyze disk settings workers cancelAfter sources manifests).result =
      .ok report) :
    report.Balances disk settings.encoding limit sources manifests := by
  obtain ⟨corpus, survey, listedSources, listedManifests, surveyed, sourcesListed,
    manifestsListed, composed⟩ := Report.pieces_of_analyze returned
  obtain ⟨records, analyzed, complexity, nesting⟩ := CorpusSurvey.of_ofPaths uncancelled surveyed
  obtain ⟨-, inSummary, -⟩ := Report.counts_of_summarize composed.summary
  have sourceCount := ListedFile.length_of_ofPaths sourcesListed
  have manifestCount := ListedFile.length_of_ofPaths manifestsListed
  have counts := composed.counts
  have listedCount : report.counts.total = (listedSources ++ listedManifests).length := by
    rw [counts]
  have largest : report.files.largest.length =
      min limit (listedSources ++ listedManifests).length := by
    obtain ⟨limit', limited', listed⟩ := composed.largest
    rw [limited] at limited'
    cases limited'
    exact LargeFile.length_of_ofFiles listed
  exact
    { sourceCount := by rw [counts, sourceCount]
      analyzed := by rw [counts, sourceCount, analyzed]
      skipped := by rw [counts, composed.skipped]
      records := by rw [composed.skipped, records]
      inSummary
      inComplexity := by rw [composed.complexity, complexity, counts]
      inNesting := by rw [composed.nesting, nesting, counts]
      manifestCount := by rw [counts, manifestCount]
      total := by rw [counts, List.length_append, Int.natCast_add]
      types := by rw [composed.types, total_extensionCounts, listedCount]
      directories := by rw [composed.directories, total_directoryCounts, listedCount]
      sizes := by
        rw [composed.sizes, SizeCounts.total_ofFiles, List.countP_append, List.countP_append,
          ListedFile.present_of_ofPaths sourcesListed,
          ListedFile.present_of_ofPaths manifestsListed]
      coarseSizes := by
        refine ⟨listedSources, sourcesListed, ?_⟩
        rw [composed.coarseSizes, coarse_ofFiles]
        exact ⟨rfl, rfl, rfl, rfl⟩
      largest := by
        rw [largest, listedCount]
        omega }

/-- A disk with a source, a manifest and a folder. -/
def smallProject : Disk where
  root := .folder
    [("a.rb", .file ⟨#[0x78, 0x0A]⟩ false), ("Gemfile", .file ⟨#[]⟩ false), ("lib", .folder [])]
  currentFolder := "/"
  home := "/"

/-- A source that is given twice, a folder and a path that leads nowhere. -/
theorem report_balances_smallProject :
    ∃ report,
      Corpus.admitted none 4 = 4 ∧
      limitOf (.whole 0) = .ok 0 ∧
      (Report.analyze smallProject { largestFilesLimit := .whole 0 } Schedule.inOrder none
        ["/a.rb", "/lib", "/b.rb", "/a.rb"] ["/Gemfile"]).result = .ok report ∧
      report.Balances smallProject "utf-8" 0 ["/a.rb", "/lib", "/b.rb", "/a.rb"]
        ["/Gemfile"] := by
  have returns : (Report.analyze smallProject { largestFilesLimit := .whole 0 } Schedule.inOrder
      none ["/a.rb", "/lib", "/b.rb", "/a.rb"] ["/Gemfile"]).result.isOk = true := by
    decide +kernel
  cases returned : (Report.analyze smallProject { largestFilesLimit := .whole 0 }
      Schedule.inOrder none ["/a.rb", "/lib", "/b.rb", "/a.rb"] ["/Gemfile"]).result with
  | error fault =>
      rw [returned] at returns
      cases returns
  | ok report => exact ⟨report, rfl, rfl, rfl, report_balances rfl rfl returned⟩

end LineCensus
