/-
# Proofs.Faults -- which faults an analysis ends with

Files and paths can end an analysis in four ways (`Fault.OfFiles`), and every step up to the
composing of the report ends in one of these if it fails.  That it is so of one step after the
other needs saying once (`FailsByFiles.bind`, `FailsByFiles.mapM`); a step is then as good as
its parts.

Composing is where the settings are used.  `Report.EndsBy` has the ways to end that come from
them: the limit of the largest files is no whole number, or the language is no text.  Every
analysis ends in one of its ways (`Report.analyze_endsBy`).
-/
import LineCensus.Proofs.Balance
import LineCensus.Proofs.Magnitudes
import LineCensus.Proofs.Manifests

set_option autoImplicit false

namespace LineCensus

/-- The faults that files, their paths and the name of their encoding can lead to. -/
inductive Fault.OfFiles : Fault → Prop where
  | tooLarge : OfFiles .tooLarge
  | noByteOrderMark : OfFiles .noByteOrderMark
  | nulInPath : OfFiles (.refused .nulInPath)
  | nulInName : OfFiles (.refused .nulInName)

/-- If a result is a fault, it is one of files. -/
def FailsByFiles {α : Type} (result : Except Fault α) : Prop :=
  ∀ fault, result = .error fault → fault.OfFiles

namespace FailsByFiles

variable {α β : Type}

theorem ok (a : α) : FailsByFiles (.ok a) := by
  intro fault fails
  cases fails

theorem error {fault : Fault} (ofFiles : fault.OfFiles) : FailsByFiles (α := α) (.error fault) := by
  intro other fails
  cases fails
  exact ofFiles

theorem bind {first : Except Fault α} {next : α → Except Fault β} (here : FailsByFiles first)
    (later : ∀ a, FailsByFiles (next a)) : FailsByFiles (first >>= next) := by
  intro fault fails
  rcases bind_eq_error fails with fails | ⟨a, -, fails⟩
  · exact here fault fails
  · exact later a fault fails

theorem mapM {f : α → Except Fault β} (each : ∀ a, FailsByFiles (f a)) (items : List α) :
    FailsByFiles (items.mapM f) := by
  induction items with
  | nil => exact ok []
  | cons item rest ih =>
      rw [List.mapM_cons]
      exact (each item).bind fun _ => ih.bind fun _ => ok _

theorem map {f : α → β} {result : Except Fault α} (here : FailsByFiles result) :
    FailsByFiles (result.map f) := by
  intro fault fails
  cases result with
  | ok a => cases fails
  | error other =>
      obtain rfl := Except.error.inj fails
      exact here _ rfl

end FailsByFiles

/-! ## Numbers -/

theorem Amount.toBinary64_failsByFiles (amount : Amount) : FailsByFiles amount.toBinary64 := by
  fun_cases toBinary64 amount with
  | case1 => exact .ok _
  | case2 => exact .error .tooLarge
  | case3 x => exact .ok x

theorem rounded_failsByFiles (places : Int) (x : Binary64) : FailsByFiles (rounded places x) := by
  rw [rounded]
  split
  · exact .ok _
  · exact .error .tooLarge

theorem ratio_failsByFiles (numerator denominator : Amount) (places : Int) :
    FailsByFiles (ratio numerator denominator places) := by
  rw [ratio]
  split
  · exact .ok _
  · refine numerator.toBinary64_failsByFiles.bind fun _ => ?_
    exact denominator.toBinary64_failsByFiles.bind fun _ => rounded_failsByFiles _ _

theorem percentage_failsByFiles (part whole : Amount) (places : Int) :
    FailsByFiles (percentage part whole places) := by
  rw [percentage]
  split
  · exact .ok _
  · refine part.toBinary64_failsByFiles.bind fun _ => ?_
    exact whole.toBinary64_failsByFiles.bind fun _ => rounded_failsByFiles _ _

theorem quotient_failsByFiles (numerator denominator : Int) :
    FailsByFiles (quotient numerator denominator) := by
  rw [quotient_def]
  beta_reduce
  split
  · exact .ok _
  · exact .error .tooLarge

theorem sizeText_failsByFiles (size : Amount) : FailsByFiles (sizeText size) := by
  rw [sizeText]
  refine size.toBinary64_failsByFiles.bind fun _ => ?_
  exact (rounded_failsByFiles _ _).bind fun _ => .ok _

theorem LengthSummary.ofLengths_failsByFiles (lengths : List Int) :
    FailsByFiles (ofLengths lengths) := by
  have numbers : FailsByFiles ((lengths.mergeSort (· ≤ ·)).mapM fun n =>
      (Amount.whole n).toBinary64) :=
    .mapM (fun n => (Amount.whole n).toBinary64_failsByFiles) _
  have sum : FailsByFiles (doubleSum (lengths.mergeSort (· ≤ ·))) := numbers.bind fun _ => .ok _
  rw [ofLengths]
  split
  · exact .ok _
  split
  · exact .error .tooLarge
  · exact sum.bind fun _ => (rounded_failsByFiles _ _).bind fun _ => .ok _

theorem CorpusMeasure.ofFiles_failsByFiles (files : List FileMeasure) :
    FailsByFiles (ofFiles files) := by
  rw [ofFiles]
  refine (LengthSummary.ofLengths_failsByFiles _).bind fun _ => ?_
  refine (LengthSummary.ofLengths_failsByFiles _).bind fun _ => ?_
  refine (percentage_failsByFiles _ _ _).bind fun _ => ?_
  refine (ratio_failsByFiles _ _ _).bind fun _ => ?_
  refine (ratio_failsByFiles _ _ _).bind fun _ => ?_
  refine (percentage_failsByFiles _ _ _).bind fun _ => ?_
  refine (ratio_failsByFiles _ _ _).bind fun _ => ?_
  exact (ratio_failsByFiles _ _ _).bind fun _ => .ok _

theorem LargeFile.ofFiles_failsByFiles (limit : Int) (files : List ListedFile) :
    FailsByFiles (ofFiles limit files) := by
  refine .mapM (fun file => ?_) _
  rw [ofListed, sizeInKib]
  exact ((quotient_failsByFiles _ _).bind fun _ => rounded_failsByFiles _ _).bind fun _ => .ok _

theorem LargeFile.ofFiles_nil (limit : Int) : ofFiles limit [] = .ok [] := by
  rw [ofFiles, ranking, List.mergeSort_nil, takeLimit]
  split
  · rw [List.take_nil]
    rfl
  · rw [List.take_nil]
    rfl

theorem AverageSize.ofFiles_failsByFiles (files : List ListedFile) :
    FailsByFiles (ofFiles files) := by
  rw [ofFiles]
  split
  · exact .ok _
  · refine (quotient_failsByFiles _ _).bind fun _ => ?_
    refine (rounded_failsByFiles _ _).bind fun _ => ?_
    refine (rounded_failsByFiles _ _).bind fun _ => ?_
    exact (sizeText_failsByFiles _).bind fun _ => .ok _

/-! ## Files -/

variable {disk : Disk}

theorem Disk.ofFiles_of_readText {encoding path : String} {fault : Fault}
    (fails : disk.readText encoding path = .error (.fault fault)) : fault.OfFiles := by
  rw [readText] at fails
  split at fails
  · cases fails
    exact .nulInName
  split at fails
  · cases fails
    exact .nulInPath
  split at fails
  · cases fails
  split at fails
  · cases fails
  split at fails
  · cases fails
  · cases fails
    exact .noByteOrderMark

theorem Source.readLines_failsByFiles (encoding path : String) :
    FailsByFiles (readLines disk encoding path) := by
  intro fault fails
  rw [readLines] at fails
  split at fails
  · cases fails
  split at fails
  · cases fails
  split at fails
  · cases fails
  · cases fails
  · rename_i reads
    cases fails
    exact Disk.ofFiles_of_readText reads

theorem Corpus.measure_failsByFiles (settings : Settings) (path : String) :
    FailsByFiles (measure disk settings path).result := by
  rw [measure, Source.scan, Logged.bind_result, Logged.bind_result, Logged.ofExcept]
  refine FailsByFiles.bind ((Source.readLines_failsByFiles _ _).bind fun lines => ?_) fun scanned => ?_
  · cases lines with
    | error cause => exact .ok _
    | ok lines => exact .ok _
  · cases scanned with
    | error skipped => exact .ok _
    | ok lines => exact .ok _

theorem CorpusSurvey.ofPaths_failsByFiles (settings : Settings) (workers : Workers)
    (cancelAfter : Option Nat) (paths : List String) :
    FailsByFiles (ofPaths disk settings workers cancelAfter paths).result := by
  rw [ofPaths_result, Corpus.collect_result]
  have outcomes : FailsByFiles (Corpus.outcomesOf disk settings cancelAfter paths) :=
    .mapM (Corpus.measure_failsByFiles settings) _
  refine (outcomes.map).bind fun collection => ?_
  rw [ofCollection]
  exact (CorpusMeasure.ofFiles_failsByFiles _).bind fun _ => .ok _

theorem ManifestSurvey.ofPaths_failsByFiles (encoding : String) (paths : List String) :
    FailsByFiles (ofPaths disk encoding paths).result := by
  intro fault fails
  obtain ⟨path, -, fails⟩ := fault_of_ofPaths fails
  exact Disk.ofFiles_of_readText fails

theorem ListedFile.ofPaths_failsByFiles (paths : List String) :
    FailsByFiles (ofPaths disk paths) := by
  refine .mapM (fun path => ?_) _
  rw [ofPath]
  split
  · exact .error .nulInPath
  · exact .ok _

/-! ## Composing -/

theorem limitOf_cases (value : Value) :
    (∃ limit, limitOf value = .ok limit) ∨ limitOf value = .error .wrongKind := by
  unfold limitOf
  split
  · exact .inl ⟨_, rfl⟩
  · exact .inl ⟨_, rfl⟩
  · exact .inr rfl

theorem languageName_cases (value : Value) :
    (value.isText = true ∧ ∃ name, languageName value = .ok name) ∨
      (value.isText = false ∧ languageName value = .error .unsupported) := by
  cases value with
  | text name => exact .inl ⟨rfl, _, rfl⟩
  | _ => exact .inr ⟨rfl, rfl⟩

/-- The limit of the largest files can be used. -/
def Settings.HasLimit (settings : Settings) : Prop :=
  ∃ limit, limitOf settings.largestFilesLimit = .ok limit

/-- The language can be used. -/
def Settings.HasLanguage (settings : Settings) : Prop :=
  settings.language.isText = true

namespace Report

variable {settings : Settings}

/-- What work on a report ends with: a fault of files, the fault of the first of the two settings
that cannot be used, or a report. -/
inductive EndsBy (settings : Settings) : Except Fault Report → Prop where
  | files {fault : Fault} (ofFiles : fault.OfFiles) : EndsBy settings (.error fault)
  | limit (lacks : ¬ settings.HasLimit) : EndsBy settings (.error .wrongKind)
  | language (hasLimit : settings.HasLimit) (lacks : ¬ settings.HasLanguage) :
      EndsBy settings (.error .unsupported)
  | report (hasLimit : settings.HasLimit) (hasLanguage : settings.HasLanguage) (report : Report) :
      EndsBy settings (.ok report)

theorem EndsBy.behind {α : Type} {first : Except Fault α} {next : α → Except Fault Report}
    (here : FailsByFiles first) (later : ∀ a, EndsBy settings (next a)) :
    EndsBy settings (first >>= next) := by
  cases first with
  | error fault => exact .files (here fault rfl)
  | ok a => exact later a

theorem compose_endsBy (sources manifests : List ListedFile) (corpus : CorpusSurvey)
    (survey : ManifestSurvey) :
    EndsBy settings (compose sources manifests corpus survey settings) := by
  rw [compose]
  rcases limitOf_cases settings.largestFilesLimit with hasLimit | unlimited
  swap
  · rw [unlimited]
    apply EndsBy.limit
    rintro ⟨limit, limited⟩
    rw [unlimited] at limited
    cases limited
  obtain ⟨limit, limited⟩ := hasLimit
  rw [limited, ok_bind]
  apply EndsBy.behind (LargeFile.ofFiles_failsByFiles _ _)
  intro largest
  apply EndsBy.behind (AverageSize.ofFiles_failsByFiles _)
  intro averageSize
  simp only [summarize]
  rcases languageName_cases settings.language with ⟨isText, name, named⟩ | ⟨noText, unnamed⟩
  · rw [named]
    exact .report ⟨limit, limited⟩ isText _
  · rw [unnamed]
    apply EndsBy.language ⟨limit, limited⟩
    intro hasLanguage
    rw [Settings.HasLanguage, noText] at hasLanguage
    cases hasLanguage

/-- An analysis ends by its files, or by the two settings that its report uses. -/
theorem analyze_endsBy (disk : Disk) (settings : Settings) (workers : Workers)
    (cancelAfter : Option Nat) (sources manifests : List String) :
    EndsBy settings (analyze disk settings workers cancelAfter sources manifests).result := by
  rw [analyze_result]
  apply EndsBy.behind (CorpusSurvey.ofPaths_failsByFiles _ _ _ _)
  intro corpus
  apply EndsBy.behind (ManifestSurvey.ofPaths_failsByFiles _ _)
  intro survey
  apply EndsBy.behind (ListedFile.ofPaths_failsByFiles _)
  intro listedSources
  apply EndsBy.behind (ListedFile.ofPaths_failsByFiles _)
  intro listedManifests
  exact compose_endsBy _ _ _ _

/-- Without files an analysis does not end by them. -/
theorem not_ofFiles_of_analyze_nil {disk : Disk} {workers : Workers} {cancelAfter : Option Nat}
    {fault : Fault}
    (fails : (analyze disk settings workers cancelAfter [] []).result = .error fault) :
    ¬ fault.OfFiles := by
  obtain ⟨corpus, surveyed⟩ : ∃ corpus,
      (CorpusSurvey.ofPaths disk settings workers cancelAfter []).result = .ok corpus := by
    rw [CorpusSurvey.ofPaths_result, Corpus.collect_result, Corpus.outcomesOf,
      Corpus.beforeCancel_nil]
    exact ⟨_, rfl⟩
  have composes : (analyze disk settings workers cancelAfter [] []).result =
      compose [] [] corpus {} settings := by
    rw [analyze_result, surveyed]
    rfl
  intro ofFiles
  rw [composes, compose] at fails
  rcases limitOf_cases settings.largestFilesLimit with ⟨limit, limited⟩ | unlimited
  · rw [limited, ok_bind, List.append_nil, LargeFile.ofFiles_nil] at fails
    simp only [summarize] at fails
    rcases languageName_cases settings.language with ⟨-, name, named⟩ | ⟨-, unnamed⟩
    · rw [named] at fails
      cases fails
    · rw [unnamed] at fails
      cases fails
      cases ofFiles
  · rw [unlimited] at fails
    cases fails
    cases ofFiles

end Report
end LineCensus
