/-
# Proofs.Returning -- which analyses return

With the default settings an analysis takes every path as it comes: one that leads nowhere
is listed with no size, a source that cannot be read is passed over with a reason, and a
manifest that cannot be read only counts.  The one thing it does not take is a path with a
NUL character, of which neither a size nor a manifest can be asked.

* `Disk.fault_of_readText`: the one fault of reading UTF-8.
* `CorpusSurvey.exists_ofPaths`: a corpus is always surveyed.
* `ListedFile.exists_ofPaths`: paths without NUL are listed.
* `analysis_returns`: the report of an analysis, and the fault where there is none.
-/
import LineCensus.Proofs.Magnitudes
import LineCensus.Proofs.Manifests

set_option autoImplicit false

namespace LineCensus

/-! ## What a machine can store -/

namespace Node

mutual

/-- The sizes of all files below the node are words of 64 bits. -/
def isStorable : Node → Bool
  | .file content _ => content.size < twoTo 63
  | .folder entries => areStorable entries

def areStorable : List (String × Node) → Bool
  | [] => true
  | (_, node) :: rest => node.isStorable && areStorable rest

end

theorem isStorable_of_lookup {entries : List (String × Node)} {name : String} {child : Node}
    (storable : areStorable entries = true) (found : entries.lookup name = some child) :
    child.isStorable = true := by
  obtain ⟨before, after, rfl, -⟩ := List.lookup_eq_some_iff.1 found
  clear found
  induction before with
  | nil =>
      simp only [List.nil_append, areStorable, Bool.and_eq_true] at storable
      exact storable.1
  | cons entry before ih =>
      simp only [List.cons_append, areStorable, Bool.and_eq_true] at storable
      exact ih storable.2

theorem isSize_of_isStorable {node : Node} (storable : node.isStorable = true) :
    IsSize node.size := by
  cases node with
  | file content executable =>
      simp only [isStorable, decide_eq_true_eq] at storable
      exact ⟨Int.natCast_nonneg _, Int.ofNat_lt.2 storable⟩
  | folder entries =>
      have block : IsSize folderSize := ⟨by decide, by decide +kernel⟩
      exact block

end Node

namespace Disk

variable {disk : Disk}

theorem isStorable_of_descend {parts : List String} {node found : Node} {above : List Node}
    (storable : node.isStorable = true) (aboveStorable : ∀ folder ∈ above, folder.isStorable = true)
    (leads : descend node above parts = .ok found) : found.isStorable = true := by
  fun_induction descend node above parts with
  | case1 node above =>
      cases leads
      exact storable
  | case2 => cases leads
  | case3 above part rest entries stays ih => exact ih storable aboveStorable leads
  | case4 rest entries parent higher _ ih =>
      exact ih (aboveStorable parent (by simp))
        (fun folder member => aboveStorable folder (List.mem_cons_of_mem parent member)) leads
  | case5 rest entries _ ih => exact ih storable aboveStorable leads
  | case6 => cases leads
  | case7 above part rest entries _ _ _ next found ih =>
      refine ih (Node.isStorable_of_lookup storable found) (fun folder member => ?_) leads
      rcases List.mem_cons.1 member with rfl | old
      · exact storable
      · exact aboveStorable folder old
  | case8 => cases leads

/-- What a path leads to on a disk that a machine can store. -/
theorem isSize_of_find {path : String} {node : Node} (storable : disk.root.isStorable = true)
    (found : disk.find path = .ok node) : IsSize node.size := by
  unfold find at found
  split at found
  · cases found
  split at found
  · cases found
  · exact Node.isSize_of_isStorable (isStorable_of_descend storable (by simp) found)

/-! ## Reading -/

theorem readText_of_hasNul {encoding path : String} (named : hasNul encoding = false)
    (nul : hasNul path = true) :
    disk.readText encoding path = .error (.fault (.refused .nulInPath)) := by
  rw [readText, named, nul]
  rfl

/-- Reading a file as UTF-8 is refused for a NUL character in its path, and else it gives a
text or a problem. -/
theorem fault_of_readText {path : String} {fault : Fault}
    (fails : disk.readText "utf-8" path = .error (.fault fault)) :
    fault = .refused .nulInPath ∧ hasNul path = true := by
  have named : hasNul "utf-8" = false := by decide +kernel
  cases nul : hasNul path with
  | true =>
      rw [readText_of_hasNul named nul] at fails
      cases fails
      exact ⟨rfl, rfl⟩
  | false =>
      have lacks := ((readText_fault_iff named nul fault).1 fails).2
      have utf8 : Codec.find? "utf-8" = some (.charset .utf8) := by decide +kernel
      have other := lacks.charset
      rw [utf8] at other
      cases other

/-- A text read as UTF-8 is no longer than its file. -/
theorem length_of_readText {path : String} {text : Text}
    (reads : disk.readText "utf-8" path = .ok text) :
    ∃ content, disk.content path = .ok content ∧ text.length ≤ content.size := by
  unfold readText at reads
  split at reads
  · cases reads
  split at reads
  · cases reads
  split at reads
  · cases reads
  rename_i content holds
  have utf8 : charset "utf-8" = .ok .utf8 := charset_eq_ok_iff.2 (by decide +kernel)
  rw [utf8] at reads
  simp only at reads
  split at reads
  · rename_i decoded
    cases reads
    exact ⟨content, holds, length_read?_utf8 decoded⟩
  · cases reads

theorem length_text_lt {path : String} {text : Text} (storable : disk.root.isStorable = true)
    (reads : disk.readText "utf-8" path = .ok text) : text.length < twoTo 63 := by
  obtain ⟨content, holds, short⟩ := length_of_readText reads
  obtain ⟨executable, found⟩ : ∃ executable, disk.find path = .ok (.file content executable) := by
    unfold Disk.content at holds
    split at holds
    · rename_i found
      cases holds
      exact ⟨_, found⟩
    · cases holds
    · cases holds
  have size := (isSize_of_find storable found).2
  have size' : content.size < twoTo 63 := Int.ofNat_lt.1 size
  omega

end Disk

variable {disk : Disk} {sources manifests : List String}

/-! ## A corpus -/

/-- Of the outcomes of sources, measures are in proportion to texts that a machine can hold,
and records give a reason. -/
theorem Collection.of_comesOf_utf8 (storable : disk.root.isStorable = true)
    {outcomes : List Outcome} (comes : List.Forall₂ (ComesOf disk "utf-8") sources outcomes) :
    (∀ file ∈ (ofOutcomes outcomes).measured, ∃ size < twoTo 63, file.AtMost size) ∧
      ∀ record ∈ (ofOutcomes outcomes).skipped, record.reason ≠ "" := by
  induction comes with
  | nil => exact ⟨by simp [ofOutcomes], by simp [ofOutcomes]⟩
  | cons here _ ih =>
      obtain ⟨measures, records⟩ := ih
      cases here with
      | measured text reads =>
          rw [ofOutcomes_measured]
          refine ⟨List.forall_mem_cons.2 ⟨?_, measures⟩, records⟩
          exact ⟨text.length, Disk.length_text_lt storable reads, FileMeasure.atMost_ofLines _ text⟩
      | passedOver reason given _ =>
          rw [ofOutcomes_skipped]
          exact ⟨measures, List.forall_mem_cons.2 ⟨given, records⟩⟩

/-- A corpus is always surveyed, whatever its paths. -/
theorem CorpusSurvey.exists_ofPaths (storable : disk.root.isStorable = true)
    (few : sources.length < twoTo 63) (workers : Workers) :
    ∃ survey, (ofPaths disk {} workers none sources).result = .ok survey ∧
      ∀ record ∈ survey.skipped, record.reason ≠ "" := by
  have named : Disk.hasNul ({} : Settings).encoding = false := by decide +kernel
  have marked (path : String) : ¬ LacksMark disk ({} : Settings).encoding path := by
    intro lacks
    have utf8 : Codec.find? ({} : Settings).encoding = some (.charset .utf8) := by decide +kernel
    have other := lacks.charset
    rw [utf8] at other
    cases other
  obtain ⟨outcomes, measured, comes⟩ := mapM_ok_of_forall fun path (_ : path ∈ sources) =>
    Corpus.measure_of_not_lacksMark named (marked path)
  have collected : (Corpus.collect disk {} workers none sources).result =
      .ok (Collection.ofOutcomes outcomes) := by
    rw [Corpus.collect_eq_ok_iff]
    exact ⟨outcomes, mapM_eq_ok_iff.1 measured, rfl⟩
  obtain ⟨measures, records⟩ := Collection.of_comesOf_utf8 storable comes
  have counts := (Collection.of_comesOf comes).2
  obtain ⟨totals, folded⟩ :=
    CorpusMeasure.exists_ofFiles (CorpusMeasure.fits_of_atMost (by omega) measures)
  refine ⟨{ totals, skipped := (Collection.ofOutcomes outcomes).skipped }, ?_, records⟩
  rw [ofPaths_result, collected, Except.bind, ofCollection, folded]
  rfl

/-! ## Listings -/

/-- How a path is listed: with the size of what it leads to, or with none. -/
structure ListedFile.Describes (disk : Disk) (path : String) (file : ListedFile) : Prop where
  isOf : file.path = path
  found : ∀ node, disk.find path = .ok node → file.size = node.size ∧ file.isPresent = true
  gone : ∀ problem, disk.find path = .error problem → file.size = 0 ∧ file.isPresent = false

namespace ListedFile

theorem exists_ofPath {path : String} (noNul : Disk.hasNul path = false) :
    ∃ file, ofPath disk path = .ok file ∧ file.Describes disk path := by
  rw [ofPath, noNul]
  refine ⟨_, rfl, rfl, fun node found => ?_, fun problem gone => ?_⟩
  · rw [found]
    exact ⟨rfl, rfl⟩
  · rw [gone]
    exact ⟨rfl, rfl⟩

theorem ofPath_of_hasNul {path : String} (nul : Disk.hasNul path = true) :
    ofPath disk path = .error (.refused .nulInPath) := by
  rw [ofPath, nul]
  rfl

/-- Paths without NUL are listed, whatever they lead to. -/
theorem exists_ofPaths {paths : List String} (noNul : ∀ path ∈ paths, Disk.hasNul path = false) :
    ∃ files, ofPaths disk paths = .ok files ∧ List.Forall₂ (Describes disk) paths files :=
  mapM_ok_of_forall fun path member => exists_ofPath (noNul path member)

theorem ofPaths_of_hasNul {paths : List String} (nul : ∃ path ∈ paths, Disk.hasNul path = true) :
    ofPaths disk paths = .error (.refused .nulInPath) := by
  obtain ⟨path, member, nul⟩ := nul
  refine mapM_eq_error (fun other _ => ?_) ⟨path, member, ofPath_of_hasNul nul⟩
  cases nul' : Disk.hasNul other with
  | true => exact .inl (ofPath_of_hasNul nul')
  | false =>
      obtain ⟨file, listed, -⟩ := exists_ofPath nul'
      exact .inr ⟨file, listed⟩

theorem isSize_of_describes (storable : disk.root.isStorable = true) {paths : List String}
    {files : List ListedFile} (describe : List.Forall₂ (Describes disk) paths files) :
    ∀ file ∈ files, IsSize file.size := by
  induction describe with
  | nil => simp
  | @cons path file _ _ here _ ih =>
      refine List.forall_mem_cons.2 ⟨?_, ih⟩
      cases found : disk.find path with
      | ok node =>
          rw [(here.found node found).1]
          exact Disk.isSize_of_find storable found
      | error problem =>
          rw [(here.gone problem found).1]
          exact ⟨Int.le_refl 0, by decide +kernel⟩

end ListedFile

/-! ## A report -/

/-- What a report with the default settings says of its paths, each of which may lead
nowhere or to what cannot be read. -/
structure Report.AccountsFor (disk : Disk) (sources manifests : List String)
    (report : Report) : Prop where
  /-- Sizes are those of the listed files; a path that leads nowhere is listed with none. -/
  listed : ∃ listedSources listedManifests corpus,
    List.Forall₂ (ListedFile.Describes disk) sources listedSources ∧
    List.Forall₂ (ListedFile.Describes disk) manifests listedManifests ∧
    report.Composed listedSources listedManifests corpus report.manifests {}
  /-- One record for every source without a text, in order. -/
  skipped : report.skipped.map (·.path) = sources.filter (!isReadable disk "utf-8" ·)
  reasons : ∀ record ∈ report.skipped, record.reason ≠ ""
  analyzed : report.counts.analyzed + report.counts.skipped = sources.length
  manifests : report.manifests.Surveys disk "utf-8" manifests

/-- A survey of manifests to be read as UTF-8 fails for a NUL character only. -/
theorem ManifestSurvey.fault_of_ofPaths_utf8 {fault : Fault}
    (failed : (ofPaths disk "utf-8" manifests).result = .error fault) :
    fault = .refused .nulInPath := by
  obtain ⟨path, -, fails⟩ := fault_of_ofPaths failed
  exact (Disk.fault_of_readText fails).1

namespace Report

theorem exists_analyze (storable : disk.root.isStorable = true)
    (few : sources.length < twoTo 63) (workers : Workers)
    (noNul : ∀ path ∈ sources ++ manifests, Disk.hasNul path = false) :
    ∃ report, (analyze disk {} workers none sources manifests).result = .ok report ∧
      report.AccountsFor disk sources manifests := by
  obtain ⟨inSources, inManifests⟩ := List.forall_mem_append.1 noNul
  obtain ⟨corpus, surveyed, reasons⟩ := CorpusSurvey.exists_ofPaths storable few workers
  obtain ⟨records, analyzed, -⟩ := CorpusSurvey.of_ofPaths rfl surveyed
  obtain ⟨survey, manifestsRead⟩ : ∃ survey,
      (ManifestSurvey.ofPaths disk "utf-8" manifests).result = .ok survey := by
    refine ManifestSurvey.exists_ofPaths fun path member fault fails => ?_
    have nul := (Disk.fault_of_readText fails).2
    rw [inManifests path member] at nul
    cases nul
  obtain ⟨listedSources, sourcesListed, describeSources⟩ := ListedFile.exists_ofPaths inSources
  obtain ⟨listedManifests, manifestsListed, describeManifests⟩ :=
    ListedFile.exists_ofPaths inManifests
  have sizes : ∀ file ∈ listedSources ++ listedManifests, IsSize file.size :=
    List.forall_mem_append.2 ⟨ListedFile.isSize_of_describes storable describeSources,
      ListedFile.isSize_of_describes storable describeManifests⟩
  have limited : limitOf ({} : Settings).largestFilesLimit = .ok 10 := rfl
  obtain ⟨report, composes⟩ := exists_compose corpus survey limited rfl
    (by rwa [ListedFile.length_of_ofPaths sourcesListed]) sizes
  have composed := composed_of_compose composes
  refine ⟨report, ?_, ?_⟩
  · rw [analyze_result, surveyed, ok_bind, manifestsRead, ok_bind, sourcesListed, ok_bind,
      manifestsListed, ok_bind, composes]
  · exact
      { listed := ⟨listedSources, listedManifests, corpus, describeSources, describeManifests,
          by rw [composed.survey]; exact composed⟩
        skipped := by rw [composed.skipped, records]
        reasons := by rwa [composed.skipped]
        analyzed := by rw [composed.counts, analyzed]
        manifests := by
          rw [composed.survey]
          exact ManifestSurvey.surveys_of_ofPaths manifestsRead }

theorem analyze_of_hasNul (storable : disk.root.isStorable = true)
    (few : sources.length < twoTo 63) (workers : Workers)
    (nul : ∃ path ∈ sources ++ manifests, Disk.hasNul path = true) :
    (analyze disk {} workers none sources manifests).result = .error (.refused .nulInPath) := by
  obtain ⟨corpus, surveyed, -⟩ := CorpusSurvey.exists_ofPaths storable few workers
  rw [analyze_result, surveyed, ok_bind]
  cases outcome : (ManifestSurvey.ofPaths disk "utf-8" manifests).result with
  | error fault =>
      rw [ManifestSurvey.fault_of_ofPaths_utf8 outcome]
      rfl
  | ok survey =>
      rw [ok_bind]
      by_cases inSources : ∃ path ∈ sources, Disk.hasNul path = true
      · rw [ListedFile.ofPaths_of_hasNul inSources]
        rfl
      · have noNul : ∀ path ∈ sources, Disk.hasNul path = false := by simpa using inSources
        have inManifests : ∃ path ∈ manifests, Disk.hasNul path = true := by
          obtain ⟨path, member, nul⟩ := nul
          rcases List.mem_append.1 member with source | manifest
          · rw [noNul path source] at nul
            cases nul
          · exact ⟨path, manifest, nul⟩
        obtain ⟨listedSources, sourcesListed, -⟩ := ListedFile.exists_ofPaths noNul
        rw [sourcesListed, ok_bind, ListedFile.ofPaths_of_hasNul inManifests]
        rfl

end Report

/-- **An analysis with the default settings returns, whatever its paths lead to, if no path
has a NUL character**; and with such a path it fails with the fault of that character. -/
theorem analysis_returns (storable : disk.root.isStorable = true)
    (few : sources.length < twoTo 63) (workers : Workers) :
    ((∀ path ∈ sources ++ manifests, Disk.hasNul path = false) →
      ∃ report,
        (Report.analyze disk {} workers none sources manifests).result = .ok report ∧
        report.AccountsFor disk sources manifests) ∧
    ((∃ path ∈ sources ++ manifests, Disk.hasNul path = true) →
      (Report.analyze disk {} workers none sources manifests).result =
        .error (.refused .nulInPath)) :=
  ⟨Report.exists_analyze storable few workers, Report.analyze_of_hasNul storable few workers⟩

/-- A disk with a source, a package description, and a folder by the name of a dependency
list. -/
def sparseProject : Disk where
  root := .folder
    [("a.rb", .file ⟨#[0x78, 0x0A]⟩ false), ("a.gemspec", .file ⟨#[0x78, 0x0A]⟩ false),
      ("Gemfile", .folder [])]
  currentFolder := "/"
  home := "/"

/-- A path with a NUL character. -/
def nulPath : String :=
  String.ofList [Char.ofNat 0]

/-- A source that leads nowhere and a manifest that cannot be read do no harm, and a path
with a NUL character does. -/
theorem analysis_returns_sparseProject :
    sparseProject.root.isStorable = true ∧ ["/a.rb", "/b.rb"].length < twoTo 63 ∧
    (∃ report,
      (Report.analyze sparseProject {} Schedule.inOrder none ["/a.rb", "/b.rb"]
        ["/a.gemspec", "/Gemfile"]).result = .ok report ∧
      report.AccountsFor sparseProject ["/a.rb", "/b.rb"] ["/a.gemspec", "/Gemfile"]) ∧
    (Report.analyze sparseProject {} Schedule.inOrder none ["/a.rb", "/b.rb"]
      [nulPath]).result = .error (.refused .nulInPath) := by
  have storable : sparseProject.root.isStorable = true := by decide +kernel
  have few : ["/a.rb", "/b.rb"].length < twoTo 63 := by decide +kernel
  have noNul : ∀ path ∈ ["/a.rb", "/b.rb"] ++ ["/a.gemspec", "/Gemfile"],
      Disk.hasNul path = false := by decide +kernel
  have nul : ∃ path ∈ ["/a.rb", "/b.rb"] ++ [nulPath], Disk.hasNul path = true := by
    decide +kernel
  exact ⟨storable, few, (analysis_returns storable few Schedule.inOrder).1 noNul,
    (analysis_returns storable few Schedule.inOrder).2 nul⟩

/-- An analysis can fail for a path. -/
theorem not_every_analysis_returns :
    ¬ ∀ (disk : Disk) (workers : Workers) (sources manifests : List String),
      ∃ report, (Report.analyze disk {} workers none sources manifests).result = .ok report := by
  intro always
  obtain ⟨report, ok⟩ := always sparseProject Schedule.inOrder [nulPath] []
  have fails : (Report.analyze sparseProject {} Schedule.inOrder none [nulPath] []).result.isOk =
      false := by decide +kernel
  rw [ok] at fails
  cases fails

end LineCensus
