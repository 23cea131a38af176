/-
# Proofs.Order -- a report and the order of its sources

Two analyses of the same sources in another order report the same numbers.  Each part of
a report is a sum, a maximum, a count, or taken from a list that is sorted first, and none
of these asks for the order of what it is made of.

* `mapM_perm`: steps on the same things in another order succeed with the same results in
  another order, which holds of outcomes and of listed files.
* `CorpusMeasure.ofFiles_perm`, `AverageSize.ofFiles_perm` and their like: one equation for
  each part.
* `report_unordered`: all of it for two analyses, with what may differ said as far as it
  agrees: tallies have the same counts, skipped files are the same records, and the largest
  files have the same sizes.
-/
import LineCensus.Proofs.Ranking

set_option autoImplicit false

namespace LineCensus

/-! ## Steps in another order -/

theorem mapM_perm {α β : Type} {f : α → Except Fault β} {xs ys : List α} (same : xs.Perm ys) :
    ∀ {zs : List β}, xs.mapM f = .ok zs → ∃ ws, ys.mapM f = .ok ws ∧ zs.Perm ws := by
  simp only [mapM_eq_ok_iff]
  induction same with
  | nil =>
      intro zs made
      exact ⟨zs, made, .refl zs⟩
  | cons x _ ih =>
      intro zs made
      obtain ⟨z, rest, here, later, rfl⟩ := List.forall₂_cons_left_iff.1 made
      obtain ⟨ws, made', same⟩ := ih later
      exact ⟨z :: ws, .cons here made', same.cons z⟩
  | swap x y xs =>
      intro zs made
      obtain ⟨z, others, first, afterFirst, rfl⟩ := List.forall₂_cons_left_iff.1 made
      obtain ⟨w, rest, second, later, rfl⟩ := List.forall₂_cons_left_iff.1 afterFirst
      exact ⟨w :: z :: rest, .cons second (.cons first later), .swap w z rest⟩
  | trans _ _ ih ih' =>
      intro zs made
      obtain ⟨ws, made', same⟩ := ih made
      obtain ⟨vs, made'', same'⟩ := ih' made'
      exact ⟨vs, made'', same.trans same'⟩

/-- Of steps that succeed in either order, the results are the same up to the order. -/
theorem mapM_perm_ok {α β : Type} {f : α → Except Fault β} {xs ys : List α} {zs ws : List β}
    (same : xs.Perm ys) (made : xs.mapM f = .ok zs) (made' : ys.mapM f = .ok ws) : zs.Perm ws := by
  obtain ⟨vs, again, same⟩ := mapM_perm same made
  rw [made'] at again
  cases again
  exact same

/-! ## The numbers of a corpus -/

namespace CorpusMeasure

variable {files files' : List FileMeasure}

theorem total_perm (same : files.Perm files') (number : FileMeasure → Int) :
    total number files = total number files' :=
  sumInt_perm (same.map number)

theorem deepest_perm (same : files.Perm files') : deepest files = deepest files' := by
  have greatest : (files.map (·.maxNestingDepth)).max? = (files'.map (·.maxNestingDepth)).max? := by
    refine Option.ext fun depth => ?_
    rw [List.max?_eq_some_iff, List.max?_eq_some_iff]
    simp only [(same.map (·.maxNestingDepth)).mem_iff]
  rw [deepest, deepest, greatest]

/-- The totals of files do not depend on their order. -/
theorem ofFiles_perm (same : files.Perm files') : ofFiles files = ofFiles files' := by
  have lengths (part : FileMeasure → List Int) :
      LengthSummary.ofLengths (files.flatMap part) =
        LengthSummary.ofLengths (files'.flatMap part) :=
    LengthSummary.ofLengths_perm (same.flatMap_right part)
  rw [ofFiles, ofFiles]
  simp only [total_perm same, deepest_perm same, same.length_eq, lengths]

end CorpusMeasure

/-- The survey of a corpus has the same totals and the same records in every order. -/
theorem CorpusSurvey.ofPaths_perm {disk : Disk} {settings : Settings} {workers workers' : Workers}
    {cancelAfter cancelAfter' : Option Nat} {paths paths' : List String}
    {survey survey' : CorpusSurvey} (same : paths.Perm paths')
    (uncancelled : Corpus.admitted cancelAfter paths.length = paths.length)
    (uncancelled' : Corpus.admitted cancelAfter' paths'.length = paths'.length)
    (surveyed : (ofPaths disk settings workers cancelAfter paths).result = .ok survey)
    (surveyed' : (ofPaths disk settings workers' cancelAfter' paths').result = .ok survey') :
    survey.totals = survey'.totals ∧ survey.skipped.Perm survey'.skipped := by
  rw [ofPaths_result] at surveyed surveyed'
  obtain ⟨collection, collected, surveyed⟩ := bind_eq_ok surveyed
  obtain ⟨collection', collected', surveyed'⟩ := bind_eq_ok surveyed'
  obtain ⟨totals, folded, surveyed⟩ := bind_eq_ok surveyed
  obtain ⟨totals', folded', surveyed'⟩ := bind_eq_ok surveyed'
  cases surveyed
  cases surveyed'
  rw [Corpus.collect_eq_ok_iff, Corpus.beforeCancel_eq_take, uncancelled, List.take_length]
    at collected
  rw [Corpus.collect_eq_ok_iff, Corpus.beforeCancel_eq_take, uncancelled', List.take_length]
    at collected'
  obtain ⟨outcomes, measured, rfl⟩ := collected
  obtain ⟨outcomes', measured', rfl⟩ := collected'
  have comes : outcomes.Perm outcomes' :=
    mapM_perm_ok same (mapM_eq_ok_iff.2 measured) (mapM_eq_ok_iff.2 measured')
  have measures : (Collection.ofOutcomes outcomes).measured.Perm
      (Collection.ofOutcomes outcomes').measured := comes.filterMap _
  refine ⟨?_, comes.filterMap _⟩
  rw [CorpusMeasure.ofFiles_perm measures] at folded
  exact Except.ok.inj (folded.symm.trans folded')

/-! ## Listed files -/

/-- Two tallies with the same counts, whatever the order of their keys. -/
structure Tally.Agrees (tally tally' : Tally) : Prop where
  counts : ∀ key, tally.lookup key = tally'.lookup key
  once : tally.keys.Nodup
  once' : tally'.keys.Nodup

section Listed

variable {files files' : List ListedFile}

theorem Tally.agrees_ofKeys {keys keys' : List String} (same : keys.Perm keys') :
    (ofKeys keys).Agrees (ofKeys keys') where
  counts key := by rw [lookup_ofKeys, lookup_ofKeys, same.count_eq]
  once := nodup_ofKeys keys
  once' := nodup_ofKeys keys'

theorem Tally.Agrees.byCount {tally tally' : Tally} (agrees : tally.Agrees tally') :
    tally.byCount.Agrees tally'.byCount where
  counts key := by rw [lookup_byCount agrees.once, lookup_byCount agrees.once', agrees.counts]
  once := ((List.mergeSort_perm _ _).map Prod.fst).nodup_iff.2 agrees.once
  once' := ((List.mergeSort_perm _ _).map Prod.fst).nodup_iff.2 agrees.once'

theorem extensionCounts_perm (same : files.Perm files') :
    (extensionCounts files).Agrees (extensionCounts files') :=
  Tally.agrees_ofKeys (same.map _)

theorem directoryCounts_perm (same : files.Perm files') :
    (directoryCounts files).Agrees (directoryCounts files') :=
  (Tally.agrees_ofKeys (same.map _)).byCount

theorem countOfClass_perm (same : files.Perm files') (classOf : Int → SizeClass) (c : SizeClass) :
    countOfClass classOf c files = countOfClass classOf c files' := by
  rw [countOfClass, same.countP_eq, countOfClass]

theorem SizeCounts.ofFiles_perm (same : files.Perm files') : ofFiles files = ofFiles files' := by
  simp only [ofFiles, countOfClass_perm same]

theorem CoarseSizeCounts.ofFiles_perm (same : files.Perm files') :
    ofFiles files = ofFiles files' := by
  simp only [ofFiles, countOfClass_perm same]

theorem NamingCounts.ofFiles_perm (same : files.Perm files') : ofFiles files = ofFiles files' := by
  simp only [ofFiles, count, same.countP_eq]

theorem AverageSize.ofFiles_perm (same : files.Perm files') : ofFiles files = ofFiles files' := by
  have sizes : sumInt (files.map (·.size)) = sumInt (files'.map (·.size)) :=
    sumInt_perm (same.map _)
  rw [ofFiles, ofFiles, sizes, same.isEmpty_eq, same.length_eq]

namespace LargeFile

/-- The sizes of a ranking fall. -/
theorem sorted_ranking (files : List ListedFile) :
    ((ranking files).map (·.size)).Pairwise (· ≥ ·) := by
  rw [List.pairwise_map]
  exact falls_ranked (·.size) files

theorem sizes_ranking_perm (same : files.Perm files') :
    (ranking files).map (·.size) = (ranking files').map (·.size) := by
  have ranked (files : List ListedFile) : (ranking files).Perm files := List.mergeSort_perm _ _
  exact List.Perm.eq_of_pairwise (fun a b _ _ first second => Int.le_antisymm second first)
    (sorted_ranking files) (sorted_ranking files')
    ((((ranked files).trans same).trans (ranked files').symm).map _)

theorem map_takeLimit {α β : Type} (f : α → β) (limit : Int) (items : List α) :
    (takeLimit limit items).map f = takeLimit limit (items.map f) := by
  unfold takeLimit
  split <;> rw [List.map_take]
  rw [List.length_map]

theorem sizes_of_ofFiles {limit : Int} {largest : List LargeFile}
    (listed : ofFiles limit files = .ok largest) :
    largest.map (·.size) = takeLimit limit ((ranking files).map (·.size)) := by
  rw [ofFiles, mapM_eq_ok_iff] at listed
  rw [← map_takeLimit]
  generalize takeLimit limit (ranking files) = first at listed ⊢
  induction listed with
  | nil => rfl
  | cons here _ ih =>
      obtain ⟨size, -, made⟩ := bind_eq_ok here
      cases made
      rw [List.map_cons, List.map_cons, ih]

end LargeFile

end Listed

/-! ## Reports -/

/-- Two reports on the same files in two orders: equal numbers, and lists that agree up to
the order of their entries. -/
structure Report.AgreesUpToOrder (report report' : Report) : Prop where
  counts : report.counts = report'.counts
  code : report.code = report'.code
  complexity : report.complexity = report'.complexity
  naming : report.files.naming = report'.files.naming
  sizes : report.files.sizes = report'.files.sizes
  types : report.files.types.Agrees report'.files.types
  directories : report.files.directories.Agrees report'.files.directories
  skipped : report.skipped.Perm report'.skipped
  largest : report.files.largest.map (·.size) = report'.files.largest.map (·.size)

/-- Reports composed of pieces that agree up to the order. -/
theorem Report.agrees_of_compose {sources sources' manifests : List ListedFile}
    {corpus corpus' : CorpusSurvey} {survey survey' : ManifestSurvey} {settings : Settings}
    {report report' : Report} (same : sources.Perm sources')
    (totals : corpus.totals = corpus'.totals) (skipped : corpus.skipped.Perm corpus'.skipped)
    (composed : compose sources manifests corpus survey settings = .ok report)
    (composed' : compose sources' manifests corpus' survey' settings = .ok report') :
    report.AgreesUpToOrder report' := by
  have all : (sources ++ manifests).Perm (sources' ++ manifests) := same.append_right manifests
  obtain ⟨limit, limited, composed⟩ := bind_eq_ok composed
  obtain ⟨largest, listed, composed⟩ := bind_eq_ok composed
  obtain ⟨averageSize, averaged, composed⟩ := bind_eq_ok composed
  obtain ⟨summary, -, composed⟩ := bind_eq_ok composed
  obtain ⟨limit', limited', composed'⟩ := bind_eq_ok composed'
  obtain ⟨largest', listed', composed'⟩ := bind_eq_ok composed'
  obtain ⟨averageSize', averaged', composed'⟩ := bind_eq_ok composed'
  obtain ⟨summary', -, composed'⟩ := bind_eq_ok composed'
  cases composed
  cases composed'
  obtain rfl : limit = limit' := Except.ok.inj (limited.symm.trans limited')
  obtain rfl : averageSize = averageSize' := by
    rw [AverageSize.ofFiles_perm same] at averaged
    exact Except.ok.inj (averaged.symm.trans averaged')
  exact
    { counts := by simp only [all.length_eq, same.length_eq, totals, skipped.length_eq]
      code := by simp only [totals, CoarseSizeCounts.ofFiles_perm same]
      complexity := by simp only [totals]
      naming := NamingCounts.ofFiles_perm same
      sizes := SizeCounts.ofFiles_perm all
      types := extensionCounts_perm all
      directories := directoryCounts_perm all
      skipped
      largest := by
        rw [LargeFile.sizes_of_ofFiles listed, LargeFile.sizes_of_ofFiles listed',
          LargeFile.sizes_ranking_perm all] }

/-- **A report does not depend on the order of its sources**: two analyses that no cancel
cuts short, of the same sources in two orders, agree in every number, and in tallies,
skipped files and largest sizes up to the order of the entries. -/
theorem report_unordered {disk : Disk} {settings : Settings} {workers workers' : Workers}
    {cancelAfter cancelAfter' : Option Nat} {sources sources' manifests : List String}
    {report report' : Report} (same : sources.Perm sources')
    (uncancelled : Corpus.admitted cancelAfter sources.length = sources.length)
    (uncancelled' : Corpus.admitted cancelAfter' sources'.length = sources'.length)
    (returned : (Report.analyze disk settings workers cancelAfter sources manifests).result =
      .ok report)
    (returned' : (Report.analyze disk settings workers' cancelAfter' sources' manifests).result =
      .ok report') :
    report.AgreesUpToOrder report' := by
  obtain ⟨corpus, survey, listedSources, listedManifests, surveyed, -, sourcesListed,
    manifestsListed, composed⟩ := Report.composed_of_analyze returned
  obtain ⟨corpus', survey', listedSources', listedManifests', surveyed', -, sourcesListed',
    manifestsListed', composed'⟩ := Report.composed_of_analyze returned'
  obtain rfl : listedManifests = listedManifests' :=
    Except.ok.inj (manifestsListed.symm.trans manifestsListed')
  obtain ⟨totals, skipped⟩ :=
    CorpusSurvey.ofPaths_perm same uncancelled uncancelled' surveyed surveyed'
  exact Report.agrees_of_compose (mapM_perm_ok same sourcesListed sourcesListed') totals skipped
    composed composed'

/-- A disk with two sources, of code and of a comment. -/
def evenProject : Disk where
  root := .folder
    [("a.rb", .file ⟨#[0x78, 0x0A]⟩ false), ("b.rb", .file ⟨#[0x23, 0x0A]⟩ false)]
  currentFolder := "/"
  home := "/"

/-- Two orders of the sources and of a path that leads nowhere, the second with a cancel
that comes too late to count. -/
theorem report_unordered_evenProject :
    ["/a.rb", "/c.rb", "/b.rb"].Perm ["/b.rb", "/a.rb", "/c.rb"] ∧
    Corpus.admitted none 3 = 3 ∧ Corpus.admitted (some 3) 3 = 3 ∧
    ∃ report report',
      (Report.analyze evenProject { largestFilesLimit := .whole 0 } Schedule.inOrder none
        ["/a.rb", "/c.rb", "/b.rb"] []).result = .ok report ∧
      (Report.analyze evenProject { largestFilesLimit := .whole 0 } Schedule.inOrder (some 3)
        ["/b.rb", "/a.rb", "/c.rb"] []).result = .ok report' ∧
      report.AgreesUpToOrder report' := by
  have same : ["/a.rb", "/c.rb", "/b.rb"].Perm ["/b.rb", "/a.rb", "/c.rb"] := by decide
  have returns : (Report.analyze evenProject { largestFilesLimit := .whole 0 } Schedule.inOrder
      none ["/a.rb", "/c.rb", "/b.rb"] []).result.isOk = true := by
    decide +kernel
  have returns' : (Report.analyze evenProject { largestFilesLimit := .whole 0 } Schedule.inOrder
      (some 3) ["/b.rb", "/a.rb", "/c.rb"] []).result.isOk = true := by
    decide +kernel
  cases returned : (Report.analyze evenProject { largestFilesLimit := .whole 0 }
      Schedule.inOrder none ["/a.rb", "/c.rb", "/b.rb"] []).result with
  | error fault =>
      rw [returned] at returns
      cases returns
  | ok report =>
      cases returned' : (Report.analyze evenProject { largestFilesLimit := .whole 0 }
          Schedule.inOrder (some 3) ["/b.rb", "/a.rb", "/c.rb"] []).result with
      | error fault =>
          rw [returned'] at returns'
          cases returns'
      | ok report' =>
          exact ⟨same, rfl, rfl, report, report', rfl, rfl,
            report_unordered same rfl rfl returned returned'⟩

end LineCensus
