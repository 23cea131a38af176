/-
# Proofs.Roots -- how often a report counts a file

Roots are searched one by one and what is found is joined, sources before manifests.
Under one root a path is found at most once in each role (`Discovery.ofRoot_nodup`), so
in the whole it stands once for every root and every role it is found in
(`Discovery.count_paths`).  A report counts exactly that (`report_counts_found`): it
counts every file once if and only if no file is found under two roots or in two roles.
-/
import LineCensus.Command.Run
import LineCensus.Proofs.Balance
import LineCensus.Proofs.Discovery
import Mathlib.Data.List.Dedup

set_option autoImplicit false

namespace LineCensus

/-! ## Several roots -/

namespace Discovery

/-- All paths, once for each time they were found. -/
def paths (found : Discovery) : List String :=
  found.sources ++ found.manifests

/-- In how many of several searches, and in how many roles in each, a path was found. -/
def timesFound (each : List Discovery) (path : String) : Nat :=
  each.countP (fun found => path ∈ found.sources) +
    each.countP fun found => path ∈ found.manifests

variable {disk : Disk} {settings : Settings} {roots : List String} {found : Discovery}

theorem ofPresentRoot_eq_ok {root : String} {here : Discovery}
    (ends : (ofPresentRoot disk settings root).result = .ok here) :
    (ofRoot disk settings root).result = .ok here := by
  rw [ofPresentRoot, Logged.bind_result, Logged.ofExcept] at ends
  obtain ⟨isThere, -, ends⟩ := bind_eq_ok ends
  cases isThere with
  | false => cases ends
  | true => exact ends

/-- Each root is searched on its own, and what is found is joined in order. -/
theorem ofRootsAfter_eq_ok {before : Discovery}
    (ends : (ofRootsAfter disk settings before roots).result = .ok found) :
    ∃ each, List.Forall₂ (fun root here => (ofRoot disk settings root).result = .ok here)
        roots each ∧
      found.sources = before.sources ++ each.flatMap (·.sources) ∧
      found.manifests = before.manifests ++ each.flatMap (·.manifests) := by
  induction roots generalizing before with
  | nil =>
      obtain rfl := Except.ok.inj ends
      exact ⟨[], .nil, by simp, by simp⟩
  | cons root rest ih =>
      rw [ofRootsAfter, Logged.bind_result] at ends
      obtain ⟨here, present, ends⟩ := bind_eq_ok ends
      obtain ⟨each, searched, sources, manifests⟩ := ih ends
      refine ⟨here :: each, .cons (ofPresentRoot_eq_ok present) searched, ?_, ?_⟩
      · rw [sources, List.flatMap_cons, ← List.append_assoc]
        rfl
      · rw [manifests, List.flatMap_cons, ← List.append_assoc]
        rfl

/-- In lists without repetition that are joined, something stands as often as it is in
one of them. -/
theorem count_flatMap_of_nodup {α : Type} (role : α → List String) {lists : List α}
    (once : ∀ list ∈ lists, (role list).Nodup) (path : String) :
    (lists.flatMap role).count path = lists.countP fun list => path ∈ role list := by
  induction lists with
  | nil => rfl
  | cons list rest ih =>
      obtain ⟨here, later⟩ := List.forall_mem_cons.1 once
      rw [List.flatMap_cons, List.count_append, ih later, List.countP_cons, here.count]
      simp [Nat.add_comm]

/-- A path is found once under each root and in each role in which it is found there. -/
theorem count_paths (proper : disk.isProper = true)
    (ends : (ofRoots disk settings roots).result = .ok found) :
    ∃ each, List.Forall₂ (fun root here => (ofRoot disk settings root).result = .ok here)
        roots each ∧
      ∀ path, found.paths.count path = timesFound each path := by
  obtain ⟨each, searched, sources, manifests⟩ := ofRootsAfter_eq_ok ends
  have once : ∀ here ∈ each, here.sources.Nodup ∧ here.manifests.Nodup := by
    clear ends sources manifests
    induction searched with
    | nil => simp
    | cons here _ ih => exact List.forall_mem_cons.2 ⟨ofRoot_nodup proper here, ih⟩
  have joined : found.paths = each.flatMap (·.sources) ++ each.flatMap (·.manifests) := by
    rw [paths, sources, manifests]
    rfl
  refine ⟨each, searched, fun path => ?_⟩
  rw [joined, List.count_append,
    count_flatMap_of_nodup (·.sources) (fun here member => (once here member).1),
    count_flatMap_of_nodup (·.manifests) (fun here member => (once here member).2), timesFound]

end Discovery

/-! ## What a report counts -/

/-- A report counts a path once for each time it was found: `found` is what was found
under all roots together, and `each` under one root after the other. -/
structure Report.CountsFound (found : Discovery) (each : List Discovery) (report : Report) :
    Prop where
  times : ∀ path, found.paths.count path = Discovery.timesFound each path
  total : report.counts.total = found.paths.length
  types : report.files.types.total = found.paths.length
  directories : report.files.directories.total = found.paths.length
  largest : ∀ path,
    (report.files.largest.map (·.path)).count path ≤ Discovery.timesFound each path
  /-- Every file is counted once just if none is found under two roots or in two roles. -/
  distinct : report.counts.total = found.paths.dedup.length ↔
    ∀ path, Discovery.timesFound each path ≤ 1
  largestOnce : (∀ path, Discovery.timesFound each path ≤ 1) →
    (report.files.largest.map (·.path)).Nodup

/-- **A report counts a file once for every root and every role in which it is found.** -/
theorem report_counts_found {disk : Disk} {settings : Settings} {workers : Workers}
    {roots : List String} {report : Report} (proper : disk.isProper = true)
    (returned : (AnalyzeRequest.report disk settings workers roots).result = .ok report) :
    ∃ found each, (Discovery.ofRoots disk settings roots).result = .ok found ∧
      List.Forall₂ (fun root here => (Discovery.ofRoot disk settings root).result = .ok here)
        roots each ∧
      report.CountsFound found each := by
  unfold AnalyzeRequest.report at returned
  simp only [Logged.bind_result] at returned
  obtain ⟨found, searched, returned⟩ := bind_eq_ok returned
  obtain ⟨_, -, returned⟩ := bind_eq_ok returned
  obtain ⟨corpus, survey, listedSources, listedManifests, -, sourcesListed, manifestsListed,
    composed⟩ := Report.pieces_of_analyze returned
  obtain ⟨each, searches, times⟩ := Discovery.count_paths proper searched
  have listed : (listedSources ++ listedManifests).map (·.path) = found.paths := by
    rw [List.map_append, ListedFile.paths_of_ofPaths sourcesListed,
      ListedFile.paths_of_ofPaths manifestsListed, Discovery.paths]
  have listedCount : (listedSources ++ listedManifests).length = found.paths.length := by
    rw [← listed, List.length_map]
  have total : report.counts.total = found.paths.length := by
    rw [composed.counts, ← listedCount]
  have largest (path : String) :
      (report.files.largest.map (·.path)).count path ≤ Discovery.timesFound each path := by
    obtain ⟨limit, -, ranked⟩ := composed.largest
    rw [← times, ← listed]
    exact LargeFile.count_le_of_ofFiles ranked path
  have once : found.paths.Nodup ↔ ∀ path, Discovery.timesFound each path ≤ 1 := by
    simp only [List.nodup_iff_count_le_one, times]
  refine ⟨found, each, searched, searches, ?_⟩
  exact
    { times, total, largest
      types := by rw [composed.types, total_extensionCounts, listedCount]
      directories := by rw [composed.directories, total_directoryCounts, listedCount]
      distinct := by
        rw [← once, total, Int.natCast_inj]
        constructor
        · intro same
          rw [← List.dedup_eq_self]
          exact (List.dedup_sublist found.paths).eq_of_length same.symm
        · intro distinct
          rw [List.dedup_eq_self.2 distinct]
      largestOnce := by
        intro foundOnce
        rw [List.nodup_iff_count_le_one]
        exact fun path => Nat.le_trans (largest path) (foundOnce path) }

/-- A project with a file that is both a source and a manifest. -/
def gemProject : Disk where
  root := .folder [("a.gemspec", .file ⟨#[0x78, 0x0A]⟩ false)]
  currentFolder := "/"
  home := "/"

theorem report_counts_found_gemProject :
    gemProject.isProper = true ∧ ∃ report found each,
      (AnalyzeRequest.report gemProject { largestFilesLimit := .whole 0 } Schedule.inOrder
        ["."]).result = .ok report ∧
      (Discovery.ofRoots gemProject { largestFilesLimit := .whole 0 } ["."]).result = .ok found ∧
      report.CountsFound found each := by
  have proper : gemProject.isProper = true := by decide +kernel
  have returns : (AnalyzeRequest.report gemProject { largestFilesLimit := .whole 0 }
      Schedule.inOrder ["."]).result.isOk = true := by
    decide +kernel
  cases returned : (AnalyzeRequest.report gemProject { largestFilesLimit := .whole 0 }
      Schedule.inOrder ["."]).result with
  | error fault =>
      rw [returned] at returns
      cases returns
  | ok report =>
      obtain ⟨found, each, searched, -, counts⟩ := report_counts_found proper returned
      exact ⟨proper, report, found, each, rfl, searched, counts⟩

/-- One file, under a folder and on its own and in two roles each, is counted four
times. -/
theorem not_every_report_counts_once :
    ¬ ∀ (disk : Disk) (settings : Settings) (workers : Workers) (roots : List String)
        (found : Discovery) (report : Report),
      disk.isProper = true → roots ≠ [] →
      (Discovery.ofRoots disk settings roots).result = .ok found →
      (AnalyzeRequest.report disk settings workers roots).result = .ok report →
      report.counts.total = found.paths.dedup.length := by
  intro once
  have counted : (AnalyzeRequest.report gemProject { largestFilesLimit := .whole 0 }
      Schedule.inOrder [".", "a.gemspec"]).result.toOption.map (·.counts.total) = some 4 := by
    decide +kernel
  have distinct : (Discovery.ofRoots gemProject { largestFilesLimit := .whole 0 }
      [".", "a.gemspec"]).result.toOption.map (·.paths.dedup.length) = some 1 := by
    decide +kernel
  cases returned : (AnalyzeRequest.report gemProject { largestFilesLimit := .whole 0 }
      Schedule.inOrder [".", "a.gemspec"]).result with
  | error fault => simp [returned, Except.toOption] at counted
  | ok report =>
      cases searched : (Discovery.ofRoots gemProject { largestFilesLimit := .whole 0 }
          [".", "a.gemspec"]).result with
      | error fault => simp [searched, Except.toOption] at distinct
      | ok found =>
          have total := once gemProject _ Schedule.inOrder _ found report (by decide +kernel)
            (by simp) searched returned
          simp only [returned, Except.toOption, Option.map_some, Option.some.injEq] at counted
          simp only [searched, Except.toOption, Option.map_some, Option.some.injEq] at distinct
          rw [counted, distinct] at total
          cases total

end LineCensus
