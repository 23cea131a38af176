/-
# Proofs.Grouping -- files by extension and by directory

A tally has an entry for every key that was met, with the number of times it was.  The summary
of a report has two ways to the most frequent key: the first entry of a ranking of the tally,
and a walk over the tally that turns only to larger counts.  Both end at the same key, the one
that was met first of those with the largest count.

* `Tally.counts_ofKeys`, `Tally.metBefore_ofKeys`: the entries of a tally and their order.
* `Tally.topFrom_split`: where the walk ends.
* `Tally.chooses_top?`, `Tally.chooses_head?_byCount`: both ways lead to the most frequent key.
* `ListedFile.extension_of_ofPath`: the extensions that paths have.
* `report_groups`: what a report says of extensions and directories, for arbitrary files.
-/
import LineCensus.Proofs.Balance
import LineCensus.Proofs.Ranking

set_option autoImplicit false

namespace LineCensus

/-! ## Frequent keys -/

/-- One entry was met before another. -/
def MetBefore (keys : List String) (a b : String × Int) : Prop :=
  keys.idxOf a.1 < keys.idxOf b.1

/-- The first of the keys that were met most often. -/
structure IsMostFrequent (keys : List String) (key : String) : Prop where
  met : key ∈ keys
  most : ∀ other ∈ keys, other ≠ key → keys.count other < keys.count key ∨
    keys.count other = keys.count key ∧ keys.idxOf key < keys.idxOf other

theorem IsMostFrequent.unique {keys : List String} {key key' : String}
    (first : IsMostFrequent keys key) (second : IsMostFrequent keys key') : key = key' := by
  by_contra apart
  have here := first.most key' second.met (Ne.symm apart)
  have there := second.most key first.met apart
  omega

/-- A choice among keys: the most frequent one, and none only if there are no keys. -/
structure Chooses (keys : List String) (choice : Option String) : Prop where
  some_iff : ∀ key, choice = some key ↔ IsMostFrequent keys key
  none_iff : choice = none ↔ keys = []

theorem chooses_none : Chooses [] none where
  some_iff _ := ⟨(nomatch ·), fun most => nomatch most.met⟩
  none_iff := Iff.intro (fun _ => rfl) fun _ => rfl

theorem IsMostFrequent.chooses {keys : List String} {key : String}
    (most : IsMostFrequent keys key) : Chooses keys (some key) where
  some_iff key' := by
    rw [Option.some_inj]
    exact ⟨fun same => same ▸ most, most.unique⟩
  none_iff := ⟨(nomatch ·), fun none => absurd none (List.ne_nil_of_mem most.met)⟩

namespace Tally

variable {keys : List String} {tally : Tally}

/-- One entry for every key that was met, with the number of times it was. -/
structure Counts (tally : Tally) (keys : List String) : Prop where
  once : tally.keys.Nodup
  entry : ∀ key n, (key, n) ∈ tally ↔ key ∈ keys ∧ n = keys.count key

theorem counts_ofKeys (keys : List String) : (ofKeys keys).Counts keys where
  once := nodup_ofKeys keys
  entry key n := by
    simp only [ofKeys_eq, List.mem_map, List.mem_eraseDups, Prod.mk.injEq]
    constructor
    · rintro ⟨key', met, rfl, rfl⟩
      exact ⟨met, rfl⟩
    · rintro ⟨met, rfl⟩
      exact ⟨key, met, rfl, rfl⟩

theorem Counts.byCount (counts : tally.Counts keys) : tally.byCount.Counts keys := by
  have same : tally.byCount.Perm tally := ranked_perm Prod.snd tally
  exact ⟨(same.map Prod.fst).nodup_iff.2 counts.once,
    fun key n => same.mem_iff.trans (counts.entry key n)⟩

theorem Counts.eq_nil_iff (counts : tally.Counts keys) : tally = [] ↔ keys = [] := by
  simp only [List.eq_nil_iff_forall_not_mem]
  constructor
  · intro none key met
    exact none _ ((counts.entry key _).2 ⟨met, rfl⟩)
  · rintro none ⟨key, n⟩ member
    exact none key ((counts.entry key n).1 member).1

/-- Duplicates are erased behind the first of them. -/
theorem pairwise_eraseDups (keys : List String) :
    keys.eraseDups.Pairwise fun a b => keys.idxOf a < keys.idxOf b := by
  induction keys using List.reverseRecOn with
  | nil => exact .nil
  | append_singleton before key ih =>
      have kept : before.eraseDups.Pairwise fun a b =>
          (before ++ [key]).idxOf a < (before ++ [key]).idxOf b := by
        refine ih.imp_of_mem fun {a b} first second less => ?_
        rwa [List.idxOf_append_of_mem (List.mem_eraseDups.1 first),
          List.idxOf_append_of_mem (List.mem_eraseDups.1 second)]
      rw [List.eraseDups_append]
      by_cases met : key ∈ before
      · simpa [List.removeAll, met] using kept
      · have last : (List.removeAll [key] before).eraseDups = [key] := by
          simp [List.removeAll, met, List.eraseDups_cons]
        rw [last]
        refine List.pairwise_append.2 ⟨kept, List.pairwise_singleton _ _, ?_⟩
        intro a first b second
        obtain rfl := List.mem_singleton.1 second
        have earlier := List.mem_eraseDups.1 first
        rw [List.idxOf_append_of_mem earlier, List.idxOf_append_of_notMem met]
        exact Nat.lt_add_right _ (List.idxOf_lt_length_iff.2 earlier)

/-- Entries stand in the order in which their keys were met. -/
theorem metBefore_ofKeys (keys : List String) : (ofKeys keys).Pairwise (MetBefore keys) := by
  rw [ofKeys_eq, List.pairwise_map]
  exact pairwise_eraseDups keys

/-- In a ranking by count, of two entries with one count the one that was met first is
first. -/
theorem byCount_ofKeys (keys : List String) :
    (ofKeys keys).byCount.Pairwise fun a b => b.2 < a.2 ∨ b.2 = a.2 ∧ MetBefore keys a b :=
  pairwise_ranked (·.2) (metBefore_ofKeys keys)

/-! ## Two ways to the most frequent key -/

/-- An entry that every other one is outnumbered by, or was met after. -/
theorem Counts.isMostFrequent (counts : tally.Counts keys) {top : String × Int}
    (member : top ∈ tally)
    (leads : ∀ other ∈ tally, other = top ∨ other.2 < top.2 ∨
      other.2 = top.2 ∧ MetBefore keys top other) : IsMostFrequent keys top.1 := by
  obtain ⟨key, n⟩ := top
  obtain ⟨met, rfl⟩ := (counts.entry key n).1 member
  refine ⟨met, fun other otherMet apart => ?_⟩
  rcases leads (other, keys.count other) ((counts.entry _ _).2 ⟨otherMet, rfl⟩) with
    same | less | ⟨even, before⟩
  · exact absurd (congrArg Prod.fst same) apart
  · exact .inl (Int.ofNat_lt.1 less)
  · exact .inr ⟨Int.ofNat_inj.1 even, before⟩

/-- The walk ends at an entry with a larger count than all before it and a count as large as
any behind it. -/
theorem topFrom_split (best : String × Int) (rest : Tally) :
    ∃ before top after, best :: rest = before ++ top :: after ∧ topFrom best rest = top.1 ∧
      (∀ entry ∈ before, entry.2 < top.2) ∧ ∀ entry ∈ after, entry.2 ≤ top.2 := by
  induction rest generalizing best with
  | nil => exact ⟨[], best, [], rfl, rfl, by simp, by simp⟩
  | cons entry rest ih =>
      rw [topFrom]
      split
      · -- The walk turns to `entry`, so it ends at a count that `best` does not reach.
        rename_i less
        obtain ⟨before, top, after, split, ends, above, below⟩ := ih entry
        have atMost : entry.2 ≤ top.2 := by
          have member : entry ∈ before ++ top :: after := split ▸ List.mem_cons_self
          rcases List.mem_append.1 member with early | late
          · exact Int.le_of_lt (above entry early)
          · rcases List.mem_cons.1 late with rfl | late
            · exact Int.le_refl _
            · exact below entry late
        refine ⟨best :: before, top, after, by rw [split]; rfl, ends, ?_, below⟩
        exact List.forall_mem_cons.2 ⟨by omega, above⟩
      · -- The walk stays at `best`, and `entry` is put behind it, on its side of the end.
        rename_i notLess
        obtain ⟨before, top, after, split, ends, above, below⟩ := ih best
        cases before with
        | nil =>
            obtain ⟨rfl, rfl⟩ := List.cons.inj split
            refine ⟨[], best, entry :: rest, rfl, ends, by simp, ?_⟩
            exact List.forall_mem_cons.2 ⟨by omega, below⟩
        | cons first before =>
            obtain ⟨rfl, rfl⟩ := List.cons.inj split
            obtain ⟨less, above⟩ := List.forall_mem_cons.1 above
            refine ⟨best :: entry :: before, top, after, rfl, ends, ?_, below⟩
            exact List.forall_mem_cons.2 ⟨less, List.forall_mem_cons.2 ⟨by omega, above⟩⟩

theorem isMostFrequent_topFrom {best : String × Int} {rest : Tally}
    (counts : Counts (best :: rest) keys) (before : (best :: rest).Pairwise (MetBefore keys)) :
    IsMostFrequent keys (topFrom best rest) := by
  obtain ⟨early, top, late, split, ends, above, below⟩ := topFrom_split best rest
  rw [split] at counts before
  rw [ends]
  refine counts.isMostFrequent (List.mem_append_right _ List.mem_cons_self) fun other member => ?_
  rcases List.mem_append.1 member with member | member
  · exact .inr (.inl (above other member))
  · rcases List.mem_cons.1 member with rfl | member
    · exact .inl rfl
    · have behind := (List.pairwise_cons.1 (List.pairwise_append.1 before).2.1).1 other member
      rcases Int.lt_or_eq_of_le (below other member) with less | even
      · exact .inr (.inl less)
      · exact .inr (.inr ⟨even, behind⟩)

/-- The walk over a tally ends at the most frequent key. -/
theorem chooses_top? (keys : List String) : Chooses keys (ofKeys keys).top? := by
  have counts := counts_ofKeys keys
  have before := metBefore_ofKeys keys
  generalize ofKeys keys = tally at *
  cases tally with
  | nil =>
      obtain rfl := counts.eq_nil_iff.1 rfl
      exact chooses_none
  | cons best rest => exact (isMostFrequent_topFrom counts before).chooses

/-- A ranking by count begins with the most frequent key. -/
theorem chooses_head?_byCount (keys : List String) :
    Chooses keys ((ofKeys keys).byCount.head?.map (·.1)) := by
  have counts := (counts_ofKeys keys).byCount
  have falls := byCount_ofKeys keys
  generalize (ofKeys keys).byCount = tally at *
  cases tally with
  | nil =>
      obtain rfl := counts.eq_nil_iff.1 rfl
      exact chooses_none
  | cons best rest =>
      refine (counts.isMostFrequent List.mem_cons_self fun other member => ?_).chooses
      rcases List.mem_cons.1 member with rfl | member
      · exact .inl rfl
      · exact .inr ((List.pairwise_cons.1 falls).1 other member)

end Tally

/-! ## Extensions -/

namespace ListedFile

variable {files : List ListedFile}

theorem extensionKey_eq_iff {file : ListedFile} {key : String} :
    file.extensionKey = key ↔
      file.extension = "" ∧ key = noExtension ∨ file.extension ≠ "" ∧ file.extension = key := by
  rw [extensionKey]
  by_cases none : file.extension = ""
  · rw [if_pos (String.isEmpty_iff.2 none)]
    simp [none, eq_comm]
  · rw [if_neg fun empty => none (String.isEmpty_iff.1 empty)]
    simp [none]

theorem count_extensionKey (key : String) :
    (files.map extensionKey).count key = files.countP (·.extensionKey = key) := by
  rw [List.count, List.countP_map]
  exact List.countP_congr fun file _ => by simp

/-- The key of an extension is the extension. -/
theorem extensionKey_eq_extension_iff {file : ListedFile} {extension : String}
    (some_extension : extension ≠ "") (apart : extension ≠ noExtension) :
    file.extensionKey = extension ↔ file.extension = extension := by
  rw [extensionKey_eq_iff]
  constructor
  · rintro (⟨-, same⟩ | ⟨-, same⟩)
    · exact absurd same apart
    · exact same
  · rintro rfl
    exact .inr ⟨some_extension, rfl⟩

theorem extensionKey_eq_noExtension_iff {file : ListedFile} :
    file.extensionKey = noExtension ↔ file.extension = "" ∨ file.extension = noExtension := by
  have apart : noExtension ≠ "" := by decide
  rw [extensionKey_eq_iff]
  constructor
  · rintro (⟨none, -⟩ | ⟨-, same⟩)
    · exact .inl none
    · exact .inr same
  · rintro (none | same)
    · exact .inl ⟨none, rfl⟩
    · exact .inr ⟨same ▸ apart, same⟩

end ListedFile

/-- What is in small letters already stays at the head. -/
theorem exists_lowercaseAfter (before done rest : List Char) :
    ∃ small, lowercaseAfter before done rest = done.reverse ++ small := by
  fun_induction lowercaseAfter before done rest with
  | case1 before done => exact ⟨[], (List.append_nil _).symm⟩
  | case2 before done c rest here ih =>
      obtain ⟨small, same⟩ := ih
      exact ⟨here ++ small, by rw [same]; simp⟩

theorem exists_lowercase_point (cs : List Char) :
    ∃ small, lowercase ('.' :: cs) = '.' :: small :=
  exists_lowercaseAfter ['.'] ['.'] cs

/-- The extension of a path is empty or begins with its point. -/
theorem ListedFile.extension_of_ofPath {disk : Disk} {path : String} {file : ListedFile}
    (listed : ofPath disk path = .ok file) :
    file.extension = "" ∨ ∃ rest, file.extension = String.ofList ('.' :: rest) := by
  unfold ofPath at listed
  split at listed
  · cases listed
  · cases listed
    simp only [Path.splitExtension]
    split
    · exact .inl rfl
    · rw [String.toList_ofList]
      obtain ⟨small, same⟩ := exists_lowercase_point _
      exact .inr ⟨small, by rw [same]⟩

theorem ListedFile.extension_ne_noExtension {disk : Disk} {path : String} {file : ListedFile}
    (listed : ofPath disk path = .ok file) : file.extension ≠ noExtension := by
  intro same
  rcases extension_of_ofPath listed with none | ⟨rest, pointed⟩
  · exact absurd (none.symm.trans same) (by decide)
  · have texts := congrArg String.toList (pointed.symm.trans same)
    rw [String.toList_ofList] at texts
    exact absurd (List.cons.inj texts).1 (by decide)

/-! ## Reports -/

/-- A key is counted with the files that have it. -/
theorem mem_extensionCounts_iff {files : List ListedFile} {key : String} {n : Int}
    {Has : ListedFile → Prop} [DecidablePred Has]
    (same : ∀ file, file.extensionKey = key ↔ Has file) :
    (key, n) ∈ extensionCounts files ↔
      (∃ file ∈ files, Has file) ∧ n = files.countP (Has ·) := by
  rw [extensionCounts, (Tally.counts_ofKeys _).entry, ListedFile.count_extensionKey]
  simp only [List.mem_map, same]

/-- What a report says of the extensions and directories of its files. -/
structure Report.Groups (files : List ListedFile) (report : Report) : Prop where
  directories : report.files.directories.Counts (files.map (·.directory))
  directoryOrder : report.files.directories.Pairwise fun a b =>
    b.2 < a.2 ∨ b.2 = a.2 ∧ MetBefore (files.map (·.directory)) a b
  types : report.files.types.Counts (files.map (·.extensionKey))
  typeOrder : report.files.types.Pairwise (MetBefore (files.map (·.extensionKey)))
  extensions : ∀ extension, extension ≠ "" → extension ≠ noExtension → ∀ n,
    (extension, n) ∈ report.files.types ↔
      (∃ file ∈ files, file.extension = extension) ∧ n = files.countP (·.extension = extension)
  /-- Files without an extension are counted with those whose extension is their key. -/
  withoutExtension : ∀ n, (noExtension, n) ∈ report.files.types ↔
    (∃ file ∈ files, file.extension = "" ∨ file.extension = noExtension) ∧
      n = files.countP fun file => file.extension = "" ∨ file.extension = noExtension
  largestDirectory : Chooses (files.map (·.directory)) report.summary.largestDirectory
  mostCommonExtension : Chooses (files.map (·.extensionKey)) report.summary.mostCommonExtension

/-- What a summary chooses from the tallies of its report. -/
theorem Report.choices_of_summarize {settings : Settings} {report : Report} {summary : Summary}
    (summarized : report.summarize settings = .ok summary) :
    summary.mostCommonExtension = report.files.types.top? ∧
      summary.largestDirectory = report.files.directories.head?.map (·.1) := by
  obtain ⟨language, -, summarized⟩ := bind_eq_ok summarized
  cases summarized
  exact ⟨rfl, rfl⟩

/-- **A report groups its files.**  Of any sources and manifests there is one entry for each
directory, with the number of its files, the fullest first and equals as they were met, and
one for each extension, with the number of its files, as they were met.  The files without an
extension have one entry, which only files can share that are not listed from a path.  The
summary has the fullest directory and the most common extension, of several the one that was
met first, and lacks them only if there are no files. -/
theorem report_groups {sources manifests : List ListedFile} {corpus : CorpusSurvey}
    {survey : ManifestSurvey} {settings : Settings} {report : Report}
    (composed : Report.compose sources manifests corpus survey settings = .ok report) :
    report.Groups (sources ++ manifests) ∧
      ∀ disk path file, ListedFile.ofPath disk path = .ok file → file.extension ≠ noExtension := by
  have made := Report.composed_of_compose composed
  obtain ⟨mostCommon, largest⟩ := Report.choices_of_summarize made.summary
  rw [made.types, extensionCounts] at mostCommon
  rw [made.directories, directoryCounts] at largest
  refine ⟨?_, fun disk path file => ListedFile.extension_ne_noExtension⟩
  refine ⟨?directories, ?directoryOrder, ?types, ?typeOrder, fun extension some_extension apart n =>
    ?extensions, fun n => ?withoutExtension, ?largestDirectory, ?mostCommonExtension⟩
  case directories => rw [made.directories]; exact (Tally.counts_ofKeys _).byCount
  case directoryOrder => rw [made.directories]; exact Tally.byCount_ofKeys _
  case types => rw [made.types]; exact Tally.counts_ofKeys _
  case typeOrder => rw [made.types]; exact Tally.metBefore_ofKeys _
  case extensions =>
    rw [made.types]
    exact mem_extensionCounts_iff fun file =>
      ListedFile.extensionKey_eq_extension_iff some_extension apart
  case withoutExtension =>
    rw [made.types]
    exact mem_extensionCounts_iff fun file => ListedFile.extensionKey_eq_noExtension_iff
  case largestDirectory => rw [largest]; exact Tally.chooses_head?_byCount _
  case mostCommonExtension => rw [mostCommon]; exact Tally.chooses_top? _

/-- Four files in two directories, with two extensions and without one. -/
def mixedFiles : List ListedFile :=
  [("/x", "a.rb", ".rb"), ("/y", "b.py", ".py"), ("/y", "c", ""), ("/x", "d.py", ".py")].map
    fun (directory, basename, extension) =>
      { path := directory ++ "/" ++ basename, size := 1, extension, directory, basename }

theorem Report.exists_compose_of_size_one {files : List ListedFile}
    (few : files.length < twoTo 63) (one : ∀ file ∈ files, file.size = 1) :
    ∃ report, compose files [] {} {} {} = .ok report := by
  refine exists_compose {} {} rfl rfl few fun file member => ?_
  rw [List.append_nil] at member
  rw [one file member]
  exact ⟨by decide, by decide +kernel⟩

/-- Of two directories with as many files, the summary has the first. -/
theorem report_groups_mixedFiles : ∃ report,
    Report.compose mixedFiles [] {} {} {} = .ok report ∧ report.Groups mixedFiles ∧
      report.summary.largestDirectory = some "/x" ∧
      report.summary.mostCommonExtension = some ".py" := by
  obtain ⟨report, composed⟩ := Report.exists_compose_of_size_one
    (by decide +kernel) (by decide +kernel : ∀ file ∈ mixedFiles, file.size = 1)
  have groups := (report_groups composed).1
  rw [List.append_nil] at groups
  exact ⟨report, composed, groups,
    (groups.largestDirectory.some_iff "/x").2 ⟨by decide, by decide +kernel⟩,
    (groups.mostCommonExtension.some_iff ".py").2 ⟨by decide, by decide +kernel⟩⟩

/-- A file without an extension, and one whose extension is the key of such files. -/
def disguisedFiles : List ListedFile :=
  [("a", ""), ("b", noExtension)].map fun (path, extension) =>
    { path, size := 1, extension, directory := "", basename := path }

/-- A file is counted without an extension though it has one. -/
theorem not_every_extension_counts_apart :
    extensionCounts disguisedFiles = [(noExtension, 2)] ∧
    ¬ ∀ (sources manifests : List ListedFile) (corpus : CorpusSurvey) (survey : ManifestSurvey)
        (settings : Settings) (report : Report),
      Report.compose sources manifests corpus survey settings = .ok report →
      ∀ file ∈ sources ++ manifests, file.extension ≠ "" →
        (file.extension, ((sources ++ manifests).countP (·.extension = file.extension) : Int)) ∈
          report.files.types := by
  have together : extensionCounts disguisedFiles = [(noExtension, 2)] := by decide +kernel
  refine ⟨together, fun every => ?_⟩
  obtain ⟨report, composed⟩ := Report.exists_compose_of_size_one
    (by decide +kernel) (by decide +kernel : ∀ file ∈ disguisedFiles, file.size = 1)
  have apart := every disguisedFiles [] {} {} {} report composed disguisedFiles[1]
    (by decide +kernel) (by decide +kernel)
  rw [(Report.composed_of_compose composed).types, List.append_nil, together] at apart
  revert apart
  decide +kernel

end LineCensus
