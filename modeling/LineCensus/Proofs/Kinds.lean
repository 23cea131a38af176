/-
# Proofs.Kinds -- the kinds of accepted settings, and what others lead to

Settings that are accepted are in range (`Settings.InRange`), but their values need not be of
the kinds that they are meant to have: the text of a variable is read by the kind of its setting
(`Variable.fits_of_read`) and every default is of its kind (`Settings.default_fits`), while what
a file or a caller sets is only compared.

Settings of their kinds (`Settings.FitKinds`) never end a search or an analysis by their kind.
Of the others it can be told which do: patterns that stop a search (`Proofs.Obstacles`), and a
limit or a language that no report can be composed with (`Proofs.Faults`).
-/
import LineCensus.Proofs.Faults
import LineCensus.Proofs.Layers
import LineCensus.Proofs.Obstacles

set_option autoImplicit false

namespace LineCensus

/-! ## Kinds -/

namespace Variable

/-- Whether a value is of a kind. -/
def Kind.fits : Kind → Value → Bool
  | .text, value => value.isText
  | .whole, .whole _ => true
  | .switch, .flag _ => true
  | .patterns, .list items => items.all Value.isText
  | _, _ => false

/-- What the text of a variable is read as is of the kind that it is read by. -/
theorem fits_of_read {kind : Kind} {text : String} {value : Value}
    (reads : read kind text = .ok value) : kind.fits value = true := by
  cases kind with
  | text =>
      cases reads
      rfl
  | whole =>
      rw [read] at reads
      cases number : Whole.ofText text with
      | error refusal =>
          rw [number] at reads
          cases reads
      | ok n =>
          rw [number] at reads
          cases reads
          rfl
  | switch =>
      rw [read] at reads
      cases word : switch text with
      | error refusal =>
          rw [word] at reads
          cases reads
      | ok b =>
          rw [word] at reads
          cases reads
          rfl
  | patterns =>
      cases reads
      rw [Kind.fits, List.all_eq_true]
      intro item member
      obtain ⟨pattern, -, rfl⟩ := List.mem_map.1 member
      rfl

end Variable

namespace Settings

/-- Every setting is of its kind. -/
def FitKinds (settings : Settings) : Prop :=
  ∀ key kind value, Variable.kinds.lookup key = some kind →
    settings.entries.get? key = some value → kind.fits value = true

/-- Every default is of its kind. -/
theorem default_fits : FitKinds {} := by
  have all : ∀ entry ∈ Variable.kinds,
      (({} : Settings).entries.get? entry.1).all entry.2.fits = true := by decide +kernel
  intro key kind value isKind isValue
  obtain ⟨before, after, split, -⟩ := List.lookup_eq_some_iff.1 isKind
  have fits := all (key, kind) (by rw [split]; simp)
  rw [isValue] at fits
  exact fits

/-- What a number is at least; what is no number is below nothing. -/
def IsAtLeast (least : Int) (value : Value) : Prop :=
  ∃ amount, value.amount? = some amount ∧ amount.isBelow least = false

/-- What is known of settings that are accepted. -/
structure InRange (settings : Settings) : Prop where
  language : settings.language.isTruthy = true
  largestFilesLimit : IsAtLeast 0 settings.largestFilesLimit
  workers : IsAtLeast 1 settings.workers
  parallelThreshold : IsAtLeast 1 settings.parallelThreshold
  encodingNamed : Disk.hasNul settings.encoding = false
  encodingKnown : (Codec.find? settings.encoding).isSome = true

theorem isAtLeast_of_passes {key : String} {least : Int} {value : Value}
    (passes : (Draft.leastTest key least value).passes = true) : IsAtLeast least value := by
  unfold Draft.leastTest at passes
  obtain ⟨amount, number, notBelow⟩ := (Option.any_eq_true _ _).1 passes
  exact ⟨amount, number, by simpa using notBelow⟩

theorem inRange_of_check {draft : Draft} {settings : Settings}
    (accepted : draft.check = .ok settings) : settings.InRange := by
  have passed : ∀ test ∈ draft.tests, test.passes = true := by
    rcases draft.check_cases with ⟨none, -⟩ | ⟨test, fault, -, -, fails⟩
    · intro test member
      simpa using List.find?_eq_none.1 none test member
    · rw [accepted] at fails
      cases fails
  obtain ⟨-, -, same⟩ := Draft.check_eq_ok accepted
  have codec := Draft.namesCodec_of_check accepted
  simp only [Draft.tests, List.forall_mem_cons] at passed
  obtain ⟨language, limit, workers, threshold, -⟩ := passed
  rw [same]
  exact ⟨language, isAtLeast_of_passes limit, isAtLeast_of_passes workers,
    isAtLeast_of_passes threshold, codec.1, codec.2⟩

/-- What is set by a variable or by default is of its kind. -/
theorem origin_of_not_fits {settings : Settings} {merged : Table}
    {environment : List (String × String)} {overrides explicit project global : Table}
    (values : ∀ key, merged.get? key =
      (settingLayers environment overrides explicit project global).findSome? (· key))
    (entries : ∀ key, settings.entries.get? key =
      (merged.get? key).or (({} : Settings).entries.get? key))
    {key : String} {kind : Variable.Kind} {value : Value}
    (isKind : Variable.kinds.lookup key = some kind)
    (isValue : settings.entries.get? key = some value) (unfit : kind.fits value = false) :
    ∃ layer ∈ [callerValue? overrides, explicit.get?, project.get?, global.get?],
      layer key = some value := by
  rw [entries, values] at isValue
  rcases Option.or_eq_some_iff.1 isValue with set | ⟨-, default⟩
  · obtain ⟨layer, member, sets⟩ := List.exists_of_findSome?_eq_some set
    simp only [settingLayers, List.mem_cons, List.not_mem_nil, or_false] at member
    rcases member with rfl | rfl | isFile
    · exact ⟨_, by simp, sets⟩
    · rw [variableValue?, isKind, Option.bind_eq_bind, Option.bind_some] at sets
      obtain ⟨written, -, reads⟩ := Option.bind_eq_some_iff.1 sets
      cases outcome : Variable.read kind written with
      | error refusal =>
          rw [outcome] at reads
          cases reads
      | ok read =>
          rw [outcome] at reads
          cases reads
          rw [Variable.fits_of_read outcome] at unfit
          cases unfit
    · refine ⟨layer, ?_, sets⟩
      simp [isFile]
  · rw [default_fits key kind value isKind default] at unfit
    cases unfit

end Settings

/-! ## What ends by a kind -/

/-- A value was of a kind that cannot be used. -/
def Fault.OfKind (fault : Fault) : Prop :=
  fault = .wrongKind ∨ fault = .unsupported

theorem Fault.OfFiles.not_ofKind {fault : Fault} (ofFiles : fault.OfFiles) : ¬ fault.OfKind := by
  rintro (rfl | rfl) <;> cases ofFiles

/-- No search and no analysis ends by the kind of a value. -/
structure Settings.NeverEndsByKind (settings : Settings) : Prop where
  search : ∀ (disk : Disk) (root : String) (fault : Fault),
    (Discovery.ofRoot disk settings root).result = .error fault → ¬ fault.OfKind
  analysis : ∀ (disk : Disk) (workers : Workers) (cancelAfter : Option Nat)
    (sources manifests : List String) (fault : Fault),
    (Report.analyze disk settings workers cancelAfter sources manifests).result = .error fault →
      ¬ fault.OfKind

/-- Which searches and analyses end by the kind of a value. -/
structure Settings.EndsByKind (settings : Settings) : Prop where
  search : ∀ (disk : Disk) (root : String),
    (∃ fault, (Discovery.ofRoot disk settings root).result = .error fault ∧ fault.OfKind) ↔
      Discovery.IsBlocked disk settings.excludePatterns root
  /-- Without a limit or a language no analysis has a report. -/
  analysis : ∀ (disk : Disk) (workers : Workers) (cancelAfter : Option Nat)
    (sources manifests : List String),
    Report.EndsBy settings
      (Report.analyze disk settings workers cancelAfter sources manifests).result
  /-- Not even that of no files. -/
  nothing : ∀ (disk : Disk) (workers : Workers) (cancelAfter : Option Nat),
    (∃ fault, (Report.analyze disk settings workers cancelAfter [] []).result = .error fault ∧
      fault.OfKind) ↔ ¬ (settings.HasLimit ∧ settings.HasLanguage)

namespace Settings

theorem endsByKind (settings : Settings) : settings.EndsByKind where
  search disk root := by
    constructor
    · rintro ⟨fault, fails, ofKind⟩
      rcases Discovery.fault_of_ofRoot fails with rfl | ⟨problem, rfl⟩ | rfl | ⟨-, blocked⟩
      · rcases ofKind with same | same <;> cases same
      · rcases ofKind with same | same <;> cases same
      · rcases ofKind with same | same <;> cases same
      · exact blocked
    · intro blocked
      exact ⟨.wrongKind, Discovery.ofRoot_wrongKind_iff.2 blocked, .inl rfl⟩
  analysis disk := Report.analyze_endsBy disk settings
  nothing disk workers cancelAfter := by
    have ends := Report.analyze_endsBy disk settings workers cancelAfter [] []
    constructor
    · rintro ⟨fault, fails, ofKind⟩ ⟨hasLimit, hasLanguage⟩
      rw [fails] at ends
      cases ends with
      | files ofFiles => exact ofFiles.not_ofKind ofKind
      | limit lacks => exact lacks hasLimit
      | language _ lacks => exact lacks hasLanguage
    · intro lacking
      cases ended : (Report.analyze disk settings workers cancelAfter [] []).result with
      | ok report =>
          rw [ended] at ends
          cases ends with
          | report hasLimit hasLanguage => exact absurd ⟨hasLimit, hasLanguage⟩ lacking
      | error fault =>
          rw [ended] at ends
          refine ⟨fault, rfl, ?_⟩
          cases ends with
          | files ofFiles => exact absurd ofFiles (Report.not_ofFiles_of_analyze_nil ended)
          | limit => exact .inl rfl
          | language => exact .inr rfl

theorem FitKinds.neverEndsByKind {settings : Settings} (fit : settings.FitKinds) :
    settings.NeverEndsByKind where
  search disk root fault fails ofKind := by
    have blocked := (settings.endsByKind.search disk root).1 ⟨fault, fails, ofKind⟩
    have patterns := fit "exclude_patterns" .patterns _ rfl rfl
    cases given : settings.excludePatterns with
    | list items =>
        rw [given] at blocked patterns
        exact Discovery.not_isBlocked_of_texts disk (List.all_eq_true.1 patterns) root blocked
    | _ =>
        rw [given] at patterns
        cases patterns
  analysis disk workers cancelAfter sources manifests fault fails ofKind := by
    have hasLimit : settings.HasLimit := by
      have limit := fit "largest_files_limit" .whole _ rfl rfl
      cases given : settings.largestFilesLimit with
      | whole n => exact ⟨n, by rw [given]; rfl⟩
      | _ =>
          rw [given] at limit
          cases limit
    have hasLanguage : settings.HasLanguage := fit "language" .text _ rfl rfl
    have ends := settings.endsByKind.analysis disk workers cancelAfter sources manifests
    rw [fails] at ends
    cases ends with
    | files ofFiles => exact ofFiles.not_ofKind ofKind
    | limit lacks => exact lacks hasLimit
    | language _ lacks => exact lacks hasLanguage

end Settings

/-- What is known of settings that were loaded. -/
structure Settings.Accepted (disk : Disk) (environment : List (String × String))
    (named : Option String) (overrides : Table) (settings : Settings) : Prop where
  inRange : settings.InRange
  /-- A value that is not of its kind comes from a file or from the caller. -/
  origins : ∃ explicit project global,
    SettingSources disk environment named explicit project global ∧
      ∀ key kind value, Variable.kinds.lookup key = some kind →
        settings.entries.get? key = some value → kind.fits value = false →
          ∃ layer ∈ [callerValue? overrides, explicit.get?, project.get?, global.get?],
            layer key = some value
  ends : settings.EndsByKind
  fit : settings.FitKinds → settings.NeverEndsByKind

/-- **Accepted settings are in range, and of their kinds as far as variables and defaults set
them.**  Which searches and analyses end by the kind of a value is then decided by the patterns,
the limit and the language alone, and with all settings of their kinds none does. -/
theorem accepted_settings {disk : Disk} {environment : List (String × String)}
    {named : Option String} {overrides : Table} {settings : Settings}
    (once : (Table.keys overrides).Nodup)
    (loaded : Settings.load disk environment named overrides = .ok settings) :
    settings.Accepted disk environment named overrides := by
  rw [Settings.load] at loaded
  obtain ⟨merged, merges, checked⟩ := bind_eq_ok loaded
  obtain ⟨explicit, project, global, sources, values⟩ := Settings.merge_eq_ok once merges
  obtain ⟨-, entries⟩ := Settings.ofMerged_eq_ok checked
  exact
    { inRange := Settings.inRange_of_check (Settings.check_of_ofMerged checked).2
      origins := ⟨explicit, project, global, sources, fun _ _ _ isKind isValue unfit =>
        Settings.origin_of_not_fits values entries isKind isValue unfit⟩
      ends := settings.endsByKind
      fit := fun fit => fit.neverEndsByKind }

/-- A disk with a number for the language. -/
def numberedDisk : Disk where
  root := .folder [("source-metrics.toml", .file (asciiOctets "language = 5\n") false)]
  currentFolder := "/"
  home := "/"

theorem load_numberedDisk : ∃ settings, Settings.load numberedDisk [] none [] = .ok settings ∧
    settings.language.isText = false := by
  have values : (match Settings.load numberedDisk [] none [] with
    | .ok settings => !settings.language.isText
    | .error _ => false) = true := by decide +kernel
  cases loaded : Settings.load numberedDisk [] none [] with
  | error fault =>
      rw [loaded] at values
      cases values
  | ok settings =>
      rw [loaded] at values
      exact ⟨settings, rfl, by simpa using values⟩

/-- The number is accepted, and no analysis has a report. -/
theorem accepted_settings_numberedDisk :
    (Table.keys []).Nodup ∧ ∃ settings, Settings.load numberedDisk [] none [] = .ok settings ∧
      settings.language.isText = false ∧ settings.Accepted numberedDisk [] none [] ∧
      ∀ (disk : Disk) (sources manifests : List String) (report : Report),
        (Report.analyze disk settings Schedule.inOrder none sources manifests).result ≠
          .ok report := by
  obtain ⟨settings, loaded, noText⟩ := load_numberedDisk
  have accepted := accepted_settings (by simp [Table.keys]) loaded
  refine ⟨by simp [Table.keys], settings, loaded, noText, accepted, ?_⟩
  intro disk sources manifests report returned
  have ends := accepted.ends.analysis disk Schedule.inOrder none sources manifests
  rw [returned] at ends
  cases ends with
  | report hasLimit hasLanguage =>
      rw [Settings.HasLanguage, noText] at hasLanguage
      cases hasLanguage

/-- Not all settings that are accepted can be used. -/
theorem not_every_accepted_setting_fits :
    ¬ ∀ (disk : Disk) (environment : List (String × String)) (named : Option String)
        (overrides : Table) (settings : Settings),
      Settings.load disk environment named overrides = .ok settings →
        settings.InRange ∧ settings.FitKinds ∧ settings.NeverEndsByKind := by
  intro always
  obtain ⟨settings, loaded, noText⟩ := load_numberedDisk
  obtain ⟨-, -, never⟩ := always _ _ _ _ settings loaded
  have lacking : ¬ (settings.HasLimit ∧ settings.HasLanguage) := by
    rintro ⟨-, hasLanguage⟩
    rw [Settings.HasLanguage, noText] at hasLanguage
    cases hasLanguage
  obtain ⟨fault, fails, ofKind⟩ :=
    (settings.endsByKind.nothing numberedDisk Schedule.inOrder none).2 lacking
  exact never.analysis numberedDisk Schedule.inOrder none [] [] fault fails ofKind

end LineCensus
