/-
# Proofs.Loading -- which failures of loading are reported

Loading settings gives settings, or a configuration error in the program's own words
(`answers`), or something else.  `LoadEscapes` says from the sources when it is
something else, and `load_answers_iff` that it is then and never otherwise:

* a settings file whose octets are no UTF-8, whose values nest too deep or have a whole
  number of too many digits, or whose path cannot be asked about (`FileEscapes`);
* a value that is the first to fail its test, and cannot be compared or not be shown in
  a message (`SettingTest.Escapes`).

Sources are read in order, so an error that is reported earlier hides what would escape
later.
-/
import LineCensus.Proofs.Checking
import LineCensus.Settings.Load

set_option autoImplicit false

namespace LineCensus

/-! ## Answers -/

/-- Errors about paths and settings. -/
def ReportedError.isConfiguration : ReportedError → Bool
  | .stated .configuration _ _ => true
  | .stated _ _ _ => false
  | .fileAccess _ _ => false
  | _ => true

/-- Whether something is a result or a configuration error. -/
def answers {α : Type} : Except Fault α → Bool
  | .ok _ => true
  | .error (.reported error) => error.isConfiguration
  | .error _ => false

theorem answers_iff {α : Type} {result : Except Fault α} :
    answers result = true ↔
      (∃ a, result = .ok a) ∨
        ∃ error : ReportedError,
          error.isConfiguration = true ∧ result = .error (.reported error) := by
  cases result with
  | ok a => simp [answers]
  | error fault => cases fault <;> simp [answers]

@[simp] theorem answers_ok {α : Type} (a : α) : answers (.ok a) = true := rfl

/-- Two steps give no answer if the first gives none, or the second after it. -/
theorem answers_bind {α β : Type} (first : Except Fault α) (next : α → Except Fault β) :
    answers (first >>= next) = false ↔
      answers first = false ∨ ∃ a, first = .ok a ∧ answers (next a) = false := by
  cases first with
  | ok a => simp [bind, Except.bind]
  | error fault =>
      have same : answers ((.error fault : Except Fault α) >>= next) =
        answers (.error fault : Except Fault α) := by cases fault <;> rfl
      simp [same]

/-! ## Files -/

/-- Octets that are no text, or a text that is refused for something other than what is
written in it being malformed. -/
inductive ContentEscapes (octets : List UInt8) : Prop where
  | notUtf8 (undecoded : Utf8.decodeStrict? octets = none)
  | unread (text : Text) (flaw : Toml.Flaw) (decoded : Utf8.decodeStrict? octets = some text)
      (refused : Toml.read text = .error flaw) (wellFormed : flaw ≠ .malformed)

/-- A settings file that is not read and whose failure is not reported. -/
inductive FileEscapes (disk : Disk) (path : String) : Prop where
  | unanswered (problem : PathProblem) (asked : disk.isThere path = .error problem)
  | content (content : ByteArray) (isThere : disk.isThere path = .ok true)
      (holds : disk.content path = .ok content) (escapes : ContentEscapes content.data.toList)

namespace SettingsFile

variable (disk : Disk) (path : String)

theorem answers_load :
    answers (load disk path) = false ↔
      ∃ content, disk.content path = .ok content ∧ ContentEscapes content.data.toList := by
  unfold load
  cases held : disk.content path with
  | error problem => simp [answers, ReportedError.isConfiguration]
  | ok content =>
      simp only [Except.ok.injEq, exists_eq_left']
      cases decoded : Utf8.decodeStrict? content.data.toList with
      | none => exact ⟨fun _ => .notUtf8 decoded, fun _ => rfl⟩
      | some text =>
          constructor
          · intro silent
            cases refused : Toml.read text with
            | ok document =>
                simp only [refused] at silent
                cases silent
            | error flaw =>
                refine .unread text flaw decoded refused ?_
                rintro rfl
                simp only [refused] at silent
                cases silent
          · rintro (undecoded | ⟨read, flaw, same, refused, wellFormed⟩)
            · rw [decoded] at undecoded
              cases undecoded
            · rw [decoded] at same
              cases same
              simp only [refused]
              cases flaw with
              | malformed => exact absurd rfl wellFormed
              | tooManyDigits count => rfl
              | tooDeep => rfl

/-- Loading what is there, whatever is reported of what is not. -/
theorem answers_ifThere {absent : Except Fault Table} (reported : answers absent = true) :
    answers (do if ← (disk.isThere path).mapError .disk then load disk path else absent) = false ↔
      FileEscapes disk path := by
  cases asked : disk.isThere path with
  | error problem => exact ⟨fun _ => .unanswered problem asked, fun _ => rfl⟩
  | ok isThere =>
      cases isThere with
      | false =>
          change answers absent = false ↔ FileEscapes disk path
          rw [reported]
          refine ⟨nofun, ?_⟩
          rintro (⟨problem, other⟩ | ⟨content, other, -⟩) <;>
            · rw [asked] at other
              cases other
      | true =>
          change answers (load disk path) = false ↔ FileEscapes disk path
          rw [answers_load]
          constructor
          · rintro ⟨content, holds, escapes⟩
            exact .content content asked holds escapes
          · rintro (⟨problem, other⟩ | ⟨content, -, holds, escapes⟩)
            · rw [asked] at other
              cases other
            · exact ⟨content, holds, escapes⟩

theorem answers_loadIfThere :
    answers (loadIfThere disk path) = false ↔ FileEscapes disk path :=
  answers_ifThere disk path rfl

theorem answers_loadNamed :
    answers (loadNamed disk path) = false ↔ FileEscapes disk path :=
  answers_ifThere disk path rfl

end SettingsFile

/-! ## Values -/

/-- A value that no message can show. -/
def Value.IsUnshowable (value : Value) : Prop :=
  deepestWritten < value.depth ∨ value.isWritable = false

/-- A test whose failure is not reported. -/
def SettingTest.Escapes (test : SettingTest) : Prop :=
  test.comparable = false ∨ test.value.IsUnshowable

namespace Settings

theorem answers_unacceptable (key : String) (value : Value) (refusal : Refusal) :
    answers (.error (unacceptable key value refusal) : Except Fault Settings) = false ↔
      value.IsUnshowable := by
  unfold unacceptable Value.IsUnshowable
  split
  · rename_i tooDeep
    exact ⟨fun _ => .inl tooDeep, fun _ => rfl⟩
  rename_i shallow
  split
  · rename_i writable
    refine ⟨nofun, ?_⟩
    rintro (tooDeep | unwritable)
    · exact absurd tooDeep shallow
    · rw [writable] at unwritable
      cases unwritable
  · rename_i unwritable
    exact ⟨fun _ => .inr (by simpa using unwritable), fun _ => rfl⟩

theorem firstWord_append {word : String} (rest : String) (whole : ' ' ∉ word.toList) :
    firstWord (word ++ " " ++ rest) = word := by
  have letters : ∀ c ∈ word.toList, (c != ' ') = true := by
    intro c member
    rw [bne_iff_ne]
    rintro rfl
    exact whole member
  have cut : (word ++ " " ++ rest).toList.takeWhile (· != ' ') = word.toList := by
    rw [String.toList_append, String.toList_append, List.append_assoc,
      List.takeWhile_append_of_pos letters]
    simp
  rw [firstWord, cut, String.ofList_toList]

/-- A refused setting is reported under its own key, the first word of the message. -/
theorem firstWord_message (flaw : SettingFlaw) :
    firstWord (Refusal.setting flaw).message = flaw.key := by
  refine firstWord_append flaw.complaint ?_
  cases flaw with
  | unknownEncoding name => exact show ' ' ∉ "encoding".toList by decide
  | _ => decide

/-- Keys that are not unknown are those of settings. -/
theorem mem_keys {merged : Table} (known : unknownKeys merged = []) {key : String} {value : Value}
    (found : merged.get? key = some value) : key ∈ Draft.keys := by
  by_contra foreign
  obtain ⟨before, after, rfl, -⟩ := List.lookup_eq_some_iff.1 found
  have unknown : key ∈ unknownKeys (before ++ (key, value) :: after) := by
    rw [unknownKeys, List.mem_mergeSort, List.mem_filter]
    exact ⟨by simp, by simpa using foreign⟩
  rw [known] at unknown
  cases unknown

/-- A NUL character is reported under no setting, and so with no value. -/
theorem get?_nulInName {merged : Table} (known : unknownKeys merged = []) :
    merged.get? (firstWord Refusal.nulInName.message) = none := by
  have word : firstWord Refusal.nulInName.message = "embedded" := by decide +kernel
  rw [word]
  cases found : merged.get? "embedded" with
  | none => rfl
  | some value => exact absurd (mem_keys known found) (by simp [Draft.keys])

theorem ofMerged_of_known {merged : Table} (known : unknownKeys merged = []) :
    ofMerged merged =
      match (Draft.ofTable merged).check with
      | .error (.refused refusal) =>
          .error (unacceptable (firstWord refusal.message)
            ((merged.get? (firstWord refusal.message)).getD .null) refusal)
      | result => result := by
  rw [ofMerged, known]
  rfl

/-- The fault of a failed test is reported, unless the test escapes. -/
theorem answers_of_fails {merged : Table} (known : unknownKeys merged = []) {test : SettingTest}
    {fault : Fault} (first : (Draft.ofTable merged).firstFailed? = some test)
    (of : Draft.FaultOf test fault) (checked : (Draft.ofTable merged).check = .error fault) :
    answers (ofMerged merged) = false ↔ test.Escapes := by
  rw [ofMerged_of_known known, checked]
  cases of with
  | wrongKind incomparable => exact ⟨fun _ => .inl incomparable, fun _ => rfl⟩
  | setting flaw comparable key plain =>
      have fails : test.passes = false := by simpa using List.find?_some first
      have written := Draft.get?_of_fails (List.mem_of_find?_eq_some first) fails
      simp only [firstWord_message, key, written, Option.getD_some, answers_unacceptable]
      simp [SettingTest.Escapes, comparable]
  | nul comparable nul =>
      obtain ⟨-, name, value, -⟩ := nul
      -- Null is shown in its place, and neither null nor the name itself is unshowable.
      simp only [get?_nulInName known, Option.getD_none, answers_unacceptable]
      simp [SettingTest.Escapes, comparable, value, Value.IsUnshowable, Value.depth,
        Value.isWritable]

/-- What checking merged settings does not report is the failure of a value. -/
theorem answers_ofMerged (merged : Table) :
    answers (ofMerged merged) = false ↔
      unknownKeys merged = [] ∧
        ∃ test, (Draft.ofTable merged).firstFailed? = some test ∧ test.Escapes := by
  by_cases known : unknownKeys merged = []
  · simp only [known, true_and]
    rcases Draft.check_cases (Draft.ofTable merged) with
      ⟨none, settings, checked⟩ | ⟨test, fault, first, of, checked⟩
    · rw [ofMerged_of_known known, checked, none]
      simp
    · rw [answers_of_fails known first of checked, first]
      simp
  · have reported :
        ofMerged merged = .error (.reported (.unknownSettings (unknownKeys merged))) := by
      rw [ofMerged, if_pos (by simpa using known)]
    rw [reported]
    exact ⟨nofun, fun escapes => absurd escapes.1 known⟩

end Settings

/-! ## Loading -/

/-- What fails in reading the variables is one of them that is there and cannot be read. -/
theorem Variable.settings_eq_error {environment : List (String × String)}
    {kinds : List (String × Kind)} {error : ReportedError}
    (fails : settings environment kinds = .error error) :
    ∃ entry ∈ kinds, ∃ text refusal, environment.lookup (nameOf entry.1) = some text ∧
      read entry.2 text = .error refusal ∧ error = .variable (nameOf entry.1) refusal := by
  induction kinds with
  | nil => cases fails
  | cons entry rest ih =>
      rw [List.exists_mem_cons_iff]
      unfold settings at fails
      split at fails
      · exact .inr (ih fails)
      rename_i text present
      split at fails
      · rename_i refusal refused
        cases fails
        exact .inl ⟨text, refusal, present, refused, rfl⟩
      · cases later : settings environment rest with
        | error other =>
            rw [later] at fails
            cases fails
            exact .inr (ih later)
        | ok table =>
            rw [later] at fails
            cases fails

theorem Variable.settings_error {environment : List (String × String)}
    {kinds : List (String × Kind)} {error : ReportedError}
    (fails : settings environment kinds = .error error) :
    ∃ name refusal, error = .variable name refusal := by
  obtain ⟨entry, -, text, refusal, -, -, blames⟩ := settings_eq_error fails
  exact ⟨_, refusal, blames⟩

theorem answers_variables (environment : List (String × String)) :
    answers ((Variable.all environment).mapError .reported) = true := by
  cases read : Variable.all environment with
  | ok table => rfl
  | error error =>
      obtain ⟨name, refusal, rfl⟩ := Variable.settings_error read
      rfl

/-- Loading settings fails with something other than a configuration error: in reading a
file after those before it are read, or in checking the first value that fails its test
when all keys are those of settings. -/
inductive LoadEscapes (disk : Disk) (environment : List (String × String))
    (named : Option String) (overrides : Table) : Prop where
  | globalFile (escapes : FileEscapes disk (SettingsFile.globalPath disk))
  | projectFile (global : Table)
      (first : SettingsFile.loadIfThere disk (SettingsFile.globalPath disk) = .ok global)
      (escapes : FileEscapes disk (SettingsFile.projectPath disk))
  | namedFile (global project : Table) (path : String)
      (first : SettingsFile.loadIfThere disk (SettingsFile.globalPath disk) = .ok global)
      (second : SettingsFile.loadIfThere disk (SettingsFile.projectPath disk) = .ok project)
      (given : named = some path) (escapes : FileEscapes disk (Path.tidy path))
  | value (merged : Table) (test : SettingTest)
      (all : Settings.merge disk environment named overrides = .ok merged)
      (known : Settings.unknownKeys merged = [])
      (fails : (Draft.ofTable merged).firstFailed? = some test) (escapes : test.Escapes)

theorem Settings.answers_merge (disk : Disk) (environment : List (String × String))
    (named : Option String) (overrides : Table) :
    answers (merge disk environment named overrides) = false ↔
      FileEscapes disk (SettingsFile.globalPath disk) ∨
      ∃ global, SettingsFile.loadIfThere disk (SettingsFile.globalPath disk) = .ok global ∧
        (FileEscapes disk (SettingsFile.projectPath disk) ∨
        ∃ project, SettingsFile.loadIfThere disk (SettingsFile.projectPath disk) = .ok project ∧
          ∃ path, named = some path ∧ FileEscapes disk (Path.tidy path)) := by
  unfold merge
  simp only [answers_bind, SettingsFile.answers_loadIfThere]
  refine or_congr_right (exists_congr fun global => and_congr_right fun _ =>
    or_congr_right (exists_congr fun project => and_congr_right fun _ => ?_))
  cases named with
  | none =>
      simp only [pure, Except.pure, answers_bind, answers_ok, answers_variables]
      simp
  | some path =>
      simp only [pure, Except.pure, answers_bind, answers_ok, answers_variables,
        SettingsFile.answers_loadNamed]
      simp

/-- **Loading gives settings or a configuration error, unless a settings file or a value
escapes.** -/
theorem load_answers_iff (disk : Disk) (environment : List (String × String))
    (named : Option String) (overrides : Table) :
    ((∃ settings, Settings.load disk environment named overrides = .ok settings) ∨
      ∃ error : ReportedError, error.isConfiguration = true ∧
        Settings.load disk environment named overrides = .error (.reported error)) ↔
      ¬ LoadEscapes disk environment named overrides := by
  rw [← answers_iff, ← Bool.not_eq_false, not_iff_not, Settings.load, answers_bind,
    Settings.answers_merge]
  simp only [Settings.answers_ofMerged]
  constructor
  · rintro ((global | ⟨global, first, project | ⟨project, second, path, given, file⟩⟩) |
      ⟨merged, all, known, test, fails, escapes⟩)
    · exact .globalFile global
    · exact .projectFile global first project
    · exact .namedFile global project path first second given file
    · exact .value merged test all known fails escapes
  · rintro (global | ⟨global, first, project⟩ |
      ⟨global, project, path, first, second, given, file⟩ |
      ⟨merged, test, all, known, fails, escapes⟩)
    · exact .inl (.inl global)
    · exact .inl (.inr ⟨global, first, .inl project⟩)
    · exact .inl (.inr ⟨global, first, .inr ⟨project, second, path, given, file⟩⟩)
    · exact .inr ⟨merged, all, known, test, fails, escapes⟩

/-- A disk whose settings file ends inside a character. -/
def brokenSettings : Disk where
  root := .folder [("source-metrics.toml", .file ⟨#[0x23, 0xE2, 0x82]⟩ false)]
  currentFolder := "/"
  home := "/home"

/-- Loading can fail with something else. -/
theorem not_every_load_answers :
    ¬ ∀ (disk : Disk) (environment : List (String × String)) (named : Option String)
        (overrides : Table),
      (∃ settings, Settings.load disk environment named overrides = .ok settings) ∨
        ∃ error : ReportedError, error.isConfiguration = true ∧
          Settings.load disk environment named overrides = .error (.reported error) := by
  intro always
  have silent : answers (Settings.load brokenSettings [] none []) = false := by decide +kernel
  rcases always brokenSettings [] none [] with ⟨settings, loaded⟩ | ⟨error, own, failed⟩
  · rw [loaded] at silent
    cases silent
  · rw [failed, answers, own] at silent
    cases silent

end LineCensus
