/-
# Proofs.Blame -- which setting an error about a setting holds

Of the steps of loading only the check of the merged settings can fail with an error about a
setting (`Settings.blamed?_merge`).  The setting that it holds is read off the first word of a
message.  For the messages of the tests this is the key of the first test that fails, and the
value is the one that was merged under it; the message about a NUL character in the name of an
encoding is not one of those, and its first word is no key.  So the error holds the setting to
blame unless that is an encoding with a NUL character (`load_blames_iff`).
-/
import LineCensus.Proofs.Loading

set_option autoImplicit false

namespace LineCensus

/-- The key and the value that an error about a setting holds. -/
def Fault.blamed? : Fault → Option (Value × Value)
  | .reported (.invalidSetting key value _) => some (key, value)
  | _ => none

def blamed? {α : Type} : Except Fault α → Option (Value × Value)
  | .ok _ => none
  | .error fault => fault.blamed?

theorem blamed?_eq_some_iff {α : Type} {result : Except Fault α} {key value : Value} :
    blamed? result = some (key, value) ↔
      ∃ reason, result = .error (.reported (.invalidSetting key value reason)) := by
  constructor
  · intro holds
    cases result with
    | ok a => cases holds
    | error fault =>
        change fault.blamed? = some (key, value) at holds
        unfold Fault.blamed? at holds
        split at holds
        · cases holds
          exact ⟨_, rfl⟩
        · cases holds
  · rintro ⟨reason, rfl⟩
    rfl

theorem blamed?_bind {α β : Type} {first : Except Fault α} {next : α → Except Fault β}
    (silent : blamed? first = none) (silentNext : ∀ a, blamed? (next a) = none) :
    blamed? (first >>= next) = none := by
  cases first with
  | ok a => exact silentNext a
  | error fault => exact silent

/-! ## Merging -/

namespace SettingsFile

theorem blamed?_load (disk : Disk) (path : String) : blamed? (load disk path) = none := by
  unfold load
  cases disk.content path with
  | error problem => rfl
  | ok content =>
      cases decoded : Utf8.decodeStrict? content.data.toList with
      | none =>
          simp only [decoded]
          rfl
      | some text =>
          simp only [decoded]
          cases Toml.read text with
          | ok document => rfl
          | error flaw => cases flaw <;> rfl

/-- Loading what is there, if what is said of what is not there is no error about a setting. -/
theorem blamed?_ifThere (disk : Disk) (path : String) {absent : Except Fault Table}
    (silent : blamed? absent = none) :
    blamed? (do if ← (disk.isThere path).mapError .disk then load disk path else absent) =
      none := by
  cases disk.isThere path with
  | error problem => rfl
  | ok isThere =>
      cases isThere with
      | false => exact silent
      | true => exact blamed?_load disk path

end SettingsFile

theorem blamed?_variables (environment : List (String × String)) :
    blamed? ((Variable.all environment).mapError .reported) = none := by
  cases read : Variable.all environment with
  | ok table => rfl
  | error error =>
      obtain ⟨name, refusal, rfl⟩ := Variable.settings_error read
      rfl

/-- Settings are merged without a look at their values. -/
theorem Settings.blamed?_merge (disk : Disk) (environment : List (String × String))
    (named : Option String) (overrides : Table) :
    blamed? (merge disk environment named overrides) = none := by
  refine blamed?_bind (SettingsFile.blamed?_ifThere disk _ rfl) fun global => ?_
  refine blamed?_bind (SettingsFile.blamed?_ifThere disk _ rfl) fun project => ?_
  have rest (layers : Table → Table) :
      blamed? (do return layers (← (Variable.all environment).mapError .reported)) = none :=
    blamed?_bind (blamed?_variables environment) fun _ => rfl
  cases named with
  | none => exact rest _
  | some path => exact blamed?_bind (SettingsFile.blamed?_ifThere disk _ rfl) fun _ => rest _

/-! ## Checking -/

/-- A test fails and those before it are passed. -/
def Draft.FailsFirst (draft : Draft) (test : SettingTest) : Prop :=
  ∃ before after, draft.tests = before ++ test :: after ∧
    (∀ earlier ∈ before, earlier.passes = true) ∧ test.passes = false

/-- In the order of the tests it is found first. -/
theorem Draft.failsFirst_iff {draft : Draft} {test : SettingTest} :
    draft.FailsFirst test ↔ draft.firstFailed? = some test := by
  rw [firstFailed?, List.find?_eq_some_iff_append]
  simp only [Bool.not_eq_true', Bool.not_not]
  constructor
  · rintro ⟨before, after, order, passed, fails⟩
    exact ⟨fails, before, after, order, passed⟩
  · rintro ⟨fails, before, after, order, passed⟩
    exact ⟨before, after, order, passed, fails⟩

/-- A name with a NUL character is a text, which can be looked up. -/
theorem Draft.comparable_of_namesNul {draft : Draft} {test : SettingTest}
    (member : test ∈ draft.tests) (nul : test.NamesNul) : test.comparable = true := by
  obtain ⟨key, name, value, -⟩ := nul
  simp only [tests, List.mem_cons, List.not_mem_nil, or_false] at member
  rcases member with rfl | rfl | rfl | rfl | rfl | rfl
  · rfl
  · exact absurd key (by simp [leastTest])
  · exact absurd key (by simp [leastTest])
  · exact absurd key (by simp [leastTest])
  · change draft.encoding = .text name at value
    rw [value]
    rfl
  · rfl

/-- What an error about the failure of a test holds: its setting, if that can be compared and
shown.  An encoding with a NUL character is held under a word that is no setting, without its
value. -/
inductive SettingTest.Blames (test : SettingTest) : Value → Value → Prop where
  | setting (comparable : test.comparable = true) (showable : ¬ test.value.IsUnshowable)
      (plain : ¬ test.NamesNul) : test.Blames (.text test.key) test.value
  | nul (nul : test.NamesNul) : test.Blames (.text "embedded") .null

namespace Settings

/-- A refused value is blamed under the key that is given, unless it cannot be shown. -/
theorem blamed?_unacceptable_eq_some_iff {word : String} {merged key value : Value}
    {refusal : Refusal} :
    blamed? (.error (unacceptable word merged refusal) : Except Fault Settings) =
        some (key, value) ↔
      ¬ merged.IsUnshowable ∧ key = .text word ∧ value = merged := by
  unfold unacceptable Value.IsUnshowable
  by_cases deep : Value.deepestWritten < merged.depth
  · simp [deep, blamed?, Fault.blamed?]
  · cases writable : merged.isWritable with
    | false => simp [deep, blamed?, Fault.blamed?]
    | true => simp [deep, blamed?, Fault.blamed?, eq_comm]

/-- Null is shown like any other value. -/
theorem not_isUnshowable_null : ¬ Value.null.IsUnshowable := by
  simp [Value.IsUnshowable, Value.depth, Value.isWritable]

/-- What is blamed for the fault of a test. -/
theorem blamed?_of_fails {merged : Table} (known : unknownKeys merged = []) {test : SettingTest}
    {fault : Fault} (member : test ∈ (Draft.ofTable merged).tests)
    (written : merged.get? test.key = some test.value) (of : Draft.FaultOf test fault)
    (checked : (Draft.ofTable merged).check = .error fault) {key value : Value} :
    blamed? (ofMerged merged) = some (key, value) ↔ test.Blames key value := by
  rw [ofMerged_of_known known, checked]
  cases of with
  | wrongKind incomparable =>
      constructor
      · rintro ⟨⟩
      · intro blames
        have comparable : test.comparable = true := by
          cases blames with
          | setting comparable => exact comparable
          | nul nul => exact Draft.comparable_of_namesNul member nul
        rw [incomparable] at comparable
        cases comparable
  | setting flaw comparable isKey plain =>
      simp only [firstWord_message, isKey, written, Option.getD_some,
        blamed?_unacceptable_eq_some_iff]
      constructor
      · rintro ⟨showable, rfl, rfl⟩
        exact .setting comparable showable plain
      · intro blames
        cases blames with
        | setting _ showable => exact ⟨showable, rfl, rfl⟩
        | nul nul => exact absurd nul plain
  | nul comparable nul =>
      -- The message is not one of a setting: its first word is no key, and nothing is merged there.
      have word : firstWord Refusal.nulInName.message = "embedded" := by decide +kernel
      have nowhere := get?_nulInName known
      rw [word] at nowhere
      simp only [word, nowhere, Option.getD_none, blamed?_unacceptable_eq_some_iff]
      constructor
      · rintro ⟨-, rfl, rfl⟩
        exact .nul nul
      · intro blames
        cases blames with
        | setting _ _ plain => exact absurd nul plain
        | nul => exact ⟨not_isUnshowable_null, rfl, rfl⟩

/-- What checking merged settings blames, if it blames any: what was merged for the first test
that fails. -/
theorem blamed?_ofMerged {merged : Table} {key value : Value} :
    blamed? (ofMerged merged) = some (key, value) ↔
      unknownKeys merged = [] ∧ ∃ test, (Draft.ofTable merged).FailsFirst test ∧
        merged.get? test.key = some test.value ∧ test.Blames key value := by
  by_cases known : unknownKeys merged = []
  · simp only [known, true_and, Draft.failsFirst_iff]
    rcases Draft.check_cases (Draft.ofTable merged) with
      ⟨passed, settings, checked⟩ | ⟨test, fault, first, of, checked⟩
    · rw [ofMerged_of_known known, checked, passed]
      simp [blamed?]
    · have member := List.mem_of_find?_eq_some first
      have fails : test.passes = false := by simpa using List.find?_some first
      have written := Draft.get?_of_fails member fails
      rw [blamed?_of_fails known member written of checked, first]
      simp [written]
  · have reported :
        ofMerged merged = .error (.reported (.unknownSettings (unknownKeys merged))) := by
      rw [ofMerged, if_pos (by simpa using known)]
    rw [reported]
    simp [blamed?, Fault.blamed?, known]

end Settings

/-- **An error about a setting holds the first of the merged settings that fails its test**, in
the order of the tests, with the value that was merged; but an encoding with a NUL character is
held as something that is no setting. -/
theorem load_blames_iff (disk : Disk) (environment : List (String × String))
    (named : Option String) (overrides : Table) (key value : Value) :
    (∃ reason, Settings.load disk environment named overrides =
        .error (.reported (.invalidSetting key value reason))) ↔
      ∃ merged, Settings.merge disk environment named overrides = .ok merged ∧
        Settings.unknownKeys merged = [] ∧ ∃ test, (Draft.ofTable merged).FailsFirst test ∧
          merged.get? test.key = some test.value ∧ test.Blames key value := by
  rw [← blamed?_eq_some_iff, Settings.load]
  have silent := Settings.blamed?_merge disk environment named overrides
  cases merges : Settings.merge disk environment named overrides with
  | error fault =>
      rw [merges] at silent
      have fails : blamed? ((.error fault : Except Fault Table) >>= Settings.ofMerged) = none :=
        silent
      simp [fails]
  | ok merged =>
      simp only [Except.ok.injEq, exists_eq_left']
      exact Settings.blamed?_ofMerged

/-- A disk without files. -/
def fileless : Disk where
  root := .folder []
  currentFolder := "/"
  home := "/"

/-- A caller's encoding with a NUL character. -/
def nulEncoding : Table :=
  [("encoding", .text "a\x00b")]

/-- An error about a setting need not hold the key of one. -/
theorem not_every_refusal_names_its_setting :
    ¬ ∀ (disk : Disk) (environment : List (String × String)) (named : Option String)
        (overrides merged : Table) (key value reason : Value),
      Settings.merge disk environment named overrides = .ok merged →
      Settings.load disk environment named overrides =
        .error (.reported (.invalidSetting key value reason)) →
      ∃ test, (Draft.ofTable merged).FailsFirst test ∧ key = .text test.key ∧
        test.key ∈ Draft.keys ∧ merged.get? test.key = some value := by
  intro always
  have merges : (Settings.merge fileless [] none nulEncoding).isOk = true := by decide +kernel
  have blames : ((blamed? (Settings.load fileless [] none nulEncoding)).map (·.1.plain)) =
      some "embedded" := by decide +kernel
  obtain ⟨⟨key, value⟩, held, spelled⟩ := Option.map_eq_some_iff.1 blames
  obtain ⟨reason, fails⟩ := blamed?_eq_some_iff.1 held
  cases merged : Settings.merge fileless [] none nulEncoding with
  | error fault =>
      rw [merged] at merges
      cases merges
  | ok table =>
      obtain ⟨test, -, rfl, isKey, -⟩ :=
        always fileless [] none nulEncoding table key value reason merged fails
      change test.key = "embedded" at spelled
      rw [spelled] at isKey
      revert isKey
      decide

end LineCensus
