/-
# Proofs.Checking -- the first setting that fails its test decides

A draft is checked setting by setting.  Here the checks are a list, `Draft.tests`: each
setting with its value, whether a value of that kind can be tested at all, and whether
it passes.  `Draft.check` accepts a draft exactly if all pass, and otherwise its fault
is that of the first that does not (`Draft.check_cases`): a value that cannot be tested
is of the wrong kind, any other is refused under the key of its setting.

Every default passes (`default_passes`), so whatever fails was set by someone
(`Draft.get?_of_fails`).
-/
import LineCensus.Proofs.Step
import LineCensus.Settings.Load

set_option autoImplicit false

namespace LineCensus

/-- The test of one setting. -/
structure SettingTest where
  key : String
  value : Value
  /-- Whether values of this kind can be tested. -/
  comparable : Bool
  passes : Bool

/-- A text with a NUL character as the encoding. -/
def SettingTest.NamesNul (test : SettingTest) : Prop :=
  test.key = "encoding" ∧ ∃ name, test.value = .text name ∧ Disk.hasNul name = true

theorem Verbosity.name_of_ofName? {name : String} {verbosity : Verbosity}
    (named : ofName? name = some verbosity) : verbosity.name = name := by
  unfold ofName? at named
  split at named
  · rename_i same
    cases named
    exact same.symm
  split at named
  · rename_i same
    cases named
    exact same.symm
  split at named
  · rename_i same
    cases named
    exact same.symm
  · cases named

namespace Draft

/-- A number that is not below `least`; what is not a number is below nothing. -/
def leastTest (key : String) (least : Int) (value : Value) : SettingTest where
  key
  value
  comparable := value.amount?.isSome
  passes := value.amount?.any (!·.isBelow least)

/-- The name of a known codec. -/
def namesCodec : Value → Bool
  | .text name => !Disk.hasNul name && (Codec.find? name).isSome
  | _ => false

def namesVerbosity : Value → Bool
  | .text name => (Verbosity.ofName? name).isSome
  | _ => false

/-- The tests of a draft, in the order in which they are made. -/
def tests (draft : Draft) : List SettingTest :=
  [⟨"language", draft.language, true, draft.language.isTruthy⟩,
    leastTest "largest_files_limit" 0 draft.largestFilesLimit,
    leastTest "workers" 1 draft.workers,
    leastTest "parallel_threshold" 1 draft.parallelThreshold,
    ⟨"encoding", draft.encoding, draft.encoding.isText, namesCodec draft.encoding⟩,
    ⟨"verbosity", draft.verbosity, true, namesVerbosity draft.verbosity⟩]

/-- The first test that a draft does not pass. -/
def firstFailed? (draft : Draft) : Option SettingTest :=
  draft.tests.find? (!·.passes)

/-! ## One test -/

/-- The fault of a test that is not passed.  A name with a NUL character is refused as
such, everything else under the key of its setting. -/
inductive FaultOf (test : SettingTest) : Fault → Prop where
  | wrongKind (incomparable : test.comparable = false) : FaultOf test .wrongKind
  | setting (flaw : SettingFlaw) (comparable : test.comparable = true)
      (key : flaw.key = test.key) (plain : ¬ test.NamesNul) :
      FaultOf test (.refused (.setting flaw))
  | nul (comparable : test.comparable = true) (nul : test.NamesNul) :
      FaultOf test (.refused .nulInName)

theorem FaultOf.of_key {test : SettingTest} {flaw : SettingFlaw} (other : flaw.key ≠ "encoding")
    (comparable : test.comparable = true) (key : flaw.key = test.key) :
    FaultOf test (.refused (.setting flaw)) :=
  .setting flaw comparable key fun nul => other (key.trans nul.1)

/-- A check does what its test says: it goes on if the test is passed, and fails with
the fault of the test if not. -/
def Does {α : Type} (test : SettingTest) (check : Except Fault α) : Prop :=
  match check with
  | .ok _ => test.passes = true
  | .error fault => test.passes = false ∧ FaultOf test fault

/-- The check of the language, which comes first. -/
def checkLanguage (value : Value) : Except Fault Unit :=
  if value.isTruthy then .ok () else .error (.refused (.setting .emptyLanguage))

theorem checkLanguage_does (value : Value) :
    Does ⟨"language", value, true, value.isTruthy⟩ (checkLanguage value) := by
  unfold checkLanguage
  cases value.isTruthy with
  | false => exact ⟨rfl, .of_key (by decide) rfl rfl⟩
  | true => rfl

theorem checkLeast_does {flaw : SettingFlaw} (other : flaw.key ≠ "encoding") (least : Int)
    (value : Value) :
    Does (leastTest flaw.key least value) (checkLeast least flaw value) := by
  unfold checkLeast leastTest Value.compareWhole?
  cases value.amount? with
  | none => exact ⟨rfl, .wrongKind rfl⟩
  | some amount =>
      have below : amount.isBelow least = (amount.compareInt least == some .lt) := rfl
      simp only [Option.map_some, Option.any_some, Option.isSome_some, below]
      cases amount.compareInt least with
      | none => rfl
      | some place =>
          cases place with
          | lt => exact ⟨rfl, .of_key other rfl rfl⟩
          | eq => rfl
          | gt => rfl

theorem checkEncoding_does (value : Value) :
    Does ⟨"encoding", value, value.isText, namesCodec value⟩ (checkEncoding value) := by
  cases value with
  | text name =>
      simp only [checkEncoding, namesCodec]
      cases nul : Disk.hasNul name with
      | true => exact ⟨rfl, .nul rfl ⟨rfl, name, rfl, nul⟩⟩
      | false =>
          cases Codec.find? name with
          | none =>
              refine ⟨rfl, .setting (.unknownEncoding name) rfl rfl ?_⟩
              rintro ⟨-, _, ⟨⟩, hasNul⟩
              rw [nul] at hasNul
              cases hasNul
          | some codec => rfl
  | _ => exact ⟨rfl, .wrongKind rfl⟩

theorem checkEncoding_eq_ok {value : Value} {name : String}
    (named : checkEncoding value = .ok name) :
    value = .text name ∧ Disk.hasNul name = false ∧ (Codec.find? name).isSome = true := by
  cases value with
  | text written =>
      simp only [checkEncoding] at named
      split at named
      · cases named
      · rename_i noNul
        split at named
        · rename_i codec found
          cases named
          exact ⟨rfl, by simpa using noNul, by rw [found]; rfl⟩
        · cases named
  | _ => cases named

theorem checkVerbosity_does (value : Value) :
    Does ⟨"verbosity", value, true, namesVerbosity value⟩ (checkVerbosity value) := by
  cases value with
  | text name =>
      simp only [checkVerbosity, namesVerbosity]
      cases Verbosity.ofName? name with
      | none => exact ⟨rfl, .of_key (by decide) rfl rfl⟩
      | some verbosity => rfl
  | _ => exact ⟨rfl, .of_key (by decide) rfl rfl⟩

theorem checkVerbosity_eq_ok {value : Value} {verbosity : Verbosity}
    (named : checkVerbosity value = .ok verbosity) : value = .text verbosity.name := by
  cases value with
  | text written =>
      simp only [checkVerbosity] at named
      split at named
      · rename_i found known
        cases named
        rw [Verbosity.name_of_ofName? known]
      · cases named
  | _ => cases named

/-! ## All tests, one after the other -/

/-- Checks one after the other: all tests are passed, or the fault is that of the first
that is not. -/
def DoAll {α : Type} (tests : List SettingTest) (check : Except Fault α) : Prop :=
  match check with
  | .ok _ => tests.find? (!·.passes) = none
  | .error fault => ∃ test, tests.find? (!·.passes) = some test ∧ FaultOf test fault

theorem doAll_bind {α β : Type} {test : SettingTest} {rest : List SettingTest}
    {first : Except Fault α} {next : α → Except Fault β} (here : Does test first)
    (later : ∀ a, DoAll rest (next a)) : DoAll (test :: rest) (first >>= next) := by
  cases first with
  | error fault =>
      obtain ⟨fails, fault⟩ := here
      exact ⟨test, List.find?_cons_of_pos (by simp [fails]), fault⟩
  | ok a =>
      have passes : test.passes = true := here
      have skip : (test :: rest).find? (!·.passes) = rest.find? (!·.passes) :=
        List.find?_cons_of_neg (by simp [passes])
      have after := later a
      change DoAll (test :: rest) (next a)
      unfold DoAll at after ⊢
      rw [skip]
      exact after

theorem check_eq (draft : Draft) :
    draft.check = do
      checkLanguage draft.language
      checkLeast 0 .negativeLargestFilesLimit draft.largestFilesLimit
      checkLeast 1 .tooFewWorkers draft.workers
      checkLeast 1 .parallelThresholdTooLow draft.parallelThreshold
      let encoding ← checkEncoding draft.encoding
      let verbosity ← checkVerbosity draft.verbosity
      return {
        language := draft.language
        largestFilesLimit := draft.largestFilesLimit
        workers := draft.workers
        parallelThreshold := draft.parallelThreshold
        encoding
        includeManifests := draft.includeManifests
        excludePatterns := draft.excludePatterns
        verbosity } := by
  unfold check checkLanguage
  cases draft.language.isTruthy <;> rfl

theorem check_doAll (draft : Draft) : DoAll draft.tests draft.check := by
  rw [check_eq]
  refine doAll_bind (checkLanguage_does _) fun _ => ?_
  refine doAll_bind (checkLeast_does (by decide) 0 _) fun _ => ?_
  refine doAll_bind (checkLeast_does (by decide) 1 _) fun _ => ?_
  refine doAll_bind (checkLeast_does (by decide) 1 _) fun _ => ?_
  refine doAll_bind (checkEncoding_does _) fun encoding => ?_
  refine doAll_bind (checkVerbosity_does _) fun verbosity => ?_
  exact rfl

/-- A draft is accepted, or it fails with the fault of its first failed test. -/
theorem check_cases (draft : Draft) :
    (draft.firstFailed? = none ∧ ∃ settings, draft.check = .ok settings) ∨
      ∃ test fault, draft.firstFailed? = some test ∧ FaultOf test fault ∧
        draft.check = .error fault := by
  have all := check_doAll draft
  cases checked : draft.check with
  | ok settings =>
      rw [checked] at all
      exact .inl ⟨all, settings, rfl⟩
  | error fault =>
      rw [checked] at all
      obtain ⟨test, first, of⟩ := all
      exact .inr ⟨test, fault, first, of, rfl⟩

/-- Accepted settings are the draft, with its encoding and its verbosity read. -/
theorem check_eq_ok {draft : Draft} {settings : Settings} (accepted : draft.check = .ok settings) :
    checkEncoding draft.encoding = .ok settings.encoding ∧
      checkVerbosity draft.verbosity = .ok settings.verbosity ∧
      settings = {
        language := draft.language
        largestFilesLimit := draft.largestFilesLimit
        workers := draft.workers
        parallelThreshold := draft.parallelThreshold
        encoding := settings.encoding
        includeManifests := draft.includeManifests
        excludePatterns := draft.excludePatterns
        verbosity := settings.verbosity } := by
  rw [check_eq] at accepted
  obtain ⟨-, -, accepted⟩ := bind_eq_ok accepted
  obtain ⟨-, -, accepted⟩ := bind_eq_ok accepted
  obtain ⟨-, -, accepted⟩ := bind_eq_ok accepted
  obtain ⟨-, -, accepted⟩ := bind_eq_ok accepted
  obtain ⟨encoding, encodingOk, accepted⟩ := bind_eq_ok accepted
  obtain ⟨verbosity, verbosityOk, accepted⟩ := bind_eq_ok accepted
  cases accepted
  exact ⟨encodingOk, verbosityOk, rfl⟩

/-- Accepted settings name a known codec, without a NUL character. -/
theorem namesCodec_of_check {draft : Draft} {settings : Settings}
    (accepted : draft.check = .ok settings) :
    Disk.hasNul settings.encoding = false ∧ (Codec.find? settings.encoding).isSome = true :=
  (checkEncoding_eq_ok (check_eq_ok accepted).1).2

/-- The defaults are accepted with every known codec, whether it is one of texts or
not. -/
theorem check_of_namesCodec {name : String} (noNul : Disk.hasNul name = false)
    (known : (Codec.find? name).isSome = true) :
    check { encoding := .text name } = .ok { encoding := name } := by
  obtain ⟨codec, found⟩ := Option.isSome_iff_exists.1 known
  have language : checkLanguage (.text "ruby") = .ok () := rfl
  have encoding : checkEncoding (.text name) = .ok name := by
    simp only [checkEncoding, noNul, found, Bool.false_eq_true, if_false]
  have verbosity : checkVerbosity (.text "normal") = .ok .normal := rfl
  rw [check_eq, language, encoding, verbosity]
  rfl

/-! ## Defaults -/

/-- Every default passes its own test. -/
theorem default_passes : ∀ test ∈ ({} : Draft).tests, test.passes = true := by
  decide +kernel

theorem get?_of_picked (passes : Value → Bool) {merged : Table} {key : String}
    {otherwise : Value} (fallback : passes otherwise = true)
    (fails : passes ((merged.get? key).getD otherwise) = false) :
    merged.get? key = some ((merged.get? key).getD otherwise) := by
  cases found : merged.get? key with
  | none =>
      rw [found, Option.getD_none, fallback] at fails
      cases fails
  | some value => rfl

/-- What fails its test was set. -/
theorem get?_of_fails {merged : Table} {test : SettingTest}
    (member : test ∈ (Draft.ofTable merged).tests) (fails : test.passes = false) :
    merged.get? test.key = some test.value := by
  simp only [tests, List.mem_cons, List.not_mem_nil, or_false] at member
  have fallback (i : Fin 6) : (({} : Draft).tests.get i).passes = true :=
    default_passes _ (List.get_mem _ _)
  rcases member with rfl | rfl | rfl | rfl | rfl | rfl
  · exact get?_of_picked Value.isTruthy (fallback 0) fails
  · exact get?_of_picked (fun v => (leastTest "largest_files_limit" 0 v).passes) (fallback 1) fails
  · exact get?_of_picked (fun v => (leastTest "workers" 1 v).passes) (fallback 2) fails
  · exact get?_of_picked (fun v => (leastTest "parallel_threshold" 1 v).passes) (fallback 3) fails
  · exact get?_of_picked namesCodec (fallback 4) fails
  · exact get?_of_picked namesVerbosity (fallback 5) fails

end Draft
end LineCensus
