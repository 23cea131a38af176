/-
# Proofs.Manifests -- what a survey of manifests keeps

A survey takes in one path after the other.  What it says is stated of all the paths so
far (`ManifestSurvey.Surveys`): how many manifests of which kinds there are, and the facts
of the last one of each kind that has a text.

* `visit_eq_ok`: what one path does to a survey.
* `Surveys.visit`: one path more keeps what is said, and `surveys_of_ofPaths` is the run.
* `exists_ofPaths`, `fault_of_ofPaths`: a survey fails with the fault of a manifest that
  it reads, and only then.
* `survey_exact`: what a survey says, in terms of the last parts of the paths and of what can
  be read.
-/
import LineCensus.Manifest.Survey
import LineCensus.Proofs.Listing

set_option autoImplicit false

namespace LineCensus
namespace ManifestSurvey

variable (disk : Disk) (encoding : String)

/-! ## One path -/

/-- A survey after a manifest of a kind, with the text of the manifest if it has one. -/
def took (survey : ManifestSurvey) (kind : ManifestKind) (text? : Option Text) :
    ManifestSurvey :=
  match text? with
  | some text => (survey.tally kind).learn kind text
  | none => survey.tally kind

theorem count_took (survey : ManifestSurvey) (kind : ManifestKind) (text? : Option Text) :
    (survey.took kind text?).count = survey.count + 1 := by
  cases text? <;> cases kind <;> rfl

theorem kinds_took (survey : ManifestSurvey) (kind : ManifestKind) (text? : Option Text) :
    (survey.took kind text?).kinds = survey.kinds.add kind.name := by
  cases text? <;> cases kind <;> rfl

theorem gemspec_took (survey : ManifestSurvey) (kind : ManifestKind) (text? : Option Text) :
    (survey.took kind text?).gemspec =
      if kind = .gemspec then (text?.map GemspecFacts.ofText).or survey.gemspec
      else survey.gemspec := by
  cases text? <;> cases kind <;> rfl

theorem dependencies_took (survey : ManifestSurvey) (kind : ManifestKind)
    (text? : Option Text) :
    (survey.took kind text?).dependencies =
      if kind = .gemfile then (text?.map GemfileFacts.ofText).or survey.dependencies
      else survey.dependencies := by
  cases text? <;> cases kind <;> rfl

/-- A path of a known kind is taken, and any other changes nothing. -/
theorem visit_eq_ok {survey next : ManifestSurvey} {path : String}
    (visited : (visit disk encoding survey path).result = .ok next) :
    (ManifestKind.ofPath? path = none ∧ next = survey) ∨
      ∃ kind, ManifestKind.ofPath? path = some kind ∧
        next = survey.took kind (disk.readText encoding path).toOption := by
  unfold visit at visited
  split at visited
  · rename_i unknown
    cases visited
    exact .inl ⟨unknown, rfl⟩
  · rename_i known
    cases visited
    refine .inr ⟨.gemfileVariant, known, ?_⟩
    -- Whatever the text of a variant, nothing is learnt from it.
    cases (disk.readText encoding path).toOption <;> rfl
  · rename_i kind _ known
    refine .inr ⟨kind, known, ?_⟩
    split at visited
    · rename_i text reads
      cases visited
      rw [reads]
      rfl
    · rename_i problem fails
      cases visited
      rw [fails]
      rfl
    · cases visited

theorem fault_of_visit {survey : ManifestSurvey} {path : String} {fault : Fault}
    (failed : (visit disk encoding survey path).result = .error fault) :
    disk.readText encoding path = .error (.fault fault) := by
  unfold visit at failed
  split at failed
  · cases failed
  · cases failed
  split at failed
  · cases failed
  · cases failed
  · rename_i fault' fails
    cases failed
    exact fails

/-! ## All paths -/

/-- The text of a path, if it is a manifest of a kind and can be read. -/
def textOf? (kind : ManifestKind) (path : String) : Option Text :=
  if ManifestKind.ofPath? path = some kind then (disk.readText encoding path).toOption else none

/-- The text of the last manifest of a kind that can be read. -/
def lastText? (kind : ManifestKind) (paths : List String) : Option Text :=
  paths.reverse.findSome? (textOf? disk encoding kind)

theorem lastText?_append (kind : ManifestKind) (paths : List String) (path : String) :
    lastText? disk encoding kind (paths ++ [path]) =
      (textOf? disk encoding kind path).or (lastText? disk encoding kind paths) := by
  rw [lastText?, List.reverse_append, List.reverse_singleton, List.singleton_append,
    List.findSome?_cons, lastText?]
  cases textOf? disk encoding kind path <;> rfl

/-- The kinds of the manifests among some paths, in order. -/
def kindsOf (paths : List String) : List ManifestKind :=
  paths.filterMap ManifestKind.ofPath?

/-- What a survey says of the paths that it has taken in.  A manifest without a text
counts towards its kind, and facts that are known already stay. -/
structure Surveys (paths : List String) (survey : ManifestSurvey) : Prop where
  count : survey.count = (kindsOf paths).length
  kinds : survey.kinds = Tally.ofKeys ((kindsOf paths).map ManifestKind.name)
  gemspec : survey.gemspec = (lastText? disk encoding .gemspec paths).map GemspecFacts.ofText
  dependencies : survey.dependencies =
    (lastText? disk encoding .gemfile paths).map GemfileFacts.ofText

variable {disk encoding} {paths : List String} {survey : ManifestSurvey}

theorem surveys_nil : Surveys disk encoding [] {} :=
  ⟨rfl, rfl, rfl, rfl⟩

namespace Surveys

/-- A path that is no manifest adds nothing. -/
theorem pass (surveys : Surveys disk encoding paths survey) {path : String}
    (unknown : ManifestKind.ofPath? path = none) :
    Surveys disk encoding (paths ++ [path]) survey := by
  have kinds : kindsOf (paths ++ [path]) = kindsOf paths := by simp [kindsOf, unknown]
  have texts (kind : ManifestKind) :
      lastText? disk encoding kind (paths ++ [path]) = lastText? disk encoding kind paths := by
    rw [lastText?_append, textOf?, unknown]
    rfl
  exact
    { count := by rw [kinds, surveys.count]
      kinds := by rw [kinds, surveys.kinds]
      gemspec := by rw [texts, surveys.gemspec]
      dependencies := by rw [texts, surveys.dependencies] }

/-- A manifest counts towards its kind, and gives its facts if it has a text. -/
theorem take (surveys : Surveys disk encoding paths survey) {path : String}
    {kind : ManifestKind} (known : ManifestKind.ofPath? path = some kind) :
    Surveys disk encoding (paths ++ [path])
      (survey.took kind (disk.readText encoding path).toOption) := by
  have kinds : kindsOf (paths ++ [path]) = kindsOf paths ++ [kind] := by simp [kindsOf, known]
  have text (other : ManifestKind) : textOf? disk encoding other path =
      if kind = other then (disk.readText encoding path).toOption else none := by
    simp only [textOf?, known, Option.some.injEq]
  constructor
  case count =>
    rw [count_took, surveys.count, kinds, List.length_append, List.length_singleton,
      Int.natCast_add, Int.natCast_one]
  case kinds =>
    rw [kinds_took, surveys.kinds, kinds, List.map_append, List.map_singleton, Tally.ofKeys,
      Tally.ofKeys, List.foldl_append, List.foldl_cons, List.foldl_nil]
  case gemspec =>
    rw [gemspec_took, surveys.gemspec, lastText?_append, text]
    split
    · rw [Option.map_or]
    · rfl
  case dependencies =>
    rw [dependencies_took, surveys.dependencies, lastText?_append, text]
    split
    · rw [Option.map_or]
    · rfl

/-- One path more. -/
theorem visit (surveys : Surveys disk encoding paths survey) {path : String}
    {next : ManifestSurvey}
    (visited : (ManifestSurvey.visit disk encoding survey path).result = .ok next) :
    Surveys disk encoding (paths ++ [path]) next := by
  rcases visit_eq_ok disk encoding visited with ⟨unknown, rfl⟩ | ⟨kind, known, rfl⟩
  · exact surveys.pass unknown
  · exact surveys.take known

theorem visitAll (surveys : Surveys disk encoding paths survey) {rest : List String}
    {last : ManifestSurvey}
    (visited : (ManifestSurvey.visitAll disk encoding survey rest).result = .ok last) :
    Surveys disk encoding (paths ++ rest) last := by
  induction rest generalizing paths survey with
  | nil =>
      cases visited
      rwa [List.append_nil]
  | cons path rest ih =>
      rw [ManifestSurvey.visitAll, Logged.bind_result] at visited
      obtain ⟨next, here, later⟩ := bind_eq_ok visited
      rw [List.append_cons]
      exact ih (surveys.visit here) later

end Surveys

/-- What a survey of paths says of them. -/
theorem surveys_of_ofPaths (surveyed : (ofPaths disk encoding paths).result = .ok survey) :
    Surveys disk encoding paths survey :=
  surveys_nil.visitAll surveyed

/-- A survey that fails does so with the fault of one of its paths. -/
theorem fault_of_ofPaths {fault : Fault}
    (failed : (ofPaths disk encoding paths).result = .error fault) :
    ∃ path ∈ paths, disk.readText encoding path = .error (.fault fault) := by
  rw [ofPaths] at failed
  generalize ({} : ManifestSurvey) = survey at failed
  induction paths generalizing survey with
  | nil => cases failed
  | cons path rest ih =>
      rw [visitAll, Logged.bind_result] at failed
      cases here : (visit disk encoding survey path).result with
      | error fault' =>
          rw [here] at failed
          cases failed
          exact ⟨path, by simp, fault_of_visit disk encoding here⟩
      | ok next =>
          rw [here] at failed
          obtain ⟨later, member, fails⟩ := ih next failed
          exact ⟨later, List.mem_cons_of_mem path member, fails⟩

/-- Paths that all can be asked for their texts have a survey. -/
theorem exists_ofPaths
    (readable : ∀ path ∈ paths, ∀ fault, disk.readText encoding path ≠ .error (.fault fault)) :
    ∃ survey, (ofPaths disk encoding paths).result = .ok survey := by
  cases surveyed : (ofPaths disk encoding paths).result with
  | ok survey => exact ⟨survey, rfl⟩
  | error fault =>
      obtain ⟨path, member, fails⟩ := fault_of_ofPaths surveyed
      exact absurd fails (readable path member fault)

end ManifestSurvey

/-! ## Kinds, by the last part of a path -/

namespace ManifestKind

variable {path : String}

theorem ofPath?_eq_gemspec_iff :
    ofPath? path = some .gemspec ↔ ".gemspec".toList <:+ (Path.basename path).toList := by
  simp only [ofPath?, List.isSuffixOf_iff_suffix]
  split
  · rename_i suffix
    exact iff_of_true rfl suffix
  · rename_i noSuffix
    simp only [noSuffix, iff_false]
    split
    · simp
    split <;> simp

theorem ofPath?_eq_gemfile_iff :
    ofPath? path = some .gemfile ↔ Path.basename path = "Gemfile" := by
  have same : (Path.basename path).toList = "Gemfile".toList ↔ Path.basename path = "Gemfile" :=
    String.toList_inj
  simp only [ofPath?, List.isSuffixOf_iff_suffix]
  split
  · rename_i suffix
    constructor
    · intro isGemfile
      cases isGemfile
    · intro isGemfile
      rw [isGemfile] at suffix
      exact absurd suffix (by decide)
  split
  · rename_i isGemfile
    simp [same.1 isGemfile]
  · rename_i other
    rw [← same]
    simp only [other, iff_false]
    split <;> simp

end ManifestKind

namespace ManifestSurvey

variable {disk : Disk} {encoding : String} {paths : List String} {survey : ManifestSurvey}

/-- A package description that can be read, with its text. -/
def GivesGemspec (disk : Disk) (encoding path : String) (text : Text) : Prop :=
  ".gemspec".toList <:+ (Path.basename path).toList ∧ disk.readText encoding path = .ok text

/-- A dependency list that can be read, with its text.  Variants of one give nothing. -/
def GivesGemfile (disk : Disk) (encoding path : String) (text : Text) : Prop :=
  Path.basename path = "Gemfile" ∧ disk.readText encoding path = .ok text

/-- Facts are those of the last path that gives a text, and there are none if no path does. -/
def FactsOfLast {α : Type} (gives : String → Text → Prop) (facts : Text → α)
    (paths : List String) : Option α → Prop
  | none => ∀ path ∈ paths, ∀ text, ¬ gives path text
  | some found => ∃ before path after text, paths = before ++ path :: after ∧ gives path text ∧
      (∀ later ∈ after, ∀ text, ¬ gives later text) ∧ found = facts text

theorem textOf?_eq_some_iff {kind : ManifestKind} {path : String} {text : Text} :
    textOf? disk encoding kind path = some text ↔
      ManifestKind.ofPath? path = some kind ∧ disk.readText encoding path = .ok text := by
  rw [textOf?]
  split
  · rename_i known
    rw [toOption_eq_some_iff]
    exact (and_iff_right known).symm
  · rename_i other
    simp [other]

theorem factsOfLast_lastText? {α : Type} {kind : ManifestKind} {gives : String → Text → Prop}
    (given : ∀ path text, textOf? disk encoding kind path = some text ↔ gives path text)
    (facts : Text → α) :
    FactsOfLast gives facts paths ((lastText? disk encoding kind paths).map facts) := by
  have absent {path : String} (none : textOf? disk encoding kind path = none) (text : Text) :
      ¬ gives path text := by
    rw [← given, none]
    simp
  cases last : lastText? disk encoding kind paths with
  | none =>
      intro path member
      exact absent (List.findSome?_eq_none_iff.1 last path (List.mem_reverse.2 member))
  | some text =>
      obtain ⟨after, path, before, whole, gives, nothing⟩ := List.findSome?_eq_some_iff.1 last
      refine ⟨before.reverse, path, after.reverse, text, ?_, (given path text).1 gives, ?_, rfl⟩
      · have reversed := congrArg List.reverse whole
        simpa using reversed
      · intro later member
        exact absent (nothing later (List.mem_reverse.1 member))

/-- Whether nothing is learnt from a path: it is no manifest, a variant, or has no text. -/
def GivesNothing (disk : Disk) (encoding path : String) : Prop :=
  ManifestKind.ofPath? path = none ∨ ManifestKind.ofPath? path = some .gemfileVariant ∨
    ∀ text, disk.readText encoding path ≠ .ok text

theorem lastText?_keeps {kind : ManifestKind} (isRead : kind ≠ .gemfileVariant)
    {later : List String} (nothing : ∀ path ∈ later, GivesNothing disk encoding path) :
    lastText? disk encoding kind (paths ++ later) = lastText? disk encoding kind paths := by
  have absent : later.reverse.findSome? (textOf? disk encoding kind) = none := by
    apply List.findSome?_eq_none_iff.2
    intro path member
    apply Option.eq_none_iff_forall_ne_some.2
    intro text gives
    obtain ⟨known, read⟩ := textOf?_eq_some_iff.1 gives
    rcases nothing path (List.mem_reverse.1 member) with unknown | isVariant | unread
    · rw [unknown] at known
      cases known
    · rw [isVariant] at known
      exact isRead (Option.some.inj known).symm
    · exact unread text read
  rw [lastText?, List.reverse_append, List.findSome?_append, absent, Option.none_or, lastText?]

/-- A survey of more paths is one of the first of them that goes on. -/
theorem exists_earlier {earlier later : List String}
    (returned : (ofPaths disk encoding (earlier ++ later)).result = .ok survey) :
    ∃ before, (ofPaths disk encoding earlier).result = .ok before := by
  rw [ofPaths] at returned ⊢
  generalize ({} : ManifestSurvey) = start at returned ⊢
  induction earlier generalizing start with
  | nil => exact ⟨start, rfl⟩
  | cons path rest ih =>
      rw [List.cons_append, visitAll, Logged.bind_result] at returned
      obtain ⟨next, here, returned⟩ := bind_eq_ok returned
      obtain ⟨before, surveyed⟩ := ih next returned
      refine ⟨before, ?_⟩
      rw [visitAll, Logged.bind_result, here]
      exact surveyed

end ManifestSurvey

open ManifestSurvey in
/-- **What a survey of manifests says.**  The count is that of the paths of a recognised kind,
and the numbers of the kinds, each where it was first seen, add up to it.  The facts are
those of the last package description and of the last dependency list that could be read; so
paths behind them that are no manifests, variants, or cannot be read take nothing away. -/
theorem survey_exact {disk : Disk} {encoding : String} {paths : List String}
    {survey : ManifestSurvey} (returned : (ofPaths disk encoding paths).result = .ok survey) :
    survey.count = paths.countP (fun path => (ManifestKind.ofPath? path).isSome) ∧
    survey.count = survey.kinds.total ∧
    (let names := paths.filterMap fun path => (ManifestKind.ofPath? path).map ManifestKind.name
     survey.kinds = names.eraseDups.map fun name => (name, (names.count name : Int))) ∧
    FactsOfLast (GivesGemspec disk encoding) GemspecFacts.ofText paths survey.gemspec ∧
    FactsOfLast (GivesGemfile disk encoding) GemfileFacts.ofText paths survey.dependencies ∧
    ∀ earlier later, paths = earlier ++ later →
      (∀ path ∈ later, GivesNothing disk encoding path) →
      ∃ before, (ofPaths disk encoding earlier).result = .ok before ∧
        survey.gemspec = before.gemspec ∧ survey.dependencies = before.dependencies := by
  have surveys := surveys_of_ofPaths returned
  have names : paths.filterMap (fun path => (ManifestKind.ofPath? path).map ManifestKind.name) =
      (kindsOf paths).map ManifestKind.name := by
    rw [kindsOf, List.map_filterMap]
  refine ⟨?count, ?total, ?kinds, ?gemspec, ?dependencies, ?kept⟩
  case count =>
    rw [surveys.count, kindsOf, List.length_filterMap_eq_countP]
  case total =>
    rw [surveys.count, surveys.kinds, Tally.total_ofKeys, List.length_map]
  case kinds =>
    simp only [names]
    rw [surveys.kinds, Tally.ofKeys_eq]
  case gemspec =>
    rw [surveys.gemspec]
    apply factsOfLast_lastText?
    intro path text
    rw [textOf?_eq_some_iff, ManifestKind.ofPath?_eq_gemspec_iff, GivesGemspec]
  case dependencies =>
    rw [surveys.dependencies]
    apply factsOfLast_lastText?
    intro path text
    rw [textOf?_eq_some_iff, ManifestKind.ofPath?_eq_gemfile_iff, GivesGemfile]
  case kept =>
    rintro earlier later rfl nothing
    obtain ⟨before, surveyed⟩ := exists_earlier returned
    have earlierSurveys := surveys_of_ofPaths surveyed
    refine ⟨before, surveyed, ?_, ?_⟩
    · rw [surveys.gemspec, earlierSurveys.gemspec, lastText?_keeps (by simp) nothing]
    · rw [surveys.dependencies, earlierSurveys.dependencies, lastText?_keeps (by simp) nothing]

/-- A package description and a dependency list, with a variant beside it and a folder of the
same name below. -/
def manifestProject : Disk where
  root := .folder
    [("a.gemspec", .file "s.version".toUTF8 false), ("Gemfile", .file "gem 'a'\n".toUTF8 false),
      ("Gemfile.lock", .file "gem 'b'\n".toUTF8 false), ("old", .folder [("Gemfile", .folder [])])]
  currentFolder := "/"
  home := "/"

def manifestPaths : List String :=
  ["/a.gemspec", "/README", "/Gemfile", "/lost.gemspec", "/Gemfile.lock", "/old/Gemfile"]

theorem survey_exact_manifestProject :
    ∃ survey,
      (ManifestSurvey.ofPaths manifestProject "utf-8" manifestPaths).result = .ok survey ∧
      survey.count = 5 ∧
      survey.kinds = [("gemspec", 2), ("gemfile", 2), ("gemfile_variant", 1)] ∧
      ManifestSurvey.FactsOfLast (ManifestSurvey.GivesGemfile manifestProject "utf-8")
        GemfileFacts.ofText manifestPaths survey.dependencies ∧
      (survey.gemspec.map (·.hasVersion), survey.dependencies.map (·.totalGems)) =
        (some true, some 1) := by
  have surveyed : (ManifestSurvey.ofPaths manifestProject "utf-8" manifestPaths).result.toOption.map
      (fun survey => (survey.gemspec.map (·.hasVersion), survey.dependencies.map (·.totalGems))) =
        some (some true, some 1) := by decide +kernel
  cases returned : (ManifestSurvey.ofPaths manifestProject "utf-8" manifestPaths).result with
  | error fault =>
      rw [returned] at surveyed
      cases surveyed
  | ok survey =>
      rw [returned] at surveyed
      obtain ⟨count, -, kinds, -, dependencies, -⟩ := survey_exact returned
      refine ⟨survey, rfl, ?_, ?_, dependencies, Option.some.inj surveyed⟩
      · rw [count]
        decide +kernel
      · rw [kinds]
        decide +kernel

end LineCensus
