/-
# Proofs.Layers -- every setting comes from the highest layer that sets it

Settings are loaded from five layers: what the caller sets, variables, a named file, the file
of the project and the file in the home folder.  Here each is what it sets for a key, read
off its own source (`callerValue?`, `variableValue?`, `fileLayer?`), and `load_layered` says
that a setting has the value of the first of them that has one, and its default if none has.

The layers are merged as tables.  That this comes to the same thing needs every key once in
each of them: in files because a document is read so (`Toml.read_keyedOnce`), in variables
because every setting has one, in what a caller sets because it is given so.

* `SettingsFile.load_eq_ok`, `Variable.settings_eq_ok`, `Settings.get?_overrideLayer`: what
  each source sets.
* `Settings.merge_eq_ok`: what is found in the merged layers.
* `Settings.ofMerged_eq_ok`: merged settings that pass have the values that were merged.
-/
import LineCensus.Proofs.Documents
import LineCensus.Proofs.Loading

set_option autoImplicit false

namespace LineCensus

/-! ## What the sources set -/

/-- What a settings file sets, if it can be read: the table of its section, or all of its
keys if it has no such table. -/
def fileLayer? (disk : Disk) (path : String) : Option Table := do
  let content ← (disk.content path).toOption
  let text ← Utf8.decodeStrict? content.data.toList
  let document ← (Toml.read text).toOption
  return match document.get? "source-metrics" with
    | some (.table inner) => inner
    | _ => document

/-- A file that need not be there sets nothing if it is not. -/
def optionalLayer? (disk : Disk) (path : String) : Option Table :=
  match disk.isThere path with
  | .ok true => fileLayer? disk path
  | .ok false => some []
  | .error _ => none

/-- A file that is named must be there. -/
def requiredLayer? (disk : Disk) (path : String) : Option Table :=
  match disk.isThere path with
  | .ok true => fileLayer? disk path
  | _ => none

/-- The file that is named, if one is. -/
def namedLayer? (disk : Disk) : Option String → Option Table
  | none => some []
  | some path => requiredLayer? disk (Path.tidy path)

/-- What the variables of settings set: the text of the variable of a key, read by the kind of
the setting. -/
def variableValue? (environment : List (String × String)) (kinds : List (String × Variable.Kind))
    (key : String) : Option Value := do
  let kind ← kinds.lookup key
  let text ← environment.lookup (Variable.nameOf key)
  (Variable.read kind text).toOption

/-- What a caller sets: what is given and not null.  The switches are no settings of their
own.  One that is on sets the verbosity, whatever verbosity is given, and `quiet` comes before
`verbose`. -/
def callerValue? (overrides : Table) (key : String) : Option Value :=
  let given (key : String) : Option Value :=
    (overrides.get? key).filter fun value => !Settings.isNull value
  let isOn (key : String) : Bool := (overrides.get? key).any Value.isTruthy
  if key = "verbosity" then
    if isOn "quiet" then some (.text "quiet")
    else if isOn "verbose" then some (.text "verbose")
    else given "verbosity"
  else if key = "quiet" ∨ key = "verbose" then none
  else given key

/-! ## Files -/

namespace SettingsFile

variable {disk : Disk} {path : String} {layer : Table}

/-- The settings of a document are a table that has every key once. -/
theorem layer_keyedOnce {document : Table} (keyed : document.KeyedOnce) :
    (SettingsFile.layer document).KeyedOnce := by
  unfold SettingsFile.layer
  split
  · rename_i inner found
    exact keyed.of_get? found
  · exact keyed

theorem load_eq_ok (loads : load disk path = .ok layer) :
    fileLayer? disk path = some layer ∧ (Table.keys layer).Nodup := by
  unfold load at loads
  split at loads
  · cases loads
  rename_i content held
  split at loads
  · cases loads
  rename_i text decoded
  split at loads
  case h_1 document read =>
    cases loads
    refine ⟨?_, (layer_keyedOnce (Toml.read_keyedOnce read)).nodup⟩
    simp only [fileLayer?, held, decoded, read, Except.toOption, Option.bind_eq_bind,
      Option.bind_some]
    rfl
  all_goals cases loads

/-- Loading what is there, and something else for what is not. -/
theorem ifThere_eq_ok {absent : Except Fault Table}
    (loads : (do if ← (disk.isThere path).mapError Fault.disk then load disk path else absent) =
      .ok layer) :
    (disk.isThere path = .ok true ∧ load disk path = .ok layer) ∨
      (disk.isThere path = .ok false ∧ absent = .ok layer) := by
  cases asked : disk.isThere path with
  | error problem =>
      rw [asked] at loads
      cases loads
  | ok isThere =>
      rw [asked] at loads
      cases isThere with
      | true => exact .inl ⟨rfl, loads⟩
      | false => exact .inr ⟨rfl, loads⟩

theorem loadIfThere_eq_ok (loads : loadIfThere disk path = .ok layer) :
    optionalLayer? disk path = some layer ∧ (Table.keys layer).Nodup := by
  rcases ifThere_eq_ok loads with ⟨isThere, loads⟩ | ⟨isAbsent, none⟩
  · rw [optionalLayer?, isThere]
    exact load_eq_ok loads
  · cases none
    rw [optionalLayer?, isAbsent]
    exact ⟨rfl, .nil⟩

theorem loadNamed_eq_ok (loads : loadNamed disk path = .ok layer) :
    requiredLayer? disk path = some layer ∧ (Table.keys layer).Nodup := by
  rcases ifThere_eq_ok loads with ⟨isThere, loads⟩ | ⟨isAbsent, fails⟩
  · rw [requiredLayer?, isThere]
    exact load_eq_ok loads
  · cases fails

/-- The settings of the file that is named, if one is. -/
def loadExplicit (disk : Disk) : Option String → Except Fault Table
  | some path => loadNamed disk (Path.tidy path)
  | none => .ok []

theorem loadExplicit_eq_ok {named : Option String} (loads : loadExplicit disk named = .ok layer) :
    namedLayer? disk named = some layer ∧ (Table.keys layer).Nodup := by
  cases named with
  | none =>
      cases loads
      exact ⟨rfl, .nil⟩
  | some path => exact loadNamed_eq_ok loads

end SettingsFile

/-! ## Variables -/

namespace Variable

variable {environment : List (String × String)}

theorem variableValue?_cons (k : String) (kind : Kind) (rest : List (String × Kind))
    (key : String) :
    variableValue? environment ((k, kind) :: rest) key =
      if key = k then
        (environment.lookup (nameOf k)).bind fun text => (read kind text).toOption
      else variableValue? environment rest key := by
  unfold variableValue?
  rw [List.lookup_cons]
  by_cases same : key = k
  · subst same
    rw [if_pos rfl, beq_self_eq_true]
    rfl
  · rw [if_neg same, beq_eq_false_iff_ne.2 same]

/-- What is set by variables that can all be read. -/
theorem settings_eq_ok {kinds : List (String × Kind)} {table : Table}
    (once : (kinds.map (·.1)).Nodup) (reads : settings environment kinds = .ok table) :
    (Table.keys table).Sublist (kinds.map (·.1)) ∧
      ∀ key, table.get? key = variableValue? environment kinds key := by
  induction kinds generalizing table with
  | nil =>
      cases reads
      exact ⟨.slnil, fun key => rfl⟩
  | cons entry rest ih =>
      obtain ⟨k, kind⟩ := entry
      obtain ⟨fresh, onceRest⟩ := List.nodup_cons.1 once
      unfold settings at reads
      split at reads
      · rename_i absent
        obtain ⟨sublist, values⟩ := ih onceRest reads
        refine ⟨sublist.cons _, fun key => ?_⟩
        rw [variableValue?_cons]
        by_cases same : key = k
        · subst same
          have unset := Table.get?_eq_none_iff.2 fun member => fresh (sublist.subset member)
          rw [if_pos rfl, absent, unset]
          rfl
        · rw [if_neg same, values]
      rename_i text present
      split at reads
      · cases reads
      rename_i value readable
      cases later : settings environment rest with
      | error error =>
          rw [later] at reads
          cases reads
      | ok tableRest =>
          rw [later] at reads
          cases reads
          obtain ⟨sublist, values⟩ := ih onceRest later
          refine ⟨sublist.cons_cons _, fun key => ?_⟩
          rw [variableValue?_cons, Table.get?_cons]
          by_cases same : key = k
          · rw [if_pos same, if_pos same, present, Option.bind_some, readable]
            rfl
          · rw [if_neg same, if_neg same, values]

/-- Every variable that is there can be read, or nothing is set. -/
theorem isSome_of_settings {kinds : List (String × Kind)} {table : Table}
    (reads : settings environment kinds = .ok table) {key : String}
    (setting : (kinds.lookup key).isSome = true)
    (present : (environment.lookup (nameOf key)).isSome = true) :
    (variableValue? environment kinds key).isSome = true := by
  induction kinds generalizing table with
  | nil => cases setting
  | cons entry rest ih =>
      obtain ⟨k, kind⟩ := entry
      rw [variableValue?_cons]
      unfold settings at reads
      by_cases same : key = k
      · subst same
        obtain ⟨text, there⟩ := Option.isSome_iff_exists.1 present
        rw [there] at reads
        simp only at reads
        split at reads
        · cases reads
        · rename_i value readable
          rw [if_pos rfl, there, Option.bind_some, readable]
          rfl
      rw [if_neg same]
      rw [List.lookup_cons, beq_eq_false_iff_ne.2 same] at setting
      split at reads
      · exact ih reads setting
      split at reads
      · cases reads
      cases later : settings environment rest with
      | error error =>
          rw [later] at reads
          cases reads
      | ok tableRest => exact ih later setting

/-- Every setting has one variable. -/
theorem nodup_kinds : (kinds.map (·.1)).Nodup := by decide

theorem isSome_lookup_kinds : ∀ key ∈ Draft.keys, (kinds.lookup key).isSome = true := by decide

theorem all_eq_ok {table : Table} (reads : all environment = .ok table) :
    (Table.keys table).Nodup ∧
      (∀ key, table.get? key = variableValue? environment kinds key) ∧
      ∀ key ∈ Draft.keys, (environment.lookup (nameOf key)).isSome = true →
        (variableValue? environment kinds key).isSome = true := by
  obtain ⟨sublist, values⟩ := settings_eq_ok nodup_kinds reads
  exact ⟨nodup_kinds.sublist sublist, values,
    fun key setting => isSome_of_settings reads (isSome_lookup_kinds key setting)⟩

end Variable

/-! ## The caller -/

namespace Settings

theorem get?_resolveSwitch (switch : String) (verbosity : Verbosity) (overrides : Table)
    (key : String) :
    (resolveSwitch switch verbosity overrides).get? key =
      if key = verbosityKey ∧ (overrides.get? switch).any Value.isTruthy = true then
        some (.text verbosity.name)
      else if key = switch then none
      else overrides.get? key := by
  unfold resolveSwitch
  cases given : overrides.get? switch with
  | none => simp [Table.get?_remove]
  | some value =>
      simp only [Option.any_some]
      split
      · rename_i on
        rw [Table.get?_set, Table.get?_remove]
        simp [on]
      · rename_i off
        rw [Table.get?_remove]
        simp [off]

theorem nodup_resolveSwitch {overrides : Table} (once : (Table.keys overrides).Nodup)
    (switch : String) (verbosity : Verbosity) :
    (Table.keys (resolveSwitch switch verbosity overrides)).Nodup := by
  have rest : (Table.keys (overrides.filter (·.1 != switch))).Nodup :=
    once.sublist (List.filter_sublist.map _)
  unfold resolveSwitch
  split
  · split
    · exact Table.nodup_set rest _ _
    · exact rest
  · exact rest

/-- What a caller sets, read off what the caller gives. -/
theorem get?_overrideLayer {overrides : Table} (once : (Table.keys overrides).Nodup)
    (key : String) : (overrideLayer overrides).get? key = callerValue? overrides key := by
  have quiet : quietKey ≠ verbosityKey := by decide
  have verbose : verboseKey ≠ verbosityKey := by decide
  have apart : quietKey ≠ verboseKey := by decide
  have onceResolved := nodup_resolveSwitch (nodup_resolveSwitch once verboseKey .verbose)
    quietKey .quiet
  rw [overrideLayer, Table.get?_filterValues onceResolved fun value => !isNull value,
    get?_resolveSwitch, get?_resolveSwitch, get?_resolveSwitch]
  simp only [quiet, apart, false_and, if_false]
  simp only [callerValue?, verbosityKey, quietKey, verboseKey]
  by_cases named : key = "verbosity"
  · -- The switches decide before the verbosity that is given.
    subst named
    by_cases isQuiet : (overrides.get? "quiet").any Value.isTruthy = true
    · simp [isQuiet, isNull, Verbosity.name]
    by_cases isVerbose : (overrides.get? "verbose").any Value.isTruthy = true
    · simp [isQuiet, isVerbose, isNull, Verbosity.name]
    · simp [isQuiet, isVerbose]
  · simp only [named, false_and, if_false]
    by_cases isSwitch : key = "quiet" ∨ key = "verbose"
    · rcases isSwitch with rfl | rfl <;> simp
    · have noSwitch := not_or.1 isSwitch
      simp [noSwitch.1, noSwitch.2]

theorem nodup_overrideLayer {overrides : Table} (once : (Table.keys overrides).Nodup) :
    (Table.keys (overrideLayer overrides)).Nodup :=
  (nodup_resolveSwitch (nodup_resolveSwitch once verboseKey .verbose) quietKey .quiet).sublist
    (List.filter_sublist.map _)

end Settings

/-! ## Checked settings -/

/-- The values of a draft by their keys. -/
def Draft.entries (draft : Draft) : Table :=
  [("language", draft.language), ("largest_files_limit", draft.largestFilesLimit),
    ("workers", draft.workers), ("parallel_threshold", draft.parallelThreshold),
    ("encoding", draft.encoding), ("include_manifests", draft.includeManifests),
    ("exclude_patterns", draft.excludePatterns), ("verbosity", draft.verbosity)]

/-- The values of settings by their keys. -/
def Settings.entries (settings : Settings) : Table :=
  [("language", settings.language), ("largest_files_limit", settings.largestFilesLimit),
    ("workers", settings.workers), ("parallel_threshold", settings.parallelThreshold),
    ("encoding", .text settings.encoding), ("include_manifests", settings.includeManifests),
    ("exclude_patterns", settings.excludePatterns), ("verbosity", .text settings.verbosity.name)]

namespace Draft

/-- A draft that passes keeps its values. -/
theorem entries_of_check {draft : Draft} {settings : Settings}
    (checked : draft.check = .ok settings) : settings.entries = draft.entries := by
  obtain ⟨encoding, verbosity, same⟩ := check_eq_ok checked
  rw [same, Settings.entries, entries, (checkEncoding_eq_ok encoding).1,
    checkVerbosity_eq_ok verbosity]

theorem keys_entries (draft : Draft) : Table.keys draft.entries = keys := rfl

/-- A draft has what a table has for its keys, and the defaults otherwise. -/
theorem get?_ofTable (merged : Table) {key : String} (known : key ∈ keys) :
    (ofTable merged).entries.get? key = (merged.get? key).or (({} : Draft).entries.get? key) := by
  have picked (given : Option Value) (otherwise : Value) :
      some (given.getD otherwise) = given.or (some otherwise) := by
    cases given <;> rfl
  simp only [keys, List.mem_cons, List.not_mem_nil, or_false] at known
  rcases known with rfl | rfl | rfl | rfl | rfl | rfl | rfl | rfl <;> exact picked _ _

end Draft

namespace Settings

theorem entries_default : ({} : Settings).entries = ({} : Draft).entries := rfl

/-- Merged settings that pass have only known keys, and are a draft that is accepted. -/
theorem check_of_ofMerged {merged : Table} {settings : Settings}
    (checked : ofMerged merged = .ok settings) :
    unknownKeys merged = [] ∧ (Draft.ofTable merged).check = .ok settings := by
  have known : unknownKeys merged = [] := by
    by_contra unknown
    rw [ofMerged, if_pos (by simpa using unknown)] at checked
    cases checked
  refine ⟨known, ?_⟩
  rw [ofMerged_of_known known] at checked
  split at checked
  · cases checked
  · exact checked

/-- Merged settings that pass have only known keys, and their values. -/
theorem ofMerged_eq_ok {merged : Table} {settings : Settings}
    (checked : ofMerged merged = .ok settings) :
    (∀ key ∈ Table.keys merged, key ∈ Draft.keys) ∧
      ∀ key, settings.entries.get? key =
        (merged.get? key).or (({} : Settings).entries.get? key) := by
  obtain ⟨known, accepted⟩ := check_of_ofMerged checked
  have keysKnown : ∀ key ∈ Table.keys merged, key ∈ Draft.keys := by
    intro key member
    cases found : merged.get? key with
    | none => exact absurd member (Table.get?_eq_none_iff.1 found)
    | some value => exact mem_keys known found
  refine ⟨keysKnown, fun key => ?_⟩
  rw [Draft.entries_of_check accepted, entries_default]
  by_cases isSetting : key ∈ Draft.keys
  · exact Draft.get?_ofTable merged isSetting
  · have foreign (draft : Draft) : draft.entries.get? key = none :=
      Table.get?_eq_none_iff.2 fun member => isSetting (draft.keys_entries ▸ member)
    have unset : merged.get? key = none :=
      Table.get?_eq_none_iff.2 fun member => isSetting (keysKnown key member)
    rw [foreign, foreign, unset]
    rfl

end Settings

/-! ## Layers -/

/-- The layers of settings, the highest first, each as what it sets for a key. -/
def settingLayers (environment : List (String × String))
    (overrides explicit project global : Table) : List (String → Option Value) :=
  [callerValue? overrides, variableValue? environment Variable.kinds, explicit.get?, project.get?,
    global.get?]

/-- The sources that settings are loaded from can all be read. -/
structure SettingSources (disk : Disk) (environment : List (String × String))
    (named : Option String) (explicit project global : Table) : Prop where
  inGlobal : optionalLayer? disk (SettingsFile.globalPath disk) = some global
  inProject : optionalLayer? disk (SettingsFile.projectPath disk) = some project
  inExplicit : namedLayer? disk named = some explicit
  /-- A variable that is there sets its setting. -/
  inEnvironment : ∀ key ∈ Draft.keys, (environment.lookup (Variable.nameOf key)).isSome = true →
    (variableValue? environment Variable.kinds key).isSome = true

theorem Settings.merge_eq (disk : Disk) (environment : List (String × String))
    (named : Option String) (overrides : Table) :
    merge disk environment named overrides = do
      let global ← SettingsFile.loadIfThere disk (SettingsFile.globalPath disk)
      let project ← SettingsFile.loadIfThere disk (SettingsFile.projectPath disk)
      let explicit ← SettingsFile.loadExplicit disk named
      let fromEnvironment ← (Variable.all environment).mapError .reported
      return [global, project, explicit, fromEnvironment, overrideLayer overrides].foldl
        Table.merge [] := by
  cases named <;> rfl

/-- What is merged are the layers. -/
theorem Settings.merge_eq_ok {disk : Disk} {environment : List (String × String)}
    {named : Option String} {overrides merged : Table} (once : (Table.keys overrides).Nodup)
    (merges : merge disk environment named overrides = .ok merged) :
    ∃ explicit project global, SettingSources disk environment named explicit project global ∧
      ∀ key, merged.get? key =
        (settingLayers environment overrides explicit project global).findSome? (· key) := by
  rw [merge_eq] at merges
  obtain ⟨global, globalLoads, merges⟩ := bind_eq_ok merges
  obtain ⟨project, projectLoads, merges⟩ := bind_eq_ok merges
  obtain ⟨explicit, explicitLoads, merges⟩ := bind_eq_ok merges
  obtain ⟨fromEnvironment, read, merges⟩ := bind_eq_ok merges
  cases merges
  obtain ⟨inGlobal, globalOnce⟩ := SettingsFile.loadIfThere_eq_ok globalLoads
  obtain ⟨inProject, projectOnce⟩ := SettingsFile.loadIfThere_eq_ok projectLoads
  obtain ⟨inExplicit, explicitOnce⟩ := SettingsFile.loadExplicit_eq_ok explicitLoads
  have readAll : Variable.all environment = .ok fromEnvironment := by
    cases all : Variable.all environment with
    | error error =>
        rw [all] at read
        cases read
    | ok table =>
        rw [all] at read
        exact congrArg Except.ok (Except.ok.inj read)
  obtain ⟨environmentOnce, values, inEnvironment⟩ := Variable.all_eq_ok readAll
  refine ⟨explicit, project, global, ⟨inGlobal, inProject, inExplicit, inEnvironment⟩,
    fun key => ?_⟩
  have onces : ∀ layer ∈ [global, project, explicit, fromEnvironment, overrideLayer overrides],
      (Table.keys layer).Nodup := by
    simp only [List.forall_mem_cons]
    exact ⟨globalOnce, projectOnce, explicitOnce, environmentOnce, nodup_overrideLayer once,
      by simp⟩
  rw [Table.get?_layers onces, Table.get?_nil, Option.or_none]
  simp only [List.reverse_cons, List.reverse_nil, List.nil_append, List.cons_append, settingLayers,
    List.findSome?_cons, List.findSome?_nil, get?_overrideLayer once, values]

/-- Settings that come from these layers: no layer sets a key that is no setting, and each
setting has the value of the first layer that sets it, or its default. -/
structure Settings.Layered (settings : Settings) (layers : List (String → Option Value)) :
    Prop where
  known : ∀ layer ∈ layers, ∀ key, (layer key).isSome = true → key ∈ Draft.keys
  values : ∀ key, settings.entries.get? key =
    (layers.findSome? (· key)).or (({} : Settings).entries.get? key)

/-- **Every setting comes from the highest layer that sets it.**  When loading succeeds, all
sources can be read, no layer sets a key that is no setting, and each setting has the value
of the first layer that sets it, from the caller down to the file in the home folder, or its
default. -/
theorem load_layered {disk : Disk} {environment : List (String × String)} {named : Option String}
    {overrides : Table} {settings : Settings} (once : (Table.keys overrides).Nodup)
    (loaded : Settings.load disk environment named overrides = .ok settings) :
    ∃ explicit project global, SettingSources disk environment named explicit project global ∧
      settings.Layered (settingLayers environment overrides explicit project global) := by
  rw [Settings.load] at loaded
  obtain ⟨merged, merges, checked⟩ := bind_eq_ok loaded
  obtain ⟨explicit, project, global, sources, values⟩ := Settings.merge_eq_ok once merges
  obtain ⟨known, entries⟩ := Settings.ofMerged_eq_ok checked
  refine ⟨explicit, project, global, sources, fun layer member key sets => ?known,
    fun key => ?values⟩
  case known =>
    have found : (merged.get? key).isSome = true := by
      rw [values]
      exact List.findSome?_isSome_iff.2 ⟨layer, member, sets⟩
    by_contra foreign
    rw [Table.get?_eq_none_iff.2 fun present => foreign (known key present)] at found
    cases found
  case values => rw [entries, values]

/-- The octets of a text of ASCII characters. -/
def asciiOctets (text : String) : ByteArray :=
  ⟨(text.toList.map fun c => UInt8.ofNat c.toNat).toArray⟩

/-- A disk with settings in the home folder and, in a section, in the project. -/
def layeredDisk : Disk where
  root := .folder
    [("home", .folder
      [(".source-metrics.toml", .file (asciiOctets "workers = 2\nlanguage = 'r'\n") false)]),
    ("source-metrics.toml", .file (asciiOctets "[source-metrics]\nworkers = 3\n") false)]
  currentFolder := "/"
  home := "/home"

/-- A caller whose verbosity is overruled by a switch, and whose null sets nothing. -/
def quietCaller : Table :=
  [("verbosity", .text "verbose"), ("quiet", .flag true), ("language", .null)]

/-- The variable wins over both files, and the switch over the verbosity that is given. -/
theorem load_layered_layeredDisk :
    (Table.keys quietCaller).Nodup ∧ ∃ settings,
      Settings.load layeredDisk [("SOURCE_METRICS_WORKERS", "4")] none quietCaller =
        .ok settings ∧
      settings.verbosity = .quiet ∧ settings.workers.compareWhole? 4 = some (some .eq) ∧
      ∃ explicit project global,
        SettingSources layeredDisk [("SOURCE_METRICS_WORKERS", "4")] none explicit project
          global ∧
        settings.Layered (settingLayers [("SOURCE_METRICS_WORKERS", "4")] quietCaller explicit
          project global) := by
  have once : (Table.keys quietCaller).Nodup := by decide
  have values : (match Settings.load layeredDisk [("SOURCE_METRICS_WORKERS", "4")] none
      quietCaller with
    | .ok settings =>
        decide (settings.verbosity = .quiet) &&
          settings.workers.compareWhole? 4 == some (some .eq)
    | .error _ => false) = true := by decide +kernel
  cases loaded : Settings.load layeredDisk [("SOURCE_METRICS_WORKERS", "4")] none quietCaller with
  | error fault =>
      rw [loaded] at values
      cases values
  | ok settings =>
      rw [loaded, Bool.and_eq_true, decide_eq_true_eq, beq_iff_eq] at values
      exact ⟨once, settings, rfl, values.1, values.2, load_layered once loaded⟩

end LineCensus
