/-
# Proofs.Outlets -- what the set-ups of a journal leave behind

A set-up looks at its verbosity and opens its file before it changes anything, so it does one of
two things (`Journal.setUp_cases`): it leaves the journal as it was, or it puts its own level and
its own outlets in the place of those there were.  `Journal.IsSetUpBy` says what these are in
terms of what the set-up was given, and `Journal.CanOpen` which files do not make it fail.

`Journal.LeftBy` says the same about a history.  An action that is no set-up and a set-up that
fails keep what was left (`LeftBy.effect`), so what is left in the end is left by the last set-up
that did not fail (`LeftBy.run`), whatever outlets there were at the beginning.
-/
import LineCensus.Proofs.Checking
import LineCensus.Proofs.Delivery

set_option autoImplicit false

namespace LineCensus

theorem Verbosity.ofName?_name (v : Verbosity) : ofName? v.name = some v := by
  cases v <;> decide

def Outlet.isFile : Outlet → Bool
  | .screen => false
  | .file _ => true

namespace Journal

/-- The levels of the verbosities, by their names. -/
def levels : List (String × Int) :=
  [("quiet", 40), ("normal", 30), ("verbose", 10)]

/-- What a set-up with these values leaves in a journal.  A path is absolute, from the current
folder. -/
structure IsSetUpBy (folder : String) (verbosity file : Value) (journal : Journal) : Prop where
  level : ∃ name, verbosity = .text name ∧ levels.lookup name = some journal.level
  screens : journal.outlets.count .screen = 1
  files : journal.outlets.countP Outlet.isFile = if file.isTruthy then 1 else 0
  path : ∀ path, .file path ∈ journal.outlets →
    ∃ given, file = .text given ∧ given ≠ "" ∧ path = Path.absolute folder given

/-- The values of which a set-up can open the file: those that count as absent, and the paths to
a file that is there, or that is only missing in its folder. -/
inductive CanOpen (disk : Disk) : Value → Prop where
  | absent {file : Value} (falsy : file.isTruthy = false) : CanOpen disk file
  | there {given : String} {content : ByteArray} (unempty : given ≠ "")
      (plain : Disk.hasNul given = false)
      (found : disk.content (Path.absolute disk.currentFolder given) = .ok content) :
      CanOpen disk (.text given)
  | made {given : String} {folder : Node} (unempty : given ≠ "")
      (plain : Disk.hasNul given = false)
      (missing : disk.find (Path.absolute disk.currentFolder given) = .error .missing)
      (above : disk.find (Path.dirname (Path.absolute disk.currentFolder given)) = .ok folder) :
      CanOpen disk (.text given)

/-! ## What a set-up looks at -/

theorem verbosityOf_eq_ok_iff {verbosity : Value} {v : Verbosity} :
    verbosityOf verbosity = .ok v ↔ verbosity = .text v.name := by
  constructor
  · intro known
    cases verbosity with
    | text name =>
        simp only [verbosityOf] at known
        cases named : Verbosity.ofName? name with
        | none =>
            rw [named] at known
            cases known
        | some found =>
            rw [named] at known
            cases known
            rw [Verbosity.name_of_ofName? named]
    | _ => cases known
  · rintro rfl
    simp only [verbosityOf, Verbosity.ofName?_name]

theorem lookup_levels (v : Verbosity) : levels.lookup v.name = some v.level := by
  cases v <;> rfl

theorem exists_verbosity_of_mem_levels {name : String} {level : Int}
    (listed : (name, level) ∈ levels) : ∃ v : Verbosity, name = v.name := by
  simp only [levels, List.mem_cons, Prod.mk.injEq, List.not_mem_nil, or_false] at listed
  rcases listed with ⟨rfl, -⟩ | ⟨rfl, -⟩ | ⟨rfl, -⟩
  · exact ⟨.quiet, rfl⟩
  · exact ⟨.normal, rfl⟩
  · exact ⟨.verbose, rfl⟩

theorem isOk_verbosityOf_iff {verbosity : Value} :
    (verbosityOf verbosity).isOk = true ↔
      ∃ name level, verbosity = .text name ∧ (name, level) ∈ levels := by
  constructor
  · intro known
    cases looked : verbosityOf verbosity with
    | error fault =>
        rw [looked] at known
        cases known
    | ok v => exact ⟨v.name, v.level, verbosityOf_eq_ok_iff.1 looked, by cases v <;> decide⟩
  · rintro ⟨name, level, rfl, listed⟩
    obtain ⟨v, rfl⟩ := exists_verbosity_of_mem_levels listed
    rw [verbosityOf_eq_ok_iff.2 rfl]
    rfl

variable {disk : Disk} {verbosity file : Value} {file? : Option String} {v : Verbosity}

/-- What the file of a value is, if it names one. -/
theorem filePath?_cases (named : filePath? disk file = .ok file?) :
    (file.isTruthy = false ∧ file? = none) ∨
      ∃ given, file = .text given ∧ given ≠ "" ∧ Disk.hasNul given = false ∧
        file? = some (Path.absolute disk.currentFolder given) := by
  unfold filePath? at named
  cases truthy : file.isTruthy with
  | false =>
      rw [truthy] at named
      cases named
      exact .inl ⟨rfl, rfl⟩
  | true =>
      rw [truthy] at named
      cases file with
      | text given =>
          have unempty : given ≠ "" := by
            rintro rfl
            cases truthy
          cases nul : Disk.hasNul given with
          | true =>
              simp only [nul] at named
              cases named
          | false =>
              simp only [nul] at named
              cases named
              exact .inr ⟨given, rfl, unempty, nul, rfl⟩
      | _ => cases named

theorem filePath?_text {given : String} (unempty : given ≠ "")
    (plain : Disk.hasNul given = false) :
    filePath? disk (.text given) = .ok (some (Path.absolute disk.currentFolder given)) := by
  have truthy : (Value.text given).isTruthy = true := by simpa [Value.isTruthy] using unempty
  simp [filePath?, truthy, plain]

/-- A file can be opened that is there, or that is only missing in its folder. -/
theorem isOk_opened_iff {path : String} :
    (opened disk path).isOk = true ↔
      (∃ content, disk.content path = .ok content) ∨
        disk.find path = .error .missing ∧ ∃ folder, disk.find (Path.dirname path) = .ok folder := by
  unfold opened Disk.content
  cases disk.find path with
  | ok node => cases node <;> simp [Node.isFile, Except.isOk, Except.toBool]
  | error problem =>
      cases problem with
      | missing => cases disk.find (Path.dirname path) <;> simp [Except.isOk, Except.toBool]
      | _ => simp [Except.isOk, Except.toBool]

theorem canOpen_iff : CanOpen disk file ↔
    ∃ file?, filePath? disk file = .ok file? ∧ (openedIf disk file?).isOk = true := by
  constructor
  · intro can
    cases can with
    | absent falsy => exact ⟨none, by simp [filePath?, falsy], rfl⟩
    | there unempty plain found =>
        refine ⟨_, filePath?_text unempty plain, ?_⟩
        rw [openedIf, isOk_opened_iff]
        exact .inl ⟨_, found⟩
    | made unempty plain missing above =>
        refine ⟨_, filePath?_text unempty plain, ?_⟩
        rw [openedIf, isOk_opened_iff]
        exact .inr ⟨missing, _, above⟩
  · rintro ⟨file?, named, opens⟩
    rcases filePath?_cases named with ⟨falsy, -⟩ | ⟨given, rfl, unempty, plain, rfl⟩
    · exact .absent falsy
    · rw [openedIf, isOk_opened_iff] at opens
      rcases opens with ⟨content, found⟩ | ⟨missing, folder, above⟩
      · exact .there unempty plain found
      · exact .made unempty plain missing above

/-- A set-up fails where its verbosity or its file does. -/
theorem isOk_setUp_iff (journal : Journal) :
    (perform (setUp verbosity file) journal).1.isOk = true ↔
      (∃ name level, verbosity = .text name ∧ (name, level) ∈ levels) ∧
        CanOpen journal.disk file := by
  rw [← isOk_verbosityOf_iff, canOpen_iff, perform_setUp]
  cases verbosityOf verbosity with
  | error fault => simp [Except.isOk, Except.toBool]
  | ok v =>
      cases filePath? journal.disk file with
      | error fault => simp [Except.isOk, Except.toBool]
      | ok file? =>
          cases opens : openedIf journal.disk file? <;> simp [opens, Except.isOk, Except.toBool]

/-! ## What it leaves -/

/-- The outlets and the level that a set-up puts in place are those of its own values. -/
theorem isSetUpBy_outletsTo (isVerbosity : verbosityOf verbosity = .ok v)
    (isFile : filePath? disk file = .ok file?) {journal : Journal}
    (level : journal.level = v.level) (outlets : journal.outlets = outletsTo file?) :
    journal.IsSetUpBy disk.currentFolder verbosity file where
  level := ⟨v.name, verbosityOf_eq_ok_iff.1 isVerbosity, level ▸ lookup_levels v⟩
  screens := by
    rw [outlets]
    cases file? <;> simp [outletsTo]
  files := by
    rw [outlets]
    rcases filePath?_cases isFile with ⟨falsy, rfl⟩ | ⟨given, rfl, unempty, -, rfl⟩
    · simp [outletsTo, Outlet.isFile, falsy]
    · simp [outletsTo, Outlet.isFile, Value.isTruthy, unempty]
  path := by
    intro path member
    rw [outlets] at member
    rcases filePath?_cases isFile with ⟨-, rfl⟩ | ⟨given, rfl, unempty, -, rfl⟩
    · simp [outletsTo] at member
    · simp only [outletsTo, List.mem_cons, reduceCtorEq, Option.map_some, Option.toList_some,
        List.not_mem_nil, or_false, false_or, Outlet.file.injEq] at member
      exact ⟨given, rfl, unempty, member⟩

/-- The set-ups of a history, of which `last` is the one that did not fail last, left this
journal. -/
def LeftBy (start : Journal) (last : Option (Value × Value)) (journal : Journal) : Prop :=
  journal.disk.currentFolder = start.disk.currentFolder ∧
  match last with
  | none => journal.outlets = start.outlets ∧ journal.level = start.level
  | some (verbosity, file) => journal.IsSetUpBy start.disk.currentFolder verbosity file

variable {start journal : Journal} {last : Option (Value × Value)}

/-- Only the outlets, the level and the current folder matter for what was left. -/
theorem LeftBy.congr (left : LeftBy start last journal) {after : Journal}
    (folder : after.disk.currentFolder = journal.disk.currentFolder)
    (outlets : after.outlets = journal.outlets) (level : after.level = journal.level) :
    LeftBy start last after := by
  obtain ⟨sameFolder, left⟩ := left
  refine ⟨folder.trans sameFolder, ?_⟩
  cases last with
  | none => exact ⟨outlets.trans left.1, level.trans left.2⟩
  | some given => exact ⟨level ▸ left.level, outlets ▸ left.screens, outlets ▸ left.files,
      outlets ▸ left.path⟩

theorem currentFolder_foldl_appendTo (line : String) (outlets : List Outlet) (disk : Disk) :
    (outlets.foldl (appendTo line) disk).currentFolder = disk.currentFolder := by
  induction outlets generalizing disk with
  | nil => rfl
  | cons outlet rest ih =>
      rw [List.foldl_cons, ih]
      cases outlet with
      | screen => rfl
      | file path => exact currentFolder_append disk path line

/-- A record changes neither the outlets nor the level. -/
theorem LeftBy.record (left : LeftBy start last journal) (stamp name : String) (level : Int)
    (message : String) : LeftBy start last (record stamp name level message journal) := by
  rw [Journal.record]
  split
  · exact left.congr (currentFolder_foldl_appendTo _ _ _) rfl rfl
  · exact left

/-- **An action keeps what the set-ups have left, or puts its own in the place of all of it.** -/
theorem LeftBy.effect (left : LeftBy start last journal) {given : Option (Value × Value)}
    {after : Journal} (effect : journal.Effect given after) :
    LeftBy start (given.or last) after := by
  cases effect with
  | named names => exact left.congr rfl rfl rfl
  | recorded names stamp name level message =>
      have leftNamed : LeftBy start last { journal with names } := left.congr rfl rfl rfl
      exact leftNamed.record stamp name level message
  | isSetUp isVerbosity isFile opens =>
      -- What was left before does not matter here, only that the current folder is the same.
      obtain ⟨sameFolder, -⟩ := exists_content_of_openedIf isFile opens
      rw [filePath?_congr left.1] at isFile
      exact ⟨sameFolder.trans left.1, isSetUpBy_outletsTo isVerbosity isFile rfl rfl⟩

theorem LeftBy.run (left : LeftBy start last journal) (history : List Action) :
    LeftBy start ((journal.lastSetUp? history).or last) (journal.run history) := by
  induction history generalizing journal last with
  | nil => exact left
  | cons action rest ih =>
      rw [lastSetUp?, Option.or_assoc]
      exact ih (left.effect (journal.act_effect action))

/-- A file that a journal writes to after a set-up is there. -/
def HasItsFiles (journal : Journal) : Prop :=
  ∀ path, .file path ∈ journal.outlets → ∃ content, journal.disk.content path = .ok content

/-- **A set-up that succeeds replaces the outlets and the level by its own, and one that fails
changes nothing.** -/
theorem setUp_outcome (verbosity file : Value) (journal : Journal) :
    let done := perform (setUp verbosity file) journal
    match done.1 with
    | .ok () => done.2.IsSetUpBy journal.disk.currentFolder verbosity file ∧ done.2.HasItsFiles
    | .error _ => done.2 = journal := by
  intro done
  rcases setUp_cases verbosity file journal with
    ⟨fault, failed⟩ | ⟨v, file?, disk, isVerbosity, isFile, opens, succeeded⟩
  · simp only [done, failed]
  · simp only [done, succeeded]
    refine ⟨isSetUpBy_outletsTo isVerbosity isFile rfl rfl, ?_⟩
    intro path member
    obtain ⟨-, there⟩ := exists_content_of_openedIf isFile opens
    apply there
    cases file? with
    | none => simp [outletsTo] at member
    | some named => simpa [outletsTo, eq_comm] using member

/-- After any history, and whatever outlets there were at its beginning, those in place are of
the last set-up that succeeded.  The next one puts its own in their place if it succeeds, which it
does for a known verbosity and a file that can be opened, and changes nothing if it fails. -/
theorem setUp_replaces_or_keeps (start : Journal) (history : List Action)
    (verbosity file : Value) :
    let folder := start.disk.currentFolder
    let before := start.run history
    let done := perform (setUp verbosity file) before
    (match start.lastSetUp? history with
      | none => before.outlets = start.outlets ∧ before.level = start.level
      | some (verbosity, file) => before.IsSetUpBy folder verbosity file) ∧
    (match done.1 with
      | .ok () => done.2.IsSetUpBy folder verbosity file ∧ done.2.HasItsFiles
      | .error _ => done.2 = before) ∧
    (done.1.isOk = true ↔
      (∃ name level, verbosity = .text name ∧ (name, level) ∈ levels) ∧
        CanOpen before.disk file) := by
  intro folder before done
  have bare : LeftBy start none start := ⟨rfl, rfl, rfl⟩
  have left := bare.run history
  rw [Option.or_none] at left
  obtain ⟨sameFolder, left⟩ := left
  have outcome := setUp_outcome verbosity file before
  rw [sameFolder] at outcome
  exact ⟨left, outcome, isOk_setUp_iff before⟩

end Journal
end LineCensus
