/-
# Proofs.Delivery -- which file a record is written to

A history is a list of actions, each of which may fail and leaves the journal with the changes
that were made before.  What an action can do is said once (`act_effect`).

`Journal.InForce` says what a journal looks like when a given set-up was the last one that
succeeded.  An action keeps this, with its own set-up in the place of the earlier one if it is
one and succeeds, and takes nothing away from any file (`InForce.effect`); so does a history
(`InForce.run`).  Then a record whose name reaches the root and whose level is kept is put at the
end of the one file that is set up (`IsSetFor.isWritten`).
-/
import LineCensus.Proofs.Names
import LineCensus.Proofs.Writing

set_option autoImplicit false

namespace LineCensus

namespace Journal

/-! ## Work step by step -/

section Perform

variable {α β : Type}

theorem perform_bind (first : Work α) (next : α → Work β) (journal : Journal) :
    perform (first >>= next) journal =
      match perform first journal with
      | (.error fault, after) => (.error fault, after)
      | (.ok a, after) => perform (next a) after := by
  cases done : perform first journal with
  | mk result after =>
      rw [perform] at done
      rw [perform, ExceptT.run_bind, StateT.run_bind, done]
      cases result with
      | error fault => rfl
      | ok a => rfl

theorem perform_pure (a : α) (journal : Journal) : perform (pure a) journal = (.ok a, journal) :=
  rfl

theorem perform_get (journal : Journal) : perform get journal = (.ok journal, journal) :=
  rfl

theorem perform_set (after journal : Journal) : perform (set after) journal = (.ok (), after) :=
  rfl

theorem perform_modify (change : Journal → Journal) (journal : Journal) :
    perform (modify change) journal = (.ok (), change journal) :=
  rfl

theorem perform_lift (result : Except Fault α) (journal : Journal) :
    perform (liftM result : Work α) journal = (result, journal) := by
  cases result with
  | error fault => rfl
  | ok a => rfl

end Perform

/-- The disk on which the file that is named, if one is, is there. -/
def openedIf (disk : Disk) : Option String → Except PathProblem Disk
  | none => .ok disk
  | some path => opened disk path

/-- The outlets of a journal that was set up. -/
def outletsTo (file? : Option String) : List Outlet :=
  .screen :: (file?.map Outlet.file).toList

theorem perform_openFile (file : Value) (journal : Journal) :
    perform (openFile file) journal =
      match filePath? journal.disk file with
      | .error fault => (.error fault, journal)
      | .ok file? =>
          match openedIf journal.disk file? with
          | .error problem => (.error (.disk problem), journal)
          | .ok disk => (.ok (file?.map Outlet.file).toList, { journal with disk }) := by
  rw [openFile]
  simp only [perform_bind, perform_get, perform_lift]
  cases filePath? journal.disk file with
  | error fault => rfl
  | ok file? =>
      cases file? with
      | none => rfl
      | some path =>
          simp only [perform_bind, perform_lift, perform_set, perform_pure, openedIf]
          cases opened journal.disk path with
          | error problem => rfl
          | ok disk => rfl

theorem perform_setUp (verbosity file : Value) (journal : Journal) :
    perform (setUp verbosity file) journal =
      match verbosityOf verbosity with
      | .error fault => (.error fault, journal)
      | .ok v =>
          match filePath? journal.disk file with
          | .error fault => (.error fault, journal)
          | .ok file? =>
              match openedIf journal.disk file? with
              | .error problem => (.error (.disk problem), journal)
              | .ok disk =>
                  (.ok (), { journal with disk, level := v.level, outlets := outletsTo file? }) := by
  rw [setUp]
  simp only [perform_bind, perform_lift]
  cases verbosityOf verbosity with
  | error fault => rfl
  | ok v =>
      simp only [perform_openFile, perform_modify]
      cases filePath? journal.disk file with
      | error fault => rfl
      | ok file? =>
          cases opens : openedIf journal.disk file? with
          | error problem => simp only [opens]
          | ok disk =>
              simp only [opens]
              rfl

/-- A set-up that fails leaves the journal as it was.  One that succeeds has opened its file and
replaced the level and the outlets. -/
theorem setUp_cases (verbosity file : Value) (journal : Journal) :
    (∃ fault, perform (setUp verbosity file) journal = (.error fault, journal)) ∨
      ∃ v file? disk, verbosityOf verbosity = .ok v ∧ filePath? journal.disk file = .ok file? ∧
        openedIf journal.disk file? = .ok disk ∧
        perform (setUp verbosity file) journal =
          (.ok (), { journal with disk, level := v.level, outlets := outletsTo file? }) := by
  rw [perform_setUp]
  cases verbosityOf verbosity with
  | error fault => exact .inl ⟨fault, rfl⟩
  | ok v =>
      cases filePath? journal.disk file with
      | error fault => exact .inl ⟨fault, rfl⟩
      | ok file? =>
          cases opens : openedIf journal.disk file? with
          | error problem => exact .inl ⟨.disk problem, by simp only [opens]⟩
          | ok disk => exact .inr ⟨v, file?, disk, rfl, rfl, opens, by simp only [opens]⟩

theorem perform_useName (name : Value) (journal : Journal) :
    perform (useName name) journal =
      match nameOfValue name with
      | .error fault => (.error fault, journal)
      | .ok name => (.ok name, { journal with names := name :: journal.names }) := by
  rw [useName]
  simp only [perform_bind, perform_lift]
  cases nameOfValue name with
  | error fault => rfl
  | ok name => rfl

theorem perform_recordValues (stamp : String) (name level message : Value) (journal : Journal) :
    perform (recordValues stamp name level message) journal =
      match nameOfValue name with
      | .error fault => (.error fault, journal)
      | .ok name =>
          let after := { journal with names := name :: journal.names }
          match levelOf level with
          | .error fault => (.error fault, after)
          | .ok level =>
              match checkRecord name level message after with
              | .error fault => (.error fault, after)
              | .ok () => (.ok (), record stamp name level message.plain after) := by
  rw [recordValues]
  simp only [perform_bind, perform_lift, perform_useName]
  cases nameOfValue name with
  | error fault => rfl
  | ok name =>
      simp only [perform_get, perform_modify]
      cases levelOf level with
      | error fault => rfl
      | ok level =>
          simp only
          cases checkRecord name level message { journal with names := name :: journal.names } with
          | error fault => rfl
          | ok checked => rfl

/-! ## Histories -/

/-- What a journal can be asked to do. -/
inductive Action where
  | setUp (verbosity file : Value)
  | useName (name : Value)
  | record (stamp : String) (name level message : Value)

def Action.work : Action → Work Unit
  | .setUp verbosity file => Journal.setUp verbosity file
  | .useName name => discard (Journal.useName name)
  | .record stamp name level message => recordValues stamp name level message

/-- The journal after an action, whether it succeeds or not. -/
def act (journal : Journal) (action : Action) : Journal :=
  (perform action.work journal).2

def run (journal : Journal) (history : List Action) : Journal :=
  history.foldl act journal

/-- What a set-up that succeeds was given. -/
def setUp? (journal : Journal) : Action → Option (Value × Value)
  | .setUp verbosity file =>
      if (perform (setUp verbosity file) journal).1.isOk then some (verbosity, file) else none
  | _ => none

/-- What the last set-up of a history that succeeded was given. -/
def lastSetUp? (journal : Journal) : List Action → Option (Value × Value)
  | [] => none
  | action :: rest => (lastSetUp? (journal.act action) rest).or (journal.setUp? action)

/-! ## The set-up in force -/

theorem filePath?_congr {disk other : Disk} (same : disk.currentFolder = other.currentFolder)
    (file : Value) : filePath? disk file = filePath? other file := by
  unfold filePath?
  rw [same]

/-- A file that is named has an absolute path. -/
theorem exists_absolute {disk : Disk} {file : Value} {path : String}
    (named : filePath? disk file = .ok (some path)) :
    ∃ given, path = Path.absolute disk.currentFolder given := by
  unfold filePath? at named
  split at named
  · cases named
  cases file with
  | text given =>
      simp only at named
      split at named
      · cases named
      · cases named
        exact ⟨given, rfl⟩
  | _ => cases named

/-- A file that could be opened is there. -/
theorem exists_content_of_openedIf {disk after : Disk} {file : Value} {file? : Option String}
    (named : filePath? disk file = .ok file?) (opens : openedIf disk file? = .ok after) :
    after.currentFolder = disk.currentFolder ∧
      ∀ path ∈ file?, ∃ content, after.content path = .ok content := by
  cases file? with
  | none =>
      cases opens
      exact ⟨rfl, by simp⟩
  | some path =>
      obtain ⟨given, rfl⟩ := exists_absolute named
      obtain ⟨names, plain, spelled⟩ := Path.absolute_eq_rooted disk.currentFolder given
      rw [spelled] at opens ⊢
      obtain ⟨sameFolder, there⟩ := Disk.exists_content_of_opened plain opens
      exact ⟨sameFolder, by rintro path ⟨⟩; exact there⟩

theorem currentFolder_append (disk : Disk) (path text : String) :
    (append disk path text).currentFolder = disk.currentFolder := by
  unfold append
  split <;> rfl

/-- Appending to a file changes that file, by what is appended, and no other. -/
theorem content_append_absolute {disk : Disk} {folder path : String} {old : ByteArray}
    (there : disk.content (Path.absolute folder path) = .ok old) (text other : String) :
    (append disk (Path.absolute folder path) text).content (Path.absolute folder other) =
      if Path.absolute folder other = Path.absolute folder path then .ok (old ++ text.toUTF8)
      else disk.content (Path.absolute folder other) := by
  obtain ⟨names, plain, spelled⟩ := Path.absolute_eq_rooted folder path
  obtain ⟨others, plainOthers, spelledOther⟩ := Path.absolute_eq_rooted folder other
  rw [spelled] at there
  rw [spelled, spelledOther, Disk.content_append plain plainOthers there]
  by_cases same : others = names
  · rw [if_pos same, if_pos (congrArg _ same)]
  · rw [if_neg same, if_neg (mt (Path.rooted_injective plainOthers plain) same)]

theorem foldl_outletsTo (line : String) (disk : Disk) (file? : Option String) :
    (outletsTo file?).foldl (appendTo line) disk =
      file?.elim disk fun path => append disk path line := by
  cases file? <;> rfl

/-- A journal for which a set-up with this verbosity and this file, if one, was the last to
succeed. -/
structure IsSetFor (v : Verbosity) (file? : Option String) (journal : Journal) : Prop where
  level : journal.level = v.level
  outlets : journal.outlets = outletsTo file?
  there : ∀ path ∈ file?, ∃ content, journal.disk.content path = .ok content

/-- The set-up that was the last to succeed, if one did, is in force.  `disk` is where the
history began; only its current folder matters, and that stays. -/
def InForce (disk : Disk) (last : Option (Value × Value)) (journal : Journal) : Prop :=
  journal.disk.currentFolder = disk.currentFolder ∧
  match last with
  | none => journal.outlets = []
  | some (verbosity, file) =>
      ∃ v file?, verbosityOf verbosity = .ok v ∧ filePath? disk file = .ok file? ∧
        journal.IsSetFor v file?

/-- A line at the end of a file, if there is one, and nothing else is different. -/
structure IsWritten (folder : String) (file? : Option String) (line : String)
    (before after : Disk) : Prop where
  sameFolder : after.currentFolder = before.currentFolder
  file : ∀ path ∈ file?, ∃ old, before.content path = .ok old ∧
    after.content path = .ok (old ++ line.toUTF8)
  others : ∀ other, some (Path.absolute folder other) ≠ file? →
    after.content (Path.absolute folder other) = before.content (Path.absolute folder other)

variable {disk : Disk} {last : Option (Value × Value)} {journal : Journal} {v : Verbosity}
  {file? : Option String}

/-- The outlets of a set-up write a line to its file and nowhere else. -/
theorem IsSetFor.isWritten (set : journal.IsSetFor v file?) {file : Value}
    (named : filePath? disk file = .ok file?) (line : String) :
    IsWritten disk.currentFolder file? line journal.disk
      (journal.outlets.foldl (appendTo line) journal.disk) := by
  rw [set.outlets, foldl_outletsTo]
  cases file? with
  | none =>
      rw [Option.elim_none]
      exact ⟨rfl, by simp, fun _ _ => rfl⟩
  | some path =>
      obtain ⟨given, rfl⟩ := exists_absolute named
      obtain ⟨old, there⟩ := set.there _ rfl
      have appended := content_append_absolute there line
      rw [Option.elim_some]
      refine ⟨currentFolder_append _ _ _, ?_, ?_⟩
      · rintro path ⟨⟩
        exact ⟨old, there, (appended given).trans (if_pos rfl)⟩
      · intro other differs
        exact (appended other).trans (if_neg fun same => differs (congrArg some same))

theorem content_openedIf {disk after : Disk} {file : Value} {file? : Option String}
    (named : filePath? disk file = .ok file?) (opens : openedIf disk file? = .ok after)
    {other : String} {kept : ByteArray}
    (there : disk.content (Path.absolute disk.currentFolder other) = .ok kept) :
    after.content (Path.absolute disk.currentFolder other) = .ok kept := by
  cases file? with
  | none =>
      cases opens
      exact there
  | some path =>
      obtain ⟨given, rfl⟩ := exists_absolute named
      obtain ⟨names, plain, spelled⟩ := Path.absolute_eq_rooted disk.currentFolder given
      obtain ⟨others, plainOthers, spelledOther⟩ := Path.absolute_eq_rooted disk.currentFolder other
      rw [spelled] at opens
      rw [spelledOther] at there ⊢
      exact Disk.content_of_opened plain plainOthers opens there

/-- A file on one disk is also on the other, perhaps with more at its end. -/
def Grows (folder : String) (before after : Disk) : Prop :=
  ∀ path content, before.content (Path.absolute folder path) = .ok content →
    ∃ added, after.content (Path.absolute folder path) = .ok (content ++ added)

theorem Grows.refl (folder : String) (disk : Disk) : Grows folder disk disk :=
  fun _ _ there => ⟨ByteArray.empty, by rw [there, ByteArray.append_empty]⟩

theorem Grows.trans {folder : String} {first second third : Disk}
    (early : Grows folder first second) (late : Grows folder second third) :
    Grows folder first third := by
  intro path content there
  obtain ⟨added, afterEarly⟩ := early path content there
  obtain ⟨more, afterLate⟩ := late path _ afterEarly
  exact ⟨added ++ more, by rw [afterLate, ByteArray.append_assoc]⟩

theorem IsWritten.grows {folder line : String} {before after : Disk}
    (written : IsWritten folder file? line before after) : Grows folder before after := by
  intro path content there
  by_cases same : some (Path.absolute folder path) = file?
  · obtain ⟨old, before, after⟩ := written.file _ same.symm
    cases before.symm.trans there
    exact ⟨_, after⟩
  · exact ⟨ByteArray.empty, by rw [written.others path same, there, ByteArray.append_empty]⟩

/-! ## Step by step -/

/-- A record keeps the set-up that is in force, and every file has at least what it had. -/
theorem InForce.record (inForce : InForce disk last journal) (stamp name : String) (level : Int)
    (message : String) :
    InForce disk last (record stamp name level message journal) ∧
      Grows disk.currentFolder journal.disk (Journal.record stamp name level message journal).disk := by
  rw [Journal.record]
  split
  swap
  · exact ⟨inForce, Grows.refl _ _⟩
  obtain ⟨sameFolder, rules⟩ := inForce
  cases last with
  | none =>
      have silent : journal.outlets = [] := rules
      simp only [silent, List.foldl_nil]
      exact ⟨⟨sameFolder, rfl⟩, Grows.refl _ _⟩
  | some given =>
      obtain ⟨v, file?, isVerbosity, isFile, set⟩ := rules
      have written := set.isWritten isFile (lineOf stamp name level message)
      refine ⟨⟨written.sameFolder.trans sameFolder, v, file?, isVerbosity, isFile, set.level,
        set.outlets, ?_⟩, written.grows⟩
      intro path isFilePath
      obtain ⟨old, -, there⟩ := written.file path isFilePath
      exact ⟨_, there⟩

/-- Names are in use without any effect on the outlets. -/
theorem InForce.useName (inForce : InForce disk last journal) (names : List String) :
    InForce disk last { journal with names } := by
  obtain ⟨sameFolder, rules⟩ := inForce
  cases last with
  | none => exact ⟨sameFolder, rules⟩
  | some given =>
      obtain ⟨v, file?, isVerbosity, isFile, set⟩ := rules
      exact ⟨sameFolder, v, file?, isVerbosity, isFile, set.level, set.outlets, set.there⟩

/-- What becomes of a journal when a record is written, if it can be. -/
def attempt (stamp name : String) (level : Int) (message : Value) (journal : Journal) : Journal :=
  match checkRecord name level message journal with
  | .error _ => journal
  | .ok () => record stamp name level message.plain journal

theorem act_record (stamp : String) (name level message : Value) :
    journal.act (.record stamp name level message) =
      match nameOfValue name with
      | .error _ => journal
      | .ok name =>
          let after := { journal with names := name :: journal.names }
          match levelOf level with
          | .error _ => after
          | .ok level => attempt stamp name level message after := by
  rw [act, Action.work, perform_recordValues]
  cases nameOfValue name with
  | error fault => rfl
  | ok name =>
      cases levelOf level with
      | error fault => rfl
      | ok level =>
          simp only [attempt]
          cases checkRecord name level message { journal with names := name :: journal.names } <;>
            rfl

theorem act_useName (name : Value) :
    journal.act (.useName name) =
      match nameOfValue name with
      | .error _ => journal
      | .ok name => { journal with names := name :: journal.names } := by
  have work : Action.work (.useName name) =
      Journal.useName name >>= fun _ => pure () := rfl
  rw [act, work, perform_bind, perform_useName]
  cases nameOfValue name <;> rfl

/-- What an action can do to a journal.  The set-up is that of the action, if it is one and
succeeds. -/
inductive Effect (journal : Journal) : Option (Value × Value) → Journal → Prop where
  | named (names : List String) : Effect journal none { journal with names }
  | recorded (names : List String) (stamp name : String) (level : Int) (message : String) :
      Effect journal none (record stamp name level message { journal with names })
  | isSetUp {verbosity file : Value} {v : Verbosity} {file? : Option String} {disk : Disk}
      (isVerbosity : verbosityOf verbosity = .ok v)
      (isFile : filePath? journal.disk file = .ok file?)
      (opens : openedIf journal.disk file? = .ok disk) :
      Effect journal (some (verbosity, file))
        { journal with disk, level := v.level, outlets := outletsTo file? }

/-- An action that fails early uses no name, which is to use the names that are in use. -/
theorem act_effect (journal : Journal) (action : Action) :
    journal.Effect (journal.setUp? action) (journal.act action) := by
  cases action with
  | setUp verbosity file =>
      rw [act, Action.work, setUp?]
      rcases setUp_cases verbosity file journal with
        ⟨fault, done⟩ | ⟨v, file?, disk, isVerbosity, isFile, opens, done⟩
      · rw [done]
        exact .named journal.names
      · rw [done]
        exact .isSetUp isVerbosity isFile opens
  | useName name =>
      show journal.Effect none _
      rw [act_useName]
      cases nameOfValue name with
      | error fault => exact .named journal.names
      | ok name => exact .named _
  | record stamp name level message =>
      show journal.Effect none _
      rw [act_record]
      cases nameOfValue name with
      | error fault => exact .named journal.names
      | ok name =>
          cases levelOf level with
          | error fault => exact .named _
          | ok level =>
              simp only [attempt]
              cases checkRecord name level message { journal with names := name :: journal.names } with
              | error fault => exact .named _
              | ok _ => exact .recorded _ stamp name level message.plain

/-- **An action keeps the set-up that is in force, or puts its own in that place**, and every
file has at least what it had. -/
theorem InForce.effect (inForce : InForce disk last journal) {given : Option (Value × Value)}
    {after : Journal} (effect : journal.Effect given after) :
    InForce disk (given.or last) after ∧ Grows disk.currentFolder journal.disk after.disk := by
  cases effect with
  | named names => exact ⟨inForce.useName names, Grows.refl _ _⟩
  | recorded names stamp name level message =>
      exact (inForce.useName names).record stamp name level message
  | isSetUp isVerbosity isFile opens =>
      obtain ⟨sameFolder, there⟩ := exists_content_of_openedIf isFile opens
      constructor
      · rw [filePath?_congr inForce.1] at isFile
        exact ⟨sameFolder.trans inForce.1, _, _, isVerbosity, isFile, rfl, rfl, there⟩
      · rw [← inForce.1]
        intro path content isContent
        use ByteArray.empty
        rw [ByteArray.append_empty]
        exact content_openedIf isFile opens isContent

/-- So does a history, with the last of its set-ups that succeeded. -/
theorem InForce.run (inForce : InForce disk last journal) (history : List Action) :
    InForce disk ((journal.lastSetUp? history).or last) (journal.run history) ∧
      Grows disk.currentFolder journal.disk (journal.run history).disk := by
  induction history generalizing journal last with
  | nil => exact ⟨inForce, Grows.refl _ _⟩
  | cons action rest ih =>
      obtain ⟨inForceNext, grows⟩ := inForce.effect (journal.act_effect action)
      obtain ⟨inForceLast, growsFurther⟩ := ih inForceNext
      rw [lastSetUp?, Option.or_assoc]
      exact ⟨inForceLast, grows.trans growsFurther⟩

/-! ## Delivery -/

/-- The value that names a part. -/
def partValue : Option String → Value
  | none => .null
  | some part => .text part

/-- A level and a message that can be written: their numbers are short enough, and the message
is not nested too deep. -/
structure CanWrite (level : Int) (message : Value) : Prop where
  level : isShort level = true
  depth : message.depth ≤ Value.deepestWritten
  numbers : message.isWritable = true

theorem checkMessage_eq_ok_iff {message : Value} :
    checkMessage message = .ok () ↔
      message.depth ≤ Value.deepestWritten ∧ message.isWritable = true := by
  rw [checkMessage]
  by_cases deep : Value.deepestWritten < message.depth
  · simp [if_pos deep, Nat.not_le.2 deep]
  · simp [if_neg deep, Nat.not_lt.1 deep]

theorem CanWrite.attempt_eq {level : Int} {message : Value} (writes : CanWrite level message)
    (stamp name : String) (journal : Journal) :
    attempt stamp name level message journal = record stamp name level message.plain journal := by
  have checked : checkRecord name level message journal = .ok () := by
    rw [checkRecord, if_neg (by simp [writes.level])]
    split
    · exact checkMessage_eq_ok_iff.2 ⟨writes.depth, writes.numbers⟩
    · rfl
  rw [attempt, checked]

/-- A record that does not reach the outlets, or is below their level, writes nothing. -/
theorem attempt_disk_of_not_kept {stamp name : String} {level : Int} {message : Value}
    (dropped : ¬ (isOwnName journal.names name = true ∧ journal.level ≤ level)) :
    (attempt stamp name level message journal).disk = journal.disk := by
  rw [attempt]
  split
  · rfl
  · rw [record, if_neg dropped]

/-- A record that cannot be written writes nothing: if it would be kept, it fails. -/
theorem IsSetFor.attempt_disk_of_not_canWrite (set : journal.IsSetFor v file?)
    {stamp name : String} {level : Int} {message : Value} (refuses : ¬ CanWrite level message) :
    (attempt stamp name level message journal).disk = journal.disk := by
  by_cases kept : isOwnName journal.names name = true ∧ journal.level ≤ level
  · have positive : 0 ≤ level := by
      have least : 0 ≤ v.level := by cases v <;> decide
      exact Int.le_trans least (set.level ▸ kept.2)
    have onScreen : .screen ∈ journal.outlets := by
      rw [set.outlets]
      exact List.mem_cons_self
    cases checked : checkRecord name level message journal with
    | error fault => simp only [attempt, checked]
    | ok done =>
        refine absurd ?_ refuses
        by_cases short : isShort level = true
        · rw [checkRecord, if_neg (by simp [short]), if_pos ⟨kept, onScreen⟩] at checked
          obtain ⟨depth, numbers⟩ := checkMessage_eq_ok_iff.1 checked
          exact ⟨short, depth, numbers⟩
        · rw [checkRecord, if_pos ⟨positive, by simpa using short⟩] at checked
          cases checked
  · exact attempt_disk_of_not_kept kept

/-- What a record under a name does to the disk of a journal that was set up, when these names
are in use. -/
structure Delivers (folder : String) (v : Verbosity) (file? : Option String)
    (inUse : List String) (name line : String) (level : Int) (message : Value)
    (before after : Disk) : Prop where
  /-- Its line is put at the end of the file once, and no other file changes. -/
  kept : isOwnName inUse name = true → v.level ≤ level → CanWrite level message →
    IsWritten folder file? line before after
  belowLevel : level < v.level → after = before
  foreign : isOwnName inUse name = false → after = before
  /-- Nothing is left of a record that cannot be written. -/
  unwritable : ¬ CanWrite level message → after = before
  /-- Records reach the file unless their name is spelled in one of two ways. -/
  own : ¬ Strays name → ¬ HasTwoDots name → isOwnName inUse name = true
  strays : Strays name → isOwnName inUse name = false

theorem IsSetFor.delivers (set : journal.IsSetFor v file?) {file : Value}
    (named : filePath? disk file = .ok file?) (stamp : String) (part : Option String)
    (level : Int) (message : Value) :
    Delivers disk.currentFolder v file? journal.names (nameOf part)
      (lineOf stamp (nameOf part) level message.plain) level message journal.disk
      (attempt stamp (nameOf part) level message journal).disk where
  kept own loud writes := by
    rw [writes.attempt_eq, record, if_pos ⟨own, set.level ▸ loud⟩]
    exact set.isWritten named _
  belowLevel low := by
    apply attempt_disk_of_not_kept
    rintro ⟨-, loud⟩
    rw [set.level] at loud
    exact absurd low (Int.not_lt.2 loud)
  foreign refused := by
    apply attempt_disk_of_not_kept
    rintro ⟨own, -⟩
    rw [refused] at own
    cases own
  unwritable refuses := set.attempt_disk_of_not_canWrite refuses
  own := isOwnName_nameOf _
  strays := isOwnName_of_strays _

/-- Without outlets nothing is written. -/
theorem disk_attempt_silent (silent : journal.outlets = []) (stamp name : String) (level : Int)
    (message : Value) : (attempt stamp name level message journal).disk = journal.disk := by
  rw [attempt]
  split
  · rfl
  rw [record]
  split
  · simp only [silent, List.foldl_nil]
  · rfl

theorem names_attempt (stamp name : String) (level : Int) (message : Value) (journal : Journal) :
    (attempt stamp name level message journal).names = journal.names := by
  rw [attempt]
  split
  · rfl
  rw [record]
  split <;> rfl

/-- After any history a record goes to the file of the last set-up that succeeded, and to no
other, if its level is kept, it can be written and its name is one whose records rise to the
root name.  What was written stays. -/
theorem record_delivered (disk : Disk) (history : List Action) (stamp : String)
    (part : Option String) (level : Int) (message : Value) (more : List Action) :
    let start : Journal := { disk }
    let before := start.run history
    let after := before.act (.record stamp (partValue part) (.whole level) message)
    (match start.lastSetUp? history with
      | none => after.disk = before.disk
      | some (verbosity, file) =>
          ∃ v file?, verbosityOf verbosity = .ok v ∧ filePath? disk file = .ok file? ∧
            Delivers disk.currentFolder v file? after.names (nameOf part)
              (lineOf stamp (nameOf part) level message.plain) level message before.disk
              after.disk) ∧
      Grows disk.currentFolder after.disk (after.run more).disk := by
  intro start before after
  have bare : InForce disk none start := ⟨rfl, rfl⟩
  have inForce : InForce disk (start.lastSetUp? history) before := by
    rw [← Option.or_none (o := start.lastSetUp? history)]
    exact (bare.run history).1
  let action : Action := .record stamp (partValue part) (.whole level) message
  have kept := (inForce.effect (before.act_effect action)).1
  refine ⟨?_, (kept.run more).2⟩
  let asked : Journal := { before with names := nameOf part :: before.names }
  have recorded : after = attempt stamp (nameOf part) level message asked := by
    show before.act _ = _
    rw [act_record]
    cases part <;> rfl
  have inUse : after.names = asked.names := by
    rw [recorded, names_attempt]
  obtain ⟨-, rules⟩ := inForce.useName (nameOf part :: before.names)
  rw [inUse, recorded]
  cases isLast : start.lastSetUp? history with
  | none =>
      rw [isLast] at rules
      have silent : asked.outlets = [] := rules
      exact disk_attempt_silent silent stamp _ level message
  | some given =>
      rw [isLast] at rules
      obtain ⟨v, file?, isVerbosity, isFile, set⟩ := rules
      exact ⟨v, file?, isVerbosity, isFile, set.delivers isFile stamp part level message⟩

/-- A disk without files. -/
def emptyDisk : Disk where
  root := .folder []
  currentFolder := "/"
  home := "/"

/-- A name that begins like the root name need not lie below it, and its records go nowhere. -/
theorem not_every_record_is_delivered :
    ¬ ∀ (disk : Disk) (history : List Action) (stamp : String) (part : Option String)
        (level : Int) (message verbosity file : Value) (v : Verbosity) (path : String),
      let before := run { disk } history
      let after := before.act (.record stamp (partValue part) (.whole level) message)
      lastSetUp? { disk } history = some (verbosity, file) → verbosityOf verbosity = .ok v →
      filePath? disk file = .ok (some path) → v.level ≤ level →
        ∃ old, before.disk.content path = .ok old ∧
          after.disk.content path =
            .ok (old ++ (lineOf stamp (nameOf part) level message.plain).toUTF8) := by
  intro delivered
  have succeeds : (perform (setUp (.text "normal") (.text "a.log")) { disk := emptyDisk }).1.isOk =
      true := by decide +kernel
  have last : lastSetUp? { disk := emptyDisk } [.setUp (.text "normal") (.text "a.log")] =
      some (.text "normal", .text "a.log") := by
    rw [lastSetUp?, setUp?, if_pos succeeds]
    rfl
  obtain ⟨old, -, written⟩ := delivered emptyDisk [.setUp (.text "normal") (.text "a.log")] ""
    (some "source_metricsX") 40 (.text "m") (.text "normal") (.text "a.log") .normal "/a.log"
    last rfl rfl (by decide)
  have empty : ((act (run { disk := emptyDisk } [.setUp (.text "normal") (.text "a.log")])
      (.record "" (partValue (some "source_metricsX")) (.whole 40) (.text "m"))).disk.content
        "/a.log").toOption.map ByteArray.size = some 0 := by
    decide +kernel
  rw [written] at empty
  have shorter := Option.some.inj empty
  rw [ByteArray.size_append] at shorter
  have line : 0 < (lineOf "" (nameOf (some "source_metricsX")) 40
      (Value.text "m").plain).toUTF8.size := by
    decide +kernel
  omega

end Journal
end LineCensus
