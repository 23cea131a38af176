/-
# Proofs.Obstacles -- what stops a search

A search asks of every folder that it comes to whether it is excluded.  The patterns cannot
answer if they are none at all, or if one that is no text has its turn before any that fits
(`Exclude.CannotTell`).  A folder of which they cannot tell, below folders that are not
excluded, is an `Obstacle`, and a search stops with a value of the wrong kind exactly if there is
one (`Discovery.ofRoot_wrongKind_iff`).

Patterns that have let one folder through are texts, every one, and can tell of all others
(`Exclude.not_cannotTell_of_kept`).  So an obstacle stands in the root itself, and no folder
further down has to be looked for.
-/
import LineCensus.Discovery.Walk
import LineCensus.Proofs.Step

set_option autoImplicit false

namespace LineCensus

/-! ## One folder -/

namespace Exclude

/-- The first of these patterns that is no text stands before all that fit. -/
def StopsAmong (relative : String) (items : List Value) : Prop :=
  ∃ (before : List String) (item : Value) (after : List Value),
    items = before.map .text ++ item :: after ∧ item.isText = false ∧
      ∀ pattern ∈ before, fitsFolder relative pattern = false

/-- Patterns that cannot tell whether a folder is excluded. -/
def CannotTell (patterns : Value) (relative : String) : Prop :=
  ∀ items, patterns? patterns = some items → StopsAmong relative items

theorem stopsAmong_nil (relative : String) : ¬ StopsAmong relative [] := by
  rintro ⟨before, item, after, split, -⟩
  simp at split

theorem stopsAmong_text_iff {relative pattern : String} {rest : List Value} :
    StopsAmong relative (.text pattern :: rest) ↔
      fitsFolder relative pattern = false ∧ StopsAmong relative rest := by
  constructor
  · rintro ⟨before, item, after, split, noText, unfit⟩
    cases before with
    | nil =>
        rw [← (List.cons.inj split).1] at noText
        cases noText
    | cons first more =>
        obtain ⟨same, splitRest⟩ := List.cons.inj split
        obtain rfl := Value.text.inj same
        obtain ⟨here, later⟩ := List.forall_mem_cons.1 unfit
        exact ⟨here, more, item, after, splitRest, noText, later⟩
  · rintro ⟨here, before, item, after, rfl, noText, unfit⟩
    exact ⟨pattern :: before, item, after, rfl, noText, List.forall_mem_cons.2 ⟨here, unfit⟩⟩

theorem tryPatterns_eq_error_iff {relative : String} {items : List Value} {fault : Fault} :
    tryPatterns relative items = .error fault ↔ fault = .wrongKind ∧ StopsAmong relative items := by
  fun_induction tryPatterns relative items with
  | case1 =>
      constructor
      · intro fails
        cases fails
      · rintro ⟨-, stops⟩
        exact absurd stops (stopsAmong_nil relative)
  | case2 pattern rest fits =>
      rw [stopsAmong_text_iff, fits]
      constructor
      · intro fails
        cases fails
      · rintro ⟨-, unfit, -⟩
        cases unfit
  | case3 pattern rest unfit ih =>
      rw [stopsAmong_text_iff, ih]
      simp [unfit]
  | case4 item rest noText =>
      constructor
      · intro fails
        cases fails
        refine ⟨rfl, [], item, rest, rfl, ?_, by simp⟩
        cases item with
        | text pattern => exact absurd rfl (noText pattern)
        | _ => rfl
      · rintro ⟨rfl, -⟩
        rfl

theorem excludes_eq_error_iff {patterns : Value} {relative : String} {fault : Fault} :
    excludes patterns relative = .error fault ↔
      fault = .wrongKind ∧ CannotTell patterns relative := by
  rw [excludes, CannotTell]
  cases held : patterns? patterns with
  | none =>
      constructor
      · intro fails
        cases fails
        exact ⟨rfl, by simp⟩
      · rintro ⟨rfl, -⟩
        rfl
  | some items => simp [tryPatterns_eq_error_iff]

/-- Texts can always tell. -/
theorem not_stopsAmong_of_texts {items : List Value} (texts : ∀ item ∈ items, item.isText = true)
    (relative : String) : ¬ StopsAmong relative items := by
  rintro ⟨before, item, after, rfl, noText, -⟩
  rw [texts item (by simp)] at noText
  cases noText

theorem not_cannotTell_of_texts {items : List Value} (texts : ∀ item ∈ items, item.isText = true)
    (relative : String) : ¬ CannotTell (.list items) relative :=
  fun cannot => not_stopsAmong_of_texts texts relative (cannot items rfl)

theorem texts_of_tryPatterns {relative : String} {items : List Value}
    (kept : tryPatterns relative items = .ok false) : ∀ item ∈ items, item.isText = true := by
  fun_induction tryPatterns relative items with
  | case1 => simp
  | case2 pattern rest fits => cases kept
  | case3 pattern rest unfit ih => exact List.forall_mem_cons.2 ⟨rfl, ih kept⟩
  | case4 item rest noText => cases kept

/-- Patterns that do not exclude one folder can tell of every other. -/
theorem not_cannotTell_of_kept {patterns : Value} {relative : String}
    (kept : excludes patterns relative = .ok false) (other : String) :
    ¬ CannotTell patterns other := by
  intro cannot
  rw [excludes] at kept
  cases held : patterns? patterns with
  | none =>
      rw [held] at kept
      cases kept
  | some items =>
      rw [held] at kept
      exact not_stopsAmong_of_texts (texts_of_tryPatterns kept) other (cannot items held)

end Exclude

/-! ## The folders in a folder -/

namespace Discovery

/-- A folder that a walk comes to and of which the patterns cannot tell whether it is excluded.
The node is at the path `relative` from the root. -/
inductive Obstacle (patterns : Value) : String → Node → Prop where
  | asked {relative : String} {entries : List (String × Node)}
      (cannot : Exclude.CannotTell patterns relative) : Obstacle patterns relative (.folder entries)
  | deeper {relative name : String} {node : Node} {entries : List (String × Node)}
      (shown : Exclude.excludes patterns relative = .ok false) (member : (name, node) ∈ entries)
      (inside : Obstacle patterns (relativePath relative name) node) :
      Obstacle patterns relative (.folder entries)

/-- One of the entries of a folder is an obstacle, or has one below it. -/
def HasObstacle (patterns : Value) (relative : String) (entries : List (String × Node)) : Prop :=
  ∃ name node, (name, node) ∈ entries ∧ Obstacle patterns (relativePath relative name) node

section

variable {patterns : Value} {relative : String}

theorem Obstacle.exists_cannotTell {node : Node} (obstacle : Obstacle patterns relative node) :
    ∃ other, Exclude.CannotTell patterns other := by
  induction obstacle with
  | asked cannot => exact ⟨_, cannot⟩
  | deeper _ _ _ ih => exact ih

theorem obstacle_folder_iff {entries : List (String × Node)} :
    Obstacle patterns relative (.folder entries) ↔ Exclude.CannotTell patterns relative := by
  constructor
  · intro obstacle
    cases obstacle with
    | asked cannot => exact cannot
    | deeper kept _ inside =>
        obtain ⟨other, cannot⟩ := inside.exists_cannotTell
        exact absurd cannot (Exclude.not_cannotTell_of_kept kept other)
  · exact .asked

/-- No folder that is let through has an obstacle in it. -/
theorem not_hasObstacle_of_kept {kept : String}
    (shown : Exclude.excludes patterns kept = .ok false) (entries : List (String × Node)) :
    ¬ HasObstacle patterns relative entries := by
  rintro ⟨name, node, -, obstacle⟩
  obtain ⟨other, cannot⟩ := obstacle.exists_cannotTell
  exact Exclude.not_cannotTell_of_kept shown other cannot

theorem hasObstacle_cons_iff {name : String} {node : Node} {rest : List (String × Node)} :
    HasObstacle patterns relative ((name, node) :: rest) ↔
      Obstacle patterns (relativePath relative name) node ∨ HasObstacle patterns relative rest := by
  constructor
  · rintro ⟨other, inner, member, inside⟩
    rcases List.mem_cons.1 member with here | later
    · cases here
      exact .inl inside
    · exact .inr ⟨other, inner, later, inside⟩
  · rintro (inside | ⟨other, inner, later, inside⟩)
    · exact ⟨name, node, List.mem_cons_self, inside⟩
    · exact ⟨other, inner, List.mem_cons_of_mem _ later, inside⟩

theorem isPruned_result :
    (isPruned patterns relative).result = Exclude.excludes patterns relative := by
  rw [isPruned, Logged.bind_result, Logged.ofExcept]
  cases Exclude.excludes patterns relative with
  | error fault => rfl
  | ok excluded => cases excluded <;> rfl

/-- Which folders are to be looked into cannot be told if there is an obstacle, and for no
other reason. -/
theorem keptFolders_eq_error_iff {fault : Fault} {entries : List (String × Node)} :
    (keptFolders patterns relative entries).result = .error fault ↔
      fault = .wrongKind ∧ HasObstacle patterns relative entries := by
  induction entries with
  | nil =>
      constructor
      · intro fails
        cases fails
      · rintro ⟨-, name, node, member, -⟩
        cases member
  | cons entry rest ih =>
      obtain ⟨name, node⟩ := entry
      rw [hasObstacle_cons_iff]
      cases node with
      | file content executable =>
          rw [keptFolders, ih]
          refine and_congr_right fun _ => ⟨.inr, fun obstacle => obstacle.resolve_left ?_⟩
          intro obstacle
          cases obstacle
      | folder inner =>
          rw [keptFolders, Logged.bind_result, isPruned_result, obstacle_folder_iff]
          cases asked : Exclude.excludes patterns (relativePath relative name) with
          | error other =>
              obtain ⟨rfl, cannot⟩ := Exclude.excludes_eq_error_iff.1 asked
              simp [Except.bind, cannot, eq_comm]
          | ok pruned =>
              have tells : ¬ Exclude.CannotTell patterns (relativePath relative name) := by
                intro cannot
                rw [Exclude.excludes_eq_error_iff.2 ⟨rfl, cannot⟩] at asked
                cases asked
              simp only [Except.bind, Logged.bind_result, tells, false_or, ← ih]
              cases (keptFolders patterns relative rest).result <;>
                simp [Pure.pure, Logged.pure]

/-- The folders that are looked into. -/
theorem mem_keptFolders {entries : List (String × Node)} {kept : List String}
    (ends : (keptFolders patterns relative entries).result = .ok kept) {name : String} :
    name ∈ kept ↔ ∃ inner, (name, .folder inner) ∈ entries ∧
      Exclude.excludes patterns (relativePath relative name) = .ok false := by
  induction entries generalizing kept with
  | nil =>
      obtain rfl := Except.ok.inj ends
      simp
  | cons entry rest ih =>
      obtain ⟨first, node⟩ := entry
      cases node with
      | file content executable => simp [ih ends]
      | folder inner =>
          rw [keptFolders, Logged.bind_result, isPruned_result] at ends
          obtain ⟨pruned, asked, ends⟩ := bind_eq_ok ends
          rw [Logged.bind_result] at ends
          obtain ⟨others, later, ends⟩ := bind_eq_ok ends
          obtain rfl := Except.ok.inj ends
          cases pruned with
          | true =>
              rw [if_pos rfl, ih later]
              refine exists_congr fun other => and_congr_left fun shown => ?_
              have unlike : name ≠ first := by
                rintro rfl
                rw [asked] at shown
                cases shown
              simp [unlike]
          | false =>
              rw [if_neg (by simp), List.mem_cons, ih later]
              constructor
              · rintro (rfl | ⟨other, member, shown⟩)
                · exact ⟨inner, List.mem_cons_self, asked⟩
                · exact ⟨other, List.mem_cons_of_mem _ member, shown⟩
              · rintro ⟨other, member, shown⟩
                rcases List.mem_cons.1 member with here | member
                · exact .inl (congrArg Prod.fst here)
                · exact .inr ⟨other, member, shown⟩

theorem keptFolders_sublist {entries : List (String × Node)} {kept : List String}
    (ends : (keptFolders patterns relative entries).result = .ok kept) :
    kept.Sublist (entries.map (·.1)) := by
  induction entries generalizing kept with
  | nil =>
      obtain rfl := Except.ok.inj ends
      exact .slnil
  | cons entry rest ih =>
      obtain ⟨name, node⟩ := entry
      cases node with
      | file content executable => exact (ih ends).cons name
      | folder inner =>
          rw [keptFolders, Logged.bind_result] at ends
          obtain ⟨pruned, -, ends⟩ := bind_eq_ok ends
          rw [Logged.bind_result] at ends
          obtain ⟨others, later, ends⟩ := bind_eq_ok ends
          obtain rfl := Except.ok.inj ends
          cases pruned with
          | true => exact (ih later).cons name
          | false => exact (ih later).cons_cons name

end

/-! ## A walk -/

section

variable {disk : Disk} {patterns : Value} {path relative : String} {fault : Fault}

/-- A walk fails for an obstacle in the folder that it begins with, or because a folder is
too deep. -/
theorem fault_of_walk {room : Nat}
    (fails : (walk disk patterns room path relative).result = .error fault) :
    fault = .tooDeep ∨
      fault = .wrongKind ∧ HasObstacle patterns relative (disk.listing path) := by
  induction room generalizing path relative with
  | zero => exact .inl (Except.error.inj fails).symm
  | succ room ih =>
      rw [walk] at fails
      simp only [Logged.bind_result, Logged.mapM_result] at fails
      rcases bind_eq_error fails with asked | ⟨kept, asked, fails⟩
      · exact .inr (keptFolders_eq_error_iff.1 asked)
      rcases bind_eq_error fails with fails | ⟨below, -, fails⟩
      · obtain ⟨name, member, fails⟩ := exists_mem_of_mapM_eq_error fails
        obtain ⟨inner, -, shown⟩ := (mem_keptFolders asked).1 member
        rcases ih fails with deep | ⟨-, obstacle⟩
        · exact .inl deep
        · exact absurd obstacle (not_hasObstacle_of_kept shown _)
      · cases fails

theorem walk_wrongKind {room : Nat} (obstacle : HasObstacle patterns relative (disk.listing path)) :
    (walk disk patterns (room + 1) path relative).result = .error .wrongKind := by
  rw [walk]
  simp only [Logged.bind_result]
  exact bind_eq_error_iff.2 (.inl (keptFolders_eq_error_iff.2 ⟨rfl, obstacle⟩))

end

/-! ## A search -/

/-- A root that leads to a folder with an obstacle in it. -/
def IsBlocked (disk : Disk) (patterns : Value) (root : String) : Prop :=
  Disk.hasNul root = false ∧ ∃ entries,
    disk.find (Path.absolute disk.currentFolder root) = .ok (.folder entries) ∧
      HasObstacle patterns "" entries

theorem not_isBlocked_of_texts (disk : Disk) {items : List Value}
    (texts : ∀ item ∈ items, item.isText = true) (root : String) :
    ¬ IsBlocked disk (.list items) root := by
  rintro ⟨-, entries, -, name, node, -, obstacle⟩
  obtain ⟨other, cannot⟩ := obstacle.exists_cannotTell
  exact Exclude.not_cannotTell_of_texts texts other cannot

variable {disk : Disk} {settings : Settings} {root : String}

theorem fault_of_isSource {path : String} {fault : Fault}
    (fails : Source.isSource disk path = .error fault) : fault = .refused .nulInPath := by
  rw [Source.isSource, Source.hasShebang] at fails
  split at fails
  · cases fails
  split at fails
  · exact (Except.error.inj fails).symm
  split at fails <;> cases fails

theorem fault_of_sourcesAmong {paths : List String} {fault : Fault}
    (fails : sourcesAmong disk paths = .error fault) : fault = .refused .nulInPath := by
  induction paths with
  | nil => cases fails
  | cons path rest ih =>
      rw [sourcesAmong] at fails
      rcases bind_eq_error fails with asked | ⟨isSource, -, fails⟩
      · exact fault_of_isSource asked
      rcases bind_eq_error fails with later | ⟨others, -, fails⟩
      · exact ih later
      · cases fails

theorem fault_of_classify {wanted : Bool} {paths : List String} {fault : Fault}
    (fails : classify disk wanted paths = .error fault) : fault = .refused .nulInPath := by
  rw [classify] at fails
  rcases bind_eq_error fails with fails | ⟨sources, -, fails⟩
  · exact fault_of_sourcesAmong fails
  · cases fails

/-- A search fails for a NUL character, for what the disk does not allow, because a folder is
too deep, or for an obstacle. -/
theorem fault_of_ofRoot {fault : Fault}
    (fails : (ofRoot disk settings root).result = .error fault) :
    fault = .refused .nulInPath ∨ (∃ problem, fault = .disk problem) ∨ fault = .tooDeep ∨
      (fault = .wrongKind ∧ IsBlocked disk settings.excludePatterns root) := by
  rw [ofRoot] at fails
  split at fails
  · exact .inl (Except.error.inj fails).symm
  rename_i named
  simp only at fails
  split at fails
  · rename_i node found
    rw [Logged.bind_result] at fails
    rcases bind_eq_error fails with stops | ⟨paths, -, fails⟩
    · cases node with
      | file content executable => cases stops
      | folder entries =>
          rcases fault_of_walk stops with deep | ⟨rfl, obstacle⟩
          · exact .inr (.inr (.inl deep))
          · rw [Disk.listing, found] at obstacle
            exact .inr (.inr (.inr ⟨rfl, by simpa using named, entries, found, obstacle⟩))
    · exact .inl (fault_of_classify fails)
  · split at fails
    · cases fails
    · exact .inr (.inl ⟨_, (Except.error.inj fails).symm⟩)

theorem ofRoot_wrongKind_iff :
    (ofRoot disk settings root).result = .error .wrongKind ↔
      IsBlocked disk settings.excludePatterns root := by
  constructor
  · intro fails
    rcases fault_of_ofRoot fails with nul | ⟨problem, notAllowed⟩ | deep | ⟨-, blocked⟩
    · cases nul
    · cases notAllowed
    · cases deep
    · exact blocked
  · rintro ⟨named, entries, found, obstacle⟩
    have stops : (filesAt disk settings.excludePatterns
        (Path.absolute disk.currentFolder root) (.folder entries)).result = .error .wrongKind := by
      refine walk_wrongKind ?_
      rwa [Disk.listing, found]
    simp only [ofRoot, named, Bool.false_eq_true, if_false, found, Logged.bind_result, stops]
    rfl

end Discovery
end LineCensus
