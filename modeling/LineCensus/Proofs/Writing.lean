/-
# Proofs.Writing -- what the files of a disk hold after one of them is written

`Node.contentAt` is the content of the file that names lead to, or why they lead to none.  On
the absolute path of plain names that is what a disk answers (`Disk.content_rooted`), and it is
what writing changes:

* `Node.contentAt_place_self`: a file that is put somewhere is there, whatever was there before.
* `Node.contentAt_place_other`: a file that is put in the place of a file changes no other.
* `Disk.content_append`: appending to a file changes that file, by what is appended.
* `Disk.exists_content_of_opened`: a file that could be opened for appending is there, and
  every file that was there still has what it had (`Disk.content_of_opened`).

The disk need not be proper for this: a name that stands twice in a folder stands for its first
entry, when it is looked up and when it is replaced.
-/
import LineCensus.Journal
import LineCensus.Proofs.Step
import LineCensus.Proofs.Tree
import Mathlib.Data.List.DropRight

set_option autoImplicit false

namespace LineCensus

/-! ## Contents by names -/

namespace Node

def content : Node → Except PathProblem ByteArray
  | .file content _ => .ok content
  | .folder _ => .error .isAFolder

/-- The content of the file that names lead to, or why they lead to none. -/
def contentAt (node : Node) : List String → Except PathProblem ByteArray
  | [] => node.content
  | name :: rest =>
      match node with
      | .file _ _ => .error .notAFolder
      | .folder entries =>
          if Disk.nameLimit < Disk.textOctets name then .error .nameTooLong
          else (entries.lookup name).elim (.error .missing) fun next => next.contentAt rest

theorem contentAt_folder (entries : List (String × Node)) (name : String) (rest : List String) :
    (Node.folder entries).contentAt (name :: rest) =
      if Disk.nameLimit < Disk.textOctets name then .error .nameTooLong
      else (entries.lookup name).elim (.error .missing) fun next => next.contentAt rest := by
  rw [contentAt]

/-! ## Putting a file -/

theorem lookup_setEntry (name other : String) (node : Node) (entries : List (String × Node)) :
    (setEntry name node entries).lookup other =
      if other = name then some node else entries.lookup other := by
  induction entries with
  | nil =>
      by_cases same : other = name
      · simp [setEntry, same]
      · simp [setEntry, same]
  | cons entry rest ih =>
      obtain ⟨n, old⟩ := entry
      rw [setEntry]
      by_cases here : n = name
      · subst here
        by_cases same : other = n
        · simp [same]
        · simp [same, List.lookup_cons, beq_eq_false_iff_ne.2 same]
      · rw [if_neg here, List.lookup_cons, List.lookup_cons, ih]
        by_cases first : other = n
        · subst first
          simp [here]
        · rw [beq_eq_false_iff_ne.2 first]

variable {content : ByteArray} {executable : Bool}

/-- A file that is put where names lead is there, whatever was there before. -/
theorem contentAt_place_self {names : List String}
    (short : ∀ name ∈ names, Disk.textOctets name ≤ Disk.nameLimit) (node : Node) :
    (place (.file content executable) names node).contentAt names = .ok content := by
  induction names generalizing node with
  | nil => cases node <;> rfl
  | cons name rest ih =>
      obtain ⟨shortName, shortRest⟩ := List.forall_mem_cons.1 short
      cases node with
      | file old wasExecutable =>
          rw [place, contentAt_folder, if_neg (Nat.not_lt.2 shortName)]
          simp [ih shortRest]
      | folder entries =>
          rw [place, contentAt_folder, if_neg (Nat.not_lt.2 shortName), lookup_setEntry, if_pos rfl]
          exact ih shortRest _

/-- A file that is put in the place of a file changes no other. -/
theorem contentAt_place_other {names others : List String} (differ : others ≠ names) {node : Node}
    {old : ByteArray} (there : node.contentAt names = .ok old) :
    (place (.file content executable) names node).contentAt others = node.contentAt others := by
  induction names generalizing node others with
  | nil =>
      obtain ⟨other, rest, rfl⟩ := List.exists_cons_of_ne_nil differ
      cases node with
      | file old wasExecutable => rfl
      | folder entries => cases there
  | cons name rest ih =>
      cases node with
      | file old wasExecutable => cases there
      | folder entries =>
          rw [contentAt_folder] at there
          split at there
          · cases there
          cases found : entries.lookup name with
          | none =>
              rw [found] at there
              cases there
          | some next =>
              rw [found, Option.elim_some] at there
              cases others with
              | nil => rfl
              | cons other more =>
                  rw [place, contentAt_folder, contentAt_folder, lookup_setEntry, found]
                  by_cases same : other = name
                  · subst same
                    have differRest : more ≠ rest := fun equal => differ (by rw [equal])
                    rw [if_pos rfl, found]
                    simp only [Option.elim_some, Option.getD_some, ih differRest there]
                  · rw [if_neg same]

/-- A file that is put where none was changes no file that is there. -/
theorem contentAt_place_new {names others : List String} {node : Node} {kept : ByteArray}
    (missing : node.contentAt names = .error .missing)
    (there : node.contentAt others = .ok kept) :
    (place (.file content executable) names node).contentAt others = .ok kept := by
  induction names generalizing node others with
  | nil => cases node <;> cases missing
  | cons name rest ih =>
      cases node with
      | file old wasExecutable => cases missing
      | folder entries =>
          cases others with
          | nil => cases there
          | cons other more =>
              rw [contentAt_folder] at there missing
              rw [place, contentAt_folder, lookup_setEntry]
              split at there
              · cases there
              rename_i short
              rw [if_neg short]
              by_cases same : other = name
              · subst same
                rw [if_neg short] at missing
                cases found : entries.lookup other with
                | none =>
                    rw [found] at there
                    cases there
                | some next =>
                    rw [found] at there missing
                    rw [if_pos rfl]
                    exact ih missing there
              · rw [if_neg same]
                exact there

/-- What can be reached has no name on the way that is too long. -/
theorem short_of_reached {names : List String} {node : Node}
    (reached : ∀ problem, node.contentAt names = .error problem → problem = .isAFolder) :
    ∀ name ∈ names, Disk.textOctets name ≤ Disk.nameLimit := by
  induction names generalizing node with
  | nil => simp
  | cons name rest ih =>
      cases node with
      | file old wasExecutable => exact absurd (reached _ rfl) (by decide)
      | folder entries =>
          rw [contentAt_folder] at reached
          split at reached
          · exact absurd (reached _ rfl) (by decide)
          rename_i short
          cases found : entries.lookup name with
          | none =>
              rw [found] at reached
              exact absurd (reached _ rfl) (by decide)
          | some next =>
              rw [found] at reached
              exact List.forall_mem_cons.2 ⟨Nat.not_lt.1 short, ih reached⟩

/-- Neither has what is only missing in a place that can be reached. -/
theorem short_of_missing {above : List String} {last : String} {node : Node}
    (reached : ∀ problem, node.contentAt above = .error problem → problem = .isAFolder)
    (missing : node.contentAt (above ++ [last]) = .error .missing) :
    ∀ name ∈ above ++ [last], Disk.textOctets name ≤ Disk.nameLimit := by
  have shortAbove := short_of_reached reached
  induction above generalizing node with
  | nil =>
      cases node with
      | file old wasExecutable => cases missing
      | folder entries =>
          rw [List.nil_append, contentAt_folder] at missing
          split at missing
          · cases missing
          · rename_i short
            simpa using short
  | cons name rest ih =>
      obtain ⟨shortName, shortRest⟩ := List.forall_mem_cons.1 shortAbove
      cases node with
      | file old wasExecutable => cases missing
      | folder entries =>
          rw [List.cons_append, contentAt_folder, if_neg (Nat.not_lt.2 shortName)] at missing
          rw [contentAt_folder, if_neg (Nat.not_lt.2 shortName)] at reached
          cases found : entries.lookup name with
          | none =>
              rw [found] at reached
              exact absurd (reached _ rfl) (by decide)
          | some next =>
              rw [found] at reached missing
              exact List.forall_mem_cons.2 ⟨shortName, ih reached missing shortRest⟩

end Node

/-! ## Contents by paths -/

namespace Disk

variable {disk : Disk}

theorem content_eq (path : String) : disk.content path = disk.find path >>= Node.content := by
  unfold content
  cases disk.find path with
  | error problem => rfl
  | ok node => cases node <;> rfl

/-- Plain names mean the same on the way down as they do in a tree. -/
theorem descend_content {names : List String} (plain : Path.ArePlain names) (node : Node)
    (above : List Node) : descend node above names >>= Node.content = node.contentAt names := by
  induction names generalizing node above with
  | nil => rfl
  | cons name rest ih =>
      obtain ⟨plainName, plainRest⟩ := List.forall_mem_cons.1 plain
      cases node with
      | file old executable => rfl
      | folder entries =>
          rw [descend_folder plainName, Node.contentAt_folder]
          split
          · rfl
          cases entries.lookup name with
          | none => rfl
          | some next => exact ih plainRest next _

/-- The content behind the path of plain names. -/
theorem content_rooted {names : List String} (plain : Path.ArePlain names)
    (some_name : names ≠ []) :
    disk.content (Path.rooted names) =
      if pathLimit < textOctets (Path.rooted names) then .error .nameTooLong
      else disk.root.contentAt names := by
  have unempty : (Path.rooted names).isEmpty = false := by
    simp [Path.rooted_eq]
  have whole : Path.join disk.currentFolder (Path.rooted names) = Path.rooted names := by
    simp [Path.join, Path.isAbsolute, Path.toList_rooted]
  rw [content_eq, find, unempty, if_neg (by simp)]
  split
  · rfl
  simp only [whole, Path.segments_rooted plain some_name]
  obtain ⟨name, rest, rfl⟩ := List.exists_cons_of_ne_nil some_name
  cases disk.root with
  | file old executable => rfl
  | folder entries => rw [descend_empty, descend_content plain]

/-- The top is no file. -/
theorem content_top : disk.content (Path.rooted []) =
    .error (if disk.root.isFile then .notAFolder else .isAFolder) := by
  have whole : Path.join disk.currentFolder (Path.rooted []) = Path.rooted [] := by
    simp [Path.join, Path.isAbsolute, Path.toList_rooted]
  have short : ¬ pathLimit < textOctets (Path.rooted []) := by decide
  rw [content_eq, find, if_neg (by decide), if_neg short]
  simp only [whole, Path.segments_rooted_nil]
  cases disk.root with
  | file old executable => rfl
  | folder entries =>
      rw [descend_empty, descend_empty]
      rfl

end Disk

/-! ## The names of a path -/

namespace Path

theorem parts_rooted {names : List String} (plain : ArePlain names) :
    parts (rooted names) = names := by
  have kept : ∀ name ∈ names, (name != "" && name != ".") = true := by
    intro name member
    obtain ⟨unempty, undotted, -, -⟩ := isPlain_iff.1 (plain name member)
    simp [unempty, undotted]
  by_cases top : names = []
  · rw [top, parts, segments_rooted_nil]
    rfl
  · rw [parts, segments_rooted plain top, List.filter_cons_of_neg (by simp),
      List.filter_eq_self.2 kept]

/-- The path of names without the last one is that of the folder. -/
theorem dirname_rooted {above : List String} {last : String} (plain : ArePlain (above ++ [last])) :
    dirname (rooted (above ++ [last])) = rooted above := by
  obtain ⟨plainAbove, plainLast⟩ := arePlain_append.1 plain
  have unslashed := (isPlain_iff.1 (plainLast last (by simp))).2.2.2
  by_cases top : above = []
  · have spelled : (rooted ([] ++ [last])).toList = [] ++ '/' :: last.toList := by
      simp [toList_rooted]
    rw [top, dirname, spelled, Text.splitAfterLast_append _ unslashed]
    rfl
  · have spelled : (rooted (above ++ [last])).toList = (rooted above).toList ++ '/' :: last.toList := by
      rw [rooted_eq, rooted_eq, String.intercalate_append_of_ne_nil top (by simp)]
      simp
    have noSlash : (rooted above).toList.getLast? ≠ some '/' := mt (getLast?_rooted plainAbove).1 top
    obtain ⟨c, head, other⟩ := head?_intercalate plainAbove top
    have named : c ∈ (rooted above).toList := by
      rw [rooted_eq, String.toList_append]
      exact List.mem_append_right _ (List.mem_of_mem_head? head)
    have notAll : ((rooted above).toList ++ ['/']).all (· = '/') = false := by
      rw [List.all_eq_false]
      exact ⟨c, List.mem_append_left _ named, by simpa using other⟩
    have trimmed : ((rooted above).toList ++ ['/']).rdropWhile (· = '/') = (rooted above).toList := by
      rw [List.rdropWhile_concat_pos _ _ _ (by simp), List.rdropWhile_eq_self_iff]
      intro unempty slash
      apply noSlash
      rw [List.getLast?_eq_some_getLast unempty]
      simpa using slash
    rw [dirname, spelled, Text.splitAfterLast_append _ unslashed]
    simp only [notAll]
    show String.ofList (((rooted above).toList ++ ['/']).rdropWhile (· = '/')) = rooted above
    rw [trimmed, String.ofList_toList]

end Path

namespace Disk

variable {disk : Disk}

/-- Appending to a file changes that file, by what is appended, and no other. -/
theorem content_append {names others : List String} (plain : Path.ArePlain names)
    (plainOthers : Path.ArePlain others) {old : ByteArray}
    (there : disk.content (Path.rooted names) = .ok old) (text : String) :
    (Journal.append disk (Path.rooted names) text).content (Path.rooted others) =
      if others = names then .ok (old ++ text.toUTF8) else disk.content (Path.rooted others) := by
  have some_name : names ≠ [] := by
    rintro rfl
    rw [content_top] at there
    cases there
  have found := there
  rw [content_rooted plain some_name] at there
  split at there
  · cases there
  rename_i shortPath
  have short := Node.short_of_reached fun problem fails => by
    rw [there] at fails
    cases fails
  rw [content_eq] at found
  obtain ⟨node, leads, isFile⟩ := bind_eq_ok found
  cases node with
  | folder entries => cases isFile
  | file content executable =>
      cases isFile
      simp only [Journal.append, leads, put, Path.parts_rooted plain]
      by_cases top : others = []
      · have differ : others ≠ names := fun same => some_name (same ▸ top)
        rw [if_neg differ, top, content_top, content_top]
        -- The top stays a folder, since a file lies below it.
        obtain ⟨name, rest, rfl⟩ := List.exists_cons_of_ne_nil some_name
        cases isRoot : disk.root with
        | file below belowExecutable =>
            rw [isRoot] at there
            cases there
        | folder entries => rfl
      · rw [content_rooted plainOthers top, content_rooted plainOthers top]
        by_cases same : others = names
        · rw [same, if_neg shortPath, if_pos rfl]
          exact Node.contentAt_place_self short _
        · rw [if_neg same, Node.contentAt_place_other same there]

/-- What is found by a path can be reached by its names. -/
theorem reached_of_find {names : List String} (plain : Path.ArePlain names) {found : Node}
    (leads : disk.find (Path.rooted names) = .ok found) (problem : PathProblem)
    (fails : disk.root.contentAt names = .error problem) : problem = .isAFolder := by
  have content : disk.content (Path.rooted names) = found.content := by
    rw [content_eq, leads, ok_bind]
  have ofFound (other : PathProblem) (fails : found.content = .error other) :
      other = .isAFolder := by
    cases found with
    | file old executable => cases fails
    | folder entries => exact (Except.error.inj fails).symm
  by_cases top : names = []
  · rw [top] at fails
    cases isRoot : disk.root with
    | file old executable =>
        rw [isRoot] at fails
        cases fails
    | folder entries =>
        rw [isRoot] at fails
        exact (Except.error.inj fails).symm
  · rw [content_rooted plain top] at content
    split at content
    · exact absurd (ofFound _ content.symm) (by decide)
    · exact ofFound problem (content ▸ fails)

/-- The top is not missing. -/
theorem ne_nil_of_missing {names : List String}
    (missing : disk.content (Path.rooted names) = .error .missing) : names ≠ [] := by
  rintro rfl
  rw [content_top] at missing
  split at missing <;> cases missing

/-- A file that could be opened for appending is there, and the disk has the same current
folder. -/
theorem exists_content_of_opened {names : List String} (plain : Path.ArePlain names)
    {after : Disk} (opens : Journal.opened disk (Path.rooted names) = .ok after) :
    after.currentFolder = disk.currentFolder ∧
      ∃ content, after.content (Path.rooted names) = .ok content := by
  unfold Journal.opened at opens
  cases leads : disk.find (Path.rooted names) with
  | ok node =>
      rw [leads] at opens
      cases node with
      | folder entries => cases opens
      | file content executable =>
          cases opens
          refine ⟨rfl, content, ?_⟩
          rw [content_eq, leads]
          rfl
  | error problem =>
      rw [leads] at opens
      cases problem with
      | missing =>
          have missing : disk.content (Path.rooted names) = .error .missing := by
            rw [content_eq, leads]
            rfl
          have some_name : names ≠ [] := ne_nil_of_missing missing
          obtain ⟨above, last, rfl⟩ : ∃ above last, names = above ++ [last] :=
            ⟨_, _, (List.dropLast_append_getLast some_name).symm⟩
          rw [Path.dirname_rooted plain] at opens
          cases folder : disk.find (Path.rooted above) with
          | error problem =>
              rw [folder] at opens
              cases opens
          | ok node =>
              rw [folder] at opens
              cases opens
              refine ⟨rfl, ByteArray.empty, ?_⟩
              rw [content_rooted plain some_name] at missing
              split at missing
              · cases missing
              rename_i shortPath
              have short := Node.short_of_missing
                (reached_of_find (Path.arePlain_append.1 plain).1 folder) missing
              rw [content_rooted plain some_name, if_neg shortPath, put, Path.parts_rooted plain]
              exact Node.contentAt_place_self short _
      | _ => cases opens

/-- Opening a file for appending changes no file that is there. -/
theorem content_of_opened {names others : List String} (plain : Path.ArePlain names)
    (plainOthers : Path.ArePlain others) {after : Disk}
    (opens : Journal.opened disk (Path.rooted names) = .ok after) {kept : ByteArray}
    (there : disk.content (Path.rooted others) = .ok kept) :
    after.content (Path.rooted others) = .ok kept := by
  unfold Journal.opened at opens
  cases leads : disk.find (Path.rooted names) with
  | ok node =>
      rw [leads] at opens
      cases node with
      | folder entries => cases opens
      | file content executable =>
          cases opens
          exact there
  | error problem =>
      rw [leads] at opens
      cases problem with
      | missing =>
          have missing : disk.content (Path.rooted names) = .error .missing := by
            rw [content_eq, leads]
            rfl
          simp only at opens
          split at opens
          swap
          · cases opens
          cases opens
          have some_name : names ≠ [] := ne_nil_of_missing missing
          have some_other : others ≠ [] := by
            rintro rfl
            rw [content_top] at there
            cases there
          rw [content_rooted plainOthers some_other] at there ⊢
          split at there
          · cases there
          rename_i shortOther
          rw [if_neg shortOther, put, Path.parts_rooted plain]
          rw [content_rooted plain some_name] at missing
          split at missing
          · cases missing
          exact Node.contentAt_place_new missing there
      | _ => cases opens

end Disk

end LineCensus
