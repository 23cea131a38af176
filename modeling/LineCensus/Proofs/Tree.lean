/-
# Proofs.Tree -- proper disks, and following names on them

On a proper disk every name can be the name of an entry and no folder holds a name
twice.  `Node.follow?` goes down by names alone.  Finding an absolute path on a proper
disk is that, as far as the path is not too long (`Disk.find_rooted`), and the names
on the way are then names of entries (`Node.follow?_proper`).
-/
import LineCensus.Proofs.Paths

set_option autoImplicit false

namespace LineCensus

/-! ## Proper trees -/

/-- A name that an entry can have. -/
def Path.isName (name : String) : Bool :=
  isPlain name && !Disk.hasNul name && Disk.textOctets name ≤ Disk.nameLimit

theorem Path.isName_iff {name : String} :
    isName name = true ↔ isPlain name = true ∧ Disk.hasNul name = false ∧
      Disk.textOctets name ≤ Disk.nameLimit := by
  simp [isName, and_assoc]

namespace Node

mutual

/-- Every name below the node can be one, and no folder holds a name twice. -/
def isProper : Node → Bool
  | .file _ _ => true
  | .folder entries => areProper entries

def areProper : List (String × Node) → Bool
  | [] => true
  | (name, node) :: rest =>
      Path.isName name && node.isProper && !(rest.map (·.1)).contains name && areProper rest

end

theorem areProper_cons {name : String} {node : Node} {rest : List (String × Node)} :
    areProper ((name, node) :: rest) = true ↔
      Path.isName name = true ∧ node.isProper = true ∧ name ∉ rest.map (·.1) ∧
        areProper rest = true := by
  simp [areProper, and_assoc]

theorem child?_proper {node child : Node} {name : String} (proper : node.isProper = true)
    (leads : node.child? name = some child) :
    Path.isName name = true ∧ child.isProper = true := by
  cases node with
  | file content executable => cases leads
  | folder entries =>
      obtain ⟨before, after, rfl, -⟩ := List.lookup_eq_some_iff.1 leads
      simp only [isProper] at proper
      clear leads
      induction before with
      | nil =>
          obtain ⟨isName, proper, -, -⟩ := areProper_cons.1 proper
          exact ⟨isName, proper⟩
      | cons entry before ih => exact ih (areProper_cons.1 proper).2.2.2

/-! ## Following names -/

/-- The node that names lead to. -/
def follow? (node : Node) : List String → Option Node
  | [] => some node
  | name :: rest => (node.child? name).bind fun child => child.follow? rest

theorem follow?_cons_eq_some {node found : Node} {name : String} {rest : List String} :
    node.follow? (name :: rest) = some found ↔
      ∃ child, node.child? name = some child ∧ child.follow? rest = some found := by
  rw [follow?, Option.bind_eq_some_iff]

theorem follow?_append (node : Node) (first second : List String) :
    node.follow? (first ++ second) =
      (node.follow? first).bind fun middle => middle.follow? second := by
  induction first generalizing node with
  | nil => rfl
  | cons name rest ih =>
      simp only [List.cons_append, follow?]
      cases node.child? name with
      | none => rfl
      | some child => exact ih child

/-- Names that lead somewhere in a proper tree are names of entries. -/
theorem follow?_proper {node found : Node} {names : List String} (proper : node.isProper = true)
    (leads : node.follow? names = some found) :
    (∀ name ∈ names, Path.isName name = true) ∧ found.isProper = true := by
  induction names generalizing node with
  | nil =>
      obtain rfl : node = found := Option.some.inj leads
      exact ⟨by simp, proper⟩
  | cons name rest ih =>
      obtain ⟨child, here, leads⟩ := follow?_cons_eq_some.1 leads
      obtain ⟨isName, proper⟩ := child?_proper proper here
      obtain ⟨areNames, found_proper⟩ := ih proper leads
      exact ⟨List.forall_mem_cons.2 ⟨isName, areNames⟩, found_proper⟩

theorem arePlain_of_follow? {node found : Node} {names : List String}
    (proper : node.isProper = true) (leads : node.follow? names = some found) :
    Path.ArePlain names := by
  intro name member
  exact (Path.isName_iff.1 ((follow?_proper proper leads).1 name member)).1

end Node

/-! ## Finding a path -/

namespace Disk

/-- The top is a folder and everything below it is proper. -/
def isProper (disk : Disk) : Bool :=
  !disk.root.isFile && disk.root.isProper

theorem isProper_iff {disk : Disk} :
    disk.isProper = true ↔ disk.root.isFile = false ∧ disk.root.isProper = true := by
  simp [isProper]

/-- A plain name leads from a folder to its entry. -/
theorem descend_folder {name : String} (plain : Path.isPlain name = true)
    (entries : List (String × Node)) (above : List Node) (rest : List String) :
    descend (.folder entries) above (name :: rest) =
      if nameLimit < textOctets name then .error .nameTooLong
      else (entries.lookup name).elim (.error .missing) fun next =>
        descend next (.folder entries :: above) rest := by
  obtain ⟨unempty, undotted, down, -⟩ := Path.isPlain_iff.1 plain
  conv_lhs => unfold descend
  simp only [unempty, undotted, or_self, if_false, if_neg down]
  cases entries.lookup name with
  | none => rfl
  | some next => rfl

/-- An empty part stays where it is. -/
theorem descend_empty (entries : List (String × Node)) (above : List Node)
    (rest : List String) :
    descend (.folder entries) above ("" :: rest) = descend (.folder entries) above rest := by
  conv_lhs => unfold descend
  simp only [true_or, if_true]

/-- Plain names mean the same on the way down as they do in a tree. -/
theorem descend_eq_ok_iff {names : List String} (plain : Path.ArePlain names) {node found : Node}
    (above : List Node) :
    descend node above names = .ok found ↔
      node.follow? names = some found ∧ ∀ name ∈ names, textOctets name ≤ nameLimit := by
  induction names generalizing node above with
  | nil => simp [descend, Node.follow?]
  | cons name rest ih =>
      rw [Node.follow?_cons_eq_some, List.forall_mem_cons]
      cases node with
      | file content executable => simp [descend, Node.child?]
      | folder entries =>
          rw [descend_folder (plain name (by simp)), Node.child?]
          by_cases long : nameLimit < textOctets name
          · rw [if_pos long]
            simp [Nat.not_le.2 long]
          · rw [if_neg long]
            cases entries.lookup name with
            | none => simp
            | some child =>
                have plainRest : Path.ArePlain rest :=
                  fun other member => plain other (List.mem_cons_of_mem name member)
                simp only [Option.elim_some, ih plainRest, Nat.not_lt.1 long, true_and,
                  Option.some.injEq, exists_eq_left']

/-- Finding the path of plain names is following them, if the path is not too long. -/
theorem find_rooted {disk : Disk} (proper : disk.isProper = true) {names : List String}
    (plain : Path.ArePlain names) {found : Node} :
    disk.find (Path.rooted names) = .ok found ↔
      textOctets (Path.rooted names) ≤ pathLimit ∧ disk.root.follow? names = some found := by
  obtain ⟨isFolder, rootProper⟩ := isProper_iff.1 proper
  obtain ⟨entries, isRoot⟩ : ∃ entries, disk.root = .folder entries := by
    cases isRoot : disk.root with
    | file content executable => simp [isRoot, Node.isFile] at isFolder
    | folder entries => exact ⟨entries, rfl⟩
  have unempty : (Path.rooted names).isEmpty = false := by
    simp [Path.rooted_eq]
  have whole : Path.join disk.currentFolder (Path.rooted names) = Path.rooted names := by
    simp [Path.join, Path.isAbsolute, Path.toList_rooted]
  rw [find, unempty, if_neg (by simp)]
  by_cases long : pathLimit < textOctets (Path.rooted names)
  · rw [if_pos long]
    simp [Nat.not_le.2 long]
  rw [if_neg long]
  simp only [whole, Nat.not_lt.1 long, true_and]
  by_cases top : names = []
  · rw [top, Path.segments_rooted_nil, isRoot, descend_empty, descend_empty]
    simp [descend, Node.follow?]
  · rw [Path.segments_rooted plain top, isRoot, descend_empty, ← isRoot,
      descend_eq_ok_iff plain, and_iff_left_iff_imp]
    intro leads name member
    exact (Path.isName_iff.1 ((Node.follow?_proper rootProper leads).1 name member)).2.2

/-- What a path leads to once it is made absolute is what names lead to. -/
theorem find_absolute {disk : Disk} (proper : disk.isProper = true) {folder path : String}
    {found : Node} (leads : disk.find (Path.absolute folder path) = .ok found) :
    ∃ names, Path.ArePlain names ∧ Path.absolute folder path = Path.rooted names ∧
      disk.root.follow? names = some found ∧ found.isProper = true := by
  obtain ⟨names, plain, spelled⟩ := Path.absolute_eq_rooted folder path
  rw [spelled] at leads
  obtain ⟨-, follows⟩ := (find_rooted proper plain).1 leads
  exact ⟨names, plain, spelled, follows,
    (Node.follow?_proper (isProper_iff.1 proper).2 follows).2⟩

end Disk
end LineCensus
