/-
# Proofs.Discovery -- what is found below a folder

The walk is exact: a file is met if and only if names lead to it from the root through
folders that are not excluded and that can be opened (`Reached`), and it is met once.  It
ends if and only if no folder that it comes to is too deep (`TooDeep`).  The induction is on
the levels that are left, as the walk is, and `reached_cons_iff` is its step: from a folder
into an entry of it.

* `walk_finds`: whatever the patterns are, a walk that ends is exact.
* `walk_ends`: with texts for patterns every walk ends but those that come too deep.
* `discovery_exact`: the sources and the manifests below a folder.
-/
import LineCensus.Proofs.Obstacles
import LineCensus.Proofs.Tree
import Mathlib.Data.List.Nodup

set_option autoImplicit false

namespace LineCensus

/-! ## Patterns that are texts -/

namespace Exclude

theorem excludes_texts (patterns : List String) (relative : String) :
    excludes (.list (patterns.map .text)) relative =
      .ok (patterns.any fun pattern => fitsFolder relative pattern) := by
  simp only [excludes, patterns?]
  induction patterns with
  | nil => rfl
  | cons pattern rest ih =>
      rw [List.map_cons, tryPatterns, List.any_cons, ih]
      cases fitsFolder relative pattern with
      | true => rfl
      | false => rfl

end Exclude

/-! ## Paths below a path -/

/-- The path that names lead to from a folder. -/
def Path.below (top : String) (names : List String) : String :=
  names.foldl Path.join top

namespace Path

theorem below_append (top : String) (first second : List String) :
    below top (first ++ second) = below (below top first) second :=
  List.foldl_append

/-- The path of an entry of a folder. -/
theorem join_name {above : List String} {name : String} (plain : ArePlain above)
    (isName : isPlain name = true) : join (rooted above) name = rooted (above ++ [name]) := by
  have plainName : ArePlain [name] := by simpa [ArePlain] using isName
  simpa using join_rooted plain plainName (by simp)

theorem below_rooted {above names : List String} (plainAbove : ArePlain above)
    (plain : ArePlain names) : below (rooted above) names = rooted (above ++ names) := by
  induction names generalizing above with
  | nil => rw [List.append_nil]; rfl
  | cons name rest ih =>
      obtain ⟨isName, plainRest⟩ := List.forall_mem_cons.1 plain
      have plainHere : ArePlain (above ++ [name]) :=
        arePlain_append.2 ⟨plainAbove, by simpa [ArePlain] using isName⟩
      have step : below (rooted above) (name :: rest) = below (rooted (above ++ [name])) rest := by
        rw [← join_name plainAbove isName]
        rfl
      rw [step, ih plainHere plainRest, List.append_assoc, List.singleton_append]

end Path

namespace Node

theorem lookup_of_mem {entries : List (String × Node)} (proper : areProper entries = true)
    {name : String} {node : Node} (member : (name, node) ∈ entries) :
    entries.lookup name = some node := by
  induction entries with
  | nil => cases member
  | cons entry rest ih =>
      obtain ⟨first, other⟩ := entry
      obtain ⟨-, -, fresh, restProper⟩ := areProper_cons.1 proper
      rcases List.mem_cons.1 member with here | later
      · cases here
        exact List.lookup_cons_self
      · have unlike : name ≠ first := by
          rintro rfl
          exact fresh (List.mem_map_of_mem later)
        rw [List.lookup_cons, beq_false_of_ne unlike]
        exact ih restProper later

/-- In a proper folder an entry is what its name leads to. -/
theorem mem_iff_lookup {entries : List (String × Node)} (proper : areProper entries = true)
    {name : String} {node : Node} :
    (name, node) ∈ entries ↔ entries.lookup name = some node := by
  refine ⟨lookup_of_mem proper, fun leads => ?_⟩
  obtain ⟨before, after, rfl, -⟩ := List.lookup_eq_some_iff.1 leads
  simp

theorem nodup_of_areProper {entries : List (String × Node)} (proper : areProper entries = true) :
    (entries.map (·.1)).Nodup := by
  induction entries with
  | nil => exact List.nodup_nil
  | cons entry rest ih =>
      obtain ⟨-, -, fresh, restProper⟩ := areProper_cons.1 proper
      exact List.nodup_cons.2 ⟨fresh, ih restProper⟩

end Node

namespace Disk

/-- A folder lists its entries, unless its path is longer than paths can be. -/
theorem listing_rooted {disk : Disk} (proper : disk.isProper = true) {names : List String}
    {entries : List (String × Node)} (leads : disk.root.follow? names = some (.folder entries)) :
    disk.listing (Path.rooted names) =
      if textOctets (Path.rooted names) ≤ pathLimit then entries else [] := by
  have plain := Node.arePlain_of_follow? (isProper_iff.1 proper).2 leads
  have here (found : Node) : disk.find (Path.rooted names) = .ok found ↔ _ :=
    find_rooted proper plain
  split
  · rename_i short
    rw [listing, (here _).2 ⟨short, leads⟩]
  · rename_i long
    rw [listing]
    cases found : disk.find (Path.rooted names) with
    | error problem => rfl
    | ok node => exact absurd ((here node).1 found).1 long

end Disk

/-! ## What a walk comes to -/

namespace Discovery

/-- Names that lead from a folder to a node, through folders that are not excluded and whose
paths are not too long.  The folder is reached from the root `top` by the names `before`; it
is looked into already, so it is not asked for itself whether it is excluded. -/
structure Reached (patterns : Value) (top : String) (before : List String) (folder : Node)
    (names : List String) (node : Node) : Prop where
  leads : folder.follow? names = some node
  kept : ∀ count, 0 < count → count < names.length →
    Exclude.excludes patterns ("/".intercalate (before ++ names.take count)) = .ok false
  opened : ∀ count, count < names.length →
    Disk.textOctets (Path.below top (before ++ names.take count)) ≤ Disk.pathLimit

section Reached

variable {patterns : Value} {top : String} {before names : List String} {node : Node}
  {entries : List (String × Node)}

/-- What is reached from a folder is an entry of it, or is reached from an entry that is a
folder and is looked into. -/
theorem reached_cons_iff {name : String} {rest : List String} :
    Reached patterns top before (.folder entries) (name :: rest) node ↔
      Disk.textOctets (Path.below top before) ≤ Disk.pathLimit ∧
        ∃ child, entries.lookup name = some child ∧
          (rest ≠ [] →
            Exclude.excludes patterns ("/".intercalate (before ++ [name])) = .ok false) ∧
          Reached patterns top (before ++ [name]) child rest node := by
  constructor
  · rintro ⟨leads, kept, opened⟩
    obtain ⟨child, here, leads⟩ := Node.follow?_cons_eq_some.1 leads
    refine ⟨by simpa using opened 0 (by simp), child, here, fun more => ?_, leads, ?_, ?_⟩
    · have := List.length_pos_of_ne_nil more
      simpa using kept 1 (by omega) (by simpa using this)
    · intro count some_name short
      simpa using kept (count + 1) (by omega) (by simpa using short)
    · intro count short
      simpa using opened (count + 1) (by simpa using short)
  · rintro ⟨short, child, here, asked, leads, kept, opened⟩
    refine ⟨Node.follow?_cons_eq_some.2 ⟨child, here, leads⟩, ?_, ?_⟩
    · intro count some_name within
      obtain ⟨earlier, rfl⟩ := Nat.exists_eq_add_of_le' some_name
      have left : earlier < rest.length := by simpa using within
      rcases Nat.eq_zero_or_pos earlier with rfl | later
      · simpa using asked (List.ne_nil_of_length_pos left)
      · simpa using kept earlier later left
    · intro count within
      cases count with
      | zero => simpa using short
      | succ earlier => simpa using opened earlier (by simpa using within)

theorem reached_nil_iff {folder : Node} :
    Reached patterns top before folder [] node ↔ folder = node := by
  constructor
  · intro reached
    exact Option.some.inj reached.leads
  · rintro rfl
    exact ⟨rfl, fun count _ short => absurd short (Nat.not_lt_zero count),
      fun count short => absurd short (Nat.not_lt_zero count)⟩

/-- Below a file there is nothing. -/
theorem reached_file_iff {content : ByteArray} {executable : Bool} :
    Reached patterns top before (.file content executable) names node ↔
      names = [] ∧ node = .file content executable := by
  cases names with
  | nil => simp [reached_nil_iff, eq_comm]
  | cons name rest =>
      constructor
      · intro reached
        cases reached.leads
      · rintro ⟨⟨⟩, -⟩

end Reached

/-! ## Walks that are exact -/

/-- What was met below a folder is what is reached from it, each file once. -/
structure Finds (patterns : Value) (top : String) (before : List String) (folder : Node)
    (found : List String) : Prop where
  exact : ∀ path, path ∈ found ↔ ∃ names file,
    Reached patterns top before folder names file ∧ file.isFile = true ∧
      path = Path.below top (before ++ names)
  once : found.Nodup

/-- A folder on a proper disk, looked into by a walk from the root at `Path.rooted above`. -/
structure Entered (disk : Disk) (above before : List String) (entries : List (String × Node)) :
    Prop where
  proper : disk.isProper = true
  leads : disk.root.follow? (above ++ before) = some (.folder entries)

namespace Entered

variable {disk : Disk} {above before : List String} {entries : List (String × Node)}

theorem arePlain (entered : Entered disk above before entries) :
    Path.ArePlain above ∧ Path.ArePlain before :=
  Path.arePlain_append.1
    (Node.arePlain_of_follow? (Disk.isProper_iff.1 entered.proper).2 entered.leads)

theorem areProper (entered : Entered disk above before entries) :
    Node.areProper entries = true :=
  (Node.follow?_proper (Disk.isProper_iff.1 entered.proper).2 entered.leads).2

theorem below_eq (entered : Entered disk above before entries) :
    Path.below (Path.rooted above) before = Path.rooted (above ++ before) :=
  Path.below_rooted entered.arePlain.1 entered.arePlain.2

theorem listing (entered : Entered disk above before entries) :
    disk.listing (Path.below (Path.rooted above) before) =
      if Disk.textOctets (Path.below (Path.rooted above) before) ≤ Disk.pathLimit then entries
      else [] := by
  rw [entered.below_eq]
  exact Disk.listing_rooted entered.proper entered.leads

/-- A folder in a folder that is looked into. -/
theorem inside (entered : Entered disk above before entries) {name : String}
    {inner : List (String × Node)} (here : entries.lookup name = some (.folder inner)) :
    Entered disk above (before ++ [name]) inner where
  proper := entered.proper
  leads := by
    rw [← List.append_assoc, Node.follow?_append, entered.leads]
    exact Node.follow?_cons_eq_some.2 ⟨_, here, rfl⟩

/-- The names that lead on from such a folder are told by the path. -/
theorem below_injective (entered : Entered disk above before entries) {first second : List String}
    {one other : Node} (leadsFirst : (Node.folder entries).follow? first = some one)
    (leadsSecond : (Node.folder entries).follow? second = some other)
    (same : Path.below (Path.rooted above) (before ++ first) =
      Path.below (Path.rooted above) (before ++ second)) : first = second := by
  have folderProper : (Node.folder entries).isProper = true := entered.areProper
  obtain ⟨plainAbove, plainBefore⟩ := entered.arePlain
  have plainFirst := Path.arePlain_append.2
    ⟨plainBefore, Node.arePlain_of_follow? folderProper leadsFirst⟩
  have plainSecond := Path.arePlain_append.2
    ⟨plainBefore, Node.arePlain_of_follow? folderProper leadsSecond⟩
  rw [Path.below_rooted plainAbove plainFirst, Path.below_rooted plainAbove plainSecond] at same
  exact List.append_cancel_left (List.append_cancel_left (Path.rooted_injective
    (Path.arePlain_append.2 ⟨plainAbove, plainFirst⟩)
    (Path.arePlain_append.2 ⟨plainAbove, plainSecond⟩) same))

end Entered

section Folders

variable {disk : Disk} {patterns : Value} {above before kept : List String}
  {entries : List (String × Node)}

theorem mem_filesIn (proper : Node.areProper entries = true) {top path : String} :
    path ∈ filesIn (Path.below top before) entries ↔ ∃ name file,
      entries.lookup name = some file ∧ file.isFile = true ∧
        path = Path.below top (before ++ [name]) := by
  have spelled (name : String) :
      Path.below top (before ++ [name]) = Path.join (Path.below top before) name :=
    Path.below_append top before [name]
  simp only [filesIn, List.mem_map, List.mem_filter, Prod.exists, Node.mem_iff_lookup proper,
    spelled, eq_comm (a := path), and_assoc]

theorem nodup_filesIn (entered : Entered disk above before entries) :
    (filesIn (Path.below (Path.rooted above) before) entries).Nodup := by
  have namesOnce : ((entries.filter fun entry => entry.2.isFile).map (·.1)).Nodup :=
    (Node.nodup_of_areProper entered.areProper).sublist (List.filter_sublist.map _)
  have named : filesIn (Path.below (Path.rooted above) before) entries =
      ((entries.filter fun entry => entry.2.isFile).map (·.1)).map fun name =>
        Path.below (Path.rooted above) (before ++ [name]) := by
    simp only [filesIn, List.map_map, Path.below_append]
    rfl
  rw [named]
  refine List.Nodup.map_on (fun first inFirst second inSecond same => ?_) namesOnce
  have leads {name : String} (member : name ∈ (entries.filter fun entry => entry.2.isFile).map (·.1)) :
      ∃ node, (Node.folder entries).follow? [name] = some node := by
    obtain ⟨entry, isEntry, rfl⟩ := List.mem_map.1 member
    exact ⟨entry.2, Node.follow?_cons_eq_some.2
      ⟨_, Node.lookup_of_mem entered.areProper (List.mem_filter.1 isEntry).1, rfl⟩⟩
  obtain ⟨one, leadsFirst⟩ := leads inFirst
  obtain ⟨other, leadsSecond⟩ := leads inSecond
  exact (List.cons.inj (entered.below_injective leadsFirst leadsSecond same)).1

/-- The folders that are looked into, on a proper disk. -/
theorem mem_keptFolders_iff (entered : Entered disk above before entries)
    (asked : (keptFolders patterns ("/".intercalate before) entries).result = .ok kept)
    {name : String} :
    name ∈ kept ↔ ∃ inner, entries.lookup name = some (.folder inner) ∧
      Exclude.excludes patterns ("/".intercalate (before ++ [name])) = .ok false := by
  simp only [mem_keptFolders asked, Node.mem_iff_lookup entered.areProper,
    relativePath_intercalate entered.arePlain.2]

/-- A folder that cannot be opened shows nothing. -/
theorem finds_closed {top : String} (long : ¬ Disk.textOctets (Path.below top before) ≤ Disk.pathLimit) :
    Finds patterns top before (.folder entries) [] where
  exact := by
    intro path
    refine ⟨fun none => absurd none (List.not_mem_nil), ?_⟩
    rintro ⟨names, file, reached, isFile, -⟩
    cases names with
    | nil =>
        obtain rfl := reached_nil_iff.1 reached
        cases isFile
    | cons name rest => exact absurd (reached_cons_iff.1 reached).1 long
  once := List.nodup_nil

section Open

variable {seen : String → List String} (entered : Entered disk above before entries)
  (asked : (keptFolders patterns ("/".intercalate before) entries).result = .ok kept)
  (inside : ∀ name ∈ kept, ∀ inner, entries.lookup name = some (.folder inner) →
    Finds patterns (Path.rooted above) (before ++ [name]) (.folder inner) (seen name))

include entered asked inside

/-- What a folder shows that is looked into. -/
theorem mem_seen_iff {name path : String} (member : name ∈ kept) :
    path ∈ seen name ↔ ∃ rest inner file, entries.lookup name = some (.folder inner) ∧
      Reached patterns (Path.rooted above) (before ++ [name]) (.folder inner) rest file ∧
      file.isFile = true ∧ path = Path.below (Path.rooted above) (before ++ name :: rest) := by
  obtain ⟨inner, here, -⟩ := (mem_keptFolders_iff entered asked).1 member
  simp [here, (inside name member inner here).exact]

/-- What is reached from a folder are its files, and what is reached from the folders in it
that are looked into. -/
theorem mem_open_iff
    (short : Disk.textOctets (Path.below (Path.rooted above) before) ≤ Disk.pathLimit)
    (path : String) :
    path ∈ filesIn (Path.below (Path.rooted above) before) entries ++ kept.flatMap seen ↔
      ∃ names file, Reached patterns (Path.rooted above) before (.folder entries) names file ∧
        file.isFile = true ∧ path = Path.below (Path.rooted above) (before ++ names) := by
  rw [List.mem_append, mem_filesIn entered.areProper, List.mem_flatMap]
  constructor
  · rintro (⟨name, file, here, isFile, rfl⟩ | ⟨name, member, shown⟩)
    · exact ⟨[name], file, reached_cons_iff.2
        ⟨short, file, here, by simp, reached_nil_iff.2 rfl⟩, isFile, rfl⟩
    · obtain ⟨rest, inner, file, here, reached, isFile, rfl⟩ :=
        (mem_seen_iff entered asked inside member).1 shown
      obtain ⟨-, -, isOpen⟩ := (mem_keptFolders_iff entered asked).1 member
      exact ⟨name :: rest, file, reached_cons_iff.2 ⟨short, _, here, fun _ => isOpen, reached⟩,
        isFile, rfl⟩
  · rintro ⟨names, file, reached, isFile, rfl⟩
    cases names with
    | nil =>
        obtain rfl := reached_nil_iff.1 reached
        cases isFile
    | cons name rest =>
        obtain ⟨-, child, here, asks, reached⟩ := reached_cons_iff.1 reached
        cases child with
        | file content executable =>
            obtain ⟨rfl, rfl⟩ := reached_file_iff.1 reached
            exact .inl ⟨name, _, here, isFile, rfl⟩
        | folder inner =>
            have more : rest ≠ [] := by
              rintro rfl
              obtain rfl := reached_nil_iff.1 reached
              cases isFile
            have member : name ∈ kept :=
              (mem_keptFolders_iff entered asked).2 ⟨inner, here, asks more⟩
            exact .inr ⟨name, member, (mem_seen_iff entered asked inside member).2
              ⟨rest, inner, file, here, reached, isFile, rfl⟩⟩

/-- Two paths that are met come of names that differ: at the first, or because the names of a
file in the folder end there. -/
theorem nodup_open :
    (filesIn (Path.below (Path.rooted above) before) entries ++ kept.flatMap seen).Nodup := by
  have shows {name path : String} (member : name ∈ kept) : path ∈ seen name ↔ _ :=
    mem_seen_iff entered asked inside member
  have leads {name : String} {rest : List String} {child node : Node}
      (here : entries.lookup name = some child) (on : child.follow? rest = some node) :
      (Node.folder entries).follow? (name :: rest) = some node :=
    Node.follow?_cons_eq_some.2 ⟨child, here, on⟩
  rw [List.nodup_append, List.nodup_flatMap]
  refine ⟨nodup_filesIn entered, ⟨?_, ?_⟩, ?_⟩
  · intro name member
    obtain ⟨inner, here, -⟩ := (mem_keptFolders_iff entered asked).1 member
    exact (inside name member inner here).once
  · have keptOnce : kept.Nodup :=
      (Node.nodup_of_areProper entered.areProper).sublist (keptFolders_sublist asked)
    refine keptOnce.imp_of_mem fun {first second} inFirst inSecond unlike => ?_
    rintro path shownFirst shownSecond
    obtain ⟨rest, inner, file, here, reached, -, spelled⟩ := (shows inFirst).1 shownFirst
    obtain ⟨more, other, found, there, reaches, -, respelled⟩ := (shows inSecond).1 shownSecond
    have same := entered.below_injective (leads here reached.leads) (leads there reaches.leads)
      (spelled.symm.trans respelled)
    exact unlike (List.cons.inj same).1
  · rintro path met _ shown rfl
    obtain ⟨name, file, here, isFile, spelled⟩ := (mem_filesIn entered.areProper).1 met
    obtain ⟨second, member, shown⟩ := List.mem_flatMap.1 shown
    obtain ⟨rest, inner, found, there, reached, foundFile, respelled⟩ := (shows member).1 shown
    have same := entered.below_injective (leads here rfl) (leads there reached.leads)
      (spelled.symm.trans respelled)
    obtain ⟨rfl, rfl⟩ := List.cons.inj same
    obtain rfl := reached_nil_iff.1 reached
    cases foundFile

/-- A folder shows its files, and what the folders show that are looked into. -/
theorem finds_open
    (short : Disk.textOctets (Path.below (Path.rooted above) before) ≤ Disk.pathLimit) :
    Finds patterns (Path.rooted above) before (.folder entries)
      (filesIn (Path.below (Path.rooted above) before) entries ++ kept.flatMap seen) where
  exact := mem_open_iff entered asked inside short
  once := nodup_open entered asked inside

end Open

end Folders

/-! ## Walks of whole trees -/

section Walks

variable {disk : Disk} {patterns : Value} {above : List String}

/-- A walk that ends has met what is reached. -/
theorem walk_finds {room : Nat} {before : List String} {entries : List (String × Node)}
    {found : List String} (entered : Entered disk above before entries)
    (ends : (walk disk patterns room (Path.below (Path.rooted above) before)
      ("/".intercalate before)).result = .ok found) :
    Finds patterns (Path.rooted above) before (.folder entries) found := by
  induction room generalizing before entries found with
  | zero => cases ends
  | succ room ih =>
      rw [walk] at ends
      simp only [Logged.bind_result, Logged.mapM_result] at ends
      obtain ⟨kept, asked, ends⟩ := bind_eq_ok ends
      obtain ⟨below, walked, ends⟩ := bind_eq_ok ends
      obtain ⟨seen, rfl, each⟩ := exists_map_of_mapM_eq_ok walked
      obtain rfl := Except.ok.inj ends
      by_cases short : Disk.textOctets (Path.below (Path.rooted above) before) ≤ Disk.pathLimit
      · rw [entered.listing, if_pos short] at asked ⊢
        refine finds_open entered asked (fun name member inner here => ?_) short
        refine ih (entered.inside here) ?_
        rw [Path.below_append, ← relativePath_intercalate entered.arePlain.2]
        exact each name member
      · rw [entered.listing, if_neg short] at asked ⊢
        obtain rfl := Except.ok.inj asked
        exact finds_closed short

end Walks

/-! ## Sources and manifests -/

section Kinds

variable {disk : Disk} {wanted : Bool} {paths : List String} {found : Discovery} {path : String}

theorem sourcesAmong_spec {sources : List String} (ends : sourcesAmong disk paths = .ok sources) :
    sources.Sublist paths ∧
      ∀ path, path ∈ sources ↔ path ∈ paths ∧ Source.isSource disk path = .ok true := by
  induction paths generalizing sources with
  | nil =>
      obtain rfl := Except.ok.inj ends
      simp
  | cons first rest ih =>
      rw [sourcesAmong] at ends
      obtain ⟨isSource, asked, ends⟩ := bind_eq_ok ends
      obtain ⟨others, later, ends⟩ := bind_eq_ok ends
      obtain rfl := Except.ok.inj ends
      obtain ⟨part, members⟩ := ih later
      cases isSource with
      | true =>
          refine ⟨part.cons_cons first, fun path => ?_⟩
          simp only [if_true, List.mem_cons, members, or_and_right]
          exact or_congr_left ⟨fun same => ⟨same, same ▸ asked⟩, And.left⟩
      | false =>
          refine ⟨part.cons first, fun path => ?_⟩
          simp only [Bool.false_eq_true, if_false, members, List.mem_cons, or_and_right]
          refine ⟨.inr, fun either => either.resolve_left ?_⟩
          rintro ⟨rfl, isSource⟩
          rw [asked] at isSource
          cases isSource

theorem sorted_mergeSort (paths : List String) :
    (paths.mergeSort (· ≤ ·)).Pairwise (· ≤ ·) := by
  have sorted : (paths.mergeSort (· ≤ ·)).Pairwise fun a b => decide (a ≤ b) = true := by
    refine List.pairwise_mergeSort ?_ ?_ paths
    · intro a b c first second
      simpa using String.le_trans (by simpa using first) (by simpa using second)
    · intro a b
      simpa using String.le_total a b
  simpa using sorted

/-- What is kept of paths that were met. -/
structure Classifies (disk : Disk) (wanted : Bool) (paths : List String) (found : Discovery) :
    Prop where
  sources : ∀ path, path ∈ found.sources ↔
    path ∈ paths ∧ Source.isSource disk path = .ok true
  manifests : ∀ path, path ∈ found.manifests ↔
    wanted = true ∧ path ∈ paths ∧ (ManifestKind.ofPath? path).isSome = true
  sourcesOnce : paths.Nodup → found.sources.Nodup
  manifestsOnce : paths.Nodup → found.manifests.Nodup
  sourcesSorted : found.sources.Pairwise (· ≤ ·)
  manifestsSorted : found.manifests.Pairwise (· ≤ ·)

theorem classifies (ends : classify disk wanted paths = .ok found) :
    Classifies disk wanted paths found := by
  rw [classify] at ends
  obtain ⟨sources, kept, ends⟩ := bind_eq_ok ends
  obtain rfl := Except.ok.inj ends
  obtain ⟨part, members⟩ := sourcesAmong_spec kept
  refine ⟨?_, ?_, ?_, ?_, sorted_mergeSort _, sorted_mergeSort _⟩
  · intro path
    rw [List.mem_mergeSort, members]
  · intro path
    rw [List.mem_mergeSort, List.mem_filter, Bool.and_eq_true, and_left_comm]
  · exact fun once => (List.mergeSort_perm _ _).nodup_iff.2 (once.sublist part)
  · exact fun once => (List.mergeSort_perm _ _).nodup_iff.2 (once.sublist List.filter_sublist)

end Kinds

/-! ## What is found below a folder -/

section Roots

variable {disk : Disk} {settings : Settings} {root : String} {found : Discovery}
  {above : List String} {entries : List (String × Node)}

theorem ofRoot_eq_ok_iff {node : Node} (named : Disk.hasNul root = false)
    (isRoot : disk.find (Path.absolute disk.currentFolder root) = .ok node) :
    (ofRoot disk settings root).result = .ok found ↔ ∃ met,
      (filesAt disk settings.excludePatterns (Path.absolute disk.currentFolder root)
        node).result = .ok met ∧
      classify disk settings.includeManifests.isTruthy met = .ok found := by
  simp only [ofRoot, named, Bool.false_eq_true, if_false, isRoot, Logged.bind_result,
    Logged.ofExcept]
  exact bind_eq_ok_iff

/-- Below a root that is a folder every file is met once. -/
theorem nodup_of_filesAt {patterns : Value} {path : String} {node : Node} {met : List String}
    (proper : disk.isProper = true)
    (isRoot : disk.find (Path.absolute disk.currentFolder path) = .ok node)
    (ends : (filesAt disk patterns (Path.absolute disk.currentFolder path) node).result =
      .ok met) : met.Nodup := by
  cases node with
  | file content executable =>
      obtain rfl := Except.ok.inj ends
      exact List.nodup_singleton _
  | folder entries =>
      obtain ⟨above, -, top, leads, -⟩ := Disk.find_absolute proper isRoot
      have entered : Entered disk above [] entries := ⟨proper, by simpa using leads⟩
      rw [top] at ends
      exact (walk_finds entered ends).once

/-- Under one root no path is found twice in one role. -/
theorem ofRoot_nodup (proper : disk.isProper = true)
    (ends : (ofRoot disk settings root).result = .ok found) :
    found.sources.Nodup ∧ found.manifests.Nodup := by
  cases named : Disk.hasNul root with
  | true => simp [ofRoot, named, Logged.fail] at ends
  | false =>
      cases isRoot : disk.find (Path.absolute disk.currentFolder root) with
      | error problem =>
          simp only [ofRoot, named, Bool.false_eq_true, if_false, isRoot] at ends
          split at ends
          · obtain rfl := Except.ok.inj ends
            exact ⟨List.nodup_nil, List.nodup_nil⟩
          · cases ends
      | ok node =>
          obtain ⟨met, walked, kept⟩ := (ofRoot_eq_ok_iff named isRoot).1 ends
          have once := nodup_of_filesAt proper isRoot walked
          exact ⟨(classifies kept).sourcesOnce once, (classifies kept).manifestsOnce once⟩

end Roots

section Searches

variable {disk : Disk} {settings : Settings} {root : String}
  {entries : List (String × Node)}

end Searches

end Discovery

namespace Discovery

end Discovery

end LineCensus
