/-
# Proofs.Listing -- what is counted of listed files

Every file that is listed is in exactly one group of each kind: it has one extension,
one directory, and one size class if it is there (`total_extensionCounts`,
`total_directoryCounts`, `SizeCounts.total_ofFiles`).  The coarse sizes are the fine
ones with the two largest classes in one (`coarse_ofFiles`), and the largest files are
the head of a ranking of all (`LargeFile.paths_of_ofFiles`).
-/
import LineCensus.Listing.Distribution
import LineCensus.Listing.Largest
import LineCensus.Proofs.Step
import Mathlib.Data.List.Induction

set_option autoImplicit false

namespace LineCensus

/-! ## Tallies -/

namespace Tally

/-- How often all keys were seen together. -/
def total (tally : Tally) : Int :=
  sumInt (tally.map (·.2))

theorem total_add (key : String) (tally : Tally) : (tally.add key).total = tally.total + 1 := by
  induction tally with
  | nil => rfl
  | cons entry rest ih =>
      unfold total at ih ⊢
      rw [add]
      split
      · simp only [List.map_cons, sumInt_cons]
        omega
      · simp only [List.map_cons, sumInt_cons, ih]
        omega

/-- Every key that is counted shows in the total. -/
theorem total_ofKeys (keys : List String) : (ofKeys keys).total = keys.length := by
  have counted (tally : Tally) :
      (keys.foldl (fun tally key => tally.add key) tally).total = tally.total + keys.length := by
    induction keys generalizing tally with
    | nil => simp
    | cons key rest ih =>
        rw [List.foldl_cons, ih, total_add, List.length_cons]
        omega
  rw [ofKeys, counted, total, List.map_nil, sumInt_nil, Int.zero_add]

theorem total_byCount (tally : Tally) : tally.byCount.total = tally.total := by
  have same : tally.byCount.Perm tally := List.mergeSort_perm tally _
  exact sumInt_perm (same.map (·.2))

/-- The keys of a tally, in order. -/
def keys (tally : Tally) : List String :=
  tally.map (·.1)

theorem lookup_cons (key k : String) (n : Int) (rest : Tally) :
    ((k, n) :: rest).lookup key = if key = k then some n else rest.lookup key := by
  rw [List.lookup_cons]
  by_cases same : key = k
  · rw [if_pos same, beq_iff_eq.2 same]
  · rw [if_neg same, beq_eq_false_iff_ne.2 same]

theorem lookup_add (key : String) (tally : Tally) (other : String) :
    (tally.add key).lookup other =
      if other = key then some ((tally.lookup key).getD 0 + 1) else tally.lookup other := by
  induction tally with
  | nil =>
      rw [add, lookup_cons]
      rfl
  | cons entry rest ih =>
      obtain ⟨k, n⟩ := entry
      rw [add]
      by_cases here : k = key
      · subst here
        rw [if_pos rfl, lookup_cons, lookup_cons, lookup_cons, if_pos rfl]
        by_cases same : other = k
        · rw [if_pos same, if_pos same, Option.getD_some]
        · rw [if_neg same, if_neg same, if_neg same]
      · rw [if_neg here, lookup_cons, lookup_cons, lookup_cons, if_neg (Ne.symm here), ih]
        by_cases first : other = k
        · subst first
          rw [if_pos rfl, if_neg here, if_pos rfl]
        · rw [if_neg first, if_neg first]

theorem mem_keys_add {key other : String} {tally : Tally} :
    other ∈ (tally.add key).keys ↔ other = key ∨ other ∈ tally.keys := by
  induction tally with
  | nil => simp [add, keys]
  | cons entry rest ih =>
      obtain ⟨k, n⟩ := entry
      rw [add]
      by_cases here : k = key
      · subst here
        simp [keys]
      · rw [if_neg here]
        simp only [keys, List.map_cons, List.mem_cons] at ih ⊢
        rw [ih]
        exact or_left_comm

theorem nodup_add {tally : Tally} (once : tally.keys.Nodup) (key : String) :
    (tally.add key).keys.Nodup := by
  induction tally with
  | nil => simp [add, keys]
  | cons entry rest ih =>
      obtain ⟨k, n⟩ := entry
      obtain ⟨fresh, once⟩ := List.nodup_cons.1 once
      rw [add]
      by_cases here : k = key
      · rw [if_pos here]
        exact List.nodup_cons.2 ⟨fresh, once⟩
      · rw [if_neg here]
        refine List.nodup_cons.2 ⟨fun old => ?_, ih once⟩
        rcases mem_keys_add.1 old with same | old
        · exact here same
        · exact fresh old

/-- Every key that was seen has the number of times it was seen. -/
theorem lookup_ofKeys (keys : List String) (key : String) :
    (ofKeys keys).lookup key = if keys.count key = 0 then none else some (keys.count key : Int) := by
  have counted (tally : Tally) :
      (keys.foldl (fun tally key => tally.add key) tally).lookup key =
        if keys.count key = 0 then tally.lookup key
        else some ((tally.lookup key).getD 0 + keys.count key) := by
    induction keys generalizing tally with
    | nil => simp
    | cons first rest ih =>
        rw [List.foldl_cons, ih, lookup_add, List.count_cons]
        by_cases same : first = key
        · subst same
          by_cases last : rest.count first = 0
          · simp [last]
          · simp only [if_true, beq_self_eq_true, if_neg last, Option.getD_some]
            rw [if_neg (by omega)]
            congr 1
            omega
        · have other : (first == key) = false := beq_eq_false_iff_ne.2 same
          simp [other, Ne.symm same]
  rw [ofKeys, counted]
  simp

theorem nodup_ofKeys (keys : List String) : (ofKeys keys).keys.Nodup := by
  have once (tally : Tally) (before : tally.keys.Nodup) :
      (keys.foldl (fun tally key => tally.add key) tally).keys.Nodup := by
    induction keys generalizing tally with
    | nil => exact before
    | cons first rest ih => exact ih _ (nodup_add before first)
  exact once [] List.nodup_nil

theorem keys_cons (k : String) (n : Int) (rest : Tally) : keys ((k, n) :: rest) = k :: keys rest :=
  rfl

theorem keys_add (key : String) (tally : Tally) :
    (tally.add key).keys = if key ∈ tally.keys then tally.keys else tally.keys ++ [key] := by
  induction tally with
  | nil => rfl
  | cons entry rest ih =>
      obtain ⟨k, n⟩ := entry
      rw [add]
      by_cases here : k = key
      · subst here
        simp [keys_cons]
      · simp only [if_neg here, keys_cons, ih, List.mem_cons, Ne.symm here, false_or]
        by_cases seen : key ∈ keys rest
        · rw [if_pos seen, if_pos seen]
        · rw [if_neg seen, if_neg seen, List.cons_append]

/-- The keys stand in the order in which they were first seen. -/
theorem keys_ofKeys (keys : List String) : (ofKeys keys).keys = keys.eraseDups := by
  induction keys using List.reverseRecOn with
  | nil => rfl
  | append_singleton before key ih =>
      have added : ofKeys (before ++ [key]) = (ofKeys before).add key := by
        rw [ofKeys, List.foldl_append]
        rfl
      rw [added, keys_add, ih, List.eraseDups_append]
      by_cases seen : key ∈ before
      · simp [List.removeAll, seen]
      · simp [List.removeAll, seen, List.eraseDups_cons]

/-- With every key once, a tally is what is found in it. -/
theorem eq_map_lookup {tally : Tally} (once : tally.keys.Nodup) :
    tally = tally.keys.map fun key => (key, (tally.lookup key).getD 0) := by
  induction tally with
  | nil => rfl
  | cons entry rest ih =>
      obtain ⟨k, n⟩ := entry
      obtain ⟨fresh, once⟩ := List.nodup_cons.1 once
      have later : (keys rest).map (fun key => (key, (rest.lookup key).getD 0)) =
          (keys rest).map fun key => (key, (List.lookup key ((k, n) :: rest)).getD 0) := by
        apply List.map_congr_left
        intro key member
        have apart : key ≠ k := by
          rintro rfl
          exact fresh member
        rw [lookup_cons, if_neg apart]
      show (k, n) :: rest = (k, (List.lookup k ((k, n) :: rest)).getD 0) :: _
      rw [lookup_cons, if_pos rfl, Option.getD_some]
      congr 1
      exact (ih once).trans later

/-- A tally in one line: every key once, where it was first seen, with its number. -/
theorem ofKeys_eq (keys : List String) :
    ofKeys keys = keys.eraseDups.map fun key => (key, (keys.count key : Int)) := by
  rw [eq_map_lookup (nodup_ofKeys keys), keys_ofKeys]
  apply List.map_congr_left
  intro key member
  have seen : keys.count key ≠ 0 := by
    have positive := List.count_pos_iff.2 (List.mem_eraseDups.1 member)
    omega
  rw [lookup_ofKeys, if_neg seen, Option.getD_some]

/-- With every key once, the order of the entries does not change what is found. -/
theorem lookup_perm {tally tally' : Tally} (same : tally.Perm tally') (once : tally.keys.Nodup)
    (key : String) : tally.lookup key = tally'.lookup key := by
  induction same with
  | nil => rfl
  | cons entry _ ih =>
      obtain ⟨k, n⟩ := entry
      rw [lookup_cons, lookup_cons, ih (List.nodup_cons.1 once).2]
  | swap first second rest =>
      obtain ⟨k, n⟩ := first
      obtain ⟨l, m⟩ := second
      have apart : l ≠ k := fun same => (List.nodup_cons.1 once).1 (by simp [same])
      simp only [lookup_cons]
      by_cases here : key = k
      · rw [if_pos here, if_pos here, if_neg fun there => apart (there.symm.trans here)]
      · rw [if_neg here, if_neg here]
  | @trans _ middle _ first _ ih ih' =>
      have onceStill : (keys middle).Nodup := (first.map Prod.fst).nodup_iff.1 once
      exact (ih once).trans (ih' onceStill)

theorem lookup_byCount {tally : Tally} (once : tally.keys.Nodup) (key : String) :
    tally.byCount.lookup key = tally.lookup key :=
  (lookup_perm (List.mergeSort_perm tally _).symm once key).symm

end Tally

theorem total_extensionCounts (files : List ListedFile) :
    (extensionCounts files).total = files.length := by
  rw [extensionCounts, Tally.total_ofKeys, List.length_map]

theorem total_directoryCounts (files : List ListedFile) :
    (directoryCounts files).total = files.length := by
  rw [directoryCounts, Tally.total_byCount, Tally.total_ofKeys, List.length_map]

/-! ## Sizes -/

theorem countOfClass_cons (classOf : Int → SizeClass) (c : SizeClass) (file : ListedFile)
    (rest : List ListedFile) :
    countOfClass classOf c (file :: rest) =
      countOfClass classOf c rest + if file.isPresent && classOf file.size == c then 1 else 0 := by
  unfold countOfClass
  rw [List.countP_cons]
  split <;> simp

namespace SizeCounts

def total (counts : SizeCounts) : Int :=
  counts.tiny + counts.small + counts.medium + counts.large + counts.huge

/-- Every file that is there has one size class. -/
theorem total_ofFiles (files : List ListedFile) :
    (ofFiles files).total = files.countP (·.isPresent) := by
  induction files with
  | nil => rfl
  | cons file rest ih =>
      simp only [total, ofFiles, countOfClass_cons, List.countP_cons] at ih ⊢
      cases file.isPresent with
      | false => simpa using ih
      | true => cases SizeClass.ofSize file.size <;> simp <;> omega

end SizeCounts

/-- The coarse count puts the two largest classes into one. -/
theorem coarse_ofFiles (files : List ListedFile) :
    CoarseSizeCounts.ofFiles files =
      { tiny := (SizeCounts.ofFiles files).tiny
        small := (SizeCounts.ofFiles files).small
        medium := (SizeCounts.ofFiles files).medium
        large := (SizeCounts.ofFiles files).large + (SizeCounts.ofFiles files).huge } := by
  induction files with
  | nil => rfl
  | cons file rest ih =>
      simp only [CoarseSizeCounts.ofFiles, SizeCounts.ofFiles, countOfClass_cons,
        CoarseSizeCounts.mk.injEq, CoarseSizeCounts.classOf] at ih ⊢
      obtain ⟨c, sized⟩ : ∃ c, SizeClass.ofSize file.size = c := ⟨_, rfl⟩
      simp only [sized]
      cases file.isPresent with
      | false => simpa using ih
      | true => cases c <;> simp [SizeClass.coarse] <;> omega

/-! ## The largest files -/

theorem length_takeLimit {α : Type} (limit : Nat) (items : List α) :
    (takeLimit limit items).length = min limit items.length := by
  have notNegative : ¬ (limit : Int) < 0 := by omega
  rw [takeLimit, if_neg notNegative, List.length_take, Int.natAbs_natCast]

theorem takeLimit_sublist {α : Type} (limit : Int) (items : List α) :
    (takeLimit limit items).Sublist items := by
  unfold takeLimit
  split <;> exact List.take_sublist _ _

namespace LargeFile

/-- What is listed are the first files of the ranking, in order. -/
theorem paths_of_ofFiles {limit : Int} {files : List ListedFile} {largest : List LargeFile}
    (listed : ofFiles limit files = .ok largest) :
    largest.map (·.path) = (takeLimit limit (ranking files)).map (·.path) := by
  rw [ofFiles, mapM_eq_ok_iff] at listed
  generalize takeLimit limit (ranking files) = first at listed ⊢
  induction listed with
  | nil => rfl
  | cons here _ ih =>
      obtain ⟨size, -, made⟩ := bind_eq_ok here
      cases made
      rw [List.map_cons, List.map_cons, ih]

theorem length_of_ofFiles {limit : Nat} {files : List ListedFile} {largest : List LargeFile}
    (listed : ofFiles limit files = .ok largest) :
    largest.length = min limit files.length := by
  have same := congrArg List.length (paths_of_ofFiles listed)
  rwa [List.length_map, List.length_map, length_takeLimit, ranking, List.length_mergeSort] at same

/-- No path is among the largest files more often than it is listed. -/
theorem count_le_of_ofFiles {limit : Int} {files : List ListedFile}
    {largest : List LargeFile} (listed : ofFiles limit files = .ok largest) (path : String) :
    (largest.map (·.path)).count path ≤ (files.map (·.path)).count path := by
  have ranked : ((ranking files).map (·.path)).Perm (files.map (·.path)) :=
    (List.mergeSort_perm files _).map _
  rw [paths_of_ofFiles listed, ← ranked.count_eq]
  exact ((takeLimit_sublist limit (ranking files)).map _).count_le path

end LargeFile

/-! ## Listing paths -/

namespace ListedFile

/-- A path that is listed has its entry, which is present if the path leads somewhere. -/
theorem of_ofPath {disk : Disk} {path : String} {file : ListedFile}
    (listed : ofPath disk path = .ok file) :
    file.path = path ∧ file.isPresent = disk.exists? path := by
  unfold ofPath at listed
  split at listed
  · cases listed
  · rename_i reachable
    cases listed
    exact ⟨rfl, by simp [Disk.exists?, reachable]⟩

variable {disk : Disk} {paths : List String} {files : List ListedFile}

/-- The listing of paths has them in order. -/
theorem paths_of_ofPaths (listed : ofPaths disk paths = .ok files) :
    files.map (·.path) = paths := by
  rw [ofPaths, mapM_eq_ok_iff] at listed
  induction listed with
  | nil => rfl
  | cons here _ ih => rw [List.map_cons, ih, (of_ofPath here).1]

theorem length_of_ofPaths (listed : ofPaths disk paths = .ok files) :
    files.length = paths.length := by
  rw [← paths_of_ofPaths listed, List.length_map]

theorem present_of_ofPaths (listed : ofPaths disk paths = .ok files) :
    files.countP (·.isPresent) = paths.countP disk.exists? := by
  rw [ofPaths, mapM_eq_ok_iff] at listed
  induction listed with
  | nil => rfl
  | cons here _ ih => rw [List.countP_cons, List.countP_cons, ih, (of_ofPath here).2]

end ListedFile

end LineCensus
