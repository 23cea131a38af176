/-
# Proofs.Ranking -- the largest first, equals in their order

A ranking is sorted by falling weight, and its sort is stable.  So whatever holds between any
entry of a list and any later one holds between entries of one weight in the ranking, and the
order of the places is such a relation.

* `filter_ranked`, `pairwise_ranked`: what a ranking keeps of the order of its list.
* `exists_places`: a ranking as an arrangement of the places of its list.
* `LargeFile.ofListed_cases`: which files can be listed among the largest.
* `largest_ranked`: the largest files of any list, up to any limit.
-/
import LineCensus.Proofs.Magnitudes
import LineCensus.Proofs.Nearest

set_option autoImplicit false

namespace LineCensus

/-! ## Rankings -/

section Ranked

variable {α : Type} {weight : α → Int} {xs : List α}

/-- A list by falling weight. -/
def ranked (weight : α → Int) (xs : List α) : List α :=
  xs.mergeSort fun a b => weight b ≤ weight a

theorem falling_trans (weight : α → Int) (a b c : α) (first : decide (weight b ≤ weight a) = true)
    (second : decide (weight c ≤ weight b) = true) : decide (weight c ≤ weight a) = true := by
  rw [decide_eq_true_eq] at first second ⊢
  exact Int.le_trans second first

theorem falling_total (weight : α → Int) (a b : α) :
    (decide (weight b ≤ weight a) || decide (weight a ≤ weight b)) = true := by
  simpa using Int.le_total (weight b) (weight a)

theorem ranked_perm (weight : α → Int) (xs : List α) : (ranked weight xs).Perm xs :=
  List.mergeSort_perm xs _

theorem falls_ranked (weight : α → Int) (xs : List α) :
    (ranked weight xs).Pairwise fun a b => weight b ≤ weight a :=
  (List.pairwise_mergeSort (falling_trans weight) (falling_total weight) xs).imp of_decide_eq_true

/-- The entries of one weight stand in a ranking as they stand in the list. -/
theorem filter_ranked (weight : α → Int) (xs : List α) (n : Int) :
    (ranked weight xs).filter (weight · = n) = xs.filter (weight · = n) := by
  have even : (xs.filter (weight · = n)).Pairwise
      fun a b => decide (weight b ≤ weight a) = true := by
    refine List.pairwise_of_forall_mem_list fun a first b second => ?_
    have := of_decide_eq_true (List.mem_filter.1 first).2
    have := of_decide_eq_true (List.mem_filter.1 second).2
    exact decide_eq_true (by omega)
  have kept : (xs.filter (weight · = n)).Sublist (ranked weight xs) :=
    List.sublist_mergeSort (falling_trans weight) (falling_total weight) even List.filter_sublist
  have among := kept.filter (weight · = n)
  rw [List.filter_filter] at among
  simp only [Bool.and_self] at among
  exact (among.eq_of_length ((ranked_perm weight xs).filter _).length_eq.symm).symm

/-- Between entries of one weight, a ranking keeps what holds between any entry of the list and
a later one. -/
theorem pairwise_ranked {R : α → α → Prop} (weight : α → Int) (before : xs.Pairwise R) :
    (ranked weight xs).Pairwise fun a b =>
      weight b < weight a ∨ weight b = weight a ∧ R a b := by
  rw [List.pairwise_iff_forall_sublist] at before ⊢
  intro a b pair
  have falls := List.pairwise_iff_forall_sublist.1 (falls_ranked weight xs) pair
  rcases Int.lt_or_eq_of_le falls with less | same
  · exact .inl less
  · have both := pair.filter (weight · = weight a)
    rw [filter_ranked, List.filter_cons_of_pos (by simp), List.filter_cons_of_pos (by simp [same]),
      List.filter_nil] at both
    exact .inr ⟨same, before (both.trans List.filter_sublist)⟩

/-! ## Places -/

/-- One place of a list comes before another in its ranking: its entry is heavier, or as heavy
and met earlier. -/
def Precedes (weight : α → Int) (xs : List α) (p q : Fin xs.length) : Prop :=
  weight xs[q] < weight xs[p] ∨ weight xs[q] = weight xs[p] ∧ p < q

/-- A ranking is an arrangement of the places of its list. -/
theorem exists_places (weight : α → Int) (xs : List α) :
    ∃ places : List (Fin xs.length), places.Perm (List.finRange xs.length) ∧
      places.map (fun p => xs[p]) = ranked weight xs ∧ places.Pairwise (Precedes weight xs) := by
  refine ⟨ranked (fun p => weight xs[p]) (List.finRange xs.length), ranked_perm _ _, ?_,
    pairwise_ranked _ (List.pairwise_lt_finRange _)⟩
  have arranged : (ranked (fun p => weight xs[p]) (List.finRange xs.length)).map (fun p => xs[p]) =
      ranked weight ((List.finRange xs.length).map fun p => xs[p]) :=
    List.map_mergeSort fun p _ q _ => rfl
  rw [arranged]
  exact congrArg (ranked weight) (List.map_get_finRange xs)

/-- The first places of a ranking, as many as asked for or all. -/
structure FirstPlaces (weight : α → Int) (xs : List α) (limit : Nat)
    (places : List (Fin xs.length)) : Prop where
  length : places.length = min limit xs.length
  once : places.Nodup
  ordered : places.Pairwise (Precedes weight xs)
  /-- Nothing that is left out comes before anything that is kept. -/
  first : ∀ kept ∈ places, ∀ omitted ∉ places, Precedes weight xs kept omitted

theorem exists_firstPlaces (weight : α → Int) (xs : List α) (limit : Nat) :
    ∃ places, FirstPlaces weight xs limit places ∧
      places.map (fun p => xs[p]) = (ranked weight xs).take limit := by
  obtain ⟨places, all, same, ordered⟩ := exists_places weight xs
  have once : places.Nodup := all.nodup_iff.2 (List.nodup_finRange _)
  refine ⟨places.take limit, ⟨?length, ?once, ?ordered, ?first⟩, ?same⟩
  case length => rw [List.length_take, all.length_eq, List.length_finRange]
  case once => exact once.sublist (List.take_sublist _ _)
  case ordered => exact ordered.sublist (List.take_sublist _ _)
  case first =>
    intro kept member omitted missing
    rw [← List.take_append_drop limit places, List.pairwise_append] at ordered
    have present : omitted ∈ places := all.mem_iff.2 (List.mem_finRange omitted)
    rw [← List.take_append_drop limit places, List.mem_append] at present
    exact ordered.2.2 kept member omitted (present.resolve_left missing)
  case same => rw [List.map_take, same]

end Ranked

/-! ## The largest files -/

/-- A size whose number of KiB is not too large for a double. -/
def HasKib (size : Int) : Prop :=
  size.natAbs < Binary64.firstTooLarge * kibibyte.natAbs

instance (size : Int) : Decidable (HasKib size) :=
  inferInstanceAs (Decidable (_ < _))

/-- Just these sizes can be given in KiB. -/
theorem sizeInKib_cases (size : Int) :
    (HasKib size ∧ ∃ kib, sizeInKib size = .ok kib) ∨
      (¬ HasKib size ∧ sizeInKib size = .error .tooLarge) := by
  have bound : (Binary64.ratio? size kibibyte).isSome = true ↔ HasKib size :=
    Binary64.ratio?_isSome_iff size (by decide)
  rw [sizeInKib, quotient_def, ← bound]
  beta_reduce
  cases Binary64.ratio? size kibibyte with
  | none => exact .inr ⟨by decide, rfl⟩
  | some x => exact .inl ⟨rfl, exists_rounded (by decide) x⟩

namespace LargeFile

variable {files : List ListedFile}

/-- What is listed of a file: its path, its size, and its size in KiB. -/
structure Shows (file : ListedFile) (entry : LargeFile) : Prop where
  path : entry.path = file.path
  size : entry.size = file.size
  kib : ∃ kib, sizeInKib file.size = .ok kib ∧ entry.kib = .real kib

theorem ofListed_cases (file : ListedFile) :
    (HasKib file.size ∧ ∃ entry, ofListed file = .ok entry ∧ Shows file entry) ∨
      (¬ HasKib file.size ∧ ofListed file = .error .tooLarge) := by
  rcases sizeInKib_cases file.size with ⟨small, kib, divides⟩ | ⟨large, fails⟩
  · refine .inl ⟨small, { path := file.path, size := file.size, kib }, ?_,
      rfl, rfl, kib, divides, rfl⟩
    rw [ofListed, divides]
    rfl
  · refine .inr ⟨large, ?_⟩
    rw [ofListed, fails]
    rfl

theorem ofFiles_eq (limit : Nat) (files : List ListedFile) :
    ofFiles limit files = ((ranked (·.size) files).take limit).mapM ofListed := by
  have notNegative : ¬ (limit : Int) < 0 := by omega
  rw [ofFiles, takeLimit, if_neg notNegative, Int.natAbs_natCast]
  rfl

/-- A list up to a limit is the beginning of any longer one. -/
theorem ofFiles_of_longer {limit longer : Nat} (shorter : limit ≤ longer)
    {more : List LargeFile} (listed : ofFiles longer files = .ok more) :
    ofFiles limit files = .ok (more.take limit) := by
  rw [ofFiles_eq, mapM_eq_ok_iff] at listed ⊢
  have begins := List.forall₂_take limit listed
  rwa [List.take_take, Nat.min_eq_left shorter] at begins

theorem ofFiles_of_small {limit : Nat}
    (small : ∀ file ∈ (ranked (·.size) files).take limit, HasKib file.size) :
    ∃ largest, ofFiles limit files = .ok largest ∧
      List.Forall₂ Shows ((ranked (·.size) files).take limit) largest := by
  rw [ofFiles_eq]
  refine mapM_ok_of_forall fun file member => ?_
  rcases ofListed_cases file with ⟨-, listed⟩ | ⟨large, -⟩
  · exact listed
  · exact absurd (small file member) large

theorem ofFiles_of_large {limit : Nat}
    (large : ∃ file ∈ (ranked (·.size) files).take limit, ¬ HasKib file.size) :
    ofFiles limit files = .error .tooLarge := by
  rw [ofFiles_eq]
  refine mapM_eq_error (fun file _ => ?_) ?_
  · rcases ofListed_cases file with ⟨-, entry, listed, -⟩ | ⟨-, fails⟩
    · exact .inr ⟨entry, listed⟩
    · exact .inl fails
  · obtain ⟨file, member, large⟩ := large
    rcases ofListed_cases file with ⟨small, -⟩ | ⟨-, fails⟩
    · exact absurd small large
    · exact ⟨file, member, fails⟩

end LargeFile

/-- **The largest files are the first of a ranking.**  Of any files, up to any limit, those at
as many distinct places are listed as asked for, or all; a larger file before a smaller one,
files of one size in their order, and none is left out for one that should come after it.  The
list is lacking only if the size of a file in it is too large in KiB, and it begins any longer
one. -/
theorem largest_ranked (limit : Nat) (files : List ListedFile) :
    ∃ places, FirstPlaces (·.size) files limit places ∧
      ((∀ place ∈ places, HasKib files[place].size) →
        ∃ largest, LargeFile.ofFiles limit files = .ok largest ∧
          List.Forall₂ (fun place => LargeFile.Shows files[place]) places largest) ∧
      ((∃ place ∈ places, ¬ HasKib files[place].size) →
        LargeFile.ofFiles limit files = .error .tooLarge) ∧
      ∀ longer ≥ limit, ∀ more, LargeFile.ofFiles longer files = .ok more →
        LargeFile.ofFiles limit files = .ok (more.take limit) := by
  obtain ⟨places, first, same⟩ := exists_firstPlaces (·.size) files limit
  refine ⟨places, first, fun small => ?_, fun large => ?_,
    fun longer shorter more => LargeFile.ofFiles_of_longer shorter⟩
  · have kept : ∀ file ∈ (ranked (·.size) files).take limit, HasKib file.size := by
      rw [← same]
      intro file found
      obtain ⟨place, member, rfl⟩ := List.mem_map.1 found
      exact small place member
    obtain ⟨largest, listed, entries⟩ := LargeFile.ofFiles_of_small kept
    rw [← same, List.forall₂_map_left_iff] at entries
    exact ⟨largest, listed, entries⟩
  · obtain ⟨place, member, large⟩ := large
    refine LargeFile.ofFiles_of_large ⟨files[place], ?_, large⟩
    rw [← same]
    exact List.mem_map.2 ⟨place, member, rfl⟩

/-- Three files, two of one size. -/
def evenFiles : List ListedFile :=
  [("a", 5), ("b", 9), ("c", 5)].map fun (path, size) =>
    { path, size, extension := "", directory := "", basename := path }

/-- Of two files of one size, the first is kept. -/
theorem largest_ranked_evenFiles :
    (∀ place : Fin evenFiles.length, HasKib evenFiles[place].size) ∧
    ∃ largest, LargeFile.ofFiles 2 evenFiles = .ok largest ∧
      largest.map (·.path) = ["b", "a"] ∧
      LargeFile.ofFiles 1 evenFiles = .ok (largest.take 1) := by
  have small : ∀ place : Fin evenFiles.length, HasKib evenFiles[place].size := by
    decide +kernel
  obtain ⟨places, -, lists, -⟩ := largest_ranked 2 evenFiles
  obtain ⟨largest, listed, -⟩ := lists fun place _ => small place
  obtain ⟨-, -, -, -, begins⟩ := largest_ranked 1 evenFiles
  refine ⟨small, largest, listed, ?_, begins 2 (by decide) largest listed⟩
  rw [LargeFile.paths_of_ofFiles listed]
  simp [takeLimit, LargeFile.ranking, evenFiles, List.mergeSort,
    List.MergeSort.Internal.splitInTwo, List.splitAt, List.splitAt.go]

/-- A file whose size has four hundred zeros. -/
def hugeFile : ListedFile where
  path := "a"
  size := tenTo 400
  extension := ""
  directory := ""
  basename := "a"

/-- There are no largest files where one of them is too large. -/
theorem not_every_ranking_is_listed :
    LargeFile.ofFiles 1 [hugeFile] = .error .tooLarge ∧
    ¬ ∀ (limit : Nat) (files : List ListedFile), ∃ largest,
      LargeFile.ofFiles limit files = .ok largest ∧ largest.length = min limit files.length := by
  have large : ¬ HasKib hugeFile.size := by decide +kernel
  have fails : LargeFile.ofFiles (1 : Nat) [hugeFile] = .error .tooLarge := by
    refine LargeFile.ofFiles_of_large ⟨hugeFile, ?_, large⟩
    rw [List.take_of_length_le (by rw [(ranked_perm _ _).length_eq]; exact Nat.le_refl 1)]
    exact (ranked_perm _ _).mem_iff.2 List.mem_cons_self
  refine ⟨fails, fun every => ?_⟩
  obtain ⟨largest, listed, -⟩ := every 1 [hugeFile]
  rw [fails] at listed
  cases listed

end LineCensus
