/-
# Proofs.Paths -- absolute paths and the names they are made of

A name is plain if it stands for an entry and nothing else: it is not empty, is not
`.` or `..`, and has no slash.  `Path.rooted` is the absolute path of names, and on
plain names the text and the list say the same:

* `Path.segments_rooted` reads the names back, so `Path.rooted_injective`;
* `Path.join_rooted` and `relativePath_intercalate` add names at the end;
* `Path.absolute_eq_rooted`: what a path becomes when it is made absolute is the path
  of plain names.

`Path.isLastPart_iff` says which part of a path is the last one.
-/
import LineCensus.Discovery.Walk
import Mathlib.Data.List.Basic
import Mathlib.Data.List.TakeWhile

set_option autoImplicit false

namespace LineCensus

/-! ## Cutting at a separator -/

namespace Text

theorem segmentsFrom_eq (separator : Char) (current : Text) (done : List Text) (text : Text) :
    segmentsFrom separator current done text =
      done.reverse ++ (text.splitOn separator).modifyHead (current.reverse ++ ·) := by
  induction text generalizing current done with
  | nil => simp [segmentsFrom]
  | cons c rest ih =>
      obtain ⟨head, tail, split⟩ :=
        List.exists_cons_of_ne_nil (List.splitOn_ne_nil separator rest)
      rw [segmentsFrom, List.splitOn_cons_eq_if_modifyHead]
      by_cases cut : c = separator
      · simp [cut, ih, split]
      · simp [cut, ih, split]

theorem segments_eq_splitOn (separator : Char) (text : Text) :
    segments separator text = text.splitOn separator := by
  obtain ⟨head, tail, split⟩ := List.exists_cons_of_ne_nil (List.splitOn_ne_nil separator text)
  simp [segments, segmentsFrom_eq, split]

theorem not_mem_of_mem_segments {separator : Char} {text segment : Text}
    (member : segment ∈ segments separator text) : separator ∉ segment := by
  rw [segments_eq_splitOn] at member
  induction text generalizing segment with
  | nil => simp_all
  | cons c rest ih =>
      obtain ⟨head, tail, split⟩ :=
        List.exists_cons_of_ne_nil (List.splitOn_ne_nil separator rest)
      rw [List.splitOn_cons_eq_if_modifyHead] at member
      rw [split] at ih member
      split at member
      · rcases List.mem_cons.1 member with rfl | member
        · exact List.not_mem_nil
        · exact ih member
      · rename_i uncut
        rcases List.mem_cons.1 member with rfl | member
        · have clean := ih (List.mem_cons_self (a := head))
          rw [List.mem_cons, not_or]
          exact ⟨fun same => uncut (by simp [same]), clean⟩
        · exact ih (List.mem_cons_of_mem head member)

end Text

namespace Path

/-! ## Plain names -/

/-- A name that stands for an entry and nothing else. -/
def isPlain (name : String) : Bool :=
  name != "" && name != "." && name != ".." && !name.toList.contains '/'

theorem isPlain_iff {name : String} :
    isPlain name = true ↔ name ≠ "" ∧ name ≠ "." ∧ name ≠ ".." ∧ '/' ∉ name.toList := by
  simp [isPlain, and_assoc]

/-- Names of which each is plain. -/
def ArePlain (names : List String) : Prop :=
  ∀ name ∈ names, isPlain name = true

theorem arePlain_append {first second : List String} :
    ArePlain (first ++ second) ↔ ArePlain first ∧ ArePlain second :=
  List.forall_mem_append

/-- Plain names make no empty text, and none that begins with a slash. -/
theorem head?_intercalate {names : List String} (plain : ArePlain names) (some_name : names ≠ []) :
    ∃ c, ("/".intercalate names).toList.head? = some c ∧ c ≠ '/' := by
  obtain ⟨first, rest, rfl⟩ := List.exists_cons_of_ne_nil some_name
  obtain ⟨unempty, -, -, unslashed⟩ := isPlain_iff.1 (plain first (by simp))
  obtain ⟨c, more, spelled⟩ := List.exists_cons_of_ne_nil
    (fun empty => unempty (String.toList_eq_nil_iff.1 empty))
  refine ⟨c, ?_, ?_⟩
  · cases rest with
    | nil => simp [spelled]
    | cons second rest => simp [String.intercalate_cons_cons, spelled]
  · rintro rfl
    simp [spelled] at unslashed

theorem intercalate_eq_empty_iff {names : List String} (plain : ArePlain names) :
    "/".intercalate names = "" ↔ names = [] := by
  constructor
  · intro empty
    by_contra some_name
    obtain ⟨c, head, -⟩ := head?_intercalate plain some_name
    simp [empty] at head
  · rintro rfl
    rfl

/-! ## The path of names -/

/-- The absolute path of names. -/
def rooted (names : List String) : String :=
  assemble "/" names

theorem rooted_eq (names : List String) : rooted names = "/" ++ "/".intercalate names := by
  simp [rooted, assemble]

theorem toList_rooted (names : List String) :
    (rooted names).toList = '/' :: ['/'].intercalate (names.map String.toList) := by
  rw [rooted_eq, String.toList_append, String.toList_intercalate]
  rfl

/-- Reading a path of plain names back; before the first slash there is nothing. -/
theorem segments_rooted {names : List String} (plain : ArePlain names) (some_name : names ≠ []) :
    (Text.segments '/' (rooted names).toList).map String.ofList = "" :: names := by
  have whole : (['/'].intercalate (names.map String.toList)).splitOn '/' =
      names.map String.toList := by
    refine List.splitOn_intercalate '/' ?_ (by simpa using some_name)
    intro segment member
    obtain ⟨name, inNames, rfl⟩ := List.mem_map.1 member
    exact (isPlain_iff.1 (plain name inNames)).2.2.2
  rw [Text.segments_eq_splitOn, toList_rooted, List.splitOn_cons_eq_if_modifyHead, whole]
  simp [Function.comp_def]

theorem segments_rooted_nil :
    (Text.segments '/' (rooted []).toList).map String.ofList = ["", ""] := by
  decide

theorem rooted_injective {first second : List String} (plainFirst : ArePlain first)
    (plainSecond : ArePlain second) (same : rooted first = rooted second) : first = second := by
  by_cases noFirst : first = []
  · by_cases noSecond : second = []
    · rw [noFirst, noSecond]
    · have read := segments_rooted plainSecond noSecond
      rw [← same, noFirst, segments_rooted_nil] at read
      obtain rfl : [""] = second := (List.cons.inj read).2
      exact absurd rfl (isPlain_iff.1 (plainSecond "" (by simp))).1
  · have read := segments_rooted plainFirst noFirst
    by_cases noSecond : second = []
    · rw [same, noSecond, segments_rooted_nil] at read
      obtain rfl : [""] = first := (List.cons.inj read).2
      exact absurd rfl (isPlain_iff.1 (plainFirst "" (by simp))).1
    · rw [same, segments_rooted plainSecond noSecond] at read
      exact (List.cons.inj read).2.symm

/-- The path of plain names ends in a slash only if there is none. -/
theorem getLast?_rooted {names : List String} (plain : ArePlain names) :
    (rooted names).toList.getLast? = some '/' ↔ names = [] := by
  constructor
  · intro slash
    by_contra some_name
    obtain ⟨first, last, rfl⟩ : ∃ first last, names = first ++ [last] :=
      ⟨_, _, (List.dropLast_append_getLast some_name).symm⟩
    obtain ⟨unempty, -, -, unslashed⟩ := isPlain_iff.1 (plain last (by simp))
    have spelled : last.toList ≠ [] := fun empty => unempty (String.toList_eq_nil_iff.1 empty)
    obtain ⟨before, split⟩ :
        ∃ before, (rooted (first ++ [last])).toList = before ++ last.toList := by
      by_cases alone : first = []
      · exact ⟨['/'], by simp [rooted_eq, alone]⟩
      · refine ⟨'/' :: (("/".intercalate first).toList ++ ['/']), ?_⟩
        rw [rooted_eq, String.intercalate_append_of_ne_nil alone (by simp)]
        simp
    rw [split, List.getLast?_append_of_ne_nil _ spelled] at slash
    exact unslashed (List.mem_of_getLast? slash)
  · rintro rfl
    decide

/-- Going on from the path of plain names. -/
theorem join_rooted {above names : List String} (plainAbove : ArePlain above)
    (plain : ArePlain names) (some_name : names ≠ []) :
    join (rooted above) ("/".intercalate names) = rooted (above ++ names) := by
  obtain ⟨c, head, unslashed⟩ := head?_intercalate plain some_name
  have relative : isAbsolute ("/".intercalate names) = false := by
    rw [isAbsolute, head]
    simpa using unslashed
  have unempty : (rooted above).isEmpty = false := by
    simp [rooted_eq]
  by_cases top : above = []
  · simp [join, relative, top, rooted_eq]
  · have unslashedEnd := mt (getLast?_rooted plainAbove).1 top
    rw [join, relative, unempty, if_neg (by simp), if_neg (by simpa using unslashedEnd)]
    simp [rooted_eq, String.intercalate_append_of_ne_nil top some_name, String.append_assoc]

/-! ## Absolute paths -/

theorem parts_clean {path part : String} (member : part ∈ parts path) :
    part ≠ "" ∧ part ≠ "." ∧ '/' ∉ part.toList := by
  obtain ⟨inSegments, clean⟩ := List.mem_filter.1 member
  obtain ⟨segment, isSegment, rfl⟩ := List.mem_map.1 inSegments
  rw [String.toList_ofList]
  simp only [Bool.and_eq_true, bne_iff_ne] at clean
  exact ⟨clean.1, clean.2, Text.not_mem_of_mem_segments isSegment⟩

/-- From the root on, what is kept are parts that were there, and no `..`. -/
theorem mem_collapseParts {kept rest : List String} {part : String}
    (none_up : ".." ∉ kept) (member : part ∈ collapseParts true kept rest) :
    part ≠ ".." ∧ (part ∈ kept ∨ part ∈ rest) := by
  induction rest generalizing kept with
  | nil =>
      rw [collapseParts, List.mem_reverse] at member
      exact ⟨fun up => none_up (up ▸ member), .inl member⟩
  | cons next rest ih =>
      unfold collapseParts at member
      split at member
      · -- A part before it goes, if there is one; at the root nothing does.
        split at member
        · rename_i last before
          have down : last ≠ ".." := fun up => none_up (by simp [up])
          rw [if_neg down] at member
          obtain ⟨proper, origin⟩ := ih (fun up => none_up (List.mem_cons_of_mem last up)) member
          exact ⟨proper, origin.imp (List.mem_cons_of_mem last) (List.mem_cons_of_mem next)⟩
        · obtain ⟨proper, origin⟩ := ih (by simp) member
          exact ⟨proper, origin.imp (by simp) (List.mem_cons_of_mem next)⟩
      · rename_i down
        obtain ⟨proper, origin⟩ := ih (by simp [none_up, Ne.symm down]) member
        refine ⟨proper, ?_⟩
        rcases origin with here | later
        · rcases List.mem_cons.1 here with rfl | before
          · exact .inr List.mem_cons_self
          · exact .inl before
        · exact .inr (List.mem_cons_of_mem next later)

theorem absolute_eq_rooted (folder path : String) :
    ∃ names, ArePlain names ∧ absolute folder path = rooted names := by
  refine ⟨_, ?_, rfl⟩
  intro name member
  obtain ⟨down, origin⟩ := mem_collapseParts (by simp) member
  obtain ⟨unempty, undotted, unslashed⟩ := parts_clean (origin.resolve_left List.not_mem_nil)
  exact isPlain_iff.2 ⟨unempty, undotted, down, unslashed⟩

end Path

/-! ## Last parts -/

namespace Text

variable {mark : Char} {text : Text}

theorem forall_bne_of_not_mem (absent : mark ∉ text) : ∀ c ∈ text, (c != mark) = true := by
  intro c member
  rw [bne_iff_ne]
  rintro rfl
  exact absent member

theorem splitAfterLast_of_not_mem (absent : mark ∉ text) : splitAfterLast mark text = ([], text) := by
  have all := forall_bne_of_not_mem (mt List.mem_reverse.1 absent)
  have kept : text.reverse.takeWhile (· != mark) = text.reverse := List.takeWhile_eq_self_iff.2 all
  have dropped : text.reverse.dropWhile (· != mark) = [] := List.dropWhile_eq_nil_iff.2 all
  rw [splitAfterLast, kept, dropped, List.reverse_reverse, List.reverse_nil]

theorem splitAfterLast_append (before : Text) (absent : mark ∉ text) :
    splitAfterLast mark (before ++ mark :: text) = (before ++ [mark], text) := by
  have all := forall_bne_of_not_mem (mt List.mem_reverse.1 absent)
  simp [splitAfterLast, List.takeWhile_append_of_pos all, List.dropWhile_append_of_pos all]

end Text

namespace Path

/-- The part of a path behind its last slash, if it has one. -/
def IsLastPart (part path : String) : Prop :=
  '/' ∉ part.toList ∧ (path = part ∨ ∃ folder, path = folder ++ "/" ++ part)

theorem basename_of_isLastPart {part path : String} (isLast : IsLastPart part path) :
    basename path = part := by
  obtain ⟨unslashed, rfl | ⟨folder, rfl⟩⟩ := isLast
  · rw [basename, Text.splitAfterLast_of_not_mem unslashed, String.ofList_toList]
  · have spelled : (folder ++ "/" ++ part).toList = folder.toList ++ '/' :: part.toList := by
      simp
    rw [basename, spelled, Text.splitAfterLast_append _ unslashed, String.ofList_toList]

theorem isLastPart_basename (path : String) : IsLastPart (basename path) path := by
  by_cases slash : '/' ∈ path.toList.reverse
  · obtain ⟨after, before, backwards, unslashed⟩ := List.eq_append_cons_of_mem slash
    have spelled : path = String.ofList before.reverse ++ "/" ++ String.ofList after.reverse := by
      apply String.toList_injective
      have forwards := congrArg List.reverse backwards
      simpa using forwards
    have isLast : IsLastPart (String.ofList after.reverse) path :=
      ⟨by simpa using unslashed, .inr ⟨_, spelled⟩⟩
    rwa [basename_of_isLastPart isLast]
  · have isLast : IsLastPart path path := ⟨mt List.mem_reverse.2 slash, .inl rfl⟩
    rwa [basename_of_isLastPart isLast]

theorem isLastPart_iff {part path : String} : IsLastPart part path ↔ basename path = part := by
  constructor
  · exact basename_of_isLastPart
  · rintro rfl
    exact isLastPart_basename path

end Path

namespace Discovery

/-- The path from the root of an entry of a folder. -/
theorem relativePath_intercalate {before : List String} (plain : Path.ArePlain before)
    (name : String) :
    relativePath ("/".intercalate before) name = "/".intercalate (before ++ [name]) := by
  unfold relativePath
  by_cases top : before = []
  · simp [top]
  · have unempty : ("/".intercalate before).isEmpty = false := by
      simpa [Path.intercalate_eq_empty_iff plain] using top
    rw [unempty, String.intercalate_append_of_ne_nil top (by simp)]
    simp

end Discovery
end LineCensus
