/-
# Proofs.Patterns -- the patterns between the commas of a variable

The variable of the exclude patterns holds any text, and every text is a list of patterns.  Which
list it is, is said here without cutting and trimming: the segments are the texts without a comma
that come to the whole text when they are joined by commas (`Text.IsCutAt`), and a segment is its
pattern with white space around it (`Text.StripsTo`).  Both determine what they speak of.

A comma parts the patterns before it from those behind it (`Variable.patterns_append_comma`), so
the patterns of joined texts are those of each (`Variable.patterns_intercalate`).  A text that is
an element is its own only pattern, and every pattern is an element.  Hence the lists of elements
are those that are read back when they are joined.

* `Variable.setsPatterns_iff`: the variable is never refused, and no other variable changes what
  it sets.
* `exclude_variable_exact`: what the variable sets, and which lists it can set.
-/
import LineCensus.Proofs.Layers
import LineCensus.Proofs.Paths
import LineCensus.Proofs.Tagging

set_option autoImplicit false

namespace LineCensus

namespace Text

/-! ## White space at the ends -/

/-- A text that neither begins nor ends with white space. -/
structure Tight (text : Text) : Prop where
  first : ∀ c ∈ text.head?, isBlank c = false
  last : ∀ c ∈ text.getLast?, isBlank c = false

/-- A text is a tight one with white space around it. -/
structure StripsTo (text core : Text) : Prop where
  around : ∃ before after : Text, (∀ c ∈ before, isBlank c = true) ∧
    (∀ c ∈ after, isBlank c = true) ∧ text = before ++ core ++ after
  tight : core.Tight

theorem tight_trim (text : Text) : text.trim.Tight where
  first c begins := by
    have nonempty : text.trim ≠ [] := List.ne_nil_of_mem (List.mem_of_mem_head? begins)
    have start : text.trim <+: text.dropWhile isBlank := List.rdropWhile_prefix isBlank _
    rw [List.head?_eq_some_head nonempty, start.head nonempty] at begins
    cases begins
    exact List.head_dropWhile_not isBlank _
  last c ends := by
    obtain ⟨before, whole⟩ := List.getLast?_eq_some_iff.1 ends
    exact not_isBlank_of_trim whole

/-- There is nothing to cut off a tight text. -/
theorem Tight.trim_eq {text : Text} (tight : text.Tight) : text.trim = text := by
  have start : text.trimStart = text := by
    cases text with
    | nil => rfl
    | cons c rest => exact List.dropWhile_cons_of_neg (by simp [tight.first c rfl])
  rw [trim, start]
  refine List.rdropWhile_eq_self_iff.2 fun nonempty => ?_
  simp [tight.last _ (List.getLast?_eq_some_getLast nonempty)]

/-- **Trimming finds the one tight text that a text has white space around.** -/
theorem stripsTo_iff {text core : Text} : text.StripsTo core ↔ text.trim = core := by
  constructor
  · rintro ⟨⟨before, after, blankBefore, blankAfter, rfl⟩, tight⟩
    rw [trim_padded core blankBefore blankAfter, tight.trim_eq]
  · rintro rfl
    exact ⟨text.eq_padded_trim, text.tight_trim⟩

theorem trim_subset (text : Text) : text.trim ⊆ text := by
  obtain ⟨before, after, -, -, whole⟩ := text.eq_padded_trim
  intro c member
  rw [whole]
  simp [member]

/-- Nothing is left of a text that is blank throughout, and of no other. -/
theorem trim_eq_nil_iff {text : Text} : text.trim = [] ↔ text.all isBlank = true := by
  rw [List.all_eq_true]
  constructor
  · intro gone
    obtain ⟨before, after, blankBefore, blankAfter, whole⟩ := text.eq_padded_trim
    rw [gone, List.append_nil] at whole
    rw [whole, List.forall_mem_append]
    exact ⟨blankBefore, blankAfter⟩
  · intro blank
    exact stripsTo_iff.1 ⟨⟨text, [], blank, by simp, by simp⟩, ⟨by simp, by simp⟩⟩

/-! ## Cutting at a separator -/

/-- The segments of a text: texts without the separator that come to the text when they are
joined by it. -/
structure IsCutAt (separator : Char) (cut : List Text) (text : Text) : Prop where
  nonempty : cut ≠ []
  clean : ∀ segment ∈ cut, separator ∉ segment
  joined : [separator].intercalate cut = text

/-- **A text has one list of segments.** -/
theorem isCutAt_iff {separator : Char} {cut : List Text} {text : Text} :
    IsCutAt separator cut text ↔ cut = segments separator text := by
  constructor
  · rintro ⟨nonempty, clean, rfl⟩
    rw [segments_eq_splitOn, List.splitOn_intercalate separator clean nonempty]
  · rintro rfl
    refine ⟨?nonempty, fun segment => not_mem_of_mem_segments, ?joined⟩
    all_goals rw [segments_eq_splitOn]
    case nonempty => exact List.splitOn_ne_nil separator text
    case joined => exact List.intercalate_splitOn separator

end Text

/-! ## The patterns of a text -/

/-- What stands between the commas of a text: each segment that is not blank, in order, without
the white space around it. -/
def ListedIn (text : String) (listed : List String) : Prop :=
  ∃ cut, Text.IsCutAt ',' cut text.toList ∧
    List.Forall₂ Text.StripsTo (cut.filter fun segment => !segment.all isBlank)
      (listed.map String.toList)

/-- What can be one element of a list: a text that is not empty, has no comma, and neither begins
nor ends with white space. -/
structure IsElement (text : Text) : Prop where
  nonempty : text ≠ []
  clean : ',' ∉ text
  tight : text.Tight

/-- Lists of the same characters are the same list. -/
theorem map_toList_injective : Function.Injective (List.map String.toList) :=
  List.map_injective_iff.2 fun _ _ => String.toList_injective

namespace Variable

/-- Blank segments can be left out before the others are trimmed. -/
theorem patterns_eq (text : Text) :
    patterns text =
      ((Text.segments ',' text).filter fun segment => !segment.all isBlank).map Text.trim := by
  have blank (segment : Text) : segment.trim.isEmpty = segment.all isBlank := by
    rw [Bool.eq_iff_iff, List.isEmpty_iff, Text.trim_eq_nil_iff]
  rw [patterns, List.filter_map]
  simp only [Function.comp_def, blank]

theorem listedIn_iff {text : String} {listed : List String} :
    ListedIn text listed ↔ listed.map String.toList = patterns text.toList := by
  have strips : Text.StripsTo = fun segment core => segment.trim = core :=
    funext₂ fun _ _ => propext Text.stripsTo_iff
  simp only [ListedIn, Text.isCutAt_iff, exists_eq_left, patterns_eq, strips]
  rw [← List.forall₂_map_left_iff (R := Eq), List.forall₂_eq_eq_eq, eq_comm]

/-- **A comma parts the patterns before it from those behind it.** -/
theorem patterns_append_comma (before rest : Text) :
    patterns (before ++ ',' :: rest) = patterns before ++ patterns rest := by
  have cut : (before ++ ',' :: rest).splitOn ',' = before.splitOn ',' ++ rest.splitOn ',' :=
    List.splitOnP_append_cons before rest (by decide)
  simp [patterns, Text.segments_eq_splitOn, cut]

/-- The patterns of joined texts are the patterns of each. -/
theorem patterns_intercalate (texts : List Text) :
    patterns ([','].intercalate texts) = texts.flatMap patterns := by
  induction texts with
  | nil => rfl
  | cons text rest ih =>
      cases rest with
      | nil => simp
      | cons next rest =>
          rw [List.intercalate_cons_cons, List.append_assoc, List.singleton_append,
            patterns_append_comma, ih, ← List.flatMap_cons]

/-- An element is its own only pattern. -/
theorem patterns_of_isElement {text : Text} (element : IsElement text) :
    patterns text = [text] := by
  have whole : text.splitOn ',' = [text] := List.splitOn_eq_singleton element.clean
  simp [patterns, Text.segments_eq_splitOn, whole, element.tight.trim_eq, element.nonempty]

/-- Every pattern is an element. -/
theorem isElement_of_mem {text pattern : Text} (member : pattern ∈ patterns text) :
    IsElement pattern := by
  obtain ⟨trimmed, nonempty⟩ := List.mem_filter.1 member
  obtain ⟨segment, inText, rfl⟩ := List.mem_map.1 trimmed
  exact ⟨by simpa using nonempty,
    fun comma => Text.not_mem_of_mem_segments inText (segment.trim_subset comma),
    segment.tight_trim⟩

/-- **The lists of elements are those that are read back when they are joined.** -/
theorem patterns_intercalate_eq_iff {texts : List Text} :
    patterns ([','].intercalate texts) = texts ↔ ∀ text ∈ texts, IsElement text := by
  constructor
  · intro same text member
    rw [← same] at member
    exact isElement_of_mem member
  · intro elements
    calc patterns ([','].intercalate texts)
        = texts.flatMap patterns := patterns_intercalate texts
      _ = texts.flatMap fun text => [text] :=
          List.flatMap_congr fun text member => patterns_of_isElement (elements text member)
      _ = texts := List.flatMap_singleton' texts

/-! ## The variable -/

/-- What a text sets when it stands in the variable of the exclude patterns.  Other variables may
be refused, but this one is not, and they have no part in what it sets. -/
structure SetsPatterns (text : String) (listed : List String) : Prop where
  reads : (kinds.lookup "exclude_patterns").map (read · text) =
    some (.ok (.list (listed.map .text)))
  loads : ∀ environment, environment.lookup "SOURCE_METRICS_EXCLUDE_PATTERNS" = some text →
    match all environment with
    | .ok table => table.get? "exclude_patterns" = some (.list (listed.map .text))
    | .error error => ∀ refusal, error ≠ .variable "SOURCE_METRICS_EXCLUDE_PATTERNS" refusal

theorem nameOf_excludePatterns :
    nameOf "exclude_patterns" = "SOURCE_METRICS_EXCLUDE_PATTERNS" := by
  decide +kernel

/-- No other setting has this variable. -/
theorem kind_of_nameOf : ∀ entry ∈ kinds,
    nameOf entry.1 = "SOURCE_METRICS_EXCLUDE_PATTERNS" → entry.2 = .patterns := by
  decide +kernel

theorem read_patterns {text : String} {listed : List String} :
    read .patterns text = .ok (.list (listed.map .text)) ↔
      listed.map String.toList = patterns text.toList := by
  have texts : Function.Injective (List.map Value.text) :=
    List.map_injective_iff.2 fun _ _ => Value.text.inj
  have shape : read .patterns text =
      .ok (.list (((patterns text.toList).map String.ofList).map .text)) := by
    simp [read]
  rw [shape, Except.ok.injEq, Value.list.injEq, texts.eq_iff,
    ← map_toList_injective.eq_iff, eq_comm]
  simp [Function.comp_def]

/-- **The variable sets the patterns of its text, and nothing stops it from doing so but another
variable.** -/
theorem setsPatterns_iff {text : String} {listed : List String} :
    SetsPatterns text listed ↔ listed.map String.toList = patterns text.toList := by
  have ofPatterns : kinds.lookup "exclude_patterns" = some .patterns := by decide
  rw [← read_patterns]
  constructor
  · intro sets
    have reads := sets.reads
    rw [ofPatterns, Option.map_some, Option.some_inj] at reads
    exact reads
  intro reads
  refine ⟨by rw [ofPatterns, Option.map_some, reads], fun environment present => ?_⟩
  cases outcome : all environment with
  | ok table =>
      obtain ⟨-, values, -⟩ := all_eq_ok outcome
      show table.get? "exclude_patterns" = _
      rw [values, variableValue?, ofPatterns, nameOf_excludePatterns, present]
      simp [reads, Except.toOption]
  | error error =>
      -- An error names a variable that cannot be read, and this one can.
      rintro refusal rfl
      obtain ⟨entry, member, other, refusal', found, refused, blames⟩ := settings_eq_error outcome
      obtain ⟨named, -⟩ := ReportedError.variable.inj blames
      rw [← named, present] at found
      cases found
      rw [kind_of_nameOf entry member named.symm, reads] at refused
      cases refused

end Variable

open Variable in
/-- **The variable of the exclude patterns is read exactly.**  For every text it sets what stands
between the commas and nothing else: the segments that are not blank, in order and without the
white space around them.  What it sets are lists of elements, and these are the lists that are set
by their elements joined by commas. -/
theorem exclude_variable_exact :
    (∀ text : String, ∃ listed : List String, SetsPatterns text listed ∧
      (∀ other, ListedIn text other ↔ other = listed) ∧
      ∀ pattern ∈ listed, IsElement pattern.toList) ∧
    ∀ listed : List String, SetsPatterns (",".intercalate listed) listed ↔
      ∀ pattern ∈ listed, IsElement pattern.toList := by
  constructor
  · intro text
    obtain ⟨listed, spelled⟩ :
        ∃ listed : List String, listed.map String.toList = patterns text.toList :=
      ⟨(patterns text.toList).map String.ofList, by simp [Function.comp_def]⟩
    refine ⟨listed, setsPatterns_iff.2 spelled, fun other => ?_, fun pattern member => ?_⟩
    · rw [listedIn_iff, ← spelled]
      exact map_toList_injective.eq_iff
    · have found : pattern.toList ∈ patterns text.toList := by
        rw [← spelled]
        exact List.mem_map_of_mem member
      exact isElement_of_mem found
  · intro listed
    rw [setsPatterns_iff, String.toList_intercalate, eq_comm]
    exact patterns_intercalate_eq_iff.trans List.forall_mem_map

/-- Blank segments are left out, white space that is no ASCII is cut off as well, and a zero width
space is none. -/
example :
    Variable.patterns " tmp ,, a b ,\u00A0\u3000,\u2003vendor/*\t,\u200B,".toList =
      ["tmp".toList, "a b".toList, "vendor/*".toList, "\u200B".toList] := by
  decide

end LineCensus
