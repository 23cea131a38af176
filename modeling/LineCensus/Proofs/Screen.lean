/-
# Proofs.Screen -- which reports are printed as they are

A report for a terminal is written as markup, with labels for some words.  Paths, directories
and reasons are escaped, so none of them writes a tag.  The language, the size of a file and the
extension are not; and an escaped text can still close brackets that the text before it opens.  Emoji are
shown for codes in all of them, for whatever emoji and widths of characters the console knows.

* `prints_summary_iff`, `prints_skipped_iff`: which data the summary and the line of a file that
  was passed over print.
* `data_printed_iff`: which reports are printed as they are.
-/
import LineCensus.Proofs.Endings
import LineCensus.Proofs.JsonTokens
import LineCensus.Proofs.Shown
import LineCensus.Proofs.Wrapping
import LineCensus.Report.Format

set_option autoImplicit false

namespace LineCensus

variable {glyphs : Glyphs}

namespace Screen

open Markup

/-! ## Numbers -/

theorem not_mem_of_numberChar {c : Char} (number : Json.isNumberChar c = true) :
    c ∉ ['[', ']', '\\'] := by
  intro member
  have none : ['[', ']', '\\'].all (fun d => !Json.isNumberChar d) = true := by decide
  have noNumber := List.all_eq_true.1 none c member
  rw [number] at noNumber
  cases noNumber

theorem isBare_signed (negative : Bool) {text : Text} (bare : IsBare text) :
    IsBare ((Binary64.signText negative).toList ++ text) := by
  rw [isBare_append]
  refine ⟨?_, bare⟩
  cases negative <;> decide

theorem isBare_whole (n : Int) : IsBare (toString n).toList := by
  rw [Json.toList_toString]
  refine isBare_signed _ fun c member => not_mem_of_numberChar ?_
  rw [Json.isNumberChar, Binary64.isDigit_toDigits member]
  rfl

theorem isBare_real (x : Binary64) : IsBare x.text.toList := by
  cases x with
  | nan => decide
  | signed negative rank =>
      by_cases infinite : Binary64.infiniteRank ≤ rank
      · rw [Binary64.text, if_pos infinite, String.toList_append]
        exact isBare_signed negative (by decide)
      · obtain ⟨numeral, digits, power, written, writes, -⟩ :=
          Binary64.text_spec negative (Nat.lt_of_not_le infinite)
        rw [written]
        exact isBare_signed negative fun c member =>
          not_mem_of_numberChar (Json.numeral_chars writes.proper c member)

theorem isBare_amount (amount : Amount) : IsBare amount.text.toList := by
  cases amount with
  | whole n => exact isBare_whole n
  | real x => exact isBare_real x

/-! ## The complexity in words -/

def complexityStyle (score : Amount) : String :=
  if score.atLeast 50 then "red bold"
  else if score.atLeast 20 then "red"
  else if score.atLeast 10 then "yellow"
  else "green"

def complexityWord (score : Amount) : String :=
  if score.atLeast 50 then "very high"
  else if score.atLeast 20 then "high"
  else if score.atLeast 10 then "moderate"
  else "low"

theorem toList_complexityWords (score : Amount) :
    (complexityWords score).toList =
      label (complexityStyle score).toList (complexityWord score).toList := by
  unfold complexityWords complexityStyle complexityWord
  split_ifs <;> rfl

/-- The names in labels, and the styles that they name. -/
def labelStyles : List (String × String) :=
  [("bold", "bold"), ("red bold", "bold red"), ("red", "red"), ("yellow", "yellow"),
    ("green", "green")]

theorem names_of_mem {name style : String} (member : (name, style) ∈ labelStyles) :
    Names name.toList style := by
  simp only [labelStyles, List.mem_cons, Prod.mk.injEq, List.not_mem_nil, or_false] at member
  rcases member with ⟨rfl, rfl⟩ | ⟨rfl, rfl⟩ | ⟨rfl, rfl⟩ | ⟨rfl, rfl⟩ | ⟨rfl, rfl⟩
  all_goals exact ⟨⟨by decide, by decide⟩, by decide, by decide, by decide, rfl, rfl, by decide⟩

theorem complexityStyle_mem (score : Amount) :
    ∃ style, (complexityStyle score, style) ∈ labelStyles := by
  unfold complexityStyle
  split_ifs
  · exact ⟨"bold red", by decide⟩
  · exact ⟨"red", by decide⟩
  · exact ⟨"yellow", by decide⟩
  · exact ⟨"green", by decide⟩

theorem isBare_complexityWord (score : Amount) : IsBare (complexityWord score).toList := by
  unfold complexityWord
  split_ifs <;> decide

/-! ## The summary -/

/-- The lines of the summary as they are to be read. -/
def summaryText (s : Summary) : List String :=
  ["Files: " ++ toString s.totalFiles ++ " (" ++ toString s.filesAnalyzed
      ++ " analyzed, " ++ toString s.filesSkipped ++ " skipped)",
    "Language: " ++ s.primaryLanguage,
    "Lines: " ++ toString s.totalLines ++ " total, " ++ toString s.codeLines ++ " code, "
      ++ s.commentShare.text ++ "% comments",
    "Methods: " ++ toString s.totalMethods ++ "  Classes: " ++ toString s.totalClasses
      ++ "  Modules: " ++ toString s.totalModules,
    "Complexity: " ++ s.complexityScore.text ++ " (" ++ complexityWord s.complexityScore ++ ")",
    "Average file size: " ++ s.averageFileSize]
    ++ optionalLine "Most common extension: " s.mostCommonExtension id
    ++ optionalLine "Largest directory: " s.largestDirectory id

/-- A line behind others. -/
def nextLine (lines : List String) : Text :=
  lines.flatMap fun line => '\n' :: line.toList

/-- What stands between the first label and the language, and between that and the second. -/
def upToLanguage (s : Summary) : Text :=
  (" (" ++ toString s.filesAnalyzed ++ " analyzed, " ++ toString s.filesSkipped
    ++ " skipped)").toList ++ '\n' :: "Language: ".toList

def behindLanguage (s : Summary) : Text :=
  nextLine ["Lines: " ++ toString s.totalLines ++ " total, " ++ toString s.codeLines ++ " code, "
      ++ s.commentShare.text ++ "% comments",
    "Methods: " ++ toString s.totalMethods ++ "  Classes: " ++ toString s.totalClasses
      ++ "  Modules: " ++ toString s.totalModules,
    "Complexity: " ++ s.complexityScore.text ++ " ("]

/-- The size of a file and the extension: data that is not escaped, one behind the other. -/
def sizeAndExtension (s : Summary) : Text :=
  s.averageFileSize.toList
    ++ nextLine (optionalLine "Most common extension: " s.mostCommonExtension id)

def pieces (s : Summary) : List Piece :=
  [{ before := "Files: ".toList, name := "bold".toList, word := (toString s.totalFiles).toList },
    { before := upToLanguage s ++ (s.primaryLanguage.toList ++ behindLanguage s)
      name := (complexityStyle s.complexityScore).toList
      word := (complexityWord s.complexityScore).toList }]

def directoryLead : Text := '\n' :: "Largest directory: ".toList

def behindLabels (s : Summary) (write : String → String) : Text :=
  ")".toList ++ '\n' :: "Average file size: ".toList ++ (sizeAndExtension s
    ++ nextLine (optionalLine "Largest directory: " s.largestDirectory write))

theorem toList_intercalate_lines (first : String) (rest : List String) :
    ("\n".intercalate (first :: rest)).toList = first.toList ++ nextLine rest := by
  rw [String.toList_intercalate]
  induction rest generalizing first with
  | nil => simp [nextLine]
  | cons next others ih =>
      have later := ih next
      simp only [List.map_cons] at later ⊢
      rw [List.intercalate_cons_cons, later]
      simp [nextLine]

theorem toList_filesLine (count : String) (rest : Text) :
    "Files: [bold]".toList ++ (count.toList ++ ("[/bold] (".toList ++ rest)) =
      "Files: ".toList ++ (label "bold".toList count.toList ++ (" (".toList ++ rest)) := by
  rw [label, List.append_assoc, List.append_assoc]
  rfl

theorem toList_summaryMarkup (s : Summary) :
    ("\n".intercalate (summaryMarkup s)).toList =
      labelled (pieces s)
        (behindLabels s fun directory => String.ofList (Markup.escape directory)) := by
  simp only [summaryMarkup, List.cons_append, toList_intercalate_lines, String.toList_append,
    List.append_assoc]
  refine (toList_filesLine _ _).trans ?_
  simp only [labelled, pieces, behindLabels, upToLanguage, behindLanguage, sizeAndExtension,
    nextLine, toList_complexityWords, String.toList_append, List.foldr_cons, List.foldr_nil,
    List.flatMap_cons, List.flatMap_nil, List.flatMap_append, List.nil_append, List.append_nil,
    List.append_assoc, List.cons_append]

theorem toList_summaryText (s : Summary) :
    ("\n".intercalate (summaryText s)).toList = unlabelled (pieces s) (behindLabels s id) := by
  simp only [summaryText, List.cons_append, toList_intercalate_lines]
  simp only [unlabelled, pieces, behindLabels, upToLanguage, behindLanguage, sizeAndExtension,
    nextLine, String.toList_append, List.foldr_cons, List.foldr_nil, List.flatMap_cons,
    List.flatMap_nil, List.flatMap_append, List.nil_append, List.append_nil, List.append_assoc,
    List.cons_append]

theorem isBare_upToLanguage (s : Summary) : IsBare (upToLanguage s) := by
  simp only [upToLanguage, String.toList_append, isBare_append, isBare_cons, isBare_whole,
    and_true]
  decide

theorem isBare_behindLanguage (s : Summary) : IsBare (behindLanguage s) := by
  simp only [behindLanguage, nextLine, List.flatMap_cons, List.flatMap_nil, String.toList_append,
    List.append_nil, isBare_append, isBare_cons, isBare_whole, isBare_amount, and_true]
  decide

theorem isProper_pieces (s : Summary) : ∀ piece ∈ pieces s, piece.IsProper := by
  obtain ⟨style, isLabel⟩ := complexityStyle_mem s.complexityScore
  simp only [pieces, List.forall_mem_cons, List.not_mem_nil, false_imp_iff, implies_true, and_true]
  have first : IsBare "Files: ".toList := by decide
  refine ⟨⟨first.unescaped, ⟨"bold", names_of_mem (by decide)⟩, isBare_whole _⟩,
    ⟨?_, ⟨style, names_of_mem isLabel⟩, isBare_complexityWord _⟩⟩
  have nonempty : behindLanguage s ≠ [] := List.cons_ne_nil _ _
  rw [← List.append_assoc, List.getLast?_append_of_ne_nil _ nonempty]
  exact (isBare_behindLanguage s).unescaped

/-- The directory that is printed: one that is there and not empty. -/
def printedDirectory (s : Summary) : Option String :=
  s.largestDirectory.filter fun directory => !directory.isEmpty

theorem nextLine_directory (s : Summary) (write : String → String) :
    nextLine (optionalLine "Largest directory: " s.largestDirectory write) =
      (printedDirectory s).elim [] fun directory =>
        directoryLead ++ (write directory).toList := by
  unfold printedDirectory optionalLine
  cases s.largestDirectory with
  | none => rfl
  | some directory =>
      cases empty : directory.isEmpty with
      | true => simp [Option.filter, empty, nextLine]
      | false => simp [Option.filter, empty, nextLine, directoryLead]

theorem writesTag_behindLabels_iff (s : Summary) :
    WritesTag (behindLabels s fun directory => String.ofList (Markup.escape directory)) ↔
      WritesTag (sizeAndExtension s) ∨
        ∃ directory, printedDirectory s = some directory ∧
          Straddles (sizeAndExtension s ++ directoryLead) directory.toList := by
  have bare : IsBare (")".toList ++ '\n' :: "Average file size: ".toList) := by decide
  have bareLead : IsBare directoryLead := by decide
  rw [behindLabels, writesTag_behind_iff bare, nextLine_directory]
  cases printedDirectory s with
  | none => simp
  | some directory =>
      rw [Option.elim_some, String.toList_ofList,
        writesTag_escape_iff bareLead (List.cons_ne_nil _ _)]
      simp

theorem solid_behindLabels (s : Summary) :
    solid (behindLabels s id) =
      solid (behindLabels s fun directory => String.ofList (Markup.escape directory)) := by
  have sameLine :
      solid ((printedDirectory s).elim [] fun directory => directoryLead ++ (id directory).toList) =
        solid ((printedDirectory s).elim [] fun directory =>
          directoryLead ++ (String.ofList (Markup.escape directory)).toList) := by
    cases printedDirectory s with
    | none => simp only [Option.elim_none]
    | some directory =>
        rw [Option.elim_some, Option.elim_some, solid_append, solid_append, String.toList_ofList,
          solid_escape, id]
  simp only [behindLabels, solid_append, nextLine_directory, sameLine]

/-- A summary writes no tag with its data. -/
structure WritesNoTag (s : Summary) : Prop where
  language : ¬ WritesTag s.primaryLanguage.toList
  sizeAndExtension : ¬ WritesTag (sizeAndExtension s)
  directory : ∀ directory, printedDirectory s = some directory →
    ¬ Straddles (Screen.sizeAndExtension s ++ directoryLead) directory.toList

/-- **The summary prints its data if and only if that writes no tag.** -/
theorem prints_summary_iff (proper : glyphs.IsProper) (s : Summary) :
    Prints glyphs ("\n".intercalate (summaryMarkup s)).toList
        ("\n".intercalate (summaryText s)).toList ↔ WritesNoTag s := by
  have same : solid ("\n".intercalate (summaryText s)).toList = solid (unlabelled (pieces s)
      (behindLabels s fun directory => String.ofList (Markup.escape directory))) := by
    rw [toList_summaryText]
    exact solid_unlabelled (solid_behindLabels s)
  have files : ¬ WritesTag "Files: ".toList := not_writesTag_of_not_mem (by decide)
  rw [toList_summaryMarkup, prints_labelled_iff proper (isProper_pieces s) same,
    writesTag_behindLabels_iff]
  simp only [pieces, List.forall_mem_cons, List.not_mem_nil, false_imp_iff, implies_true, and_true,
    writesTag_behind_iff (isBare_upToLanguage s), writesTag_before_iff (isBare_behindLanguage s),
    files, not_false_iff, true_and, not_or, not_exists, not_and]
  constructor
  · rintro ⟨language, sizeAndExtension, directory⟩
    exact ⟨language, sizeAndExtension, directory⟩
  · rintro ⟨language, sizeAndExtension, directory⟩
    exact ⟨language, sizeAndExtension, directory⟩

/-! ## Files that were passed over -/

/-- The line of a file that was passed over, as markup, and as it is to be read. -/
def skippedMarkup (s : SkippedFile) : Text :=
  "[yellow]Skipped[/yellow] ".toList ++ Markup.escape s.path ++ ": ".toList
    ++ Markup.escape s.reason

def skippedText (s : SkippedFile) : Text :=
  "Skipped ".toList ++ s.path.toList ++ ": ".toList ++ s.reason.toList

def skippedPiece : Piece where
  before := []
  name := "yellow".toList
  word := "Skipped".toList

theorem isProper_skippedPiece : ∀ piece ∈ [skippedPiece], piece.IsProper := by
  have bare : IsBare "Skipped".toList := by decide
  rw [List.forall_mem_singleton]
  exact ⟨by decide, ⟨"yellow", names_of_mem (by decide)⟩, bare⟩

def colon : Text := ": ".toList

theorem isBare_colon : IsBare colon := by decide

theorem labelled_skipped (behind : Text) :
    "[yellow]Skipped[/yellow] ".toList ++ behind = labelled [skippedPiece] (' ' :: behind) := rfl

theorem unlabelled_skipped (behind : Text) :
    "Skipped ".toList ++ behind = unlabelled [skippedPiece] (' ' :: behind) := rfl

theorem skippedMarkup_eq (s : SkippedFile) :
    skippedMarkup s = labelled [skippedPiece]
      (' ' :: (Markup.escape s.path ++ (colon ++ Markup.escape s.reason))) := by
  unfold skippedMarkup
  rw [List.append_assoc, List.append_assoc, labelled_skipped, colon]

theorem skippedText_eq (s : SkippedFile) :
    skippedText s = unlabelled [skippedPiece]
      (' ' :: (s.path.toList ++ (colon ++ s.reason.toList))) := by
  unfold skippedText
  rw [List.append_assoc, List.append_assoc, unlabelled_skipped, colon]

/-- **A file that was passed over is printed if and only if no tag begins in its path and ends
in the reason.** -/
theorem prints_skipped_iff (proper : glyphs.IsProper) (s : SkippedFile) :
    Prints glyphs (skippedMarkup s) (skippedText s) ↔
      ¬ Straddles (s.path.toList ++ colon) s.reason.toList := by
  have same : solid (skippedText s) = solid (unlabelled [skippedPiece]
      (' ' :: (Markup.escape s.path ++ (colon ++ Markup.escape s.reason)))) := by
    rw [skippedText_eq]
    apply solid_unlabelled
    apply solid_cons_congr
    simp only [solid_append, solid_escape]
  have space : IsBare [' '] := by decide
  have nonempty : colon ≠ [] := List.cons_ne_nil _ _
  have label : ¬ WritesTag skippedPiece.before := not_writesTag_of_not_mem List.not_mem_nil
  have noTag : ¬ WritesTag (Markup.escape s.path) := not_writesTag_escape s.path
  rw [skippedMarkup_eq, prints_labelled_iff proper isProper_skippedPiece same, List.forall_mem_singleton,
    ← List.singleton_append, writesTag_behind_iff space,
    writesTag_escape_iff isBare_colon nonempty, or_iff_right noTag, and_iff_right label,
    straddles_escape_left_iff isBare_colon.noOpening isBare_colon.noClosing]

/-! ## What ends a report -/

theorem checkNumbers_eq_ok_iff {numbers : List Amount} :
    checkNumbers numbers = .ok () ↔ ∀ n ∈ numbers, isWritable n = true := by
  rw [checkNumbers, ← List.all_eq_true]
  split
  · rename_i all
    exact iff_of_true rfl all
  · rename_i notAll
    exact iff_of_false nofun notAll

theorem exists_summaryLines_iff (glyphs : Glyphs) (width : Nat) (s : Summary) :
    (∃ lines, summaryLines glyphs width s = .ok lines) ↔
      (∀ n ∈ summaryNumbers s, isWritable n = true) ∧
        ∃ printed, shown glyphs ("\n".intercalate (summaryMarkup s)).toList = .ok printed := by
  rw [summaryLines, exists_bind_eq_ok_iff, ← checkNumbers_eq_ok_iff]
  simp only [exists_bind_eq_ok_iff]
  constructor
  · rintro ⟨⟨⟩, short, printed, shows, -⟩
    exact ⟨short, printed, shows⟩
  · rintro ⟨short, printed, shows⟩
    exact ⟨(), short, printed, shows, _, rfl⟩

/-- Paths are shown, whatever they are. -/
theorem exists_fileLines_iff (proper : glyphs.IsProper) (width : Nat) (files : List LargeFile) :
    (∃ lines, fileLines glyphs width files = .ok lines) ↔
      ∀ file ∈ files, isWritable file.kib = true := by
  have rows : ∃ rows, files.mapM (fileRow glyphs) = .ok rows := by
    rw [exists_mapM_eq_ok_iff]
    intro file _
    obtain ⟨cell, shows, -⟩ := prints_escape proper file.path
    exact ⟨[cell, file.kib.text.toList], by rw [fileRow, shows]; rfl⟩
  obtain ⟨rows, made⟩ := rows
  have short : (∀ n ∈ files.map (·.kib), isWritable n = true) ↔
      ∀ file ∈ files, isWritable file.kib = true := by simp
  rw [fileLines, ← short, ← checkNumbers_eq_ok_iff]
  split
  · rename_i empty
    rw [List.isEmpty_iff.1 empty]
    exact iff_of_true ⟨[], rfl⟩ rfl
  · rw [exists_bind_eq_ok_iff]
    constructor
    · rintro ⟨⟨⟩, checked, -⟩
      exact checked
    · intro checked
      exact ⟨(), checked, _, by rw [made]; rfl⟩

theorem exists_skippedLines_iff (glyphs : Glyphs) (width : Nat) (s : SkippedFile) :
    (∃ lines, skippedLines glyphs width s = .ok lines) ↔
      ∃ printed, shown glyphs (skippedMarkup s) = .ok printed := by
  unfold skippedLines
  rw [exists_bind_eq_ok_iff]
  constructor
  · rintro ⟨printed, shows, -⟩
    exact ⟨printed, shows⟩
  · rintro ⟨printed, shows⟩
    exact ⟨printed, shows, _, rfl⟩

/-- A summary cannot be shown if the first tag of the language closes one. -/
theorem shown_summary_fails (glyphs : Glyphs) {s : Summary}
    (closes : Ending.ClosesFirst s.primaryLanguage) :
    ∃ fault, shown glyphs ("\n".intercalate (summaryMarkup s)).toList = .error fault := by
  obtain ⟨before, name, after, written, noBracket, unescaped, noOpening, noClosing⟩ := closes
  have isContent : IsContent ('/' :: name) :=
    ⟨by simp [startsTag], by simp [noOpening], by simp [noClosing]⟩
  have files : IsBare "Files: ".toList := by decide
  have bold : Names "bold".toList "bold" := names_of_mem (by decide)
  have noTag : ¬ WritesTag (upToLanguage s ++ before) := by
    rw [writesTag_behind_iff (isBare_upToLanguage s)]
    exact not_writesTag_of_not_mem noBracket
  have unescapedStretch : (upToLanguage s ++ before).getLast? ≠ some '\\' := by
    cases last : before.getLast? with
    | none =>
        rw [List.getLast?_eq_none_iff.1 last, List.append_nil]
        exact (isBare_upToLanguage s).unescaped
    | some c =>
        rw [List.getLast?_append, last]
        rwa [last] at unescaped
  have split (rest : Text) :
      upToLanguage s ++ (s.primaryLanguage.toList ++ behindLanguage s) ++ rest =
        upToLanguage s ++ before ++
          (tagText 0 ('/' :: name) ++ (after ++ (behindLanguage s ++ rest))) := by
    rw [written, tagText]
    simp
  rw [toList_summaryMarkup]
  apply shown_of_isFault
  simp only [pieces, labelled, List.foldr_cons, List.foldr_nil]
  apply isFault_label files.unescaped files.not_writesTag bold (isBare_whole _)
  rw [split]
  exact isFault_of_closing noTag unescapedStretch isContent _

/-! ## Where the data is -/

/-- A text holds data: the characters of it that are seen, in order, with emoji for some of its
codes and without backslashes and characters that move the cursor. -/
def Holds (glyphs : Glyphs) (text : String) (data : Text) : Prop :=
  ∃ printed, glyphs.Shows (solid data) printed ∧ (glyphs.ink printed).Sublist text.toList

theorem flatten_sublist_textOf (lines : List Text) :
    lines.flatten.Sublist (textOf lines).toList := by
  rw [textOf, String.toList_ofList, List.flatMap_def]
  exact flatten_sublist_map (fun line => List.sublist_append_left line ['\n']) lines

/-- What is printed of data and then drawn holds the data. -/
theorem holds_of_sublist {printed data : Text} {lines drawn : List Text}
    (shows : glyphs.Shows (solid data) (solid printed))
    (inked : (glyphs.ink printed).Sublist lines.flatten) (part : lines.Sublist drawn) :
    Holds glyphs (textOf drawn) data := by
  have solidInk : glyphs.ink (solid printed) = solid (glyphs.ink printed) := by
    rw [Glyphs.ink, solid, Glyphs.ink, solid, List.filter_comm]
  refine ⟨solid printed, shows, ?_⟩
  rw [solidInk]
  exact (List.filter_sublist.trans inked).trans (part.flatten.trans (flatten_sublist_textOf drawn))

/-- A text of characters that can be typed is as long as it has characters. -/
theorem length_of_typed (proper : glyphs.IsProper) {text : Text}
    (typed : ∀ c ∈ text, ' ' ≤ c ∧ c ≤ '~') : glyphs.length text = text.length := by
  induction text with
  | nil => rfl
  | cons c rest ih =>
      rw [List.forall_mem_cons] at typed
      rw [Glyphs.length_cons, proper.typed c typed.1.1 typed.1.2, ih typed.2, List.length_cons,
        Nat.add_comm]

/-- In the frame of the summary every character finds room. -/
theorem cells_le_innerWidth (proper : glyphs.IsProper) {width : Nat} (wide : 6 ≤ width)
    (content : Text) (c : Char) :
    glyphs.cells c ≤ Panel.innerWidth glyphs width panelTitle content - 2 := by
  have typed : panelTitle.all (fun c => decide (' ' ≤ c ∧ c ≤ '~')) = true := by decide
  simp only [List.all_eq_true, decide_eq_true_eq] at typed
  have title : glyphs.length panelTitle = 16 := length_of_typed proper typed
  have narrow := proper.narrow c
  rw [Panel.innerWidth, title]
  omega

end Screen

/-! ## Reports -/

namespace Report

open Markup Screen

/-- A report is printed at a width, with all strings that come from the files and the settings
as they are, but for emoji. -/
structure PrintsData (glyphs : Glyphs) (width : Nat) (r : Report) : Prop where
  summary : Prints glyphs ("\n".intercalate (summaryMarkup r.summary)).toList
    ("\n".intercalate (summaryText r.summary)).toList
  files : ∀ file ∈ r.files.largest, Prints glyphs (Markup.escape file.path) file.path.toList
  skipped : ∀ s ∈ r.skipped, Prints glyphs (skippedMarkup s) (skippedText s)
  text : ∃ text, r.screenText glyphs width = .ok text ∧
    Holds glyphs text ("\n".intercalate (summaryText r.summary)).toList ∧
    ∀ s ∈ r.skipped, Holds glyphs text (skippedText s)

/-- The numbers of a report are short enough to be written. -/
structure HasShortNumbers (r : Report) : Prop where
  summary : ∀ n ∈ summaryNumbers r.summary, isWritable n = true
  grids : ∀ n ∈ gridNumbers r, isWritable n = true
  files : ∀ file ∈ r.files.largest, isWritable file.kib = true

/-- No tag is written by the strings of a report. -/
structure WritesNoTag (r : Report) : Prop where
  summary : Screen.WritesNoTag r.summary
  skipped : ∀ s ∈ r.skipped, ¬ Straddles (s.path.toList ++ colon) s.reason.toList

/-- The parts of a report, one below the other. -/
theorem screenText_eq_ok_iff {width : Nat} {r : Report} {text : String} :
    r.screenText glyphs width = .ok text ↔
      ∃ summary files skipped, summaryLines glyphs width r.summary = .ok summary ∧
        checkNumbers (gridNumbers r) = .ok () ∧
        fileLines glyphs width r.files.largest = .ok files ∧
        r.skipped.mapM (skippedLines glyphs width) = .ok skipped ∧
        text = textOf (summary ++ (codeGrid r).lines glyphs width
          ++ (lengthGrid r).lines glyphs width ++ files ++ skipped.flatten) := by
  constructor
  · intro made
    obtain ⟨lines, ok, made⟩ := bind_eq_ok made
    obtain ⟨summary, first, ok⟩ := bind_eq_ok ok
    obtain ⟨⟨⟩, second, ok⟩ := bind_eq_ok ok
    obtain ⟨files, third, ok⟩ := bind_eq_ok ok
    obtain ⟨skipped, fourth, ok⟩ := bind_eq_ok ok
    cases ok
    exact ⟨summary, files, skipped, first, second, third, fourth, (Except.ok.inj made).symm⟩
  · rintro ⟨summary, files, skipped, first, second, third, fourth, rfl⟩
    rw [screenText, Screen.lines, first, ok_bind, second, ok_bind, third, ok_bind, fourth]
    rfl

/-- A report is printed as text if its numbers are short and its markup can be shown. -/
theorem exists_screenText_iff (proper : glyphs.IsProper) (width : Nat) (r : Report) :
    (∃ text, r.screenText glyphs width = .ok text) ↔ r.HasShortNumbers ∧
      (∃ printed,
        shown glyphs ("\n".intercalate (summaryMarkup r.summary)).toList = .ok printed) ∧
      ∀ s ∈ r.skipped, ∃ printed, shown glyphs (skippedMarkup s) = .ok printed := by
  have summary := exists_summaryLines_iff glyphs width r.summary
  have files := exists_fileLines_iff proper width r.files.largest
  have skipped : (∃ lines, r.skipped.mapM (skippedLines glyphs width) = .ok lines) ↔
      ∀ s ∈ r.skipped, ∃ printed, shown glyphs (skippedMarkup s) = .ok printed := by
    rw [exists_mapM_eq_ok_iff]
    simp only [exists_skippedLines_iff]
  constructor
  · rintro ⟨text, made⟩
    obtain ⟨_, _, _, first, second, third, fourth, -⟩ := screenText_eq_ok_iff.1 made
    obtain ⟨short, shows⟩ := summary.1 ⟨_, first⟩
    exact ⟨⟨short, checkNumbers_eq_ok_iff.1 second, files.1 ⟨_, third⟩⟩, shows,
      skipped.1 ⟨_, fourth⟩⟩
  · rintro ⟨⟨short, grids, kib⟩, shows, showsEach⟩
    obtain ⟨_, first⟩ := summary.2 ⟨short, shows⟩
    obtain ⟨_, third⟩ := files.2 kib
    obtain ⟨_, fourth⟩ := skipped.2 showsEach
    exact ⟨_, screenText_eq_ok_iff.2
      ⟨_, _, _, first, checkNumbers_eq_ok_iff.2 grids, third, fourth, rfl⟩⟩

section Wide

variable (proper : glyphs.IsProper) {width : Nat} (wide : 6 ≤ width) {r : Report} {text : String}

include proper wide

/-- The text of a report holds what its summary prints. -/
theorem holds_summary (made : r.screenText glyphs width = .ok text) {data : Text}
    (prints : Prints glyphs ("\n".intercalate (summaryMarkup r.summary)).toList data) :
    Holds glyphs text data := by
  obtain ⟨printed, shows, same⟩ := prints
  obtain ⟨summary, files, skipped, first, -, -, -, rfl⟩ := screenText_eq_ok_iff.1 made
  obtain ⟨⟨⟩, -, first⟩ := bind_eq_ok first
  rw [shows, ok_bind] at first
  cases first
  refine holds_of_sublist same
    (Panel.ink_sublist_lines (cells_le_innerWidth proper wide printed)) ?_
  simp only [List.append_assoc]
  exact List.sublist_append_left _ _

/-- And what it prints of each file that was passed over. -/
theorem holds_skipped (made : r.screenText glyphs width = .ok text) {s : SkippedFile}
    (member : s ∈ r.skipped) {data : Text} (prints : Prints glyphs (skippedMarkup s) data) :
    Holds glyphs text data := by
  obtain ⟨printed, shows, same⟩ := prints
  obtain ⟨summary, files, skipped, -, -, -, each, rfl⟩ := screenText_eq_ok_iff.1 made
  obtain ⟨lines, drawn, here⟩ := exists_mem_of_mapM_eq_ok each member
  obtain ⟨shown, shows', here⟩ := bind_eq_ok here
  obtain rfl : shown = printed := Except.ok.inj (shows'.symm.trans shows)
  cases here
  have room (c : Char) : glyphs.cells c ≤ width := (proper.narrow c).trans (by omega)
  have inked : (glyphs.ink shown).Sublist (Wrap.page glyphs width shown).flatten := by
    rw [← Wrap.ink_page room]
    exact List.filter_sublist
  exact holds_of_sublist same inked
    ((List.sublist_flatten_of_mem drawn).trans (List.sublist_append_right _ _))

end Wide

/-- A language whose first tag closes one ends the report. -/
theorem screenText_fails (glyphs : Glyphs) (width : Nat) {r : Report}
    (closes : Ending.ClosesFirst r.summary.primaryLanguage) :
    ∃ fault, r.screenText glyphs width = .error fault := by
  obtain ⟨fault, fails⟩ := shown_summary_fails glyphs closes
  cases made : r.screenText glyphs width with
  | error fault => exact ⟨fault, rfl⟩
  | ok text =>
      obtain ⟨summary, -, -, first, -⟩ := screenText_eq_ok_iff.1 made
      obtain ⟨-, printed, shows⟩ := (exists_summaryLines_iff glyphs width r.summary).1 ⟨_, first⟩
      rw [fails] at shows
      cases shows

end Report

open Markup Screen

/-- **A report is printed with its strings as they are, but for emoji, if and only if its numbers
are short and its strings write no tag.**  Paths of files are printed whatever they are; a
language whose first tag closes one ends the report. -/
theorem data_printed_iff {glyphs : Glyphs} (proper : glyphs.IsProper) {width : Nat}
    (wide : 6 ≤ width) (r : Report) :
    (r.PrintsData glyphs width ↔ r.HasShortNumbers ∧ r.WritesNoTag) ∧
      (∀ file ∈ r.files.largest, Prints glyphs (Markup.escape file.path) file.path.toList) ∧
      (Ending.ClosesFirst r.summary.primaryLanguage →
        ∃ fault, r.screenText glyphs width = .error fault) := by
  refine ⟨?_, fun file _ => prints_escape proper file.path, fun closes => ?_⟩
  · constructor
    · rintro ⟨summary, -, skipped, text, made, -⟩
      obtain ⟨short, -⟩ := (Report.exists_screenText_iff proper width r).1 ⟨text, made⟩
      exact ⟨short, (prints_summary_iff proper r.summary).1 summary,
        fun s member => (prints_skipped_iff proper s).1 (skipped s member)⟩
    · rintro ⟨short, summary, skipped⟩
      have printsSummary := (prints_summary_iff proper r.summary).2 summary
      have printsSkipped : ∀ s ∈ r.skipped, Prints glyphs (skippedMarkup s) (skippedText s) :=
        fun s member => (prints_skipped_iff proper s).2 (skipped s member)
      have shows : ∃ text, r.screenText glyphs width = .ok text := by
        apply (Report.exists_screenText_iff proper width r).2
        refine ⟨short, ?_, fun s member => ?_⟩
        · obtain ⟨printed, shows, -⟩ := printsSummary
          exact ⟨printed, shows⟩
        · obtain ⟨printed, shows, -⟩ := printsSkipped s member
          exact ⟨printed, shows⟩
      obtain ⟨text, made⟩ := shows
      exact ⟨printsSummary, fun file _ => prints_escape proper file.path, printsSkipped, text, made,
        Report.holds_summary proper wide made printsSummary,
        fun s member => Report.holds_skipped proper wide made member (printsSkipped s member)⟩
  · exact Report.screenText_fails glyphs width closes

/-- A report on a file in brackets, of which one holds the code of an emoji. -/
def emojiInBrackets : Report where
  summary := { primaryLanguage := "Ruby" }
  skipped := [{ path := "/tmp/[:smile:].rb", reason := "file does not exist" }]

theorem data_printed_iff_emojiInBrackets :
    Glyphs.smiling.IsProper ∧ 6 ≤ ReportFormat.pageWidth ∧
      emojiInBrackets.PrintsData .smiling ReportFormat.pageWidth := by
  have short : emojiInBrackets.HasShortNumbers :=
    ⟨by decide +kernel, by decide +kernel, List.forall_mem_nil _⟩
  have summary : Screen.WritesNoTag emojiInBrackets.summary :=
    ⟨not_writesTag_of_not_mem (by decide), not_writesTag_of_not_mem (by decide), nofun⟩
  have skipped : ∀ s ∈ emojiInBrackets.skipped,
      ¬ Straddles (s.path.toList ++ colon) s.reason.toList :=
    List.forall_mem_singleton.2 (not_straddles_of_right (by decide))
  have wide : 6 ≤ ReportFormat.pageWidth := by decide
  exact ⟨Glyphs.isProper_smiling, wide,
    (data_printed_iff Glyphs.isProper_smiling wide emojiInBrackets).1.2 ⟨short, summary, skipped⟩⟩

/-- Reports with a closing tag as the language, an opening one in the extension, and one that
begins in a path and ends in the reason. -/
def closingLanguage : Report where
  summary := { primaryLanguage := "[/x]" }

def taggedExtension : Report where
  summary := { primaryLanguage := "Ruby", mostCommonExtension := some ".[b]" }

def straddledReason : Report where
  summary := { primaryLanguage := "Ruby" }
  skipped := [{ path := "/a/[/b", reason := "c] d" }]

theorem not_every_report_prints_data :
    (∃ fault, ReportFormat.rich.text closingLanguage = .error fault) ∧
      ¬ taggedExtension.PrintsData .plain ReportFormat.pageWidth ∧
      ¬ straddledReason.PrintsData .plain ReportFormat.pageWidth := by
  have proper := Glyphs.isProper_plain
  refine ⟨?_, fun prints => ?_, fun prints => ?_⟩
  · have closes : Ending.ClosesFirst closingLanguage.summary.primaryLanguage :=
      ⟨[], "x".toList, [], rfl, by decide, by decide, by decide, by decide⟩
    exact Report.screenText_fails .plain ReportFormat.pageWidth closes
  · have noTag :=
      ((prints_summary_iff proper taggedExtension.summary).1 prints.summary).sizeAndExtension
    apply noTag
    exact ⟨"0.0 B\nMost common extension: .".toList, 0, "b".toList, [], rfl, by decide, rfl,
      by decide, by decide⟩
  · have skipped := prints.skipped { path := "/a/[/b", reason := "c] d" } List.mem_cons_self
    apply (prints_skipped_iff proper _).1 skipped
    refine ⟨"/b: ".toList, "c".toList, ?_, ?_, by decide, by decide⟩
    · exact ⟨"/a/".toList, 0, rfl, by decide, rfl, by decide, by decide⟩
    · exact ⟨by decide, by decide, " d".toList, rfl⟩

end LineCensus
