/-
# Proofs.Wrapping -- a layout loses nothing but blanks

What a text shows is its ink: the characters, in order, that are not blank and take up a cell.
Tabs have no ink (`ink_expandTabs`), the words of a text are the text (`flatten_words`), laying
out a word adds just that word (`text_layWord`), and only blanks are cut off the end of a line
(`ink_cropBlanks`).  So the lines of a text have its ink (`ink_lines`).

Without the blanks at its end no line is longer than the width (`Fits`), if every character
finds room in a line.  Laying out a word keeps it so (`State.AllFit.layWord`), and then cutting
lines to the width takes no ink from them (`ink_page`).  So what is in a frame is drawn
(`Panel.ink_sublist_lines`).
-/
import LineCensus.Console.Panel
import LineCensus.Proofs.Indentation

set_option autoImplicit false

namespace LineCensus

/-! ## Lengths and ink -/

namespace Glyphs

variable (glyphs : Glyphs)

@[simp] theorem length_nil : glyphs.length [] = 0 := rfl

@[simp] theorem length_cons (c : Char) (text : Text) :
    glyphs.length (c :: text) = glyphs.cells c + glyphs.length text := rfl

@[simp] theorem length_append (first second : Text) :
    glyphs.length (first ++ second) = glyphs.length first + glyphs.length second := by
  rw [length, List.map_append, sumNat_append, length, length]

theorem length_reverse (text : Text) : glyphs.length text.reverse = glyphs.length text := by
  induction text with
  | nil => rfl
  | cons c rest ih =>
      simp only [List.reverse_cons, length_append, length_cons, length_nil, ih]
      omega

theorem length_trimEnd_le (text : Text) : glyphs.length text.trimEnd ≤ glyphs.length text := by
  obtain ⟨cut, -, whole⟩ := Text.eq_dropEndWhile_append isBlank text
  have longer := congrArg glyphs.length whole
  rw [length_append] at longer
  rw [Text.trimEnd]
  omega

/-- The characters of a text that are seen: they are not blank and take up a cell. -/
def ink (text : Text) : Text :=
  text.filter fun c => !isBlank c && glyphs.cells c != 0

@[simp] theorem ink_append (first second : Text) :
    glyphs.ink (first ++ second) = glyphs.ink first ++ glyphs.ink second :=
  List.filter_append first second

theorem ink_cons_of_blank {c : Char} (blank : isBlank c = true) (text : Text) :
    glyphs.ink (c :: text) = glyphs.ink text := by
  simp [ink, blank]

theorem ink_cons_congr {c : Char} {first second : Text}
    (same : glyphs.ink first = glyphs.ink second) :
    glyphs.ink (c :: first) = glyphs.ink (c :: second) := by
  simp only [ink, List.filter_cons] at same ⊢
  rw [same]

theorem ink_eq_nil {text : Text} (blank : ∀ c ∈ text, isBlank c = true) :
    glyphs.ink text = [] := by
  rw [ink, List.filter_eq_nil_iff]
  intro c member
  simp [blank c member]

theorem ink_flatten_map {f : Text → Text} {lines : List Text}
    (same : ∀ line ∈ lines, glyphs.ink (f line) = glyphs.ink line) :
    glyphs.ink (lines.map f).flatten = glyphs.ink lines.flatten := by
  induction lines with
  | nil => rfl
  | cons line rest ih =>
      rw [List.forall_mem_cons] at same
      rw [List.map_cons, List.flatten_cons, List.flatten_cons, ink_append, ink_append, same.1,
        ih same.2]

theorem ink_flatMap {f : Text → List Text}
    (same : ∀ line, glyphs.ink (f line).flatten = glyphs.ink line) (lines : List Text) :
    glyphs.ink (lines.flatMap f).flatten = glyphs.ink lines.flatten := by
  induction lines with
  | nil => rfl
  | cons line rest ih =>
      rw [List.flatMap_cons, List.flatten_append, List.flatten_cons, ink_append, ink_append, same,
        ih]

end Glyphs

/-- A text without the blanks at its end has the first character, unless all are blank. -/
theorem Text.trimEnd_cons (c : Char) (rest : Text) :
    (∀ d ∈ c :: rest, isBlank d = true) ∨ trimEnd (c :: rest) = c :: trimEnd rest := by
  simp only [trimEnd, dropEndWhile, List.reverse_cons, List.dropWhile_append]
  split
  · rename_i empty
    have blank := List.dropWhile_eq_nil_iff.1 (List.isEmpty_iff.1 empty)
    cases isBlank_c : isBlank c with
    | true =>
        left
        rw [List.forall_mem_cons]
        exact ⟨isBlank_c, fun d member => blank d (List.mem_reverse.2 member)⟩
    | false =>
        right
        rw [List.isEmpty_iff.1 empty, List.dropWhile_cons_of_neg (by simp [isBlank_c])]
        rfl
  · right
    simp

theorem Text.ink_segmentsFrom (glyphs : Glyphs) {separator : Char}
    (blank : isBlank separator = true) (current : Text) (done : List Text) (text : Text) :
    glyphs.ink (segmentsFrom separator current done text).flatten =
      glyphs.ink (done.reverse.flatten ++ (current.reverse ++ text)) := by
  induction text generalizing current done with
  | nil => simp [segmentsFrom]
  | cons c rest ih =>
      rw [segmentsFrom]
      split
      · rename_i same
        rw [ih]
        simp [same, glyphs.ink_cons_of_blank blank]
      · rw [ih]
        simp

namespace Wrap

variable {glyphs : Glyphs}

theorem isBlank_of_mem_blanks {count : Nat} {c : Char} (member : c ∈ blanks count) :
    isBlank c = true := by
  rw [List.eq_of_mem_replicate member]
  decide

/-! ## Tabs -/

theorem ink_expandFrom (column : Nat) (text : Text) :
    glyphs.ink (expandFrom glyphs column text) = glyphs.ink text := by
  induction text generalizing column with
  | nil => rfl
  | cons c rest ih =>
      rw [expandFrom]
      split
      · rename_i tab
        have blank : isBlank c = true := by
          rw [tab]
          decide
        simp only
        rw [Glyphs.ink_append, glyphs.ink_eq_nil fun _ => isBlank_of_mem_blanks, ih,
          glyphs.ink_cons_of_blank blank, List.nil_append]
      · exact glyphs.ink_cons_congr (ih _)

theorem ink_expandTabs (line : Text) : glyphs.ink (expandTabs glyphs line) = glyphs.ink line :=
  ink_expandFrom 0 line

/-! ## Words -/

/-- A text is read as words unless all of it is blank. -/
theorem flatten_wordsFrom {word : Text} {started : Bool} (ended : Bool) {text : Text}
    (some_char : started = true ∨ ∃ c ∈ text, isBlank c = false) :
    (wordsFrom word started ended text).flatten = word.reverse ++ text := by
  induction text generalizing word started ended with
  | nil =>
      rcases some_char with rfl | ⟨c, member, -⟩
      · simp [wordsFrom]
      · cases member
  | cons c rest ih =>
      rw [wordsFrom]
      split
      · rename_i blank
        rw [ih]
        · simp
        · refine some_char.imp_right fun ⟨d, member, solid⟩ => ⟨d, ?_, solid⟩
          rcases List.mem_cons.1 member with rfl | member
          · rw [blank] at solid
            cases solid
          · exact member
      · split
        · rw [List.flatten_cons, ih _ (.inl rfl)]
          simp
        · rw [ih _ (.inl rfl)]
          simp

theorem wordsFrom_of_blank (word : Text) (ended : Bool) {text : Text}
    (blank : ∀ c ∈ text, isBlank c = true) : wordsFrom word false ended text = [] := by
  induction text generalizing word ended with
  | nil => rfl
  | cons c rest ih =>
      rw [List.forall_mem_cons] at blank
      rw [wordsFrom, if_pos blank.1]
      exact ih _ _ blank.2

/-- The words of a text are the text, unless all of it is blank. -/
theorem flatten_words (text : Text) :
    (words text).flatten = text ∨ words text = [] ∧ ∀ c ∈ text, isBlank c = true := by
  by_cases blank : ∀ c ∈ text, isBlank c = true
  · exact .inr ⟨wordsFrom_of_blank [] false blank, blank⟩
  · left
    apply flatten_wordsFrom
    simpa using blank

/-! ## Lines -/

theorem flatten_chopFrom (width filled : Nat) (piece word : Text) :
    (chopFrom glyphs width filled piece word).flatten = piece.reverse ++ word := by
  induction word generalizing filled piece with
  | nil => simp [chopFrom]
  | cons c rest ih =>
      rw [chopFrom]
      split
      · rw [List.flatten_cons, ih]
        simp
      · rw [ih]
        simp

theorem chopFrom_ne_nil (width filled : Nat) (piece word : Text) :
    chopFrom glyphs width filled piece word ≠ [] := by
  induction word generalizing filled piece with
  | nil => exact List.cons_ne_nil _ _
  | cons c rest ih =>
      rw [chopFrom]
      split
      · exact List.cons_ne_nil _ _
      · exact ih _ _

/-- What is laid out so far. -/
def State.text (s : State) : Text :=
  s.done.reverse.flatten ++ s.current

theorem flatten_breakLine (s : State) : s.breakLine.reverse.flatten = s.text := by
  rw [State.breakLine, State.text]
  split
  · rename_i empty
    rw [List.isEmpty_iff.1 empty, List.append_nil]
  · simp

/-- Laying out a word adds that word. -/
theorem text_layWord (glyphs : Glyphs) (width : Nat) (longWord : LongWord) (s : State) (word : Text) :
    (layWord glyphs width longWord s word).text = s.text ++ word := by
  simp only [layWord]
  split
  · simp [State.text]
  split
  · cases longWord with
    | cut => rw [State.text, flatten_breakLine]
    | fold =>
        have nonempty : chop glyphs width word ≠ [] := chopFrom_ne_nil width 0 [] word
        have pieces : (chop glyphs width word).flatten = word := flatten_chopFrom width 0 [] word
        have split := List.dropLast_append_getLast nonempty
        simp only [State.text, List.reverse_append, List.reverse_reverse, List.flatten_append,
          flatten_breakLine, List.getLast?_eq_some_getLast nonempty, Option.getD_some,
          List.append_assoc]
        rw [← split, List.flatten_append, List.flatten_singleton] at pieces
        rw [pieces]
  · rw [State.text, flatten_breakLine]

theorem text_layWords (glyphs : Glyphs) (width : Nat) (longWord : LongWord) (words : List Text) (s : State) :
    (words.foldl (layWord glyphs width longWord) s).text = s.text ++ words.flatten := by
  induction words generalizing s with
  | nil => simp
  | cons word rest ih =>
      rw [List.foldl_cons, ih, text_layWord, List.flatten_cons, List.append_assoc]

theorem ink_layLine (width : Nat) (longWord : LongWord) (text : Text) :
    glyphs.ink (layLine glyphs width longWord text).flatten = glyphs.ink text := by
  have laid := text_layWords glyphs width longWord (words text) {}
  simp only [layLine]
  split
  · simp
  · rename_i broken
    rcases flatten_words text with whole | ⟨none, -⟩
    · rw [whole] at laid
      rw [List.reverse_cons, List.flatten_append, List.flatten_singleton]
      exact congrArg glyphs.ink laid
    · rw [none] at broken
      exact absurd rfl broken

/-- Cropping a line takes blanks off its end. -/
theorem cropBlanks_spec (width : Nat) (line : Text) :
    ∃ cut, (∀ c ∈ cut, isBlank c = true) ∧ line = cropBlanks width line ++ cut := by
  obtain ⟨blanks, blank, whole⟩ := Text.eq_dropEndWhile_append isBlank line
  have lengths := congrArg List.length whole
  rw [List.length_append] at lengths
  refine ⟨_, fun c member => ?_, (List.take_append_drop _ line).symm⟩
  apply blank
  have behind : (line.dropEndWhile isBlank ++ blanks).drop (line.dropEndWhile isBlank).length =
      blanks := List.drop_left
  rw [← whole] at behind
  rw [← behind]
  apply (List.drop_sublist_drop_left line _).subset member
  rw [Text.trimEnd]
  omega

theorem ink_cropBlanks (width : Nat) (line : Text) :
    glyphs.ink (cropBlanks width line) = glyphs.ink line := by
  obtain ⟨cut, blank, whole⟩ := cropBlanks_spec width line
  conv_rhs => rw [whole, Glyphs.ink_append, glyphs.ink_eq_nil blank, List.append_nil]

/-- **The lines of a text have its ink.** -/
theorem ink_lines (width : Nat) (longWord : LongWord) (text : Text) :
    glyphs.ink (lines glyphs width longWord text).flatten = glyphs.ink text := by
  rw [lines, glyphs.ink_flatten_map fun line _ => ink_cropBlanks width line, glyphs.ink_flatMap]
  · exact Text.ink_segmentsFrom glyphs (by decide) [] [] text
  · intro line
    rw [ink_layLine, ink_expandTabs]

/-! ## Lines that fit -/

/-- A line is no longer than the width, but for blanks at its end. -/
def Fits (glyphs : Glyphs) (width : Nat) (line : Text) : Prop :=
  glyphs.length line.trimEnd ≤ width

theorem fits_of_length_le {width : Nat} {line : Text} (short : glyphs.length line ≤ width) :
    Fits glyphs width line :=
  (glyphs.length_trimEnd_le line).trans short

theorem fits_of_blank (width : Nat) {line : Text} (blank : ∀ c ∈ line, isBlank c = true) :
    Fits glyphs width line := by
  have none : line.trimEnd = [] := by
    have cut := Text.dropEndWhile_append [] blank
    exact cut
  rw [Fits, none]
  exact Nat.zero_le width

/-- A line to which text is added. -/
theorem fits_append {width : Nat} {line word : Text}
    (room : glyphs.length word.trimEnd + glyphs.length line ≤ width) :
    Fits glyphs width (line ++ word) := by
  obtain ⟨cut, blank, whole⟩ := Text.eq_dropEndWhile_append isBlank word
  have trimmed : (line ++ word).trimEnd = (line ++ word.trimEnd).trimEnd := by
    conv_lhs => rw [whole, ← List.append_assoc]
    exact Text.dropEndWhile_append _ blank
  have shorter := glyphs.length_trimEnd_le (line ++ word.trimEnd)
  rw [Glyphs.length_append] at shorter
  rw [Fits, trimmed]
  omega

theorem fits_cropBlanks {width : Nat} {line : Text} (fits : Fits glyphs width line) :
    Fits glyphs width (cropBlanks width line) := by
  obtain ⟨cut, blank, whole⟩ := cropBlanks_spec width line
  have same : line.trimEnd = (cropBlanks width line).trimEnd := by
    conv_lhs => rw [whole]
    exact Text.dropEndWhile_append _ blank
  rwa [Fits, ← same]

/-- The pieces of a word are no longer than a line. -/
theorem length_of_mem_chopFrom {width filled : Nat} {piece word : Text}
    (room : ∀ c, glyphs.cells c ≤ width) (short : filled ≤ width)
    (isLength : glyphs.length piece = filled) :
    ∀ part ∈ chopFrom glyphs width filled piece word, glyphs.length part ≤ width := by
  induction word generalizing filled piece with
  | nil =>
      rw [chopFrom, List.forall_mem_singleton, Glyphs.length_reverse, isLength]
      exact short
  | cons c rest ih =>
      rw [chopFrom]
      split
      · rw [List.forall_mem_cons, Glyphs.length_reverse, isLength]
        refine ⟨short, ih (room c) ?_⟩
        simp
      · rename_i fits
        refine ih (by omega) ?_
        rw [Glyphs.length_cons, isLength]
        omega

/-- All lines fit. -/
structure State.AllFit (glyphs : Glyphs) (width : Nat) (s : State) : Prop where
  done : ∀ line ∈ s.done, Fits glyphs width line
  current : Fits glyphs width s.current

namespace State.AllFit

variable {width : Nat} {s : State}

theorem breakLine (fit : s.AllFit glyphs width) :
    ∀ line ∈ s.breakLine, Fits glyphs width line := by
  rw [State.breakLine]
  split
  · exact fit.done
  · exact List.forall_mem_cons.2 ⟨fit.current, fit.done⟩

/-- Laying out a word keeps lines that fit. -/
theorem layWord (room : ∀ c, glyphs.cells c ≤ width) (fit : s.AllFit glyphs width)
    (word : Text) : (layWord glyphs width .fold s word).AllFit glyphs width := by
  simp only [Wrap.layWord]
  split
  · rename_i fits
    exact ⟨fit.done, fits_append fits⟩
  split
  · have short : ∀ part ∈ chop glyphs width word, Fits glyphs width part := fun part member =>
      fits_of_length_le (length_of_mem_chopFrom room (Nat.zero_le width) rfl part member)
    have nonempty : chop glyphs width word ≠ [] := chopFrom_ne_nil width 0 [] word
    refine ⟨fun line member => ?_, ?_⟩
    · rcases List.mem_append.1 member with piece | earlier
      · exact short line (List.dropLast_subset _ (List.mem_reverse.1 piece))
      · exact fit.breakLine line earlier
    · simp only [List.getLast?_eq_some_getLast nonempty, Option.getD_some]
      exact short _ (List.getLast_mem nonempty)
  · rename_i short
    exact ⟨fit.breakLine, Nat.le_of_not_lt short⟩

theorem layWords (room : ∀ c, glyphs.cells c ≤ width) (fit : s.AllFit glyphs width)
    (words : List Text) :
    (words.foldl (Wrap.layWord glyphs width .fold) s).AllFit glyphs width := by
  induction words generalizing s with
  | nil => exact fit
  | cons word rest ih => exact ih (fit.layWord room word)

end State.AllFit

theorem fits_of_mem_layLine {width : Nat} (room : ∀ c, glyphs.cells c ≤ width) (text : Text) :
    ∀ line ∈ layLine glyphs width .fold text, Fits glyphs width line := by
  have start : ({} : State).AllFit glyphs width :=
    ⟨List.forall_mem_nil _, fits_of_blank width (List.forall_mem_nil _)⟩
  have laid := start.layWords room (words text)
  have written := text_layWords glyphs width .fold (words text) {}
  simp only [layLine]
  split
  · rename_i unbroken
    rw [List.forall_mem_singleton]
    rcases flatten_words text with whole | ⟨-, blank⟩
    · -- The text is the only line that was begun.
      rw [whole, State.text, List.isEmpty_iff.1 unbroken] at written
      have current : ((words text).foldl (layWord glyphs width .fold) {}).current = text :=
        written
      rw [← current]
      exact laid.current
    · exact fits_of_blank width blank
  · intro line member
    rcases List.mem_cons.1 (List.mem_reverse.1 member) with rfl | done
    · exact laid.current
    · exact laid.done line done

/-- Cutting a line that fits takes no ink from it. -/
theorem ink_cut {room : Nat} {line : Text} (fits : Fits glyphs room line) :
    glyphs.ink (cut glyphs room line) = glyphs.ink line := by
  induction line generalizing room with
  | nil => rfl
  | cons c rest ih =>
      rw [cut]
      split
      · rename_i short
        apply glyphs.ink_cons_congr
        apply ih
        rcases Text.trimEnd_cons c rest with blank | trimmed
        · exact fits_of_blank _ (List.forall_mem_cons.1 blank).2
        · rw [Fits, trimmed, Glyphs.length_cons] at fits
          rw [Fits]
          omega
      · -- No room is left for this character, so it is among the blanks at the end.
        rename_i long
        rcases Text.trimEnd_cons c rest with blank | trimmed
        · rw [glyphs.ink_eq_nil blank, glyphs.ink_eq_nil fun _ => isBlank_of_mem_blanks]
        · rw [Fits, trimmed, Glyphs.length_cons] at fits
          omega

theorem ink_truncate {width : Nat} {line : Text} (fits : Fits glyphs width line) :
    glyphs.ink (truncate glyphs width .fold line) = glyphs.ink line := by
  rw [truncate]
  split
  · rfl
  · exact ink_cut fits

/-- **The lines of a page have the ink of its text**, if every character finds room in a line. -/
theorem ink_page {width : Nat} (room : ∀ c, glyphs.cells c ≤ width) (text : Text) :
    glyphs.ink (page glyphs width text).flatten = glyphs.ink text := by
  rw [page, glyphs.ink_flatten_map fun line member => ink_truncate ?_, ink_lines]
  obtain ⟨laid, isLaid, rfl⟩ := List.mem_map.1 member
  obtain ⟨row, -, isLine⟩ := List.mem_flatMap.1 isLaid
  exact fits_cropBlanks (fits_of_mem_layLine room _ laid isLine)

end Wrap

/-! ## Frames -/

theorem flatten_sublist_map {f : Text → Text} (inside : ∀ line, List.Sublist line (f line))
    (lines : List Text) : List.Sublist lines.flatten (lines.map f).flatten := by
  induction lines with
  | nil => exact List.Sublist.refl []
  | cons line rest ih => exact (inside line).append ih

/-- What is in a frame is drawn, if every character finds room in it. -/
theorem Panel.ink_sublist_lines {glyphs : Glyphs} {width : Nat} {title content : Text}
    (room : ∀ c, glyphs.cells c ≤ innerWidth glyphs width title content - 2) :
    (glyphs.ink content).Sublist (Panel.lines glyphs width title content).flatten := by
  have inside (count : Nat) (line : Text) : List.Sublist line
      (barV :: ' ' :: Wrap.padRight glyphs count line ++ [' ', barV]) := by
    have padded : List.Sublist line (Wrap.padRight glyphs count line) :=
      List.sublist_append_left _ _
    have behind := padded.trans (List.sublist_append_left _ [' ', barV])
    exact (behind.cons ' ').cons barV
  let inner := innerWidth glyphs width title content
  have body : (glyphs.ink content).Sublist (Wrap.page glyphs (inner - 2) content).flatten := by
    rw [← Wrap.ink_page room]
    exact List.filter_sublist
  have drawn := body.trans (flatten_sublist_map (inside (inner - 2)) _)
  rw [Panel.lines, List.cons_append, List.flatten_cons, List.flatten_append]
  exact (drawn.trans (List.sublist_append_left _ _)).trans (List.sublist_append_right _ _)

end LineCensus
