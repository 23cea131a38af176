/-
# Proofs.Emoji -- what emoji change in a text

A text is shown with emoji for some of its codes and otherwise character by character
(`Glyphs.Shows`).  What the console shows is such a text (`Glyphs.shows_shown`), and it is the
text itself where no code of a known name is written (`Glyphs.Shows.eq_of_noCode`).

No name of an emoji and no emoji has a character that has a meaning in markup
(`Glyphs.IsProper`).  So emoji neither add nor take away a bracket (`Glyphs.Shows.brackets`),
and it does not matter whether backslashes and characters that move the cursor are left out
before or after them (`Glyphs.Shows.solid`).
-/
import LineCensus.Proofs.Tags

set_option autoImplicit false

namespace LineCensus
namespace Glyphs

/-- Characters that open no tag and are shown wherever they stand. -/
def isInert (c : Char) : Bool :=
  c != '[' && c != '\\' && !Markup.isCursorControl c

/-- What holds of the characters that consoles know: names and emoji are inert, no character
takes up more than two cells, and those that can be typed take up one. -/
structure IsProper (glyphs : Glyphs) : Prop where
  inert : ∀ {name emoji : Text}, glyphs.emoji name = some emoji →
    ∀ c ∈ name ++ emoji, isInert c = true
  narrow : ∀ c, glyphs.cells c ≤ 2
  typed : ∀ c, ' ' ≤ c → c ≤ '~' → glyphs.cells c = 1

theorem isProper_plain : plain.IsProper where
  inert := nofun
  narrow _ := Nat.le_succ 1
  typed _ _ _ := rfl

/-! ## Names in small letters -/

theorem toNat_of_not_isInert {c : Char} (notInert : isInert c = false) : c.toNat < 128 := by
  simp only [isInert, Bool.and_eq_false_iff, bne_eq_false_iff_eq, Bool.not_eq_false',
    Markup.isCursorControl, Bool.or_eq_true, beq_iff_eq, Bool.and_eq_true, decide_eq_true_eq]
    at notInert
  rcases notInert with (rfl | rfl) | control
  · decide
  · decide
  · omega

theorem smallLetter_of_not_isInert {c : Char} (notInert : isInert c = false) :
    smallLetter c = [c] ∧ c ≠ capitalSigma := by
  have all : ∀ point < 128, isInert (Char.ofNat point) = false →
      smallLetter (Char.ofNat point) = [Char.ofNat point] ∧ Char.ofNat point ≠ capitalSigma := by
    decide +kernel
  have here := all c.toNat (toNat_of_not_isInert notInert)
  rw [Char.ofNat_toNat] at here
  exact here notInert

theorem mem_lowercaseAfter {c : Char} (small : smallLetter c = [c]) (noSigma : c ≠ capitalSigma)
    {before done rest : Text} (member : c ∈ done ∨ c ∈ rest) :
    c ∈ lowercaseAfter before done rest := by
  induction rest generalizing before done with
  | nil => simpa [lowercaseAfter] using member
  | cons d later ih =>
      rw [lowercaseAfter]
      apply ih
      rcases member with earlier | member
      · exact .inl (List.mem_append_right _ earlier)
      · rcases List.mem_cons.1 member with rfl | member
        · left
          simp [noSigma, small]
        · exact .inr member

/-- What has a meaning in markup is left as it is in small letters. -/
theorem inert_of_lowercase {name : Text} (inert : ∀ c ∈ lowercase name, isInert c = true) :
    ∀ c ∈ name, isInert c = true := by
  intro c member
  by_contra notInert
  rw [Bool.not_eq_true] at notInert
  obtain ⟨small, noSigma⟩ := smallLetter_of_not_isInert notInert
  have kept : c ∈ lowercase name := mem_lowercaseAfter small noSigma (.inr member)
  rw [inert c kept] at notInert
  cases notInert

/-! ## Codes -/

/-- A code is a name and an end that asks for a selector. -/
theorem splitCode_spec (code : Text) :
    ∃ ending, code = (splitCode code).1 ++ ending ∧
      (∀ c ∈ ending, isInert c = true) ∧ ∀ c ∈ (splitCode code).2, isInert c = true := by
  unfold splitCode
  split
  · rename_i ending selector found
    have isEnd := List.find?_some found
    have known := List.mem_of_find?_eq_some found
    have inert : ∀ s ∈ selectors, (s.2 :: s.1.toList).all isInert = true := by decide
    have both := inert (ending, selector) known
    rw [List.all_eq_true, List.forall_mem_cons] at both
    obtain ⟨name, rfl⟩ := List.isSuffixOf_iff_suffix.1 isEnd
    have length : (name ++ ending.toList).length - ending.length = name.length := by
      rw [List.length_append, String.length_toList]
      omega
    refine ⟨ending.toList, ?_, both.2, List.forall_mem_singleton.2 both.1⟩
    rw [length, List.take_left]
  · exact ⟨[], (List.append_nil code).symm, List.forall_mem_nil _, List.forall_mem_nil _⟩

/-- A code that names an emoji is inert, and so is the emoji. -/
theorem IsProper.inert_code {glyphs : Glyphs} (proper : glyphs.IsProper) {code emoji : Text}
    (known : glyphs.emojiOf? code = some emoji) :
    (∀ c ∈ codeText code, isInert c = true) ∧ ∀ c ∈ emoji, isInert c = true := by
  obtain ⟨ending, whole, inertEnding, inertSelector⟩ := splitCode_spec code
  obtain ⟨found, named, rfl⟩ := Option.map_eq_some_iff.1 known
  have inert := proper.inert named
  rw [List.forall_mem_append] at inert
  have inertName := inert_of_lowercase inert.1
  constructor
  · have colon : isInert ':' = true := by decide
    rw [codeText, List.forall_mem_cons, List.forall_mem_append, List.forall_mem_singleton, whole,
      List.forall_mem_append]
    exact ⟨colon, ⟨inertName, inertEnding⟩, colon⟩
  · rw [List.forall_mem_append]
    exact ⟨inert.2, inertSelector⟩

/-- What is read as a code stands there as one. -/
theorem eq_codeText_append {text code : Text} (found : codeAt? text = some code) :
    ∃ after, text = codeText code ++ after := by
  unfold codeAt? at found
  split at found
  · rename_i rest
    simp only [Option.ite_none_right_eq_some] at found
    obtain ⟨stops, isCode⟩ := found
    obtain ⟨after, whole⟩ := Markup.eq_takeWhile_append stops
    obtain rfl := Option.some.inj isCode
    refine ⟨after, ?_⟩
    rw [codeText, List.cons_append, List.append_assoc, List.singleton_append, ← whole]
  · cases found

/-! ## Texts with emoji -/

/-- A text as it is shown with emoji for some of its codes. -/
inductive Shows (glyphs : Glyphs) : Text → Text → Prop where
  | nil : Shows glyphs [] []
  | char (c : Char) {text printed : Text} (rest : Shows glyphs text printed) :
      Shows glyphs (c :: text) (c :: printed)
  | emoji {code emoji text printed : Text} (known : glyphs.emojiOf? code = some emoji)
      (rest : Shows glyphs text printed) : Shows glyphs (codeText code ++ text) (emoji ++ printed)

namespace Shows

variable {glyphs : Glyphs} {text printed : Text}

theorem refl (glyphs : Glyphs) (text : Text) : glyphs.Shows text text := by
  induction text with
  | nil => exact .nil
  | cons c rest ih => exact .char c ih

theorem append {behind printedBehind : Text} (first : glyphs.Shows text printed)
    (second : glyphs.Shows behind printedBehind) :
    glyphs.Shows (text ++ behind) (printed ++ printedBehind) := by
  induction first with
  | nil => exact second
  | char c _ ih => exact .char c ih
  | emoji known _ ih =>
      rw [List.append_assoc, List.append_assoc]
      exact .emoji known ih

/-- A text in which no known code is written is shown as it is. -/
theorem eq_of_noCode (shows : glyphs.Shows text printed)
    (noCode : ∀ code, (glyphs.emojiOf? code).isSome = true → ¬ codeText code <:+: text) :
    printed = text := by
  induction shows with
  | nil => rfl
  | char c _ ih =>
      rw [ih fun code known inside =>
        noCode code known (inside.trans (List.suffix_cons c _).isInfix)]
  | @emoji code emoji rest _ known _ _ =>
      have written : codeText code <:+: codeText code ++ rest := (List.prefix_append _ _).isInfix
      exact absurd written (noCode code (by rw [known]; rfl))

/-- Leaving out what a markup takes away leaves codes and emoji whole. -/
theorem solid (proper : glyphs.IsProper) (shows : glyphs.Shows text printed) :
    glyphs.Shows (Markup.solid text) (Markup.solid printed) := by
  induction shows with
  | nil => exact .nil
  | char c _ ih =>
      rw [Markup.solid, Markup.solid, List.filter_cons, List.filter_cons]
      split
      · exact .char c ih
      · exact ih
  | emoji known _ ih =>
      have kept {whole : Text} (inert : ∀ c ∈ whole, isInert c = true) :
          Markup.solid whole = whole := by
        refine List.filter_eq_self.2 fun c member => ?_
        have isInert := inert c member
        simp only [Glyphs.isInert, Bool.and_eq_true] at isInert
        simp [isInert]
      obtain ⟨inertCode, inertEmoji⟩ := proper.inert_code known
      rw [Markup.solid_append, Markup.solid_append, kept inertCode, kept inertEmoji]
      exact .emoji known ih

/-- Emoji neither add nor take away an opening bracket. -/
theorem brackets (proper : glyphs.IsProper) (shows : glyphs.Shows text printed) :
    printed.count '[' = text.count '[' := by
  induction shows with
  | nil => rfl
  | char c _ ih => rw [List.count_cons, List.count_cons, ih]
  | emoji known _ ih =>
      have none {whole : Text} (inert : ∀ c ∈ whole, isInert c = true) :
          whole.count '[' = 0 := by
        refine List.count_eq_zero.2 fun member => ?_
        exact absurd (inert _ member) (by decide)
      obtain ⟨inertCode, inertEmoji⟩ := proper.inert_code known
      rw [List.count_append, List.count_append, none inertCode, none inertEmoji, ih]

end Shows

theorem shows_showFrom (glyphs : Glyphs) (skip : Nat) (text : Text) :
    glyphs.Shows (text.drop skip) (glyphs.showFrom skip text) := by
  induction text generalizing skip with
  | nil =>
      rw [List.drop_nil]
      cases skip <;> exact .nil
  | cons c rest ih =>
      cases skip with
      | succ skip => exact ih skip
      | zero =>
          rw [List.drop_zero, showFrom]
          split
          · rename_i code found
            obtain ⟨after, whole⟩ := eq_codeText_append found
            have behind := ih (code.length + 1)
            have skipped : rest.drop (code.length + 1) = after := by
              obtain ⟨-, rfl⟩ := List.cons.inj whole
              simp
            rw [skipped] at behind
            rw [whole]
            cases known : glyphs.emojiOf? code with
            | some emoji => exact .emoji known behind
            | none => exact (Shows.refl glyphs _).append behind
          · exact .char c (ih 0)

/-- What a console shows of a text is the text with emoji for some of its codes. -/
theorem shows_shown (glyphs : Glyphs) (text : Text) : glyphs.Shows text (glyphs.shown text) :=
  shows_showFrom glyphs 0 text

/-- A console that knows one emoji, and that emoji are wide and control characters are not
seen. -/
def smiling : Glyphs where
  emoji name := if name = "smile".toList then some [Char.ofNat 0x1F604] else none
  cells c := if c.toNat < 0x20 then 0 else if c.toNat < 0x1F300 then 1 else 2

theorem isProper_smiling : smiling.IsProper where
  inert := by
    intro name emoji known
    obtain ⟨rfl, known⟩ := Option.ite_none_right_eq_some.1 known
    obtain rfl := Option.some.inj known
    have all : ("smile".toList ++ [Char.ofNat 0x1F604]).all isInert = true := by decide
    exact List.all_eq_true.1 all
  narrow := by
    intro c
    simp only [smiling]
    split_ifs <;> omega
  typed := by
    intro c first last
    have atLeast : 0x20 ≤ c.toNat := first
    have atMost : c.toNat ≤ 0x7E := last
    simp only [smiling]
    rw [if_neg (by omega), if_pos (by omega)]

example : smiling.shown "a:b :SMILE-text::smile :smile:".toList =
    "a:b ".toList ++ [Char.ofNat 0x1F604, Char.ofNat 0xFE0E] ++ ":smile ".toList
      ++ [Char.ofNat 0x1F604] := by
  decide +kernel

end Glyphs
end LineCensus
