/-
# Proofs.Tags -- which texts write a tag

A tag is a pair of brackets around what can stand in a tag, behind an even number of
backslashes; an odd number of them escapes it.  `WritesTag` says so of a text without reading it
from left to right, and `exists_tag_iff` that the reading finds the same.

A text is read tag by tag and otherwise character by character; proofs on that follow it
(`tag_induction`).

* `writesTag_append_iff`: two texts write a tag if one of them does, or if the first ends within
  brackets that the second closes (`Straddles`).
* `tokensFrom_upToTag`: a text can be cut at a tag.
* `solid_tokens`: reading changes nothing but backslashes.
-/
import LineCensus.Proofs.Markup

set_option autoImplicit false

namespace LineCensus
namespace Markup

/-! ## Tags in a text -/

/-- A tag as it stands in a text, with the backslashes before it. -/
def tagText (slashes : Nat) (content : Text) : Text :=
  List.replicate slashes '\\' ++ '[' :: (content ++ [']'])

theorem length_tagText (slashes : Nat) (content : Text) :
    (tagText slashes content).length = tagLength slashes content := by
  simp only [tagText, tagLength, List.length_append, List.length_replicate, List.length_cons,
    List.length_nil]
  omega

theorem tagText_ne_nil (slashes : Nat) (content : Text) : tagText slashes content ≠ [] := by
  simp [tagText]

theorem getLast?_tagText (slashes : Nat) (content : Text) :
    (tagText slashes content).getLast? = some ']' := by
  have ends : tagText slashes content =
      (List.replicate slashes '\\' ++ '[' :: content) ++ [']'] := by
    simp [tagText]
  rw [ends, List.getLast?_concat]

/-- Backslashes are counted, and what follows them is the tag. -/
theorem tagAt?_slashes (slashes : Nat) {text : Text} (other : text.head? ≠ some '\\') :
    tagAt? (List.replicate slashes '\\' ++ text) =
      (tagAt? text).map fun found => (slashes, found.2) := by
  have stop : text.takeWhile (· = '\\') = [] ∧ text.dropWhile (· = '\\') = text := by
    cases text with
    | nil => exact ⟨rfl, rfl⟩
    | cons c rest =>
        have different : c ≠ '\\' := fun same => other (congrArg some same)
        simp [different]
  have taken : (List.replicate slashes '\\' ++ text).takeWhile (· = '\\') =
      List.replicate slashes '\\' := by
    rw [List.takeWhile_append_of_pos (by simp), stop.1, List.append_nil]
  have dropped : (List.replicate slashes '\\' ++ text).dropWhile (· = '\\') = text := by
    rw [List.dropWhile_append_of_pos (by simp), stop.2]
  simp only [tagAt?, taken, dropped, stop, List.length_replicate]
  split
  · split
    · split <;> rfl
    · rfl
  · rfl

/-- A text is the backslashes that it begins with and what follows them. -/
theorem eq_slashes_append (text : Text) :
    text = List.replicate (text.takeWhile (· = '\\')).length '\\' ++
      text.dropWhile (· = '\\') := by
  have all : text.takeWhile (· = '\\') =
      List.replicate (text.takeWhile (· = '\\')).length '\\' := by
    apply List.eq_replicate_of_mem
    intro c member
    have slash := List.mem_takeWhile_imp member
    exact of_decide_eq_true slash
  rw [← all, List.takeWhile_append_dropWhile]

/-- What is taken is followed by what stops it. -/
theorem eq_takeWhile_append {p : Char → Bool} {text : Text} {c : Char}
    (stops : (text.drop (text.takeWhile p).length).head? = some c) :
    ∃ after, text = text.takeWhile p ++ c :: after := by
  have split := List.takeWhile_append_dropWhile (p := p) (l := text)
  have dropped : (text.takeWhile p ++ text.dropWhile p).drop (text.takeWhile p).length =
      text.dropWhile p := List.drop_left
  rw [split] at dropped
  rw [dropped] at stops
  obtain ⟨after, first⟩ := List.head?_eq_some_iff.1 stops
  exact ⟨after, by rw [← first, split]⟩

theorem isContent_of_taken {c : Char} (rest : Text) (starts : startsTag c = true) :
    IsContent (c :: rest.takeWhile fun d => d != '[' && d != ']') := by
  have notHere (bracket : Char) (isBracket : startsTag bracket = false)
      (stops : (bracket != '[' && bracket != ']') = false) :
      bracket ∉ c :: rest.takeWhile fun d => d != '[' && d != ']' := by
    intro member
    rcases List.mem_cons.1 member with rfl | inside
    · rw [starts] at isBracket
      cases isBracket
    · rw [List.mem_takeWhile_imp (p := fun d => d != '[' && d != ']') inside] at stops
      cases stops
  exact ⟨starts, notHere '[' (by decide) (by decide), notHere ']' (by decide) (by decide)⟩

theorem tagAt?_eq_some_iff {text : Text} {slashes : Nat} {content : Text} :
    tagAt? text = some (slashes, content) ↔
      IsContent content ∧ ∃ rest, text = tagText slashes content ++ rest := by
  constructor
  · intro found
    have whole := eq_slashes_append text
    simp only [tagAt?] at found
    split at found
    · rename_i c rest behind
      split at found
      · rename_i starts
        split at found
        · rename_i closed
          simp only [Option.some.injEq, Prod.mk.injEq] at found
          obtain ⟨rfl, rfl⟩ := found
          obtain ⟨after, closes⟩ := eq_takeWhile_append closed
          refine ⟨isContent_of_taken rest starts, after, ?_⟩
          rw [behind, closes] at whole
          simpa [tagText] using whole
        · cases found
      · cases found
    · cases found
  · rintro ⟨isContent, rest, rfl⟩
    have plain := tagAt?_tag isContent rest
    rw [tagText, List.append_assoc, List.cons_append, List.append_assoc, List.singleton_append,
      tagAt?_slashes slashes (by simp), plain]
    rfl

theorem tagAt?_tagText {content : Text} (isContent : IsContent content) (slashes : Nat)
    (rest : Text) : tagAt? (tagText slashes content ++ rest) = some (slashes, content) :=
  tagAt?_eq_some_iff.2 ⟨isContent, rest, rfl⟩

/-- A text is empty, or begins with a tag, escaped or not, or with another character. -/
@[elab_as_elim]
theorem tag_induction {P : Text → Prop} (nil : P [])
    (tag : ∀ slashes content rest, IsContent content → P rest →
      P (tagText slashes content ++ rest))
    (plain : ∀ c rest, tagAt? (c :: rest) = none → P rest → P (c :: rest)) (text : Text) :
    P text := by
  induction length : text.length using Nat.strongRecOn generalizing text with
  | _ n ih =>
      subst length
      cases text with
      | nil => exact nil
      | cons c rest =>
          cases found : tagAt? (c :: rest) with
          | none => exact plain c rest found (ih rest.length (by simp) rest rfl)
          | some here =>
              obtain ⟨isContent, after, whole⟩ := tagAt?_eq_some_iff.1 found
              rw [whole]
              apply tag here.1 here.2 after isContent
              refine ih after.length ?_ after rfl
              rw [whole, List.length_append, length_tagText, tagLength]
              omega

theorem drop_tagText {slashes : Nat} {content rest more : Text} {c : Char}
    (whole : tagText slashes content ++ rest = c :: more) :
    more.drop (tagLength slashes content - 1) = rest := by
  have dropped : (c :: more).drop (tagLength slashes content) = rest := by
    rw [← whole, ← length_tagText, List.drop_left]
  have one : tagLength slashes content = (tagLength slashes content - 1) + 1 := by
    simp only [tagLength]
    omega
  rw [one, List.drop_succ_cons] at dropped
  exact dropped

/-! ## Reading a text tag by tag -/

/-- What a tag is read as behind its backslashes. -/
def bracketToken (slashes : Nat) (content : Text) : Token :=
  if slashes % 2 = 1 then .plain ('[' :: (content ++ [']'])) else .tag content

theorem unescape_brackets {content : Text} (isContent : IsContent content) :
    unescape ('[' :: content ++ [']']) = '[' :: (content ++ [']']) := by
  have noBracket : '[' ∉ content ++ [']'] := by
    simp [isContent.noBracket.1]
  rw [List.cons_append, unescape, unescape_of_not_mem noBracket]
  simp

theorem tokensFrom_tagText {content : Text} (isContent : IsContent content) (slashes : Nat)
    (plain rest : Text) :
    tokensFrom 0 plain (tagText slashes content ++ rest) =
      plainToken plain ++ .plain (List.replicate (slashes / 2) '\\') ::
        bracketToken slashes content :: tokensFrom 0 [] rest := by
  obtain ⟨c, more, whole⟩ : ∃ c more, tagText slashes content ++ rest = c :: more :=
    List.exists_cons_of_ne_nil (by simp [tagText_ne_nil])
  have found := tagAt?_tagText isContent slashes rest
  rw [whole] at found
  rw [whole, tokensFrom, found]
  simp only
  rw [tokensFrom_skip, drop_tagText whole, unescape_brackets isContent, bracketToken]
  by_cases odd : slashes % 2 = 1
  · simp only [odd, if_true, List.append_assoc, List.cons_append, List.nil_append]
  · simp only [odd, if_false, List.append_assoc, List.cons_append, List.nil_append]

theorem tokensFrom_char {c : Char} {rest : Text} (noTag : tagAt? (c :: rest) = none)
    (plain : Text) : tokensFrom 0 plain (c :: rest) = tokensFrom 0 (c :: plain) rest := by
  rw [tokensFrom, noTag]

theorem escapeFrom_skip (skip : Nat) (text : Text) :
    escapeFrom skip text = escapeFrom 0 (text.drop skip) := by
  induction skip generalizing text with
  | zero => rfl
  | succ skip ih =>
      cases text with
      | nil => rfl
      | cons c rest => exact ih rest

theorem escapeFrom_tagText {content : Text} (isContent : IsContent content) (slashes : Nat)
    (rest : Text) :
    escapeFrom 0 (tagText slashes content ++ rest) =
      tagText (2 * slashes + 1) content ++ escapeFrom 0 rest := by
  obtain ⟨c, more, whole⟩ : ∃ c more, tagText slashes content ++ rest = c :: more :=
    List.exists_cons_of_ne_nil (by simp [tagText_ne_nil])
  have found := tagAt?_tagText isContent slashes rest
  rw [whole] at found
  rw [whole, escapeFrom, found]
  simp only
  rw [escapeFrom_skip, drop_tagText whole, tagText]
  simp

theorem escapeFrom_char {c : Char} {rest : Text} (noTag : tagAt? (c :: rest) = none) :
    escapeFrom 0 (c :: rest) = c :: escapeFrom 0 rest := by
  rw [escapeFrom, noTag]

/-! ## Texts that write a tag -/

/-- A tag stands in a text and is not escaped. -/
def WritesTag (text : Text) : Prop :=
  ∃ before slashes content after, text = before ++ (tagText slashes content ++ after) ∧
    before.getLast? ≠ some '\\' ∧ slashes % 2 = 0 ∧ IsContent content

theorem not_writesTag_of_not_mem {text : Text} (noBracket : '[' ∉ text) : ¬ WritesTag text := by
  rintro ⟨before, slashes, content, after, rfl, -⟩
  apply noBracket
  simp [tagText]

/-- A text ends within brackets that could become a tag; `head` is what stands in them. -/
def Opens (text head : Text) : Prop :=
  ∃ before slashes, text = before ++ (List.replicate slashes '\\' ++ '[' :: head) ∧
    before.getLast? ≠ some '\\' ∧ slashes % 2 = 0 ∧ '[' ∉ head ∧ ']' ∉ head

/-- A text closes brackets; `tail` is what stands in them. -/
def Closes (text tail : Text) : Prop :=
  '[' ∉ tail ∧ ']' ∉ tail ∧ ∃ after, text = tail ++ ']' :: after

/-- The second text closes brackets that the first opens, and together they write a tag. -/
def Straddles (first second : Text) : Prop :=
  ∃ head tail, Opens first head ∧ Closes second tail ∧ IsContent (head ++ tail)

/-- What ends in no backslash has no part in a run of them. -/
theorem eq_nil_of_slashes {before more : Text} {slashes : Nat}
    (all : before ++ more = List.replicate slashes '\\') (unescaped : before.getLast? ≠ some '\\') :
    before = [] := by
  by_contra nonempty
  apply unescaped
  rw [List.getLast?_eq_some_getLast nonempty]
  have member : before.getLast nonempty ∈ before ++ more :=
    List.mem_append_left _ (List.getLast_mem nonempty)
  rw [all] at member
  exact congrArg some (List.eq_of_mem_replicate member)

/-- A tag is cut among its backslashes, behind its end, or within its brackets. -/
theorem tagText_eq_append {slashes : Nat} {content front back : Text}
    (cut : tagText slashes content = front ++ back) :
    (∃ n ≤ slashes, front = List.replicate n '\\' ∧ back = tagText (slashes - n) content) ∨
      front = tagText slashes content ∧ back = [] ∨
      ∃ head tail, content = head ++ tail ∧
        front = List.replicate slashes '\\' ++ '[' :: head ∧ back = tail ++ [']'] := by
  induction slashes generalizing front with
  | zero =>
      cases front with
      | nil => exact .inl ⟨0, Nat.le_refl 0, rfl, cut.symm⟩
      | cons c more =>
          obtain ⟨rfl, inside⟩ : '[' = c ∧ content ++ [']'] = more ++ back := by
            simpa [tagText] using cut
          rcases List.eq_nil_or_concat back with rfl | ⟨tail, d, rfl⟩
          · rw [List.append_nil] at inside
            exact .inr (.inl ⟨by simp [tagText, inside], rfl⟩)
          · rw [List.concat_eq_append, ← List.append_assoc] at inside
            obtain ⟨split, last⟩ := List.append_inj' inside rfl
            exact .inr (.inr ⟨more, tail, split, rfl, by rw [List.concat_eq_append, last]⟩)
  | succ slashes ih =>
      cases front with
      | nil => exact .inl ⟨0, Nat.zero_le _, rfl, cut.symm⟩
      | cons c more =>
          obtain ⟨rfl, later⟩ : '\\' = c ∧ tagText slashes content = more ++ back := by
            simpa [tagText, List.replicate_succ] using cut
          rcases ih later with ⟨n, most, rfl, rest⟩ | ⟨rfl, rest⟩ | ⟨head, tail, split, rfl, rest⟩
          · exact .inl ⟨n + 1, by omega, rfl, by rw [rest]; congr 1; omega⟩
          · exact .inr (.inl ⟨rfl, rest⟩)
          · exact .inr (.inr ⟨head, tail, split, rfl, rest⟩)

theorem bracket_mem_tagText (slashes : Nat) (content : Text) : '[' ∈ tagText slashes content := by
  simp [tagText]

/-- Two texts write a tag if one of them does, or if a tag begins in the first and ends in the
second.  Between them no backslash may meet a bracket. -/
theorem writesTag_append_iff {first second : Text}
    (seam : first.getLast? ≠ some '\\' ∨ '[' ∉ second) :
    WritesTag (first ++ second) ↔
      WritesTag first ∨ WritesTag second ∨ Straddles first second := by
  constructor
  · rintro ⟨before, slashes, content, after, whole, unescaped, even, isContent⟩
    rcases List.append_eq_append_iff.1 whole with ⟨more, rfl, behind⟩ | ⟨more, rfl, behind⟩
    · refine .inr (.inl ⟨more, slashes, content, after, behind, ?_, even, isContent⟩)
      cases more with
      | nil => simp
      | cons c others => simpa [List.getLast?_append] using unescaped
    rcases List.append_eq_append_iff.1 behind with ⟨rest, rfl, rfl⟩ | ⟨rest, cut, rfl⟩
    · exact .inl ⟨before, slashes, content, rest, rfl, unescaped, even, isContent⟩
    rcases tagText_eq_append cut with ⟨n, most, rfl, rfl⟩ | ⟨rfl, rfl⟩ | ⟨head, tail, rfl, rfl, rfl⟩
    · -- The texts meet among the backslashes, so there are none before the seam.
      obtain rfl : n = 0 := by
        rcases seam with unescapedSeam | noBracket
        · by_contra positive
          apply unescapedSeam
          simp [List.getLast?_append, List.getLast?_replicate, positive]
        · apply absurd _ noBracket
          exact List.mem_append_left _ (bracket_mem_tagText _ _)
      exact .inr (.inl ⟨[], slashes, content, after, rfl, by simp, even, isContent⟩)
    · exact .inl ⟨before, slashes, content, [], by simp, unescaped, even, isContent⟩
    · have noOpening := isContent.noBracket.1
      have noClosing := isContent.noBracket.2
      simp only [List.mem_append, not_or] at noOpening noClosing
      refine .inr (.inr ⟨head, tail, ?_, ?_, isContent⟩)
      · exact ⟨before, slashes, rfl, unescaped, even, noOpening.1, noClosing.1⟩
      · exact ⟨noOpening.2, noClosing.2, after, by simp⟩
  · rintro (⟨before, slashes, content, after, rfl, unescaped, even, isContent⟩ |
      ⟨before, slashes, content, after, rfl, unescaped, even, isContent⟩ |
      ⟨head, tail, ⟨before, slashes, rfl, unescaped, even, -⟩, ⟨-, -, after, rfl⟩, isContent⟩)
    · exact ⟨before, slashes, content, after ++ second, by simp, unescaped, even, isContent⟩
    · refine ⟨first ++ before, slashes, content, after, by simp, ?_, even, isContent⟩
      cases before with
      | nil =>
          rw [List.append_nil]
          refine seam.resolve_right fun noBracket => noBracket ?_
          simp [bracket_mem_tagText]
      | cons c others => simpa [List.getLast?_append] using unescaped
    · exact ⟨before, slashes, head ++ tail, after, by simp [tagText], unescaped, even, isContent⟩

/-- Only what stands behind the last closing bracket can be open. -/
theorem opens_append_iff {front back head : Text} (closed : front.getLast? = some ']') :
    Opens (front ++ back) head ↔ Opens back head := by
  constructor
  · rintro ⟨before, slashes, whole, unescaped, even, noOpening, noClosing⟩
    rcases List.append_eq_append_iff.1 whole with ⟨more, rfl, behind⟩ | ⟨more, rfl, behind⟩
    · refine ⟨more, slashes, behind, ?_, even, noOpening, noClosing⟩
      cases more with
      | nil => simp
      | cons c others => simpa [List.getLast?_append] using unescaped
    · rcases List.eq_nil_or_concat more with rfl | ⟨others, c, rfl⟩
      · exact ⟨[], slashes, behind.symm, by simp, even, noOpening, noClosing⟩
      · obtain rfl : c = ']' := by simpa [List.getLast?_append] using closed
        have member : ']' ∈ List.replicate slashes '\\' ++ '[' :: head := by
          rw [behind]
          simp
        simp [List.mem_replicate, noClosing] at member
  · rintro ⟨before, slashes, rfl, unescaped, rest⟩
    refine ⟨front ++ before, slashes, by simp, ?_, rest⟩
    cases before with
    | nil => simp [closed]
    | cons c others => simpa [List.getLast?_append] using unescaped

theorem not_opens_of_not_mem {text head : Text} (noBracket : '[' ∉ text) : ¬ Opens text head := by
  rintro ⟨before, slashes, rfl, -⟩
  apply noBracket
  simp

theorem not_opens_tagText (slashes : Nat) (content head : Text) :
    ¬ Opens (tagText slashes content) head := by
  have nothing : ¬ Opens [] head := not_opens_of_not_mem List.not_mem_nil
  rw [← opens_append_iff (getLast?_tagText slashes content), List.append_nil] at nothing
  exact nothing

/-- Brackets that can be a tag are one behind an even number of backslashes. -/
theorem writesTag_brackets_iff {content : Text} (isContent : IsContent content) (slashes : Nat) :
    WritesTag (tagText slashes content) ↔ slashes % 2 = 0 := by
  constructor
  · rintro ⟨before, slashes', content', after, whole, unescaped, even, -⟩
    have noSlash : '[' ∉ List.replicate slashes '\\' := by simp
    have noBracket : '[' ∉ content ++ [']'] := by simp [isContent.noBracket.1]
    have same : List.replicate slashes '\\' ++ '[' :: (content ++ [']']) =
        (before ++ List.replicate slashes' '\\') ++ '[' :: (content' ++ [']'] ++ after) := by
      simpa [tagText] using whole
    obtain ⟨run, -⟩ := (List.append_cons_inj_of_notMem noSlash noBracket).1 same
    obtain rfl := eq_nil_of_slashes run.symm unescaped
    have lengths := congrArg List.length run
    simp only [List.nil_append, List.length_replicate] at lengths
    rw [lengths]
    exact even
  · intro even
    exact ⟨[], slashes, content, [], by simp, by simp, even, isContent⟩

/-- The bracket of a tag is not inside another one. -/
theorem writesTag_tagText_iff {content : Text} (isContent : IsContent content) (slashes : Nat)
    (rest : Text) :
    WritesTag (tagText slashes content ++ rest) ↔ slashes % 2 = 0 ∨ WritesTag rest := by
  have seam : (tagText slashes content).getLast? ≠ some '\\' := by
    rw [getLast?_tagText]
    decide
  have noStraddle : ¬ Straddles (tagText slashes content) rest := by
    rintro ⟨head, tail, opened, -⟩
    exact not_opens_tagText slashes content head opened
  rw [writesTag_append_iff (.inl seam), writesTag_brackets_iff isContent]
  simp only [noStraddle, or_false]

theorem writesTag_char_iff {c : Char} {rest : Text} (noTag : tagAt? (c :: rest) = none) :
    WritesTag (c :: rest) ↔ WritesTag rest := by
  constructor
  · rintro ⟨before, slashes, content, after, whole, unescaped, even, isContent⟩
    cases before with
    | nil =>
        have found := tagAt?_eq_some_iff.2 ⟨isContent, after, whole⟩
        rw [noTag] at found
        cases found
    | cons d before =>
        simp only [List.cons_append, List.cons.injEq] at whole
        obtain ⟨rfl, rfl⟩ := whole
        refine ⟨before, slashes, content, after, rfl, ?_, even, isContent⟩
        cases before with
        | nil => simp
        | cons e more => rwa [List.getLast?_cons_cons] at unescaped
  · rintro ⟨before, slashes, content, after, rfl, unescaped, even, isContent⟩
    refine ⟨c :: before, slashes, content, after, rfl, ?_, even, isContent⟩
    cases before with
    | nil =>
        -- A backslash right before the tag would belong to it.
        intro last
        obtain rfl : c = '\\' := by simpa using last
        have found : tagAt? ('\\' :: ([] ++ (tagText slashes content ++ after))) =
            some (slashes + 1, content) :=
          tagAt?_eq_some_iff.2 ⟨isContent, after, by simp [tagText, List.replicate_succ]⟩
        rw [noTag] at found
        cases found
    | cons e more => rwa [List.getLast?_cons_cons]

/-- **What is read as a tag is what a text writes as one.** -/
theorem exists_tag_iff (text plain : Text) :
    (∃ content, Token.tag content ∈ tokensFrom 0 plain text) ↔ WritesTag text := by
  have notPlain (reversed content : Text) : Token.tag content ∉ plainToken reversed := by
    intro member
    obtain ⟨text, same⟩ := plain_of_mem_plainToken member
    cases same
  induction text using tag_induction generalizing plain with
  | nil =>
      have noTag : ¬ WritesTag [] := not_writesTag_of_not_mem List.not_mem_nil
      simp only [tokensFrom, notPlain, exists_false, noTag]
  | tag slashes content rest isContent ih =>
      have later : (∃ content, Token.tag content ∈ tokensFrom 0 [] rest) ↔ WritesTag rest := ih []
      rw [tokensFrom_tagText isContent, writesTag_tagText_iff isContent, ← later]
      simp only [List.mem_append, notPlain, List.mem_cons, reduceCtorEq, false_or, bracketToken]
      by_cases odd : slashes % 2 = 1
      · simp [odd]
      · have even : slashes % 2 = 0 := by omega
        refine iff_of_true ⟨content, .inl ?_⟩ (.inl even)
        rw [if_neg odd]
  | plain c rest noTag ih =>
      rw [tokensFrom_char noTag, writesTag_char_iff noTag]
      exact ih (c :: plain)

/-! ## Cutting a text at a tag -/

/-- What is read as a tag ends before the next bracket that opens. -/
theorem tagAt?_upToBracket {before : Text} (rest : Text) (nonempty : before ≠ [])
    (unescaped : before.getLast? ≠ some '\\') (noTag : tagAt? before = none) :
    tagAt? (before ++ '[' :: rest) = none := by
  rw [Option.eq_none_iff_forall_ne_some]
  rintro ⟨slashes, content⟩ found
  obtain ⟨isContent, after, whole⟩ := tagAt?_eq_some_iff.1 found
  rcases List.append_eq_append_iff.1 whole with ⟨more, cut, bracket⟩ | ⟨more, cut, -⟩
  · rcases tagText_eq_append cut with ⟨n, -, rfl, -⟩ | ⟨rfl, -⟩ | ⟨head, tail, rfl, -, rfl⟩
    · cases n with
      | zero => exact nonempty rfl
      | succ n => exact unescaped (by simp [List.getLast?_replicate])
    · rw [← List.append_nil (tagText slashes content), tagAt?_tagText isContent] at noTag
      cases noTag
    · -- The tag would hold the bracket.
      cases tail with
      | nil => cases bracket
      | cons c others =>
          obtain ⟨rfl, -⟩ := List.cons.inj bracket
          exact isContent.noBracket.1 (by simp)
  · rw [cut, tagAt?_tagText isContent] at noTag
    cases noTag

/-- A tag is read behind whatever does not escape it. -/
theorem tokensFrom_upToTag {before content : Text} (unescaped : before.getLast? ≠ some '\\')
    (isContent : IsContent content) (plain rest : Text) :
    tokensFrom 0 plain (before ++ (tagText 0 content ++ rest)) =
      tokensFrom 0 plain before ++ .plain [] :: .tag content :: tokensFrom 0 [] rest := by
  induction before using tag_induction generalizing plain with
  | nil =>
      rw [List.nil_append, tokensFrom_tagText isContent]
      rfl
  | tag slashes content' later isContent' ih =>
      have unescapedLater : later.getLast? ≠ some '\\' := by
        intro slash
        apply unescaped
        rw [List.getLast?_append, slash]
        rfl
      rw [List.append_assoc, tokensFrom_tagText isContent', tokensFrom_tagText isContent',
        ih unescapedLater]
      simp only [List.append_assoc, List.cons_append]
  | plain c later noTag ih =>
      have unescapedLater : later.getLast? ≠ some '\\' := by
        intro slash
        apply unescaped
        rw [List.getLast?_cons, slash]
        rfl
      have noTagStill : tagAt? (c :: (later ++ (tagText 0 content ++ rest))) = none :=
        tagAt?_upToBracket (content ++ [']'] ++ rest) (List.cons_ne_nil c later) unescaped noTag
      rw [List.cons_append, tokensFrom_char noTagStill, tokensFrom_char noTag]
      exact ih unescapedLater (c :: plain)

/-! ## What reading changes -/

/-- What a text shows for certain: backslashes can be taken as part of a tag, and characters
that move the cursor are never shown. -/
def solid (text : Text) : Text :=
  text.filter fun c => c != '\\' && !isCursorControl c

@[simp] theorem solid_append (first second : Text) :
    solid (first ++ second) = solid first ++ solid second := List.filter_append first second

theorem solid_slashes (slashes : Nat) : solid (List.replicate slashes '\\') = [] := by
  rw [solid, List.filter_replicate]
  rfl

theorem solid_tagText (slashes : Nat) (content : Text) :
    solid (tagText slashes content) = solid ('[' :: (content ++ [']'])) := by
  rw [tagText, solid_append, solid_slashes, List.nil_append]

theorem solid_cons_congr {c : Char} {first second : Text} (same : solid first = solid second) :
    solid (c :: first) = solid (c :: second) := by
  simp only [solid, List.filter_cons] at same ⊢
  rw [same]

theorem solid_unescape (text : Text) : solid (unescape text) = solid text := by
  fun_induction unescape text with
  | case1 rest ih => exact solid_cons_congr ih
  | case2 c rest _ ih => exact solid_cons_congr ih
  | case3 => rfl

/-- A token as it was written. -/
def Token.written : Token → Text
  | .plain text => text
  | .tag content => '[' :: (content ++ [']'])

theorem written_plainToken (reversed : Text) :
    (plainToken reversed).flatMap Token.written = unescape reversed.reverse := by
  rw [plainToken]
  split
  · rename_i empty
    rw [List.isEmpty_iff.1 empty]
    rfl
  · simp [Token.written]

theorem written_bracketToken (slashes : Nat) (content : Text) :
    (bracketToken slashes content).written = '[' :: (content ++ [']']) := by
  rw [bracketToken]
  split <;> rfl

/-- Reading a text changes nothing but backslashes. -/
theorem solid_tokensFrom (text plain : Text) :
    solid ((tokensFrom 0 plain text).flatMap Token.written) = solid (plain.reverse ++ text) := by
  induction text using tag_induction generalizing plain with
  | nil => rw [tokensFrom, written_plainToken, solid_unescape, List.append_nil]
  | tag slashes content rest isContent ih =>
      rw [tokensFrom_tagText isContent, List.flatMap_append, List.flatMap_cons, List.flatMap_cons,
        written_plainToken, written_bracketToken]
      simp only [solid_append, solid_unescape, Token.written, solid_slashes, List.nil_append, ih,
        solid_tagText, List.reverse_nil]
  | plain c rest noTag ih =>
      rw [tokensFrom_char noTag, ih, List.reverse_cons, List.append_assoc, List.singleton_append]

theorem solid_tokens (text : Text) : solid ((tokens text).flatMap Token.written) = solid text :=
  solid_tokensFrom text []

/-! ## Texts without brackets -/

/-- A text with nothing that has a meaning in markup. -/
def IsBare (text : Text) : Prop :=
  ∀ c ∈ text, c ∉ ['[', ']', '\\']

instance (text : Text) : Decidable (IsBare text) :=
  decidable_of_iff (text.all (fun c => c != '[' && c != ']' && c != '\\') = true)
    (by simp [IsBare, and_assoc])

@[simp] theorem isBare_append {first second : Text} :
    IsBare (first ++ second) ↔ IsBare first ∧ IsBare second :=
  List.forall_mem_append

@[simp] theorem isBare_cons {c : Char} {text : Text} :
    IsBare (c :: text) ↔ c ∉ ['[', ']', '\\'] ∧ IsBare text :=
  List.forall_mem_cons

namespace IsBare

variable {text : Text}

theorem noOpening (bare : IsBare text) : '[' ∉ text := fun member => bare _ member (by decide)

theorem noClosing (bare : IsBare text) : ']' ∉ text := fun member => bare _ member (by decide)

theorem unescaped (bare : IsBare text) : text.getLast? ≠ some '\\' :=
  fun last => bare _ (List.mem_of_getLast? last) (by decide)

theorem not_writesTag (bare : IsBare text) : ¬ WritesTag text :=
  not_writesTag_of_not_mem bare.noOpening

end IsBare

theorem not_straddles_of_left {first second : Text} (noOpening : '[' ∉ first) :
    ¬ Straddles first second := by
  rintro ⟨head, tail, opened, -⟩
  exact not_opens_of_not_mem noOpening opened

theorem not_straddles_of_right {first second : Text} (noClosing : ']' ∉ second) :
    ¬ Straddles first second := by
  rintro ⟨head, tail, -, ⟨-, -, after, rfl⟩, -⟩
  simp at noClosing

/-- Bare texts around a text write no tag with it. -/
theorem writesTag_behind_iff {front text : Text} (bare : IsBare front) :
    WritesTag (front ++ text) ↔ WritesTag text := by
  rw [writesTag_append_iff (.inl bare.unescaped)]
  simp only [bare.not_writesTag, not_straddles_of_left bare.noOpening, false_or, or_false]

theorem writesTag_before_iff {text back : Text} (bare : IsBare back) :
    WritesTag (text ++ back) ↔ WritesTag text := by
  rw [writesTag_append_iff (.inr bare.noOpening)]
  simp only [bare.not_writesTag, not_straddles_of_right bare.noClosing, or_false]

end Markup
end LineCensus
