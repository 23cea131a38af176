/-
# Proofs.Escaping -- what escaping keeps, and what it lets through

Escaping changes nothing but backslashes (`solid_escape`), and an escaped text writes no tag
(`not_writesTag_escape`).  But it leaves the beginning of a text alone and what is open at its
end, so it does not keep a tag from standing across two texts (`straddles_escape_left_iff`,
`straddles_escape_right_iff`).
-/
import LineCensus.Proofs.Tags
import Mathlib.Data.List.DropRight

set_option autoImplicit false

namespace LineCensus
namespace Markup

/-! ## What escaping changes -/

theorem solid_escapeFrom (text : Text) : solid (escapeFrom 0 text) = solid text := by
  induction text using tag_induction with
  | nil => rfl
  | tag slashes content rest isContent ih =>
      rw [escapeFrom_tagText isContent, solid_append, solid_append, solid_tagText, solid_tagText,
        ih]
  | plain c rest noTag ih =>
      rw [escapeFrom_char noTag]
      exact solid_cons_congr ih

theorem getLast?_escapeFrom (text : Text) : (escapeFrom 0 text).getLast? = text.getLast? := by
  induction text using tag_induction with
  | nil => rfl
  | tag slashes content rest isContent ih =>
      rw [escapeFrom_tagText isContent, List.getLast?_append, List.getLast?_append, ih,
        getLast?_tagText, getLast?_tagText]
  | plain c rest noTag ih =>
      rw [escapeFrom_char noTag, List.getLast?_cons, List.getLast?_cons, ih]

theorem closes_cons_iff {c : Char} {text tail : Text} :
    Closes (c :: text) tail ↔
      c = ']' ∧ tail = [] ∨ c ≠ '[' ∧ c ≠ ']' ∧ ∃ rest, tail = c :: rest ∧ Closes text rest := by
  constructor
  · rintro ⟨noOpening, noClosing, after, whole⟩
    cases tail with
    | nil => exact .inl ⟨(List.cons.inj whole).1, rfl⟩
    | cons d rest =>
        simp only [List.cons_append, List.cons.injEq] at whole
        obtain ⟨rfl, rfl⟩ := whole
        simp only [List.mem_cons, not_or] at noOpening noClosing
        exact .inr ⟨Ne.symm noOpening.1, Ne.symm noClosing.1, rest, rfl, noOpening.2, noClosing.2,
          after, rfl⟩
  · rintro (⟨rfl, rfl⟩ | ⟨notOpening, notClosing, rest, rfl, noOpening, noClosing, after, rfl⟩)
    · exact ⟨List.not_mem_nil, List.not_mem_nil, text, rfl⟩
    · refine ⟨?_, ?_, after, rfl⟩
      · simp [Ne.symm notOpening, noOpening]
      · simp [Ne.symm notClosing, noClosing]

theorem not_closes_tagText (slashes : Nat) (content rest tail : Text) :
    ¬ Closes (tagText slashes content ++ rest) tail := by
  induction slashes generalizing tail with
  | zero =>
      intro closes
      rcases closes_cons_iff.1 closes with ⟨same, -⟩ | ⟨different, -⟩
      · cases same
      · exact different rfl
  | succ slashes ih =>
      intro closes
      rcases closes_cons_iff.1 closes with ⟨same, -⟩ | ⟨-, -, later, -, closes⟩
      · cases same
      · exact ih later closes

/-- Escaping leaves the first stretch of a text alone. -/
theorem closes_escapeFrom_iff {text tail : Text} :
    Closes (escapeFrom 0 text) tail ↔ Closes text tail := by
  induction text using tag_induction generalizing tail with
  | nil => rfl
  | tag slashes content rest isContent ih =>
      rw [escapeFrom_tagText isContent]
      exact iff_of_false (not_closes_tagText _ _ _ _) (not_closes_tagText _ _ _ _)
  | plain c rest noTag ih =>
      rw [escapeFrom_char noTag, closes_cons_iff, closes_cons_iff]
      simp only [ih]

/-- Escaping puts no tag at the head of a text that has none there. -/
theorem tagAt?_escapeFrom {text : Text} (noTag : tagAt? text = none) :
    tagAt? (escapeFrom 0 text) = none := by
  induction text using tag_induction with
  | nil => rfl
  | tag slashes content rest isContent ih =>
      rw [tagAt?_tagText isContent] at noTag
      cases noTag
  | plain c rest _ ih =>
      rw [escapeFrom_char noTag, Option.eq_none_iff_forall_ne_some]
      rintro ⟨slashes, content⟩ found
      obtain ⟨isContent, after, whole⟩ := tagAt?_eq_some_iff.1 found
      cases slashes with
      | zero =>
          -- The brackets are closed before escaping as well.
          obtain ⟨rfl, inside⟩ : c = '[' ∧ escapeFrom 0 rest = content ++ ']' :: after := by
            simpa [tagText] using whole
          obtain ⟨noOpening, noClosing⟩ := isContent.noBracket
          obtain ⟨-, -, text, closes⟩ :=
            closes_escapeFrom_iff.1 ⟨noOpening, noClosing, after, inside⟩
          rw [closes, tagAt?_tag isContent] at noTag
          cases noTag
      | succ slashes =>
          obtain ⟨rfl, later⟩ :
              c = '\\' ∧ escapeFrom 0 rest = tagText slashes content ++ after := by
            simpa [tagText, List.replicate_succ] using whole
          have foundLater := tagAt?_eq_some_iff.2 ⟨isContent, after, later⟩
          cases tagged : tagAt? rest with
          | none =>
              rw [ih tagged] at foundLater
              cases foundLater
          | some here =>
              obtain ⟨isContent', after', whole'⟩ := tagAt?_eq_some_iff.1 tagged
              have foundHere : tagAt? ('\\' :: rest) = some (here.1 + 1, here.2) :=
                tagAt?_eq_some_iff.2
                  ⟨isContent', after', by simp [whole', tagText, List.replicate_succ]⟩
              rw [noTag] at foundHere
              cases foundHere

theorem not_writesTag_escapeFrom (text : Text) : ¬ WritesTag (escapeFrom 0 text) := by
  induction text using tag_induction with
  | nil => exact not_writesTag_of_not_mem List.not_mem_nil
  | tag slashes content rest isContent ih =>
      rw [escapeFrom_tagText isContent, writesTag_tagText_iff isContent]
      rintro (even | later)
      · omega
      · exact ih later
  | plain c rest noTag ih =>
      have noTagStill := tagAt?_escapeFrom noTag
      rw [escapeFrom_char noTag] at noTagStill ⊢
      rwa [writesTag_char_iff noTagStill]

/-- What closes no brackets is not escaped. -/
theorem escapeFrom_eq_self {text : Text} (noClosing : ']' ∉ text) : escapeFrom 0 text = text := by
  induction text using tag_induction with
  | nil => rfl
  | tag slashes content rest isContent ih => simp [tagText] at noClosing
  | plain c rest noTag ih =>
      simp only [List.mem_cons, not_or] at noClosing
      rw [escapeFrom_char noTag, ih noClosing.2]

/-- Nor has it a part in escaping what stands before it. -/
theorem escapeFrom_append (text : Text) {after : Text} (noClosing : ']' ∉ after) :
    escapeFrom 0 (text ++ after) = escapeFrom 0 text ++ after := by
  induction text using tag_induction with
  | nil => exact escapeFrom_eq_self noClosing
  | tag slashes content rest isContent ih =>
      rw [List.append_assoc, escapeFrom_tagText isContent, escapeFrom_tagText isContent, ih,
        List.append_assoc]
  | plain c rest noTag ih =>
      have noTagStill : tagAt? (c :: (rest ++ after)) = none := by
        rw [Option.eq_none_iff_forall_ne_some]
        rintro ⟨slashes, content⟩ found
        obtain ⟨isContent, behind, whole⟩ := tagAt?_eq_some_iff.1 found
        rw [← List.cons_append] at whole
        rcases List.append_eq_append_iff.1 whole with ⟨more, cut, rest'⟩ | ⟨more, cut, -⟩
        · rcases List.eq_nil_or_concat more with rfl | ⟨others, d, rfl⟩
          · rw [List.append_nil] at cut
            rw [← cut, ← List.append_nil (tagText slashes content), tagAt?_tagText isContent]
              at noTag
            cases noTag
          · have last := congrArg List.getLast? cut
            rw [getLast?_tagText, List.concat_eq_append, ← List.append_assoc,
              List.getLast?_concat] at last
            obtain rfl := Option.some.inj last
            simp [rest'] at noClosing
        · rw [cut, tagAt?_tagText isContent] at noTag
          cases noTag
      rw [List.cons_append, escapeFrom_char noTagStill, ih, escapeFrom_char noTag,
        List.cons_append]

/-- A text is what ends with its last closing bracket and what stands behind that. -/
theorem exists_lastClosing (text : Text) :
    ∃ front back : Text, text = front ++ back ∧ ']' ∉ back ∧
      (front = [] ∨ front.getLast? = some ']') := by
  refine ⟨text.rdropWhile (· != ']'), text.rtakeWhile (· != ']'),
    List.rdropWhile_append_rtakeWhile.symm, ?_, ?_⟩
  · intro member
    have other := List.mem_rtakeWhile_imp member
    cases other
  · by_cases empty : text.rdropWhile (· != ']') = []
    · exact .inl empty
    · have stops := List.rdropWhile_last_not (· != ']') text empty
      rw [List.getLast?_eq_some_getLast empty]
      exact .inr (congrArg some (by simpa using stops))

theorem opens_escapeFrom_iff {text head : Text} :
    Opens (escapeFrom 0 text) head ↔ Opens text head := by
  obtain ⟨front, back, rfl, noClosing, rfl | closed⟩ := exists_lastClosing text
  · rw [List.nil_append, escapeFrom_eq_self noClosing]
  · have closedStill : (escapeFrom 0 front).getLast? = some ']' := by
      rw [getLast?_escapeFrom, closed]
    rw [escapeFrom_append front noClosing, opens_append_iff closedStill, opens_append_iff closed]

/-! ## Escaped texts -/

/-- An escaped text may have one backslash more at its end. -/
theorem escape_cases (text : String) :
    escape text = escapeFrom 0 text.toList ∨
      escape text = escapeFrom 0 text.toList ++ ['\\'] ∧ text.toList.getLast? = some '\\' := by
  simp only [escape]
  split
  · rename_i ends
    refine .inr ⟨rfl, ?_⟩
    rw [← getLast?_escapeFrom, ← List.head?_reverse]
    unfold endsInOneBackslash at ends
    cases reversed : (escapeFrom 0 text.toList).reverse with
    | nil => simp [reversed] at ends
    | cons c rest =>
        rw [reversed] at ends
        by_cases slash : c = '\\'
        · rw [slash, List.head?_cons]
        · simp [slash] at ends
  · exact .inl rfl

theorem solid_escape (text : String) : solid (escape text) = solid text.toList := by
  rcases escape_cases text with same | ⟨same, -⟩
  · rw [same, solid_escapeFrom]
  · rw [same, solid_append, solid_escapeFrom]
    exact List.append_nil _

/-- **An escaped text writes no tag.** -/
theorem not_writesTag_escape (text : String) : ¬ WritesTag (escape text) := by
  rcases escape_cases text with same | ⟨same, -⟩
  · rw [same]
    exact not_writesTag_escapeFrom _
  · rw [same, writesTag_append_iff (.inr (by decide))]
    rintro (here | more | ⟨head, tail, -, ⟨-, -, after, closes⟩, -⟩)
    · exact not_writesTag_escapeFrom _ here
    · exact not_writesTag_of_not_mem (by decide) more
    · have member : ']' ∈ ['\\'] := by simp [closes]
      revert member
      decide

theorem closes_append_iff {text after tail : Text} (noClosing : ']' ∉ after) :
    Closes (text ++ after) tail ↔ Closes text tail := by
  constructor
  · rintro ⟨noOpening, noClosingYet, behind, whole⟩
    refine ⟨noOpening, noClosingYet, ?_⟩
    rcases List.append_eq_append_iff.1 whole with ⟨more, -, rfl⟩ | ⟨more, rfl, rest⟩
    · simp at noClosing
    · cases more with
      | nil =>
          rw [List.nil_append] at rest
          simp [← rest] at noClosing
      | cons c others => exact ⟨others, by rw [(List.cons.inj rest).1]⟩
  · rintro ⟨noOpening, noClosingYet, behind, rfl⟩
    exact ⟨noOpening, noClosingYet, behind ++ after, by simp⟩

theorem closes_escape_iff {text : String} {tail : Text} :
    Closes (escape text) tail ↔ Closes text.toList tail := by
  rcases escape_cases text with same | ⟨same, -⟩
  · rw [same, closes_escapeFrom_iff]
  · rw [same, closes_append_iff (by decide), closes_escapeFrom_iff]

/-- What holds no bracket only lengthens what is open. -/
theorem opens_append_plain_iff {text after head : Text} (noOpening : '[' ∉ after)
    (noClosing : ']' ∉ after) :
    Opens (text ++ after) head ↔ ∃ before, head = before ++ after ∧ Opens text before := by
  constructor
  · rintro ⟨before, slashes, whole, unescaped, even, headOpening, headClosing⟩
    rw [← List.append_assoc] at whole
    rcases List.append_eq_append_iff.1 whole with ⟨more, -, rfl⟩ | ⟨more, rfl, rest⟩
    · simp at noOpening
    · cases more with
      | nil =>
          rw [List.nil_append] at rest
          rw [← rest] at noOpening
          exact absurd List.mem_cons_self noOpening
      | cons c others =>
          simp only [List.cons_append, List.cons.injEq] at rest
          obtain ⟨rfl, rfl⟩ := rest
          simp only [List.mem_append, not_or] at headOpening headClosing
          exact ⟨others, rfl, before, slashes, by simp, unescaped, even, headOpening.1,
            headClosing.1⟩
  · rintro ⟨head, rfl, before, slashes, rfl, unescaped, even, headOpening, headClosing⟩
    refine ⟨before, slashes, by simp, unescaped, even, ?_, ?_⟩
    · simp [headOpening, noOpening]
    · simp [headClosing, noClosing]

/-- What is open in a text that ends with a backslash is not empty. -/
theorem ne_nil_of_opens {text head : Text} (opened : Opens text head)
    (slash : text.getLast? = some '\\') : head ≠ [] := by
  rintro rfl
  obtain ⟨before, slashes, rfl, -⟩ := opened
  simp [List.getLast?_append] at slash

theorem isContent_insert_iff {head middle : Text} (nonempty : head ≠ []) (tail : Text)
    (noOpening : '[' ∉ middle) (noClosing : ']' ∉ middle) :
    IsContent (head ++ (middle ++ tail)) ↔ IsContent (head ++ tail) := by
  obtain ⟨c, rest, rfl⟩ := List.exists_cons_of_ne_nil nonempty
  constructor
  · rintro ⟨starts, brackets⟩
    refine ⟨starts, ?_⟩
    simpa [noOpening, noClosing] using brackets
  · rintro ⟨starts, brackets⟩
    refine ⟨starts, ?_⟩
    simpa [noOpening, noClosing] using brackets

theorem straddles_append_iff {first after second : Text} (noOpening : '[' ∉ after)
    (noClosing : ']' ∉ after) :
    Straddles (first ++ after) second ↔
      ∃ head tail, Opens first head ∧ Closes second tail ∧ IsContent (head ++ (after ++ tail)) := by
  simp only [Straddles, opens_append_plain_iff noOpening noClosing]
  constructor
  · rintro ⟨-, tail, ⟨head, rfl, opened⟩, closed, isContent⟩
    exact ⟨head, tail, opened, closed, by rwa [List.append_assoc] at isContent⟩
  · rintro ⟨head, tail, opened, closed, isContent⟩
    exact ⟨head ++ after, tail, ⟨head, rfl, opened⟩, closed, by rwa [List.append_assoc]⟩

/-- Escaping the text that closes the brackets does not keep a tag from standing there. -/
theorem straddles_escape_right_iff {first : Text} {second : String} :
    Straddles first (escape second) ↔ Straddles first second.toList := by
  simp only [Straddles, closes_escape_iff]

/-- Nor does escaping the text that opens them. -/
theorem straddles_escape_left_iff {first : String} {after second : Text} (noOpening : '[' ∉ after)
    (noClosing : ']' ∉ after) :
    Straddles (escape first ++ after) second ↔ Straddles (first.toList ++ after) second := by
  rcases escape_cases first with same | ⟨same, slash⟩
  · rw [same, straddles_append_iff noOpening noClosing, straddles_append_iff noOpening noClosing]
    simp only [opens_escapeFrom_iff]
  · have slashOpening : '[' ∉ '\\' :: after := by simp [noOpening]
    have slashClosing : ']' ∉ '\\' :: after := by simp [noClosing]
    rw [same, List.append_assoc, List.singleton_append,
      straddles_append_iff slashOpening slashClosing, straddles_append_iff noOpening noClosing]
    simp only [opens_escapeFrom_iff]
    -- The backslash more stands behind a character that is open already.
    refine exists_congr fun head => exists_congr fun tail => and_congr_right fun opened => ?_
    have nonempty := ne_nil_of_opens opened slash
    rw [isContent_insert_iff nonempty tail slashOpening slashClosing,
      isContent_insert_iff nonempty tail noOpening noClosing]

/-- The tags of a text and of an escaped text behind it, something bare between the two. -/
theorem writesTag_escape_iff {text middle : Text} (bare : IsBare middle) (nonempty : middle ≠ [])
    (data : String) :
    WritesTag (text ++ (middle ++ escape data)) ↔
      WritesTag text ∨ Straddles (text ++ middle) data.toList := by
  have unescaped : (text ++ middle).getLast? ≠ some '\\' := by
    rw [List.getLast?_append_of_ne_nil _ nonempty]
    exact bare.unescaped
  rw [← List.append_assoc, writesTag_append_iff (.inl unescaped), writesTag_before_iff bare]
  simp only [not_writesTag_escape, false_or, straddles_escape_right_iff]

end Markup
end LineCensus
