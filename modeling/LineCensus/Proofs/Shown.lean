/-
# Proofs.Shown -- what a markup with labels shows

A markup of the program is a text of which some words stand in labels, a style before and
behind each (`labelled`); the rest is data.  It prints what it would be without the labels, with
emoji for some of its codes, if and only if no stretch between two labels writes a tag
(`prints_labelled_iff`).

Where no tag is written, everything between the labels is shown (`isShown_labelled`,
`shows_labelled`).  Where one is, an opening bracket is missing from what is shown
(`brackets_labelled`): no bracket is shown that was not written, and that of a tag is not.
-/
import LineCensus.Proofs.Emoji
import LineCensus.Proofs.Escaping

set_option autoImplicit false

namespace LineCensus
namespace Markup

variable {glyphs : Glyphs}

/-! ## What tokens show -/

/-- What a token shows. -/
def Token.visible (glyphs : Glyphs) : Token → Text
  | .plain text => seen glyphs text
  | .tag _ => []

def visible (glyphs : Glyphs) (tokens : List Token) : Text :=
  tokens.flatMap (Token.visible glyphs)

@[simp] theorem visible_append (glyphs : Glyphs) (first second : List Token) :
    visible glyphs (first ++ second) = visible glyphs first ++ visible glyphs second :=
  List.flatMap_append

@[simp] theorem visible_plain (glyphs : Glyphs) (text : Text) (rest : List Token) :
    visible glyphs (.plain text :: rest) = seen glyphs text ++ visible glyphs rest := rfl

@[simp] theorem visible_tag (glyphs : Glyphs) (content : Text) (rest : List Token) :
    visible glyphs (.tag content :: rest) = visible glyphs rest := rfl

theorem page_text {position : Nat} {opened : List OpenTag} {tokens : List Token} {shown : Page}
    (paged : page glyphs position opened tokens = .ok shown) :
    shown.text = visible glyphs tokens := by
  induction tokens generalizing position opened shown with
  | nil =>
      cases paged
      rfl
  | cons token rest ih =>
      cases token with
      | plain text =>
          obtain ⟨after, later, paged⟩ := bind_eq_ok paged
          cases paged
          rw [visible_plain, ← ih later]
      | tag content =>
          obtain ⟨applied, -, paged⟩ := bind_eq_ok paged
          obtain ⟨after, later, paged⟩ := bind_eq_ok paged
          cases paged
          rw [visible_tag, ← ih later]

/-- What is shown of a markup is what its tokens show. -/
theorem eq_visible_of_shown {markup text : Text} (ok : shown glyphs markup = .ok text) :
    text = visible glyphs (tokens markup) := by
  obtain ⟨shown, paged, ok⟩ := bind_eq_ok ok
  obtain ⟨-, -, ok⟩ := bind_eq_ok ok
  rw [← page_text paged]
  exact (Except.ok.inj ok).symm

/-! ## Plain tokens -/

def ArePlain (tokens : List Token) : Prop :=
  ∀ token ∈ tokens, ∃ text, token = .plain text

theorem arePlain_tokens {text : Text} (noTag : ¬ WritesTag text) : ArePlain (tokens text) := by
  intro token member
  cases token with
  | plain text => exact ⟨text, rfl⟩
  | tag content => exact absurd ((exists_tag_iff text []).1 ⟨content, member⟩) noTag

theorem solid_seen (text : Text) : solid (seen glyphs text) = solid (glyphs.shown text) := by
  rw [seen, solid, List.filter_filter, solid]
  refine List.filter_congr fun c _ => ?_
  cases isCursorControl c <;> simp

theorem brackets_solid (text : Text) : (solid text).count '[' = text.count '[' :=
  List.count_filter (by decide)

theorem brackets_tokens (text : Text) :
    ((tokens text).flatMap Token.written).count '[' = text.count '[' := by
  rw [← brackets_solid, solid_tokens, brackets_solid]

section Proper

variable (proper : glyphs.IsProper)

include proper

theorem shows_visible {tokens : List Token} (plain : ArePlain tokens) :
    glyphs.Shows (solid (tokens.flatMap Token.written)) (solid (visible glyphs tokens)) := by
  induction tokens with
  | nil => exact .nil
  | cons token rest ih =>
      obtain ⟨text, rfl⟩ := plain token List.mem_cons_self
      have first : glyphs.Shows (solid text) (solid (seen glyphs text)) := by
        rw [solid_seen]
        exact (glyphs.shows_shown text).solid proper
      have later := ih fun other member => plain other (List.mem_cons_of_mem _ member)
      rw [visible_plain, solid_append, List.flatMap_cons, solid_append]
      exact first.append later

/-- A text that writes no tag is shown. -/
theorem shows_visible_tokens {text : Text} (noTag : ¬ WritesTag text) :
    glyphs.Shows (solid text) (solid (visible glyphs (tokens text))) := by
  rw [← solid_tokens text]
  exact shows_visible proper (arePlain_tokens noTag)

/-! ## Brackets -/

theorem brackets_visible_cons_le (token : Token) :
    (token.visible glyphs).count '[' ≤ token.written.count '[' := by
  cases token with
  | plain text =>
      show ((glyphs.shown text).filter (!isCursorControl ·)).count '[' ≤ text.count '['
      rw [List.count_filter (by decide), (glyphs.shows_shown text).brackets proper]
  | tag content => exact Nat.zero_le _

theorem brackets_visible_le (tokens : List Token) :
    (visible glyphs tokens).count '[' ≤ (tokens.flatMap Token.written).count '[' := by
  induction tokens with
  | nil => exact Nat.le_refl 0
  | cons token rest ih =>
      have here := brackets_visible_cons_le proper token
      simp only [visible, List.flatMap_cons, List.count_append] at ih ⊢
      omega

/-- The bracket of a tag is not shown. -/
theorem brackets_visible_lt {tokens : List Token} {content : Text}
    (member : Token.tag content ∈ tokens) :
    (visible glyphs tokens).count '[' < (tokens.flatMap Token.written).count '[' := by
  obtain ⟨before, after, rfl⟩ := List.append_of_mem member
  have first := brackets_visible_le proper before
  have second := brackets_visible_le proper after
  simp only [visible_append, visible_tag, List.flatMap_append, List.flatMap_cons, Token.written,
    List.count_append, List.count_cons_self, List.cons_append]
  omega

theorem brackets_shown_le (text : Text) :
    (visible glyphs (tokens text)).count '[' ≤ text.count '[' := by
  rw [← brackets_tokens text]
  exact brackets_visible_le proper _

theorem brackets_shown_lt {text : Text} (writes : WritesTag text) :
    (visible glyphs (tokens text)).count '[' < text.count '[' := by
  obtain ⟨content, member⟩ := (exists_tag_iff text []).2 writes
  rw [← brackets_tokens text]
  exact brackets_visible_lt proper member

end Proper

/-! ## Tokens that can be shown -/

/-- Tokens that can be shown at any place where no tag is open. -/
def IsShown (glyphs : Glyphs) (tokens : List Token) : Prop :=
  ∀ position, ∃ shown, page glyphs position [] tokens = .ok shown ∧
    ∀ use ∈ shown.uses, Style.lookUp use.name = .ok ()

theorem lookUps_ok {uses : List StyleUse} (known : ∀ use ∈ uses, Style.lookUp use.name = .ok ()) :
    (uses.forM fun use => (Style.lookUp use.name).mapError Fault.refused) = .ok () := by
  induction uses with
  | nil => rfl
  | cons use rest ih =>
      simp only [List.forM_eq_forM, List.forM_cons, known use List.mem_cons_self]
      exact ih fun other member => known other (List.mem_cons_of_mem _ member)

theorem shown_of_isShown {markup : Text} (isShown : IsShown glyphs (tokens markup)) :
    shown glyphs markup = .ok (visible glyphs (tokens markup)) := by
  obtain ⟨page, paged, known⟩ := isShown 0
  have seen : ∀ use ∈ page.uses.filter (fun u => false || u.isSeen),
      Style.lookUp use.name = .ok () := fun use member => known use (List.mem_filter.1 member).1
  rw [shown, shownUndivided, paged, ok_bind]
  simp only
  rw [lookUps_ok seen, page_text paged]
  rfl

/-- Plain tokens change no open tags. -/
theorem page_arePlain (glyphs : Glyphs) {before : List Token} (plain : ArePlain before) (position : Nat)
    (opened : List OpenTag) (rest : List Token) :
    ∃ next, page glyphs position opened (before ++ rest) =
      (page glyphs next opened rest).map fun after =>
        { after with text := visible glyphs before ++ after.text } := by
  induction before generalizing position with
  | nil =>
      refine ⟨position, ?_⟩
      rw [List.nil_append]
      cases page glyphs position opened rest <;> rfl
  | cons token more ih =>
      obtain ⟨text, rfl⟩ := plain token List.mem_cons_self
      obtain ⟨next, later⟩ := ih (fun other member => plain other (List.mem_cons_of_mem _ member))
        (position + (seen glyphs text).countP (· != '\n'))
      refine ⟨next, ?_⟩
      rw [List.cons_append, page, later]
      cases page glyphs next opened rest with
      | error fault => rfl
      | ok after =>
          simp only [Except.map, ok_bind, visible_plain, List.append_assoc]
          rfl

theorem isShown_nil : IsShown glyphs [] := fun _ => ⟨{}, rfl, by simp⟩

theorem isShown_append {before rest : List Token} (plain : ArePlain before)
    (isShown : IsShown glyphs rest) : IsShown glyphs (before ++ rest) := by
  intro position
  obtain ⟨next, paged⟩ := page_arePlain glyphs plain position [] rest
  obtain ⟨after, later, known⟩ := isShown next
  rw [paged, later]
  exact ⟨_, rfl, known⟩

theorem isShown_of_arePlain {tokens : List Token} (plain : ArePlain tokens) :
    IsShown glyphs tokens := by
  rw [← List.append_nil tokens]
  exact isShown_append plain isShown_nil

/-- Tokens that cannot be shown at any place where no tag is open. -/
def IsFault (glyphs : Glyphs) (tokens : List Token) : Prop :=
  ∀ position, ∃ fault, page glyphs position [] tokens = .error fault

theorem shown_of_isFault {markup : Text} (isFault : IsFault glyphs (tokens markup)) :
    ∃ fault, shown glyphs markup = .error fault := by
  obtain ⟨fault, fails⟩ := isFault 0
  refine ⟨fault, ?_⟩
  rw [shown, shownUndivided, fails]
  rfl

/-- A tag that closes one is a fault if no tag stands before it. -/
theorem isFault_of_closing {before name : Text} (noTag : ¬ WritesTag before)
    (unescaped : before.getLast? ≠ some '\\') (isContent : IsContent ('/' :: name)) (rest : Text) :
    IsFault glyphs (tokens (before ++ (tagText 0 ('/' :: name) ++ rest))) := by
  have plain : ArePlain (tokens before ++ [.plain []]) := by
    intro token member
    rcases List.mem_append.1 member with first | last
    · exact arePlain_tokens noTag token first
    · exact ⟨[], List.mem_singleton.1 last⟩
  intro position
  obtain ⟨fault, fails⟩ := page_stray glyphs plain name (tokens rest) position
  refine ⟨fault, ?_⟩
  rw [tokens, tokensFrom_upToTag unescaped isContent, ← fails, List.append_assoc]
  rfl

/-! ## Labels -/

/-- What opens a style that is known under a canonical name, and closes it again. -/
structure Names (name : Text) (style : String) : Prop where
  isContent : IsContent name
  noSlash : name.head? ≠ some '/'
  noEquals : '=' ∉ name
  trimmed : Text.trim name = name
  canonical : canonicalStyle name = .ok style
  known : Style.lookUp style.toList = .ok ()
  noHandler : style.toList.head? ≠ some '@'

namespace Names

variable {name : Text} {style : String}

theorem isContent_closing (names : Names name style) : IsContent ('/' :: name) := by
  refine ⟨rfl, ?_⟩
  simpa using names.isContent.noBracket

theorem splitTag_of_not_mem {content : Text} (noEquals : '=' ∉ content) :
    splitTag content = (content, none) := by
  have whole : content.takeWhile (· != '=') = content := by
    rw [List.takeWhile_eq_self_iff]
    intro c member
    rw [bne_iff_ne]
    rintro rfl
    exact noEquals member
  simp [splitTag, whole]

theorem opens (names : Names name style) (position : Nat) :
    applyTag position [] name =
      .ok ([{ style, parameters := none, start := position }], []) := by
  simp only [applyTag, splitTag_of_not_mem names.noEquals]
  split
  · exact absurd rfl names.noSlash
  · rw [names.canonical]
    rfl

theorem closes (names : Names name style) (start position : Nat) :
    applyTag position [{ style, parameters := none, start }] ('/' :: name) =
      .ok ([], [{ name := style.toList, isSeen := start < position }]) := by
  have noEquals : '=' ∉ '/' :: name := by simp [names.noEquals]
  have nonempty : name.isEmpty = false := by
    have starts := names.isContent.starts
    cases name with
    | nil => cases starts
    | cons c rest => rfl
  have closed : closedBy [{ style, parameters := none, start }] name =
      .ok ({ style, parameters := none, start }, []) := by
    simp only [closedBy, names.trimmed, nonempty, Bool.false_eq_true, if_false, names.canonical,
      ok_bind, takeOut?, if_true]
    rfl
  have noHandler : OpenTag.isHandler { style, parameters := none, start } = false := by
    simpa [OpenTag.isHandler] using names.noHandler
  simp only [applyTag, splitTag_of_not_mem noEquals, closed, ok_bind, OpenTag.close, noHandler]
  rfl

end Names

/-- A word in a style. -/
def label (name word : Text) : Text :=
  tagText 0 name ++ (word ++ tagText 0 ('/' :: name))

section Label

variable {before name word : Text} {style : String}

theorem tokens_label (unescaped : before.getLast? ≠ some '\\') (names : Names name style)
    (bare : IsBare word) (rest : Text) :
    tokens (before ++ (label name word ++ rest)) =
      tokens before ++ .plain [] :: .tag name ::
        (tokens word ++ .plain [] :: .tag ('/' :: name) :: tokens rest) := by
  rw [tokens, label, List.append_assoc, List.append_assoc,
    tokensFrom_upToTag unescaped names.isContent,
    tokensFrom_upToTag bare.unescaped names.isContent_closing]
  rfl

theorem visible_label (glyphs : Glyphs) (unescaped : before.getLast? ≠ some '\\') (names : Names name style)
    (bare : IsBare word) (rest : Text) :
    visible glyphs (tokens (before ++ (label name word ++ rest))) =
      visible glyphs (tokens before) ++
        (visible glyphs (tokens word) ++ visible glyphs (tokens rest)) := by
  have nothing : seen glyphs [] = [] := rfl
  rw [tokens_label unescaped names bare]
  simp [nothing]

/-- Behind a label no tag is open, as before it. -/
theorem page_behind_label (unescaped : before.getLast? ≠ some '\\') (noTag : ¬ WritesTag before)
    (names : Names name style) (bare : IsBare word) (rest : Text) (position : Nat) :
    ∃ next text isSeen, page glyphs position [] (tokens (before ++ (label name word ++ rest))) =
      (page glyphs next [] (tokens rest)).map fun after =>
        { text := text ++ after.text
          uses := { name := style.toList, isSeen } :: after.uses } := by
  have plainWord := arePlain_tokens bare.not_writesTag
  obtain ⟨start, first⟩ := page_arePlain glyphs (arePlain_tokens noTag) position []
    (.plain [] :: .tag name :: (tokens word ++ .plain [] :: .tag ('/' :: name) :: tokens rest))
  -- The style is open over the word only.
  obtain ⟨next, second⟩ := page_arePlain glyphs plainWord start
    [{ style, parameters := none, start }] (.plain [] :: .tag ('/' :: name) :: tokens rest)
  have nothing : seen glyphs [] = [] := rfl
  refine ⟨next, visible glyphs (tokens before) ++ visible glyphs (tokens word), start < next, ?_⟩
  rw [tokens_label unescaped names bare, first]
  simp only [page, nothing, List.countP_nil, Nat.add_zero, names.opens, ok_bind, second,
    names.closes]
  cases page glyphs next [] (tokens rest) with
  | error fault => rfl
  | ok after => simp [Except.map]

theorem isShown_label (unescaped : before.getLast? ≠ some '\\') (noTag : ¬ WritesTag before)
    (names : Names name style) (bare : IsBare word) {rest : Text}
    (isShown : IsShown glyphs (tokens rest)) :
    IsShown glyphs (tokens (before ++ (label name word ++ rest))) := by
  intro position
  obtain ⟨next, text, isSeen, paged⟩ :=
    page_behind_label unescaped noTag names bare rest position
  obtain ⟨after, later, known⟩ := isShown next
  rw [paged, later]
  refine ⟨_, rfl, fun use member => ?_⟩
  rcases List.mem_cons.1 member with rfl | member
  · exact names.known
  · exact known use member

theorem isFault_label (unescaped : before.getLast? ≠ some '\\') (noTag : ¬ WritesTag before)
    (names : Names name style) (bare : IsBare word) {rest : Text}
    (isFault : IsFault glyphs (tokens rest)) :
    IsFault glyphs (tokens (before ++ (label name word ++ rest))) := by
  intro position
  obtain ⟨next, text, isSeen, paged⟩ :=
    page_behind_label unescaped noTag names bare rest position
  obtain ⟨fault, fails⟩ := isFault next
  exact ⟨fault, by rw [paged, fails]; rfl⟩

end Label

/-! ## Texts with labels -/

/-- A text up to a label, and the label. -/
structure Piece where
  before : Text
  name : Text
  word : Text

structure Piece.IsProper (piece : Piece) : Prop where
  unescaped : piece.before.getLast? ≠ some '\\'
  names : ∃ style, Names piece.name style
  bare : IsBare piece.word

/-- A text with labels, and what is behind the last of them. -/
def labelled (pieces : List Piece) (rest : Text) : Text :=
  pieces.foldr (fun piece later => piece.before ++ (label piece.name piece.word ++ later)) rest

/-- The text without its labels. -/
def unlabelled (pieces : List Piece) (rest : Text) : Text :=
  pieces.foldr (fun piece later => piece.before ++ (piece.word ++ later)) rest

theorem solid_unlabelled {pieces : List Piece} {first second : Text}
    (same : solid first = solid second) :
    solid (unlabelled pieces first) = solid (unlabelled pieces second) := by
  induction pieces with
  | nil => exact same
  | cons piece more ih =>
      simp only [unlabelled, List.foldr_cons, solid_append] at ih ⊢
      rw [ih]

/-- A markup prints a text: it can be shown, and nothing is lost or added but backslashes and
characters that move the cursor, with emoji for some of the codes that are left. -/
def Prints (glyphs : Glyphs) (markup text : Text) : Prop :=
  ∃ printed, shown glyphs markup = .ok printed ∧ glyphs.Shows (solid text) (solid printed)

/-- A text in which no known code is written is printed as it is. -/
theorem Prints.eq_of_noCode {markup text : Text} (prints : Prints glyphs markup text)
    (noCode : ∀ code, (glyphs.emojiOf? code).isSome = true →
      ¬ Glyphs.codeText code <:+: solid text) :
    ∃ printed, shown glyphs markup = .ok printed ∧ solid printed = solid text := by
  obtain ⟨printed, shows, same⟩ := prints
  exact ⟨printed, shows, same.eq_of_noCode noCode⟩

section Pieces

variable {pieces : List Piece} {rest : Text}

theorem isShown_labelled (areProper : ∀ piece ∈ pieces, piece.IsProper)
    (noTags : ∀ piece ∈ pieces, ¬ WritesTag piece.before) (noTag : ¬ WritesTag rest) :
    IsShown glyphs (tokens (labelled pieces rest)) := by
  induction pieces with
  | nil => exact isShown_of_arePlain (arePlain_tokens noTag)
  | cons piece more ih =>
      simp only [List.forall_mem_cons] at areProper noTags
      obtain ⟨style, names⟩ := areProper.1.names
      exact isShown_label areProper.1.unescaped noTags.1 names areProper.1.bare
        (ih areProper.2 noTags.2)

theorem shows_labelled (proper : glyphs.IsProper) (areProper : ∀ piece ∈ pieces, piece.IsProper)
    (noTags : ∀ piece ∈ pieces, ¬ WritesTag piece.before) (noTag : ¬ WritesTag rest) :
    glyphs.Shows (solid (unlabelled pieces rest))
      (solid (visible glyphs (tokens (labelled pieces rest)))) := by
  induction pieces with
  | nil => exact shows_visible_tokens proper noTag
  | cons piece more ih =>
      simp only [List.forall_mem_cons] at areProper noTags
      obtain ⟨style, names⟩ := areProper.1.names
      have whole := visible_label glyphs areProper.1.unescaped names areProper.1.bare
        (labelled more rest)
      have before := shows_visible_tokens proper noTags.1
      have word := shows_visible_tokens proper areProper.1.bare.not_writesTag
      rw [labelled, List.foldr_cons, ← labelled, whole, unlabelled, List.foldr_cons, ← unlabelled]
      simp only [solid_append]
      exact before.append (word.append (ih areProper.2 noTags.2))

/-- No bracket is shown that was not written, and all are only where no tag is. -/
theorem brackets_labelled (proper : glyphs.IsProper)
    (areProper : ∀ piece ∈ pieces, piece.IsProper) :
    (visible glyphs (tokens (labelled pieces rest))).count '[' ≤
        (unlabelled pieces rest).count '[' ∧
      ((visible glyphs (tokens (labelled pieces rest))).count '[' =
          (unlabelled pieces rest).count '[' →
        (∀ piece ∈ pieces, ¬ WritesTag piece.before) ∧ ¬ WritesTag rest) := by
  induction pieces with
  | nil =>
      refine ⟨brackets_shown_le proper rest, fun same => ⟨by simp, fun writes => ?_⟩⟩
      exact (brackets_shown_lt proper writes).ne same
  | cons piece more ih =>
      simp only [List.forall_mem_cons] at areProper
      obtain ⟨style, names⟩ := areProper.1.names
      obtain ⟨most, all⟩ := ih areProper.2
      have whole := visible_label glyphs areProper.1.unescaped names areProper.1.bare
        (labelled more rest)
      have here := brackets_shown_le proper piece.before
      have word := brackets_shown_le proper piece.word
      rw [labelled, List.foldr_cons, ← labelled, whole, unlabelled, List.foldr_cons, ← unlabelled]
      simp only [List.count_append, List.forall_mem_cons]
      refine ⟨by omega, fun same => ?_⟩
      obtain ⟨noTags, noTag⟩ := all (by omega)
      refine ⟨⟨fun writes => ?_, noTags⟩, noTag⟩
      have fewer := brackets_shown_lt proper writes
      omega

/-- **A text with labels prints what it is without them if and only if it writes no tag between
them.** -/
theorem prints_labelled_iff (proper : glyphs.IsProper)
    (areProper : ∀ piece ∈ pieces, piece.IsProper) {text : Text}
    (same : solid text = solid (unlabelled pieces rest)) :
    Prints glyphs (labelled pieces rest) text ↔
      (∀ piece ∈ pieces, ¬ WritesTag piece.before) ∧ ¬ WritesTag rest := by
  constructor
  · rintro ⟨printed, ok, shows⟩
    apply (brackets_labelled proper areProper).2
    rw [← eq_visible_of_shown ok, ← brackets_solid, shows.brackets proper, same, brackets_solid]
  · rintro ⟨noTags, noTag⟩
    refine ⟨_, shown_of_isShown (isShown_labelled areProper noTags noTag), ?_⟩
    rw [same]
    exact shows_labelled proper areProper noTags noTag

end Pieces

/-- **An escaped text is printed.** -/
theorem prints_escape (proper : glyphs.IsProper) (text : String) :
    Prints glyphs (escape text) text.toList := by
  have same : solid text.toList = solid (unlabelled [] (escape text)) := (solid_escape text).symm
  have noLabels : ∀ piece ∈ ([] : List Piece), piece.IsProper := List.forall_mem_nil _
  exact (prints_labelled_iff proper noLabels same).2 ⟨by simp, not_writesTag_escape text⟩

end Markup
end LineCensus
