/-
# Proofs.Markup -- where the tags of a markup are

A tag begins with an opening bracket, and backslashes right before the bracket belong to
it.  So a stretch without a bracket is plain (`tokensFrom_plain`), a stretch up to a bracket
is plain if it ends in no backslash (`tokensFrom_upTo`), and a tag behind it is read as a
whole (`tokensFrom_tag`).

A closing tag with no tag open before it is a fault, whatever its name is (`page_stray`).
-/
import LineCensus.Console.Markup
import LineCensus.Proofs.Step
import Mathlib.Data.List.TakeWhile

set_option autoImplicit false

namespace LineCensus
namespace Markup

/-! ## Tokens -/

/-- Behind the backslashes of a tag stands a bracket. -/
theorem tagAt?_eq_none {text : Text}
    (other : (text.dropWhile (· = '\\')).head? ≠ some '[') : tagAt? text = none := by
  unfold tagAt?
  simp only
  split
  · rename_i begins
    rw [begins] at other
    exact absurd rfl other
  · rfl

theorem tagAt?_of_not_mem {text : Text} (noBracket : '[' ∉ text) : tagAt? text = none :=
  tagAt?_eq_none fun bracket =>
    noBracket ((List.dropWhile_sublist _).subset (List.mem_of_head? bracket))

theorem tagAt?_upTo {before : Text} (rest : Text) (noBracket : '[' ∉ before)
    (unescaped : before.getLast? ≠ some '\\') (some_char : before ≠ []) :
    tagAt? (before ++ rest) = none := by
  have stops : before.dropWhile (· = '\\') ≠ [] := by
    intro all
    have isSlash := List.dropWhile_eq_nil_iff.1 all _ (List.getLast_mem some_char)
    rw [List.getLast?_eq_some_getLast some_char] at unescaped
    exact unescaped (congrArg some (of_decide_eq_true isSlash))
  refine tagAt?_eq_none fun bracket => ?_
  rw [List.dropWhile_append, if_neg (by simpa using stops), List.head?_append_of_ne_nil _ stops]
    at bracket
  exact noBracket ((List.dropWhile_sublist _).subset (List.mem_of_head? bracket))

theorem unescape_of_not_mem {text : Text} (noBracket : '[' ∉ text) : unescape text = text := by
  fun_induction unescape text with
  | case1 rest => simp at noBracket
  | case2 c rest _ ih =>
      rw [ih fun member => noBracket (List.mem_cons_of_mem c member)]
  | case3 => rfl

theorem plain_of_mem_plainToken {reversed : Text} {token : Token}
    (member : token ∈ plainToken reversed) : ∃ text, token = .plain text := by
  unfold plainToken at member
  split at member
  · cases member
  · exact ⟨_, List.mem_singleton.1 member⟩

/-- A text without an opening bracket is plain. -/
theorem tokensFrom_plain {text : Text} (noBracket : '[' ∉ text) (plain : Text) :
    tokensFrom 0 plain text = plainToken (text.reverse ++ plain) := by
  induction text generalizing plain with
  | nil => rfl
  | cons c rest ih =>
      have later : '[' ∉ rest := fun member => noBracket (List.mem_cons_of_mem c member)
      rw [tokensFrom, tagAt?_of_not_mem noBracket]
      simp only
      rw [ih later, List.reverse_cons, List.append_assoc, List.singleton_append]

/-- A stretch without an opening bracket is plain up to what follows it, if it does not end
in a backslash. -/
theorem tokensFrom_upTo {before : Text} (noBracket : '[' ∉ before)
    (unescaped : before.getLast? ≠ some '\\') (plain rest : Text) :
    tokensFrom 0 plain (before ++ rest) = tokensFrom 0 (before.reverse ++ plain) rest := by
  induction before generalizing plain with
  | nil => rfl
  | cons c more ih =>
      have later : '[' ∉ more := fun member => noBracket (List.mem_cons_of_mem c member)
      have unescapedLater : more.getLast? ≠ some '\\' := by
        cases more with
        | nil => simp
        | cons d others => rwa [List.getLast?_cons_cons] at unescaped
      have noTag := tagAt?_upTo rest noBracket unescaped (List.cons_ne_nil c more)
      rw [List.cons_append] at noTag ⊢
      rw [tokensFrom, noTag]
      simp only
      rw [ih later unescapedLater, List.reverse_cons, List.append_assoc, List.singleton_append]

/-- What is read already is passed by. -/
theorem tokensFrom_skip (skip : Nat) (plain text : Text) :
    tokensFrom skip plain text = tokensFrom 0 plain (text.drop skip) := by
  induction skip generalizing text with
  | zero => rfl
  | succ skip ih =>
      cases text with
      | nil => rfl
      | cons c rest => exact ih rest

/-- What can stand in a tag: a first character that begins one, and no brackets. -/
structure IsContent (content : Text) : Prop where
  starts : content.head?.any startsTag = true
  noBracket : '[' ∉ content ∧ ']' ∉ content

theorem tagAt?_tag {content : Text} (isContent : IsContent content) (rest : Text) :
    tagAt? ('[' :: (content ++ ']' :: rest)) = some (0, content) := by
  obtain ⟨starts, noOpening, noClosing⟩ := isContent
  cases content with
  | nil => cases starts
  | cons c inside =>
      have starts : startsTag c = true := starts
      have plain : ∀ d ∈ inside, (d != '[' && d != ']') = true := by
        intro d member
        simp only [List.mem_cons, not_or] at noOpening noClosing
        simp only [Bool.and_eq_true, bne_iff_ne]
        exact ⟨fun same => noOpening.2 (same ▸ member), fun same => noClosing.2 (same ▸ member)⟩
      have taken : (inside ++ ']' :: rest).takeWhile (fun d => d != '[' && d != ']') = inside := by
        rw [List.takeWhile_append_of_pos plain, List.takeWhile_cons_of_neg (by simp),
          List.append_nil]
      simp [tagAt?, starts, taken]

/-- A tag is read as a whole. -/
theorem tokensFrom_tag {content : Text} (isContent : IsContent content) (plain rest : Text) :
    tokensFrom 0 plain ('[' :: (content ++ ']' :: rest)) =
      plainToken plain ++ .plain [] :: .tag content :: tokensFrom 0 [] rest := by
  have length : (content ++ [']']).length = tagLength 0 content - 1 := by
    simp [tagLength]
  rw [tokensFrom, tagAt?_tag isContent]
  simp only [Nat.zero_div, List.replicate_zero, Nat.zero_mod]
  rw [if_neg (by decide), tokensFrom_skip, ← length, List.append_cons content ']' rest,
    List.drop_left]
  simp

/-! ## Closing tags -/

/-- A closing tag with no tag open before it. -/
theorem applyTag_stray (position : Nat) (name : Text) :
    ∃ fault, applyTag position [] ('/' :: name) = .error fault := by
  have closing (closed : Text) : ∃ fault, closedBy [] closed = .error fault := by
    simp only [closedBy]
    split
    · exact ⟨_, rfl⟩
    · cases canonicalStyle (Text.trim closed) with
      | error fault => exact ⟨fault, rfl⟩
      | ok style => exact ⟨_, rfl⟩
  obtain ⟨fault, fails⟩ := closing (name.takeWhile (· != '='))
  have slash : ('/' :: name).takeWhile (· != '=') = '/' :: name.takeWhile (· != '=') := by
    rw [List.takeWhile_cons_of_pos (by decide)]
  exact ⟨fault, by simp only [applyTag, splitTag, slash, fails]; rfl⟩

/-- Whatever follows, a markup whose first tag closes one cannot be shown. -/
theorem page_stray (glyphs : Glyphs) {before : List Token}
    (plain : ∀ token ∈ before, ∃ text, token = .plain text) (name : Text) (after : List Token)
    (position : Nat) :
    ∃ fault, page glyphs position [] (before ++ .tag ('/' :: name) :: after) = .error fault := by
  induction before generalizing position with
  | nil =>
      obtain ⟨fault, fails⟩ := applyTag_stray position name
      exact ⟨fault, by rw [List.nil_append, page, fails]; rfl⟩
  | cons token rest ih =>
      obtain ⟨text, rfl⟩ := plain token (by simp)
      obtain ⟨fault, fails⟩ := ih (fun other member => plain other (List.mem_cons_of_mem _ member))
        (position + (seen glyphs text).countP (· != '\n'))
      exact ⟨fault, by rw [List.cons_append, page, fails]; rfl⟩

end Markup
end LineCensus
