/-
# Proofs.Language -- the texts that a pattern fits

The language of a pattern is defined along the pattern (`Matches`): what a star, a question
mark, a set, and any other character stand for.  Matching keeps all ends of a text that are
still to be matched, and the longest of them alone decides what is possible after a star; it
finds the language all the same (`matchesAll_iff`, `fits_iff`).

A folder is excluded exactly if the language of a pattern has its path or the last part of it
(`excludes_iff_language`), whatever the order of the patterns.
-/
import LineCensus.Proofs.Discovery
import LineCensus.Proofs.Sets

set_option autoImplicit false

namespace LineCensus
namespace Glob

/-! ## Pieces -/

/-- The texts that pieces stand for, one after the other. -/
def Fits : List Piece → Text → Prop
  | [], text => text = []
  | .any :: rest, text => ∃ tail, tail <:+ text ∧ Fits rest tail
  | piece :: rest, text => ∃ c tail, text = c :: tail ∧ piece.admits c = true ∧ Fits rest tail

theorem mem_ends_iff {tail text : Text} : tail ∈ ends text ↔ tail <:+ text := by
  induction text with
  | nil => simp [ends]
  | cons c rest ih => rw [ends, List.mem_cons, ih, List.suffix_cons_iff]

/-- Each of the ends is one of those before it. -/
def LongestFirst (alive : List Text) : Prop :=
  alive.Pairwise fun longer shorter => shorter <:+ longer

theorem longestFirst_ends (text : Text) : LongestFirst (ends text) := by
  induction text with
  | nil => exact List.pairwise_singleton _ _
  | cons c rest ih =>
      refine List.pairwise_cons.2 ⟨fun tail member => ?_, ih⟩
      exact (mem_ends_iff.1 member).trans (List.suffix_cons c rest)

theorem fits_cons {piece : Piece} (single : piece ≠ .any) {rest : List Piece} {text : Text} :
    Fits (piece :: rest) text ↔
      ∃ c tail, text = c :: tail ∧ piece.admits c = true ∧ Fits rest tail := by
  rw [Fits]
  exact single

theorem mem_advance_iff {piece : Piece} {alive : List Text} {tail : Text} :
    tail ∈ advance piece alive ↔ ∃ c, c :: tail ∈ alive ∧ piece.admits c = true := by
  simp only [advance, List.mem_filterMap]
  constructor
  · rintro ⟨text, member, after⟩
    cases text with
    | nil => cases after
    | cons c rest =>
        simp only [Option.ite_none_right_eq_some, Option.some.injEq] at after
        obtain ⟨admitted, rfl⟩ := after
        exact ⟨c, member, admitted⟩
  · rintro ⟨c, member, admitted⟩
    exact ⟨c :: tail, member, if_pos admitted⟩

theorem LongestFirst.advance {alive : List Text} (sorted : LongestFirst alive) (piece : Piece) :
    LongestFirst (advance piece alive) := by
  refine List.Pairwise.filterMap _ (fun longer shorter ends tail afterLonger tail' afterShorter => ?_)
    sorted
  cases longer with
  | nil => cases afterLonger
  | cons c rest =>
      cases shorter with
      | nil => cases afterShorter
      | cons d rest' =>
          simp only [Option.ite_none_right_eq_some, Option.some.injEq] at afterLonger afterShorter
          obtain ⟨-, rfl⟩ := afterLonger
          obtain ⟨-, rfl⟩ := afterShorter
          rcases List.suffix_cons_iff.1 ends with same | within
          · obtain rfl := (List.cons.inj same).2
            exact List.suffix_refl _
          · exact (List.suffix_cons d rest').trans within

/-- **Matching finds the texts that the pieces stand for.** -/
theorem matchesAll_iff {alive : List Text} (sorted : LongestFirst alive) (pieces : List Piece) :
    matchesAll alive pieces = true ↔ ∃ text ∈ alive, Fits pieces text := by
  fun_induction matchesAll alive pieces with
  | case1 alive => simp [Fits]
  | case2 rest => simp
  | case3 rest longest shorter ih =>
      -- An end of any of the texts is an end of the longest of them.
      rw [ih (longestFirst_ends longest)]
      constructor
      · rintro ⟨tail, member, fits⟩
        exact ⟨longest, List.mem_cons_self, tail, mem_ends_iff.1 member, fits⟩
      · rintro ⟨text, member, tail, ends, fits⟩
        refine ⟨tail, mem_ends_iff.2 ?_, fits⟩
        rcases List.mem_cons.1 member with rfl | later
        · exact ends
        · exact ends.trans (List.rel_of_pairwise_cons sorted later)
  | case4 alive piece rest single ih =>
      rw [ih (sorted.advance piece)]
      constructor
      · rintro ⟨tail, member, fits⟩
        obtain ⟨c, alive, admitted⟩ := mem_advance_iff.1 member
        exact ⟨c :: tail, alive, (fits_cons single).2 ⟨c, tail, rfl, admitted, fits⟩⟩
      · rintro ⟨text, member, fits⟩
        obtain ⟨c, tail, rfl, admitted, fits⟩ := (fits_cons single).1 fits
        exact ⟨tail, mem_advance_iff.2 ⟨c, member, admitted⟩, fits⟩

/-! ## The language of a pattern -/

/-- A set that is never closed. -/
def IsUnclosed (rest : Text) : Prop :=
  ∀ body more, rest = body ++ ']' :: more → ¬ IsSetBody body

/-- The texts in the language of a pattern.  How sets are read is left open: `reads` says which
entries the text of a set has, and whether it is negated. -/
inductive Matches (reads : Text → Bool → List Member → Prop) : Text → Text → Prop where
  | nil : Matches reads [] []
  | star (run : Text) {rest text : Text} (later : Matches reads rest text) :
      Matches reads ('*' :: rest) (run ++ text)
  | one (c : Char) {rest text : Text} (later : Matches reads rest text) :
      Matches reads ('?' :: rest) (c :: text)
  | set {body : Text} {negated : Bool} {ms : List Member} (isBody : IsSetBody body)
      (read : reads body negated ms) {c : Char} (chosen : Chosen negated ms c) {rest text : Text}
      (later : Matches reads rest text) :
      Matches reads ('[' :: (body ++ ']' :: rest)) (c :: text)
  | bracket {rest text : Text} (unclosed : IsUnclosed rest) (later : Matches reads rest text) :
      Matches reads ('[' :: rest) ('[' :: text)
  | literal {c : Char} (plain : c ≠ '*' ∧ c ≠ '?' ∧ c ≠ '[') {rest text : Text}
      (later : Matches reads rest text) : Matches reads (c :: rest) (c :: text)

section Inversion

variable {reads : Text → Bool → List Member → Prop} {rest text : Text}

theorem matches_nil_iff : Matches reads [] text ↔ text = [] := by
  constructor
  · intro hit
    cases hit
    rfl
  · rintro rfl
    exact .nil

theorem matches_star_iff :
    Matches reads ('*' :: rest) text ↔ ∃ tail, tail <:+ text ∧ Matches reads rest tail := by
  constructor
  · intro hit
    cases hit with
    | star run later => exact ⟨_, List.suffix_append run _, later⟩
    | literal plain later => exact absurd rfl plain.1
  · rintro ⟨tail, ⟨run, rfl⟩, later⟩
    exact .star run later

theorem matches_one_iff :
    Matches reads ('?' :: rest) text ↔ ∃ c tail, text = c :: tail ∧ Matches reads rest tail := by
  constructor
  · intro hit
    cases hit with
    | one c later => exact ⟨c, _, rfl, later⟩
    | literal plain later => exact absurd rfl plain.2.1
  · rintro ⟨c, tail, rfl, later⟩
    exact .one c later

/-- The bracket that closes a set can be only one. -/
theorem body_unique {body other more after : Text} (isBody : IsSetBody body)
    (isOther : IsSetBody other) (same : body ++ ']' :: more = other ++ ']' :: after) :
    body = other ∧ more = after := by
  have first := setBody?_eq_some_iff.2 ⟨isBody, more, rfl⟩
  rw [setBody?_eq_some_iff.2 ⟨isOther, after, same⟩] at first
  obtain rfl := Option.some.inj first
  exact ⟨rfl, (List.cons.inj (List.append_cancel_left same)).2⟩

theorem matches_set_iff {body : Text} (isBody : IsSetBody body) :
    Matches reads ('[' :: (body ++ ']' :: rest)) text ↔
      ∃ c tail, text = c :: tail ∧ (∃ negated ms, reads body negated ms ∧ Chosen negated ms c) ∧
        Matches reads rest tail := by
  constructor
  · generalize written : '[' :: (body ++ ']' :: rest) = pattern
    intro hit
    cases hit with
    | set isOther read chosen later =>
        obtain ⟨rfl, rfl⟩ := body_unique isBody isOther (List.cons.inj written).2
        exact ⟨_, _, rfl, ⟨_, _, read, chosen⟩, later⟩
    | bracket unclosed later => exact absurd isBody (unclosed body rest (List.cons.inj written).2.symm)
    | literal plain later => exact absurd (List.cons.inj written).1.symm plain.2.2
    | _ => cases written
  · rintro ⟨c, tail, rfl, ⟨negated, ms, read, chosen⟩, later⟩
    exact .set isBody read chosen later

theorem matches_bracket_iff (unclosed : IsUnclosed rest) :
    Matches reads ('[' :: rest) text ↔ ∃ tail, text = '[' :: tail ∧ Matches reads rest tail := by
  constructor
  · generalize written : '[' :: rest = pattern
    intro hit
    cases hit with
    | set isBody read chosen later => exact absurd isBody (unclosed _ _ (List.cons.inj written).2)
    | bracket _ later =>
        obtain ⟨-, rfl⟩ := List.cons.inj written
        exact ⟨_, rfl, later⟩
    | literal plain later => exact absurd (List.cons.inj written).1.symm plain.2.2
    | _ => cases written
  · rintro ⟨tail, rfl, later⟩
    exact .bracket unclosed later

theorem matches_literal_iff {c : Char} (plain : c ≠ '*' ∧ c ≠ '?' ∧ c ≠ '[') :
    Matches reads (c :: rest) text ↔ ∃ tail, text = c :: tail ∧ Matches reads rest tail := by
  constructor
  · intro hit
    cases hit with
    | literal _ later => exact ⟨_, rfl, later⟩
    | star => exact absurd rfl plain.1
    | one => exact absurd rfl plain.2.1
    | set => exact absurd rfl plain.2.2
    | bracket => exact absurd rfl plain.2.2
  · rintro ⟨tail, rfl, later⟩
    exact .literal plain later

end Inversion

/-! ## The pieces of a pattern -/

theorem piecesFrom_eq (skip : Nat) (text : Text) : piecesFrom skip text = pieces (text.drop skip) := by
  induction text generalizing skip with
  | nil => cases skip <;> rfl
  | cons c rest ih =>
      cases skip with
      | zero => rfl
      | succ skip => rw [piecesFrom, ih, List.drop_succ_cons]

theorem pieces_set {body : Text} (isBody : IsSetBody body) (rest : Text) :
    pieces ('[' :: (body ++ ']' :: rest)) = setPiece body :: pieces rest := by
  have closed := setBody?_eq_some_iff.2 ⟨isBody, rest, rfl⟩
  have skipped : (body ++ ']' :: rest).drop (body.length + 1) = rest := by
    rw [List.append_cons, List.drop_left' (by simp)]
  rw [pieces, piecesFrom, if_neg (by decide), if_neg (by decide), if_pos rfl, closed]
  simp only [piecesFrom_eq, skipped]

theorem pieces_bracket {rest : Text} (unclosed : IsUnclosed rest) :
    pieces ('[' :: rest) = .literal '[' :: pieces rest := by
  have open_ : setBody? rest = none := by
    cases closed : setBody? rest with
    | none => rfl
    | some body =>
        obtain ⟨isBody, more, same⟩ := setBody?_eq_some_iff.1 closed
        exact absurd isBody (unclosed body more same)
  rw [pieces, piecesFrom, if_neg (by decide), if_neg (by decide), if_pos rfl, open_]
  rfl

theorem pieces_literal {c : Char} (plain : c ≠ '*' ∧ c ≠ '?' ∧ c ≠ '[') (rest : Text) :
    pieces (c :: rest) = .literal c :: pieces rest := by
  rw [pieces, piecesFrom, if_neg plain.1, if_neg plain.2.1, if_neg plain.2.2]
  rfl

theorem fits_literal {c : Char} {rest : List Piece} {text : Text} :
    Fits (.literal c :: rest) text ↔ ∃ tail, text = c :: tail ∧ Fits rest tail := by
  rw [fits_cons (by simp)]
  simp [Piece.admits]

/-- **The pieces of a pattern stand for the texts in its language.** -/
theorem fits_pieces_iff {pattern text : Text} :
    Fits (pieces pattern) text ↔ Matches Reads pattern text := by
  -- The induction is on the length, since a set is several characters of the pattern.
  induction size : pattern.length using Nat.strongRecOn generalizing pattern text with
  | ind _ ih =>
      cases pattern with
      | nil => exact matches_nil_iff.symm
      | cons c rest =>
          have later {shorter text : Text} (less : shorter.length < (c :: rest).length) :
              Fits (pieces shorter) text ↔ Matches Reads shorter text :=
            ih shorter.length (size ▸ less) rfl
          have next {text : Text} : Fits (pieces rest) text ↔ Matches Reads rest text :=
            later (Nat.lt_succ_self _)
          by_cases star : c = '*'
          · subst star
            show Fits (.any :: pieces rest) text ↔ _
            rw [matches_star_iff, Fits]
            exact exists_congr fun tail => and_congr_right fun _ => next
          by_cases one : c = '?'
          · subst one
            show Fits (.one :: pieces rest) text ↔ _
            rw [matches_one_iff, fits_cons (by simp)]
            simp only [Piece.admits, true_and, next]
          by_cases bracket : c = '['
          swap
          · rw [pieces_literal ⟨star, one, bracket⟩, fits_literal,
              matches_literal_iff ⟨star, one, bracket⟩]
            simp only [next]
          subst bracket
          by_cases unclosed : IsUnclosed rest
          · rw [pieces_bracket unclosed, fits_literal, matches_bracket_iff unclosed]
            simp only [next]
          · simp only [IsUnclosed, not_forall, not_not] at unclosed
            obtain ⟨body, more, rfl, isBody⟩ := unclosed
            have less : more.length < ('[' :: (body ++ ']' :: more)).length := by
              simp only [List.length_cons, List.length_append]
              omega
            rw [pieces_set isBody, fits_cons (setPiece_ne_any body), matches_set_iff isBody]
            simp only [admits_setPiece_iff, later less]

theorem fits_iff {pattern text : Text} : fits pattern text = true ↔ Matches Reads pattern text := by
  rw [fits, matchesAll_iff (List.pairwise_singleton _ _), ← fits_pieces_iff]
  simp

end Glob

/-! ## Folders -/

namespace Exclude

/-- **A folder is excluded if the language of a pattern has its path or the last part of it**, and
only then; the order of the patterns, and whether one stands there twice, makes no difference. -/
theorem excludes_iff_language (patterns : List String) (relative : String) :
    ∃ excluded, excludes (.list (patterns.map .text)) relative = .ok excluded ∧
      (excluded = true ↔ ∃ pattern ∈ patterns, ∃ text,
        (text = relative ∨ Path.IsLastPart text relative) ∧
          Glob.Matches Glob.Reads pattern.toList text.toList) ∧
      ∀ others : List String, (∀ pattern, pattern ∈ others ↔ pattern ∈ patterns) →
        excludes (.list (others.map .text)) relative = .ok excluded := by
  have fitsFolder_iff (pattern : String) : fitsFolder relative pattern = true ↔ ∃ text,
      (text = relative ∨ Path.IsLastPart text relative) ∧
        Glob.Matches Glob.Reads pattern.toList text.toList := by
    simp only [fitsFolder, Bool.or_eq_true, Glob.fits_iff, Path.isLastPart_iff]
    constructor
    · rintro (name | path)
      · exact ⟨_, .inr rfl, name⟩
      · exact ⟨_, .inl rfl, path⟩
    · rintro ⟨text, rfl | rfl, fits⟩
      · exact .inr fits
      · exact .inl fits
  refine ⟨_, excludes_texts patterns relative, ?_, fun others same => ?_⟩
  · simp only [List.any_eq_true, fitsFolder_iff]
  · rw [excludes_texts, Except.ok.injEq, Bool.eq_iff_iff]
    simp only [List.any_eq_true, same]

/-- A pattern with a set that does not begin with the mark of negation, but has it behind a range
that runs backwards. -/
def hiddenMark : String := "[z-a!b]"

/-- A set can be negated without beginning with the mark of negation. -/
theorem not_every_set_is_as_written :
    ¬ ∀ (patterns : List String) (relative : String),
      excludes (.list (patterns.map .text)) relative = .ok true ↔
        ∃ pattern ∈ patterns, ∃ text, (text = relative ∨ Path.IsLastPart text relative) ∧
          Glob.Matches Glob.ReadsPlainly pattern.toList text.toList := by
  intro asWritten
  have excluded : excludes (.list ([hiddenMark].map .text)) "x" = .ok true := by
    rw [excludes_texts]
    exact congrArg Except.ok (by decide +kernel)
  obtain ⟨pattern, member, text, isX, hit⟩ := (asWritten [hiddenMark] "x").1 excluded
  obtain rfl := List.mem_singleton.1 member
  have lastOfX : Path.basename "x" = "x" := by decide +kernel
  obtain rfl : text = "x" := by
    rcases isX with rfl | isLast
    · rfl
    · rw [← Path.isLastPart_iff.1 isLast, lastOfX]
  have isBody : Glob.IsSetBody "z-a!b".toList := .plain (by decide) (by decide)
  have spelled : hiddenMark.toList = '[' :: ("z-a!b".toList ++ ']' :: []) := by decide +kernel
  rw [spelled, Glob.matches_set_iff isBody] at hit
  obtain ⟨c, tail, same, ⟨negated, ms, reads, chosen⟩, -⟩ := hit
  obtain rfl : 'x' = c := (List.cons.inj same).1
  cases reads with
  | plain unmarked spells =>
      obtain ⟨m, member, contains⟩ := chosen.2 rfl
      have entries : ms = [.range 'z' 'a', .single '!', .single 'b'] :=
        (Glob.spells_iff.1 spells).symm.trans (by decide +kernel)
      simp only [entries, List.mem_cons, List.not_mem_nil, or_false] at member
      rcases member with rfl | rfl | rfl <;> exact absurd contains (by decide)

end Exclude
end LineCensus
