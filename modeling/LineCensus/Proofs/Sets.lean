/-
# Proofs.Sets -- what a set of a pattern stands for

A set is what stands between a bracket and the bracket that closes it.  Here its text is taken
apart by rules, without reading it from left to right:

* `IsSetBody` says which texts can stand between two brackets, and `setBody?_eq_some_iff` that
  the reading finds just that.
* `Spells` says of which entries a text is made (`spells_iff`).
* `Reads` says which entries a set has and whether it is negated.  `Reads.admits_iff`: a set
  admits the characters in its entries, or those outside them.

A range that runs backwards has no characters.  It is also passed over when the mark of negation
is looked for, so a set can be negated without beginning with the mark (`Hides`).  `ReadsPlainly`
is the reading in which only a set that begins with the mark is negated.
-/
import LineCensus.Pattern.Glob
import LineCensus.Proofs.Paths

set_option autoImplicit false

namespace LineCensus
namespace Glob

/-! ## Where a set ends -/

/-- What can stand between the brackets of a set.  After the mark of negation, if there is one,
comes at least one character, and only that one can be a closing bracket. -/
inductive IsSetBody : Text → Prop where
  | plain {first : Char} {rest : Text} (unmarked : first ≠ '!') (inside : ']' ∉ rest) :
      IsSetBody (first :: rest)
  | marked {first : Char} {rest : Text} (inside : ']' ∉ rest) : IsSetBody ('!' :: first :: rest)

/-- What a text has up to the first closing bracket in its last part. -/
def upToBracket? (whole last : Text) : Option Text :=
  let inside := last.takeWhile (· != ']')
  if inside.length < last.length then
    some (whole.take (whole.length - last.length + inside.length))
  else none

theorem upToBracket?_append (before : Text) {inside : Text} (open_ : ']' ∉ inside) (more : Text) :
    upToBracket? (before ++ (inside ++ ']' :: more)) (inside ++ ']' :: more) =
      some (before ++ inside) := by
  have taken : (inside ++ ']' :: more).takeWhile (· != ']') = inside := by
    rw [List.takeWhile_append_of_pos (Text.forall_bne_of_not_mem open_),
      List.takeWhile_cons_of_neg (by simp), List.append_nil]
  have shorter : inside.length < (inside ++ ']' :: more).length := by simp
  simp only [upToBracket?, taken, if_pos shorter, Option.some.injEq]
  rw [List.length_append, Nat.add_sub_cancel, List.take_append,
    List.take_of_length_le (Nat.le_add_right _ _), Nat.add_sub_cancel_left, List.take_left]

theorem upToBracket?_eq_some_iff {before last body : Text} :
    upToBracket? (before ++ last) last = some body ↔
      ∃ inside more, last = inside ++ ']' :: more ∧ ']' ∉ inside ∧ body = before ++ inside := by
  by_cases closes : ']' ∈ last
  · obtain ⟨inside, more, rfl, open_⟩ := List.eq_append_cons_of_mem closes
    rw [upToBracket?_append before open_, Option.some.injEq]
    constructor
    · rintro rfl
      exact ⟨inside, more, rfl, open_, rfl⟩
    · rintro ⟨other, rest, same, otherOpen, rfl⟩
      have found := upToBracket?_append before open_ more
      rw [same, upToBracket?_append before otherOpen] at found
      exact (Option.some.inj found).symm
  · have all : last.takeWhile (· != ']') = last :=
      List.takeWhile_eq_self_iff.2 (Text.forall_bne_of_not_mem closes)
    simp only [upToBracket?, all, Nat.lt_irrefl, if_false]
    constructor
    · rintro ⟨⟩
    · rintro ⟨inside, more, rfl, -⟩
      simp at closes

/-- The first character is part of the set, also if it is a closing bracket. -/
theorem upToBracket?_first {before text body : Text} :
    upToBracket? (before ++ text) (if text.head? = some ']' then text.drop 1 else text) =
        some body ↔
      ∃ first inside more, text = first :: (inside ++ ']' :: more) ∧ ']' ∉ inside ∧
        body = before ++ first :: inside := by
  by_cases bracket : text.head? = some ']'
  · obtain ⟨rest, rfl⟩ := List.head?_eq_some_iff.1 bracket
    rw [if_pos bracket, List.drop_succ_cons, List.drop_zero, List.append_cons,
      upToBracket?_eq_some_iff]
    constructor
    · rintro ⟨inside, more, rfl, open_, rfl⟩
      exact ⟨']', inside, more, rfl, open_, (List.append_cons _ _ _).symm⟩
    · rintro ⟨first, inside, more, same, open_, rfl⟩
      obtain ⟨rfl, rfl⟩ := List.cons.inj same
      exact ⟨inside, more, rfl, open_, List.append_cons _ _ _⟩
  · rw [if_neg bracket, upToBracket?_eq_some_iff]
    constructor
    · rintro ⟨inside, more, rfl, open_, rfl⟩
      cases inside with
      | nil => exact absurd rfl bracket
      | cons first inside =>
          exact ⟨first, inside, more, rfl, fun member => open_ (List.mem_cons_of_mem _ member), rfl⟩
    · rintro ⟨first, inside, more, rfl, open_, rfl⟩
      have other : ']' ≠ first := fun same => bracket (by rw [same]; rfl)
      exact ⟨first :: inside, more, rfl, List.not_mem_cons_of_ne_of_not_mem other open_, rfl⟩

/-- The bracket that closes a set is the first that can. -/
theorem setBody?_eq_some_iff {rest body : Text} :
    setBody? rest = some body ↔ IsSetBody body ∧ ∃ more, rest = body ++ ']' :: more := by
  by_cases marked : rest.head? = some '!'
  · obtain ⟨text, rfl⟩ := List.head?_eq_some_iff.1 marked
    show upToBracket? (['!'] ++ text) (if text.head? = some ']' then text.drop 1 else text) = _ ↔ _
    rw [upToBracket?_first]
    constructor
    · rintro ⟨first, inside, more, rfl, open_, rfl⟩
      exact ⟨.marked open_, more, rfl⟩
    · rintro ⟨isBody, more, same⟩
      cases isBody with
      | plain unmarked inside => exact absurd (List.cons.inj same).1.symm unmarked
      | marked inside => exact ⟨_, _, more, (List.cons.inj same).2, inside, rfl⟩
  · have plain : setBody? rest =
        upToBracket? ([] ++ rest) (if rest.head? = some ']' then rest.drop 1 else rest) := by
      have afterMark : (if rest.head? = some negation then rest.drop 1 else rest) = rest :=
        if_neg marked
      rw [setBody?]
      simp only [afterMark]
      rfl
    rw [plain, upToBracket?_first]
    constructor
    · rintro ⟨first, inside, more, rfl, open_, rfl⟩
      exact ⟨.plain (fun mark => marked (congrArg some mark)) open_, more, rfl⟩
    · rintro ⟨isBody, more, rfl⟩
      cases isBody with
      | plain unmarked inside => exact ⟨_, _, more, rfl, inside, rfl⟩
      | marked inside => exact absurd rfl marked

/-! ## The entries of a set -/

/-- Of which entries a text is made.  A range is three characters with a hyphen between them,
read from the left. -/
inductive Spells : Text → List Member → Prop where
  | nil : Spells [] []
  | range (first last : Char) {rest : Text} {ms : List Member} (later : Spells rest ms) :
      Spells (first :: '-' :: last :: rest) (.range first last :: ms)
  | single (c : Char) {rest : Text} {ms : List Member}
      (noRange : ∀ last more, rest ≠ '-' :: last :: more) (later : Spells rest ms) :
      Spells (c :: rest) (.single c :: ms)

theorem spells_members (text : Text) : Spells text (members text) := by
  fun_induction members text with
  | case1 first last rest ih => exact .range first last ih
  | case2 c rest noRange ih => exact .single c noRange ih
  | case3 => exact .nil

theorem spells_iff {text : Text} {ms : List Member} : Spells text ms ↔ members text = ms := by
  constructor
  · intro spells
    induction spells with
    | nil => rw [members]
    | range first last later ih => rw [members, ih]
    | single c noRange later ih => rw [members, ih]; exact noRange
  · rintro rfl
    exact spells_members text

namespace Member

/-- The characters of an entry.  A range that runs backwards has none. -/
def Contains (c : Char) : Member → Prop
  | .single d => c = d
  | .range first last => first ≤ c ∧ c ≤ last

def IsBackward : Member → Prop
  | .single _ => False
  | .range first last => last < first

theorem holds_iff {c : Char} {m : Member} : m.holds c = true ↔ m.Contains c := by
  cases m with
  | single d => simp [holds, Contains]
  | range first last => simp [holds, Contains, Char.le_def, UInt32.le_iff_toNat_le]

instance (c : Char) (m : Member) : Decidable (m.Contains c) :=
  decidable_of_iff _ holds_iff

theorem isProper_range {first last : Char} :
    (range first last).isProper = true ↔ first ≤ last := by
  simp [isProper, Char.le_def, UInt32.le_iff_toNat_le]

theorem isProper_eq_false_iff {m : Member} : m.isProper = false ↔ m.IsBackward := by
  cases m with
  | single d => simp [isProper, IsBackward]
  | range first last => simp [isProper, IsBackward, Char.lt_def, UInt32.lt_iff_toNat_lt]

theorem IsBackward.not_contains {m : Member} (backward : m.IsBackward) (c : Char) :
    ¬ m.Contains c := by
  cases m with
  | single d => exact backward.elim
  | range first last =>
      rintro ⟨above, below⟩
      exact Char.not_le.2 backward (Char.le_trans above below)

end Member

/-! ## Reading a set -/

/-- The mark of negation comes first among entries, but for ranges that run backwards.  What is
left behind it are the entries of the set; if the mark began a range, the hyphen and the end of
that range are among them. -/
inductive Hides : List Member → List Member → Prop where
  | alone {backward : List Member} (passedOver : ∀ m ∈ backward, m.IsBackward)
      (left : List Member) : Hides (backward ++ .single '!' :: left) left
  | range {backward : List Member} (passedOver : ∀ m ∈ backward, m.IsBackward) {last : Char}
      (proper : '!' ≤ last) (left : List Member) :
      Hides (backward ++ .range '!' last :: left) (.single '-' :: .single last :: left)

/-- Which entries a set has, and whether it is negated. -/
inductive Reads : Text → Bool → List Member → Prop where
  | marked {rest : Text} {ms : List Member} (spells : Spells rest ms) : Reads ('!' :: rest) true ms
  | plain {body : Text} {ms : List Member} (unmarked : body.head? ≠ some '!')
      (spells : Spells body ms) (hidesNone : ∀ left, ¬ Hides ms left) : Reads body false ms
  | hidden {body : Text} {ms left : List Member} (unmarked : body.head? ≠ some '!')
      (spells : Spells body ms) (hides : Hides ms left) : Reads body true left

/-- The same if only a set that begins with the mark is negated. -/
inductive ReadsPlainly : Text → Bool → List Member → Prop where
  | marked {rest : Text} {ms : List Member} (spells : Spells rest ms) :
      ReadsPlainly ('!' :: rest) true ms
  | plain {body : Text} {ms : List Member} (unmarked : body.head? ≠ some '!')
      (spells : Spells body ms) : ReadsPlainly body false ms

/-- Every set can be read. -/
theorem exists_reads (body : Text) : ∃ negated ms, Reads body negated ms := by
  by_cases marked : body.head? = some '!'
  · obtain ⟨rest, rfl⟩ := List.head?_eq_some_iff.1 marked
    exact ⟨true, members rest, .marked (spells_members rest)⟩
  by_cases hides : ∃ left, Hides (members body) left
  · obtain ⟨left, hides⟩ := hides
    exact ⟨true, left, .hidden marked (spells_members body) hides⟩
  · exact ⟨false, members body,
      .plain marked (spells_members body) fun left hidden => hides ⟨left, hidden⟩⟩

/-- One of the characters in the entries, or one that is in none of them. -/
def Chosen (negated : Bool) (ms : List Member) (c : Char) : Prop :=
  (∃ m ∈ ms, m.Contains c) ↔ negated = false

theorem admits_set {negated : Bool} {ms : List Member} {c : Char} :
    (Piece.set negated ms).admits c = true ↔ Chosen negated ms c := by
  have any : ms.any (Member.holds c) = true ↔ ∃ m ∈ ms, m.Contains c := by
    simp only [List.any_eq_true, Member.holds_iff]
  rw [Piece.admits, Chosen, ← any]
  cases ms.any (Member.holds c) <;> cases negated <;> simp

/-- Without entries every character is outside. -/
theorem admits_negatedSet {ms : List Member} {c : Char} :
    (negatedSet ms).admits c = true ↔ Chosen true ms c := by
  cases ms with
  | nil => simp [negatedSet, Piece.admits, Chosen]
  | cons m rest => exact admits_set

/-- Ranges that run backwards make no difference to what is chosen. -/
theorem chosen_filter {negated : Bool} {ms : List Member} {c : Char} :
    Chosen negated (ms.filter Member.isProper) c ↔ Chosen negated ms c := by
  have same : (∃ m ∈ ms.filter Member.isProper, m.Contains c) ↔ ∃ m ∈ ms, m.Contains c := by
    constructor
    · rintro ⟨m, member, contains⟩
      exact ⟨m, (List.mem_filter.1 member).1, contains⟩
    · rintro ⟨m, member, contains⟩
      refine ⟨m, List.mem_filter.2 ⟨member, ?_⟩, contains⟩
      by_contra improper
      have backward := Member.isProper_eq_false_iff.1 (Bool.eq_false_iff.2 improper)
      exact backward.not_contains c contains
  rw [Chosen, Chosen, same]

theorem filter_backward {backward : List Member} (passedOver : ∀ m ∈ backward, m.IsBackward)
    (rest : List Member) :
    (backward ++ rest).filter Member.isProper = rest.filter Member.isProper := by
  have none : backward.filter Member.isProper = [] := by
    rw [List.filter_eq_nil_iff]
    intro m member
    rw [Member.isProper_eq_false_iff.2 (passedOver m member)]
    exact Bool.false_ne_true
  rw [List.filter_append, none, List.nil_append]

theorem setPiece_marked (rest : Text) :
    setPiece ('!' :: rest) = negatedSet ((members rest).filter Member.isProper) := rfl

/-- The piece of a set that does not begin with the mark, from the entries that are not passed
over. -/
def unmarkedPiece : List Member → Piece
  | .single d :: more =>
      if d = negation then negatedSet more else .set false (.single d :: more)
  | .range first last :: more =>
      if first = negation then .set true (.single '-' :: .single last :: more)
      else .set false (.range first last :: more)
  | [] => .set false []

theorem unmarkedPiece_single (more : List Member) :
    unmarkedPiece (.single '!' :: more) = negatedSet more := rfl

theorem unmarkedPiece_range (last : Char) (more : List Member) :
    unmarkedPiece (.range '!' last :: more) = .set true (.single '-' :: .single last :: more) := rfl

theorem setPiece_of_unmarked {body : Text} (unmarked : body.head? ≠ some '!') :
    setPiece body = unmarkedPiece ((members body).filter Member.isProper) := by
  cases body with
  | nil => rfl
  | cons c rest =>
      have other : ¬ c = negation := fun mark => unmarked (congrArg some mark)
      rw [setPiece, if_neg other]
      cases (members (c :: rest)).filter Member.isProper with
      | nil => rfl
      | cons m more => cases m <;> rfl

/-- Entries that are left over when others are passed over were there behind those. -/
theorem exists_backward {ms more : List Member} {m : Member}
    (left : ms.filter Member.isProper = m :: more) :
    ∃ backward rest, ms = backward ++ m :: rest ∧ (∀ b ∈ backward, b.IsBackward) ∧
      m.isProper = true := by
  obtain ⟨backward, rest, rfl, passedOver, proper, -⟩ := List.filter_eq_cons_iff.1 left
  refine ⟨backward, rest, rfl, fun b member => ?_, proper⟩
  exact Member.isProper_eq_false_iff.1 (Bool.eq_false_iff.2 (passedOver b member))

/-- If no mark is hidden, the entries that are left over are those of the set. -/
theorem unmarkedPiece_of_not_hides {ms : List Member} (hidesNone : ∀ left, ¬ Hides ms left) :
    unmarkedPiece (ms.filter Member.isProper) = .set false (ms.filter Member.isProper) := by
  cases left : ms.filter Member.isProper with
  | nil => rfl
  | cons m more =>
      obtain ⟨backward, rest, rfl, passedOver, proper⟩ := exists_backward left
      cases m with
      | single d =>
          refine if_neg ?_
          rintro rfl
          exact hidesNone rest (.alone passedOver rest)
      | range first last =>
          refine if_neg ?_
          rintro rfl
          exact hidesNone _ (.range passedOver (Member.isProper_range.1 proper) rest)

/-- **A set admits the characters in its entries, or those outside them if it is negated.** -/
theorem Reads.admits_iff {body : Text} {negated : Bool} {ms : List Member}
    (reads : Reads body negated ms) {c : Char} :
    (setPiece body).admits c = true ↔ Chosen negated ms c := by
  cases reads with
  | marked spells =>
      rw [setPiece_marked, admits_negatedSet, chosen_filter, spells_iff.1 spells]
  | plain unmarked spells hidesNone =>
      rw [setPiece_of_unmarked unmarked, spells_iff.1 spells, unmarkedPiece_of_not_hides hidesNone,
        admits_set, chosen_filter]
  | hidden unmarked spells hides =>
      rw [setPiece_of_unmarked unmarked, spells_iff.1 spells]
      cases hides with
      | alone passedOver left =>
          rw [filter_backward passedOver, List.filter_cons_of_pos rfl,
            unmarkedPiece_single, admits_negatedSet, chosen_filter]
      | @range backward passedOver last proper left =>
          have kept : (.single '-' :: .single last :: left : List Member).filter Member.isProper =
              .single '-' :: .single last :: left.filter Member.isProper := rfl
          rw [filter_backward passedOver, List.filter_cons_of_pos (Member.isProper_range.2 proper),
            unmarkedPiece_range, ← kept, admits_set, chosen_filter]

theorem admits_setPiece_iff {body : Text} {c : Char} :
    (setPiece body).admits c = true ↔ ∃ negated ms, Reads body negated ms ∧ Chosen negated ms c := by
  constructor
  · intro admitted
    obtain ⟨negated, ms, reads⟩ := exists_reads body
    exact ⟨negated, ms, reads, reads.admits_iff.1 admitted⟩
  · rintro ⟨negated, ms, reads, chosen⟩
    exact reads.admits_iff.2 chosen

/-- A set stands for one character. -/
theorem setPiece_ne_any (body : Text) : setPiece body ≠ .any := by
  unfold setPiece negatedSet
  repeat' split
  all_goals exact Piece.noConfusion

end Glob
end LineCensus
