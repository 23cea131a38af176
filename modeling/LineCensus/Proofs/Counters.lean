/-
# Proofs.Counters -- the counters of a file bound each other

The counters of a measure are kept apart: lines are counted by kind, declarations by tag,
lengths and depth come from the tracker and complexity from the text.  They still bound each
other, because a line has one role.  It opens a method, a class or a module, or it closes a
block, or it does none of these (`Line.roles_classify`), and only code has a role.

* `Accounts.feedFrom`: what the tracker holds is paid for by lines it has seen.  A closed
  extent has its own closing line and, with what is open, its own opening line; no depth is
  larger than the number of openings.
* `Line.branches_classify`: a line that begins with a branch has a decision point.
* `FileMeasure.counters_ofLines`: the bounds of one file.
-/
import LineCensus.Proofs.Extents
import LineCensus.Proofs.Indentation

set_option autoImplicit false

namespace LineCensus

/-! ## One line -/

/-- The block keywords that branch or loop. -/
def conditionWords : List Text :=
  ["if", "unless", "while", "until", "for", "case"].map String.toList

theorem wordPoints_of_conditionWords {word : Text} (condition : word ∈ conditionWords) :
    wordPoints word = 1 := by
  have all : ∀ w ∈ conditionWords, w ∈ pointWords := by decide
  exact if_pos (all word condition)

/-- What a trimmed line can be: a keyword is the first word of the line, and the keyword of
a class or a method is its own. -/
theorem LineTag.ofTrimmed_cases (text : Text) :
    ofTrimmed text = (.closesBlock, none) ∨ ofTrimmed text = (.plain, none) ∨
      ∃ word, blockWord? text = some word ∧
        (ofTrimmed text = (.opensBlock, some word) ∨
          ofTrimmed text = (.opensClass, some word) ∧ word = classWord ∨
          ofTrimmed text = (.opensMethod, some word) ∧ word = methodWord) := by
  unfold ofTrimmed
  split
  · exact .inl rfl
  split
  · exact .inr (.inl rfl)
  rename_i word found
  refine .inr (.inr ⟨word, found, ?_⟩)
  split
  · rename_i isClass
    exact .inr (.inl ⟨rfl, isClass.1⟩)
  split
  · rename_i isMethod
    exact .inr (.inr ⟨rfl, isMethod.1⟩)
  · exact .inl rfl

namespace Line

/-- The line begins with a branch or a loop. -/
def branches (line : Line) : Bool :=
  line.keyword.any conditionWords.contains

/-- How many of the roles that are counted a line has. -/
def roles (line : Line) : Nat :=
  (if line.tag = .opensMethod then 1 else 0) + (if line.tag = .opensClass then 1 else 0) +
    (if line.declaresModule = true then 1 else 0) + (if line.tag = .closesBlock then 1 else 0)

/-- A line without code has no tag, and a line of code has that of its trimmed text. -/
theorem classify_cases (text : Text) :
    ((classify text).kind ≠ .code ∧ (classify text).tag = .plain ∧
        (classify text).keyword = none) ∨
      ((classify text).kind = .code ∧
        LineTag.ofTrimmed text.trim = ((classify text).tag, (classify text).keyword)) := by
  rw [← Text.trim_withoutEnd text]
  simp only [classify]
  split
  · exact .inl ⟨by simp, rfl, rfl⟩
  split
  · exact .inl ⟨by simp, rfl, rfl⟩
  · exact .inr ⟨rfl, rfl⟩

/-- A line has at most one role, and none if it is no code. -/
theorem roles_classify (text : Text) :
    (classify text).roles ≤ if (classify text).kind = .code then 1 else 0 := by
  rcases classify_cases text with ⟨noCode, tag, keyword⟩ | ⟨code, ofTrimmed⟩
  · simp [roles, declaresModule, tag, keyword]
  · rw [if_pos code]
    rcases LineTag.ofTrimmed_cases text.trim with
      given | given | ⟨word, -, given | ⟨given, rfl⟩ | ⟨given, rfl⟩⟩
    all_goals
      rw [ofTrimmed, Prod.mk.injEq] at given
      simp only [roles, declaresModule, given]
    · decide
    · decide
    · simp only [reduceCtorEq, if_false]
      split <;> simp
    · decide
    · decide

/-- Only a line of code opens a block. -/
theorem code_of_opens {text : Text} (opens : (classify text).tag.opens = true) :
    (classify text).kind = .code := by
  rcases classify_cases text with ⟨-, tag, -⟩ | ⟨code, -⟩
  · simp [tag, LineTag.opens] at opens
  · exact code

/-- The keyword of a line is its first word. -/
theorem takeWhile_of_keyword {text word : Text} (keyword : (classify text).keyword = some word) :
    text.trim.takeWhile isWord = word := by
  have letters := letters_of_all (by decide +kernel : blockWords.all (·.all isWord) = true)
  rcases classify_cases text with ⟨-, -, none⟩ | ⟨-, ofTrimmed⟩
  · rw [none] at keyword
    cases keyword
  · have found : blockWord? text.trim = some word := by
      rcases LineTag.ofTrimmed_cases text.trim with
        given | given | ⟨word', found, given | ⟨given, -⟩ | ⟨given, -⟩⟩
      all_goals
        rw [ofTrimmed, keyword, Prod.mk.injEq] at given
        obtain ⟨-, same⟩ := given
        cases same
      all_goals exact found
    have head : word.headIs text.trim = true :=
      List.find?_some (p := fun (word : Text) => word.headIs text.trim) found
    exact (headIs_iff (letters word (List.mem_of_find?_eq_some found)) _).1 head

/-- A line that begins with a branch has a decision point. -/
theorem branches_classify (text : Text) :
    (if (classify text).branches = true then 1 else 0) ≤ decisionPoints (classify text).raw := by
  split
  · rename_i begins
    obtain ⟨word, keyword, condition⟩ := (Option.any_eq_true _ _).1 begins
    have first := wordPoints_of_conditionWords (List.contains_iff_mem.1 condition)
    rw [← takeWhile_of_keyword keyword] at first
    rw [decisionPoints_raw, runDecisions, Text.weigh_eq (by decide), first]
    omega
  · exact Nat.zero_le _

end Line

/-! ## The tracker -/

/-- What a tracker holds is paid for by the lines it has seen. -/
structure Accounts (lines : List Line) (t : Tracker) : Prop where
  /-- Every extent has a closing line of its own. -/
  closed : t.closed.length ≤ closings lines
  /-- Every block of a kind, closed or open, has an opening line of its own. -/
  begun : ∀ kind, t.closed.countP (·.kind = kind) + t.openBlocks.countP (·.kind = kind) ≤
    lines.countP (·.tag = kind.openingTag)
  depth : t.depth ≤ openings lines
  maxDepth : t.maxDepth ≤ openings lines

namespace Accounts

variable {lines : List Line} {t : Tracker}

theorem empty : Accounts [] {} :=
  ⟨Nat.le_refl 0, fun _ => Nat.le_refl 0, Nat.le_refl 0, Nat.le_refl 0⟩

/-- A line that is not counted changes nothing. -/
theorem skip (accounts : Accounts lines t) (line : Line) : Accounts (lines ++ [line]) t where
  closed := by
    rw [closings_snoc]
    exact Nat.le_trans accounts.closed (Nat.le_add_right _ _)
  begun kind := by
    rw [List.countP_append]
    exact Nat.le_trans (accounts.begun kind) (Nat.le_add_right _ _)
  depth := by
    rw [openings_snoc]
    exact Nat.le_trans accounts.depth (Nat.le_add_right _ _)
  maxDepth := by
    rw [openings_snoc]
    exact Nat.le_trans accounts.maxDepth (Nat.le_add_right _ _)

theorem enter (accounts : Accounts lines t) {line : Line} (opens : line.tag.opens = true)
    (number : Int) : Accounts (lines ++ [line]) (t.enter line.tag.extentKind? number) := by
  have depth := accounts.depth
  have maxDepth := accounts.maxDepth
  refine ⟨(accounts.skip line).closed, fun kind => ?begun, ?depth, ?maxDepth⟩
  case begun =>
    have begun := accounts.begun kind
    rw [List.countP_append, List.countP_singleton]
    cases begins : line.tag.extentKind? with
    | none => exact Nat.le_trans begun (Nat.le_add_right _ _)
    | some kind' =>
        rw [extentKind?_eq_some_iff] at begins
        simp only [Tracker.enter, List.countP_cons, begins]
        by_cases same : kind' = kind
        · subst same
          simp only [decide_true, if_true]
          omega
        · simp only [same, decide_false, Bool.false_eq_true, if_false]
          omega
  case depth =>
    rw [openings_snoc, if_pos opens]
    exact Nat.succ_le_succ depth
  case maxDepth =>
    rw [openings_snoc, if_pos opens]
    simp only [Tracker.enter]
    omega

theorem leave (accounts : Accounts lines t) {line : Line} (closes : line.tag = .closesBlock)
    (number : Int) : Accounts (lines ++ [line]) (t.leave number) := by
  have kept := accounts.skip line
  have more : closings (lines ++ [line]) = closings lines + 1 := by
    rw [closings_snoc, if_pos closes]
  have lower : t.depth - 1 ≤ openings (lines ++ [line]) := by
    have := kept.depth
    omega
  unfold Tracker.leave
  split
  · rename_i block outer shape
    split
    · -- The block that is closed was paid for when it was opened.
      refine ⟨?_, fun kind => ?_, lower, kept.maxDepth⟩
      · rw [more]
        exact Nat.succ_le_succ accounts.closed
      · have begun := kept.begun kind
        rw [shape] at begun
        simp only [List.countP_cons] at begun ⊢
        omega
    · exact ⟨kept.closed, kept.begun, lower, kept.maxDepth⟩
  · exact ⟨kept.closed, kept.begun, lower, kept.maxDepth⟩

/-- **The account is kept by every line.** -/
theorem feed (accounts : Accounts lines t) (line : Line) (number : Int) :
    Accounts (lines ++ [line]) (t.feed line.tag number) := by
  unfold Tracker.feed
  split
  · rename_i opens
    exact accounts.enter opens number
  split
  · rename_i closes
    exact accounts.leave closes number
  · exact accounts.skip line

theorem feedFrom (accounts : Accounts lines t) (number : Int) (rest : List Line) :
    Accounts (lines ++ rest) (t.feedFrom number rest) := by
  induction rest generalizing lines t number with
  | nil => simpa [Tracker.feedFrom] using accounts
  | cons line rest ih =>
      have after := ih (accounts.feed line number) (number + 1)
      rwa [List.append_assoc, List.singleton_append] at after

theorem ofLines (lines : List Line) : Accounts lines (({} : Tracker).feedFrom 1 lines) :=
  empty.feedFrom 1 lines

end Accounts

/-! ## One file -/

/-- How many lines begin with a branch or a loop. -/
def branchings (lines : List Line) : Nat :=
  lines.countP Line.branches

/-- No line has two roles, so the roles together are no more than the lines of code. -/
theorem roles_le_code (texts : List Text) :
    let lines := texts.map Line.classify
    lines.countP (·.tag = .opensMethod) + lines.countP (·.tag = .opensClass) +
      lines.countP Line.declaresModule + closings lines ≤ lines.countP (·.kind = .code) := by
  induction texts with
  | nil => exact Nat.le_refl 0
  | cons text rest ih =>
      have first := Line.roles_classify text
      unfold Line.roles at first
      simp only [closings] at ih ⊢
      simp only [List.map_cons, List.countP_cons, decide_eq_true_eq]
      omega

theorem openings_le_code (texts : List Text) :
    openings (texts.map Line.classify) ≤
      (texts.map Line.classify).countP (·.kind = .code) := by
  refine List.countP_mono_left fun line member opens => ?_
  obtain ⟨text, -, rfl⟩ := List.mem_map.1 member
  exact decide_eq_true (Line.code_of_opens opens)

/-- Every line that begins with a branch is counted in the complexity. -/
theorem branchings_le (texts : List Text) :
    branchings (texts.map Line.classify) ≤
      sumNat ((texts.map Line.classify).map (decisionPoints ·.raw)) := by
  induction texts with
  | nil => exact Nat.le_refl 0
  | cons text rest ih =>
      have first := Line.branches_classify text
      rw [branchings] at ih ⊢
      simp only [List.map_cons, List.countP_cons, sumNat_cons]
      omega

theorem length_kinds (lines : List Line) :
    lines.length = lines.countP (·.kind = .code) + lines.countP (·.kind = .comment) +
      lines.countP (·.kind = .blank) := by
  induction lines with
  | nil => rfl
  | cons line rest ih =>
      simp only [List.length_cons, List.countP_cons, ih]
      cases line.kind <;> simp <;> omega

theorem length_extents (extents : List Extent) :
    extents.length = extents.countP (·.kind = .method) + extents.countP (·.kind = .classBody) := by
  induction extents with
  | nil => rfl
  | cons extent rest ih =>
      simp only [List.length_cons, List.countP_cons, ih]
      cases extent.kind <;> simp <;> omega

/-- Every extent is at least two lines long and lies within the file. -/
theorem length_of_mem_extents {lines : List Line} {extent : Extent}
    (member : extent ∈ (Tracker.ofLines lines).extents) :
    2 ≤ extent.length ∧ extent.length ≤ lines.length := by
  obtain ⟨kind, first, last, rfl, spans⟩ := (mem_extents_iff lines extent).1 member
  have least := (tagAt?_eq_some spans.opens).1
  have most := (tagAt?_eq_some spans.closes).2
  have ordered := spans.ordered
  simp only [Extent.length]
  omega

/-- How the numbers of a measure bound each other. -/
structure FileMeasure.Bounded (measure : FileMeasure) (branchings : Int) : Prop where
  lines : 0 ≤ measure.totalLines
  code : 0 ≤ measure.codeLines
  kinds : measure.totalLines = measure.codeLines + measure.commentLines + measure.blankLines
  roles : measure.methodDeclarations + measure.classDeclarations + measure.moduleDeclarations +
    measure.methodLengths.length + measure.classSizes.length ≤ measure.codeLines
  methods : measure.methodLengths.length ≤ measure.methodDeclarations
  classes : measure.classSizes.length ≤ measure.classDeclarations
  methodLengths : ∀ n ∈ measure.methodLengths, 2 ≤ n ∧ n ≤ measure.totalLines
  classSizes : ∀ n ∈ measure.classSizes, 2 ≤ n ∧ n ≤ measure.totalLines
  nesting : measure.maxNestingDepth ≤ measure.codeLines
  complexity : 1 + branchings ≤ measure.complexity

namespace FileMeasure

variable (lines : List Line)

/-- How many lengths of a kind there are. -/
theorem length_lengths (kind : Extent.Kind) :
    ((Extent.ofKind kind (Tracker.ofLines lines).extents).map Extent.length).length =
      (({} : Tracker).feedFrom 1 lines).closed.countP (·.kind = kind) := by
  rw [List.length_map, Extent.ofKind, ← List.countP_eq_length_filter, Tracker.extents,
    List.countP_reverse, Tracker.ofLines, Tracker.finish]

theorem bounds_of_mem_lengths {kind : Extent.Kind} {n : Int}
    (member : n ∈ (Extent.ofKind kind (Tracker.ofLines lines).extents).map Extent.length) :
    2 ≤ n ∧ n ≤ lines.length := by
  obtain ⟨extent, found, rfl⟩ := List.mem_map.1 member
  exact length_of_mem_extents (List.mem_of_mem_filter found)

/-- **The numbers of one file bound each other.** -/
theorem bounded_ofLines (path : String) (texts : List Text) :
    (ofLines path (texts.map Line.classify)).Bounded (branchings (texts.map Line.classify)) := by
  have roles := roles_le_code texts
  have opened := openings_le_code texts
  have branches := branchings_le texts
  generalize texts.map Line.classify = lines at roles opened branches ⊢
  have accounts := Accounts.ofLines lines
  have methods : _ ≤ lines.countP (·.tag = .opensMethod) := accounts.begun .method
  have classes : _ ≤ lines.countP (·.tag = .opensClass) := accounts.begun .classBody
  have closed := accounts.closed
  have extents := length_extents (({} : Tracker).feedFrom 1 lines).closed
  refine ⟨Int.natCast_nonneg _, Int.natCast_nonneg _, ?kinds, ?roles, ?methods, ?classes,
    fun n => bounds_of_mem_lengths lines, fun n => bounds_of_mem_lengths lines, ?nesting,
    ?complexity⟩
  case kinds =>
    have kinds := length_kinds lines
    simp only [ofLines]
    omega
  case roles =>
    simp only [ofLines, length_lengths]
    omega
  case methods =>
    simp only [ofLines, length_lengths]
    omega
  case classes =>
    simp only [ofLines, length_lengths]
    omega
  case nesting => exact Int.ofNat_le.2 (Nat.le_trans accounts.maxDepth opened)
  case complexity =>
    simp only [ofLines, baseComplexity]
    omega

end FileMeasure
end LineCensus
