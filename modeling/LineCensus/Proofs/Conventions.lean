/-
# Proofs.Conventions -- which names follow a convention

The conventions are told here without the functions that recognise them, by the letters and
digits of ASCII: `SnakeName`, `CamelName`, `MixedName`.  Two of the recognisers pass over one line
feed at the end of a name, so they also take a name with a line feed behind it, which does not
follow the convention itself (`count_eq`).  Nothing else sets them apart from the conventions.

* `names_counted`: what each counter counts, for the files of a list and of two lists in one, and
  which counters exclude each other.
* `not_every_counted_name_follows`: a name with a line feed behind it is counted.
-/
import LineCensus.Listing.Naming
import Mathlib.Data.List.Basic

set_option autoImplicit false

namespace LineCensus
namespace Naming

/-! ## Letters -/

/-- A capital letter of ASCII. -/
def IsCapital (c : Char) : Prop := 'A' ≤ c ∧ c ≤ 'Z'

/-- A small letter of ASCII. -/
def IsSmall (c : Char) : Prop := 'a' ≤ c ∧ c ≤ 'z'

/-- A digit of ASCII. -/
def IsNumeral (c : Char) : Prop := '0' ≤ c ∧ c ≤ '9'

instance : DecidablePred IsCapital := fun _ => inferInstanceAs (Decidable (_ ∧ _))
instance : DecidablePred IsSmall := fun _ => inferInstanceAs (Decidable (_ ∧ _))
instance : DecidablePred IsNumeral := fun _ => inferInstanceAs (Decidable (_ ∧ _))

theorem isUpper_iff {c : Char} : c.isUpper = true ↔ IsCapital c :=
  decide_eq_true_iff

theorem isLower_iff {c : Char} : c.isLower = true ↔ IsSmall c := by
  change (decide ('a' ≤ c) && decide (c ≤ 'z')) = true ↔ _
  rw [Bool.and_eq_true, decide_eq_true_iff, decide_eq_true_iff, IsSmall]

theorem isDigit_iff {c : Char} : c.isDigit = true ↔ IsNumeral c := by
  change (decide ('0' ≤ c) && decide (c ≤ '9')) = true ↔ _
  rw [Bool.and_eq_true, decide_eq_true_iff, decide_eq_true_iff, IsNumeral]

theorem isAlphanum_iff {c : Char} :
    c.isAlphanum = true ↔ IsCapital c ∨ IsSmall c ∨ IsNumeral c := by
  change ((c.isUpper || c.isLower) || c.isDigit) = true ↔ _
  rw [Bool.or_eq_true, Bool.or_eq_true, isUpper_iff, isLower_iff, isDigit_iff, or_assoc]

/-! ## Conventions -/

/-- A character of one class, and behind it characters of another. -/
def HeadThen (first others : Char → Prop) : Text → Prop
  | [] => False
  | c :: rest => first c ∧ ∀ d ∈ rest, others d

/-- A small letter, and behind it small letters, digits and underscores. -/
def SnakeName : Text → Prop :=
  HeadThen IsSmall fun c => IsSmall c ∨ IsNumeral c ∨ c = '_'

/-- A capital letter, and behind it letters and digits. -/
def CamelName : Text → Prop :=
  HeadThen IsCapital fun c => IsCapital c ∨ IsSmall c ∨ IsNumeral c

/-- A capital and a small letter. -/
def MixedName (name : Text) : Prop :=
  (∃ c ∈ name, IsCapital c) ∧ ∃ c ∈ name, IsSmall c

/-- A name that follows a convention, with a line feed behind it. -/
def FeedBehind (follows : Text → Prop) (name : Text) : Prop :=
  name.getLast? = some '\n' ∧ follows name.dropLast

-- A search of the name decides what holds of all its characters; without its name, the instance
-- that goes through all characters there are can be found first.
instance (first others : Char → Prop) [DecidablePred first] [DecidablePred others] :
    DecidablePred (HeadThen first others)
  | [] => inferInstanceAs (Decidable False)
  | _ :: rest => @instDecidableAnd _ _ inferInstance (List.decidableBAll others rest)

instance : DecidablePred SnakeName := fun _ => inferInstanceAs (Decidable (HeadThen _ _ _))
instance : DecidablePred CamelName := fun _ => inferInstanceAs (Decidable (HeadThen _ _ _))
instance : DecidablePred MixedName := fun name =>
  @instDecidableAnd _ _ (List.decidableBEx IsCapital name) (List.decidableBEx IsSmall name)

instance (follows : Text → Prop) [DecidablePred follows] : DecidablePred (FeedBehind follows) :=
  fun _ => inferInstanceAs (Decidable (_ ∧ _))

theorem isSnakeCase_iff {name : Text} :
    isSnakeCase name = true ↔ SnakeName (dropFinalBreak name) := by
  unfold isSnakeCase
  cases dropFinalBreak name with
  | nil => simp [SnakeName, HeadThen]
  | cons c rest =>
      simp [SnakeName, HeadThen, isSnakeChar, isLower_iff, isDigit_iff, or_assoc]

theorem isCamelCase_iff {name : Text} :
    isCamelCase name = true ↔ CamelName (dropFinalBreak name) := by
  unfold isCamelCase
  cases dropFinalBreak name with
  | nil => simp [CamelName, HeadThen]
  | cons c rest =>
      simp [CamelName, HeadThen, isUpper_iff, isAlphanum_iff]

theorem isMixedCase_iff {name : Text} : isMixedCase name = true ↔ MixedName name := by
  simp [isMixedCase, MixedName, isUpper_iff, isLower_iff]

/-- What is in neither class is not in the name. -/
theorem HeadThen.not_mem {first others : Char → Prop} {name : Text}
    (follows : HeadThen first others name) {c : Char} (notFirst : ¬ first c)
    (notOther : ¬ others c) : c ∉ name := by
  intro member
  cases name with
  | nil => cases member
  | cons head rest =>
      rcases List.mem_cons.1 member with rfl | member
      · exact notFirst follows.1
      · exact notOther (follows.2 c member)

theorem SnakeName.no_feed (name : Text) (snake : SnakeName name) : '\n' ∉ name :=
  HeadThen.not_mem snake (by decide) (by decide)

theorem CamelName.no_feed (name : Text) (camel : CamelName name) : '\n' ∉ name :=
  HeadThen.not_mem camel (by decide) (by decide)

theorem not_isSmall_of_isCapital {c : Char} (capital : IsCapital c) : ¬ IsSmall c := by
  intro small
  have between : 'a' ≤ 'Z' := Char.le_trans small.1 capital.2
  exact absurd between (by decide)

theorem not_isNumeral_of_isCapital {c : Char} (capital : IsCapital c) : ¬ IsNumeral c := by
  intro numeral
  have between : 'A' ≤ '9' := Char.le_trans capital.1 numeral.2
  exact absurd between (by decide)

/-- No name in snake case has a capital letter. -/
theorem SnakeName.not_mem_of_isCapital {name : Text} (snake : SnakeName name) {c : Char}
    (capital : IsCapital c) : c ∉ name := by
  apply HeadThen.not_mem snake (not_isSmall_of_isCapital capital)
  rintro (small | numeral | rfl)
  · exact not_isSmall_of_isCapital capital small
  · exact not_isNumeral_of_isCapital capital numeral
  · exact absurd capital (by decide)

theorem CamelName.exists_capital {name : Text} (camel : CamelName name) :
    ∃ c ∈ name, IsCapital c := by
  cases name with
  | nil => exact camel.elim
  | cons head rest => exact ⟨head, List.mem_cons_self, camel.1⟩

/-! ## One line feed at the end -/

theorem mem_dropFinalBreak {name : Text} {c : Char} (member : c ∈ name) (noFeed : c ≠ '\n') :
    c ∈ dropFinalBreak name := by
  unfold dropFinalBreak
  split
  · rename_i ends
    obtain ⟨before, rfl⟩ := List.getLast?_eq_some_iff.1 ends
    simpa [noFeed] using member
  · exact member

/-- Without its line feed, a name follows a convention that knows no line feeds if it does so as it
is, or has the line feed behind it; not both. -/
theorem dropFinalBreak_iff {follows : Text → Prop} (noFeed : ∀ name, follows name → '\n' ∉ name)
    (name : Text) :
    (follows (dropFinalBreak name) ↔ follows name ∨ FeedBehind follows name) ∧
      ¬ (follows name ∧ FeedBehind follows name) := by
  have apart : ¬ (follows name ∧ FeedBehind follows name) := by
    rintro ⟨whole, ends, -⟩
    exact noFeed name whole (List.mem_of_getLast? ends)
  refine ⟨?_, apart⟩
  unfold dropFinalBreak
  split
  · rename_i ends
    have broken : ¬ follows name := fun whole => noFeed name whole (List.mem_of_getLast? ends)
    simp [FeedBehind, ends, broken]
  · rename_i ends
    simp [FeedBehind, ends]

end Naming

namespace NamingCounts

open Naming

variable {convention : Text → Bool} {follows : Text → Prop} [DecidablePred follows]

theorem count_append (convention : Text → Bool) (first second : List ListedFile) :
    count convention (first ++ second) = count convention first + count convention second := by
  simp only [count, List.countP_append, Int.natCast_add]

/-- A recogniser that passes over a line feed counts the names that follow its convention, and
those that do with a line feed behind them. -/
theorem count_eq (recognises : ∀ name, convention name = true ↔ follows (dropFinalBreak name))
    (noFeed : ∀ name, follows name → '\n' ∉ name) (files : List ListedFile) :
    count convention files = count (follows ·) files + count (FeedBehind follows ·) files := by
  induction files with
  | nil => rfl
  | cons file rest ih =>
      obtain ⟨either, apart⟩ := dropFinalBreak_iff noFeed file.stem.toList
      rw [← recognises] at either
      simp only [count, List.countP_cons, decide_eq_true_eq] at ih ⊢
      by_cases whole : follows file.stem.toList
      · have notBehind : ¬ FeedBehind follows file.stem.toList := fun behind =>
          apart ⟨whole, behind⟩
        simp [either, whole, notBehind]
        omega
      · by_cases behind : FeedBehind follows file.stem.toList
        · simp [either, whole, behind]
          omega
        · simp [either, whole, behind]
          omega

theorem count_eq_zero_iff {convention : Text → Bool} {files : List ListedFile} :
    count convention files = 0 ↔ ∀ file ∈ files, ¬ convention file.stem.toList = true := by
  simp [count, List.countP_eq_zero]

/-- The counts of two lists in one. -/
def plus (first second : NamingCounts) : NamingCounts where
  snakeCase := first.snakeCase + second.snakeCase
  camelCase := first.camelCase + second.camelCase
  mixedCase := first.mixedCase + second.mixedCase
  withNumbers := first.withNumbers + second.withNumbers
  testFiles := first.testFiles + second.testFiles
  specFiles := first.specFiles + second.specFiles

theorem ofFiles_append (first second : List ListedFile) :
    ofFiles (first ++ second) = (ofFiles first).plus (ofFiles second) := by
  simp only [ofFiles, plus, count_append]

/-- A file that counts as snake case has no capital letter, and counts as nothing that needs
one. -/
theorem not_both (file : ListedFile) :
    (ofFiles [file]).snakeCase = 0 ∨
      (ofFiles [file]).camelCase = 0 ∧ (ofFiles [file]).mixedCase = 0 := by
  simp only [ofFiles, count_eq_zero_iff, List.forall_mem_singleton, isSnakeCase_iff,
    isCamelCase_iff, isMixedCase_iff]
  by_cases snake : SnakeName (dropFinalBreak file.stem.toList)
  · right
    constructor
    · intro camel
      obtain ⟨c, member, capital⟩ := camel.exists_capital
      exact snake.not_mem_of_isCapital capital member
    · rintro ⟨⟨c, member, capital⟩, -⟩
      have noFeed : c ≠ '\n' := by
        rintro rfl
        exact absurd capital (by decide)
      exact snake.not_mem_of_isCapital capital (mem_dropFinalBreak member noFeed)
  · exact .inl snake

/-- **What the counters of names count.**  As mixed case, the names with a capital and a small
letter; as snake case and camel case, the names that follow the convention and those that do with a
line feed behind them, and so just the former if no file has a name of the latter kind.  The counts
of two lists add up, counter by counter, and no file counts both as snake case and as camel case
or mixed case. -/
theorem names_counted (files : List ListedFile) :
    (ofFiles files).snakeCase =
      count (SnakeName ·) files + count (FeedBehind SnakeName ·) files ∧
    ((ofFiles files).snakeCase = count (SnakeName ·) files ↔
      ∀ file ∈ files, ¬ FeedBehind SnakeName file.stem.toList) ∧
    (ofFiles files).camelCase =
      count (CamelName ·) files + count (FeedBehind CamelName ·) files ∧
    ((ofFiles files).camelCase = count (CamelName ·) files ↔
      ∀ file ∈ files, ¬ FeedBehind CamelName file.stem.toList) ∧
    (ofFiles files).mixedCase = count (MixedName ·) files ∧
    (∀ more, ofFiles (files ++ more) = (ofFiles files).plus (ofFiles more)) ∧
    ∀ file, (ofFiles [file]).snakeCase = 0 ∨
      (ofFiles [file]).camelCase = 0 ∧ (ofFiles [file]).mixedCase = 0 := by
  have snake := count_eq (fun name => isSnakeCase_iff) SnakeName.no_feed files
  have camel := count_eq (fun name => isCamelCase_iff) CamelName.no_feed files
  have none_behind (follows : Text → Prop) [DecidablePred follows] :
      count (FeedBehind follows ·) files = 0 ↔
        ∀ file ∈ files, ¬ FeedBehind follows file.stem.toList := by
    simp [count_eq_zero_iff]
  refine ⟨snake, ?_, camel, ?_, ?_, ofFiles_append files, not_both⟩
  · rw [← none_behind]
    change count isSnakeCase files = _ ↔ _
    rw [snake]
    omega
  · rw [← none_behind]
    change count isCamelCase files = _ ↔ _
    rw [camel]
    omega
  · have same : Naming.isMixedCase = fun name => decide (MixedName name) := by
      funext name
      rw [Bool.eq_iff_iff, isMixedCase_iff, decide_eq_true_iff]
    rw [ofFiles, same]

/-- A file whose name before the point is a letter and a line feed. -/
def fedFile (letter : String) : ListedFile where
  path := "/" ++ letter ++ "\n.rb"
  size := 0
  extension := ".rb"
  directory := "/"
  basename := letter ++ "\n.rb"

/-- Not every name that is counted follows its convention, neither in snake case nor in camel
case. -/
theorem not_every_counted_name_follows :
    (¬ ∀ files : List ListedFile, (ofFiles files).snakeCase = count (SnakeName ·) files) ∧
    ¬ ∀ files : List ListedFile, (ofFiles files).camelCase = count (CamelName ·) files := by
  constructor
  · intro follows
    have counted : (ofFiles [fedFile "x"]).snakeCase = 1 := by decide +kernel
    have none : count (SnakeName ·) [fedFile "x"] = 0 := by decide +kernel
    rw [follows, none] at counted
    exact absurd counted (by decide)
  · intro follows
    have counted : (ofFiles [fedFile "X"]).camelCase = 1 := by decide +kernel
    have none : count (CamelName ·) [fedFile "X"] = 0 := by decide +kernel
    rw [follows, none] at counted
    exact absurd counted (by decide)

/-- A name that is counted twice, as `Test123` in camel and in mixed case, and one with an accent
that is in neither. -/
example :
    isCamelCase "Test123".toList = true ∧ isMixedCase "Test123".toList = true ∧
      isCamelCase "\u00c9tat".toList = false ∧ isMixedCase "\u00c9tat".toList = false := by
  decide

end NamingCounts
end LineCensus
