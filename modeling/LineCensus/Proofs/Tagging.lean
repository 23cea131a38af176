/-
# Proofs.Tagging -- what a line is by its first word

A line is classified by trying keywords in order, each as a word at the head of its trimmed
text.  This module says the same without trying: with `t` the trimmed text and `w` its first
run of word characters, the kind of the line is read off how `t` begins, and its tag and its
keyword off `w` and what follows it (`Line.Reads`).

* `blockWord?_eq`: the keyword that is found is the first run, if that is a keyword.
* `declaresClass_iff`, `declaresMethod_iff`: what has to follow `class` and `def`.  A trimmed
  text does not end with white space, so something follows the white space behind `def`.
* `Line.ofTrimmed_classify`: blank lines and comments have the tag of their text as well, since
  their first run is empty.
* `classify_exact`: every line is what it reads as.
-/
import LineCensus.Proofs.Counters

set_option autoImplicit false

namespace LineCensus

/-! ## The first word -/

theorem letters_blockWords : ∀ word ∈ blockWords, ∀ c ∈ word, isWord c = true :=
  letters_of_all (by decide +kernel)

/-- The keyword of a text is its first run of word characters, if that is a keyword. -/
theorem blockWord?_eq (text : Text) :
    blockWord? text =
      if text.takeWhile isWord ∈ blockWords then some (text.takeWhile isWord) else none := by
  have heads : ∀ word ∈ blockWords, word.headIs text = true ↔ text.takeWhile isWord = word :=
    fun word member => headIs_iff (letters_blockWords word member) text
  cases found : blockWord? text with
  | none =>
      have none_heads := List.find?_eq_none.1 found
      split
      · rename_i member
        exact absurd ((heads _ member).2 rfl) (none_heads _ member)
      · rfl
  | some word =>
      have member : word ∈ blockWords := List.mem_of_find?_eq_some found
      have head : word.headIs text = true :=
        List.find?_some (p := fun (word : Text) => word.headIs text) found
      rw [(heads word member).1 head, if_pos member]

/-- What begins with no word character has no keyword. -/
theorem not_mem_blockWords_nil : ([] : Text) ∉ blockWords := by decide

/-! ## What follows it -/

theorem head?_any_iff {p : Char → Bool} {text : Text} :
    text.head?.any p = true ↔ ∃ c rest, text = c :: rest ∧ p c = true := by
  cases text <;> simp

/-- White space, and then a character of a class that has no white space in it. -/
theorem blanksThen_iff {p : Char → Bool} (dark : ∀ c, p c = true → isBlank c = false)
    {text : Text} :
    blanksThen p text = true ↔
      ∃ blanks c rest, text = blanks ++ c :: rest ∧ blanks ≠ [] ∧
        (∀ b ∈ blanks, isBlank b = true) ∧ p c = true := by
  rw [blanksThen, Bool.and_eq_true, head?_any_iff, head?_any_iff]
  constructor
  · rintro ⟨⟨first, others, rfl, blank⟩, c, rest, behind, fits⟩
    refine ⟨(first :: others).takeWhile isBlank, c, rest, ?_, ?_, ?_, fits⟩
    · rw [← behind, List.takeWhile_append_dropWhile]
    · rw [List.takeWhile_cons_of_pos blank]
      exact List.cons_ne_nil _ _
    · intro b member
      exact List.mem_takeWhile_imp member
  · rintro ⟨blanks, c, rest, rfl, some_blank, allBlank, fits⟩
    constructor
    · cases blanks with
      | nil => exact absurd rfl some_blank
      | cons b others => exact ⟨b, others ++ c :: rest, rfl, allBlank b (by simp)⟩
    · refine ⟨c, rest, ?_, fits⟩
      rw [List.dropWhile_append_of_pos allBlank, List.dropWhile_cons_of_neg (by simp [dark c fits])]

theorem isPrefixOf_and_drop {word text : Text} {P : Text → Prop} :
    word.isPrefixOf text = true ∧ P (text.drop word.length) ↔
      ∃ behind, text = word ++ behind ∧ P behind := by
  rw [List.isPrefixOf_iff_prefix]
  constructor
  · rintro ⟨⟨behind, rfl⟩, holds⟩
    rw [List.drop_left] at holds
    exact ⟨behind, rfl, holds⟩
  · rintro ⟨behind, rfl, holds⟩
    rw [List.drop_left]
    exact ⟨List.prefix_append _ _, holds⟩

/-- An ASCII letter, an underscore or a colon. -/
def BeginsName (c : Char) : Prop :=
  ('a' ≤ c ∧ c ≤ 'z') ∨ ('A' ≤ c ∧ c ≤ 'Z') ∨ c = '_' ∨ c = ':'

theorem startsName_iff {c : Char} : startsName c = true ↔ BeginsName c := by
  have letter : c.isAlpha = (decide ('A' ≤ c ∧ c ≤ 'Z') ||
      decide ('a' ≤ c) && decide (c ≤ 'z')) := rfl
  simp only [startsName, BeginsName, letter, Bool.or_eq_true, Bool.and_eq_true, decide_eq_true_eq,
    beq_iff_eq]
  tauto

theorem not_isBlank_of_startsName {c : Char} (starts : startsName c = true) :
    isBlank c = false := by
  rw [startsName_iff] at starts
  change (97 ≤ c.toNat ∧ c.toNat ≤ 122) ∨ (65 ≤ c.toNat ∧ c.toNat ≤ 90) ∨ c = '_' ∨ c = ':'
    at starts
  rcases starts with small | capital | rfl | rfl
  · simp [isBlank]
    omega
  · simp [isBlank]
    omega
  · decide
  · decide

/-- What makes `class` open a class. -/
theorem declaresClass_iff {text : Text} :
    declaresClass text = true ↔
      ∃ blanks c rest, text = classWord ++ (blanks ++ c :: rest) ∧ blanks ≠ [] ∧
        (∀ b ∈ blanks, isBlank b = true) ∧ BeginsName c := by
  rw [declaresClass, Bool.and_eq_true,
    isPrefixOf_and_drop (P := fun behind => blanksThen startsName behind = true)]
  simp only [blanksThen_iff fun _ => not_isBlank_of_startsName, startsName_iff]
  constructor
  · rintro ⟨behind, rfl, blanks, c, rest, rfl, named⟩
    exact ⟨blanks, c, rest, rfl, named⟩
  · rintro ⟨blanks, c, rest, rfl, named⟩
    exact ⟨_, rfl, blanks, c, rest, rfl, named⟩

/-- A trimmed text does not end with white space. -/
theorem Text.not_isBlank_of_trim {text before : Text} {c : Char}
    (ends : text.trim = before ++ [c]) : isBlank c = false := by
  have nonempty : text.trimStart.rdropWhile isBlank ≠ [] := by
    show text.trim ≠ []
    simp [ends]
  have last := List.rdropWhile_last_not isBlank text.trimStart nonempty
  have same : (text.trimStart.rdropWhile isBlank).getLast nonempty = c := by
    have whole : text.trimStart.rdropWhile isBlank = before ++ [c] := ends
    simp [whole]
  rw [same] at last
  simpa using last

/-- What makes `def` open a method. -/
theorem declaresMethod_iff {text : Text} :
    declaresMethod text.trim = true ↔
      ∃ c rest, text.trim = methodWord ++ c :: rest ∧ isBlank c = true := by
  rw [declaresMethod, Bool.and_eq_true,
    isPrefixOf_and_drop (P := fun behind => blanksThen (!isBlank ·) behind = true)]
  constructor
  · rintro ⟨behind, whole, follows⟩
    rw [blanksThen, Bool.and_eq_true, head?_any_iff] at follows
    obtain ⟨⟨c, rest, rfl, blank⟩, -⟩ := follows
    exact ⟨c, rest, whole, blank⟩
  · rintro ⟨c, rest, whole, blank⟩
    refine ⟨c :: rest, whole, ?_⟩
    rw [blanksThen, Bool.and_eq_true, head?_any_iff, head?_any_iff]
    refine ⟨⟨c, rest, rfl, blank⟩, ?_⟩
    cases behind : (c :: rest).dropWhile isBlank with
    | cons d others =>
        have stops := List.head?_dropWhile_not isBlank (c :: rest)
        rw [behind] at stops
        exact ⟨d, others, rfl, by simpa using stops⟩
    | nil =>
        -- White space up to the end, where a trimmed text has none.
        have allBlank := List.dropWhile_eq_nil_iff.1 behind
        have ends : text.trim =
            methodWord ++ (c :: rest).dropLast ++ [(c :: rest).getLast (by simp)] := by
          rw [whole, List.append_assoc, List.dropLast_append_getLast]
        have dark := Text.not_isBlank_of_trim ends
        rw [allBlank _ (List.getLast_mem _)] at dark
        cases dark

/-! ## Lines -/

/-- A text whose first word is `class`, with white space and the beginning of a name behind
it. -/
def HeadsClass (text word : Text) : Prop :=
  word = "class".toList ∧ ∃ blanks c rest, text = word ++ (blanks ++ c :: rest) ∧ blanks ≠ [] ∧
    (∀ b ∈ blanks, isBlank b = true) ∧ BeginsName c

/-- A text whose first word is `def`, with white space behind it. -/
def HeadsMethod (text word : Text) : Prop :=
  word = "def".toList ∧ ∃ c rest, text = word ++ c :: rest ∧ isBlank c = true

theorem headsClass_iff {text word : Text} :
    HeadsClass text word ↔ word = classWord ∧ declaresClass text = true := by
  rw [declaresClass_iff]
  constructor
  · rintro ⟨rfl, follows⟩
    exact ⟨rfl, follows⟩
  · rintro ⟨rfl, follows⟩
    exact ⟨rfl, follows⟩

theorem headsMethod_iff {text word : Text} :
    HeadsMethod text.trim word ↔ word = methodWord ∧ declaresMethod text.trim = true := by
  rw [declaresMethod_iff]
  constructor
  · rintro ⟨rfl, follows⟩
    exact ⟨rfl, follows⟩
  · rintro ⟨rfl, follows⟩
    exact ⟨rfl, follows⟩

/-- What a line is, from its trimmed text and the first word of that. -/
structure Line.Reads (line : Line) (text word : Text) : Prop where
  trimmed : line.trimmed = text
  blank : line.kind = .blank ↔ text = []
  comment : line.kind = .comment ↔ ∃ rest, text = '#' :: rest
  code : line.kind = .code ↔ text ≠ [] ∧ ∀ rest, text ≠ '#' :: rest
  closes : line.tag = .closesBlock ↔ text = "end".toList
  opens : line.tag.opens = true ↔ word ∈ blockWords
  keyword : line.keyword = if word ∈ blockWords then some word else none
  opensClass : line.tag = .opensClass ↔ HeadsClass text word
  opensMethod : line.tag = .opensMethod ↔ HeadsMethod text word
  opensBlock : line.tag = .opensBlock ↔
    word ∈ blockWords ∧ ¬ HeadsClass text word ∧ ¬ HeadsMethod text word
  plain : line.tag = .plain ↔ text ≠ "end".toList ∧ word ∉ blockWords

namespace Line

/-- A text without code has no word at its head. -/
theorem takeWhile_of_not_code {text : Text} (noCode : (classify text).kind ≠ .code) :
    text.trim.takeWhile isWord = [] := by
  rw [← Text.trim_withoutEnd text]
  simp only [classify] at noCode
  split at noCode
  · rename_i nothing
    rw [List.isEmpty_iff.1 nothing]
    rfl
  split at noCode
  · rename_i marked
    obtain ⟨rest, whole⟩ := List.head?_eq_some_iff.1 marked
    rw [whole]
    exact List.takeWhile_cons_of_neg (by decide)
  · exact absurd rfl noCode

/-- Every line has the tag of its trimmed text, also if it is blank or a comment. -/
theorem ofTrimmed_classify (text : Text) :
    LineTag.ofTrimmed text.trim = ((classify text).tag, (classify text).keyword) := by
  rcases classify_cases text with ⟨noCode, tag, keyword⟩ | ⟨-, ofTrimmed⟩
  · have noWord := takeWhile_of_not_code noCode
    have notEnd : text.trim ≠ endWord := by
      intro isEnd
      rw [isEnd] at noWord
      revert noWord
      decide
    rw [tag, keyword, LineTag.ofTrimmed, if_neg notEnd, blockWord?_eq, noWord,
      if_neg not_mem_blockWords_nil]
  · exact ofTrimmed

/-- The kind of a line is read off the head of its trimmed text. -/
theorem kind_classify (text : Text) :
    ((classify text).kind = .blank ↔ text.trim = []) ∧
    ((classify text).kind = .comment ↔ ∃ rest, text.trim = '#' :: rest) ∧
    ((classify text).kind = .code ↔ text.trim ≠ [] ∧ ∀ rest, text.trim ≠ '#' :: rest) := by
  rw [← Text.trim_withoutEnd text]
  simp only [classify]
  cases (text.dropEndWhile isLineEnd).trim with
  | nil => simp
  | cons c rest =>
      by_cases marked : c = '#'
      · simp [marked, commentMark]
      · simp [marked, commentMark]

end Line

/-- The tags, each with the texts that have it. -/
inductive TagOf (text word : Text) : LineTag → Option Text → Prop where
  | closes (isEnd : text = endWord) : TagOf text word .closesBlock none
  | plain (notEnd : text ≠ endWord) (noKeyword : word ∉ blockWords) : TagOf text word .plain none
  | opensClass (heads : HeadsClass text word) : TagOf text word .opensClass (some word)
  | opensMethod (heads : HeadsMethod text word) : TagOf text word .opensMethod (some word)
  | opensBlock (keyword : word ∈ blockWords) (noClass : ¬ HeadsClass text word)
      (noMethod : ¬ HeadsMethod text word) : TagOf text word .opensBlock (some word)

theorem tagOf_trim (text : Text) :
    TagOf text.trim (text.trim.takeWhile isWord) (LineTag.ofTrimmed text.trim).1
      (LineTag.ofTrimmed text.trim).2 := by
  rw [LineTag.ofTrimmed, blockWord?_eq]
  by_cases isEnd : text.trim = endWord
  · rw [if_pos isEnd]
    exact .closes isEnd
  rw [if_neg isEnd]
  by_cases keyword : text.trim.takeWhile isWord ∈ blockWords
  · simp only [if_pos keyword]
    split
    · rename_i heads
      exact .opensClass (headsClass_iff.2 heads)
    rename_i noClass
    split
    · rename_i heads
      exact .opensMethod (headsMethod_iff.2 heads)
    · rename_i noMethod
      exact .opensBlock keyword (mt headsClass_iff.1 noClass) (mt headsMethod_iff.1 noMethod)
  · rw [if_neg keyword]
    exact .plain isEnd keyword

namespace HeadsClass

variable {text word : Text}

theorem keyword (heads : HeadsClass text word) : word ∈ blockWords := by
  rw [heads.1]
  decide

theorem not_headsMethod (heads : HeadsClass text word) : ¬ HeadsMethod text word := by
  intro method
  have same : "class".toList = "def".toList := heads.1.symm.trans method.1
  exact absurd same (by decide)

end HeadsClass

theorem HeadsMethod.keyword {text word : Text} (heads : HeadsMethod text word) :
    word ∈ blockWords := by
  rw [heads.1]
  decide

/-- The word `end` is no keyword. -/
theorem ne_endWord_of_keyword {text : Text} (keyword : text.takeWhile isWord ∈ blockWords) :
    text ≠ endWord := by
  rintro rfl
  revert keyword
  decide

namespace TagOf

variable {text word : Text} {tag : LineTag} {keyword : Option Text}

/-- Which tag a text has, tag by tag, if its first word is not both `end` and a keyword. -/
theorem reads (tagOf : TagOf text word tag keyword)
    (noEnd : word ∈ blockWords → text ≠ endWord) :
    (tag = .closesBlock ↔ text = endWord) ∧
    (tag.opens = true ↔ word ∈ blockWords) ∧
    (keyword = if word ∈ blockWords then some word else none) ∧
    (tag = .opensClass ↔ HeadsClass text word) ∧
    (tag = .opensMethod ↔ HeadsMethod text word) ∧
    (tag = .opensBlock ↔
      word ∈ blockWords ∧ ¬ HeadsClass text word ∧ ¬ HeadsMethod text word) ∧
    (tag = .plain ↔ text ≠ endWord ∧ word ∉ blockWords) := by
  cases tagOf with
  | closes isEnd =>
      have noKeyword : word ∉ blockWords := fun isKeyword => noEnd isKeyword isEnd
      have noClass : ¬ HeadsClass text word := fun heads => noKeyword heads.keyword
      have noMethod : ¬ HeadsMethod text word := fun heads => noKeyword heads.keyword
      subst isEnd
      simp [LineTag.opens, noKeyword, noClass, noMethod]
  | plain notEnd noKeyword =>
      have noClass : ¬ HeadsClass text word := fun heads => noKeyword heads.keyword
      have noMethod : ¬ HeadsMethod text word := fun heads => noKeyword heads.keyword
      simp [LineTag.opens, notEnd, noKeyword, noClass, noMethod]
  | opensClass heads =>
      have isKeyword := heads.keyword
      simp [LineTag.opens, noEnd isKeyword, isKeyword, heads, heads.not_headsMethod]
  | opensMethod heads =>
      have isKeyword := heads.keyword
      have noClass : ¬ HeadsClass text word := fun other => other.not_headsMethod heads
      simp [LineTag.opens, noEnd isKeyword, isKeyword, heads, noClass]
  | opensBlock isKeyword noClass noMethod =>
      simp [LineTag.opens, noEnd isKeyword, isKeyword, noClass, noMethod]

end TagOf

/-- **Every line is classified by its first word.**  With its text stripped of the white space
around it, and the longest head of that made of word characters, the line has the kind, the
tag and the keyword that the two say. -/
theorem classify_exact (text : Text) :
    (Line.classify text).Reads text.trim (text.trim.takeWhile isWord) := by
  obtain ⟨blank, comment, code⟩ := Line.kind_classify text
  have tagOf := tagOf_trim text
  rw [Line.ofTrimmed_classify] at tagOf
  obtain ⟨closes, opens, keyword, opensClass, opensMethod, opensBlock, plain⟩ :=
    tagOf.reads ne_endWord_of_keyword
  exact ⟨Line.trimmed_classify text, blank, comment, code, closes, opens, keyword, opensClass,
    opensMethod, opensBlock, plain⟩

/-- A word that only begins like a keyword is none, and `class` opens a block like any other if
no name follows it. -/
example :
    (["ends", "define x", "class << self", "class A", "def\tm"].map
      fun text => (Line.classify text.toList).tag) =
    [.plain, .plain, .opensBlock, .opensClass, .opensMethod] := by decide

end LineCensus
