/-
# Proofs.JsonTokens -- the tokens of a JSON text are read back

A word is read up to the first character behind it that cannot be part of a word, and is then
taken as the scalar that it writes (`Json.IsWord`): null, a truth value, a whole number, or a
finite double.  A text in quotes is read character by character, each from its escape; the two
halves of a character beyond sixteen bits are joined (`Json.traceFrom_textToken`).  The reading
is traced: `Json.traceFrom` is `Json.readFrom` with the words that it has read.
-/
import LineCensus.Json.Reader
import LineCensus.Proofs.Numerals

set_option autoImplicit false

namespace LineCensus
namespace Json

/-! ## Characters -/

theorem isDigit_bounds {c : Char} (digit : c.isDigit = true) : 48 ≤ c.toNat ∧ c.toNat ≤ 57 := by
  simpa [Char.isDigit, Char.le_def, UInt32.le_iff_toNat_le] using digit

/-- The characters of numbers, as they are written. -/
def isNumberChar (c : Char) : Bool :=
  c.isDigit || c == '-' || c == '+' || c == '.' || c == 'e'

theorem numberChar_cases {c : Char} (number : isNumberChar c = true) :
    c.isDigit = true ∨ c = '-' ∨ c = '+' ∨ c = '.' ∨ c = 'e' := by
  simpa [isNumberChar, or_assoc] using number

/-- The characters that cannot be part of a word. -/
def separators : List Char :=
  [' ', '\n', '\t', '\r'] ++ marks ++ ['"']

theorem isWordChar_iff {c : Char} : isWordChar c = true ↔ c ∉ separators := by
  simp [isWordChar, isFiller, separators, and_assoc]

theorem isWordChar_of_digit {c : Char} (digit : c.isDigit = true) : isWordChar c = true := by
  have none : separators.all (fun d => !d.isDigit) = true := by decide
  rw [isWordChar_iff]
  intro separates
  have noDigit := List.all_eq_true.1 none c separates
  rw [digit] at noDigit
  cases noDigit

theorem isWordChar_of_number {c : Char} (number : isNumberChar c = true) :
    isWordChar c = true := by
  rcases numberChar_cases number with digit | rfl | rfl | rfl | rfl
  · exact isWordChar_of_digit digit
  all_goals decide

theorem ascii_of_number {c : Char} (number : isNumberChar c = true) : c.toNat < 128 := by
  rcases numberChar_cases number with digit | rfl | rfl | rfl | rfl
  · have := isDigit_bounds digit
    omega
  all_goals decide

def IsAscii (text : Text) : Prop :=
  ∀ c ∈ text, c.toNat < 128

instance (text : Text) : Decidable (IsAscii text) :=
  decidable_of_iff (text.all (·.toNat < 128) = true) (by simp [IsAscii])

@[simp] theorem isAscii_nil : IsAscii [] :=
  List.forall_mem_nil _

@[simp] theorem isAscii_cons {c : Char} {rest : Text} :
    IsAscii (c :: rest) ↔ c.toNat < 128 ∧ IsAscii rest :=
  List.forall_mem_cons

@[simp] theorem isAscii_append {before behind : Text} :
    IsAscii (before ++ behind) ↔ IsAscii before ∧ IsAscii behind :=
  List.forall_mem_append

/-! ## Words -/

/-- A word, and the value that it writes. -/
structure IsWord (word : Text) (value : Json) : Prop where
  nonempty : word ≠ []
  chars : ∀ c ∈ word, isWordChar c = true
  ascii : IsAscii word
  writes : scalar? word = some value

theorem isWord_null : IsWord "null".toList .null :=
  ⟨by decide, List.all_eq_true.1 (by decide), by decide, rfl⟩

theorem isWord_flag (b : Bool) : IsWord (if b then "true" else "false").toList (.flag b) := by
  cases b
  · exact ⟨by decide, List.all_eq_true.1 (by decide), by decide, rfl⟩
  · exact ⟨by decide, List.all_eq_true.1 (by decide), by decide, rfl⟩

/-- What begins with a digit or a minus is no name. -/
theorem scalar?_of_head {c : Char} {rest : Text} (number : c.isDigit = true ∨ c = '-') :
    scalar? (c :: rest) = number? (c :: rest) := by
  have noName {name : Text} (letter : name.head?.all (fun d => !d.isDigit && d != '-') = true) :
      c :: rest ≠ name := by
    rintro rfl
    rcases number with digit | rfl
    · simp [digit] at letter
    · simp at letter
  rw [scalar?, if_neg (noName (by decide)), if_neg (noName (by decide)),
    if_neg (noName (by decide))]

/-! ### Whole numbers -/

theorem isWholePart_toDigits (n : Nat) : isWholePart (Nat.toDigits 10 n) = true := by
  rcases Nat.eq_zero_or_pos n with rfl | positive
  · rfl
  · obtain ⟨c, rest, digits, nonzero⟩ := Binary64.head_toDigits positive
    rw [digits]
    unfold isWholePart
    split
    · rename_i empty
      cases empty
    · rename_i same
      exact absurd (List.cons.inj same).1 nonzero
    · rfl

theorem toList_toString (n : Int) :
    (toString n).toList = (Binary64.signText (n < 0)).toList ++ Nat.toDigits 10 n.natAbs := by
  rw [Int.toString_eq_repr, Int.repr_eq_if]
  rcases lt_or_ge n 0 with negative | positive
  · rw [if_neg (not_le.2 negative), String.toList_append, Nat.toList_repr,
      show (-n).toNat = n.natAbs by omega]
    simp [Binary64.signText, negative]
  · rw [if_pos positive, Nat.toList_repr, show n.toNat = n.natAbs by omega]
    simp [Binary64.signText, not_lt.2 positive]

theorem splitMinus_signed (negative : Bool) {c : Char} (digit : c.isDigit = true) (rest : Text) :
    splitMinus ((Binary64.signText negative).toList ++ c :: rest) = (negative, c :: rest) := by
  cases negative with
  | true => rfl
  | false =>
      have noMinus : c ≠ '-' := by
        rintro rfl
        cases digit
      exact splitMinus.eq_2 _ fun _ same => noMinus (List.cons.inj same).1

theorem signed_chars {negative : Bool} {body : Text} (chars : ∀ c ∈ body, isNumberChar c = true) :
    ∀ c ∈ (Binary64.signText negative).toList ++ body, isNumberChar c = true := by
  intro c member
  rcases List.mem_append.1 member with sign | member
  · cases negative with
    | true =>
        cases List.mem_singleton.1 sign
        rfl
    | false => cases sign
  · exact chars c member

/-- What consists of a number's characters and begins with a sign or a digit is a word. -/
theorem isWord_signed {negative : Bool} {c : Char} {rest : Text} {value : Json}
    (digit : c.isDigit = true) (chars : ∀ d ∈ c :: rest, isNumberChar d = true)
    (writes : number? ((Binary64.signText negative).toList ++ c :: rest) = some value) :
    IsWord ((Binary64.signText negative).toList ++ c :: rest) value where
  nonempty := by simp
  chars d member := isWordChar_of_number (signed_chars chars d member)
  ascii d member := ascii_of_number (signed_chars chars d member)
  writes := by
    rw [← writes]
    cases negative with
    | true => exact scalar?_of_head (.inr rfl)
    | false => exact scalar?_of_head (.inl digit)

/-- A whole number is a word. -/
theorem isWord_whole (n : Int) : IsWord (toString n).toList (.whole n) := by
  obtain ⟨c, rest, digits⟩ := List.exists_cons_of_ne_nil
    (Nat.toDigits_ne_nil : Nat.toDigits 10 n.natAbs ≠ [])
  have areDigits : ∀ d ∈ c :: rest, d.isDigit = true := by
    rw [← digits]
    exact fun d => Binary64.isDigit_toDigits
  have digit := areDigits c List.mem_cons_self
  rw [toList_toString, digits]
  refine isWord_signed digit (fun d member => by simp [isNumberChar, areDigits d member]) ?_
  rw [number?, splitMinus_signed _ digit]
  simp only [List.takeWhile_eq_self_iff.2 areDigits, List.drop_length, List.isEmpty_nil, if_true]
  rw [← digits, isWholePart_toDigits, Binary64.digitsValue_toDigits]
  simp only [Bool.not_true, Bool.false_eq_true, if_false, Option.some.injEq, whole.injEq]
  split <;> rename_i sign <;> simp only [decide_eq_true_eq] at sign <;> omega

/-! ### Numbers in double precision -/

section Numerals

open Binary64

variable {numeral : Numeral}

theorem isWholePart_of_leading {whole : Text} (some_whole : whole ≠ [])
    (leading : whole = ['0'] ∨ whole.head? ≠ some '0') : isWholePart whole = true := by
  unfold isWholePart
  split
  · exact absurd rfl some_whole
  · rcases leading with zero | nonzero
    · rw [(List.cons.inj zero).2]
      rfl
    · exact absurd rfl nonzero
  · rfl

theorem isFraction_placesText (proper : numeral.IsProper) :
    isFraction numeral.placesText = true := by
  unfold Numeral.placesText
  split
  · rfl
  · rename_i some_place
    simp [isFraction, List.all_eq_true.2 proper.placeDigits, some_place]

theorem isExponent_exponentPart (numeral : Numeral) :
    isExponent numeral.exponentPart = true := by
  unfold Numeral.exponentPart
  split
  · rfl
  · rename_i e _
    obtain ⟨digits, text, nonempty, areDigits, -⟩ := exponentText_spec e
    have all : digits.all Char.isDigit = true := List.all_eq_true.2 areDigits
    rw [text]
    split <;> simp [isExponent, nonempty, all]

/-- The places end where the exponent begins. -/
theorem takeWhile_places (proper : numeral.IsProper) :
    (numeral.placesText ++ numeral.exponentPart).takeWhile (fun c => c != 'e' && c != 'E') =
      numeral.placesText := by
  have before : ∀ c ∈ numeral.placesText, (c != 'e' && c != 'E') = true := by
    intro c member
    unfold Numeral.placesText at member
    split at member
    · cases member
    · rcases List.mem_cons.1 member with rfl | place
      · rfl
      · have digit := isDigit_bounds (proper.placeDigits c place)
        have small {letter : Char} (high : 57 < letter.toNat) : c ≠ letter := by
          rintro rfl
          omega
        simp [small (show 57 < 'e'.toNat by decide), small (show 57 < 'E'.toNat by decide)]
  rw [List.takeWhile_append_of_pos before]
  unfold Numeral.exponentPart
  split <;> simp

theorem numeral_chars (proper : numeral.IsProper) :
    ∀ c ∈ numeral.text, isNumberChar c = true := by
  have ofDigit {c : Char} (digit : c.isDigit = true) : isNumberChar c = true := by
    simp [isNumberChar, digit]
  intro c member
  rcases List.mem_append.1 member with whole | member
  · exact ofDigit (proper.wholeDigits c whole)
  rcases List.mem_append.1 member with place | exponent
  · unfold Numeral.placesText at place
    split at place
    · cases place
    · rcases List.mem_cons.1 place with rfl | place
      · rfl
      · exact ofDigit (proper.placeDigits c place)
  · unfold Numeral.exponentPart at exponent
    split at exponent
    · cases exponent
    · rename_i e _
      obtain ⟨digits, text, -, areDigits, -⟩ := exponentText_spec e
      rw [text] at exponent
      rcases List.mem_cons.1 exponent with rfl | exponent
      · rfl
      rcases List.mem_cons.1 exponent with rfl | digit
      · split <;> rfl
      · exact ofDigit (areDigits c digit)

/-- A numeral that no whole number has, behind a sign, is read as a double. -/
theorem number?_signed (negative : Bool) {digits : Nat} {power : Int}
    (writes : numeral.Writes digits power) :
    number? ((signText negative).toList ++ numeral.text) =
      (Binary64.ofText? ((signText negative).toList ++ numeral.text)).map .real := by
  obtain ⟨c, rest, digit, head⟩ := Numeral.exists_head writes.proper
  have rest_nonempty : (numeral.placesText ++ numeral.exponentPart).isEmpty = false := by
    rcases writes.isReal with places | exponent
    · simp [Numeral.placesText, places]
    · obtain ⟨e, exponent⟩ := Option.isSome_iff_exists.1 exponent
      simp [Numeral.exponentPart, exponent]
  have split : splitMinus ((signText negative).toList ++ numeral.text) =
      (negative, numeral.text) := by
    rw [head]
    exact splitMinus_signed negative digit rest
  have whole : numeral.text.takeWhile Char.isDigit = numeral.whole :=
    (takeWhile_digits writes.proper.wholeDigits (Numeral.endsDigits_placesText numeral)).1
  have behind : numeral.text.drop numeral.whole.length =
      numeral.placesText ++ numeral.exponentPart := List.drop_left
  simp only [number?, split, whole, behind, rest_nonempty,
    isWholePart_of_leading writes.proper.some_whole writes.leading,
    takeWhile_places writes.proper, List.drop_left, isFraction_placesText writes.proper,
    isExponent_exponentPart]
  rfl

/-- A finite double is a word. -/
theorem isWord_real (negative : Bool) {rank : Nat} (finite : rank < infiniteRank) :
    IsWord (realToken (.signed negative rank)) (.real (.signed negative rank)) := by
  obtain ⟨numeral, digits, power, written, writes, -⟩ := text_spec negative finite
  obtain ⟨c, rest, digit, head⟩ := Numeral.exists_head writes.proper
  have readsBack := (isShortestToken_text negative finite).readsBack
  have read := number?_signed negative writes
  rw [← written, readsBack, written, head] at read
  have chars := numeral_chars writes.proper
  rw [realToken, if_neg (Nat.not_le_of_lt finite), written, head]
  rw [head] at chars
  exact isWord_signed digit chars read

end Numerals

/-! ## Reading on -/

/-- The word that ends in front of a character. -/
def completedWord (mode : Mode) (c : Char) : Option Text :=
  match mode with
  | .word read => if isWordChar c then none else some read.reverse
  | _ => none

/-- `readFrom` that keeps the words that it has read, the last one first. -/
def traceFrom (mode : Mode) (state : State) (words : List Text) :
    Text → Option (Mode × State × List Text)
  | [] => some (mode, state, words)
  | c :: rest => do
      let (tokens, next) ← readChar mode c
      traceFrom next (← tokens.foldlM readToken state) ((completedWord mode c).toList ++ words)
        rest

/-- The words of a text that is read. -/
def wordsOf? (text : Text) : Option (List Text) :=
  (traceFrom .between (.value []) [] (text ++ [' '])).map fun traced => traced.2.2.reverse

theorem readFrom_eq_trace (mode : Mode) (state : State) (words : List Text) (text : Text) :
    readFrom mode state text =
      (traceFrom mode state words text).map fun traced => (traced.1, traced.2.1) := by
  induction text generalizing mode state words with
  | nil => rfl
  | cons c rest ih =>
      rw [readFrom, traceFrom]
      cases readChar mode c with
      | none => rfl
      | some completed =>
          simp only [Option.bind_eq_bind, Option.bind_some]
          cases completed.1.foldlM readToken state with
          | none => rfl
          | some state' => exact ih _ _ _

section Reading

variable {state : State} {words : List Text} {rest : Text}

/-- The tokens that a character completes are taken before the next character is read. -/
theorem traceFrom_cons {mode next : Mode} {c : Char} {tokens : List Token} {state' : State}
    (step : readChar mode c = some (tokens, next))
    (taken : tokens.foldlM readToken state = some state') :
    traceFrom mode state words (c :: rest) =
      traceFrom next state' ((completedWord mode c).toList ++ words) rest := by
  rw [traceFrom, step, Option.bind_eq_bind, Option.bind_some]
  simp only [taken, Option.bind_eq_bind, Option.bind_some]

/-- Where no token is complete, no word is. -/
theorem traceFrom_step {mode next : Mode} {c : Char}
    (step : readChar mode c = some ([], next)) :
    traceFrom mode state words (c :: rest) = traceFrom next state words rest := by
  have inside : completedWord mode c = none := by
    cases mode with
    | word read =>
        by_cases char : isWordChar c = true
        · simp [completedWord, char]
        · simp [readChar, char, Option.bind_eq_some_iff] at step
    | _ => rfl
  rw [traceFrom_cons step rfl, inside]
  rfl

theorem startToken_of_wordChar {c : Char} (char : isWordChar c = true) :
    startToken c = some ([], .word [c]) := by
  simp only [isWordChar, Bool.and_eq_true, Bool.not_eq_true', bne_iff_ne, ne_eq] at char
  obtain ⟨⟨filler, mark⟩, quote⟩ := char
  simp only [startToken, filler, mark, quote, Bool.false_eq_true, if_false]

theorem traceFrom_wordChars {word : Text} (chars : ∀ c ∈ word, isWordChar c = true) (read : Text) :
    traceFrom (.word read) state words (word ++ rest) =
      traceFrom (.word (word.reverse ++ read)) state words rest := by
  induction word generalizing read with
  | nil => rfl
  | cons c word ih =>
      have step : readChar (.word read) c = some ([], .word (c :: read)) := by
        simp [readChar, chars c]
      rw [List.cons_append, traceFrom_step step, ih fun d member => chars d (by simp [member])]
      simp

/-- A word is read up to a character that cannot be part of it. -/
theorem traceFrom_word {word : Text} {value : Json} {c : Char} {state' : State}
    (isWord : IsWord word value) (ends : isWordChar c = false)
    (taken : readToken state (.scalar value) = some state') :
    traceFrom .between state words (word ++ c :: rest) =
      traceFrom .between state' (word :: words) (c :: rest) := by
  obtain ⟨first, more, rfl⟩ := List.exists_cons_of_ne_nil isWord.nonempty
  have start : readChar .between first = some ([], .word [first]) :=
    startToken_of_wordChar (isWord.chars first List.mem_cons_self)
  have whole : (more.reverse ++ [first]).reverse = first :: more := by simp
  have complete : completedWord (.word (more.reverse ++ [first])) c = some (first :: more) := by
    simp [completedWord, ends]
  rw [List.cons_append, traceFrom_step start,
    traceFrom_wordChars fun d member => isWord.chars d (List.mem_cons_of_mem first member),
    traceFrom, traceFrom, complete]
  -- The character behind the word completes it and begins the next token itself.
  simp only [readChar, ends, whole, isWord.writes]
  cases startToken c with
  | none => rfl
  | some started => simp [taken, completedWord]

/-! ## Texts -/

theorem hexDigit_digitChar {d : Nat} (small : d < 16) :
    isHexDigit (Nat.digitChar d) = true ∧ hexDigitValue (Nat.digitChar d) = d ∧
      (Nat.digitChar d).toNat < 128 := by
  have all : ∀ d : Fin 16, isHexDigit (Nat.digitChar d) = true ∧
      hexDigitValue (Nat.digitChar d) = d ∧ (Nat.digitChar d).toNat < 128 := by decide
  exact all ⟨d, small⟩

theorem hexDigits_spec (count n : Nat) :
    (hexDigits count n).length = count ∧ hexValue (hexDigits count n) = n % 16 ^ count ∧
      ∀ c ∈ hexDigits count n, isHexDigit c = true ∧ c.toNat < 128 := by
  induction count generalizing n with
  | zero => simp [hexDigits, hexValue, Nat.mod_one]
  | succ count ih =>
      obtain ⟨length, value, chars⟩ := ih (n / 16)
      obtain ⟨hex, digit, ascii⟩ := hexDigit_digitChar (Nat.mod_lt n (by decide : 0 < 16))
      refine ⟨by simp [hexDigits, length], ?_, ?_⟩
      · rw [hexValue] at value
        rw [hexDigits, hexValue, List.foldl_append, value, List.foldl_cons, List.foldl_nil, digit,
          Nat.pow_succ', Nat.mod_mul]
        omega
      · intro c member
        rcases List.mem_append.1 member with before | last
        · exact chars c before
        · cases List.mem_singleton.1 last
          exact ⟨hex, ascii⟩

variable {read : Text}

theorem traceFrom_escapeUnit {half : Option Nat} {unit : Nat} {mode : Mode}
    (small : unit < 0x10000) (taken : takeUnit half unit read = some mode) :
    traceFrom (.quoted half read) state words (escapeUnit unit ++ rest) = traceFrom mode state words rest := by
  obtain ⟨-, value, chars⟩ := hexDigits_spec 4 unit
  obtain ⟨a, b, c, d, digits⟩ : ∃ a b c d, hexDigits 4 unit = [a, b, c, d] := ⟨_, _, _, _, rfl⟩
  rw [digits] at value chars
  have complete : takeUnit half (hexValue [a, b, c, d]) read = some mode := by
    rw [value, Nat.mod_eq_of_lt (by omega), taken]
  rw [escapeUnit, digits]
  simp only [List.cons_append, List.nil_append]
  have first : readChar (.unit half [] read) a = some ([], .unit half [a] read) := by
    simp [readChar, chars a]
  have second : readChar (.unit half [a] read) b = some ([], .unit half [a, b] read) := by
    simp [readChar, chars b]
  have third : readChar (.unit half [a, b] read) c = some ([], .unit half [a, b, c] read) := by
    simp [readChar, chars c]
  have last : readChar (.unit half [a, b, c] read) d = some ([], mode) := by
    simp [readChar, chars d, complete]
  rw [traceFrom_step (by rfl : readChar (.quoted half read) '\\' = some ([], .escape half read)),
    traceFrom_step (by rfl : readChar (.escape half read) 'u' = some ([], .unit half [] read)),
    traceFrom_step first, traceFrom_step second, traceFrom_step third, traceFrom_step last]

theorem traceFrom_letter {letter c : Char} (noUnit : letter ≠ 'u')
    (escaped : escaped? letter = some c) :
    traceFrom (.quoted none read) state words ('\\' :: letter :: rest) =
      traceFrom (.quoted none (c :: read)) state words rest := by
  have complete : readChar (.escape none read) letter = some ([], .quoted none (c :: read)) := by
    simp [readChar, noUnit, escaped]
  rw [traceFrom_step (by rfl : readChar (.quoted none read) '\\' = some ([], .escape none read)),
    traceFrom_step complete]

/-- The two halves of a character beyond sixteen bits are joined. -/
theorem traceFrom_halves {c : Char} (high : 0x10000 ≤ c.toNat) :
    traceFrom (.quoted none read) state words
        (escapeUnit (0xD800 + (c.toNat - 0x10000) / 0x400) ++
          (escapeUnit (0xDC00 + (c.toNat - 0x10000) % 0x400) ++ rest)) =
      traceFrom (.quoted none (c :: read)) state words rest := by
  have limit : c.toNat < 0x110000 := by
    have := c.valid
    simp only [UInt32.isValidChar, Nat.isValidChar] at this
    unfold Char.toNat
    omega
  generalize first : 0xD800 + (c.toNat - 0x10000) / 0x400 = unit
  generalize second : 0xDC00 + (c.toNat - 0x10000) % 0x400 = other
  have waits : takeUnit none unit read = some (.quoted (some unit) read) := by
    rw [takeUnit, if_pos (by omega)]
  have joins : takeUnit (some unit) other read = some (.quoted none (c :: read)) := by
    rw [takeUnit, if_pos (by omega), show
      0x10000 + (unit - 0xD800) * 0x400 + (other - 0xDC00) = c.toNat by omega, Char.ofNat_toNat]
  rw [traceFrom_escapeUnit (by omega) waits, traceFrom_escapeUnit (by omega) joins]

/-- Every character is read back from its escape. -/
theorem traceFrom_escapeChar (c : Char) :
    traceFrom (.quoted none read) state words (escapeChar c ++ rest) =
      traceFrom (.quoted none (c :: read)) state words rest := by
  unfold escapeChar
  iterate 5
    split
    · subst c
      exact traceFrom_letter (by decide) rfl
  split
  · rename_i feed
    cases (Char.toNat_inj.1 feed : c = '\x0c')
    exact traceFrom_letter (by decide) rfl
  split
  · rename_i back
    cases (Char.toNat_inj.1 back : c = '\x08')
    exact traceFrom_letter (by decide) rfl
  split
  · rename_i noQuote noSlash _ _ _ _ _ printable
    refine traceFrom_step ?_
    simp [readChar, noQuote, noSlash, Nat.not_lt.2 printable.1]
  split
  · rename_i small
    have noHalf : ¬ (0xD800 ≤ c.toNat ∧ c.toNat < 0xE000) := by
      have := c.valid
      simp only [UInt32.isValidChar, Nat.isValidChar] at this
      unfold Char.toNat
      omega
    refine traceFrom_escapeUnit small ?_
    rw [takeUnit, if_neg (by omega), if_neg (by omega), Char.ofNat_toNat]
  · rename_i high
    rw [List.append_assoc]
    exact traceFrom_halves (Nat.not_lt.1 high)

theorem traceFrom_escapes (chars : Text) :
    traceFrom (.quoted none read) state words (chars.flatMap escapeChar ++ rest) =
      traceFrom (.quoted none (chars.reverse ++ read)) state words rest := by
  induction chars generalizing read with
  | nil => rfl
  | cons c chars ih =>
      rw [List.flatMap_cons, List.append_assoc, traceFrom_escapeChar, ih]
      simp

/-- A text is read back from its token. -/
theorem traceFrom_textToken {s : String} {state' : State}
    (taken : readToken state (.text s) = some state') :
    traceFrom .between state words (textToken s ++ rest) = traceFrom .between state' words rest := by
  have closed : readChar (.quoted none (s.toList.reverse ++ [])) '"' =
      some ([.text s], .between) := by
    simp [readChar]
  rw [textToken, List.cons_append, List.cons_append, List.append_assoc,
    traceFrom_step (by rfl : readChar .between '"' = some ([], .quoted none [])),
    traceFrom_escapes, List.singleton_append]
  exact traceFrom_cons closed (by simp [taken])

theorem isAscii_escapeUnit (unit : Nat) : IsAscii (escapeUnit unit) := by
  obtain ⟨-, -, chars⟩ := hexDigits_spec 4 unit
  simp only [escapeUnit, isAscii_cons]
  exact ⟨by decide, by decide, fun c digit => (chars c digit).2⟩

theorem isAscii_escapeChar (c : Char) : IsAscii (escapeChar c) := by
  unfold escapeChar
  iterate 7
    split
    · simp
  split
  · rename_i printable
    simp only [isAscii_cons, isAscii_nil, and_true]
    omega
  split
  · exact isAscii_escapeUnit _
  · exact isAscii_append.2 ⟨isAscii_escapeUnit _, isAscii_escapeUnit _⟩

theorem isAscii_textToken (s : String) : IsAscii (textToken s) := by
  have escapes : IsAscii (s.toList.flatMap escapeChar) := fun d member => by
    obtain ⟨c, -, escape⟩ := List.mem_flatMap.1 member
    exact isAscii_escapeChar c d escape
  simp [textToken, escapes]

end Reading

end Json
end LineCensus
