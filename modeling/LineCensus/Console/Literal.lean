/-
# Console.Literal -- texts that write a value

A literal is a number, a text in quotes, a truth value or the like, or a tuple,
a set or a table of literals in brackets.  A number may have a sign, and a real
number may stand before an imaginary one.  Sets and tables can be neither in a
set nor a key of a table.

A text is first cut into tokens and then read as an expression; whatever is no
literal is refused without a reason.
-/
import LineCensus.Text.DigitRun
import LineCensus.Text.Lines
import LineCensus.Text.Word
import LineCensus.Value.Basic

set_option autoImplicit false

namespace LineCensus
namespace Literal

/-! ## Tokens -/

inductive Token where
  | number (imaginary : Bool)
  | quoted (octets : Bool)
  | word (name : Text)
  | ellipsis
  /-- A bracket, a sign, a comma, a colon, or the end of a line. -/
  | mark (c : Char)
  deriving DecidableEq

def lineEnd : Token := .mark '\n'

/-- The base that a letter behind a zero announces. -/
def baseDigits? (letter : Char) : Option (Char → Bool) :=
  if letter = 'x' ∨ letter = 'X' then some isHexDigit
  else if letter = 'o' ∨ letter = 'O' then some fun c => '0' ≤ c && c ≤ '7'
  else if letter = 'b' ∨ letter = 'B' then some fun c => c == '0' || c == '1'
  else none

/-- What is left after a whole number with its base. -/
def afterBased? (text : Text) : Option Text :=
  match text with
  | '0' :: letter :: rest =>
      match baseDigits? letter with
      | none => none
      | some isDigit =>
          let body := if rest.head? = some '_' then rest.drop 1 else rest
          let (length, _) := digitRun isDigit body
          if length = 0 then none else some (body.drop length)
  | _ => none

/-- How long an exponent is; none is zero long. -/
def exponentLength (text : Text) : Nat :=
  match text with
  | e :: rest =>
      if e = 'e' ∨ e = 'E' then
        let sign := match rest with
          | '+' :: _ => 1
          | '-' :: _ => 1
          | _ => 0
        let (length, _) := digitRun Char.isDigit (rest.drop sign)
        if length = 0 then 0 else 1 + sign + length
      else 0
  | [] => 0

/-- Whether digits write a whole number: not too many, and a zero in front only
of zeros. -/
def isWholeNumber (digits : Text) : Bool :=
  digits.length ≤ digitLimit && (digits.head? != some '0' || digits.all (· == '0'))

/-- A decimal number at the head of a text, and what is left. -/
def decimal? (text : Text) : Option (Token × Text) :=
  let (wholeLength, whole) := digitRun Char.isDigit text
  let afterWhole := text.drop wholeLength
  let hasPoint := afterWhole.head? = some '.'
  let afterPoint := if hasPoint then afterWhole.drop 1 else afterWhole
  let placesLength := if hasPoint then (digitRun Char.isDigit afterPoint).1 else 0
  let afterPlaces := afterPoint.drop placesLength
  let exponent := exponentLength afterPlaces
  let rest := afterPlaces.drop exponent
  if wholeLength + placesLength = 0 then none
  else if rest.head? = some 'j' ∨ rest.head? = some 'J' then some (.number true, rest.drop 1)
  else if hasPoint ∨ 0 < exponent ∨ isWholeNumber whole then some (.number false, rest)
  else none

/-- A number; no letter or digit may stand right behind it. -/
def number? (text : Text) : Option (Token × Text) := do
  let (token, rest) ← match afterBased? text with
    | some rest => some (Token.number false, rest)
    | none => decimal? text
  if rest.head?.any isWord then none else some (token, rest)

/-! ### Quoted texts -/

/-- The words that may stand before a quote. -/
def quotePrefixes : List String := ["", "r", "u", "b", "br", "rb"]

/-- The body of a quoted text up to its closing quotes, and what is left. -/
def quotedBody (quote : Char) (triple : Bool) : Text → Option (Text × Text)
  | [] => none
  | '\\' :: c :: rest => do
      let (body, rest) ← quotedBody quote triple rest
      return ('\\' :: c :: body, rest)
  | c :: rest =>
      if triple && [quote, quote, quote].isPrefixOf (c :: rest) then some ([], rest.drop 2)
      else if !triple && c == quote then some ([], rest)
      else if !triple && c == '\n' then none
      else do
        let (body, rest) ← quotedBody quote triple rest
        return (c :: body, rest)

/-- A name in braces. -/
def isNamed (text : Text) : Bool :=
  match text with
  | '\x7b' :: rest =>
      let name := rest.takeWhile fun c => c.isAlphanum || c == ' ' || c == '-'
      !name.isEmpty && (rest.drop name.length).head? == some '\x7d'
  | _ => false

/-- Whether a backslash before `c` is followed by what it needs. -/
def isEscape (octets : Bool) (c : Char) (rest : Text) : Bool :=
  if c = 'x' then (hexHead? 2 rest).isSome
  else if octets then c.toNat < 128
  else if c = 'u' then (hexHead? 4 rest).isSome
  else if c = 'U' then (hexHead? 8 rest).any (· < 0x110000)
  else if c = 'N' then isNamed rest
  else true

/-- Whether the escapes of a body are complete, and octets are ASCII. -/
def isBody (raw octets : Bool) : Text → Bool
  | [] => true
  | '\\' :: c :: rest => (raw || isEscape octets c rest) && isBody raw octets rest
  | c :: rest => (!octets || c.toNat < 128) && isBody raw octets rest

/-- A quoted text behind its prefix, and what is left. -/
def quotedText? (letters : Text) (text : Text) : Option (Token × Text) := do
  let letters := letters.map Char.toLower
  let quote ← text.head?
  let triple := [quote, quote, quote].isPrefixOf text
  let octets := letters.contains 'b'
  let (body, rest) ← quotedBody quote triple (text.drop (if triple then 3 else 1))
  if quotePrefixes.contains (String.ofList letters) ∧ isBody (letters.contains 'r') octets body then
    some (.quoted octets, rest)
  else none

/-! ### All tokens -/

def isQuote (c : Char) : Bool := c == '"' || c == '\''

/-- A word or a text in quotes. -/
def word? (text : Text) : Option (Token × Text) :=
  let name := text.takeWhile isWord
  let rest := text.drop name.length
  if rest.head?.any isQuote then quotedText? name rest
  else if name.isEmpty then none
  else some (.word name, rest)

/-- How deep brackets may be nested. -/
def deepestBracket : Nat := 200

/-- The depth behind a character. -/
def depthAfter (depth : Nat) (c : Char) : Nat :=
  if c = '(' ∨ c = '\x7b' then depth + 1
  else if c = ')' ∨ c = '\x7d' then depth - 1
  else depth

def marks : List Char := ['(', ')', '\x7b', '\x7d', '+', '-', ',', ':']

def isFiller (c : Char) : Bool := c == ' ' || c == '\t' || c == '\x0c'

/-- The tokens of a text.  Every step takes at least one character, so the length
of the text is `fuel` enough. -/
def tokensFrom (depth : Nat) : Nat → Text → Option (List Token)
  | _, [] => some []
  | 0, _ => none
  | fuel + 1, c :: rest =>
      if isFiller c then tokensFrom depth fuel rest
      else if c = '#' then tokensFrom depth fuel (rest.dropWhile (· != '\n'))
      else if c = '\n' then
        (tokensFrom depth fuel rest).map fun more => if 0 < depth then more else lineEnd :: more
      else if c = '\\' then
        if rest.head? = some '\n' ∧ 1 < rest.length then tokensFrom depth fuel (rest.drop 1)
        else none
      else if marks.contains c then
        let depth := depthAfter depth c
        if deepestBracket < depth then none
        else (tokensFrom depth fuel rest).map (Token.mark c :: ·)
      else if c.isDigit || (c == '.' && rest.head?.any Char.isDigit) then
        match number? (c :: rest) with
        | some (token, rest) => (tokensFrom depth fuel rest).map (token :: ·)
        | none => none
      else if ['.', '.', '.'].isPrefixOf (c :: rest) then
        (tokensFrom depth fuel (rest.drop 2)).map (Token.ellipsis :: ·)
      else
        match word? (c :: rest) with
        | some (token, rest) => (tokensFrom depth fuel rest).map (token :: ·)
        | none => none

def tokens? (text : Text) : Option (List Token) :=
  tokensFrom 0 text.length text

/-! ## Expressions -/

/-- What an expression writes, as far as it matters to what may stand around
it. -/
inductive Kind where
  | number (imaginary signed : Bool)
  | sum
  | constant
  | tuple (isKey : Bool)
  | collection
  deriving DecidableEq

/-- Whether a value can be in a set or a key of a table. -/
def Kind.isKey : Kind → Bool
  | .tuple isKey => isKey
  | .collection => false
  | _ => true

/-- The words that write a value. -/
def constantWords : List String := ["True", "False", "None"]

/-- The word that writes an empty set, with empty brackets behind it. -/
def setWord : String := "set"

/-- Texts side by side are one text, if they are all of one sort. -/
def afterTexts? (octets : Bool) : List Token → Option (List Token)
  | .quoted o :: rest => if o = octets then afterTexts? octets rest else none
  | rest => some rest

/-- An expression that begins with none of the brackets. -/
def simple? : List Token → Option (Kind × List Token)
  | .number imaginary :: rest => some (.number imaginary false, rest)
  | .quoted octets :: rest => (afterTexts? octets rest).map fun rest => (.constant, rest)
  | .ellipsis :: rest => some (.constant, rest)
  | .word name :: rest =>
      let word := String.ofList name
      if constantWords.contains word then some (.constant, rest)
      else if word = setWord ∧ rest.take 2 = [.mark '(', .mark ')'] then
        some (.collection, rest.drop 2)
      else none
  | _ => none

mutual

/-- An expression at the head of the tokens, and the tokens that are left. -/
def expression? : Nat → List Token → Option (Kind × List Token)
  | 0, _ => none
  | fuel + 1, tokens => do
      let (left, rest) ← signed? fuel tokens
      match left, rest with
      | .number false _, .mark c :: more =>
          if c = '+' ∨ c = '-' then
            match ← bare? fuel more with
            | (.number true false, rest) => return (.sum, rest)
            | _ => none
          else return (left, rest)
      | _, _ => return (left, rest)

/-- A number with a sign, or an expression without one. -/
def signed? : Nat → List Token → Option (Kind × List Token)
  | 0, _ => none
  | fuel + 1, .mark c :: rest =>
      if c = '+' ∨ c = '-' then do
        match ← bare? fuel rest with
        | (.number imaginary false, rest) => return (.number imaginary true, rest)
        | _ => none
      else bare? fuel (.mark c :: rest)
  | fuel + 1, tokens => bare? fuel tokens

/-- An expression without a sign.  Brackets around one expression only group. -/
def bare? : Nat → List Token → Option (Kind × List Token)
  | 0, _ => none
  | _ + 1, .mark '(' :: .mark ')' :: rest => some (.tuple true, rest)
  | _ + 1, .mark '\x7b' :: .mark '\x7d' :: rest => some (.collection, rest)
  | fuel + 1, .mark '(' :: rest => do
      match ← expression? fuel rest with
      | (kind, .mark ')' :: rest) => return (kind, rest)
      | (kind, .mark ',' :: rest) => items? ')' kind.isKey fuel rest
      | _ => none
  | fuel + 1, .mark '\x7b' :: rest => do
      match ← expression? fuel rest with
      | (kind, .mark ':' :: rest) => if kind.isKey then pairs? fuel rest else none
      | (kind, .mark c :: rest) =>
          if !kind.isKey then none
          else if c = '\x7d' then return (.collection, rest)
          else if c = ',' then
            match ← items? '\x7d' true fuel rest with
            | (.tuple true, rest) => return (.collection, rest)
            | _ => none
          else none
      | _ => none
  | _ + 1, tokens => simple? tokens

/-- The items behind a comma up to the closing mark, as a tuple. -/
def items? (close : Char) (isKey : Bool) : Nat → List Token → Option (Kind × List Token)
  | 0, _ => none
  | fuel + 1, tokens =>
      if tokens.head? = some (.mark close) then some (.tuple isKey, tokens.drop 1)
      else do
        match ← expression? fuel tokens with
        | (kind, .mark c :: rest) =>
            if c = close then return (.tuple (isKey && kind.isKey), rest)
            else if c = ',' then items? close (isKey && kind.isKey) fuel rest
            else none
        | _ => none

/-- The value behind a colon and the pairs after it, up to the closing brace. -/
def pairs? : Nat → List Token → Option (Kind × List Token)
  | 0, _ => none
  | fuel + 1, tokens => do
      match ← expression? fuel tokens with
      | (_, .mark '\x7d' :: rest) => return (.collection, rest)
      | (_, .mark ',' :: .mark '\x7d' :: rest) => return (.collection, rest)
      | (_, .mark ',' :: rest) =>
          match ← expression? fuel rest with
          | (kind, .mark ':' :: rest) => if kind.isKey then pairs? fuel rest else none
          | _ => none
      | _ => none

end

/-- Whether all that is left is the end of the last line. -/
def isEnd (tokens : List Token) : Bool :=
  tokens.all (· == lineEnd)

/-- Whether tokens write one value, or several between commas.  A step of the
reading takes a token or goes one of four definitions deeper. -/
def areLiteral (tokens : List Token) : Bool :=
  let line := (tokens.dropWhile (· == lineEnd)).takeWhile (· != lineEnd)
  let after := (tokens.dropWhile (· == lineEnd)).dropWhile (· != lineEnd)
  let fuel := 4 * line.length + 4
  isEnd after &&
    match expression? fuel line with
    | some (_, []) => true
    | some (_, .mark ',' :: rest) => (items? '\n' true fuel (rest ++ [lineEnd])).any (·.2.isEmpty)
    | _ => false

/-- Whether a text writes a value. -/
def isLiteral (text : Text) : Bool :=
  !text.contains '\x00' && (tokens? (Text.unifyBreaks text)).any areLiteral

end Literal
end LineCensus
