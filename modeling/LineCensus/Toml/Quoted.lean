/-
# Toml.Quoted -- texts and keys

A text stands in double quotes, with escapes, or in single quotes, without; three
quotes hold a text of several lines, and one or two quotes right before the
closing three belong to the text.  A key is a sequence of bare or quoted parts
joined by points.
-/
import LineCensus.Toml.Reader

set_option autoImplicit false

namespace LineCensus
namespace Toml

abbrev Key := List String

/-! ## Escapes -/

/-- A character by its number in so many hexadecimal digits.  Surrogates are no
characters. -/
def hexChar (count : Nat) : Reader Text := do
  let digits := (← Reader.rest).take count
  if digits.length < count || !digits.all isHexDigit then Reader.fail
  Reader.drop count
  let point := hexValue digits
  if point < 0xD800 ∨ (0xDFFF < point ∧ point < 0x110000) then return [Char.ofNat point]
  else Reader.fail

/-- The character that a letter after a backslash stands for. -/
def escapedChar? (c : Char) : Option Char :=
  if c = 'b' then some (Char.ofNat 8)
  else if c = 't' then some '\t'
  else if c = 'n' then some '\n'
  else if c = 'f' then some (Char.ofNat 12)
  else if c = 'r' then some '\r'
  else if c = '"' then some '"'
  else if c = '\\' then some '\\'
  else none

/-- A backslash at the end of a line, with all white space up to the next
text. -/
def lineContinuation : Reader Text := do
  skipSpace
  match ← Reader.peek? with
  | none => return []
  | some c =>
      if c = '\n' then
        Reader.skipWhile isSpaceOrBreak
        return []
      else Reader.fail

/-- What follows a backslash. -/
def escape (multiline : Bool) : Reader Text := do
  match ← Reader.peek? with
  | none => Reader.fail
  | some c =>
      if multiline && isSpaceOrBreak c then lineContinuation
      else
        Reader.drop 1
        if c = 'u' then hexChar 4
        else if c = 'U' then hexChar 8
        else match escapedChar? c with
          | some d => return [d]
          | none => Reader.fail

/-! ## Texts -/

/-- The characters up to the closing quotes; `done` are those before, last
first.  Each round takes at least one character. -/
def basicChars (multiline : Bool) (done : Text) : Nat → Reader Text
  | 0 => Reader.fail
  | fuel + 1 => do
      match ← Reader.peek? with
      | none => Reader.fail
      | some c =>
          if c = '"' then
            if !multiline then
              Reader.drop 1
              return done.reverse
            else if ← Reader.accept "\"\"\"" then return done.reverse
            else
              Reader.drop 1
              basicChars multiline (c :: done) fuel
          else if c = '\\' then
            Reader.drop 1
            let written ← escape multiline
            basicChars multiline (written.reverse ++ done) fuel
          else if (if multiline then isControlInText c else isControl c) then Reader.fail
          else
            Reader.drop 1
            basicChars multiline (c :: done) fuel

/-- The rest of a text in double quotes. -/
def basicText (multiline : Bool) : Reader Text := do
  basicChars multiline [] ((← Reader.rest).length + 1)

/-- The rest of a text in single quotes. -/
def literalText : Reader Text := do
  let content ← Reader.takeWhile (· != '\'')
  Reader.expect "'"
  if content.any isControl then Reader.fail
  return content

/-- The length of the head of a text before three single quotes. -/
def beforeTripleQuote (length : Nat) : Text → Option Nat
  | [] => none
  | c :: rest =>
      if ['\'', '\'', '\''].isPrefixOf (c :: rest) then some length
      else beforeTripleQuote (length + 1) rest

def literalLines : Reader Text := do
  let text ← Reader.rest
  match beforeTripleQuote 0 text with
  | none => Reader.fail
  | some length =>
      let content := text.take length
      if content.any isControlInText then Reader.fail
      Reader.drop (length + 3)
      return content

/-- At most two more quotes at the end of a text of several lines. -/
def extraQuotes (quote : String) : Reader Text := do
  if ← Reader.accept quote then
    if ← Reader.accept quote then return quote.toList ++ quote.toList
    else return quote.toList
  else return []

/-- The rest of a text of several lines.  A line break right after the opening
quotes does not count. -/
def multilineText (literal : Bool) : Reader Text := do
  let _ ← Reader.accept "\n"
  let content ← if literal then literalLines else basicText true
  return content ++ (← extraQuotes (if literal then "'" else "\""))

/-- A text in any of the four forms. -/
def quotedContent : Reader Text := do
  if ← Reader.accept "\"\"\"" then multilineText false
  else if ← Reader.accept "'''" then multilineText true
  else if ← Reader.accept "\"" then basicText false
  else
    Reader.expect "'"
    literalText

def quotedText : Reader String := do
  return String.ofList (← quotedContent)

/-! ## Keys -/

def isBareKeyChar (c : Char) : Bool :=
  c.isAlphanum || c == '-' || c == '_'

def isKeyStart (c : Char) : Bool :=
  isBareKeyChar c || c == '"' || c == '\''

def keyPart : Reader String := do
  match ← Reader.peek? with
  | none => Reader.fail
  | some c =>
      if isBareKeyChar c then return String.ofList (← Reader.takeWhile isBareKeyChar)
      else if ← Reader.accept "'" then return String.ofList (← literalText)
      else if ← Reader.accept "\"" then return String.ofList (← basicText false)
      else Reader.fail

/-- The parts of a key after `done`, each behind a point. -/
def keyParts (done : List String) : Nat → Reader Key
  | 0 => Reader.fail
  | fuel + 1 => do
      skipSpace
      if ← Reader.accept "." then
        skipSpace
        let part ← keyPart
        keyParts (part :: done) fuel
      else return done.reverse

/-- A key, with the blanks after it. -/
def key : Reader Key := do
  let first ← keyPart
  keyParts [first] ((← Reader.rest).length + 1)

end Toml
end LineCensus
