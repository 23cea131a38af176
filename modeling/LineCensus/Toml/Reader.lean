/-
# Toml.Reader -- reading a settings document from left to right

A `Reader` takes what it needs off the head of the text that is left, or says
what is wrong with it.
-/
import LineCensus.Text.DigitRun

set_option autoImplicit false

namespace LineCensus
namespace Toml

/-- What is wrong with a document: its form, a whole number with more digits than
are read, or a value nested deeper than values are read. -/
inductive Flaw where
  | malformed
  | tooManyDigits (count : Nat)
  | tooDeep
  deriving DecidableEq

abbrev Reader (α : Type) := StateT Text (Except Flaw) α

namespace Reader

variable {α : Type}

def fail : Reader α := throw Flaw.malformed

def rest : Reader Text := get

def peek? : Reader (Option Char) := do
  return (← get).head?

/-- Drop characters that are known to be there. -/
def drop (count : Nat) : Reader Unit :=
  modify (List.drop count)

/-- Take the longest head that satisfies `p`. -/
def takeWhile (p : Char → Bool) : Reader Text := do
  let text ← get
  set (text.dropWhile p)
  return text.takeWhile p

def skipWhile (p : Char → Bool) : Reader Unit :=
  modify (List.dropWhile p)

/-- Whether a text comes next. -/
def sees (expected : String) : Reader Bool := do
  return expected.toList.isPrefixOf (← get)

/-- Take a text if it comes next. -/
def accept (expected : String) : Reader Bool := do
  if ← sees expected then
    drop expected.length
    return true
  else return false

/-- Take a text that must come next. -/
def expect (expected : String) : Reader Unit := do
  unless ← accept expected do fail

end Reader

/-! ## Blanks and comments -/

def isSpace (c : Char) : Bool := c == ' ' || c == '\t'

def isSpaceOrBreak (c : Char) : Bool := isSpace c || c == '\n'

/-- Controls other than the tab. -/
def isControl (c : Char) : Bool :=
  (c.toNat < 32 || c.toNat == 127) && c != '\t'

def isControlInText (c : Char) : Bool :=
  isControl c && c != '\n'

def skipSpace : Reader Unit := Reader.skipWhile isSpace

/-- Skip a comment up to the end of its line. -/
def skipComment : Reader Unit := do
  if ← Reader.accept "#" then
    let comment ← Reader.takeWhile (· != '\n')
    if comment.any isControl then Reader.fail

/-- What is left after blanks, line breaks and comments. -/
def afterFiller (inComment : Bool) : Text → Except Flaw Text
  | [] => .ok []
  | c :: rest =>
      if inComment then
        if c = '\n' then afterFiller false rest
        else if isControl c then .error .malformed
        else afterFiller true rest
      else if isSpaceOrBreak c then afterFiller false rest
      else if c = '#' then afterFiller true rest
      else .ok (c :: rest)

def skipAllFiller : Reader Unit := do
  set (← (afterFiller false (← Reader.rest) : Except Flaw Text))

end Toml
end LineCensus
