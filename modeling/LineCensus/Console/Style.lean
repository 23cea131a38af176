/-
# Console.Style -- one name for every style

A style is named by attributes, a colour, a background and a link, in any order
and with short names for some attributes.  Its canonical name has the attributes
in a fixed order, then the colour, the background and the link.  A name that is
no style stands for itself, in small letters.

Letters of either case name the same style, except in a link and in the word
behind `not`.
-/
import LineCensus.Console.Colour
import LineCensus.Text.Letter

set_option autoImplicit false

namespace LineCensus
namespace Style

/-- Attributes in canonical order, each with its short name if it has one. -/
def attributes : List (String × String) :=
  [("bold", "b"), ("dim", "d"), ("italic", "i"), ("underline", "u"), ("blink", ""), ("blink2", ""),
    ("reverse", "r"), ("conceal", "c"), ("strike", "s"), ("underline2", "uu"), ("frame", ""),
    ("encircle", ""), ("overline", "o")]

def attribute? (word : String) : Option String :=
  (attributes.find? fun a => a.1 == word || (a.2 != "" && a.2 == word)).map (·.1)

/-- The parts of a style. -/
structure Parts where
  set : List (String × Bool) := []
  colour : Option String := none
  background : Option String := none
  link : Option String := none

/-- Why words name no style: they are no style, or hold a number that cannot be
read. -/
inductive Flaw where
  | noStyle
  | refused (refusal : Refusal)

def inSmallLetters (word : Text) : String :=
  String.ofList (lowercase word)

/-- The name of a colour. -/
def readColour (word : Text) : Except Flaw String := do
  if ← (Colour.isColour (lowercase word)).mapError .refused then return inSmallLetters word
  else throw .noStyle

/-- Words that say what the next word is. -/
inductive Leader where
  | background
  | without
  | link

def leader? (word : Text) : Option Leader :=
  let word := inSmallLetters word
  if word = "on" then some .background
  else if word = "not" then some .without
  else if word = "link" then some .link
  else none

/-- What a word says behind a leader. -/
def readLed (parts : Parts) (word : Text) : Leader → Except Flaw Parts
  | .background => do return { parts with background := some (← readColour word) }
  | .without =>
      match attribute? (String.ofList word) with
      | some a => .ok { parts with set := (a, false) :: parts.set }
      | none => .error .noStyle
  | .link => .ok { parts with link := some (String.ofList word) }

/-- What a word that stands alone says. -/
def readWord (parts : Parts) (word : Text) : Except Flaw Parts :=
  match attribute? (inSmallLetters word) with
  | some a => .ok { parts with set := (a, true) :: parts.set }
  | none => do return { parts with colour := some (← readColour word) }

/-- The parts that words name. -/
def readWords (parts : Parts) : List Text → Except Flaw Parts
  | [] => .ok parts
  | [word] => readWord parts word
  | word :: next :: rest =>
      match leader? word with
      | some leader => do readWords (← readLed parts next leader) rest
      | none => do readWords (← readWord parts word) (next :: rest)

/-- The words of a name. -/
def wordsOf (name : Text) : List Text :=
  (Text.segments ' ' (name.map fun c => if isBlank c then ' ' else c)).filter (!·.isEmpty)

def read (name : Text) : Except Flaw Parts :=
  readWords {} (wordsOf name)

def canonicalParts (parts : Parts) : List String :=
  (attributes.filterMap fun a =>
      (parts.set.lookup a.1).map fun on => if on then a.1 else "not " ++ a.1)
    ++ parts.colour.toList ++ (parts.background.map ("on " ++ ·)).toList
    ++ (parts.link.map ("link " ++ ·)).toList

/-- The canonical name of a style. -/
def canonical (name : Text) : Except Refusal String :=
  match read name with
  | .ok parts =>
      let words := canonicalParts parts
      .ok (if words.isEmpty then "none" else " ".intercalate words)
  | .error .noStyle => .ok (inSmallLetters (Text.trim name))
  | .error (.refused refusal) => .error refusal

/-- Look up a style by its name.  A name that is no style changes nothing. -/
def lookUp (name : Text) : Except Refusal Unit := do
  let _ ← canonical name

end Style
end LineCensus
