/-
# Console.Wrap -- texts in lines of limited width

A tab stands for blanks up to the next eighth cell.  A word is taken with the
blanks after it.  It begins a new line when, without those blanks, it is longer
than what is left of the line.  A word that is longer than a whole line is
either folded into pieces of that length or left to be cut.  Blanks at the end
of a line go only as far as they exceed the width.

Lengths are cells, except for the end of a line, where characters are counted.
-/
import LineCensus.Console.Glyphs
import LineCensus.Text.Search

set_option autoImplicit false

namespace LineCensus
namespace Wrap

def blanks (count : Nat) : Text := List.replicate count ' '

/-- What becomes of a word that is longer than a line. -/
inductive LongWord where
  | fold
  | cut
  deriving DecidableEq

/-- The words of a text, each with the blanks after it and the first also with
those before it; `word` is the word being read, in reverse, `started` whether it
has a character that is not blank, and `ended` whether blanks follow. -/
def wordsFrom (word : Text) (started ended : Bool) : Text → List Text
  | [] => if started then [word.reverse] else []
  | c :: rest =>
      if isBlank c then wordsFrom (c :: word) started started rest
      else if ended then word.reverse :: wordsFrom [c] true false rest
      else wordsFrom (c :: word) true false rest

def words (text : Text) : List Text :=
  wordsFrom [] false false text

/-! ## Tabs -/

def tabSize : Nat := 8

/-- A text with blanks for its tabs, behind `column` cells. -/
def expandFrom (glyphs : Glyphs) (column : Nat) : Text → Text
  | [] => []
  | c :: rest =>
      if c = '\t' then
        let count := tabSize - column % tabSize
        blanks count ++ expandFrom glyphs (column + count) rest
      else c :: expandFrom glyphs (column + glyphs.cells c) rest

/-- A line with blanks for its tabs. -/
def expandTabs (glyphs : Glyphs) (line : Text) : Text :=
  expandFrom glyphs 0 line

/-! ## Lines -/

/-- Pieces of a word that are no longer than a line; `piece` is the piece being read, in
reverse, and `filled` its length. -/
def chopFrom (glyphs : Glyphs) (width filled : Nat) (piece : Text) : Text → List Text
  | [] => [piece.reverse]
  | c :: rest =>
      if width < filled + glyphs.cells c then
        piece.reverse :: chopFrom glyphs width (glyphs.cells c) [c] rest
      else chopFrom glyphs width (filled + glyphs.cells c) (c :: piece) rest

def chop (glyphs : Glyphs) (width : Nat) (word : Text) : List Text :=
  chopFrom glyphs width 0 [] word

/-- Lines before the current one, last first, and the current line. -/
structure State where
  done : List Text := []
  current : Text := []

/-- End the current line, unless it is empty. -/
def State.breakLine (s : State) : List Text :=
  if s.current.isEmpty then s.done else s.current :: s.done

/-- Lay out one more word. -/
def layWord (glyphs : Glyphs) (width : Nat) (longWord : LongWord) (s : State) (word : Text) :
    State :=
  let length := glyphs.length word.trimEnd
  if length + glyphs.length s.current ≤ width then { s with current := s.current ++ word }
  else if width < length then
    match longWord with
    | .cut => { done := s.breakLine, current := word }
    | .fold =>
        let pieces := chop glyphs width word
        { done := pieces.dropLast.reverse ++ s.breakLine, current := pieces.getLast?.getD [] }
  else { done := s.breakLine, current := word }

/-- The lines of one line of text.  A text without words is one line. -/
def layLine (glyphs : Glyphs) (width : Nat) (longWord : LongWord) (text : Text) : List Text :=
  let s := (words text).foldl (layWord glyphs width longWord) {}
  if s.done.isEmpty then [text] else (s.current :: s.done).reverse

/-- Cut blanks at the end of a line as far as they exceed the width. -/
def cropBlanks (width : Nat) (line : Text) : Text :=
  let blanks := line.length - line.trimEnd.length
  line.take (line.length - min blanks (line.length - width))

/-- The lines of a text. -/
def lines (glyphs : Glyphs) (width : Nat) (longWord : LongWord) (text : Text) : List Text :=
  ((Text.segments '\n' text).flatMap fun line =>
    layLine glyphs width longWord (expandTabs glyphs line)).map (cropBlanks width)

/-- As much of a line as has room in `room` cells.  What is left of a character that reaches
out of them is blank. -/
def cut (glyphs : Glyphs) (room : Nat) : Text → Text
  | [] => []
  | c :: rest =>
      if glyphs.cells c ≤ room then c :: cut glyphs (room - glyphs.cells c) rest else blanks room

/-- Stands for the rest of a word that is cut. -/
def ellipsis : Char := Char.ofNat 0x2026

/-- A line that is no longer than a width. -/
def truncate (glyphs : Glyphs) (width : Nat) (longWord : LongWord) (line : Text) : Text :=
  if glyphs.length line ≤ width then line
  else match longWord with
    | .fold => cut glyphs width line
    | .cut => cut glyphs (width - 1) line ++ [ellipsis]

/-- The lines of a text whose long words are folded, none longer than the width. -/
def page (glyphs : Glyphs) (width : Nat) (text : Text) : List Text :=
  (lines glyphs width .fold text).map (truncate glyphs width .fold)

/-- The length of the longest line. -/
def naturalWidth (glyphs : Glyphs) (rows : List Text) : Nat :=
  (rows.map glyphs.length).foldl max 0

/-! ## Filling up -/

def padRight (glyphs : Glyphs) (width : Nat) (line : Text) : Text :=
  line ++ blanks (width - glyphs.length line)

def padLeft (glyphs : Glyphs) (width : Nat) (line : Text) : Text :=
  blanks (width - glyphs.length line) ++ line

/-- Put a line into the middle; an odd blank goes to the right. -/
def centre (glyphs : Glyphs) (width : Nat) (filler : Char) (line : Text) : Text :=
  let excess := width - glyphs.length line
  List.replicate (excess / 2) filler ++ line ++ List.replicate (excess - excess / 2) filler

end Wrap
end LineCensus
