/-
# Text.Lines -- three ways in which a text falls into lines

* `unifyBreaks` turns the breaks CR LF and lone CR into a line feed, as a text
  file is read.
* `lines` cuts after every line feed and keeps it, so that the lines joined are
  the text.
* `rows` cuts at every character that the character standard calls a line
  boundary, CR LF counting once, and drops it.  A text that ends in a boundary
  has no empty row after it.
-/
import LineCensus.Text.Blank

set_option autoImplicit false

namespace LineCensus
namespace Text

/-- `afterReturn` says that the character before was a carriage return, already
written as a line feed; `done` is what is written, last character first. -/
def unifyBreaksFrom (afterReturn : Bool) (done : Text) : Text → Text
  | [] => done.reverse
  | c :: rest =>
      if c = '\r' then unifyBreaksFrom true ('\n' :: done) rest
      else if c = '\n' && afterReturn then unifyBreaksFrom false done rest
      else unifyBreaksFrom false (c :: done) rest

/-- Every line break written as one line feed. -/
def unifyBreaks (text : Text) : Text :=
  unifyBreaksFrom false [] text

/-- `current` is the line being read and `done` the lines before it, both in
reverse. -/
def linesFrom (current : Text) (done : List Text) : Text → List Text
  | [] => (if current.isEmpty then done else current.reverse :: done).reverse
  | c :: rest =>
      if c = '\n' then linesFrom [] ((c :: current).reverse :: done) rest
      else linesFrom (c :: current) done rest

/-- The lines of a text, each with its line feed. -/
def lines (text : Text) : List Text :=
  linesFrom [] [] text

/-- The boundaries of rows: the line and paragraph separators, form feed,
vertical tab, and the file, group and record separators. -/
def isRowBreak (c : Char) : Bool :=
  let point := c.toNat
  (10 ≤ point && point ≤ 13) || (0x1C ≤ point && point ≤ 0x1E) || point == 0x85
    || point == 0x2028 || point == 0x2029

def rowsFrom (afterReturn : Bool) (current : Text) (done : List Text) : Text → List Text
  | [] => (if current.isEmpty then done else current.reverse :: done).reverse
  | c :: rest =>
      if c = '\n' && afterReturn then rowsFrom false current done rest
      else if isRowBreak c then rowsFrom (c = '\r') [] (current.reverse :: done) rest
      else rowsFrom false (c :: current) done rest

/-- The rows of a text, without their boundaries. -/
def rows (text : Text) : List Text :=
  rowsFrom false [] [] text

end Text
end LineCensus
