/-
# Text.Search -- finding a text in a text, and cutting at a separator
-/
import LineCensus.Text.Blank

set_option autoImplicit false

namespace LineCensus
namespace Text

/-- Whether `part` stands somewhere in the text, side by side. -/
def occursIn (part : Text) : Text → Bool
  | [] => part.isEmpty
  | c :: rest => if part.isPrefixOf (c :: rest) then true else occursIn part rest

/-- Cut at every separator; `current` is the segment being read and `done` the
segments before it, both in reverse. -/
def segmentsFrom (separator : Char) (current : Text) (done : List Text) : Text → List Text
  | [] => (current.reverse :: done).reverse
  | c :: rest =>
      if c = separator then segmentsFrom separator [] (current.reverse :: done) rest
      else segmentsFrom separator (c :: current) done rest

/-- The segments between separators: always one more than there are
separators. -/
def segments (separator : Char) (text : Text) : List Text :=
  segmentsFrom separator [] [] text

/-- The part up to and with the last occurrence of `mark`, and the part after
it.  The first is empty when `mark` does not occur. -/
def splitAfterLast (mark : Char) (text : Text) : Text × Text :=
  let backwards := text.reverse
  ((backwards.dropWhile (· != mark)).reverse, (backwards.takeWhile (· != mark)).reverse)

end Text
end LineCensus
