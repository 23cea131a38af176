/-
# Text.Blank -- white space, and cutting it off

A text is a list of characters.  `isBlank` is the white space of the character
standard together with the four separator controls; `trim` cuts it off both
ends.  No blank character is a word character, so white space never joins or
extends a word.
-/

set_option autoImplicit false

namespace LineCensus

/-- A text, character by character. -/
abbrev Text := List Char

def isBlank (c : Char) : Bool :=
  let point := c.toNat
  (9 ≤ point && point ≤ 13) || (28 ≤ point && point ≤ 32) || point == 0x85 || point == 0xA0
    || point == 0x1680 || (0x2000 ≤ point && point ≤ 0x200A) || point == 0x2028
    || point == 0x2029 || point == 0x202F || point == 0x205F || point == 0x3000

namespace Text

/-- What is left when the longest end that satisfies `p` is cut off. -/
def dropEndWhile (p : Char → Bool) (text : Text) : Text :=
  (text.reverse.dropWhile p).reverse

def trimStart (text : Text) : Text :=
  text.dropWhile isBlank

def trimEnd (text : Text) : Text :=
  text.dropEndWhile isBlank

/-- A text without the white space around it. -/
def trim (text : Text) : Text :=
  text.trimStart.trimEnd

end Text

end LineCensus
