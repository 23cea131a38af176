/-
# Console.Glyphs -- emoji, and how wide characters are

A name between two colons is a code for an emoji.  It is looked up in small letters, and
`-emoji` or `-text` at its end puts a selector behind the emoji.  A code whose name is not
known is shown as it is, and its second colon begins no other code.

A character takes up no cell of a line, one, or two, and a text as many as its characters.

Which names there are and how wide characters are is not for the console to say: both are
given with the console's `Glyphs`.
-/
import LineCensus.Number.Basic
import LineCensus.Text.Blank
import LineCensus.Text.Letter

set_option autoImplicit false

namespace LineCensus

/-- What is known of characters: the emoji of a name, and the cells that a character
takes up. -/
structure Glyphs where
  emoji : Text → Option Text
  cells : Char → Nat

namespace Glyphs

/-- No name has an emoji, and every character takes up one cell. -/
def plain : Glyphs where
  emoji _ := none
  cells _ := 1

/-! ## Emoji -/

/-- The ends of codes that ask for a look of the emoji, and the characters that give it. -/
def selectors : List (String × Char) :=
  [("-emoji", Char.ofNat 0xFE0F), ("-text", Char.ofNat 0xFE0E)]

/-- The name in a code, and what is put behind the emoji. -/
def splitCode (code : Text) : Text × Text :=
  match selectors.find? fun s => s.1.toList.isSuffixOf code with
  | some (ending, selector) => (code.take (code.length - ending.length), [selector])
  | none => (code, [])

/-- The emoji of a code. -/
def emojiOf? (glyphs : Glyphs) (code : Text) : Option Text :=
  let (name, selector) := splitCode code
  (glyphs.emoji (lowercase name)).map (· ++ selector)

/-- A code as it stands in a text. -/
def codeText (code : Text) : Text :=
  ':' :: (code ++ [':'])

/-- The code at the head of a text. -/
def codeAt? : Text → Option Text
  | ':' :: rest =>
      let code := rest.takeWhile fun c => !isBlank c && c != ':'
      if (rest.drop code.length).head? = some ':' then some code else none
  | _ => none

/-- A text with its emoji; `skip` characters are shown already. -/
def showFrom (glyphs : Glyphs) : Nat → Text → Text
  | _, [] => []
  | skip + 1, _ :: rest => showFrom glyphs skip rest
  | 0, c :: rest =>
      match codeAt? (c :: rest) with
      | some code =>
          (glyphs.emojiOf? code).getD (codeText code) ++ showFrom glyphs (code.length + 1) rest
      | none => c :: showFrom glyphs 0 rest

/-- A text with emoji for the codes that are known. -/
def shown (glyphs : Glyphs) (text : Text) : Text :=
  glyphs.showFrom 0 text

/-! ## Width -/

/-- The cells that a text takes up. -/
def length (glyphs : Glyphs) (text : Text) : Nat :=
  sumNat (text.map glyphs.cells)

end Glyphs
end LineCensus
