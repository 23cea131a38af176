/-
# Console.Markup -- texts with tags for styles

A tag is a bracket that begins with a small letter or one of `#`, `/`, `@` and
holds no other opening bracket.  Tags that begin with a slash close: a named one
closes the last open tag of that style, an unnamed one the last open tag of any.
A tag that closes nothing is a fault.

A tag whose name begins with `@` calls a handler.  When it is closed, the
arguments of the call must be literals.

Backslashes before a tag escape it if their number is odd, and half of them are
shown.  `escape` writes a text so that none of it is a tag.

Between the tags, codes are replaced by the emoji that they name.
-/
import LineCensus.Console.Glyphs
import LineCensus.Console.Literal
import LineCensus.Console.Style
import LineCensus.Fault

set_option autoImplicit false

namespace LineCensus
namespace Markup

def startsTag (c : Char) : Bool :=
  ('a' ≤ c && c ≤ 'z') || c == '#' || c == '/' || c == '@'

/-- A tag at the head of a text: the number of backslashes before it, and what
stands between its brackets. -/
def tagAt? (text : Text) : Option (Nat × Text) :=
  let slashes := text.takeWhile (· = '\\')
  match text.dropWhile (· = '\\') with
  | '[' :: c :: rest =>
      if startsTag c then
        let inside := rest.takeWhile fun d => d != '[' && d != ']'
        if (rest.drop inside.length).head? = some ']' then some (slashes.length, c :: inside)
        else none
      else none
  | _ => none

/-- How many characters a tag takes up. -/
def tagLength (slashes : Nat) (content : Text) : Nat :=
  slashes + content.length + 2

inductive Token where
  | plain (text : Text)
  | tag (content : Text)

/-- A bracket behind a backslash is a plain bracket. -/
def unescape : Text → Text
  | '\\' :: '[' :: rest => '[' :: unescape rest
  | c :: rest => c :: unescape rest
  | [] => []

def plainToken (reversed : Text) : List Token :=
  if reversed.isEmpty then [] else [.plain (unescape reversed.reverse)]

/-- The tokens of a text whose first `skip` characters are already read; `plain`
are the plain characters before, last first. -/
def tokensFrom : Nat → Text → Text → List Token
  | _, plain, [] => plainToken plain
  | skip + 1, plain, _ :: rest => tokensFrom skip plain rest
  | 0, plain, c :: rest =>
      match tagAt? (c :: rest) with
      | some (slashes, content) =>
          let shown := List.replicate (slashes / 2) '\\'
          let here :=
            if slashes % 2 = 1 then
              [.plain shown, .plain (unescape ('[' :: content ++ [']']))]
            else [.plain shown, .tag content]
          plainToken plain ++ here ++ tokensFrom (tagLength slashes content - 1) [] rest
      | none => tokensFrom 0 (c :: plain) rest

def tokens (markup : Text) : List Token :=
  tokensFrom 0 [] markup

/-- Characters that move the cursor and are never shown. -/
def isCursorControl (c : Char) : Bool :=
  let point := c.toNat
  point == 7 || point == 8 || (11 ≤ point && point ≤ 13)

/-! ## Tags that are open -/

/-- A tag that is open: the canonical name of its style, what stands behind an
equals sign, and how many characters, line breaks left out, are shown before it. -/
structure OpenTag where
  style : String
  parameters : Option Text
  start : Nat

/-- The name of a style that is used, and whether it is used for any character. -/
structure StyleUse where
  name : Text
  isSeen : Bool

/-- What stands before an equals sign, and what stands behind it. -/
def splitTag (content : Text) : Text × Option Text :=
  let name := content.takeWhile (· != '=')
  (name, if name.length < content.length then some (content.drop (name.length + 1)) else none)

/-- A call of a handler is a name with its arguments in brackets, which are
empty if they are left out; the arguments are what is read. -/
def argumentsOf (parameters : Text) : Text :=
  let call := Text.trim parameters
  let arguments := call.dropWhile fun c => isWord c || c == '.'
  if arguments.isEmpty then ['(', ')']
  else if arguments.head? = some '(' ∧ 1 < arguments.length ∧ arguments.getLast? = some ')'
      ∧ ¬ arguments.contains '\n' then arguments
  else call

namespace OpenTag

/-- Whether the tag calls a handler and changes no style. -/
def isHandler (tag : OpenTag) : Bool :=
  tag.style.toList.head? == some '@'

/-- Whether the parameters of a handler can be read. -/
def isReadable (tag : OpenTag) : Bool :=
  match tag.parameters with
  | none => true
  | some parameters => parameters.isEmpty || Literal.isLiteral (argumentsOf parameters)

/-- The use of a style from the tag up to a position. -/
def usage (position : Nat) (tag : OpenTag) : StyleUse where
  name :=
    match tag.parameters with
    | none => tag.style.toList
    | some parameters => tag.style.toList ++ ' ' :: parameters
  isSeen := tag.start < position

/-- What a tag that is closed at a position changes. -/
def close (position : Nat) (tag : OpenTag) : Except Fault (List StyleUse) :=
  if !tag.isHandler then .ok [tag.usage position]
  else if tag.isReadable then .ok []
  else .error .badMarkup

end OpenTag

/-- Take out the last open tag of a style; `opened` are the open tags, last
first. -/
def takeOut? (style : String) : List OpenTag → Option (OpenTag × List OpenTag)
  | [] => none
  | tag :: rest =>
      if tag.style = style then some (tag, rest)
      else (takeOut? style rest).map fun found => (found.1, tag :: found.2)

def canonicalStyle (name : Text) : Except Fault String :=
  (Style.canonical name).mapError .refused

/-- The open tag that a closing tag closes, and the open tags that are left. -/
def closedBy (opened : List OpenTag) (name : Text) : Except Fault (OpenTag × List OpenTag) := do
  let name := Text.trim name
  let found? ←
    if name.isEmpty then pure (opened.head?.map fun tag => (tag, opened.drop 1))
    else pure (takeOut? (← canonicalStyle name) opened)
  match found? with
  | some found => return found
  | none => throw .badMarkup

/-- The open tags behind a tag, and the uses of styles that end there. -/
def applyTag (position : Nat) (opened : List OpenTag) (content : Text) :
    Except Fault (List OpenTag × List StyleUse) := do
  let (name, parameters) := splitTag content
  match name with
  | '/' :: closing =>
      let (tag, rest) ← closedBy opened closing
      return (rest, ← tag.close position)
  | _ => return ({ style := ← canonicalStyle name, parameters, start := position } :: opened, [])

/-! ## Texts that markup shows -/

/-- A text, and the uses of styles in it. -/
structure Page where
  text : Text := []
  uses : List StyleUse := []

/-- What is seen of a plain text. -/
def seen (glyphs : Glyphs) (text : Text) : Text :=
  (glyphs.shown text).filter (!isCursorControl ·)

/-- The page of tokens behind `position` characters. -/
def page (glyphs : Glyphs) (position : Nat) (opened : List OpenTag) :
    List Token → Except Fault Page
  | [] => .ok { uses := opened.map (·.usage position) }
  | .plain text :: rest => do
      let seen := seen glyphs text
      let after ← page glyphs (position + seen.countP (· != '\n')) opened rest
      return { after with text := seen ++ after.text }
  | .tag content :: rest => do
      let (opened, uses) ← applyTag position opened content
      let after ← page glyphs position opened rest
      return { after with uses := uses ++ after.uses }

/-- The text that markup shows.  The styles in it are looked up: those that are
used for a character, and on a text that is not divided, all. -/
def shownUndivided (glyphs : Glyphs) (isUndivided : Text → Bool) (markup : Text) :
    Except Fault Text := do
  let page ← page glyphs 0 [] (tokens markup)
  let looksUpAll := isUndivided page.text
  (page.uses.filter fun u => looksUpAll || u.isSeen).forM fun u =>
    (Style.lookUp u.name).mapError .refused
  return page.text

/-- The text that markup shows when it is laid out over lines. -/
def shown (glyphs : Glyphs) (markup : Text) : Except Fault Text :=
  shownUndivided glyphs (fun _ => false) markup

/-! ## Texts as markup -/

/-- Double the backslashes before tags and add one; `skip` characters are
already written. -/
def escapeFrom : Nat → Text → Text
  | _, [] => []
  | skip + 1, _ :: rest => escapeFrom skip rest
  | 0, c :: rest =>
      match tagAt? (c :: rest) with
      | some (slashes, content) =>
          List.replicate (2 * slashes + 1) '\\' ++ '[' :: content ++ ']'
            :: escapeFrom (tagLength slashes content - 1) rest
      | none => c :: escapeFrom 0 rest

/-- Whether a text ends in exactly one backslash. -/
def endsInOneBackslash (text : Text) : Bool :=
  (text.reverse.takeWhile (· = '\\')).length == 1

/-- A text as markup that shows it.  A single backslash at its end is doubled, so
that it cannot escape what is put after it. -/
def escape (text : String) : Text :=
  let escaped := escapeFrom 0 text.toList
  if endsInOneBackslash escaped then escaped ++ ['\\'] else escaped

end Markup
end LineCensus
