/-
# Line.Classify -- the kind and the tag of a line, from its text alone

No grammar is used.  A keyword counts only as the first word of the trimmed
line, so `return if done` opens nothing.  `class` opens a class when a name or a
path follows, `def` opens a method when anything follows; otherwise they open a
block like the other keywords.  Only the bare word `end` closes a block.
-/
import LineCensus.Text.Word
import LineCensus.Line.Basic

set_option autoImplicit false

namespace LineCensus

def commentMark : Char := '#'

def classWord : Text := "class".toList
def moduleWord : Text := "module".toList
def methodWord : Text := "def".toList
def endWord : Text := "end".toList

/-- The words that open a block when they come first. -/
def blockWords : List Text :=
  [classWord, moduleWord, methodWord, "if".toList, "unless".toList, "while".toList,
    "until".toList, "for".toList, "case".toList, "begin".toList]

namespace Text

/-- Whether `word` stands at the head of the text and no word character follows
it. -/
def headIs (word text : Text) : Bool :=
  word.isPrefixOf text && !(text.drop word.length).head?.any isWord

end Text

/-- The block keyword that a text begins with. -/
def blockWord? (text : Text) : Option Text :=
  blockWords.find? (·.headIs text)

/-- The first character of a class name or of a path to one. -/
def startsName (c : Char) : Bool :=
  c.isAlpha || c == '_' || c == ':'

/-- Whether white space and then a character satisfying `p` come next. -/
def blanksThen (p : Char → Bool) (text : Text) : Bool :=
  text.head?.any isBlank && (text.dropWhile isBlank).head?.any p

def declaresClass (text : Text) : Bool :=
  classWord.isPrefixOf text && blanksThen startsName (text.drop classWord.length)

def declaresMethod (text : Text) : Bool :=
  methodWord.isPrefixOf text && blanksThen (!isBlank ·) (text.drop methodWord.length)

/-- The tag of a trimmed code line, with the keyword that opens its block. -/
def LineTag.ofTrimmed (text : Text) : LineTag × Option Text :=
  if text = endWord then (.closesBlock, none)
  else match blockWord? text with
    | none => (.plain, none)
    | some word =>
        if word = classWord ∧ declaresClass text then (.opensClass, some word)
        else if word = methodWord ∧ declaresMethod text then (.opensMethod, some word)
        else (.opensBlock, some word)

/-- The end of a line, in either convention. -/
def isLineEnd (c : Char) : Bool :=
  c == '\r' || c == '\n'

namespace Line

/-- Classify a line, given with or without its line end. -/
def classify (text : Text) : Line :=
  let raw := text.dropEndWhile isLineEnd
  let trimmed := raw.trim
  if trimmed.isEmpty then { raw, trimmed, kind := .blank }
  else if trimmed.head? = some commentMark then { raw, trimmed, kind := .comment }
  else
    let (tag, keyword) := LineTag.ofTrimmed trimmed
    { raw, trimmed, kind := .code, tag, keyword }

end Line
end LineCensus
