/-
# Pattern.Glob -- patterns for names

A pattern is a sequence of pieces: `*` stands for any text, `?` for any one
character, `[…]` for one character in a set, `[!…]` for one outside it, and every
other character for itself.  The whole text must match, and no character is
special to `*` and `?`.

In a set, a bracket that comes first is a member, `x-y` is a range, and a range
that runs backwards is dropped.  A set that is never closed is a plain bracket.

`matchesAll` keeps the ends of the text that are still to be matched, longest
first.  After a star every end of the longest of them is possible, so a pattern
with many stars costs no more than its length times that of the text.
-/
import LineCensus.Text.Blank

set_option autoImplicit false

namespace LineCensus
namespace Glob

/-- One entry of a set. -/
inductive Member where
  | single (c : Char)
  | range (first last : Char)
  deriving DecidableEq

inductive Piece where
  | any
  | one
  | literal (c : Char)
  | set (negated : Bool) (members : List Member)
  deriving DecidableEq

/-! ## Sets -/

namespace Member

def holds (c : Char) : Member → Bool
  | .single d => c == d
  | .range first last => first.toNat ≤ c.toNat && c.toNat ≤ last.toNat

/-- Not a range that runs backwards. -/
def isProper : Member → Bool
  | .single _ => true
  | .range first last => first.toNat ≤ last.toNat

end Member

/-- The entries of a set, read from the left: three characters with a hyphen
between them are a range. -/
def members : Text → List Member
  | first :: '-' :: last :: rest => .range first last :: members rest
  | c :: rest => .single c :: members rest
  | [] => []

/-- The mark that negates a set. -/
def negation : Char := '!'

/-- A negated set without members is any character. -/
def negatedSet (members : List Member) : Piece :=
  if members.isEmpty then .one else .set true members

/-- The piece of the text between two brackets.  The mark of negation counts at
the head of what is left when backward ranges are dropped; if it began a range,
the hyphen and the end of that range are members themselves. -/
def setPiece (body : Text) : Piece :=
  match body with
  | [] => .set false []
  | c :: rest =>
      if c = negation then negatedSet ((members rest).filter Member.isProper)
      else match (members body).filter Member.isProper with
        | .single d :: more =>
            if d = negation then negatedSet more else .set false (.single d :: more)
        | .range first last :: more =>
            if first = negation then .set true (.single '-' :: .single last :: more)
            else .set false (.range first last :: more)
        | [] => .set false []

/-- The text up to the bracket that closes a set, if there is one.  A bracket
that comes first, or right after the mark of negation, closes nothing. -/
def setBody? (rest : Text) : Option Text :=
  let afterMark := if rest.head? = some negation then rest.drop 1 else rest
  let afterBracket := if afterMark.head? = some ']' then afterMark.drop 1 else afterMark
  let inside := afterBracket.takeWhile (· != ']')
  if inside.length < afterBracket.length then
    some (rest.take (rest.length - afterBracket.length + inside.length))
  else none

/-- The pieces of a pattern whose first `skip` characters are already read. -/
def piecesFrom : Nat → Text → List Piece
  | _, [] => []
  | skip + 1, _ :: rest => piecesFrom skip rest
  | 0, c :: rest =>
      if c = '*' then .any :: piecesFrom 0 rest
      else if c = '?' then .one :: piecesFrom 0 rest
      else if c = '[' then
        match setBody? rest with
        | some body => setPiece body :: piecesFrom (body.length + 1) rest
        | none => .literal c :: piecesFrom 0 rest
      else .literal c :: piecesFrom 0 rest

def pieces (pattern : Text) : List Piece :=
  piecesFrom 0 pattern

/-! ## Matching -/

/-- Whether a character fits a piece that stands for one character. -/
def Piece.admits (c : Char) : Piece → Bool
  | .any => true
  | .one => true
  | .literal d => c == d
  | .set negated members => members.any (Member.holds c) != negated

/-- All ends of a text, longest first. -/
def ends : Text → List Text
  | [] => [[]]
  | c :: rest => (c :: rest) :: ends rest

/-- The ends that are left after one character that fits. -/
def advance (piece : Piece) (alive : List Text) : List Text :=
  alive.filterMap fun
    | [] => none
    | c :: rest => if piece.admits c then some rest else none

/-- Whether one of the ends `alive`, longest first, matches the pieces. -/
def matchesAll (alive : List Text) : List Piece → Bool
  | [] => alive.any List.isEmpty
  | .any :: rest =>
      match alive with
      | [] => false
      | longest :: _ => matchesAll (ends longest) rest
  | piece :: rest => matchesAll (advance piece alive) rest

/-- Whether a text as a whole matches a pattern. -/
def fits (pattern text : Text) : Bool :=
  matchesAll [text] (pieces pattern)

end Glob
end LineCensus
