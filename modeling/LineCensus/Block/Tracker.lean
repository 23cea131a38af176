/-
# Block.Tracker -- extents from opening and closing lines

The tracker counts depth: a line that opens any block raises it, a line that
closes one lowers it, never below zero.  Only methods and classes are remembered
while they are open, each with the depth it opened at.  A closing line ends the
innermost of them exactly when the depth is the one it opened at; otherwise the
line closes some other block inside it, or closes nothing.

What is still open when the file ends has no extent.
-/
import LineCensus.Block.Extent
import LineCensus.Line.Basic

set_option autoImplicit false

namespace LineCensus

/-- A method or class whose closing line has not been seen. -/
structure OpenBlock where
  kind : Extent.Kind
  startLine : Int
  depth : Nat
  deriving DecidableEq

structure Tracker where
  depth : Nat := 0
  maxDepth : Nat := 0
  /-- The extents of the blocks that are closed, last closed first. -/
  closed : List Extent := []
  /-- Innermost first. -/
  openBlocks : List OpenBlock := []

/-- The kind of extent that a line begins. -/
def LineTag.extentKind? : LineTag → Option Extent.Kind
  | .opensMethod => some .method
  | .opensClass => some .classBody
  | _ => none

namespace Tracker

/-- The extents in the order in which they were closed. -/
def extents (t : Tracker) : List Extent :=
  t.closed.reverse

/-- A line that opens a block. -/
def enter (t : Tracker) (kind? : Option Extent.Kind) (number : Int) : Tracker :=
  let depth := t.depth + 1
  { t with
    depth
    maxDepth := max t.maxDepth depth
    openBlocks := match kind? with
      | some kind => ⟨kind, number, depth⟩ :: t.openBlocks
      | none => t.openBlocks }

/-- A line that closes a block. -/
def leave (t : Tracker) (number : Int) : Tracker :=
  match t.openBlocks with
  | block :: outer =>
      if block.depth = t.depth then
        { t with
          depth := t.depth - 1
          closed := ⟨block.kind, block.startLine, number⟩ :: t.closed
          openBlocks := outer }
      else { t with depth := t.depth - 1 }
  | [] => { t with depth := t.depth - 1 }

/-- Advance by the line of a number. -/
def feed (t : Tracker) (tag : LineTag) (number : Int) : Tracker :=
  if tag.opens then t.enter tag.extentKind? number
  else if tag = .closesBlock then t.leave number
  else t

/-- The end of a file: what is open stays without an extent. -/
def finish (t : Tracker) : Tracker :=
  { t with depth := 0, openBlocks := [] }

/-- Advance by consecutive lines, the first of which has the number given. -/
def feedFrom (t : Tracker) (number : Int) : List Line → Tracker
  | [] => t
  | line :: rest => (t.feed line.tag number).feedFrom (number + 1) rest

/-- The tracker after a whole file, whose lines are numbered from one. -/
def ofLines (lines : List Line) : Tracker :=
  (({} : Tracker).feedFrom 1 lines).finish

end Tracker
end LineCensus
