/-
# Line.Basic -- what is known of a source line

A line has its text without the line end, that text without the white space
around it, a kind (blank, comment or code) and, if it is code, a tag saying
whether it opens or closes a block.
-/
import LineCensus.Text.Blank

set_option autoImplicit false

namespace LineCensus

inductive LineKind where
  | blank
  | comment
  | code
  deriving DecidableEq

/-- What a line does to the block structure. -/
inductive LineTag where
  | plain
  | opensBlock
  | closesBlock
  | opensMethod
  | opensClass
  deriving DecidableEq

/-- Methods and classes are blocks too. -/
def LineTag.opens : LineTag → Bool
  | .opensBlock => true
  | .opensMethod => true
  | .opensClass => true
  | .plain => false
  | .closesBlock => false

structure Line where
  raw : Text
  trimmed : Text
  kind : LineKind
  tag : LineTag := .plain
  /-- The keyword that opens the line's block. -/
  keyword : Option Text := none

end LineCensus
