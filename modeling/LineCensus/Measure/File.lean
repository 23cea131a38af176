/-
# Measure.File -- what is measured in one file

Lines by kind, decision points, nesting depth, declarations, and the lengths of
the methods and classes that are closed.  Complexity is one more than the
decision points of the file.
-/
import LineCensus.Block.Tracker
import LineCensus.Line.Decision
import LineCensus.Number.Basic

set_option autoImplicit false

namespace LineCensus

/-- A file without a single decision has this complexity. -/
def baseComplexity : Int := 1

structure FileMeasure where
  path : String
  totalLines : Int := 0
  codeLines : Int := 0
  commentLines : Int := 0
  blankLines : Int := 0
  complexity : Int := baseComplexity
  maxNestingDepth : Int := 0
  methodDeclarations : Int := 0
  classDeclarations : Int := 0
  moduleDeclarations : Int := 0
  /-- In the order of their closing lines. -/
  methodLengths : List Int := []
  classSizes : List Int := []
  deriving DecidableEq

namespace Line

/-- A module is a block like any other, but its declarations are counted. -/
def declaresModule (line : Line) : Bool :=
  line.keyword == some moduleWord

end Line

namespace FileMeasure

/-- Measure the classified lines of a file. -/
def ofLines (path : String) (lines : List Line) : FileMeasure :=
  let tracker := Tracker.ofLines lines
  { path
    totalLines := lines.length
    codeLines := lines.countP (·.kind = .code)
    commentLines := lines.countP (·.kind = .comment)
    blankLines := lines.countP (·.kind = .blank)
    complexity := baseComplexity + sumNat (lines.map (decisionPoints ·.raw))
    maxNestingDepth := tracker.maxDepth
    methodDeclarations := lines.countP (·.tag = .opensMethod)
    classDeclarations := lines.countP (·.tag = .opensClass)
    moduleDeclarations := lines.countP Line.declaresModule
    methodLengths := (Extent.ofKind .method tracker.extents).map Extent.length
    classSizes := (Extent.ofKind .classBody tracker.extents).map Extent.length }

end FileMeasure
end LineCensus
