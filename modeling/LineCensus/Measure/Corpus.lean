/-
# Measure.Corpus -- the measures of many files together

Totals are sums over the files and averages divide by their number, so they are
taken once, over the complete list.
-/
import LineCensus.Measure.File
import LineCensus.Measure.Lengths

set_option autoImplicit false

namespace LineCensus

structure LineTotals where
  total : Int := 0
  code : Int := 0
  comment : Int := 0
  blank : Int := 0
  /-- Comment lines in hundredths of all lines. -/
  commentShare : Amount := .zero
  deriving DecidableEq

structure ComplexityTotals where
  total : Int := 0
  average : Amount := .zero
  files : Int := 0
  deriving DecidableEq

structure NestingTotals where
  deepest : Int := 0
  average : Amount := .zero
  files : Int := 0
  deriving DecidableEq

/-- Method declarations against lines; the average length is that of the closed
methods. -/
structure MethodDensity where
  methods : Int := 0
  lines : Int := 0
  perHundredLines : Amount := .zero
  averageLength : Amount := .zero
  deriving DecidableEq

structure TypeTotals where
  classes : Int := 0
  modules : Int := 0
  classesPerFile : Amount := .zero
  modulesPerFile : Amount := .zero
  deriving DecidableEq

structure CorpusMeasure where
  lines : LineTotals := {}
  complexity : ComplexityTotals := {}
  nesting : NestingTotals := {}
  methods : MethodDensity := {}
  types : TypeTotals := {}
  methodLengths : LengthSummary := {}
  classSizes : LengthSummary := {}
  filesAnalyzed : Int := 0
  deriving DecidableEq

/-- The places of the density of methods. -/
def densityPlaces : Int := 4

namespace CorpusMeasure

/-- The sum of one number of every file. -/
def total (number : FileMeasure → Int) (files : List FileMeasure) : Int :=
  sumInt (files.map number)

def deepest (files : List FileMeasure) : Int :=
  (files.map (·.maxNestingDepth)).max?.getD 0

/-- Fold the measures of files into totals. -/
def ofFiles (files : List FileMeasure) : Except Fault CorpusMeasure := do
  let count : Int := files.length
  let lines := total (·.totalLines) files
  let comments := total (·.commentLines) files
  let complexity := total (·.complexity) files
  let methods := total (·.methodDeclarations) files
  let classes := total (·.classDeclarations) files
  let modules := total (·.moduleDeclarations) files
  let methodLengths ← LengthSummary.ofLengths (files.flatMap (·.methodLengths))
  let classSizes ← LengthSummary.ofLengths (files.flatMap (·.classSizes))
  return {
    lines := {
      total := lines
      code := total (·.codeLines) files
      comment := comments
      blank := total (·.blankLines) files
      commentShare := ← percentage comments lines averagePlaces }
    complexity := {
      total := complexity
      average := ← ratio complexity count averagePlaces
      files := count }
    nesting := {
      deepest := deepest files
      average := ← ratio (total (·.maxNestingDepth) files) count averagePlaces
      files := count }
    methods := {
      methods
      lines
      perHundredLines := ← percentage methods lines densityPlaces
      averageLength := methodLengths.average }
    types := {
      classes
      modules
      classesPerFile := ← ratio classes count averagePlaces
      modulesPerFile := ← ratio modules count averagePlaces }
    methodLengths
    classSizes
    filesAnalyzed := count }

end CorpusMeasure
end LineCensus
