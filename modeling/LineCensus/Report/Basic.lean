/-
# Report.Basic -- the parts of a report
-/
import LineCensus.Corpus.Collect
import LineCensus.Listing.Distribution
import LineCensus.Listing.Largest
import LineCensus.Listing.Naming
import LineCensus.Manifest.Survey

set_option autoImplicit false

namespace LineCensus

/-- How many files there are. -/
structure FileCounts where
  total : Int := 0
  sources : Int := 0
  manifests : Int := 0
  analyzed : Int := 0
  skipped : Int := 0
  deriving DecidableEq

/-- Sources and manifests together, by name and size. -/
structure FileSection where
  types : Tally := []
  largest : List LargeFile := []
  directories : Tally := []
  sizes : SizeCounts := {}
  naming : NamingCounts := {}
  deriving DecidableEq

structure CodeSection where
  lines : LineTotals := {}
  averageSize : AverageSize := {}
  sizes : CoarseSizeCounts := {}
  methods : MethodDensity := {}
  types : TypeTotals := {}
  deriving DecidableEq

structure ComplexitySection where
  complexity : ComplexityTotals := {}
  nesting : NestingTotals := {}
  methodLengths : LengthSummary := {}
  classSizes : LengthSummary := {}
  deriving DecidableEq

/-- The values that stand for the whole report. -/
structure Summary where
  totalFiles : Int := 0
  primaryLanguage : String := ""
  codeLines : Int := 0
  totalLines : Int := 0
  commentShare : Amount := .zero
  averageFileSize : String := "0.0 B"
  mostCommonExtension : Option String := none
  largestDirectory : Option String := none
  totalMethods : Int := 0
  totalClasses : Int := 0
  totalModules : Int := 0
  manifestCount : Int := 0
  complexityScore : Amount := .zero
  filesAnalyzed : Int := 0
  filesSkipped : Int := 0
  deriving DecidableEq

structure Report where
  counts : FileCounts := {}
  files : FileSection := {}
  code : CodeSection := {}
  complexity : ComplexitySection := {}
  manifests : ManifestSurvey := {}
  summary : Summary := {}
  skipped : List SkippedFile := []
  deriving DecidableEq

end LineCensus
