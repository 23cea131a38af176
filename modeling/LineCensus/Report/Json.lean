/-
# Report.Json -- a report as a JSON value

Every part of a report is an object with its fields in a fixed order; counts by
key are objects too, and what is missing is null.  A report with a whole number that is
too long to be written has no JSON text.
-/
import LineCensus.Json.Basic
import LineCensus.Report.Basic

set_option autoImplicit false

namespace LineCensus

namespace Json

def ofOption {α : Type} (json : α → Json) : Option α → Json
  | some a => json a
  | none => .null

def ofAmount : Amount → Json
  | .whole n => .whole n
  | .real x => .real x

def ofTally (tally : Tally) : Json :=
  .object (tally.map fun entry => (entry.1, .whole entry.2))

end Json

def LineTotals.toJson (t : LineTotals) : Json :=
  .object [
    ("total_lines", .whole t.total),
    ("code_lines", .whole t.code),
    ("comment_lines", .whole t.comment),
    ("blank_lines", .whole t.blank),
    ("comment_ratio", .ofAmount t.commentShare)]

def ComplexityTotals.toJson (t : ComplexityTotals) : Json :=
  .object [
    ("total_complexity", .whole t.total),
    ("average_complexity", .ofAmount t.average),
    ("files_analyzed", .whole t.files)]

def NestingTotals.toJson (t : NestingTotals) : Json :=
  .object [
    ("max_nesting_depth", .whole t.deepest),
    ("average_nesting_depth", .ofAmount t.average),
    ("files_analyzed", .whole t.files)]

def MethodDensity.toJson (d : MethodDensity) : Json :=
  .object [
    ("total_methods", .whole d.methods),
    ("total_lines", .whole d.lines),
    ("methods_per_line", .ofAmount d.perHundredLines),
    ("average_method_length", .ofAmount d.averageLength)]

def TypeTotals.toJson (t : TypeTotals) : Json :=
  .object [
    ("total_classes", .whole t.classes),
    ("total_modules", .whole t.modules),
    ("classes_per_file", .ofAmount t.classesPerFile),
    ("modules_per_file", .ofAmount t.modulesPerFile)]

def LengthSummary.toJson (s : LengthSummary) : Json :=
  .object [
    ("count", .whole s.count),
    ("average", .ofAmount s.average),
    ("minimum", .whole s.minimum),
    ("maximum", .whole s.maximum),
    ("median", .whole s.median)]

def SkippedFile.toJson (s : SkippedFile) : Json :=
  .object [("path", .text s.path), ("reason", .text s.reason)]

def LargeFile.toJson (f : LargeFile) : Json :=
  .object [("path", .text f.path), ("size", .whole f.size), ("size_kb", .ofAmount f.kib)]

def SizeCounts.toJson (c : SizeCounts) : Json :=
  .object [
    ("tiny", .whole c.tiny),
    ("small", .whole c.small),
    ("medium", .whole c.medium),
    ("large", .whole c.large),
    ("huge", .whole c.huge)]

def CoarseSizeCounts.toJson (c : CoarseSizeCounts) : Json :=
  .object [
    ("tiny", .whole c.tiny),
    ("small", .whole c.small),
    ("medium", .whole c.medium),
    ("large", .whole c.large)]

def NamingCounts.toJson (c : NamingCounts) : Json :=
  .object [
    ("snake_case", .whole c.snakeCase),
    ("camel_case", .whole c.camelCase),
    ("mixed_case", .whole c.mixedCase),
    ("with_numbers", .whole c.withNumbers),
    ("test_files", .whole c.testFiles),
    ("spec_files", .whole c.specFiles)]

def AverageSize.toJson (s : AverageSize) : Json :=
  .object [("bytes", .ofAmount s.bytes), ("kb", .ofAmount s.kib), ("human_readable", .text s.words)]

def GemspecFacts.toJson (f : GemspecFacts) : Json :=
  .object [
    ("has_dependencies", .flag f.hasDependencies),
    ("has_dev_dependencies", .flag f.hasDevDependencies),
    ("has_version", .flag f.hasVersion),
    ("has_description", .flag f.hasDescription),
    ("has_homepage", .flag f.hasHomepage),
    ("line_count", .whole f.lineCount)]

def GemfileFacts.toJson (f : GemfileFacts) : Json :=
  .object [
    ("total_gems", .whole f.totalGems),
    ("has_source", .flag f.hasSource),
    ("has_groups", .flag f.hasGroups),
    ("has_git_dependencies", .flag f.hasGitDependencies),
    ("has_path_dependencies", .flag f.hasPathDependencies),
    ("line_count", .whole f.lineCount)]

def ManifestSurvey.toJson (s : ManifestSurvey) : Json :=
  .object [
    ("manifest_count", .whole s.count),
    ("manifest_types", .ofTally s.kinds),
    ("dependencies", .ofOption GemfileFacts.toJson s.dependencies),
    ("gemspec", .ofOption GemspecFacts.toJson s.gemspec)]

def FileCounts.toJson (c : FileCounts) : Json :=
  .object [
    ("total_files", .whole c.total),
    ("source_files", .whole c.sources),
    ("manifest_files", .whole c.manifests),
    ("files_analyzed", .whole c.analyzed),
    ("files_skipped", .whole c.skipped)]

def FileSection.toJson (s : FileSection) : Json :=
  .object [
    ("file_types", .ofTally s.types),
    ("largest_files", .array (s.largest.map LargeFile.toJson)),
    ("directory_distribution", .ofTally s.directories),
    ("file_size_distribution", s.sizes.toJson),
    ("naming_patterns", s.naming.toJson)]

def CodeSection.toJson (s : CodeSection) : Json :=
  .object [
    ("lines_of_code", s.lines.toJson),
    ("average_file_size", s.averageSize.toJson),
    ("file_count_by_size", s.sizes.toJson),
    ("method_density", s.methods.toJson),
    ("class_distribution", s.types.toJson)]

def ComplexitySection.toJson (s : ComplexitySection) : Json :=
  .object [
    ("cyclomatic_complexity", s.complexity.toJson),
    ("nesting_depth", s.nesting.toJson),
    ("method_length_distribution", s.methodLengths.toJson),
    ("class_size_distribution", s.classSizes.toJson)]

def Summary.toJson (s : Summary) : Json :=
  .object [
    ("total_files", .whole s.totalFiles),
    ("primary_language", .text s.primaryLanguage),
    ("lines_of_code", .whole s.codeLines),
    ("total_lines", .whole s.totalLines),
    ("comment_ratio", .ofAmount s.commentShare),
    ("average_file_size", .text s.averageFileSize),
    ("most_common_extension", .ofOption .text s.mostCommonExtension),
    ("largest_directory", .ofOption .text s.largestDirectory),
    ("total_methods", .whole s.totalMethods),
    ("total_classes", .whole s.totalClasses),
    ("total_modules", .whole s.totalModules),
    ("manifest_count", .whole s.manifestCount),
    ("complexity_score", .ofAmount s.complexityScore),
    ("files_analyzed", .whole s.filesAnalyzed),
    ("files_skipped", .whole s.filesSkipped)]

namespace Report

def toJson (r : Report) : Json :=
  .object [
    ("basic_stats", r.counts.toJson),
    ("file_analysis", r.files.toJson),
    ("code_metrics", r.code.toJson),
    ("complexity_analysis", r.complexity.toJson),
    ("manifest_analysis", r.manifests.toJson),
    ("summary", r.summary.toJson),
    ("skipped_files", .array (r.skipped.map SkippedFile.toJson))]

/-- A report as JSON text. -/
def jsonText (r : Report) : Except Fault String :=
  if r.toJson.isWritable then .ok r.toJson.toText else .error (.refused .tooLongToWrite)

end Report
end LineCensus
