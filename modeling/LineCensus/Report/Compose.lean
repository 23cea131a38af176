/-
# Report.Compose -- a report from its pieces

Statistics on files cover sources and manifests together, those on names and
average size the sources alone.  The summary picks values out of the report: the
first of the fullest directories, the first of the most frequent extensions, and
the language as a name.
-/
import LineCensus.Report.Basic
import LineCensus.Text.Letter

set_option autoImplicit false

namespace LineCensus

/-- A language as a name; only a text can be one. -/
def languageName : Value → Except Fault String
  | .text s => .ok (String.ofList (capitalize s.toList))
  | _ => .error .unsupported

namespace Report

/-- The summary of a report. -/
def summarize (report : Report) (settings : Settings) : Except Fault Summary := do
  return {
    totalFiles := report.counts.total
    primaryLanguage := ← languageName settings.language
    codeLines := report.code.lines.code
    totalLines := report.code.lines.total
    commentShare := report.code.lines.commentShare
    averageFileSize := report.code.averageSize.words
    mostCommonExtension := report.files.types.top?
    largestDirectory := report.files.directories.head?.map (·.1)
    totalMethods := report.code.methods.methods
    totalClasses := report.code.types.classes
    totalModules := report.code.types.modules
    manifestCount := report.manifests.count
    complexityScore := report.complexity.complexity.average
    filesAnalyzed := report.counts.analyzed
    filesSkipped := report.counts.skipped }

/-- The report of a corpus whose files are listed. -/
def compose (sources manifests : List ListedFile) (corpus : CorpusSurvey)
    (survey : ManifestSurvey) (settings : Settings) : Except Fault Report := do
  let all := sources ++ manifests
  let largest ← LargeFile.ofFiles (← limitOf settings.largestFilesLimit) all
  let averageSize ← AverageSize.ofFiles sources
  let report : Report := {
    counts := {
      total := all.length
      sources := sources.length
      manifests := manifests.length
      analyzed := corpus.totals.filesAnalyzed
      skipped := corpus.skipped.length }
    files := {
      types := extensionCounts all
      largest
      directories := directoryCounts all
      sizes := SizeCounts.ofFiles all
      naming := NamingCounts.ofFiles sources }
    code := {
      lines := corpus.totals.lines
      averageSize
      sizes := CoarseSizeCounts.ofFiles sources
      methods := corpus.totals.methods
      types := corpus.totals.types }
    complexity := {
      complexity := corpus.totals.complexity
      nesting := corpus.totals.nesting
      methodLengths := corpus.totals.methodLengths
      classSizes := corpus.totals.classSizes }
    manifests := survey
    skipped := corpus.skipped }
  return { report with summary := ← report.summarize settings }

end Report
end LineCensus
