/-
# Report.Screen -- a report for a terminal

A framed summary, then a table for each section that has something to show, then
a line for every file that was passed over.  Paths, directories and reasons are
shown without a tag being read in them; the language and the extension may carry
markup.  Codes of emoji are read in all of them.

The numbers of a section are written before anything of it is shown, and a whole number
that is too long to be written ends the work.
-/
import LineCensus.Console.Markup
import LineCensus.Console.Panel
import LineCensus.Console.Table
import LineCensus.Report.Basic

set_option autoImplicit false

namespace LineCensus
namespace Screen

/-- Whether an amount is short enough to be written. -/
def isWritable : Amount → Bool
  | .whole n => isShort n
  | .real _ => true

/-- Numbers that are to be written. -/
def checkNumbers (numbers : List Amount) : Except Fault Unit :=
  if numbers.all isWritable then .ok () else .error (.refused .tooLongToWrite)

/-- A complexity score in words. -/
def complexityWords (score : Amount) : String :=
  if score.atLeast 50 then "[red bold]very high[/red bold]"
  else if score.atLeast 20 then "[red]high[/red]"
  else if score.atLeast 10 then "[yellow]moderate[/yellow]"
  else "[green]low[/green]"

/-- A line for a value that is there and not empty. -/
def optionalLine (label : String) (value : Option String) (write : String → String) :
    List String :=
  match value with
  | some s => if s.isEmpty then [] else [label ++ write s]
  | none => []

/-- The lines of the summary, as markup. -/
def summaryMarkup (s : Summary) : List String :=
  ["Files: [bold]" ++ toString s.totalFiles ++ "[/bold] (" ++ toString s.filesAnalyzed
      ++ " analyzed, " ++ toString s.filesSkipped ++ " skipped)",
    "Language: " ++ s.primaryLanguage,
    "Lines: " ++ toString s.totalLines ++ " total, " ++ toString s.codeLines ++ " code, "
      ++ s.commentShare.text ++ "% comments",
    "Methods: " ++ toString s.totalMethods ++ "  Classes: " ++ toString s.totalClasses
      ++ "  Modules: " ++ toString s.totalModules,
    "Complexity: " ++ s.complexityScore.text ++ " (" ++ complexityWords s.complexityScore ++ ")",
    "Average file size: " ++ s.averageFileSize]
    ++ optionalLine "Most common extension: " s.mostCommonExtension id
    ++ optionalLine "Largest directory: " s.largestDirectory
      fun directory => String.ofList (Markup.escape directory)

/-- The numbers that the summary shows. -/
def summaryNumbers (s : Summary) : List Amount :=
  [s.totalFiles, s.filesAnalyzed, s.filesSkipped, s.totalLines, s.codeLines, s.commentShare,
    s.totalMethods, s.totalClasses, s.totalModules, s.complexityScore]

def panelTitle : Text := " Source Metrics ".toList

def summaryLines (glyphs : Glyphs) (width : Nat) (s : Summary) : Except Fault (List Text) := do
  checkNumbers (summaryNumbers s)
  let content ← Markup.shown glyphs ("\n".intercalate (summaryMarkup s)).toList
  return Panel.lines glyphs width panelTitle content

/-! ## Tables -/

def plainColumn (header : String) : Column := { header := header.toList }

def numberColumn (header : String) : Column := { header := header.toList, rightAligned := true }

def metricRow (label : String) (value : String) : List Text := [label.toList, value.toList]

def codeGrid (r : Report) : Grid where
  title := "Code Metrics".toList
  columns := [plainColumn "Metric", numberColumn "Value"]
  rows := [
    metricRow "Code lines" (toString r.code.lines.code),
    metricRow "Comment lines" (toString r.code.lines.comment),
    metricRow "Blank lines" (toString r.code.lines.blank),
    metricRow "Total complexity" (toString r.complexity.complexity.total),
    metricRow "Max nesting depth" (toString r.complexity.nesting.deepest),
    metricRow "Average nesting depth" r.complexity.nesting.average.text,
    metricRow "Methods per 100 lines" r.code.methods.perHundredLines.text]

def lengthRow (label : String) (s : LengthSummary) : List Text :=
  [label, toString s.count, s.average.text, toString s.minimum, toString s.median,
    toString s.maximum].map String.toList

def lengthGrid (r : Report) : Grid where
  title := "Block Lengths".toList
  columns := plainColumn "Kind" :: ["Count", "Avg", "Min", "Median", "Max"].map numberColumn
  rows := [lengthRow "Methods" r.complexity.methodLengths,
    lengthRow "Classes" r.complexity.classSizes]

/-- The numbers of the two tables that are always shown. -/
def gridNumbers (r : Report) : List Amount :=
  let code : List Amount :=
    [r.code.lines.code, r.code.lines.comment, r.code.lines.blank, r.complexity.complexity.total,
      r.complexity.nesting.deepest, r.complexity.nesting.average, r.code.methods.perHundredLines]
  let lengths (s : LengthSummary) : List Amount :=
    [s.count, s.average, s.minimum, s.median, s.maximum]
  code ++ lengths r.complexity.methodLengths ++ lengths r.complexity.classSizes

def fileRow (glyphs : Glyphs) (file : LargeFile) : Except Fault (List Text) := do
  return [← Markup.shown glyphs (Markup.escape file.path), file.kib.text.toList]

/-- The table of the largest files, unless there are none. -/
def fileLines (glyphs : Glyphs) (width : Nat) (files : List LargeFile) :
    Except Fault (List Text) := do
  if files.isEmpty then return []
  checkNumbers (files.map (·.kib))
  let rows ← files.mapM (fileRow glyphs)
  return Grid.lines glyphs width {
    title := "Largest Files".toList
    columns := [plainColumn "File", numberColumn "KB"]
    rows }

/-- The line of a file that was passed over, wrapped. -/
def skippedLines (glyphs : Glyphs) (width : Nat) (s : SkippedFile) : Except Fault (List Text) := do
  let shown ← Markup.shown glyphs
    ("[yellow]Skipped[/yellow] ".toList ++ Markup.escape s.path ++ ": ".toList
      ++ Markup.escape s.reason)
  return Wrap.page glyphs width shown

/-- All lines of a report. -/
def lines (glyphs : Glyphs) (width : Nat) (r : Report) : Except Fault (List Text) := do
  let summary ← summaryLines glyphs width r.summary
  checkNumbers (gridNumbers r)
  let files ← fileLines glyphs width r.files.largest
  let skipped ← r.skipped.mapM (skippedLines glyphs width)
  return summary ++ (codeGrid r).lines glyphs width ++ (lengthGrid r).lines glyphs width ++ files
    ++ skipped.flatten

/-- Lines as text, each with its end. -/
def textOf (lines : List Text) : String :=
  String.ofList (lines.flatMap fun line => line ++ ['\n'])

end Screen

namespace Report

/-- A report as text for a terminal of a width. -/
def screenText (glyphs : Glyphs) (width : Nat) (r : Report) : Except Fault String := do
  return Screen.textOf (← Screen.lines glyphs width r)

end Report
end LineCensus
