/-
# Report.Format -- the forms of a report
-/
import LineCensus.Report.Json
import LineCensus.Report.Screen

set_option autoImplicit false

namespace LineCensus

inductive ReportFormat where
  | json
  | rich
  deriving DecidableEq

namespace ReportFormat

def names : List (String × ReportFormat) :=
  [("json", .json), ("rich", .rich)]

/-- The form of a name.  A list and a table cannot even be looked up. -/
def ofName (name : Value) : Except Fault ReportFormat :=
  let unknown : Except Fault ReportFormat :=
    .error (.refused (.formatter name (names.map (·.1))))
  match name with
  | .text name =>
      match names.lookup name with
      | some format => .ok format
      | none => unknown
  | .list _ => .error .wrongKind
  | .table _ => .error .wrongKind
  | _ => unknown

/-- The text of a report; only a form for a terminal depends on glyphs and a width. -/
def textWithin (glyphs : Glyphs) (width : Nat) (format : ReportFormat) (report : Report) :
    Except Fault String :=
  match format with
  | .json => report.jsonText
  | .rich => report.screenText glyphs width

/-- The width of a report that is not written to a terminal. -/
def pageWidth : Nat := 100

def text (format : ReportFormat) (report : Report) (glyphs : Glyphs := .plain) :
    Except Fault String :=
  format.textWithin glyphs pageWidth report

end ReportFormat
end LineCensus
