/-
# Fault -- everything that can go wrong, by cause

A `ReportedError` is an error that the program reports in its own words: it has
a message and details.  A `Fault` is any failure of an operation: a reported
error, a value that is refused, a value of the wrong kind, a number that is too
large, or something the disk or a text did not allow.  Causes are constructors;
their wording is in one place, `message`.
-/
import LineCensus.Disk.Tree
import LineCensus.Value.Basic

set_option autoImplicit false

namespace LineCensus

/-! ## Values that are refused -/

/-- The settings that are checked, and what is wrong with one. -/
inductive SettingFlaw where
  | emptyLanguage
  | negativeLargestFilesLimit
  | tooFewWorkers
  | parallelThresholdTooLow
  | unknownEncoding (name : String)
  | unknownVerbosity

def verbosityNames : List String := ["quiet", "normal", "verbose"]

namespace SettingFlaw

/-- The key of the setting. -/
def key : SettingFlaw → String
  | .emptyLanguage => "language"
  | .negativeLargestFilesLimit => "largest_files_limit"
  | .tooFewWorkers => "workers"
  | .parallelThresholdTooLow => "parallel_threshold"
  | .unknownEncoding _ => "encoding"
  | .unknownVerbosity => "verbosity"

def complaint : SettingFlaw → String
  | .emptyLanguage => "must not be empty"
  | .negativeLargestFilesLimit => "must be non-negative"
  | .tooFewWorkers => "must be at least 1"
  | .parallelThresholdTooLow => "must be at least 1"
  | .unknownEncoding name => quoted name ++ " is not a known codec"
  | .unknownVerbosity => "must be one of " ++ ", ".intercalate verbosityNames

def message (flaw : SettingFlaw) : String :=
  flaw.key ++ " " ++ flaw.complaint

end SettingFlaw

/-- The longest quoted text in a message about a number. -/
def quotedNumberLimit : Nat := 200

/-- A value that an operation refuses. -/
inductive Refusal where
  | setting (flaw : SettingFlaw)
  | nulInPath
  | nulInName
  | verbosity (value : Value)
  | formatter (name : Value) (choices : List String)
  | notANumber (written : String)
  | notADecimal (written : String)
  | tooManyDigits (count : Nat)
  /-- A whole number too long to be written. -/
  | tooLongToWrite
  /-- What is no number has no closest whole number. -/
  | noWholeNumber
  | notASwitch (written : String)

namespace Refusal

def digitLimitText : String :=
  "Exceeds the limit (" ++ toString digitLimit ++ " digits) for integer string conversion"

def digitLimitAdvice : String :=
  "; use sys.set_int_max_str_digits() to increase the limit"

def message : Refusal → String
  | .setting flaw => flaw.message
  | .nulInPath => "embedded null byte"
  | .nulInName => "embedded null character"
  | .verbosity value => "Unknown verbosity: " ++ value.shown
  | .formatter name choices =>
      "Unknown formatter: " ++ name.shown ++ ". Choose from: " ++ ", ".intercalate choices
  | .notANumber written =>
      "invalid literal for int() with base 10: "
        ++ String.ofList ((quoted written).toList.take quotedNumberLimit)
  | .notADecimal written => "could not convert string to float: " ++ quoted written
  | .tooManyDigits count =>
      digitLimitText ++ ": value has " ++ toString count ++ " digits" ++ digitLimitAdvice
  | .tooLongToWrite => digitLimitText ++ digitLimitAdvice
  | .noWholeNumber => "cannot convert float NaN to integer"
  | .notASwitch written => "expected true/false, got '" ++ written ++ "'"

end Refusal

/-! ## Errors in the program's own words -/

/-- Families of errors, from the most general one. -/
inductive ErrorFamily where
  | general
  | analysis
  | configuration

/-- What can be wrong with a settings file. -/
inductive SettingsFileProblem where
  | unreadable (problem : PathProblem)
  | malformed

/-- Errors.  Whoever states one gives its message, its reason and its key, and
they are kept as they are given. -/
inductive ReportedError where
  /-- An error stated by its message alone. -/
  | stated (family : ErrorFamily) (message : Value) (details : Table)
  | fileAccess (path : String) (reason : Value)
  | invalidPath (path : String) (reason : Value)
  | invalidSetting (key value reason : Value)
  | settingsFileMissing (path : String)
  | settingsFile (path : String) (problem : SettingsFileProblem)
  | variable (name : String) (refusal : Refusal)
  | unknownSettings (keys : List String)

/-- The text of a path problem, with its number and the path. -/
def PathProblem.message (problem : PathProblem) (path : String) : String :=
  "[Errno " ++ toString problem.number ++ "] " ++ problem.reason ++ ": " ++ quoted path

namespace ReportedError

/-- The message.  What exactly is malformed in a settings file is not part of
it. -/
def message : ReportedError → Value
  | .stated _ message _ => message
  | .fileAccess path _ => "Cannot access file: " ++ path
  | .invalidPath path _ => "Invalid path: " ++ path
  | .invalidSetting key value _ =>
      "Invalid configuration for " ++ key.plain ++ ": " ++ value.plain
  | .settingsFileMissing path => "Config file not found: " ++ path
  | .settingsFile path (.unreadable problem) =>
      "Invalid config file '" ++ path ++ "': " ++ problem.message path
  | .settingsFile path .malformed => "Invalid config file '" ++ path ++ "'"
  | .variable name refusal => "Invalid " ++ name ++ ": " ++ refusal.message
  | .unknownSettings keys => "Unknown configuration keys: " ++ ", ".intercalate keys

def details : ReportedError → Table
  | .stated _ _ details => details
  | .fileAccess path reason => [("filepath", .text path), ("reason", reason)]
  | .invalidPath path reason => [("path", .text path), ("reason", reason)]
  | .invalidSetting key value reason =>
      [("key", key), ("value", .text value.plain), ("reason", reason)]
  | .settingsFileMissing _ => []
  | .settingsFile _ _ => []
  | .variable _ _ => []
  | .unknownSettings _ => []

/-- The message with the details after it in brackets, if there are any. -/
def text (e : ReportedError) : String :=
  if e.details.isEmpty then e.message.plain
  else
    e.message.plain ++ " ("
      ++ ", ".intercalate (e.details.map fun d => d.1 ++ "=" ++ d.2.plain) ++ ")"

/-- Whether the error has a text: a message that stands alone must be one. -/
def hasText (e : ReportedError) : Bool :=
  !e.details.isEmpty || e.message.isText

end ReportedError

/-! ## Failures -/

inductive Fault where
  | reported (error : ReportedError)
  | refused (refusal : Refusal)
  /-- A value of a kind that the operation does not take. -/
  | wrongKind
  /-- A value of a kind that has not what is asked of it. -/
  | unsupported
  | tooLarge
  | noByteOrderMark
  | malformedText
  | disk (problem : PathProblem)
  /-- Markup that does not close what it opens, or opens what cannot be read. -/
  | badMarkup
  /-- A value or a folder nested deeper than is read. -/
  | tooDeep

/-- The details that a value gives: a table, or none if it counts as absent. -/
def ReportedError.detailsOf : Value → Except Fault Table
  | .table entries => .ok entries
  | value => if value.isTruthy then .error .unsupported else .ok []

end LineCensus
