/-
# Settings.Basic -- the settings of an analysis

A `Draft` has a value of any kind for every key.  `Draft.check` tests the keys in
a fixed order and stops at the first that is wrong; a value of a kind that a
test cannot compare is a fault of its own.  Only the encoding and the verbosity
are known to be texts after that: the other settings keep their values, and
whoever uses them says what it takes.
-/
import LineCensus.Encoding.Name
import LineCensus.Fault

set_option autoImplicit false

namespace LineCensus

inductive Verbosity where
  | quiet
  | normal
  | verbose
  deriving DecidableEq

namespace Verbosity

def name : Verbosity → String
  | .quiet => "quiet"
  | .normal => "normal"
  | .verbose => "verbose"

def ofName? (name : String) : Option Verbosity :=
  if name = "quiet" then some .quiet
  else if name = "normal" then some .normal
  else if name = "verbose" then some .verbose
  else none

end Verbosity

/-- Folders that are not looked into unless told otherwise. -/
def defaultExcludes : List String :=
  [".git", "node_modules", "vendor/bundle", "tmp", "log", "coverage", ".bundle"]

/-- Checked settings. -/
structure Settings where
  language : Value := .text "ruby"
  largestFilesLimit : Value := .whole 10
  workers : Value := .whole 1
  parallelThreshold : Value := .whole 10
  encoding : String := "utf-8"
  includeManifests : Value := .flag true
  excludePatterns : Value := .list (defaultExcludes.map .text)
  verbosity : Verbosity := .normal

namespace Settings

/-- Whether files are measured by more than one worker. -/
def isParallel (s : Settings) : Bool :=
  s.workers.compareWhole? 1 == some (some .gt)

def isVerbose (s : Settings) : Bool :=
  s.verbosity = .verbose

/-- Whether so many files are enough for more than one worker. -/
def reachesThreshold (s : Settings) (count : Nat) : Bool :=
  match s.parallelThreshold.compareWhole? count with
  | some (some .lt) => true
  | some (some .eq) => true
  | _ => false

end Settings

/-- Settings before they are checked. -/
structure Draft where
  language : Value := .text "ruby"
  largestFilesLimit : Value := .whole 10
  workers : Value := .whole 1
  parallelThreshold : Value := .whole 10
  encoding : Value := .text "utf-8"
  includeManifests : Value := .flag true
  excludePatterns : Value := .list (defaultExcludes.map .text)
  verbosity : Value := .text "normal"

namespace Draft

/-- The keys of the settings. -/
def keys : List String :=
  ["language", "largest_files_limit", "workers", "parallel_threshold", "encoding",
    "include_manifests", "exclude_patterns", "verbosity"]

/-- Put in the values that a table has. -/
def ofTable (table : Table) : Draft :=
  let base : Draft := {}
  let pick (key : String) (otherwise : Value) : Value := (table.get? key).getD otherwise
  { language := pick "language" base.language
    largestFilesLimit := pick "largest_files_limit" base.largestFilesLimit
    workers := pick "workers" base.workers
    parallelThreshold := pick "parallel_threshold" base.parallelThreshold
    encoding := pick "encoding" base.encoding
    includeManifests := pick "include_manifests" base.includeManifests
    excludePatterns := pick "exclude_patterns" base.excludePatterns
    verbosity := pick "verbosity" base.verbosity }

/-- Refuse a number below `least`. -/
def checkLeast (least : Int) (flaw : SettingFlaw) (value : Value) : Except Fault Unit :=
  match value.compareWhole? least with
  | none => .error .wrongKind
  | some (some .lt) => .error (.refused (.setting flaw))
  | some _ => .ok ()

/-- The name of a known codec; it need not be a text encoding. -/
def checkEncoding : Value → Except Fault String
  | .text name =>
      if Disk.hasNul name then .error (.refused .nulInName)
      else match Codec.find? name with
        | some _ => .ok name
        | none => .error (.refused (.setting (.unknownEncoding name)))
  | _ => .error .wrongKind

def checkVerbosity (value : Value) : Except Fault Verbosity :=
  match value with
  | .text name =>
      match Verbosity.ofName? name with
      | some verbosity => .ok verbosity
      | none => .error (.refused (.setting .unknownVerbosity))
  | _ => .error (.refused (.setting .unknownVerbosity))

/-- Check every key, in the order of `SettingFlaw`. -/
def check (draft : Draft) : Except Fault Settings := do
  if !draft.language.isTruthy then
    throw (.refused (.setting .emptyLanguage))
  checkLeast 0 .negativeLargestFilesLimit draft.largestFilesLimit
  checkLeast 1 .tooFewWorkers draft.workers
  checkLeast 1 .parallelThresholdTooLow draft.parallelThreshold
  let encoding ← checkEncoding draft.encoding
  let verbosity ← checkVerbosity draft.verbosity
  return {
    language := draft.language
    largestFilesLimit := draft.largestFilesLimit
    workers := draft.workers
    parallelThreshold := draft.parallelThreshold
    encoding
    includeManifests := draft.includeManifests
    excludePatterns := draft.excludePatterns
    verbosity }

end Draft
end LineCensus
