/-
# Corpus.Collect -- measuring the files of a corpus

Every file is measured on its own: the outcome is its measure or the reason for
passing it over.  Outcomes are collected in the order of the paths, whether the
files are measured one after the other or by a pool of workers, and the totals
are taken when all of them are there.

A run can be cancelled: before every file it asks whether it is, and from then on no
file is begun.  The files before that are measured as usual.
-/
import LineCensus.Corpus.Pool
import LineCensus.Measure.Corpus
import LineCensus.Settings.Basic
import LineCensus.Source.Scan

set_option autoImplicit false

namespace LineCensus

/-- What came of one file. -/
abbrev Outcome := Except SkippedFile FileMeasure

/-- The outcomes of a corpus, each kind in the order of the paths. -/
structure Collection where
  measured : List FileMeasure := []
  skipped : List SkippedFile := []

namespace Collection

def measured? : Outcome → Option FileMeasure
  | .ok measure => some measure
  | .error _ => none

def skipped? : Outcome → Option SkippedFile
  | .ok _ => none
  | .error skipped => some skipped

def ofOutcomes (outcomes : List Outcome) : Collection :=
  { measured := outcomes.filterMap measured?
    skipped := outcomes.filterMap skipped? }

end Collection

namespace Corpus

def corpusLog : String := "source_metrics.metrics.aggregator"

/-- Measure one file. -/
def measure (disk : Disk) (settings : Settings) (path : String) : Logged Outcome := do
  match ← Source.scan disk settings.encoding path with
  | .ok lines => return .ok (FileMeasure.ofLines path lines)
  | .error skipped => return .error skipped

/-- Whether the run counts as cancelled when it is asked for the time with this
number, the first being zero. -/
def isCancelled (cancelAfter : Option Nat) (poll : Nat) : Bool :=
  match cancelAfter with
  | some limit => limit ≤ poll
  | none => false

/-- Note that a run ended early. -/
def noteCancelled (verb : String) (reached count : Nat) : Logged Unit :=
  Logged.write .debug corpusLog
    ("Cancelled after " ++ verb ++ toString reached ++ " of " ++ toString count ++ " files")

/-- Measure one file after the other, asking before each whether the run is
cancelled; `done` are the outcomes so far, last first, of `count` files in all. -/
def measureInTurn (disk : Disk) (settings : Settings) (cancelAfter : Option Nat) (count : Nat)
    (done : List Outcome) : List String → Logged (List Outcome)
  | [] => return done.reverse
  | path :: rest =>
      if isCancelled cancelAfter done.length then do
        noteCancelled "" done.length count
        return done.reverse
      else do
        let outcome ← measure disk settings path
        measureInTurn disk settings cancelAfter count (outcome :: done) rest

def collectInTurn (disk : Disk) (settings : Settings) (cancelAfter : Option Nat)
    (paths : List String) : Logged (List Outcome) :=
  measureInTurn disk settings cancelAfter paths.length [] paths

/-- The tasks that a pool is given, one for each path, asking before each whether the
run is cancelled; `submitted` are those so far, last first. -/
def enqueue (disk : Disk) (settings : Settings) (cancelAfter : Option Nat) (count : Nat)
    (submitted : List (Logged Outcome)) : List String → Logged (List (Logged Outcome))
  | [] => return submitted.reverse
  | path :: rest =>
      if isCancelled cancelAfter submitted.length then do
        noteCancelled "enqueuing " submitted.length count
        return submitted.reverse
      else enqueue disk settings cancelAfter count (measure disk settings path :: submitted) rest

def collectInPool (disk : Disk) (settings : Settings) (workers : Workers)
    (cancelAfter : Option Nat) (paths : List String) : Logged (List Outcome) := do
  let tasks ← enqueue disk settings cancelAfter paths.length [] paths
  Pool.run workers tasks

/-- Measure the files of the paths. -/
def collect (disk : Disk) (settings : Settings) (workers : Workers) (cancelAfter : Option Nat)
    (paths : List String) : Logged Collection := do
  let outcomes ←
    if settings.isParallel ∧ settings.reachesThreshold paths.length then
      collectInPool disk settings workers cancelAfter paths
    else collectInTurn disk settings cancelAfter paths
  return Collection.ofOutcomes outcomes

end Corpus

/-- The totals of a corpus and the files that were passed over. -/
structure CorpusSurvey where
  totals : CorpusMeasure := {}
  skipped : List SkippedFile := []

namespace CorpusSurvey

def ofCollection (collection : Collection) : Except Fault CorpusSurvey := do
  return { totals := ← CorpusMeasure.ofFiles collection.measured, skipped := collection.skipped }

/-- Measure a corpus and fold it. -/
def ofPaths (disk : Disk) (settings : Settings) (workers : Workers) (cancelAfter : Option Nat)
    (paths : List String) : Logged CorpusSurvey := do
  let collection ← Corpus.collect disk settings workers cancelAfter paths
  unless collection.skipped.isEmpty do
    Logged.write .info Corpus.corpusLog
      ("Analyzed " ++ toString collection.measured.length ++ " of " ++ toString paths.length
        ++ " files, " ++ toString collection.skipped.length ++ " skipped")
  Logged.ofExcept (ofCollection collection)

end CorpusSurvey
end LineCensus
