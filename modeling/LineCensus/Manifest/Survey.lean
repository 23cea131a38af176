/-
# Manifest.Survey -- the manifests of a corpus

Every manifest counts towards its kind.  Facts are kept of the last package
description and the last dependency list that could be read; variants of a
dependency list are only counted.  A manifest that cannot be read changes no
facts.
-/
import LineCensus.Disk.Read
import LineCensus.Listing.Tally
import LineCensus.Log
import LineCensus.Manifest.Facts
import LineCensus.Manifest.Kind

set_option autoImplicit false

namespace LineCensus

structure ManifestSurvey where
  count : Int := 0
  kinds : Tally := []
  dependencies : Option GemfileFacts := none
  gemspec : Option GemspecFacts := none
  deriving DecidableEq

namespace ManifestSurvey

def manifestLog : String := "source_metrics.manifests"

/-- Count a manifest of a kind. -/
def tally (survey : ManifestSurvey) (kind : ManifestKind) : ManifestSurvey :=
  { survey with count := survey.count + 1, kinds := survey.kinds.add kind.name }

/-- Keep the facts of a manifest. -/
def learn (survey : ManifestSurvey) (kind : ManifestKind) (content : Text) : ManifestSurvey :=
  match kind with
  | .gemspec => { survey with gemspec := some (GemspecFacts.ofText content) }
  | .gemfile => { survey with dependencies := some (GemfileFacts.ofText content) }
  | .gemfileVariant => survey

/-- Take in one path. -/
def visit (disk : Disk) (encoding : String) (survey : ManifestSurvey) (path : String) :
    Logged ManifestSurvey := do
  match ManifestKind.ofPath? path with
  | none =>
      Logged.write .debug manifestLog ("Not a recognised manifest: " ++ path)
      return survey
  | some .gemfileVariant => return survey.tally .gemfileVariant
  | some kind =>
      match disk.readText encoding path with
      | .ok content => return (survey.tally kind).learn kind content
      | .error (.problem problem) =>
          Logged.write .warning manifestLog
            ("Could not analyze manifest " ++ path ++ ": " ++ problem.reason)
          return survey.tally kind
      | .error (.fault fault) => Logged.fail fault

/-- Take in paths in order. -/
def visitAll (disk : Disk) (encoding : String) (survey : ManifestSurvey) :
    List String → Logged ManifestSurvey
  | [] => return survey
  | path :: rest => do
      let survey ← visit disk encoding survey path
      visitAll disk encoding survey rest

def ofPaths (disk : Disk) (encoding : String) (paths : List String) : Logged ManifestSurvey :=
  visitAll disk encoding {} paths

end ManifestSurvey
end LineCensus
