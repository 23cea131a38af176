/-
# Report.Analyze -- the report of given files

Measure the sources, survey the manifests, list both, and compose.
-/
import LineCensus.Report.Compose

set_option autoImplicit false

namespace LineCensus
namespace Report

def analysisLog : String := "source_metrics.api"

/-- Analyze sources and manifests that are already found. -/
def analyze (disk : Disk) (settings : Settings) (workers : Workers) (cancelAfter : Option Nat)
    (sources manifests : List String) : Logged Report := do
  Logged.write .debug analysisLog
    ("Analyzing " ++ toString sources.length ++ " source files and "
      ++ toString manifests.length ++ " manifests")
  let corpus ← CorpusSurvey.ofPaths disk settings workers cancelAfter sources
  let survey ← ManifestSurvey.ofPaths disk settings.encoding manifests
  let listedSources ← Logged.ofExcept (ListedFile.ofPaths disk sources)
  let listedManifests ← Logged.ofExcept (ListedFile.ofPaths disk manifests)
  Logged.ofExcept (compose listedSources listedManifests corpus survey settings)

end Report
end LineCensus
