/-
# Manifest.Kind -- dependency manifests, by their names
-/
import LineCensus.Disk.Path

set_option autoImplicit false

namespace LineCensus

/-- Package descriptions, dependency lists, and variants of those. -/
inductive ManifestKind where
  | gemspec
  | gemfile
  | gemfileVariant
  deriving DecidableEq

namespace ManifestKind

def name : ManifestKind → String
  | .gemspec => "gemspec"
  | .gemfile => "gemfile"
  | .gemfileVariant => "gemfile_variant"

/-- The kind of manifest that the last part of a path names. -/
def ofPath? (path : String) : Option ManifestKind :=
  let file := (Path.basename path).toList
  if ".gemspec".toList.isSuffixOf file then some .gemspec
  else if file = "Gemfile".toList then some .gemfile
  else if "Gemfile.".toList.isPrefixOf file then some .gemfileVariant
  else none

end ManifestKind
end LineCensus
