/-
# Manifest.Facts -- what the text of a manifest tells

Facts are read off the text without any grammar: a word occurs in it or does
not.  Only the lines that declare a package are counted one by one.
-/
import LineCensus.Text.Lines
import LineCensus.Text.Search

set_option autoImplicit false

namespace LineCensus

structure GemspecFacts where
  hasDependencies : Bool := false
  hasDevDependencies : Bool := false
  hasVersion : Bool := false
  hasDescription : Bool := false
  hasHomepage : Bool := false
  lineCount : Int := 0
  deriving DecidableEq

structure GemfileFacts where
  totalGems : Int := 0
  hasSource : Bool := false
  hasGroups : Bool := false
  hasGitDependencies : Bool := false
  hasPathDependencies : Bool := false
  lineCount : Int := 0
  deriving DecidableEq

/-- Whether a word stands in a text. -/
def mentions (content : Text) (word : String) : Bool :=
  Text.occursIn word.toList content

namespace GemspecFacts

def ofText (content : Text) : GemspecFacts where
  hasDependencies := mentions content "add_dependency" || mentions content "add_runtime_dependency"
  hasDevDependencies := mentions content "add_development_dependency"
  hasVersion := mentions content "version"
  hasDescription := mentions content "description"
  hasHomepage := mentions content "homepage"
  lineCount := content.rows.length

end GemspecFacts

/-- How a line that declares a package begins. -/
def gemWord : Text := "gem ".toList

def declaresGem (row : Text) : Bool :=
  gemWord.isPrefixOf row.trim

namespace GemfileFacts

def ofText (content : Text) : GemfileFacts where
  totalGems := content.rows.countP declaresGem
  hasSource := mentions content "source "
  hasGroups := mentions content "group "
  hasGitDependencies := mentions content "git:"
  hasPathDependencies := mentions content "path:"
  lineCount := content.rows.length

end GemfileFacts
end LineCensus
