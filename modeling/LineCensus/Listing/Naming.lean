/-
# Listing.Naming -- conventions that file names follow

A name is judged without its extension, and by each convention on its own.  One
line feed at the end of a name does not count against the first two.
-/
import LineCensus.Listing.ListedFile
import LineCensus.Text.Digit

set_option autoImplicit false

namespace LineCensus

structure NamingCounts where
  snakeCase : Int := 0
  camelCase : Int := 0
  mixedCase : Int := 0
  withNumbers : Int := 0
  testFiles : Int := 0
  specFiles : Int := 0
  deriving DecidableEq

namespace Naming

/-- A text without a line feed at its end. -/
def dropFinalBreak (name : Text) : Text :=
  if name.getLast? = some '\n' then name.dropLast else name

def isSnakeChar (c : Char) : Bool :=
  c.isLower || c.isDigit || c == '_'

def isSnakeCase (name : Text) : Bool :=
  match dropFinalBreak name with
  | c :: rest => c.isLower && rest.all isSnakeChar
  | [] => false

def isCamelCase (name : Text) : Bool :=
  match dropFinalBreak name with
  | c :: rest => c.isUpper && rest.all Char.isAlphanum
  | [] => false

def isMixedCase (name : Text) : Bool :=
  name.any Char.isUpper && name.any Char.isLower

def hasNumber (name : Text) : Bool :=
  name.any isDecimal

def isTest (name : Text) : Bool :=
  Text.occursIn "test".toList name

def isSpec (name : Text) : Bool :=
  Text.occursIn "spec".toList name

end Naming

namespace NamingCounts

/-- How many names follow a convention. -/
def count (convention : Text → Bool) (files : List ListedFile) : Int :=
  files.countP fun file => convention file.stem.toList

def ofFiles (files : List ListedFile) : NamingCounts where
  snakeCase := count Naming.isSnakeCase files
  camelCase := count Naming.isCamelCase files
  mixedCase := count Naming.isMixedCase files
  withNumbers := count Naming.hasNumber files
  testFiles := count Naming.isTest files
  specFiles := count Naming.isSpec files

end NamingCounts
end LineCensus
