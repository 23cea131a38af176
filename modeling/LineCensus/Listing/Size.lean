/-
# Listing.Size -- sizes of files, by class and in words

Sizes fall into half-open classes at 1, 10, 100 and 1024 KiB.  The coarse count
puts everything from 100 KiB up into one class.  Files that are gone are in no
class, but an average counts them with size zero.
-/
import LineCensus.Listing.ListedFile
import LineCensus.Measure.Ratio

set_option autoImplicit false

namespace LineCensus

inductive SizeClass where
  | tiny
  | small
  | medium
  | large
  | huge
  deriving DecidableEq

def kibibyte : Int := 1024

namespace SizeClass

def name : SizeClass → String
  | .tiny => "tiny"
  | .small => "small"
  | .medium => "medium"
  | .large => "large"
  | .huge => "huge"

def ofSize (size : Int) : SizeClass :=
  if size < kibibyte then .tiny
  else if size < 10 * kibibyte then .small
  else if size < 100 * kibibyte then .medium
  else if size < 1024 * kibibyte then .large
  else .huge

/-- The class of an amount; what is not a number is below nothing. -/
def ofAmount (size : Amount) : SizeClass :=
  if size.isBelow kibibyte then .tiny
  else if size.isBelow (10 * kibibyte) then .small
  else if size.isBelow (100 * kibibyte) then .medium
  else if size.isBelow (1024 * kibibyte) then .large
  else .huge

/-- The class where everything from 100 KiB up is large. -/
def coarse : SizeClass → SizeClass
  | .huge => .large
  | c => c

end SizeClass

structure SizeCounts where
  tiny : Int := 0
  small : Int := 0
  medium : Int := 0
  large : Int := 0
  huge : Int := 0
  deriving DecidableEq

structure CoarseSizeCounts where
  tiny : Int := 0
  small : Int := 0
  medium : Int := 0
  large : Int := 0
  deriving DecidableEq

/-- How many of the files that are there have a size of a class. -/
def countOfClass (classOf : Int → SizeClass) (c : SizeClass) (files : List ListedFile) : Int :=
  files.countP fun file => file.isPresent && classOf file.size == c

namespace SizeCounts

def ofFiles (files : List ListedFile) : SizeCounts where
  tiny := countOfClass SizeClass.ofSize .tiny files
  small := countOfClass SizeClass.ofSize .small files
  medium := countOfClass SizeClass.ofSize .medium files
  large := countOfClass SizeClass.ofSize .large files
  huge := countOfClass SizeClass.ofSize .huge files

end SizeCounts

namespace CoarseSizeCounts

def classOf (size : Int) : SizeClass :=
  (SizeClass.ofSize size).coarse

def ofFiles (files : List ListedFile) : CoarseSizeCounts where
  tiny := countOfClass classOf .tiny files
  small := countOfClass classOf .small files
  medium := countOfClass classOf .medium files
  large := countOfClass classOf .large files

end CoarseSizeCounts

/-! ## Sizes in words -/

/-- 1024 in double precision. -/
def kibibyteReal : Binary64 :=
  Binary64.ofUnits false (1024 * Binary64.unitsPerOne) 1

/-- The units above the one in use. -/
def unitsAbove : List String := ["KB", "MB", "GB", "TB"]

/-- Divide by 1024 while the number has at least four digits in that base and a
larger unit is left. -/
def scaleSize (value : Binary64) (unit : String) : List String → Binary64 × String
  | [] => (value, unit)
  | next :: above =>
      if value.atLeast kibibyte then scaleSize (value.div kibibyteReal) next above
      else (value, unit)

/-- A size as a number with its unit, as in `1.5 KB`. -/
def sizeText (size : Amount) : Except Fault String := do
  let (value, unit) := scaleSize (← size.toBinary64) "B" unitsAbove
  return (← rounded averagePlaces value).text ++ " " ++ unit

/-- The quotient of two whole numbers, the second not zero. -/
def quotient (numerator denominator : Int) : Except Fault Binary64 :=
  match Binary64.ratio? numerator denominator with
  | some x => .ok x
  | none => .error .tooLarge

/-- A size in KiB, rounded. -/
def sizeInKib (size : Int) : Except Fault Binary64 := do
  rounded averagePlaces (← quotient size kibibyte)

/-- An average size in bytes, in KiB, and in words. -/
structure AverageSize where
  bytes : Amount := .zero
  kib : Amount := .zero
  words : String := "0.0 B"
  deriving DecidableEq

namespace AverageSize

def ofFiles (files : List ListedFile) : Except Fault AverageSize := do
  if files.isEmpty then return {}
  let average ← quotient (sumInt (files.map (·.size))) files.length
  return {
    bytes := ← rounded averagePlaces average
    kib := ← rounded averagePlaces (average.div kibibyteReal)
    words := ← sizeText (.real average) }

end AverageSize
end LineCensus
