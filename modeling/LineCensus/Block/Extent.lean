/-
# Block.Extent -- the lines that a method or a class takes up
-/

set_option autoImplicit false

namespace LineCensus

namespace Extent

/-- The blocks whose extents are recorded. -/
inductive Kind where
  | method
  | classBody
  deriving DecidableEq

end Extent

/-- A closed method or class, from the line that opens it to the line that
closes it. -/
structure Extent where
  kind : Extent.Kind
  startLine : Int
  endLine : Int
  deriving DecidableEq

namespace Extent

/-- How many lines it takes up, both ends included. -/
def length (extent : Extent) : Int :=
  extent.endLine - extent.startLine + 1

def ofKind (kind : Kind) (extents : List Extent) : List Extent :=
  extents.filter (·.kind = kind)

end Extent
end LineCensus
