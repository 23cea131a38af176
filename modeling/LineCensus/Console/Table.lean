/-
# Console.Table -- tables

A column is as wide as its widest cell, with a blank on either side.  If the
table is wider than the console, the widest columns are narrowed first, down to
the next widest, until it fits; if that is not enough, all columns are.  Cells
are wrapped at words, and a word longer than its column is cut.
-/
import LineCensus.Console.Wrap
import LineCensus.Number.Decimal
import LineCensus.Text.Lines

set_option autoImplicit false

namespace LineCensus

structure Column where
  header : Text
  rightAligned : Bool := false

/-- A table of texts; every row has a cell for every column. -/
structure Grid where
  title : Text
  columns : List Column
  rows : List (List Text)

namespace Grid

/-! ## Widths -/

/-- The blanks on both sides of a cell. -/
def padding : Nat := 2

/-- The width of the frame of a table: a bar before every column and one at the
end. -/
def frameWidth (columns : Nat) : Nat :=
  columns + 1

/-- The width that a column would have in the space given. -/
def columnWidth (glyphs : Glyphs) (space : Nat) (cells : List Text) : Nat :=
  if space < padding + 1 then space
  else
    (cells.map fun cell => min (Wrap.naturalWidth glyphs cell.rows + padding) space).foldl max 0

/-- Take `total` off widths by shares; no width loses more than its maximum. -/
def reduce (total : Nat) : List (Nat × Nat × Nat) → List Nat
  | entries => go total (sumNat (entries.map (·.1))) entries
where
  go (left shares : Nat) : List (Nat × Nat × Nat) → List Nat
    | [] => []
    | (share, maximum, width) :: rest =>
        if share ≠ 0 ∧ shares ≠ 0 then
          let taken := min maximum (roundQuotient (share * left) shares)
          (width - taken) :: go (left - taken) (shares - share) rest
        else width :: go left shares rest

/-- Narrow the widest columns to the next widest, as long as there is excess. -/
def collapse (space : Nat) : Nat → List Nat → List Nat
  | 0, widths => widths
  | fuel + 1, widths =>
      let excess := sumNat widths - space
      if excess = 0 then widths
      else
        let widest := widths.foldl max 0
        let second := (widths.map fun w => if w = widest then 0 else w).foldl max 0
        if widest = second then widths
        else
          let most := min excess (widest - second)
          let reduced := reduce excess (widths.map fun w => (if w = widest then 1 else 0, most, w))
          if reduced = widths then widths else collapse space fuel reduced

/-- Widths that fit into a space, as far as columns can be narrowed. -/
def fit (space : Nat) (widths : List Nat) : List Nat :=
  let collapsed := collapse space (sumNat widths + 1) widths
  let excess := sumNat collapsed - space
  if excess = 0 then collapsed
  else reduce excess (collapsed.map fun w => (if w = 0 then 0 else 1, w, w))

def cellsOf (grid : Grid) (index : Nat) : List Text :=
  ((grid.columns[index]?.map (·.header)).getD [])
    :: grid.rows.map fun row => row[index]?.getD []

/-- The widths of the columns in a console. -/
def widths (glyphs : Glyphs) (width : Nat) (grid : Grid) : List Nat :=
  let space := width - frameWidth grid.columns.length
  let cells := (List.range grid.columns.length).map (cellsOf grid)
  let natural := cells.map (columnWidth glyphs space)
  if sumNat natural ≤ space then natural
  else List.zipWith (columnWidth glyphs) (fit space natural) cells

/-! ## Drawing -/

/-- A row of a frame: left end, bar, joint, right end. -/
structure Rule where
  left : Char
  bar : Char
  joint : Char
  right : Char

def topRule : Rule := ⟨Char.ofNat 0x250F, Char.ofNat 0x2501, Char.ofNat 0x2533, Char.ofNat 0x2513⟩
def headRule : Rule := ⟨Char.ofNat 0x2521, Char.ofNat 0x2501, Char.ofNat 0x2547, Char.ofNat 0x2529⟩
def bottomRule : Rule := ⟨Char.ofNat 0x2514, Char.ofNat 0x2500, Char.ofNat 0x2534, Char.ofNat 0x2518⟩
def headBar : Char := Char.ofNat 0x2503
def bodyBar : Char := Char.ofNat 0x2502

def drawRule (rule : Rule) (widths : List Nat) : Text :=
  rule.left :: [rule.joint].intercalate (widths.map fun w => List.replicate w rule.bar)
    ++ [rule.right]

/-- The lines of a cell, blanks on both sides included. -/
def cellLines (glyphs : Glyphs) (column : Column) (width : Nat) (cell : Text) : List Text :=
  let inner := width - padding
  (Wrap.lines glyphs inner .cut cell).map fun line =>
    let placed :=
      if column.rightAligned then
        Wrap.padLeft glyphs inner (Wrap.truncate glyphs inner .cut line.trimEnd)
      else Wrap.padRight glyphs inner (Wrap.truncate glyphs inner .cut line)
    ' ' :: placed ++ [' ']

/-- The lines of a row.  Cells with fewer lines are filled up with blanks. -/
def rowLines (glyphs : Glyphs) (bar : Char) (columns : List Column) (widths : List Nat)
    (row : List Text) : List Text :=
  let cells :=
    List.zipWith (fun (c, w) cell => (w, cellLines glyphs c w cell)) (columns.zip widths) row
  let height := (cells.map (·.2.length)).foldl max 0
  (List.range height).map fun i =>
    bar :: [bar].intercalate (cells.map fun (w, lines) => lines[i]?.getD (Wrap.blanks w)) ++ [bar]

def titleLines (glyphs : Glyphs) (width : Nat) (title : Text) : List Text :=
  (Wrap.lines glyphs width .fold title).map fun line =>
    Wrap.centre glyphs width ' ' (Wrap.truncate glyphs width .fold line.trimEnd)

/-- The lines of a table in a console. -/
def lines (glyphs : Glyphs) (width : Nat) (grid : Grid) : List Text :=
  let widths := grid.widths glyphs width
  let tableWidth := sumNat widths + frameWidth widths.length
  titleLines glyphs tableWidth grid.title
    ++ [drawRule topRule widths]
    ++ rowLines glyphs headBar grid.columns widths (grid.columns.map (·.header))
    ++ [drawRule headRule widths]
    ++ grid.rows.flatMap (rowLines glyphs bodyBar grid.columns widths)
    ++ [drawRule bottomRule widths]

end Grid
end LineCensus
