import ErrorTables.Console.Wrap
import ErrorTables.Rounding

/-!
Tables on the page: a title, and columns with a head and cells, drawn in a box with heavy lines
around the head. Columns are as wide as their longest line. If they do not fit on the page, the
widest ones are narrowed until they do, and their cells are wrapped.
-/

namespace ErrorTables.Console

open Text

/-- The side that the cells of a column keep to. -/
inductive Alignment where
  | left
  | right
  deriving DecidableEq, Repr

/-- A column of a table: its head and its cells from top to bottom, as markup. -/
structure Column where
  header : String
  alignment : Alignment := .left
  cells : List String := []
  deriving DecidableEq, Repr

/-- A table. All its columns have the same number of cells. -/
structure Table where
  title : String
  columns : List Column
  deriving DecidableEq, Repr

/-! ### Widths -/

/-- The cells that the blanks beside a text take in a column. -/
def sideBlanks : Nat := 2

/-- The width of a text: that of its longest line. -/
def naturalWidth (text : List Glyph) : Nat :=
  ((splitLines (Glyph.toText text)).map fun line => cellWidth (Glyph.ofText line)).foldl max 0

/-- The width of a column whose texts are given, on a page that leaves some cells to columns. -/
def columnWidth (available : Nat) (texts : List (List Glyph)) : Nat :=
  min available ((texts.map naturalWidth).foldl max 0 + sideBlanks)

/-- Takes cells from the columns of the greatest width, at most `limit` from each, as evenly as
possible. `count` is the number of columns of that width that are left. -/
def takeFromWidest (widest limit excess count : Nat) : List Nat → List Nat
  | [] => []
  | width :: rest =>
      if width = widest then
        let share := min limit (roundedQuotient excess count)
        (width - share) :: takeFromWidest widest limit (excess - share) (count - 1) rest
      else width :: takeFromWidest widest limit excess count rest

/-- Narrows the widest columns towards the next width, and again, until all fit into the available
cells or the given number of rounds is over. -/
def narrow (available : Nat) : Nat → List Nat → List Nat
  | 0, widths => widths
  | rounds + 1, widths =>
      let excess := widths.foldr (· + ·) 0 - available
      let widest := widths.foldl max 0
      let next := (widths.filter (· ≠ widest)).foldl max 0
      if excess = 0 || widest = next then widths
      else
        let limit := min excess (widest - next)
        narrow available rounds (takeFromWidest widest limit excess (widths.count widest) widths)

/-- The widths of the columns whose texts are given. Each round of narrowing takes a cell at
least. -/
def columnWidths (page : Nat) (columns : List (List (List Glyph))) : List Nat :=
  let available := page - (columns.length + 1)
  let widths := columns.map (columnWidth available)
  narrow available (widths.foldr (· + ·) 0 - available) widths

/-! ### Lines -/

/-- A line moved to a side of a number of cells. -/
def align (alignment : Alignment) (width : Nat) (line : List Glyph) : List Glyph :=
  match alignment with
  | .left => pad width (truncate width line)
  | .right =>
      let line := truncate width (Glyph.trimEnd line)
      blanks (width - cellWidth line) false ++ line

/-- A line in the middle of a number of cells; an odd blank goes behind it. -/
def center (width : Nat) (line : List Char) : List Char :=
  let size := width - cellWidth (Glyph.ofText line)
  List.replicate (size / 2) ' ' ++ line ++ List.replicate (size - size / 2) ' '

/-- The lines of a cell, with a blank on both sides. -/
def cellLines (width : Nat) (alignment : Alignment) (text : List Glyph) : List (List Char) :=
  (wrap (width - sideBlanks) false text).map fun line =>
    let line := fit (width - sideBlanks) (align alignment (width - sideBlanks) line)
    ' ' :: Glyph.toText line ++ [' ']

/-- Fills a cell up with empty lines. -/
def fillCell (height width : Nat) (lines : List (List Char)) : List (List Char) :=
  lines ++ List.replicate (height - lines.length) (List.replicate width ' ')

/-- A line of a box: its parts between two edges, with dividers between them. -/
def ruled (left divider right : Char) (parts : List (List Char)) : List Char :=
  left :: [divider].intercalate parts ++ [right]

/-- A horizontal line of a box. -/
def ruler (left line divider right : Char) (widths : List Nat) : List Char :=
  ruled left divider right (widths.map fun width => List.replicate width line)

/-- The lines of a row, given the lines of each cell with its width. -/
def rowLines (edge divider : Char) (cells : List (Nat × List (List Char))) : List (List Char) :=
  let height := (cells.map (·.2.length)).foldl max 1
  let filled := cells.map fun (width, lines) => fillCell height width lines
  (List.range height).map fun index =>
    ruled edge divider edge (filled.map fun lines => lines[index]?.getD [])

/-- The texts of a column, head first. -/
def Column.texts (column : Column) : Except Markup.Fault (List Markup.Rendered) :=
  (column.header :: column.cells).mapM Markup.render

/-- A row of a table: for each column its width, the side that it keeps to, and the text. -/
abbrev Row := List (Nat × Alignment × Markup.Rendered)

namespace Row

/-- The lines of a row. The styles of its cells are looked up from left to right. -/
def lines (edge divider : Char) (row : Row) : Except Markup.Fault (List (List Char)) := do
  row.forM fun (_, _, text) => text.checkStyles
  return rowLines edge divider (row.map fun (width, alignment, text) =>
    (width, cellLines width alignment text.glyphs))

end Row

namespace Table

/-- The rows of texts that are given by columns, with the widths of the columns. -/
def rows (widths : List Nat) (alignments : List Alignment)
    (columns : List (List Markup.Rendered)) : List Row :=
  let count := (columns.map List.length).foldl max 1
  (List.range count).map fun index =>
    widths.zip (alignments.zip (columns.map fun texts =>
      texts[index]?.getD { glyphs := [], styles := [] }))

/-- The lines of a table on a page of the given width. -/
def lines (page : Nat) (table : Table) : Except Markup.Fault (List (List Char)) := do
  let columns ← table.columns.mapM Column.texts
  let widths := columnWidths page (columns.map fun texts => texts.map (·.glyphs))
  let rows := rows widths (table.columns.map (·.alignment)) columns
  let top := ruler '┏' '━' '┳' '┓' widths
  let heads ← (rows.take 1).mapM (Row.lines '┃' '┃')
  let cells ← (rows.drop 1).mapM (Row.lines '│' '│')
  return center top.length table.title.toList :: top :: heads.flatten ++
    ruler '┡' '━' '╇' '┩' widths :: cells.flatten ++ [ruler '└' '─' '┴' '┘' widths]

/-- The table as it is printed. -/
def print (table : Table) : Except Markup.Fault String :=
  (table.lines pageWidth).map fun lines => closeLines (lines.map String.ofList)

end Table

end ErrorTables.Console
