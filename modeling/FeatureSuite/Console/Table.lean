import FeatureSuite.Console.Markup
import FeatureSuite.Console.Wrapping
import FeatureSuite.Number.Double

/-!
# Tables

Tables with a title, a header and rows between lines. A column is as wide as its widest cell; where
the table does not fit, its widest columns are made narrower.
-/

namespace FeatureSuite

open Wrapping (Justification)

/-- A column of a table: its header, its cells, and where they stand. -/
structure Column where
  header : String
  cells : List String
  alignment : Justification := .left
  deriving DecidableEq, Repr

/-- A table whose columns have a cell for every row. -/
structure Table where
  title : String
  columns : List Column
  rows : Nat
  deriving DecidableEq, Repr

namespace Column

def ofMarkup (header : String) (cells : List String) (alignment : Justification) :
    Except Markup.Fault Column := do
  return { header, cells := ← cells.mapM Markup.plainText, alignment }

/-- The number of blanks beside a cell. -/
def padding : Nat := 2

/-- Whether a character ends a line when widths are measured. -/
def endsLine (c : Char) : Bool :=
  c = '\n' || c = '\r' || c = '\x0b' || c = '\x0c' || c = '\x1c' || c = '\x1d' || c = '\x1e' ||
    c = '\x85' || c = '\u2028' || c = '\u2029'

/-- The number of cells of the widest line of a text. `best` is that of the lines in front, and
`line` what is read of the present one, backwards. -/
def widest (best : Nat) (line : List Char) : List Char → Nat
  | [] => max best (Text.cellsOfChars line.reverse)
  | c :: rest =>
      if endsLine c then widest (max best (Text.cellsOfChars line.reverse)) [] rest
      else widest best (c :: line) rest

def width (column : Column) (limit : Nat) : Nat :=
  let texts := (column.header :: column.cells).map fun text => widest 0 [] text.toList
  min limit (texts.foldl max 0 + padding)

end Column

namespace Table

/-! ## Widths -/

def together (widths : List Nat) : Nat := widths.foldl (· + ·) 0

/-- Takes `total` away from widths in proportion to shares, at most `most` from each. -/
def reduce : (total share : Nat) → List (Nat × Nat × Nat) → List Nat
  | _, _, [] => []
  | total, share, (ratio, most, value) :: rest =>
      if ratio ≠ 0 && share > 0 then
        let part := min most (Double.roundRatio (ratio * total) share)
        (value - part) :: reduce (total - part) (share - ratio) rest
      else value :: reduce total share rest

/-- Takes `total` away from widths; those with nothing to take have no share. -/
def reduceBy (total : Nat) (ratios most values : List Nat) : List Nat :=
  let ratios := ratios.zipWith (fun ratio most => if most = 0 then 0 else ratio) most
  if together ratios = 0 then values
  else reduce total (together ratios) (ratios.zip (most.zip values))

/-- Makes the widest columns narrower until all fit, in at most `fuel` steps. -/
def collapse (limit : Nat) : (fuel : Nat) → List Nat → List Nat
  | 0, widths => widths
  | fuel + 1, widths =>
      let excess := together widths - limit
      if excess = 0 then widths
      else
        let widest := widths.foldl max 0
        let second := (widths.filter (· ≠ widest)).foldl max 0
        if widest = second then widths
        else
          let ratios := widths.map fun width => if width = widest then 1 else 0
          let most := widths.map fun _ => min excess (widest - second)
          collapse limit fuel (reduceBy excess ratios most widths)

def columnWidths (columns : List Column) (limit : Nat) : List Nat :=
  let widths := columns.map fun column => max 1 (column.width limit)
  if together widths ≤ limit then widths
  else
    let widths := collapse limit (together widths + 1) widths
    let excess := together widths - limit
    let widths :=
      if excess = 0 then widths else reduceBy excess (widths.map fun _ => 1) widths widths
    columns.zipWith Column.width widths

/-! ## Lines -/

/-- A line between rows. -/
def border (left middle right line : String) (widths : List Nat) : String :=
  let lines := widths.map fun width => String.join (List.replicate width line)
  left ++ Text.join middle lines ++ right

/-- The lines of a cell; none where nothing but blanks fits. -/
def cellLines (width : Nat) (alignment : Justification) (text : String) : List String :=
  if width ≤ Column.padding then []
  else
    (Wrapping.wrap (width - Column.padding) .ellipsis alignment text).map fun line =>
      " " ++ String.ofList (Wrapping.padEnd (width - Column.padding) line.toList) ++ " "

/-- The lines of a row: cells are filled up to the highest one, at the bottom or at the top. -/
def rowLines (mark : String) (atBottom : Bool) (widths : List Nat) (cells : List (List String)) :
    List String :=
  let height := (cells.map List.length).foldl max 1
  let filled := widths.zipWith (fun width lines =>
    let blanks := List.replicate (height - lines.length) (String.ofList (List.replicate width ' '))
    if atBottom then blanks ++ lines else lines ++ blanks) cells
  (List.range height).map fun i =>
    mark ++ Text.join mark (filled.map fun lines => lines[i]?.getD "") ++ mark

/-- The lines of a row of cells. -/
def row (table : Table) (mark : String) (header : Bool) (widths : List Nat)
    (text : Column → String) : List String :=
  rowLines mark header widths (table.columns.zipWith (fun column width =>
    cellLines width column.alignment (text column)) widths)

/-- The lines of a table that may take `width` cells. -/
def lines (table : Table) (width : Nat) : List String :=
  let edges := table.columns.length + 1
  let widths := columnWidths table.columns (width - edges)
  let rows := (List.range table.rows).flatMap fun i =>
    table.row "│" false widths fun column => column.cells[i]?.getD ""
  Wrapping.wrap (together widths + edges) .fold .center table.title ++
    [border "┏" "┳" "┓" "━" widths] ++ table.row "┃" true widths Column.header ++
    [border "┡" "╇" "┩" "━" widths] ++ rows ++ [border "└" "┴" "┘" "─" widths]

end Table

end FeatureSuite
