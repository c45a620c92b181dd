import FeatureSuite.Gherkin.Document
import FeatureSuite.Suite.Title

/-!
# Rows of outlines

Every row below the header of a block of examples is a test of its own. Its title is made by a
format, which a comment on the line above the block may give.
-/

namespace FeatureSuite

open Gherkin (Document Examples Scenario TableRow)

def titleFormatStart : String := "# title-format:"

def titleFormat (document : Document) (block : Examples) (default : String) : String :=
  let text := match document.commentAt? (block.location.line - 1) with
    | some comment => Text.strip comment.text
    | none => ""
  match Text.dropStart? titleFormatStart text with
  | some format => Text.strip format
  | none => default

def setValue (name : String) (value : TitleValue) :
    List (String × TitleValue) → List (String × TitleValue)
  | [] => [(name, value)]
  | (other, old) :: rest =>
      if other = name then (name, value) :: rest else (other, old) :: setValue name value rest

/-- The values for the title of a row: its index, then its cells by the names of their columns. -/
def rowValues (block : Examples) (row : TableRow) (index : Nat) : List (String × TitleValue) :=
  (block.columnNames.zip row.cells).foldl
    (fun values (name, cell) =>
      if name = "" then values else setValue name (.text cell.value) values)
    [(indexName, .index index)]

def valueOf? (values : List (String × TitleValue)) (name : String) : Option String :=
  (values.find? (·.1 == name)).map (·.2.shown)

/-- A row of an outline with its block, its index and its title. -/
structure ExampleRow where
  block : Examples
  row : TableRow
  index : Nat
  title : String
  deriving DecidableEq, Repr

def expandBlocks (document : Document) (default : String) : (before : Nat) → List Examples →
    List ExampleRow
  | _, [] => []
  | before, block :: rest =>
      let format := titleFormat document block default
      let rows := block.tableBody.mapIdx fun i row =>
        let index := before + i + 1
        { block, row, index, title := renderTitle format (valueOf? (rowValues block row index)) }
      rows ++ expandBlocks document default (before + block.tableBody.length) rest

def expandOutline (document : Document) (outline : Scenario) (default : String) : List ExampleRow :=
  expandBlocks document default 0 outline.examples

end FeatureSuite
