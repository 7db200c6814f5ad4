import EntityQuery.Answer.Page
import EntityQuery.Text.Blank

/-!
# Tables

The rows of a page under a projection, and the text that they are shown as.

## Main Definitions

* `Table`: headers, rows of cells, and the place of the page.
* `Table.ofPage?`: the table of a page under a projection.
* `Table.lines`: header, rule, rows and page banner.

## Design Notes

Columns are as wide as their widest cell, counted in characters, and lines lose
the blanks at their ends.  A page without rows is no table.
-/

namespace EntityQuery

/-- Rows restricted to a projection, as text. -/
structure Table where
  headers : List String
  rows : List (List String)
  place : PagePlace
deriving DecidableEq, Repr

namespace Table

/-- The text of a cell: nothing when absent or null, a string bare, all else as JSON. -/
def cell : Option Json → String
  | none => ""
  | some .null => ""
  | some (.string s) => s
  | some v => v.compact

/-- One row restricted to a projection. -/
def cells (fields : List String) (row : Members) : List String :=
  fields.map fun field => cell (row.lookup field)

/-- The rows of a page restricted to a projection, unless there are none. -/
def ofPage? (fields : List String) (page : ResultPage) : Option Table :=
  if page.rows.isEmpty then none
  else some { headers := fields, rows := page.rows.map (cells fields), place := page.place }

/-- The widths of the columns, in characters. -/
def widths (t : Table) : List Nat :=
  t.rows.foldl (fun ws row => List.zipWith max ws (row.map String.length))
    (t.headers.map String.length)

/-- A cell filled up with blanks to a width. -/
def padded (width : Nat) (cell : String) : List Char :=
  cell.toList ++ List.replicate (width - cell.length) ' '

/-- The cells of a line side by side, without the blanks at the end. -/
def lineChars (widths : List Nat) (cells : List String) : List Char :=
  Text.trimEnd ([' ', '|', ' '].intercalate (List.zipWith padded widths cells))

/-- The rule below the headers. -/
def ruleChars (widths : List Nat) : List Char :=
  ['-', '+', '-'].intercalate (widths.map (List.replicate · '-'))

/-- Header, rule, rows and page banner. -/
def lines (t : Table) : List (List Char) :=
  lineChars t.widths t.headers :: ruleChars t.widths :: t.rows.map (lineChars t.widths) ++
    [t.place.banner.toList]

/-- The table as text, without a line end after the banner. -/
def text (t : Table) : String :=
  String.ofList (['\n'].intercalate t.lines)

end Table

end EntityQuery
