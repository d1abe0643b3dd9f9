import RowPipeline.Batch
import RowPipeline.Text.Split

/-! # Tables

Rows as a table of text: a header with the columns of all rows, a border, a line for each row and
the number of rows. A column is as wide as the longest of its texts in UTF-8, and at least three
places wide; texts are filled up with blanks to as many characters.
-/

namespace RowPipeline.Table

def minWidth : Nat := 3

/-- The text of a row in a column; a row without the column has none. -/
def cell (column : String) (r : Row) : String :=
  match r.get? column with
  | some v => v.display
  | none => ""

def width (rows : List Row) (column : String) : Nat :=
  ((rows.map fun r => (cell column r).utf8ByteSize).foldl max column.utf8ByteSize).max minWidth

/-- A text with blanks behind it up to the given number of characters. -/
def padText (n : Nat) (s : String) : String :=
  String.ofList (s.toList ++ List.replicate (n - s.toList.length) ' ')

def line (cells : List (String × Nat)) : String :=
  "|" ++ String.join (cells.map fun (s, n) => " " ++ padText n s ++ " |") ++ "\n"

def border (widths : List Nat) : String :=
  "+" ++ String.join (widths.map fun n => String.ofList (List.replicate (n + 2) '-') ++ "+") ++ "\n"

def footer (rows : List Row) : String :=
  "(" ++ toString rows.length ++ " rows)\n"

/-- The table of the rows; without columns there is only the last line. -/
def render (rows : List Row) : String :=
  let columns := Row.allColumns rows
  let widths := columns.map (width rows)
  if columns.isEmpty then footer rows
  else
    line (columns.zip widths) ++ border widths ++
      String.join (rows.map fun r => line ((columns.map fun c => cell c r).zip widths)) ++
      footer rows

end RowPipeline.Table
