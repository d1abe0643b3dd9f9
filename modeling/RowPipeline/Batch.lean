import RowPipeline.Row

/-! # Batches of rows and their merging

A batch holds the rows of one source. Merging puts the batches into one stream in which every row
has every column; where a row had no value, the column is null.
-/

namespace RowPipeline

/-- The columns of all rows, in the order in which they first come. -/
def Row.allColumns (rows : List Row) : List String :=
  (rows.flatMap Row.columns).eraseDups

/-- The rows of one source. -/
structure Batch where
  aliasName : String
  columns : List String := []
  rows : List Row := []

namespace Batch

/-- The batch of rows whose names are qualified already; its columns are those of the rows. -/
def ofRows (aliasName : String) (rows : List Row) : Batch where
  aliasName := aliasName
  columns := Row.allColumns rows
  rows := rows

end Batch

namespace Row

def hasExactly (r : Row) (columns : List String) : Bool :=
  columns.all r.contains && r.size == columns.length

/-- The row with the given columns in front, null where it has no value, and its other columns
behind them. A row that has exactly these columns is kept as it is. -/
def pad (columns : List String) (r : Row) : Row :=
  if r.hasExactly columns then r
  else
    let wanted := columns.map fun c => (c, (r.get? c).getD .null)
    let others := r.entries.filter fun e => !columns.contains e.1
    .ofList (wanted ++ others) r.origin

/-- The row with an origin, where it had none. -/
def withOrigin (aliasName : String) (r : Row) : Row :=
  { r with origin := r.origin.or (some aliasName) }

def padAll (rows : List Row) : List Row :=
  rows.map (pad (allColumns rows))

end Row

namespace Batch

/-- The columns of all batches and of their rows, in the order in which they first come. -/
def allColumns (batches : List Batch) : List String :=
  (batches.flatMap fun b => b.columns ++ b.rows.flatMap Row.columns).eraseDups

/-- The rows of all batches, each with all columns of all batches and with its origin. -/
def merge (batches : List Batch) : List Row :=
  batches.flatMap fun b =>
    b.rows.map fun r => (r.withOrigin b.aliasName).pad (allColumns batches)

end Batch

end RowPipeline
