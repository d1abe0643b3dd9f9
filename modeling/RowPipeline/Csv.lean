import RowPipeline.Batch
import RowPipeline.Files
import RowPipeline.Text.Blank
import RowPipeline.Text.Split

/-! # Sources of comma-separated values

A source is a list of files. The first line of a file that is not blank names its columns, every
further line is a record. Cells lie between commas; blank space around a cell is dropped, and so
are the quotes around what is left. Quotes do not protect commas.
-/

namespace RowPipeline

/-- Why a source has no rows. -/
inductive ExtractError where
  | unreadable (path : String) (cause : ReadError)
  /-- A file of blank lines only. -/
  | noHeader (path : String)
  /-- A record whose cells are not as many as the columns; records are counted from 1. -/
  | fieldCount (path : String) (record expected found : Nat)
  deriving DecidableEq

def ExtractError.message : ExtractError → String
  | unreadable path cause => "cannot read source " ++ path ++ ": " ++ cause.message
  | noHeader path => path ++ " has no header line"
  | fieldCount path record expected found =>
    path ++ " record " ++ toString record ++ ": expected " ++ toString expected ++
      " fields, found " ++ toString found

namespace Csv

/-- The lines of a text that are not blank. -/
def lines (text : String) : List String :=
  (Text.splitEvery '\n' text).filter fun line => !Text.isBlankText line

/-- A cell without the blank space around it and without the quotes at its ends. -/
def cleanCell (cell : String) : String :=
  String.ofList (Text.stripBoth (· == '"') (Text.trim cell).toList)

def cells (line : String) : List String :=
  (Text.splitEvery ',' line).map cleanCell

def readSource (read : FileReader) (path : String) : Except ExtractError String :=
  (read path).mapError (.unreadable path)

/-- The column names in the header of a file, without alias. -/
def header (read : FileReader) (path : String) : Except ExtractError (List String) := do
  match lines (← readSource read path) with
  | [] => throw (.noHeader path)
  | first :: _ => return cells first

def recordRow (aliasName : String) (columns record : List String) : Row :=
  .ofList (columns.zip (record.map Value.ofCell)) (some aliasName)

/-- The rows of the records of a file, the first of which has the number `number`. -/
def records (path aliasName : String) (columns : List String) (number : Nat) :
    List String → Except ExtractError (List Row)
  | [] => .ok []
  | line :: rest => do
    let record := cells line
    if record.length ≠ columns.length then
      throw (.fieldCount path number columns.length record.length)
    let rows ← records path aliasName columns (number + 1) rest
    return recordRow aliasName columns record :: rows

/-- The columns and rows of a file, with the columns under the alias. -/
def readFile (read : FileReader) (aliasName path : String) : Except ExtractError Batch := do
  match lines (← readSource read path) with
  | [] => throw (.noHeader path)
  | first :: rest =>
    let columns := (cells first).map (Name.qualify aliasName)
    return { aliasName, columns, rows := ← records path aliasName columns 1 rest }

/-- The batch of a source: the rows of its files in order, each with all columns of all files. -/
def extract (read : FileReader) (aliasName : String) (locations : List String) :
    Except ExtractError Batch := do
  let files ← locations.mapM (readFile read aliasName)
  let columns := (files.flatMap Batch.columns).eraseDups
  return { aliasName, columns, rows := files.flatMap fun f => f.rows.map (Row.pad columns) }

end Csv

end RowPipeline
