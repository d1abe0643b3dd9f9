import RowPipeline.Text.Blank
import RowPipeline.Text.Case

/-! # Column types -/

namespace RowPipeline

inductive ColumnType where
  | int
  | decimal
  | string
  | boolean
  deriving DecidableEq, Repr

namespace ColumnType

def isNumeric : ColumnType → Bool
  | int | decimal => true
  | string | boolean => false

def name : ColumnType → String
  | int => "INT"
  | decimal => "DECIMAL"
  | string => "STRING"
  | boolean => "BOOLEAN"

/-- The type of a name in capitals. -/
def ofCapitals? (name : String) : Option ColumnType :=
  if ["INT", "INTEGER"].contains name then some int
  else if ["DECIMAL", "NUMBER", "NUMERIC", "FLOAT"].contains name then some decimal
  else if ["STRING", "TEXT", "VARCHAR"].contains name then some string
  else if ["BOOL", "BOOLEAN"].contains name then some boolean
  else none

/-- The type of a name in any case, with blank space around it or without. -/
def ofName? (name : String) : Option ColumnType :=
  ofCapitals? (Text.upper (Text.trim name))

def unknownMessage (name : String) : String :=
  "Unknown column type: " ++ name

/-- The name of a declared type; a column without one is of any type. -/
def describe : Option ColumnType → String
  | some t => t.name
  | none => "ANY"

@[simp] theorem ofName?_name (t : ColumnType) : ofName? t.name = some t := by
  cases t <;> decide

end ColumnType

end RowPipeline
