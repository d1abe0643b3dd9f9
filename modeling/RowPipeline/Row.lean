import RowPipeline.Name
import RowPipeline.OrderedMap
import RowPipeline.Value.Basic

/-! # Rows

A row gives values to column names, in the order in which the columns first came in, and remembers
the alias of the source that it came from.
-/

namespace RowPipeline

/-- A row of values by column name. -/
structure Row where
  values : OrderedMap String Value := .empty
  /-- The alias of the source of the row. -/
  origin : Option String := none
  deriving DecidableEq

namespace Row

open Text

def empty : Row := {}

instance : Inhabited Row := ⟨empty⟩

def columns (r : Row) : List String :=
  r.values.keys

def entries (r : Row) : List (String × Value) :=
  r.values.entries

def size (r : Row) : Nat :=
  r.values.size

/-- The value of a column with exactly this name. -/
def get? (r : Row) (column : String) : Option Value :=
  r.values.get? column

def contains (r : Row) (column : String) : Bool :=
  r.values.contains column

/-- Writes a value; a column that is there keeps its place. -/
def set (r : Row) (column : String) (v : Value) : Row :=
  { r with values := r.values.insert column v }

/-- Writes the values one after the other into a row of the given origin. -/
def ofList (values : List (String × Value)) (origin : Option String) : Row where
  values := .ofList values
  origin := origin

/-- The column with this name: the one that has it exactly or else the first that has it up to the
case of ASCII letters. -/
def findColumn? (r : Row) (name : String) : Option String :=
  (r.columns.find? (· == name)).or (r.columns.find? (sameIgnoringCase · name))

/-- The columns whose part after the first point is `field`, up to case. -/
def columnsOfField (r : Row) (field : String) : List String :=
  r.columns.filter (Name.hasField field)

/-- The rows give the same values to the same columns, in whatever order. -/
def same (r s : Row) : Bool :=
  r.size == s.size && r.entries.all fun (c, v) =>
    match s.get? c with
    | some w => v.same w
    | none => false

end Row

end RowPipeline
