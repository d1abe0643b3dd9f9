import RowPipeline.ColumnType
import RowPipeline.Name
import RowPipeline.OrderedMap

/-! # Known columns

The columns that a check knows of, with their declared types. A column is looked up by its
lower-case form; the spelling under which it came in first is kept, and the last type given to it
counts.
-/

namespace RowPipeline

structure KnownColumn where
  /-- The spelling under which it came in first. -/
  name : String
  /-- The type given to it last. -/
  type : Option ColumnType
  deriving DecidableEq

/-- The known columns, in the order in which they came in. -/
structure Registry where
  /-- The columns by the lower-case form of their names. -/
  columns : OrderedMap String KnownColumn := .empty
  deriving DecidableEq

namespace Registry

def empty : Registry := {}

def find? (r : Registry) (name : String) : Option KnownColumn :=
  r.columns.get? (Text.lower name)

def contains (r : Registry) (name : String) : Bool :=
  (r.find? name).isSome

/-- Makes a column known, or gives a new type to a known one. -/
def register (r : Registry) (name : String) (type : Option ColumnType) : Registry where
  columns :=
    let known := (r.find? name).getD ⟨name, type⟩
    r.columns.insert (Text.lower name) { known with type := type }

/-- Makes a column of any type known, if it is not known yet. -/
def registerNew (r : Registry) (name : String) : Registry :=
  if r.contains name then r else r.register name none

def entries (r : Registry) : List KnownColumn :=
  r.columns.values

def names (r : Registry) : List String :=
  r.entries.map KnownColumn.name

def size (r : Registry) : Nat :=
  r.columns.size

/-- The known columns whose part after the first point is `field`, up to case. -/
def columnsOfField (r : Registry) (field : String) : List String :=
  r.names.filter (Name.hasField field)

/-- A line with name and type for each column. -/
def describe (r : Registry) : String :=
  Text.join "\n" (r.entries.map fun c => c.name ++ " " ++ ColumnType.describe c.type)

end Registry

end RowPipeline
