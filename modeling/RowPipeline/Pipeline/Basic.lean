import RowPipeline.Pipeline.Operation

/-! # Pipeline definitions

A pipeline extracts rows from sources, transforms them and loads the result. The operations of a
source block apply to the rows of one source; the other operations apply to all rows.
-/

namespace RowPipeline

/-- A declared column of a source, without the alias. -/
structure ColumnDecl where
  name : String
  /-- The type of its values; none if they may be anything. -/
  type : Option ColumnType := none
  deriving DecidableEq

structure Source where
  /-- The alias in front of the names of its columns. -/
  aliasName : String
  locations : List String := []
  /-- The declared columns; without them the headers of the files tell the columns. -/
  columns : Option (List ColumnDecl) := none
  deriving DecidableEq

/-- The operations on the rows of one source. -/
structure Block where
  /-- The alias of the source. -/
  aliasName : String
  operations : List Operation := []
  deriving DecidableEq

/-- What is done between extraction and loading. -/
structure Transform where
  operations : List Operation := []
  /-- The blocks of operations on single sources, which come first. -/
  blocks : List Block := []
  deriving DecidableEq

/-- Where the result goes. -/
structure LoadTarget where
  kind : String
  name : String
  deriving DecidableEq

/-- The definition of a pipeline. -/
structure Pipeline where
  name : String
  version : String := ""
  extract : Option (List Source) := none
  transform : Option Transform := none
  load : Option LoadTarget := none
  deriving DecidableEq

namespace Pipeline

def aliases (p : Pipeline) : List String :=
  (p.extract.getD []).map Source.aliasName

end Pipeline

end RowPipeline
