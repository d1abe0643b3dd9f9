import RowPipeline.ColumnType
import RowPipeline.Text.Split

/-! # Operations of a pipeline

What is done to rows, as a definition writes it: expressions are texts here, and names are as the
author wrote them.
-/

namespace RowPipeline

/-- The column that an operation writes. -/
structure Target where
  column : String
  type : Option ColumnType := none
  deriving DecidableEq

inductive Operation where
  | map (expression : String) (target : Target)
  | choose (condition whenTrue whenFalse : String) (target : Target)
  | filter (condition : String)
  | aggregate (function expression : String) (groupBy : List String) (target : Target)
  deriving DecidableEq

namespace Operation

def target? : Operation → Option Target
  | map _ target | choose _ _ _ target | aggregate _ _ _ target => some target
  | filter _ => none

def isAggregate : Operation → Bool
  | aggregate .. => true
  | _ => false

def toText : Operation → String
  | map expression target => "MAP " ++ expression ++ " TO " ++ target.column
  | choose condition whenTrue whenFalse target =>
    "IF " ++ condition ++ " THEN " ++ whenTrue ++ " ELSE " ++ whenFalse ++ " TO " ++ target.column
  | filter condition => "FILTER " ++ condition
  | aggregate function expression groupBy target =>
    "AGGREGATE " ++ function ++ "(" ++ expression ++ ") TO " ++ target.column ++
      if groupBy.isEmpty then "" else " GROUP BY " ++ Text.join ", " groupBy

end Operation

end RowPipeline
