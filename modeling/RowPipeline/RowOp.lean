import RowPipeline.Expr.Eval
import RowPipeline.Pipeline.Operation

/-! # Operations on single rows

Maps, choices and filters are compiled once and then applied to one row after the other. An error
names the operation in which it arose.
-/

namespace RowPipeline

/-- An operation that failed, when it was compiled or when it ran. -/
structure OperationError where
  operation : Operation
  cause : EvalError
  deriving DecidableEq

def OperationError.message (e : OperationError) : String :=
  e.operation.toText ++ ": " ++ e.cause.message

/-- Names the operation in which an error arose. -/
def Operation.blame {α : Type} (op : Operation) (result : Except EvalError α) :
    Except OperationError α :=
  result.mapError fun cause => ⟨op, cause⟩

/-- What is done to a row, with the target under the alias of the scope. -/
inductive RowAction where
  | map (e : Expr) (target : Target)
  | choose (condition whenTrue whenFalse : Expr) (target : Target)
  | filter (condition : Expr)

structure RowOp where
  action : RowAction
  operation : Operation

namespace Target

def inScope (scope : Option String) (t : Target) : Target :=
  { t with column := Name.inScope scope t.column }

def write (t : Target) (r : Row) (v : Value) : Except EvalError Row :=
  ((v.convertTo t.type).mapError .conversion).map (r.set t.column)

end Target

namespace RowAction

def compile (scope : Option String) : Operation → Except EvalError (Option RowAction)
  | .map expression target => do
    return some (map (← Expr.compile expression) (target.inScope scope))
  | .choose condition whenTrue whenFalse target => do
    return some (choose (← Expr.compile condition) (← Expr.compile whenTrue)
      (← Expr.compile whenFalse) (target.inScope scope))
  | .filter condition => do
    return some (filter (← Expr.compile condition))
  | .aggregate .. => return none

/-- The row after the action, or nothing if the action drops it. -/
def run (mode : EvalMode) (r : Row) : RowAction → Except EvalError (Option Row)
  | map e target => do
    let v ← e.eval mode r
    return some (← target.write r v)
  | choose condition whenTrue whenFalse target => do
    let c ← condition.eval mode r
    let v ← (if ← c.holds then whenTrue else whenFalse).eval mode r
    return some (← target.write r v)
  | filter condition => do
    let c ← condition.eval mode r
    return if ← c.holds then some r else none

end RowAction

namespace RowOp

def compile (scope : Option String) : List Operation → Except OperationError (List RowOp)
  | [] => return []
  | op :: ops => do
    match ← op.blame (RowAction.compile scope op) with
    | some action =>
      let rest ← compile scope ops
      return ⟨action, op⟩ :: rest
    | none => compile scope ops

/-- The row after all operations, or nothing if one of them drops it; the operations behind that one
are not applied. -/
def onRow (mode : EvalMode) : List RowOp → Row → Except OperationError (Option Row)
  | [], r => return some r
  | op :: ops, r => do
    match ← op.operation.blame (op.action.run mode r) with
    | some r => onRow mode ops r
    | none => return none

/-- The rows that are kept, after all operations, in order. -/
def onRows (mode : EvalMode) (ops : List RowOp) (rows : List Row) :
    Except OperationError (List Row) := do
  let results ← rows.mapM (onRow mode ops)
  return results.filterMap id

/-- Compiles operations for the scope of the evaluation and applies them to rows. -/
def apply (mode : EvalMode) (ops : List Operation) (rows : List Row) :
    Except OperationError (List Row) := do
  onRows mode (← compile mode.scope ops) rows

end RowOp

end RowPipeline
