import RowPipeline.AggregateFunction
import RowPipeline.RowOp

/-! # Aggregates

An aggregate reduces the values of an expression over the rows of a group to one value. The values
come in one after the other; a tally keeps what the result needs of them.
-/

namespace RowPipeline

/-- What is kept of the values of a group. -/
inductive Tally where
  | count (n : Nat)
  | sum (total : Decimal)
  | average (total : Decimal) (n : Nat)
  | least (value : Option Decimal)
  | greatest (value : Option Decimal)

namespace Tally

def start : AggregateFunction → Tally
  | .count => count 0
  | .sum => sum .zero
  | .average => average .zero 0
  | .least => least none
  | .greatest => greatest none

def addNumber (x : Decimal) : Tally → Except EvalError Tally
  | count n => .ok (count (n + 1))
  | sum total => (EvalError.ofOverflow (total.add? x)).map sum
  | average total n => (EvalError.ofOverflow (total.add? x)).map fun t => average t (n + 1)
  | least value => .ok (least (some (value.elim x fun y => y.min x)))
  | greatest value => .ok (greatest (some (value.elim x fun y => y.max x)))

/-- Takes in a value. Null is passed over, and for a count it does not matter what the value is. -/
def add (t : Tally) (v : Value) : Except EvalError Tally :=
  match t with
  | count n => .ok (count (if v.isNull then n else n + 1))
  | t => do
    match ← v.toNumber?.mapError .conversion with
    | some x => t.addNumber x
    | none => return t

def ofCount (n : Nat) : Except EvalError Decimal :=
  EvalError.ofOverflow (Decimal.ofInt? n)

/-- The result. Over no values a sum is zero, there is no least or greatest value, and an average is
zero if empty groups are allowed and an error otherwise. -/
def finish (allowEmpty : Bool) (target : String) : Tally → Except EvalError Value
  | count n => (ofCount n).map .number
  | sum total => .ok (.number total)
  | average total n =>
    if n = 0 then
      if allowEmpty then .ok (.number .zero)
      else .error (.emptyAggregate AggregateFunction.average.name target)
    else do
      let d ← ofCount n
      (EvalError.ofOverflow (total.div? d)).map .number
  | least value => .ok (value.elim .null .number)
  | greatest value => .ok (value.elim .null .number)

end Tally

structure Aggregate where
  function : AggregateFunction
  expression : Expr
  groupBy : List ColumnRef
  /-- Where the result goes, under the alias of the scope. -/
  target : Target
  operation : Operation

namespace Aggregate

/-- The aggregate of an operation, if it is one. -/
def compile (scope : Option String) (op : Operation) : Except EvalError (Option Aggregate) :=
  match op with
  | .aggregate function expression groupBy target => do
    match AggregateFunction.ofName? function with
    | none => throw (.unknownFunction function)
    | some f =>
      let e ← Expr.compile expression
      return some {
        function := f
        expression := e
        groupBy := groupBy.map fun column => .ofName (Text.trim column)
        target := target.inScope scope
        operation := op }
  | _ => return none

/-- The aggregates in a list of operations. -/
def compileAll (scope : Option String) : List Operation → Except OperationError (List Aggregate)
  | [] => return []
  | op :: ops => do
    match ← op.blame (compile scope op) with
    | some a =>
      let rest ← compileAll scope ops
      return a :: rest
    | none => compileAll scope ops

/-- The aggregates have the same group-by columns, up to the case of ASCII letters. -/
def sameGroupBy (a b : Aggregate) : Bool :=
  a.groupBy.map (Text.foldAscii ·.written) == b.groupBy.map (Text.foldAscii ·.written)

end Aggregate

end RowPipeline
