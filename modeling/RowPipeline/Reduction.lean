import RowPipeline.Aggregate
import RowPipeline.Config

/-! # Reductions

Rows whose group-by columns have the same canonical texts form a group. Groups come out in the order
of their first rows. In the narrow shape each aggregate has its own rows; in the wide shape
aggregates with the same group-by columns share the row of a group.
-/

namespace RowPipeline

/-- Aggregates that share the row of a group. -/
structure Reduction where
  /-- The aggregate whose group-by columns make the groups. -/
  first : Aggregate
  others : List Aggregate := []

structure Group where
  /-- The group-by columns with their values in the first row. -/
  keys : List (String × Value)
  tallies : List Tally

namespace Reduction

def aggregates (c : Reduction) : List Aggregate :=
  c.first :: c.others

/-- Puts an aggregate into the first reduction with the same group-by columns, or else into a new
one at the end. -/
def place (a : Aggregate) : List Reduction → List Reduction
  | [] => [⟨a, []⟩]
  | c :: cs =>
    if c.first.sameGroupBy a then { c with others := c.others ++ [a] } :: cs else c :: place a cs

/-- The reductions that give aggregates the wanted shape. -/
def ofAggregates (shape : AggregateShape) (aggregates : List Aggregate) : List Reduction :=
  match shape with
  | .narrow => aggregates.map fun a => ⟨a, []⟩
  | .wide => aggregates.foldl (fun cs a => place a cs) []

/-- The group-by columns of a row with their values. -/
def keysOf (c : Reduction) (mode : EvalMode) (r : Row) :
    Except OperationError (List (String × Value)) :=
  c.first.operation.blame <| c.first.groupBy.mapM fun column => do
    let name ← r.resolve mode.scope column
    return (name, (r.get? name).getD .null)

def emptyGroup (c : Reduction) (keys : List (String × Value)) : Group where
  keys := keys
  tallies := c.aggregates.map fun a => .start a.function

def addValue (mode : EvalMode) (r : Row) (a : Aggregate) (t : Tally) :
    Except OperationError Tally :=
  a.operation.blame do
    let v ← a.expression.eval mode r
    t.add v

def addToGroup (c : Reduction) (mode : EvalMode) (r : Row) (g : Group) :
    Except OperationError Group := do
  let tallies ← (c.aggregates.zip g.tallies).mapM fun (a, t) => addValue mode r a t
  return { g with tallies }

/-- The groups by the canonical texts of their keys, in the order of their first rows. -/
abbrev Groups := OrderedMap (List (Option String)) Group

def addRow (c : Reduction) (mode : EvalMode) (groups : Groups) (r : Row) :
    Except OperationError Groups := do
  let keys ← c.keysOf mode r
  let texts := keys.map fun e => e.2.canonical?
  let g ← c.addToGroup mode r ((groups.get? texts).getD (c.emptyGroup keys))
  return groups.insert texts g

/-- The groups of the rows. Without rows there is one group if there are no group-by columns and
empty groups are allowed. -/
def group (c : Reduction) (mode : EvalMode) (allowEmpty : Bool) (rows : List Row) :
    Except OperationError (List Group) := do
  let groups ← rows.foldlM (c.addRow mode) .empty
  if groups.size = 0 ∧ c.first.groupBy.isEmpty ∧ allowEmpty then return [c.emptyGroup []]
  return groups.values

/-- The result of an aggregate over a group, of the declared type unless it is null. -/
def result (allowEmpty : Bool) (a : Aggregate) (t : Tally) : Except OperationError Value :=
  a.operation.blame do
    match ← t.finish allowEmpty a.target.column with
    | .null => return .null
    | v => (v.convertTo a.target.type).mapError .conversion

/-- The row of a group: its keys and then the results. -/
def finishGroup (c : Reduction) (mode : EvalMode) (allowEmpty : Bool) (g : Group) :
    Except OperationError Row := do
  let results ← (c.aggregates.zip g.tallies).mapM fun (a, t) => do
    return (a.target.column, ← result allowEmpty a t)
  return .ofList (g.keys ++ results) mode.scope

def run (c : Reduction) (mode : EvalMode) (allowEmpty : Bool) (rows : List Row) :
    Except OperationError (List Row) := do
  let groups ← c.group mode allowEmpty rows
  groups.mapM (c.finishGroup mode allowEmpty)

/-- The rows of all reductions, one reduction after the other. -/
def runAll (reductions : List Reduction) (mode : EvalMode) (allowEmpty : Bool) (rows : List Row) :
    Except OperationError (List Row) := do
  let results ← reductions.mapM fun c => c.run mode allowEmpty rows
  return results.flatten

def compile (config : Config) (scope : Option String) (ops : List Operation) :
    Except OperationError (List Reduction) :=
  (Aggregate.compileAll scope ops).map (ofAggregates config.shape)

def reduce (config : Config) (mode : EvalMode) (ops : List Operation) (rows : List Row) :
    Except OperationError (List Row) := do
  let reductions ← compile config mode.scope ops
  runAll reductions mode config.emptyGroups rows

end Reduction

end RowPipeline
