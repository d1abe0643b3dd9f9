import RowPipeline.Check
import RowPipeline.ConfigFile
import RowPipeline.Reduction
import RowPipeline.Sink

/-! # Running a pipeline

A run checks the definition, extracts the rows of the sources, transforms them and hands them to a
sink. Each source block changes only the rows of its alias; afterwards all rows are padded to the
same columns, and the operations on all rows follow.
-/

namespace RowPipeline

/-- Why a run has no result. -/
inductive RunError where
  | check (cause : CheckError)
  | operation (cause : OperationError)
  | extract (cause : ExtractError)
  | load (cause : LoadError)
  | config (cause : ConfigError)
  deriving DecidableEq

def RunError.message : RunError → String
  | check cause => "Validation failed: " ++ cause.message
  | operation cause => "Execution failed: " ++ cause.message
  | extract cause => "Extract error: " ++ cause.message
  | load cause => "Load error: " ++ cause.message
  | config cause => "Configuration error: " ++ cause.message

/-- The row comes from the source with this alias, up to the case of ASCII letters. -/
def Row.comesFrom (aliasName : String) (r : Row) : Bool :=
  match r.origin with
  | some origin => Text.sameIgnoringCase origin aliasName
  | none => false

namespace Run

def mode (config : Config) (scope : Option String) : EvalMode where
  scope := scope
  nullPasses := config.nullPasses

/-- Applies the operations of a block to a row of its alias; other rows are kept as they are. -/
def blockRow (config : Config) (aliasName : String) (ops : List RowOp) (r : Row) :
    Except OperationError (Option Row) :=
  if r.comesFrom aliasName then RowOp.onRow (mode config (some aliasName)) ops r
  else .ok (some r)

/-- Applies a block to the rows of its alias. Rows that aggregates of the block produce take the
place of the rows of the alias and stand at the end. -/
def block (config : Config) (rows : List Row) (b : Block) : Except OperationError (List Row) := do
  let scope := some b.aliasName
  let ops ← RowOp.compile scope b.operations
  let reductions ← Reduction.compile config scope b.operations
  let results ← rows.mapM (blockRow config b.aliasName ops)
  let rows := results.filterMap id
  if reductions.isEmpty then return rows
  let (own, others) := rows.partition (Row.comesFrom b.aliasName)
  let reduced ← Reduction.runAll reductions (mode config scope) config.emptyGroups own
  return others ++ reduced

/-- Applies the operations on all rows: first those on single rows, then the aggregates, whose rows
take the place of all rows. -/
def allRows (config : Config) (ops : List Operation) (rows : List Row) :
    Except OperationError (List Row) := do
  let rowOps ← RowOp.compile none ops
  let rows ← RowOp.onRows (mode config none) rowOps rows
  let reductions ← Reduction.compile config none ops
  if reductions.isEmpty then return rows
  Reduction.runAll reductions (mode config none) config.emptyGroups rows

def transform (config : Config) (p : Pipeline) (batches : List Batch) :
    Except OperationError (List Row) := do
  let rows := Batch.merge batches
  match p.transform with
  | none => return rows
  | some t =>
    let rows ← t.blocks.foldlM (block config) rows
    allRows config t.operations (if t.blocks.isEmpty then rows else Row.padAll rows)

def extract (read : FileReader) (p : Pipeline) : Except RunError (List Batch) :=
  match p.extract with
  | none => .error (.check (.missingStep .extract))
  | some sources =>
    (sources.mapM fun s => Csv.extract read s.aliasName s.locations).mapError .extract

/-- The columns known from declarations and from batches; a column that is only in a batch may be of
any type. -/
def knownColumns (sources : List Source) (batches : List Batch) : Registry :=
  (batches.flatMap Batch.columns).foldl Registry.registerNew (Check.declared sources)

def checkBatches (p : Pipeline) (batches : List Batch) : Except CheckError Registry :=
  match p.extract with
  | none => .error (.missingStep .extract)
  | some sources => Check.operationsOf p (knownColumns sources batches)

/-- The rows of a pipeline over batches that have been extracted already. -/
def ofBatches (config : Config) (p : Pipeline) (batches : List Batch) :
    Except RunError (List Row) := do
  if config.validateFirst then
    let _ ← (checkBatches p batches).mapError .check
  (transform config p batches).mapError .operation

/-- The rows of a pipeline over its source files, and where they go. -/
def ofFiles (read : FileReader) (config : Config) (p : Pipeline) :
    Except RunError (LoadTarget × List Row) := do
  if config.validateFirst then
    let _ ← (Check.pipeline read p).mapError .check
  match p.load with
  | none => throw (.check (.missingStep .load))
  | some target =>
    let batches ← extract read p
    let rows ← (transform config p batches).mapError .operation
    return (target, rows)

/-- Runs a pipeline into a sink. The result is the number of rows and the sink afterwards; a run
that fails before the rows are there does not touch the sink. -/
def into {σ : Type} (load : Sink σ) (read : FileReader) (config : Config) (p : Pipeline)
    (sink : σ) : Except RunError Nat × σ :=
  match ofFiles read config p with
  | .error e => (.error e, sink)
  | .ok (target, rows) =>
    match load target rows sink with
    | (.ok (), sink) => (.ok rows.length, sink)
    | (.error e, sink) => (.error (.load e), sink)

end Run

end RowPipeline
