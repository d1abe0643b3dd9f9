import RowPipeline.AggregateFunction
import RowPipeline.Csv
import RowPipeline.Expr.Parser
import RowPipeline.Pipeline.Basic
import RowPipeline.Registry

/-! # Checking a pipeline before it runs

The check walks through the operations in the order in which the definition lists them, blocks
first, and keeps the columns known so far. Every name in an expression must resolve to a known
column; every target becomes known once its operation has passed.
-/

namespace RowPipeline

inductive Step where
  | extract
  | transform
  | load
  deriving DecidableEq, Repr

def Step.name : Step → String
  | extract => "Extract"
  | transform => "Transform"
  | load => "Load"

/-- What is wrong with a pipeline. -/
inductive CheckError where
  | missingStep (step : Step)
  | unknownAlias (aliasName : String)
  /-- The header of a source file cannot be read. -/
  | sourceUnavailable (cause : ExtractError)
  /-- A name of no known column; `resolved` is the name that was sought. -/
  | unknownColumn (column resolved : String) (available : List String)
  | ambiguousColumn (column : String) (candidates : List String)
  /-- A second target of the same name in one list of operations. -/
  | duplicateColumn (column : String)
  | reservedName (column : String)
  | unknownFunction (name : String)
  /-- A column of one type where another is needed. -/
  | typeMismatch (column : String) (expected actual : ColumnType)
  | parse (text : String) (cause : ParseError)
  deriving DecidableEq

namespace CheckError

def message : CheckError → String
  | missingStep step => "Pipeline must have a " ++ step.name ++ " step"
  | unknownAlias aliasName => "Source block refers to unknown source alias '" ++ aliasName ++ "'"
  | sourceUnavailable cause => "Extract source unavailable: Extract error: " ++ cause.message
  | unknownColumn column resolved available =>
    "Column '" ++ column ++ "' (resolved as '" ++ resolved ++
      "') does not exist. Available columns: " ++ Text.join ", " available
  | ambiguousColumn column candidates =>
    "Column '" ++ column ++ "' is ambiguous between " ++ Text.join ", " candidates
  | duplicateColumn column => "Duplicate column '" ++ column ++ "' in the same scope"
  | reservedName column => "Column name '" ++ column ++ "' is a reserved word"
  | unknownFunction name => "Unknown aggregate function: " ++ name
  | typeMismatch column expected actual =>
    "Column '" ++ column ++ "' is " ++ actual.name ++ ", but " ++ expected.name ++ " expected"
  | parse text cause => "Invalid expression '" ++ text ++ "': " ++ cause.message

def cause? : CheckError → Option ParseError
  | parse _ cause => some cause
  | _ => none

end CheckError

namespace Registry

/-- The known column that a name stands for. A name with an alias stands for itself; one without is
sought under the alias of the scope, then as it is, then under the one alias that has it. -/
def resolve (r : Registry) (scope : Option String) (c : ColumnRef) :
    Except CheckError KnownColumn :=
  let written := c.written
  if c.hasAlias then
    match r.find? written with
    | some known => .ok known
    | none => .error (.unknownColumn written written r.names)
  else
    let underScope := Name.inScope scope written
    match (r.find? underScope).or (r.find? written) with
    | some known => .ok known
    | none =>
      match r.columnsOfField written with
      | [column] => .ok ((r.find? column).getD ⟨column, none⟩)
      | [] => .error (.unknownColumn written underScope r.names)
      | columns => .error (.ambiguousColumn written columns)

/-- Checks that a column is known and, if a truth value is needed, that it can be one. -/
def checkColumn (r : Registry) (scope : Option String) (needsBoolean : Bool) (c : ColumnRef) :
    Except CheckError Unit := do
  let known ← r.resolve scope c
  match known.type with
  | some t => if needsBoolean && t != .boolean then throw (.typeMismatch known.name .boolean t)
  | none => return

/-- Checks the text of an expression: it can be read, and its columns are known. In a condition that
compares nothing the columns must be truth values. -/
def checkExpr (r : Registry) (scope : Option String) (isCondition : Bool) (text : String) :
    Except CheckError Expr := do
  let e ← (Expr.parse text).mapError (.parse text)
  e.columns.forM (r.checkColumn scope (isCondition && !e.compares))
  return e

/-- Checks that an expression which is a column on its own is numeric. -/
def checkNumeric (r : Registry) (scope : Option String) (e : Expr) :
    Except CheckError Unit := do
  match e with
  | .column c =>
    let known ← r.resolve scope c
    match known.type with
    | some t => if !t.isNumeric then throw (.typeMismatch known.name .decimal t)
    | none => return
  | _ => return

def checkBody (r : Registry) (scope : Option String) : Operation → Except CheckError Unit
  | .map expression _ => do
    let _ ← r.checkExpr scope false expression
  | .choose condition whenTrue whenFalse _ => do
    let _ ← r.checkExpr scope true condition
    let _ ← r.checkExpr scope false whenTrue
    let _ ← r.checkExpr scope false whenFalse
  | .filter condition => do
    let _ ← r.checkExpr scope true condition
  | .aggregate function expression groupBy _ => do
    match AggregateFunction.ofName? function with
    | none => throw (.unknownFunction function)
    | some f =>
      let e ← r.checkExpr scope false expression
      if f.requiresNumbers then r.checkNumeric scope e
      groupBy.forM fun column => do
        let _ ← r.resolve scope (.ofName (Text.trim column))

end Registry

namespace Check

/-- How far a check has come in a list of operations. -/
structure Progress where
  registry : Registry
  /-- The lower-case forms of the targets of the list so far. -/
  targets : List String := []

def operation (scope : Option String) (p : Progress) (op : Operation) :
    Except CheckError Progress := do
  match op.target? with
  | none =>
    p.registry.checkBody scope op
    return p
  | some target =>
    if Token.isReserved (Text.trim target.column) then throw (.reservedName target.column)
    let name := Name.inScope scope target.column
    let key := Text.lower name
    if p.targets.contains key then throw (.duplicateColumn name)
    p.registry.checkBody scope op
    return ⟨p.registry.register name target.type, key :: p.targets⟩

def operations (scope : Option String) (r : Registry) (ops : List Operation) :
    Except CheckError Registry := do
  let p ← ops.foldlM (operation scope) ⟨r, []⟩
  return p.registry

/-- Checks a block under the alias of its source, in the spelling of the source. -/
def block (sources : List Source) (r : Registry) (b : Block) :
    Except CheckError Registry :=
  match sources.find? fun s => Text.sameIgnoringCase s.aliasName b.aliasName with
  | some source => operations (some source.aliasName) r b.operations
  | none => .error (.unknownAlias b.aliasName)

/-- The sources and the transformation of a pipeline that has all its steps. -/
def steps (p : Pipeline) : Except CheckError (List Source × Transform) :=
  match p.extract, p.transform, p.load with
  | none, _, _ => .error (.missingStep .extract)
  | _, none, _ => .error (.missingStep .transform)
  | _, _, none => .error (.missingStep .load)
  | some sources, some transform, some _ => .ok (sources, transform)

/-- Checks the operations of a pipeline with the columns that are known before them. -/
def operationsOf (p : Pipeline) (r : Registry) : Except CheckError Registry := do
  let (sources, transform) ← steps p
  let r ← transform.blocks.foldlM (block sources) r
  operations none r transform.operations

def registerDeclared (r : Registry) (source : Source) : Registry :=
  (source.columns.getD []).foldl
    (fun r c => r.register (Name.qualify source.aliasName c.name) c.type) r

def declared (sources : List Source) : Registry :=
  sources.foldl registerDeclared .empty

/-- Makes the columns in the header of a source file known, as decimal numbers. -/
def registerHeader (read : FileReader) (aliasName : String) (r : Registry) (path : String) :
    Except CheckError Registry := do
  let header ← (Csv.header read path).mapError .sourceUnavailable
  return header.foldl (fun r c => r.register (Name.qualify aliasName c) (some .decimal)) r

/-- The columns known before any operation: those that the sources declare, and those in the headers
of the files of sources that declare nothing. -/
def seed (read : FileReader) (sources : List Source) : Except CheckError Registry :=
  (sources.filter fun s => s.columns.isNone).foldlM
    (fun r s => s.locations.foldlM (registerHeader read s.aliasName) r) (declared sources)

/-- Checks a pipeline against its source files and returns the columns known after the last
operation. -/
def pipeline (read : FileReader) (p : Pipeline) : Except CheckError Registry := do
  let (sources, _) ← steps p
  let r ← seed read sources
  operationsOf p r

end Check

end RowPipeline
