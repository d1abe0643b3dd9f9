import RowPipeline.Expr.EvalError
import RowPipeline.Row

/-! # Evaluation of expressions

An expression is evaluated on one row. Conditions stop at the first operand that decides them; all
other operators take both operands, left before right.
-/

namespace RowPipeline

/-- How names and nulls are treated in an evaluation. -/
structure EvalMode where
  /-- The alias under which names without an alias are sought first. -/
  scope : Option String := none
  /-- Arithmetic and order with a null operand give null instead of an error. -/
  nullPasses : Bool := false
  deriving DecidableEq

namespace Row

/-- The column that a name without an alias stands for: under the alias of the scope, then as it is,
then under the one alias that has it. -/
def resolveBare (r : Row) (scope : Option String) (name : String) : Except EvalError String :=
  let underScope := scope.bind fun aliasName => r.findColumn? (Name.qualify aliasName name)
  match underScope.or (r.findColumn? name) with
  | some column => .ok column
  | none =>
    match r.columnsOfField name with
    | [column] => .ok column
    | [] => .error (.columnNotFound name r.columns)
    | columns => .error (.ambiguousColumn name columns)

/-- The column that a name stands for. A name with an alias stands for itself or else, in rows whose
columns have no aliases, for the part after its first point. -/
def resolve (r : Row) (scope : Option String) (c : ColumnRef) : Except EvalError String :=
  if c.hasAlias then
    match (r.findColumn? c.written).or (r.findColumn? c.name) with
    | some column => .ok column
    | none => .error (.columnNotFound c.written r.columns)
  else r.resolveBare scope c.name

/-- The value of the column that a name stands for. -/
def lookup (r : Row) (scope : Option String) (c : ColumnRef) : Except EvalError Value := do
  let column ← r.resolve scope c
  match r.get? column with
  | some v => return v
  | none => throw (.columnNotFound column r.columns)

end Row

namespace Value

/-- Equality as the language has it: by canonical text, where null equals only null and the case of
a truth value does not matter. -/
def equals (a b : Value) : Bool :=
  match a.canonical?, b.canonical? with
  | none, none => true
  | some s, some t =>
    if a.kind == .boolean || b.kind == .boolean then Text.sameIgnoringCase s t else s == t
  | _, _ => false

/-- The canonical text of `a` has that of `b` in it; null has none and is in none. -/
def containsText (a b : Value) : Bool :=
  match a.canonical?, b.canonical? with
  | some s, some t => Text.hasStretch s.toList t.toList
  | _, _ => false

def holds (v : Value) : Except EvalError Bool :=
  v.truth.mapError .conversion

end Value

def TextOp.compare (a b : Value) : TextOp → Bool
  | equal => a.equals b
  | notEqual => !a.equals b
  | contains => a.containsText b

def OrderOp.compare (m n : Decimal) : OrderOp → Bool
  | less => m.cmp n == .lt
  | greater => m.cmp n == .gt
  | lessEqual => m.cmp n != .gt
  | greaterEqual => m.cmp n != .lt

/-- The result of a computation that may leave the range of numbers. -/
def EvalError.ofOverflow : Option Decimal → Except EvalError Decimal
  | some d => .ok d
  | none => .error .numericOverflow

def ArithOp.compute (m n : Decimal) : ArithOp → Except EvalError Decimal
  | add => EvalError.ofOverflow (m.add? n)
  | subtract => EvalError.ofOverflow (m.sub? n)
  | multiply => EvalError.ofOverflow (m.mul? n)
  | divide => if n.isZero then .error .divisionByZero else EvalError.ofOverflow (m.div? n)

namespace Expr

/-- Takes two values as the numbers that an operator needs. Null on one side gives null if nulls
pass; `whole` is the operation for the message. -/
def onNumbers (mode : EvalMode) (op : BinaryOp) (whole : Expr) (a b : Value)
    (f : Decimal → Decimal → Except EvalError Value) : Except EvalError Value :=
  match a, b with
  | .number m, .number n => f m n
  | _, _ =>
    if mode.nullPasses && (a.isNull || b.isNull) then .ok .null
    else .error (.notNumbers op a.kind b.kind whole)

/-- Applies an operator in front of a value; `operand` is the operand for the message. -/
def applyUnary (mode : EvalMode) (op : UnaryOp) (operand : Expr) (v : Value) :
    Except EvalError Value :=
  match op with
  | .not => v.holds.map fun b => .boolean !b
  | .negate =>
    match v with
    | .number n => .ok (.number n.neg)
    | v =>
      if mode.nullPasses && v.isNull then .ok .null
      else .error (.notNumber v.kind operand)

def eval (mode : EvalMode) (r : Row) : Expr → Except EvalError Value
  | literal v => .ok v
  | column c => r.lookup mode.scope c
  | unary op e => do
    let v ← eval mode r e
    applyUnary mode op e v
  | binary (.logic .and) left right => do
    let a ← eval mode r left
    if ← a.holds then
      let b ← eval mode r right
      b.holds.map .boolean
    else return .boolean false
  | binary (.logic .or) left right => do
    let a ← eval mode r left
    if ← a.holds then return .boolean true
    else
      let b ← eval mode r right
      b.holds.map .boolean
  | binary (.text op) left right => do
    let a ← eval mode r left
    let b ← eval mode r right
    return .boolean (op.compare a b)
  | binary (.order op) left right => do
    let a ← eval mode r left
    let b ← eval mode r right
    onNumbers mode (.order op) (binary (.order op) left right) a b fun m n =>
      .ok (.boolean (op.compare m n))
  | binary (.arith op) left right => do
    let a ← eval mode r left
    let b ← eval mode r right
    onNumbers mode (.arith op) (binary (.arith op) left right) a b fun m n =>
      (op.compute m n).map .number

/-- The value of the text of an expression on a row. -/
def evalText (mode : EvalMode) (r : Row) (text : String) : Except EvalError Value := do
  let e ← compile text
  e.eval mode r

end Expr

end RowPipeline
