import RowPipeline.Expr.Parser
import RowPipeline.Text.Split
import RowPipeline.Value.Conversion

/-! # Why an expression has no value -/

namespace RowPipeline

/-- Why an operation cannot be compiled or computed. -/
inductive EvalError where
  | columnNotFound (column : String) (available : List String)
  /-- Columns of several aliases go by this name. -/
  | ambiguousColumn (column : String) (candidates : List String)
  /-- An operator on numbers met something else. -/
  | notNumbers (op : BinaryOp) (left right : Value.Kind) (e : Expr)
  /-- The minus sign met something that is no number. -/
  | notNumber (kind : Value.Kind) (operand : Expr)
  | conversion (cause : Value.ConversionError)
  | divisionByZero
  | numericOverflow
  | unknownFunction (name : String)
  /-- An average over no values. -/
  | emptyAggregate (function : String) (target : String)
  | parse (text : String) (cause : ParseError)
  deriving DecidableEq

inductive EvalError.Kind where
  | columnNotFound
  | ambiguousColumn
  | typeMismatch
  | typeConversion
  | divisionByZero
  | numericOverflow
  | unknownFunction
  | emptyAggregate
  | parse
  deriving DecidableEq, Repr

namespace EvalError

def message : EvalError → String
  | columnNotFound column available =>
    "Column not found: '" ++ column ++ "'. Available columns: " ++ Text.join ", " available
  | ambiguousColumn column candidates =>
    "Ambiguous column '" ++ column ++ "' matches " ++ Text.join ", " candidates
  | notNumbers op left right e =>
    "Type mismatch: operator '" ++ op.symbol ++ "' requires numbers, got " ++ left.name ++
      " and " ++ right.name ++ " in " ++ e.toText
  | notNumber kind operand =>
    "Type mismatch: unary minus requires a number, got " ++ kind.name ++ " in " ++ operand.toText
  | conversion cause => "Type conversion error: " ++ cause.message
  | divisionByZero => "Division by zero"
  | numericOverflow => "Numeric overflow"
  | unknownFunction name => "Unknown aggregate function: " ++ name
  | emptyAggregate function target =>
    function ++ " of '" ++ target ++ "' over a group without values"
  | parse text cause => "Invalid expression '" ++ text ++ "': " ++ cause.message

def kind : EvalError → Kind
  | columnNotFound .. => .columnNotFound
  | ambiguousColumn .. => .ambiguousColumn
  | notNumbers .. | notNumber .. => .typeMismatch
  | conversion _ => .typeConversion
  | divisionByZero => .divisionByZero
  | numericOverflow => .numericOverflow
  | unknownFunction _ => .unknownFunction
  | emptyAggregate .. => .emptyAggregate
  | parse .. => .parse

def cause? : EvalError → Option ParseError
  | parse _ cause => some cause
  | _ => none

end EvalError

/-- Reads the text of an expression; an error names the text. -/
def Expr.compile (text : String) : Except EvalError Expr :=
  (Expr.parse text).mapError (.parse text)

end RowPipeline
