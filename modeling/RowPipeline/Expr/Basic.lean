import RowPipeline.Expr.Operator
import RowPipeline.Name
import RowPipeline.Value.Basic

/-! # Expressions

An expression computes a value from a row. The text of an expression puts every operation into
parentheses, so it shows how the expression is built.
-/

namespace RowPipeline

/-- A column as it is named in an expression. -/
structure ColumnRef where
  /-- The part before the first point, if there is a point. -/
  table : Option String
  /-- The rest of the name. -/
  name : String
  deriving DecidableEq

namespace ColumnRef

def ofName (identifier : String) : ColumnRef :=
  match Name.split? identifier with
  | some (table, name) => ⟨some table, name⟩
  | none => ⟨none, identifier⟩

def written (c : ColumnRef) : String :=
  match c.table with
  | some table => table ++ "." ++ c.name
  | none => c.name

def hasAlias (c : ColumnRef) : Bool :=
  c.table.isSome

end ColumnRef

inductive Expr where
  | literal (v : Value)
  | column (c : ColumnRef)
  | unary (op : UnaryOp) (operand : Expr)
  | binary (op : BinaryOp) (left right : Expr)
  deriving DecidableEq

namespace Expr

/-- The columns that the expression names, from left to right. -/
def columns : Expr → List ColumnRef
  | literal _ => []
  | column c => [c]
  | unary _ e => e.columns
  | binary _ l r => l.columns ++ r.columns

/-- Some operator of the expression compares its operands. -/
def compares : Expr → Bool
  | literal _ | column _ => false
  | unary _ e => e.compares
  | binary op l r => op.isComparison || l.compares || r.compares

/-- A text with a backslash in front of each quote and each backslash. -/
def escape : List Char → List Char
  | [] => []
  | c :: cs => if c = '"' ∨ c = '\\' then '\\' :: c :: escape cs else c :: escape cs

/-- A value as it is written in an expression; a number keeps its decimal places. -/
def literalText : Value → String
  | .null => "NULL"
  | .number n => n.toText
  | .text s => "\"" ++ String.ofList (escape s.toList) ++ "\""
  | .boolean b => if b then "TRUE" else "FALSE"

/-- The text of an expression, with parentheses around every operation. -/
def toText : Expr → String
  | literal v => literalText v
  | column c => c.written
  | unary .not e => "(NOT " ++ e.toText ++ ")"
  | unary .negate e => "(-" ++ e.toText ++ ")"
  | binary op l r => "(" ++ l.toText ++ " " ++ op.symbol ++ " " ++ r.toText ++ ")"

end Expr

end RowPipeline
