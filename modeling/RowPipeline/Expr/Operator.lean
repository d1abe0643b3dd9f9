/-! # Operators of the expression language

Each operator has a level; operators of a higher level take their operands first.
-/

namespace RowPipeline

/-- An operator that joins conditions. -/
inductive LogicOp where
  | or
  | and
  deriving DecidableEq, Repr

/-- An operator that compares any two values by their texts. -/
inductive TextOp where
  | equal
  | notEqual
  /-- The left text contains the right one. -/
  | contains
  deriving DecidableEq, Repr

/-- An operator that compares two numbers. -/
inductive OrderOp where
  | less
  | greater
  | lessEqual
  | greaterEqual
  deriving DecidableEq, Repr

/-- An operator that computes a number from two numbers. -/
inductive ArithOp where
  | add
  | subtract
  | multiply
  | divide
  deriving DecidableEq, Repr

inductive BinaryOp where
  | logic (op : LogicOp)
  | text (op : TextOp)
  | order (op : OrderOp)
  | arith (op : ArithOp)
  deriving DecidableEq, Repr

inductive UnaryOp where
  | not
  | negate
  deriving DecidableEq, Repr

namespace BinaryOp

def isComparison : BinaryOp → Bool
  | text _ | order _ => true
  | logic _ | arith _ => false

def symbol : BinaryOp → String
  | logic .or => "OR"
  | logic .and => "AND"
  | text .equal => "="
  | text .notEqual => "!="
  | text .contains => "CONTAINS"
  | order .less => "<"
  | order .greater => ">"
  | order .lessEqual => "<="
  | order .greaterEqual => ">="
  | arith .add => "+"
  | arith .subtract => "-"
  | arith .multiply => "*"
  | arith .divide => "/"

def level : BinaryOp → Nat
  | logic .or => 1
  | logic .and => 2
  | text _ | order _ => 4
  | arith .add | arith .subtract => 5
  | arith .multiply | arith .divide => 6

end BinaryOp

/-- How tightly the operator binds: negation of a condition takes comparisons into its operand, the
minus sign takes no operator into it. -/
def UnaryOp.level : UnaryOp → Nat
  | .not => 3
  | .negate => 7

end RowPipeline
