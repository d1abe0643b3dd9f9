import RowPipeline.Expr.Basic
import RowPipeline.Expr.Token

/-! # Reading expressions

The tokens are taken one after the other. Between two tokens the reader expects either an operand or
an operator, and it remembers what is still open: parentheses, operators that wait for their
operand, and operators that have their left operand and wait for the right one. An incoming
operator completes every waiting operation that binds at least as tightly. `Climbing` is the same by
recursion, one call for each operation that waits.
-/

namespace RowPipeline

/-- Why a text is not an expression. -/
inductive ParseError where
  /-- A token that cannot stand here. -/
  | unexpected (found : Token)
  /-- A token where an operator or a closing parenthesis should stand. -/
  | unclosed (found : Token)
  /-- A number with too many digits. -/
  | badNumber (digits : String)
  /-- A piece of text that is no token. -/
  | illegal (found : Token)
  | endOfInput
  deriving DecidableEq

namespace ParseError

def message : ParseError → String
  | unexpected t => "Unexpected token " ++ t.describe
  | unclosed t => "Expected ')', found " ++ t.describe
  | badNumber digits => "Invalid literal: " ++ digits
  | illegal t => "Illegal input " ++ t.describe
  | endOfInput => "Unexpected end of expression"

/-- The error for a token that cannot stand here. -/
def ofToken (t : Token) : ParseError :=
  if t.isIllegal then illegal t else unexpected t

end ParseError

namespace Expr

/-- Something that is still open. -/
inductive Frame where
  | group
  | unary (op : UnaryOp)
  | binary (left : Expr) (op : BinaryOp)

/-- Where the reader stands between two tokens. -/
inductive Reader where
  | operand (frames : List Frame)
  /-- The operand `e` is complete; an operator or the end has to follow. -/
  | operator (e : Expr) (frames : List Frame)

/-- Completes the innermost operations that bind at least as tightly as `level`. -/
def complete (level : Nat) (e : Expr) : List Frame → Expr × List Frame
  | [] => (e, [])
  | .group :: fs => (e, .group :: fs)
  | .unary op :: fs =>
    if level ≤ op.level then complete level (unary op e) fs else (e, .unary op :: fs)
  | .binary l op :: fs =>
    if level ≤ op.level then complete level (binary op l e) fs else (e, .binary l op :: fs)

def hasGroup (frames : List Frame) : Bool :=
  frames.any fun
    | .group => true
    | _ => false

/-- A point of the name has no name part behind it: it ends the name or another point follows. -/
def hasEmptyPart : List Char → Bool
  | [] => false
  | ['.'] => true
  | '.' :: '.' :: _ => true
  | _ :: cs => hasEmptyPart cs

/-- Takes a token where an operand has to follow. -/
def takeOperand (frames : List Frame) (t : Token) : Except ParseError Reader :=
  match t.kind with
  | .not => .ok (.operand (.unary .not :: frames))
  | .operator (.arith .subtract) => .ok (.operand (.unary .negate :: frames))
  | .openParen => .ok (.operand (.group :: frames))
  | .null => .ok (.operator (literal .null) frames)
  | .boolean b => .ok (.operator (literal (.boolean b)) frames)
  | .string value => .ok (.operator (literal (.text value)) frames)
  | .number digits =>
    match Decimal.ofText? digits with
    | some n => .ok (.operator (literal (.number n)) frames)
    | none => .error (.badNumber digits)
  | .identifier name =>
    if hasEmptyPart name.toList then .error (.unexpected t)
    else .ok (.operator (column (.ofName name)) frames)
  | _ => .error (.ofToken t)

/-- Takes a token where an operator has to follow. -/
def takeOperator (e : Expr) (frames : List Frame) (t : Token) : Except ParseError Reader :=
  match t.kind with
  | .operator op =>
    let (left, rest) := complete op.level e frames
    .ok (.operand (.binary left op :: rest))
  | .closeParen =>
    match complete 0 e frames with
    | (inner, .group :: rest) => .ok (.operator inner rest)
    | _ => .error (.ofToken t)
  | _ => .error (if hasGroup frames then .unclosed t else .ofToken t)

def Reader.step : Reader → Token → Except ParseError Reader
  | .operand frames, t => takeOperand frames t
  | .operator e frames, t => takeOperator e frames t

/-- The expression that has been read, once the input has ended. -/
def Reader.finish : Reader → Except ParseError Expr
  | .operand _ => .error .endOfInput
  | .operator e frames =>
    match complete 0 e frames with
    | (whole, []) => .ok whole
    | _ => .error .endOfInput

def ofTokens (tokens : List Token) : Except ParseError Expr := do
  let reader ← tokens.foldlM Reader.step (.operand [])
  reader.finish

def parse (s : String) : Except ParseError Expr :=
  ofTokens (Token.ofText s)

end Expr

end RowPipeline
