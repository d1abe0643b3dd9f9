import RowPipeline.Expr.Parser

/-! # Reading expressions by recursion

The recursive form of reading: an operand, and then operators with their right operands as long as
they are tighter than the operator in front. The right operand of an operator is everything that is
tighter than the operator itself.
-/

namespace RowPipeline.Expr.Climbing

/-- An expression from the front of fewer than `bound` tokens, and the tokens that are left. -/
structure Parsed (bound : Nat) where
  expr : Expr
  rest : List Token
  shorter : rest.length < bound

/-- Takes the parenthesis that closes a group. -/
def Parsed.close {bound : Nat} : Parsed bound → Except ParseError (Parsed (bound + 1))
  | ⟨_, [], _⟩ => .error .endOfInput
  | ⟨e, t :: rest, shorter⟩ =>
    if t.kind = .closeParen then .ok ⟨e, rest, Nat.lt_succ_of_lt (Nat.lt_of_succ_lt shorter)⟩
    else .error (.unclosed t)

/-- An operand in front that is a single token. -/
def single (t : Token) : Except ParseError Expr :=
  match t.kind with
  | .null => .ok (literal .null)
  | .boolean b => .ok (literal (.boolean b))
  | .string value => .ok (literal (.text value))
  | .number digits =>
    match Decimal.ofText? digits with
    | some n => .ok (literal (.number n))
    | none => .error (.badNumber digits)
  | .identifier name =>
    if hasEmptyPart name.toList then .error (.unexpected t) else .ok (column (.ofName name))
  | _ => .error (.ofToken t)

mutual

/-- Reads an operand: a single token, a group, or an operator in front of its operand. -/
def operand : (tokens : List Token) → Except ParseError (Parsed tokens.length)
  | [] => .error .endOfInput
  | t :: tokens =>
    match t.kind with
    | .not => do
      let inner ← climb UnaryOp.not.level tokens
      return ⟨unary .not inner.expr, inner.rest, Nat.lt_succ_of_lt inner.shorter⟩
    | .operator (.arith .subtract) => do
      let inner ← climb UnaryOp.negate.level tokens
      return ⟨unary .negate inner.expr, inner.rest, Nat.lt_succ_of_lt inner.shorter⟩
    | .openParen => do
      let inner ← climb 0 tokens
      inner.close
    | _ => do
      let e ← single t
      return ⟨e, tokens, Nat.lt_succ_self _⟩
termination_by tokens => (tokens.length, 0)

/-- Reads an operand and the operators behind it that are tighter than `level`. -/
def climb (level : Nat) (tokens : List Token) : Except ParseError (Parsed tokens.length) := do
  let left ← operand tokens
  let whole ← extend level left.expr left.rest
  return ⟨whole.expr, whole.rest, Nat.lt_of_lt_of_le whole.shorter left.shorter⟩
termination_by (tokens.length, 1)
decreasing_by
  · exact Prod.Lex.right _ Nat.zero_lt_one
  · exact Prod.Lex.left _ _ left.shorter

/-- Reads the operators behind `left` that are tighter than `level`, with their right operands. -/
def extend (level : Nat) (left : Expr) :
    (tokens : List Token) → Except ParseError (Parsed (tokens.length + 1))
  | [] => return ⟨left, [], Nat.zero_lt_one⟩
  | t :: tokens =>
    match t.kind with
    | .operator op =>
      if level < op.level then do
        let right ← climb op.level tokens
        let whole ← extend level (binary op left right.expr) right.rest
        return ⟨whole.expr, whole.rest,
          Nat.lt_trans whole.shorter (Nat.succ_lt_succ (Nat.lt_succ_of_lt right.shorter))⟩
      else
        return ⟨left, t :: tokens, Nat.lt_succ_self _⟩
    | _ => return ⟨left, t :: tokens, Nat.lt_succ_self _⟩
termination_by tokens => (tokens.length, 0)
decreasing_by
  · exact Prod.Lex.left _ _ (Nat.lt_succ_self _)
  · exact Prod.Lex.left _ _ (Nat.lt_succ_of_lt right.shorter)

end

def ofTokens (tokens : List Token) : Except ParseError Expr := do
  let whole ← climb 0 tokens
  match whole.rest with
  | [] => .ok whole.expr
  | t :: _ => .error (.ofToken t)

end RowPipeline.Expr.Climbing
