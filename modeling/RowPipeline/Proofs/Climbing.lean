import RowPipeline.Expr.Climbing
import RowPipeline.Proofs.Layout

/-! # Both ways of reading agree

Reading by recursion and reading token by token come to the same expression or the same error. The
calls that the recursion has not returned from are what the reader remembers as open: a part that is
read by recursion takes the reader from an operand to what stands behind it, and what was open in
front of the part is still open then.
-/

namespace RowPipeline

open Outcome

namespace Expr

/-! ## The reader over a list of tokens -/

/-- The expression that the reader comes to over the tokens. -/
def Reader.over (r : Reader) (tokens : List Token) : Except ParseError Expr := do
  let last ← tokens.foldlM Reader.step r
  last.finish

theorem Reader.over_cons (r : Reader) (t : Token) (tokens : List Token) :
    r.over (t :: tokens) = r.step t >>= fun next => next.over tokens := by
  simp only [Reader.over, List.foldlM_cons, bind_assoc]

/-- No operator in front is tighter than `level`. -/
def NoTighter (level : Nat) : List Token → Prop
  | [] => True
  | t :: _ => ∀ op, t.kind = .operator op → op.level ≤ level

theorem NoTighter.kind_ne_operator {t : Token} {tokens : List Token}
    (loose : NoTighter 0 (t :: tokens)) (op : BinaryOp) : t.kind ≠ .operator op :=
  fun kind => Nat.not_le.2 op.level_pos (loose op kind)

/-- The tokens behind an operand meet it together with what they complete of the open operations. -/
theorem over_operator_congr {level : Nat} {e e' : Expr} {frames frames' : List Frame}
    (same : ∀ below ≤ level, complete below e frames = complete below e' frames')
    (groups : hasGroup frames = hasGroup frames') {tokens : List Token}
    (loose : NoTighter level tokens) :
    (Reader.operator e frames).over tokens = (Reader.operator e' frames').over tokens := by
  have atEnd := same 0 (Nat.zero_le _)
  cases tokens with
  | nil =>
      change (Reader.operator e frames).finish = (Reader.operator e' frames').finish
      simp only [Reader.finish, atEnd]
  | cons t tokens =>
      have step : (Reader.operator e frames).step t = (Reader.operator e' frames').step t := by
        simp only [Reader.step, takeOperator]
        cases kind : t.kind with
        | operator op => simp only [same op.level (loose op kind)]
        | closeParen => simp only [atEnd]
        | _ => simp only [groups]
      rw [Reader.over_cons, Reader.over_cons, step]

theorem over_unary {op : UnaryOp} {tokens : List Token} (loose : NoTighter op.level tokens)
    (e : Expr) (frames : List Frame) :
    (Reader.operator e (.unary op :: frames)).over tokens =
      (Reader.operator (unary op e) frames).over tokens := by
  refine over_operator_congr (fun below le => ?_) (by simp [hasGroup]) loose
  rw [complete, if_pos le]

theorem over_binary {op : BinaryOp} {tokens : List Token} (loose : NoTighter op.level tokens)
    (left e : Expr) (frames : List Frame) :
    (Reader.operator e (.binary left op :: frames)).over tokens =
      (Reader.operator (binary op left e) frames).over tokens := by
  refine over_operator_congr (fun below le => ?_) (by simp [hasGroup]) loose
  rw [complete, if_pos le]

namespace Climbing

/-! ## Where a part ends -/

theorem noTighter_of_extend {level : Nat} : {left : Expr} → {tokens : List Token} →
    {whole : Parsed (tokens.length + 1)} → extend level left tokens = .ok whole →
      NoTighter level whole.rest
  | left, [], whole, h => by
    rw [extend] at h
    cases h
    trivial
  | left, t :: tokens, whole, h => by
    rw [extend] at h
    cases kind : t.kind with
    | operator op =>
        simp only [kind] at h
        split at h
        · obtain ⟨right, _, h⟩ := bind_eq_ok.1 h
          obtain ⟨whole, extended, h⟩ := bind_eq_ok.1 h
          cases h
          have ends := noTighter_of_extend extended
          exact ends
        · next loose =>
            cases h
            intro op' kind'
            obtain rfl : op = op' := by simpa [kind] using kind'
            exact Nat.le_of_not_lt loose
    | _ =>
        simp only [kind] at h
        cases h
        simp [NoTighter, kind]
termination_by _ tokens => tokens.length
decreasing_by exact Nat.lt_succ_of_lt right.shorter

theorem noTighter_of_climb {level : Nat} {tokens : List Token} {part : Parsed tokens.length}
    (h : climb level tokens = .ok part) : NoTighter level part.rest := by
  rw [climb] at h
  obtain ⟨left, _, h⟩ := bind_eq_ok.1 h
  obtain ⟨whole, extended, h⟩ := bind_eq_ok.1 h
  cases h
  exact noTighter_of_extend extended

/-! ## The reader over a part -/

/-- The expression that the reader comes to behind a part. -/
def Parsed.resume {bound : Nat} (frames : List Frame) (part : Parsed bound) :
    Except ParseError Expr :=
  (Reader.operator part.expr frames).over part.rest

theorem resume_unary {op : UnaryOp} (tokens : List Token) (frames : List Frame) :
    climb op.level tokens >>= Parsed.resume (.unary op :: frames) =
      climb op.level tokens >>= fun inner =>
        (Reader.operator (unary op inner.expr) frames).over inner.rest :=
  bind_congr_of_ok fun inner read => over_unary (noTighter_of_climb read) inner.expr frames

theorem resume_group {bound : Nat} {inner : Parsed bound} (loose : NoTighter 0 inner.rest)
    (frames : List Frame) :
    inner.resume (.group :: frames) = inner.close >>= Parsed.resume frames := by
  obtain ⟨e, _ | ⟨t, rest⟩, shorter⟩ := inner
  · rfl
  · rw [Parsed.resume, Reader.over_cons, Parsed.close]
    simp only [Reader.step, takeOperator]
    cases kind : t.kind with
    | operator op => exact absurd kind (loose.kind_ne_operator op)
    | _ => rfl

-- The recursion is that of the three functions, and `frames` is what is open in front of the part.
mutual

theorem over_operand (frames : List Frame) : (tokens : List Token) →
    (Reader.operand frames).over tokens = operand tokens >>= Parsed.resume frames
  | [] => by
    rw [operand]
    rfl
  | t :: tokens => by
    have unary (op : UnaryOp) : (Reader.operand (.unary op :: frames)).over tokens =
        climb op.level tokens >>= fun inner =>
          (Reader.operator (.unary op inner.expr) frames).over inner.rest := by
      have held : Holds (op.level + 1) (.unary op :: frames) := Nat.lt_succ_self _
      rw [over_climb held tokens, resume_unary]
    rw [Reader.over_cons, operand]
    simp only [Reader.step, takeOperand]
    cases kind : t.kind with
    | not =>
        simp only [bind_assoc, pure_bind]
        exact unary .not
    | openParen =>
        have held : Holds 1 (.group :: frames) := trivial
        simp only [bind_assoc]
        refine (over_climb held tokens).trans (bind_congr_of_ok fun inner read => ?_)
        exact resume_group (noTighter_of_climb read) frames
    | operator op =>
        rcases op with _ | _ | _ | ⟨_ | _ | _ | _⟩
        case arith.subtract =>
            simp only [bind_assoc, pure_bind]
            exact unary .negate
        all_goals
          simp only [single, kind]
          rfl
    | number digits =>
        simp only [single, kind]
        cases Decimal.ofText? digits <;> rfl
    | identifier name =>
        simp only [single, kind]
        split <;> rfl
    | _ =>
        simp only [single, kind]
        rfl
termination_by tokens => (tokens.length, 0)

theorem over_climb {level : Nat} {frames : List Frame} (held : Holds (level + 1) frames)
    (tokens : List Token) :
    (Reader.operand frames).over tokens = climb level tokens >>= Parsed.resume frames := by
  rw [climb, over_operand]
  simp only [bind_assoc, pure_bind]
  refine bind_congr fun left => ?_
  exact over_extend held left.expr left.rest
termination_by (tokens.length, 1)
decreasing_by
  · exact Prod.Lex.right _ Nat.zero_lt_one
  · exact Prod.Lex.left _ _ left.shorter

theorem over_extend {level : Nat} {frames : List Frame} (held : Holds (level + 1) frames)
    (left : Expr) : (tokens : List Token) →
    (Reader.operator left frames).over tokens =
      extend level left tokens >>= Parsed.resume frames
  | [] => by
    rw [extend]
    rfl
  | t :: tokens => by
    rw [extend]
    cases kind : t.kind with
    | operator op =>
        simp only
        split
        · next tighter =>
            have kept : complete op.level left frames = (left, frames) :=
              complete_of_holds (held.mono tighter) left
            have inside : Holds (op.level + 1) (.binary left op :: frames) := Nat.lt_succ_self _
            rw [Reader.over_cons]
            simp only [Reader.step, takeOperator, kind, kept, bind_assoc, pure_bind]
            refine (over_climb inside tokens).trans (bind_congr_of_ok fun right read => ?_)
            refine (over_binary (noTighter_of_climb read) left right.expr frames).trans ?_
            exact over_extend held (binary op left right.expr) right.rest
        · rfl
    | _ => rfl
termination_by tokens => (tokens.length, 0)
decreasing_by
  · exact Prod.Lex.left _ _ (Nat.lt_succ_self _)
  · exact Prod.Lex.left _ _ (Nat.lt_succ_of_lt right.shorter)

end

end Climbing

/-! ## Whole expressions -/

/-- The reader comes to what the recursion comes to. -/
theorem ofTokens_eq_climbing (tokens : List Token) :
    ofTokens tokens = Climbing.ofTokens tokens := by
  have held : Holds 1 [] := trivial
  refine (Climbing.over_climb held tokens).trans (bind_congr_of_ok fun whole read => ?_)
  have loose := Climbing.noTighter_of_climb read
  obtain ⟨e, _ | ⟨t, rest⟩, shorter⟩ := whole
  · rfl
  · rw [Climbing.Parsed.resume, Reader.over_cons]
    simp only [Reader.step, takeOperator]
    cases kind : t.kind with
    | operator op => exact absurd kind (loose.kind_ne_operator op)
    | _ => rfl

theorem parse_eq_climbing (s : String) : parse s = Climbing.ofTokens (Token.ofText s) :=
  ofTokens_eq_climbing (Token.ofText s)

end Expr

end RowPipeline
