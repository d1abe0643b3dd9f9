import RowPipeline.Expr.Parser
import RowPipeline.Proofs.Outcome
import RowPipeline.Proofs.Tokens

/-! # Which texts are expressions

Levels of operators decide how an expression is built and not whether there is one. Of what is still
open it only matters how many parentheses there are, so a counter and one of two states tell the
texts that can be read, and the token at which any other text fails.
-/

namespace RowPipeline.Expr

open Outcome

/-- What has to follow between two tokens, with the number of parentheses that are open, or the end
of an expression. -/
inductive Gate where
  | operand (opened : Nat)
  | operator (opened : Nat)
  | accepted
  deriving DecidableEq

namespace Gate

/-- The token is an operand on its own: a text, a truth value, null, a number in range, or a name
that neither ends in a point nor has two points in a row. -/
def isOperand : Token.Kind → Bool
  | .string _ | .boolean _ | .null => true
  | .number digits => (Decimal.ofText? digits).isSome
  | .identifier name =>
    !(['.'].isSuffixOf name.toList || Text.hasStretch name.toList ['.', '.'])
  | _ => false

/-- The gate behind a token, if the token may stand here. -/
def next? (t : Token) : Gate → Option Gate
  | operand opened =>
    match t.kind with
    | .not | .operator (.arith .subtract) => some (operand opened)
    | .openParen => some (operand (opened + 1))
    | kind => if isOperand kind then some (operator opened) else none
  | operator opened =>
    match t.kind, opened with
    | .operator _, opened => some (operand opened)
    | .closeParen, opened + 1 => some (operator opened)
    | .endOfInput, 0 => some accepted
    | _, _ => none
  | accepted => none

/-- The gate behind a list of tokens, if each of them may stand where it stands. -/
def after? (g : Gate) (tokens : List Token) : Option Gate :=
  tokens.foldlM (fun g t => g.next? t) g

def refusal (g : Gate) (t : Token) : ParseError :=
  match t.kind, g with
  | .endOfInput, _ => .endOfInput
  | .number digits, operand _ => .badNumber digits
  | _, operator (_ + 1) => .unclosed t
  | _, _ => if t.isIllegal then .illegal t else .unexpected t

/-- The first token that may not stand where it stands is `t`; the gate in front of it is `g`. -/
def StuckAt (start : Gate) (tokens : List Token) (g : Gate) (t : Token) : Prop :=
  ∃ before after, tokens = before ++ t :: after ∧ start.after? before = some g ∧ g.next? t = none

end Gate

def opened : List Frame → Nat
  | [] => 0
  | .group :: frames => opened frames + 1
  | .unary _ :: frames | .binary _ _ :: frames => opened frames

def Reader.gate : Reader → Gate
  | .operand frames => .operand (opened frames)
  | .operator _ frames => .operator (opened frames)

theorem hasGroup_eq (frames : List Frame) : hasGroup frames = (opened frames != 0) := by
  induction frames with
  | nil => rfl
  | cons frame frames ih => cases frame <;> simp_all [hasGroup, opened]

theorem opened_complete (level : Nat) (e : Expr) (frames : List Frame) :
    opened (complete level e frames).2 = opened frames := by
  fun_induction complete level e frames <;> simp_all [opened]

theorem complete_zero_cases (e : Expr) (frames : List Frame) :
    (opened frames = 0 ∧ ∃ whole, complete 0 e frames = (whole, [])) ∨
      ∃ inner rest, complete 0 e frames = (inner, .group :: rest) ∧
        opened frames = opened rest + 1 := by
  induction frames generalizing e with
  | nil => exact .inl ⟨rfl, e, rfl⟩
  | cons frame frames ih =>
      cases frame with
      | group => exact .inr ⟨e, frames, rfl, rfl⟩
      | unary op => simpa [complete, opened] using ih (unary op e)
      | binary l op => simpa [complete, opened] using ih (Expr.binary op l e)

theorem hasEmptyPart_iff {cs : List Char} :
    hasEmptyPart cs = true ↔ ['.'] <:+ cs ∨ Text.hasStretch cs ['.', '.'] = true := by
  fun_induction hasEmptyPart cs with
  | case1 => simp [Text.hasStretch]
  | case2 => simp
  | case3 cs => simp [Text.hasStretch, List.isPrefixOf]
  | case4 c cs single double ih =>
      have nonempty : ['.'] ≠ c :: cs := fun h => by
        obtain ⟨rfl, rfl⟩ := List.cons.inj h
        exact single rfl rfl
      have apart : ['.', '.'].isPrefixOf (c :: cs) = false := by
        rw [Bool.eq_false_iff, ne_eq, List.isPrefixOf_iff_prefix]
        rintro ⟨rest, h⟩
        obtain ⟨rfl, rfl⟩ := List.cons.inj h
        exact double rest rfl rfl
      rw [ih, List.suffix_cons_iff, Text.hasStretch, apart, Bool.false_or]
      simp [nonempty]

theorem isOperand_identifier (name : String) :
    Gate.isOperand (.identifier name) = !hasEmptyPart name.toList := by
  have parts : hasEmptyPart name.toList =
      (['.'].isSuffixOf name.toList || Text.hasStretch name.toList ['.', '.']) := by
    rw [Bool.eq_iff_iff, Bool.or_eq_true, hasEmptyPart_iff, List.isSuffixOf_iff_suffix]
  rw [Gate.isOperand, parts]

/-- The outcome of taking the token is what the gate tells. -/
def Gate.Tells (g : Gate) (t : Token) : Except ParseError Reader → Prop
  | .ok r => g.next? t = some r.gate
  | .error error => g.next? t = none ∧ error = g.refusal t

theorem tells_takeOperand (frames : List Frame) {t : Token} (inside : t.kind ≠ .endOfInput) :
    (Gate.operand (opened frames)).Tells t (takeOperand frames t) := by
  obtain ⟨kind, text, column⟩ := t
  cases kind with
  | operator op =>
      by_cases minus : op = .arith .subtract
      · subst minus
        simp [takeOperand, Gate.Tells, Gate.next?, Reader.gate, opened]
      · simp [takeOperand, Gate.Tells, Gate.next?, Gate.refusal, Gate.isOperand,
          ParseError.ofToken, minus]
  | number digits =>
      simp only [takeOperand]
      cases h : Decimal.ofText? digits <;>
        simp [Gate.Tells, Gate.next?, Gate.refusal, Gate.isOperand, Reader.gate, h]
  | identifier name =>
      simp only [takeOperand]
      cases h : hasEmptyPart name.toList <;>
        simp [Gate.Tells, Gate.next?, Gate.refusal, isOperand_identifier, Reader.gate, h,
          Token.isIllegal]
  | endOfInput => exact absurd rfl inside
  | _ =>
      simp [takeOperand, Gate.Tells, Gate.next?, Gate.refusal, Gate.isOperand, Reader.gate, opened,
        ParseError.ofToken]

theorem tells_takeOperator (e : Expr) (frames : List Frame) {t : Token}
    (inside : t.kind ≠ .endOfInput) :
    (Gate.operator (opened frames)).Tells t (takeOperator e frames t) := by
  obtain ⟨kind, text, column⟩ := t
  cases kind with
  | operator op =>
      simp [takeOperator, Gate.Tells, Gate.next?, Reader.gate, opened, opened_complete]
  | closeParen =>
      simp only [takeOperator]
      rcases complete_zero_cases e frames with ⟨closed, whole, h⟩ | ⟨inner, rest, h, count⟩
      · simp [h, closed, Gate.Tells, Gate.next?, Gate.refusal, ParseError.ofToken]
      · simp [h, count, Gate.Tells, Gate.next?, Reader.gate]
  | endOfInput => exact absurd rfl inside
  | _ =>
      simp only [takeOperator, hasGroup_eq]
      cases opened frames <;> simp [Gate.Tells, Gate.next?, Gate.refusal, ParseError.ofToken]

/-- Where a token of the input may follow, the reader takes it, and the gate tells the error at any
other token. -/
theorem tells_step (r : Reader) {t : Token} (inside : t.kind ≠ .endOfInput) :
    r.gate.Tells t (r.step t) := by
  cases r with
  | operand frames => exact tells_takeOperand frames inside
  | operator e frames => exact tells_takeOperator e frames inside

theorem finish_gate (r : Reader) {t : Token} (ends : t.kind = .endOfInput) :
    (∃ e, r.finish = .ok e ∧ r.gate.next? t = some .accepted) ∨
      (r.finish = .error (r.gate.refusal t) ∧ r.gate.next? t = none) := by
  cases r with
  | operand frames =>
      simp [Reader.finish, Reader.gate, Gate.refusal, Gate.next?, Gate.isOperand, ends]
  | operator e frames =>
      simp only [Reader.finish, Reader.gate, Gate.next?, Gate.refusal, ends]
      rcases complete_zero_cases e frames with ⟨closed, whole, h⟩ | ⟨inner, rest, h, count⟩
      · simp [h, closed]
      · simp [h, count]

/-- A reader that goes on to the end of the input either succeeds, and the gate is open up to the
end, or fails with the error of the first token at which the gate is closed. -/
theorem read_cases (tokens : List Token) (inside : ∀ t ∈ tokens, t.kind ≠ .endOfInput)
    (last : Token) (ends : last.kind = .endOfInput) (r : Reader) :
    (∃ e, (tokens.foldlM Reader.step r >>= Reader.finish) = .ok e ∧
      r.gate.after? (tokens ++ [last]) = some .accepted) ∨
    ∃ g t, (tokens.foldlM Reader.step r >>= Reader.finish) = .error (g.refusal t) ∧
      r.gate.StuckAt (tokens ++ [last]) g t := by
  induction tokens generalizing r with
  | nil =>
      simp only [List.foldlM_nil, List.nil_append, pure_bind]
      rcases finish_gate r ends with ⟨e, done, step⟩ | ⟨failed, step⟩
      · exact .inl ⟨e, done, by simp [Gate.after?, step]⟩
      · exact .inr ⟨r.gate, last, failed, [], [], rfl, rfl, step⟩
  | cons t tokens ih =>
      obtain ⟨here, later⟩ := List.forall_mem_cons.1 inside
      have told := tells_step r here
      simp only [List.foldlM_cons, List.cons_append]
      cases step : r.step t with
      | error error =>
          rw [step] at told
          exact .inr ⟨r.gate, t, by rw [← told.2]; rfl, [], _, rfl, rfl, told.1⟩
      | ok r' =>
          rw [step] at told
          change r.gate.next? t = some r'.gate at told
          rcases ih later r' with
            ⟨e, done, passed⟩ | ⟨g, t', failed, before, after, split, passed, stuck⟩
          · exact .inl ⟨e, done, by simpa [Gate.after?, told] using passed⟩
          · exact .inr ⟨g, t', failed, t :: before, after, by rw [split]; rfl,
              by simpa [Gate.after?, told] using passed, stuck⟩

namespace Gate

theorem StuckAt.unique {start g g' : Gate} {tokens : List Token} {t t' : Token}
    (h : start.StuckAt tokens g t) (h' : start.StuckAt tokens g' t') : g = g' ∧ t = t' := by
  obtain ⟨before, after, rfl, passed, stuck⟩ := h
  obtain ⟨before', after', split, passed', stuck'⟩ := h'
  induction before generalizing start before' with
  | nil =>
      obtain rfl : start = g := by simpa [after?] using passed
      cases before' with
      | nil =>
          obtain rfl : start = g' := by simpa [after?] using passed'
          exact ⟨rfl, (List.cons.inj split).1⟩
      | cons u before' =>
          obtain ⟨rfl, _⟩ := List.cons.inj split
          simp [after?, stuck] at passed'
  | cons u before ih =>
      obtain ⟨m, step, passed⟩ := Option.bind_eq_some_iff.1 passed
      cases before' with
      | nil =>
          obtain ⟨rfl, _⟩ := List.cons.inj split
          obtain rfl : start = g' := by simpa [after?] using passed'
          simp [stuck'] at step
      | cons u' before' =>
          obtain ⟨rfl, later⟩ := List.cons.inj split
          obtain ⟨m', step', passed'⟩ := Option.bind_eq_some_iff.1 passed'
          obtain rfl : m = m' := Option.some.inj (step.symm.trans step')
          exact ih passed _ later passed'

theorem StuckAt.after?_eq_none {start g : Gate} {tokens : List Token} {t : Token}
    (h : start.StuckAt tokens g t) : start.after? tokens = none := by
  obtain ⟨before, after, rfl, passed, stuck⟩ := h
  unfold after? at passed ⊢
  rw [List.foldlM_append, passed]
  simp [stuck]

end Gate

/-- A text is an expression just if its tokens, with the end of the input, lead the gate from an
operand and no parenthesis to the end. Any other text fails at the first token at which the gate is
closed, and the gate in front of that token tells the error. -/
theorem parse_follows_gate (s : String) :
    ((∃ e, parse s = .ok e) ↔
      (Gate.operand 0).after? (Token.tokenize s) = some .accepted) ∧
    ∀ error, parse s = .error error ↔
      ∃ g t, (Gate.operand 0).StuckAt (Token.tokenize s) g t ∧ error = g.refusal t := by
  have cases := read_cases (Token.ofText s) (fun t => Token.kind_ne_endOfInput)
    ⟨.endOfInput, "", s.toList.length⟩ rfl (.operand [])
  change (∃ e, parse s = .ok e ∧ (Gate.operand 0).after? (Token.tokenize s) = some .accepted) ∨
    ∃ g t, parse s = .error (g.refusal t) ∧ (Gate.operand 0).StuckAt (Token.tokenize s) g t at cases
  rcases cases with ⟨e, read, passed⟩ | ⟨g, t, failed, stuck⟩
  · refine ⟨iff_of_true ⟨e, read⟩ passed, fun error => iff_of_false (by simp [read]) ?_⟩
    rintro ⟨g, t, stuck, _⟩
    simp [stuck.after?_eq_none] at passed
  · refine ⟨iff_of_false (by simp [failed]) (by simp [stuck.after?_eq_none]), fun error => ?_⟩
    rw [failed, Except.error.injEq]
    constructor
    · rintro rfl
      exact ⟨g, t, stuck, rfl⟩
    · rintro ⟨g', t', stuck', rfl⟩
      obtain ⟨rfl, rfl⟩ := stuck.unique stuck'
      rfl

end RowPipeline.Expr
