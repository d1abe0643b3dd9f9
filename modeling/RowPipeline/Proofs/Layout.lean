import RowPipeline.Expr.Parser
import RowPipeline.Proofs.Outcome

/-! # How an expression is laid out

A layout is an expression together with its parentheses, so it has a definite sequence of tokens.
The conventions of the language say which layout a sequence of tokens stands for: multiplication
before addition before comparison before AND before OR, operators of one class from the left, a
minus sign for the next operand alone, and NOT for everything up to the next AND or OR of its group.
-/

namespace RowPipeline

open Outcome

/-! ## Tokens and layouts -/

/-- A token as far as the structure of expressions goes. The minus sign is the same mark in front of
an operand and between two. -/
inductive Mark where
  | operand (e : Expr)
  | not
  | operator (op : BinaryOp)
  | openParen
  | closeParen

namespace Mark

def isParen : Mark → Bool
  | openParen | closeParen => true
  | operand _ | not | operator _ => false

@[simp] theorem isParen_operand (e : Expr) : (operand e).isParen = false := rfl

@[simp] theorem isParen_not : not.isParen = false := rfl

@[simp] theorem isParen_operator (op : BinaryOp) : (operator op).isParen = false := rfl

@[simp] theorem isParen_openParen : openParen.isParen = true := rfl

@[simp] theorem isParen_closeParen : closeParen.isParen = true := rfl

end Mark

/-- The mark of a token, if it has a place in expressions. -/
def Token.Kind.mark? : Token.Kind → Option Mark
  | .operator op => some (.operator op)
  | .not => some .not
  | .openParen => some .openParen
  | .closeParen => some .closeParen
  | .null => some (.operand (.literal .null))
  | .boolean b => some (.operand (.literal (.boolean b)))
  | .string value => some (.operand (.literal (.text value)))
  | .number digits => (Decimal.ofText? digits).map fun n => .operand (.literal (.number n))
  | .identifier name =>
    if Expr.hasEmptyPart name.toList then none else some (.operand (.column (.ofName name)))
  | .stray _ | .unterminated | .endOfInput => none

/-- The marks of the tokens of a text, if all of them have a place in expressions. -/
def Token.marks? (s : String) : Option (List Mark) :=
  (Token.ofText s).mapM fun t => t.kind.mark?

def UnaryOp.mark : UnaryOp → Mark
  | .not => .not
  | .negate => .operator (.arith .subtract)

/-- The operands and operators of an expression from left to right. -/
def Expr.inOrder : Expr → List Mark
  | .literal v => [.operand (.literal v)]
  | .column c => [.operand (.column c)]
  | .unary op e => op.mark :: e.inOrder
  | .binary op l r => l.inOrder ++ .operator op :: r.inOrder

namespace BinaryOp

def isLogic : BinaryOp → Bool
  | logic _ => true
  | text _ | order _ | arith _ => false

/-- The classes of operators, the loosest first. -/
def tightness : BinaryOp → Nat
  | logic .or => 0
  | logic .and => 1
  | text _ | order _ => 2
  | arith .add | arith .subtract => 3
  | arith .multiply | arith .divide => 4

theorem tightness_le_iff {a b : BinaryOp} : a.tightness ≤ b.tightness ↔ a.level ≤ b.level := by
  rcases a with ⟨_ | _⟩ | _ | _ | ⟨_ | _ | _ | _⟩ <;>
    rcases b with ⟨_ | _⟩ | _ | _ | ⟨_ | _ | _ | _⟩ <;> simp [tightness, level]

theorem tightness_lt_iff {a b : BinaryOp} : a.tightness < b.tightness ↔ a.level < b.level := by
  rw [← Nat.not_le, tightness_le_iff, Nat.not_le]

theorem isLogic_iff {op : BinaryOp} : op.isLogic = true ↔ op.level ≤ UnaryOp.not.level := by
  rcases op with ⟨_ | _⟩ | _ | _ | ⟨_ | _ | _ | _⟩ <;> simp [isLogic, level, UnaryOp.level]

theorem level_pos (op : BinaryOp) : 0 < op.level := by
  rcases op with ⟨_ | _⟩ | _ | _ | ⟨_ | _ | _ | _⟩ <;> simp [level]

theorem level_lt_negate (op : BinaryOp) : op.level < UnaryOp.negate.level := by
  rcases op with ⟨_ | _⟩ | _ | _ | ⟨_ | _ | _ | _⟩ <;> simp [level, UnaryOp.level]

end BinaryOp

/-- An expression with its parentheses. -/
inductive Layout where
  | operand (e : Expr)
  | group (inner : Layout)
  | unary (op : UnaryOp) (inner : Layout)
  | binary (op : BinaryOp) (left right : Layout)

namespace Layout

def marks : Layout → List Mark
  | operand e => [.operand e]
  | group t => .openParen :: t.marks ++ [.closeParen]
  | unary op t => op.mark :: t.marks
  | binary op l r => l.marks ++ .operator op :: r.marks

def expr : Layout → Expr
  | operand e => e
  | group t => t.expr
  | unary op t => .unary op t.expr
  | binary op l r => .binary op l.expr r.expr

/-- The operator of two operands that are not in parentheses together. -/
def operator? : Layout → Option BinaryOp
  | binary op _ _ => some op
  | operand _ | group _ | unary _ _ => none

/-- AND or OR stands in the layout outside of its parentheses. -/
def hasLogic : Layout → Bool
  | operand _ | group _ => false
  | unary _ t => t.hasLogic
  | binary op l r => op.isLogic || l.hasLogic || r.hasLogic

/-- The operand of a NOT outside of parentheses ends where the layout ends. -/
def endsInNot : Layout → Bool
  | operand _ | group _ => false
  | unary .not _ => true
  | unary .negate t => t.endsInNot
  | binary _ _ r => r.endsInNot

/-- The layout keeps the conventions of the language. -/
inductive Conventional : Layout → Prop where
  | operand (e : Expr) : Conventional (operand e)
  | group {t : Layout} : t.Conventional → Conventional (group t)
  /-- The minus sign takes no operator into its operand. -/
  | negate {t : Layout} : t.Conventional → t.operator? = none → Conventional (unary .negate t)
  /-- NOT takes no AND or OR into its operand. -/
  | not {t : Layout} : t.Conventional → t.hasLogic = false → Conventional (unary .not t)
  /-- An operator on the left is at least as tight and one on the right is tighter. Behind the
  operand of a NOT there is only AND or OR. -/
  | binary {op : BinaryOp} {l r : Layout} : l.Conventional → r.Conventional →
      (∀ left, l.operator? = some left → op.tightness ≤ left.tightness) →
      (∀ right, r.operator? = some right → op.tightness < right.tightness) →
      (l.endsInNot = true → op.isLogic = true) → Conventional (binary op l r)

/-- A conventional layout that an operator of this level may follow. -/
structure Precedes (level : Nat) (t : Layout) : Prop where
  conventional : t.Conventional
  tight : ∀ op, t.operator? = some op → level ≤ op.level
  logic : t.endsInNot = true → level ≤ UnaryOp.not.level

theorem conventional_binary_iff {op : BinaryOp} {l r : Layout} :
    (binary op l r).Conventional ↔ l.Precedes op.level ∧ r.Conventional ∧
      ∀ right, r.operator? = some right → op.level < right.level := by
  constructor
  · rintro (_ | _ | _ | _ | ⟨convLeft, convRight, left, right, logic⟩)
    exact ⟨⟨convLeft, fun op' here => BinaryOp.tightness_le_iff.1 (left op' here),
      fun ends => BinaryOp.isLogic_iff.1 (logic ends)⟩, convRight,
      fun op' here => BinaryOp.tightness_lt_iff.1 (right op' here)⟩
  · rintro ⟨⟨convLeft, left, logic⟩, convRight, right⟩
    exact .binary convLeft convRight
      (fun op' here => BinaryOp.tightness_le_iff.2 (left op' here))
      (fun op' here => BinaryOp.tightness_lt_iff.2 (right op' here))
      (fun ends => BinaryOp.isLogic_iff.2 (logic ends))

theorem level_lt_of_hasLogic_eq_false {t : Layout} (free : t.hasLogic = false) {op : BinaryOp}
    (here : t.operator? = some op) : UnaryOp.not.level < op.level := by
  cases t with
  | binary op' l r =>
      obtain rfl : op' = op := Option.some.inj here
      simp only [hasLogic, Bool.or_eq_false_iff] at free
      have other := free.1.1
      rw [← Bool.not_eq_true, BinaryOp.isLogic_iff] at other
      exact Nat.lt_of_not_le other
  | _ => cases here

theorem Conventional.hasLogic_eq_false {t : Layout} (h : t.Conventional)
    (tight : ∀ op, t.operator? = some op → UnaryOp.not.level < op.level) :
    t.hasLogic = false := by
  induction h with
  | operand | group => rfl
  | negate _ alone ih => exact ih (by simp [alone])
  | not _ free => exact free
  | @binary op l r _ _ left right _ ihl ihr =>
      have own : UnaryOp.not.level < op.level := tight op rfl
      have leftFree := ihl fun op' here =>
        Nat.lt_of_lt_of_le own (BinaryOp.tightness_le_iff.1 (left op' here))
      have rightFree := ihr fun op' here =>
        Nat.lt_trans own (BinaryOp.tightness_lt_iff.1 (right op' here))
      have noLogic : op.isLogic = false := by
        rw [← Bool.not_eq_true, BinaryOp.isLogic_iff]
        exact Nat.not_le_of_lt own
      simp [hasLogic, noLogic, leftFree, rightFree]

theorem Precedes.unary {level : Nat} {t : Layout} {op : UnaryOp} (h : t.Precedes level)
    (fits : ∀ op', t.operator? = some op' → op.level < op'.level) (le : level ≤ op.level) :
    (Layout.unary op t).Precedes level := by
  cases op with
  | not =>
      have free := h.conventional.hasLogic_eq_false fits
      exact ⟨.not h.conventional free, nofun, fun _ => le⟩
  | negate =>
      -- No operator is tighter than the minus sign, so the operand cannot be one of two operands.
      have alone : t.operator? = none := by
        refine Option.eq_none_iff_forall_ne_some.2 fun op here => ?_
        exact absurd op.level_lt_negate (Nat.lt_asymm (fits op here))
      exact ⟨.negate h.conventional alone, nofun, h.logic⟩

theorem Precedes.binary {level : Nat} {l r : Layout} {op : BinaryOp} (left : l.Precedes op.level)
    (right : r.Precedes level) (fits : ∀ op', r.operator? = some op' → op.level < op'.level)
    (le : level ≤ op.level) : (Layout.binary op l r).Precedes level := by
  refine ⟨conventional_binary_iff.2 ⟨left, right.conventional, fits⟩, ?_, right.logic⟩
  rintro op' ⟨⟩
  exact le

end Layout

/-! ## Reading marks -/

namespace Expr

def Reader.take : Reader → Mark → Option Reader
  | .operand frames, .operand e => some (.operator e frames)
  | .operand frames, .not => some (.operand (.unary .not :: frames))
  | .operand frames, .operator (.arith .subtract) => some (.operand (.unary .negate :: frames))
  | .operand frames, .openParen => some (.operand (.group :: frames))
  | .operator e frames, .operator op =>
    let (left, rest) := complete op.level e frames
    some (.operand (.binary left op :: rest))
  | .operator e frames, .closeParen =>
    match complete 0 e frames with
    | (inner, .group :: rest) => some (.operator inner rest)
    | _ => none
  | _, _ => none

theorem toOption_step (r : Reader) (t : Token) :
    (r.step t).toOption = t.kind.mark?.bind r.take := by
  obtain ⟨kind, text, column⟩ := t
  cases r with
  | operand frames =>
      simp only [Reader.step, takeOperand]
      cases kind with
      | operator op => rcases op with _ | _ | _ | ⟨_ | _ | _ | _⟩ <;> rfl
      | number digits => cases h : Decimal.ofText? digits <;> simp [Token.Kind.mark?, h] <;> rfl
      | identifier name =>
          cases h : hasEmptyPart name.toList <;> simp [Token.Kind.mark?, h] <;> rfl
      | _ => rfl
  | operator e frames =>
      simp only [Reader.step, takeOperator]
      cases kind with
      | closeParen =>
          simp only [Token.Kind.mark?, Option.bind_some, Reader.take]
          rcases complete 0 e frames with ⟨inner, _ | ⟨_ | _ | _, rest⟩⟩ <;> rfl
      | number digits => cases h : Decimal.ofText? digits <;> simp [Token.Kind.mark?, h] <;> rfl
      | identifier name =>
          cases h : hasEmptyPart name.toList <;> simp [Token.Kind.mark?, h] <;> rfl
      | _ => rfl

/-- Operations in front are not completed by an operator of this level. -/
def Holds (level : Nat) : List Frame → Prop
  | [] | .group :: _ => True
  | .unary op :: _ => op.level < level
  | .binary _ op :: _ => op.level < level

theorem complete_of_holds {level : Nat} {frames : List Frame} (h : Holds level frames) (e : Expr) :
    complete level e frames = (e, frames) := by
  match frames with
  | [] | .group :: _ => rfl
  | .unary op :: _ | .binary _ op :: _ =>
      simp only [Holds] at h
      rw [complete, if_neg (Nat.not_le.2 h)]

theorem Holds.mono {level level' : Nat} {frames : List Frame} (h : Holds level frames)
    (le : level ≤ level') : Holds level' frames := by
  match frames with
  | [] | .group :: _ => trivial
  | .unary _ :: _ | .binary _ _ :: _ => exact Nat.lt_of_lt_of_le h le

end Expr

namespace Layout

open RowPipeline.Expr

/-- An operator of this level behind the layout completes all operations that the layout leaves
open at its end. -/
def ClosedBy (level : Nat) : Layout → Prop
  | operand _ | group _ => True
  | unary op t => level ≤ op.level ∧ t.ClosedBy level
  | binary op _ r => level ≤ op.level ∧ r.ClosedBy level

theorem closedBy_zero (t : Layout) : t.ClosedBy 0 := by
  induction t with
  | operand | group => trivial
  | unary op t ih => exact ⟨Nat.zero_le _, ih⟩
  | binary op l r _ ih => exact ⟨Nat.zero_le _, ih⟩

theorem Precedes.closedBy {t : Layout} {op : BinaryOp} (h : t.Precedes op.level) :
    t.ClosedBy op.level := by
  obtain ⟨conv, tight, logic⟩ := h
  induction conv with
  | operand | group => trivial
  | negate _ alone ih => exact ⟨Nat.le_of_lt op.level_lt_negate, ih (by simp [alone]) logic⟩
  | not _ free ih =>
      have level : op.level ≤ UnaryOp.not.level := logic rfl
      refine ⟨level, ih (fun own here => ?_) fun _ => level⟩
      exact Nat.le_trans level (Nat.le_of_lt (level_lt_of_hasLogic_eq_false free here))
  | @binary own l r _ _ _ right _ _ ih =>
      have le : op.level ≤ own.level := tight own rfl
      refine ⟨le, ih (fun own' here => ?_) logic⟩
      exact Nat.le_trans le (Nat.le_of_lt (BinaryOp.tightness_lt_iff.1 (right own' here)))

/-- A reader that takes the marks of a conventional layout comes out with its expression, once the
operations at its end are completed. -/
theorem Conventional.read {t : Layout} (h : t.Conventional) (frames : List Frame)
    (fits : ∀ op, t.operator? = some op → Holds op.level frames) :
    ∃ e rest, t.marks.foldlM Reader.take (.operand frames) = some (.operator e rest) ∧
      ∀ level, t.ClosedBy level → complete level e rest = complete level t.expr frames := by
  -- What is open in front differs between a layout and its parts, so it is generalized.
  induction h generalizing frames with
  | operand e => exact ⟨e, frames, rfl, fun _ _ => rfl⟩
  | @group t _ ih =>
      obtain ⟨e, rest, read, closes⟩ := ih (.group :: frames) fun _ _ => trivial
      have closed : complete 0 e rest = (t.expr, .group :: frames) :=
        closes 0 t.closedBy_zero
      refine ⟨t.expr, frames, ?_, fun _ _ => rfl⟩
      simp [marks, Reader.take, List.foldlM_append, read, closed]
  | @negate t _ alone ih =>
      obtain ⟨e, rest, read, closes⟩ := ih (.unary .negate :: frames) (by simp [alone])
      refine ⟨e, rest, by simpa [marks, UnaryOp.mark, Reader.take] using read, ?_⟩
      rintro level ⟨le, closed⟩
      rw [closes level closed, complete, if_pos le]
      rfl
  | @not t _ free ih =>
      have fits : ∀ op, t.operator? = some op → Holds op.level (.unary .not :: frames) := by
        intro op here
        exact level_lt_of_hasLogic_eq_false free here
      obtain ⟨e, rest, read, closes⟩ := ih _ fits
      refine ⟨e, rest, by simpa [marks, UnaryOp.mark, Reader.take] using read, ?_⟩
      rintro level ⟨le, closed⟩
      rw [closes level closed, complete, if_pos le]
      rfl
  | @binary op l r convLeft convRight left right logic ihl ihr =>
      have holds : Holds op.level frames := fits op rfl
      obtain ⟨precedes, _, tighter⟩ :=
        conventional_binary_iff.1 (.binary convLeft convRight left right logic)
      obtain ⟨e, rest, readLeft, closesLeft⟩ :=
        ihl frames fun op' here => holds.mono (precedes.tight op' here)
      have closed : complete op.level e rest = (l.expr, frames) := by
        rw [closesLeft _ precedes.closedBy, complete_of_holds holds]
      obtain ⟨e', rest', readRight, closesRight⟩ :=
        ihr (.binary l.expr op :: frames) tighter
      refine ⟨e', rest', ?_, ?_⟩
      · simp [marks, List.foldlM_append, readLeft, Reader.take, closed, readRight]
      · rintro level ⟨le, closed⟩
        rw [closesRight level closed, complete, if_pos le]
        rfl

end Layout

/-! ## What a reader has read -/

namespace Expr

open Layout

/-- The marks are those of what is open: each left operand is laid out as its operator needs it, and
no operator waits behind one that it should have completed. -/
inductive Pending : List Frame → List Mark → Prop where
  | nil : Pending [] []
  | group {frames : List Frame} {ms : List Mark} :
      Pending frames ms → Pending (.group :: frames) (ms ++ [.openParen])
  | unary {frames : List Frame} {ms : List Mark} (op : UnaryOp) :
      Pending frames ms → Pending (.unary op :: frames) (ms ++ [op.mark])
  | binary {frames : List Frame} {ms : List Mark} {l : Layout} {op : BinaryOp} :
      Pending frames ms → l.Precedes op.level → Holds op.level frames →
      Pending (.binary l.expr op :: frames) (ms ++ l.marks ++ [.operator op])

/-- Completing operations keeps the marks and makes a layout that an operator of the level may
follow. -/
theorem Pending.complete {frames : List Frame} {ms : List Mark} (pending : Pending frames ms)
    {level : Nat} {t : Layout} (precedes : t.Precedes level)
    (fits : ∀ op, t.operator? = some op → Holds op.level frames) :
    ∃ (t' : Layout) (ms' : List Mark) (rest : List Frame),
      Expr.complete level t.expr frames = (t'.expr, rest) ∧ Pending rest ms' ∧
        ms' ++ t'.marks = ms ++ t.marks ∧ t'.Precedes level ∧ Holds level rest := by
  induction pending generalizing t with
  | nil => exact ⟨t, [], [], rfl, .nil, rfl, precedes, trivial⟩
  | group pending _ => exact ⟨t, _, _, rfl, .group pending, rfl, precedes, trivial⟩
  | @unary frames ms op pending ih =>
      by_cases le : level ≤ op.level
      · obtain ⟨t', ms', rest, done, pending', same, after⟩ :=
          ih (precedes.unary fits le) nofun
        refine ⟨t', ms', rest, ?_, pending', ?_, after⟩
        · rw [Expr.complete, if_pos le, ← done]
          rfl
        · rw [same, List.append_assoc]
          rfl
      · exact ⟨t, _, _, by rw [Expr.complete, if_neg le], .unary op pending, rfl, precedes,
          Nat.lt_of_not_le le⟩
  | @binary frames ms l op pending left holds ih =>
      by_cases le : level ≤ op.level
      · have holds' : ∀ op', (Layout.binary op l t).operator? = some op' →
            Holds op'.level frames := by
          rintro op' ⟨⟩
          exact holds
        obtain ⟨t', ms', rest, done, pending', same, after⟩ :=
          ih (left.binary precedes fits le) holds'
        refine ⟨t', ms', rest, ?_, pending', ?_, after⟩
        · rw [Expr.complete, if_pos le, ← done]
          rfl
        · rw [same]
          simp [marks]
      · exact ⟨t, _, _, by rw [Expr.complete, if_neg le], .binary pending left holds, rfl,
          precedes, Nat.lt_of_not_le le⟩

/-- The reader has read these marks; what it has just read is a single operand or a group. -/
def Reader.HasRead : Reader → List Mark → Prop
  | .operand frames, ms => Pending frames ms
  | .operator e frames, ms => ∃ (t : Layout) (ms' : List Mark), Pending frames ms' ∧
      ms = ms' ++ t.marks ∧ t.expr = e ∧ (∀ level, t.Precedes level) ∧ t.operator? = none

theorem Reader.HasRead.take {r r' : Reader} {ms : List Mark} {m : Mark} (h : r.HasRead ms)
    (step : r.take m = some r') : r'.HasRead (ms ++ [m]) := by
  cases r with
  | operand frames =>
      change Pending frames ms at h
      cases m with
      | operand e =>
          cases step
          exact ⟨.operand e, ms, h, rfl, rfl, fun level => ⟨.operand e, nofun, nofun⟩, rfl⟩
      | not =>
          cases step
          exact .unary .not h
      | operator op =>
          rcases op with _ | _ | _ | ⟨_ | _ | _ | _⟩ <;> cases step
          exact .unary .negate h
      | openParen =>
          cases step
          exact .group h
      | closeParen => cases step
  | operator e frames =>
      obtain ⟨t, ms', pending, rfl, rfl, precedes, alone⟩ := h
      cases m with
      | operator op =>
          obtain ⟨t', ms'', rest, done, pending', same, precedes', holds⟩ :=
            pending.complete (precedes op.level) (by simp [alone])
          simp only [Reader.take, done, Option.some.injEq] at step
          subst step
          rw [← same]
          exact .binary pending' precedes' holds
      | closeParen =>
          obtain ⟨t', ms'', rest, done, pending', same, precedes', _⟩ :=
            pending.complete (precedes 0) (by simp [alone])
          simp only [Reader.take, done] at step
          cases pending' with
          | group pending' =>
              cases step
              refine ⟨.group t', _, pending', ?_, rfl, fun level => ?_, rfl⟩
              · rw [← same]
                simp [marks]
              · exact ⟨.group precedes'.conventional, nofun, nofun⟩
          | _ => cases step
      | operand | not | openParen => cases step

theorem Reader.HasRead.takeAll {ms before : List Mark} {r r' : Reader} (h : r.HasRead before)
    (read : ms.foldlM Reader.take r = some r') : r'.HasRead (before ++ ms) := by
  induction ms generalizing r before with
  | nil =>
      obtain rfl : r = r' := by simpa using read
      simpa using h
  | cons m ms ih =>
      obtain ⟨middle, step, later⟩ := Option.bind_eq_some_iff.1 read
      simpa using ih (h.take step) later

theorem Reader.HasRead.exists_layout {r : Reader} {ms : List Mark} {e : Expr} (h : r.HasRead ms)
    (done : r.finish = .ok e) : ∃ t : Layout, t.Conventional ∧ t.marks = ms ∧ t.expr = e := by
  cases r with
  | operand frames => cases done
  | operator e' frames =>
      obtain ⟨t, ms', pending, rfl, rfl, precedes, alone⟩ := h
      obtain ⟨t', ms'', rest, completed, pending', same, precedes', _⟩ :=
        pending.complete (precedes 0) (by simp [alone])
      simp only [Reader.finish, completed] at done
      cases pending' with
      | nil =>
          cases done
          exact ⟨t', precedes'.conventional, same, rfl⟩
      | _ => cases done

theorem toOption_parse (s : String) :
    (parse s).toOption = (Token.marks? s).bind fun ms =>
      (ms.foldlM Reader.take (.operand [])).bind fun r => r.finish.toOption := by
  rw [parse, ofTokens, toOption_bind, toOption_foldlM]
  simp only [toOption_step]
  rw [foldlM_option_bind, Option.bind_assoc]
  rfl

/-- A text is read as an expression just if its tokens are those of a conventional layout of the
expression. -/
theorem parse_eq_ok_iff {s : String} {e : Expr} :
    parse s = .ok e ↔ ∃ t : Layout, t.Conventional ∧
      Token.marks? s = some t.marks ∧ t.expr = e := by
  rw [← toOption_eq_some, toOption_parse]
  simp only [Option.bind_eq_some_iff, toOption_eq_some]
  constructor
  · rintro ⟨ms, marked, r, read, done⟩
    have start : (Reader.operand []).HasRead [] := Pending.nil
    obtain ⟨t, conv, rfl, rfl⟩ := (start.takeAll read).exists_layout done
    exact ⟨t, conv, marked, rfl⟩
  · rintro ⟨t, conv, marked, rfl⟩
    obtain ⟨e, rest, read, closes⟩ := conv.read [] fun _ _ => trivial
    refine ⟨_, marked, _, read, ?_⟩
    simp [Reader.finish, closes 0 t.closedBy_zero, Expr.complete]

/-! ## The tree of a text -/

theorem filter_marks (t : Layout) (single : ∀ e, .operand e ∈ t.marks → e.inOrder = [.operand e]) :
    t.marks.filter (fun m => !m.isParen) = t.expr.inOrder := by
  induction t with
  | operand e => simpa [marks, Layout.expr] using (single e List.mem_cons_self).symm
  | group t ih =>
      have inner := ih fun e member => single e (by simp [marks, member])
      simpa [marks, Layout.expr] using inner
  | unary op t ih =>
      have inner := ih fun e member => single e (by simp [marks, member])
      cases op <;> simpa [marks, Layout.expr, UnaryOp.mark, inOrder] using inner
  | binary op l r ihl ihr =>
      have left := ihl fun e member => single e (by simp [marks, member])
      have right := ihr fun e member => single e (by simp [marks, member])
      simp [marks, Layout.expr, inOrder, left, right]

theorem mem_of_marks? {s : String} {ms : List Mark} (h : Token.marks? s = some ms) {m : Mark}
    (member : m ∈ ms) : ∃ t ∈ Token.ofText s, t.kind.mark? = some m := by
  have mapped : some m ∈ ms.map some := List.mem_map_of_mem member
  rw [← mapM_eq_some_iff.1 h] at mapped
  exact List.mem_map.1 mapped

theorem inOrder_of_mark? {kind : Token.Kind} {e : Expr} (h : kind.mark? = some (.operand e)) :
    e.inOrder = [.operand e] := by
  cases kind with
  | number digits =>
      obtain ⟨n, _, h⟩ := Option.map_eq_some_iff.1 h
      cases h
      rfl
  | identifier name =>
      obtain ⟨_, h⟩ := Option.ite_none_left_eq_some.1 h
      cases h
      rfl
  | null | boolean | string =>
      cases h
      rfl
  | _ => cases h

theorem inOrder_of_parse {s : String} {e : Expr} (h : parse s = .ok e) :
    (Token.marks? s).map (List.filter fun m => !m.isParen) = some e.inOrder := by
  obtain ⟨t, _, marked, rfl⟩ := parse_eq_ok_iff.1 h
  rw [marked, Option.map_some, filter_marks]
  intro e member
  obtain ⟨token, _, mark⟩ := mem_of_marks? marked member
  exact inOrder_of_mark? mark

theorem exists_token_of_mem_inOrder {s : String} {e : Expr} (h : parse s = .ok e) {m : Mark}
    (member : m ∈ e.inOrder) : ∃ t ∈ Token.ofText s, t.kind.mark? = some m := by
  obtain ⟨ms, marked, order⟩ := Option.map_eq_some_iff.1 (inOrder_of_parse h)
  rw [← order] at member
  exact mem_of_marks? marked (List.mem_of_mem_filter member)

/-- The tree of a text keeps the order of its operators and operands, and it is the one tree that a
conventional layout of the tokens has. -/
theorem parse_keeps_conventions {s : String} {e : Expr} (h : parse s = .ok e) :
    (Token.marks? s).map (List.filter fun m => !m.isParen) = some e.inOrder ∧
      (∃ t : Layout, t.Conventional ∧ Token.marks? s = some t.marks ∧
        t.expr = e) ∧
      ∀ t : Layout, t.Conventional → Token.marks? s = some t.marks →
        t.expr = e := by
  refine ⟨inOrder_of_parse h, parse_eq_ok_iff.1 h, ?_⟩
  intro t conv marked
  have again := parse_eq_ok_iff.2 ⟨t, conv, marked, rfl⟩
  exact Except.ok.inj (again.symm.trans h)

/-- In `a * NOT b = c AND d` the product has all of `NOT b = c` as its right operand. -/
theorem parse_keeps_conventions_product :
    let column := fun name => Expr.column ⟨none, name⟩
    let e : Expr := .binary (.logic .and)
      (.binary (.arith .multiply) (column "a")
        (.unary .not (.binary (.text .equal) (column "b") (column "c"))))
      (column "d")
    parse "a * NOT b = c AND d" = .ok e ∧
      ∀ t : Layout, t.Conventional →
        Token.marks? "a * NOT b = c AND d" = some t.marks → t.expr = e := by
  intro column e
  have read : parse "a * NOT b = c AND d" = .ok e := by decide +kernel
  exact ⟨read, (parse_keeps_conventions read).2.2⟩

end Expr

end RowPipeline
