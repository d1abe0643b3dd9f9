import RowPipeline.Proofs.Layout

/-! # Other names in an expression

The columns of an expression can be renamed without a change to how it is built. A reader that takes
renamed operands is at every step the renamed reader, so the tokens of an expression with renamed
columns are read as the renamed expression.
-/

namespace RowPipeline

open Outcome

namespace Expr

variable (f : ColumnRef → ColumnRef)

def rename : Expr → Expr
  | literal v => literal v
  | column c => column (f c)
  | unary op e => unary op e.rename
  | binary op l r => binary op l.rename r.rename

def Frame.rename : Frame → Frame
  | group => group
  | unary op => unary op
  | binary left op => binary (left.rename f) op

def Reader.rename : Reader → Reader
  | operand frames => operand (frames.map (Frame.rename f))
  | operator e frames => operator (e.rename f) (frames.map (Frame.rename f))

theorem complete_rename (level : Nat) (e : Expr) (frames : List Frame) :
    complete level (e.rename f) (frames.map (Frame.rename f)) =
      ((complete level e frames).1.rename f, (complete level e frames).2.map (Frame.rename f)) := by
  fun_induction complete level e frames with
  | case1 | case2 => rfl
  | case3 e op frames le ih =>
      rw [List.map_cons, Frame.rename, complete, if_pos le, ← ih]
      rfl
  | case4 e op frames le => rw [List.map_cons, Frame.rename, complete, if_neg le]
  | case5 e l op frames le ih =>
      rw [List.map_cons, Frame.rename, complete, if_pos le, ← ih]
      rfl
  | case6 e l op frames le => rw [List.map_cons, Frame.rename, complete, if_neg le]

end Expr

def Mark.rename (f : ColumnRef → ColumnRef) : Mark → Mark
  | operand e => operand (e.rename f)
  | not => not
  | operator op => operator op
  | openParen => openParen
  | closeParen => closeParen

namespace Expr

variable (f : ColumnRef → ColumnRef)

theorem take_rename (r : Reader) (m : Mark) :
    (r.rename f).take (m.rename f) = (r.take m).map (Reader.rename f) := by
  cases r with
  | operand frames =>
      cases m with
      | operator op => rcases op with _ | _ | _ | ⟨_ | _ | _ | _⟩ <;> rfl
      | operand | not | openParen | closeParen => rfl
  | operator e frames =>
      cases m with
      | operator op =>
          simp only [Reader.rename, Mark.rename, Reader.take, complete_rename]
          rfl
      | closeParen =>
          simp only [Reader.rename, Mark.rename, Reader.take, complete_rename]
          rcases complete 0 e frames with ⟨inner, _ | ⟨_ | _ | _, rest⟩⟩ <;> rfl
      | operand | not | openParen => rfl

theorem takeAll_rename (r : Reader) (ms : List Mark) :
    (ms.map (Mark.rename f)).foldlM Reader.take (r.rename f) =
      (ms.foldlM Reader.take r).map (Reader.rename f) := by
  induction ms generalizing r with
  | nil => rfl
  | cons m ms ih =>
      rw [List.map_cons, List.foldlM_cons, List.foldlM_cons, take_rename]
      cases r.take m with
      | none => rfl
      | some r' => exact ih r'

theorem finish_rename (r : Reader) :
    (r.rename f).finish.toOption = r.finish.toOption.map (rename f) := by
  cases r with
  | operand frames => rfl
  | operator e frames =>
      simp only [Reader.rename, Reader.finish, complete_rename]
      rcases complete 0 e frames with ⟨whole, _ | _⟩ <;> rfl

/-- A text with the marks of another one but for the columns is read as the same expression but for
the columns, or neither is an expression. -/
theorem toOption_parse_rename {s t : String}
    (marks : Token.marks? t = (Token.marks? s).map (List.map (Mark.rename f))) :
    (parse t).toOption = (parse s).toOption.map (rename f) := by
  rw [toOption_parse, toOption_parse, marks]
  cases Token.marks? s with
  | none => rfl
  | some ms =>
      rw [Option.map_some, Option.bind_some, Option.bind_some]
      change ((ms.map (Mark.rename f)).foldlM Reader.take ((Reader.operand []).rename f)).bind _ = _
      rw [takeAll_rename]
      cases ms.foldlM Reader.take (.operand []) with
      | none => rfl
      | some r => exact finish_rename f r

end Expr

end RowPipeline
