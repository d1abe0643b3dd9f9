import RowPipeline.Proofs.Resolution

/-! # What can go wrong in a run

Apart from names that a row does not resolve, an operation that has been compiled fails only on
account of the values it meets. The errors of that kind are singled out here, and every step of a
run on rows is shown to fail with one of them or at the lookup of a column it names.
-/

namespace RowPipeline

open Outcome

/-- Errors that hang on the values at hand, not on what a definition says. -/
def EvalError.Kind.ofValues : EvalError.Kind → Bool
  | .typeMismatch | .typeConversion | .divisionByZero | .numericOverflow | .emptyAggregate => true
  | .columnNotFound | .ambiguousColumn | .unknownFunction | .parse => false

def EvalError.Kind.ofNumbers : EvalError.Kind → Bool
  | .typeMismatch | .divisionByZero | .numericOverflow => true
  | .typeConversion | .emptyAggregate => false
  | .columnNotFound | .ambiguousColumn | .unknownFunction | .parse => false

theorem EvalError.Kind.ofValues_of_ofNumbers {k : EvalError.Kind} (h : k.ofNumbers = true) :
    k.ofValues = true := by
  cases k <;> simp_all [ofNumbers, ofValues]

/-- The error hangs on the values, or arises where one of the names is looked up in the row. -/
def EvalError.FromRow (mode : EvalMode) (r : Row) (names : List ColumnRef) (e : EvalError) : Prop :=
  e.kind.ofValues = true ∨ ∃ c ∈ names, r.lookup mode.scope c = .error e

theorem EvalError.FromRow.mono {mode : EvalMode} {r : Row} {names names' : List ColumnRef}
    {e : EvalError} (h : e.FromRow mode r names) (sub : names ⊆ names') :
    e.FromRow mode r names' :=
  h.imp_right fun ⟨c, member, failed⟩ => ⟨c, sub member, failed⟩

theorem Value.holds_error {v : Value} {e : EvalError} (h : v.holds = .error e) :
    e.kind.ofValues = true := by
  obtain ⟨cause, _, rfl⟩ := mapError_eq_error.1 h
  rfl

theorem EvalError.ofOverflow_error {d : Option Decimal} {e : EvalError}
    (h : EvalError.ofOverflow d = .error e) : e.kind.ofNumbers = true := by
  cases d <;> cases h
  rfl

theorem ArithOp.compute_error {op : ArithOp} {m n : Decimal} {e : EvalError}
    (h : op.compute m n = .error e) : e.kind.ofNumbers = true := by
  cases op with
  | add | subtract | multiply => exact EvalError.ofOverflow_error h
  | divide =>
      simp only [compute] at h
      split at h
      · cases h
        rfl
      · exact EvalError.ofOverflow_error h

namespace Expr

theorem negate_error {mode : EvalMode} {operand : Expr} {v : Value} {e : EvalError}
    (h : applyUnary mode .negate operand v = .error e) : e.kind.ofNumbers = true := by
  simp only [applyUnary] at h
  split at h
  · cases h
  · split at h
    · cases h
    · cases h
      rfl

theorem applyUnary_error {mode : EvalMode} {op : UnaryOp} {operand : Expr} {v : Value}
    {e : EvalError} (h : applyUnary mode op operand v = .error e) : e.kind.ofValues = true := by
  cases op with
  | not => exact Value.holds_error (map_eq_error.1 h)
  | negate => exact EvalError.Kind.ofValues_of_ofNumbers (negate_error h)

theorem onNumbers_error {mode : EvalMode} {op : BinaryOp} {whole : Expr} {a b : Value}
    {f : Decimal → Decimal → Except EvalError Value} {e : EvalError}
    (operation : ∀ m n, f m n = .error e → e.kind.ofNumbers = true)
    (h : onNumbers mode op whole a b f = .error e) : e.kind.ofNumbers = true := by
  unfold onNumbers at h
  split at h
  · exact operation _ _ h
  · split at h
    · cases h
    · cases h
      rfl

theorem eval_operands_error {mode : EvalMode} {r : Row} {left right : Expr} {e : EvalError}
    {f : Value → Value → Except EvalError Value}
    (ihLeft : left.eval mode r = .error e → e.FromRow mode r left.columns)
    (ihRight : right.eval mode r = .error e → e.FromRow mode r right.columns)
    (operation : ∀ a b, f a b = .error e → e.kind.ofNumbers = true)
    (h : (do let a ← left.eval mode r; let b ← right.eval mode r; f a b) = .error e) :
    e.FromRow mode r (left.columns ++ right.columns) := by
  rcases bind_eq_error.1 h with h | ⟨a, _, h⟩
  · exact (ihLeft h).mono (List.subset_append_left _ _)
  · rcases bind_eq_error.1 h with h | ⟨b, _, h⟩
    · exact (ihRight h).mono (List.subset_append_right _ _)
    · exact .inl (EvalError.Kind.ofValues_of_ofNumbers (operation a b h))

theorem eval_condition_error {mode : EvalMode} {r : Row} {left right : Expr} {e : EvalError}
    {f : Bool → Except EvalError Value}
    (ihLeft : left.eval mode r = .error e → e.FromRow mode r left.columns)
    (ihRight : right.eval mode r = .error e → e.FromRow mode r right.columns)
    (decided : ∀ b, f b = .error e →
      (do let v ← right.eval mode r; v.holds.map Value.boolean) = .error e)
    (h : (do let a ← left.eval mode r; let b ← a.holds; f b) = .error e) :
    e.FromRow mode r (left.columns ++ right.columns) := by
  rcases bind_eq_error.1 h with h | ⟨a, _, h⟩
  · exact (ihLeft h).mono (List.subset_append_left _ _)
  · rcases bind_eq_error.1 h with h | ⟨b, _, h⟩
    · exact .inl (Value.holds_error h)
    · rcases bind_eq_error.1 (decided b h) with h | ⟨v, _, h⟩
      · exact (ihRight h).mono (List.subset_append_right _ _)
      · exact .inl (Value.holds_error (map_eq_error.1 h))

/-- An expression fails on account of values or of a column that it names. -/
theorem eval_error {mode : EvalMode} {r : Row} {expr : Expr} {e : EvalError}
    (h : expr.eval mode r = .error e) : e.FromRow mode r expr.columns := by
  induction expr with
  | literal v => cases h
  | column c => exact .inr ⟨c, by simp [columns], h⟩
  | unary op operand ih =>
      rcases bind_eq_error.1 h with h | ⟨v, _, h⟩
      · exact ih h
      · exact .inl (applyUnary_error h)
  | binary op left right ihLeft ihRight =>
      cases op with
      | logic op =>
          cases op with
          | and =>
              refine eval_condition_error ihLeft ihRight (fun b h => ?_) h
              cases b with
              | true => exact h
              | false => cases h
          | or =>
              refine eval_condition_error ihLeft ihRight (fun b h => ?_) h
              cases b with
              | true => cases h
              | false => exact h
      | text op =>
          exact eval_operands_error ihLeft ihRight (fun a b h => by cases h) h
      | order op =>
          exact eval_operands_error ihLeft ihRight
            (fun a b h => onNumbers_error (fun m n h => by cases h) h) h
      | arith op =>
          exact eval_operands_error ihLeft ihRight
            (fun a b h => onNumbers_error
              (fun m n h => ArithOp.compute_error (map_eq_error.1 h)) h) h

end Expr

theorem Target.write_error {t : Target} {r : Row} {v : Value} {e : EvalError}
    (h : t.write r v = .error e) : e.kind.ofValues = true := by
  obtain ⟨cause, _, rfl⟩ := mapError_eq_error.1 (map_eq_error.1 h)
  rfl

theorem Target.write_eq_ok {t : Target} {r r' : Row} {v : Value} :
    t.write r v = .ok r' ↔ ∃ w, v.convertTo t.type = .ok w ∧ r.set t.column w = r' := by
  rw [write, map_eq_ok]
  simp only [mapError_eq_ok]

namespace RowAction

def columns : RowAction → List ColumnRef
  | map e _ => e.columns
  | choose condition whenTrue whenFalse _ =>
    condition.columns ++ whenTrue.columns ++ whenFalse.columns
  | filter condition => condition.columns

def target? : RowAction → Option Target
  | map _ target | choose _ _ _ target => some target
  | filter _ => none

theorem run_error {mode : EvalMode} {r : Row} {a : RowAction} {e : EvalError}
    (h : a.run mode r = .error e) : e.FromRow mode r a.columns := by
  cases a with
  | map expr target =>
      rcases bind_eq_error.1 h with h | ⟨v, _, h⟩
      · exact Expr.eval_error h
      · rcases bind_eq_error.1 h with h | ⟨r', _, h⟩
        · exact .inl (Target.write_error h)
        · cases h
  | choose condition whenTrue whenFalse target =>
      rcases bind_eq_error.1 h with h | ⟨v, _, h⟩
      · exact (Expr.eval_error h).mono (by simp [columns])
      · rcases bind_eq_error.1 h with h | ⟨b, _, h⟩
        · exact .inl (Value.holds_error h)
        · rcases bind_eq_error.1 h with h | ⟨w, _, h⟩
          · cases b with
            | true => exact (Expr.eval_error h).mono (by simp [columns])
            | false => exact (Expr.eval_error h).mono (by simp [columns])
          · rcases bind_eq_error.1 h with h | ⟨r', _, h⟩
            · exact .inl (Target.write_error h)
            · cases h
  | filter condition =>
      rcases bind_eq_error.1 h with h | ⟨v, _, h⟩
      · exact Expr.eval_error h
      · rcases bind_eq_error.1 h with h | ⟨b, _, h⟩
        · exact .inl (Value.holds_error h)
        · cases h

/-- The action computes the value on the row, before it is made one of the declared type. -/
def Computes (mode : EvalMode) (r : Row) (v : Value) : RowAction → Prop
  | map e _ => e.eval mode r = .ok v
  | choose condition whenTrue whenFalse _ => ∃ c b, condition.eval mode r = .ok c ∧
    c.holds = .ok b ∧ (if b then whenTrue else whenFalse).eval mode r = .ok v
  | filter _ => False

theorem exists_computed {mode : EvalMode} {r r' : Row} {a : RowAction} {t : Target}
    (h : a.run mode r = .ok (some r')) (writes : a.target? = some t) :
    ∃ v w, a.Computes mode r v ∧ v.convertTo t.type = .ok w ∧ r.set t.column w = r' := by
  cases a with
  | map e target =>
      cases writes
      obtain ⟨v, value, h⟩ := bind_eq_ok.1 h
      obtain ⟨_, written, h⟩ := bind_eq_ok.1 h
      cases h
      obtain ⟨w, converted, same⟩ := Target.write_eq_ok.1 written
      exact ⟨v, w, value, converted, same⟩
  | choose condition whenTrue whenFalse target =>
      cases writes
      obtain ⟨c, judged, h⟩ := bind_eq_ok.1 h
      obtain ⟨b, holds, h⟩ := bind_eq_ok.1 h
      obtain ⟨v, value, h⟩ := bind_eq_ok.1 h
      obtain ⟨_, written, h⟩ := bind_eq_ok.1 h
      cases h
      obtain ⟨w, converted, same⟩ := Target.write_eq_ok.1 written
      exact ⟨v, w, ⟨c, b, judged, holds, value⟩, converted, same⟩
  | filter condition => cases writes

theorem run_some {mode : EvalMode} {r r' : Row} {a : RowAction}
    (h : a.run mode r = .ok (some r')) :
    match a.target? with
    | some target => ∃ v, r' = r.set target.column v
    | none => r' = r := by
  cases writes : a.target? with
  | some target =>
      obtain ⟨_, w, _, _, same⟩ := exists_computed h writes
      exact ⟨w, same.symm⟩
  | none =>
      cases a with
      | map | choose => cases writes
      | filter condition =>
          obtain ⟨v, _, h⟩ := bind_eq_ok.1 h
          obtain ⟨b, _, h⟩ := bind_eq_ok.1 h
          cases b <;> cases h
          rfl

end RowAction

namespace Tally

theorem addNumber_error {t : Tally} {x : Decimal} {e : EvalError}
    (h : t.addNumber x = .error e) : e.kind.ofValues = true := by
  cases t with
  | count | least | greatest => cases h
  | sum | average =>
      exact EvalError.Kind.ofValues_of_ofNumbers (EvalError.ofOverflow_error (map_eq_error.1 h))

theorem add_error {t : Tally} {v : Value} {e : EvalError} (h : t.add v = .error e) :
    e.kind.ofValues = true := by
  unfold add at h
  split at h
  · cases h
  · rcases bind_eq_error.1 h with h | ⟨number, _, h⟩
    · obtain ⟨cause, _, rfl⟩ := mapError_eq_error.1 h
      rfl
    · split at h
      · exact addNumber_error h
      · cases h

theorem finish_error {allowEmpty : Bool} {target : String} {t : Tally} {e : EvalError}
    (h : t.finish allowEmpty target = .error e) : e.kind.ofValues = true := by
  cases t with
  | count n =>
      exact EvalError.Kind.ofValues_of_ofNumbers (EvalError.ofOverflow_error (map_eq_error.1 h))
  | sum | least | greatest => cases h
  | average total n =>
      simp only [finish] at h
      split at h
      · split at h
        · cases h
        · cases h
          rfl
      · apply EvalError.Kind.ofValues_of_ofNumbers
        rcases bind_eq_error.1 h with h | ⟨d, _, h⟩
        · exact EvalError.ofOverflow_error h
        · exact EvalError.ofOverflow_error (map_eq_error.1 h)

end Tally

def Aggregate.columns (a : Aggregate) : List ColumnRef :=
  a.expression.columns ++ a.groupBy

namespace Reduction

theorem keysOf_error {c : Reduction} {mode : EvalMode} {r : Row} {e : OperationError}
    (h : c.keysOf mode r = .error e) :
    e.operation = c.first.operation ∧ e.cause.FromRow mode r c.first.columns := by
  obtain ⟨cause, failed, rfl⟩ := mapError_eq_error.1 h
  refine ⟨rfl, ?_⟩
  obtain ⟨column, member, failed⟩ := mapM_eq_error failed
  rcases bind_eq_error.1 failed with failed | ⟨name, _, failed⟩
  · exact .inr ⟨column, List.mem_append_right _ member, Row.lookup_eq_error_iff.2 failed⟩
  · cases failed

theorem addValue_error {mode : EvalMode} {r : Row} {a : Aggregate} {t : Tally}
    {e : OperationError} (h : addValue mode r a t = .error e) :
    e.operation = a.operation ∧ e.cause.FromRow mode r a.columns := by
  obtain ⟨cause, failed, rfl⟩ := mapError_eq_error.1 h
  refine ⟨rfl, ?_⟩
  rcases bind_eq_error.1 failed with failed | ⟨v, _, failed⟩
  · exact (Expr.eval_error failed).mono (List.subset_append_left _ _)
  · exact .inl (Tally.add_error failed)

theorem addRow_error {c : Reduction} {mode : EvalMode} {groups : Groups} {r : Row}
    {e : OperationError} (h : c.addRow mode groups r = .error e) :
    ∃ a ∈ c.aggregates, e.operation = a.operation ∧ e.cause.FromRow mode r a.columns := by
  rcases bind_eq_error.1 h with h | ⟨keys, _, h⟩
  · exact ⟨c.first, by simp [aggregates], keysOf_error h⟩
  · rcases bind_eq_error.1 h with h | ⟨g, _, h⟩
    · rcases bind_eq_error.1 h with h | ⟨tallies, _, h⟩
      · obtain ⟨⟨a, t⟩, member, h⟩ := mapM_eq_error h
        exact ⟨a, (List.of_mem_zip member).1, addValue_error h⟩
      · cases h
    · cases h

theorem result_error {allowEmpty : Bool} {a : Aggregate} {t : Tally} {e : OperationError}
    (h : result allowEmpty a t = .error e) : e.cause.kind.ofValues = true := by
  obtain ⟨cause, failed, rfl⟩ := mapError_eq_error.1 h
  rcases bind_eq_error.1 failed with failed | ⟨v, _, failed⟩
  · exact Tally.finish_error failed
  · split at failed
    · cases failed
    · obtain ⟨cause, _, rfl⟩ := mapError_eq_error.1 failed
      rfl

theorem finishGroup_error {c : Reduction} {mode : EvalMode} {allowEmpty : Bool} {g : Group}
    {e : OperationError} (h : c.finishGroup mode allowEmpty g = .error e) :
    e.cause.kind.ofValues = true := by
  rcases bind_eq_error.1 h with h | ⟨results, _, h⟩
  · obtain ⟨⟨a, t⟩, _, h⟩ := mapM_eq_error h
    rcases bind_eq_error.1 h with h | ⟨v, _, h⟩
    · exact result_error h
    · cases h
  · cases h

/-- Reductions fail on account of values or of a column that an aggregate names and a row lacks. -/
theorem runAll_error {cs : List Reduction} {mode : EvalMode} {allowEmpty : Bool}
    {rows : List Row} {e : OperationError} (h : runAll cs mode allowEmpty rows = .error e) :
    e.cause.kind.ofValues = true ∨
      ∃ c ∈ cs, ∃ a ∈ c.aggregates, ∃ r ∈ rows,
        e.operation = a.operation ∧ e.cause.FromRow mode r a.columns := by
  rcases bind_eq_error.1 h with h | ⟨results, _, h⟩
  · obtain ⟨c, member, h⟩ := mapM_eq_error h
    rcases bind_eq_error.1 h with h | ⟨groups, _, h⟩
    · rcases bind_eq_error.1 h with h | ⟨groups, _, h⟩
      · obtain ⟨r, own, groups, h⟩ := foldlM_eq_error h
        obtain ⟨a, placed, failed⟩ := addRow_error h
        exact .inr ⟨c, member, a, placed, r, own, failed⟩
      · split at h <;> cases h
    · obtain ⟨g, _, h⟩ := mapM_eq_error h
      exact .inl (finishGroup_error h)
  · cases h

end Reduction

end RowPipeline
