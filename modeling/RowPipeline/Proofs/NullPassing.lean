import RowPipeline.Proofs.Outcome
import RowPipeline.Run

/-! # Letting nulls pass

Arithmetic and order fail on a null operand, or give null where nulls pass. That is the only
difference: a computation that succeeds without nulls passing meets no null operand, and so comes to
the same where they pass. Expressions are compared first, then every stage of a run.
-/

namespace RowPipeline

open Outcome

namespace Expr

variable (scope : Option String)

theorem onNumbers_extends (op : BinaryOp) (whole : Expr) (a b : Value)
    (f : Decimal → Decimal → Except EvalError Value) :
    Extends (onNumbers ⟨scope, false⟩ op whole a b f) (onNumbers ⟨scope, true⟩ op whole a b f) := by
  intro v h
  cases a with
  | number m =>
      cases b with
      | number n => exact h
      | null | text | boolean => cases h
  | null | text | boolean => cases h

theorem applyUnary_extends (op : UnaryOp) (operand : Expr) (v : Value) :
    Extends (applyUnary ⟨scope, false⟩ op operand v) (applyUnary ⟨scope, true⟩ op operand v) := by
  intro w h
  cases op with
  | not => exact h
  | negate =>
      cases v with
      | number n => exact h
      | null | text | boolean => cases h

theorem eval_extends (r : Row) (e : Expr) :
    Extends (e.eval ⟨scope, false⟩ r) (e.eval ⟨scope, true⟩ r) := by
  induction e with
  | literal v => exact .refl _
  | column c => exact .refl _
  | unary op operand ih => exact ih.bind fun v => applyUnary_extends scope op operand v
  | binary op left right ihLeft ihRight =>
      -- The second operand of a condition is reached in both computations or in neither.
      have decided : Extends
          (do let v ← right.eval ⟨scope, false⟩ r; v.holds.map Value.boolean)
          (do let v ← right.eval ⟨scope, true⟩ r; v.holds.map Value.boolean) :=
        ihRight.bind fun v => .refl _
      cases op with
      | logic op =>
          cases op with
          | and =>
              refine ihLeft.bind fun a => (Extends.refl a.holds).bind fun holds => ?_
              cases holds with
              | true => exact decided
              | false => exact .refl _
          | or =>
              refine ihLeft.bind fun a => (Extends.refl a.holds).bind fun holds => ?_
              cases holds with
              | true => exact .refl _
              | false => exact decided
      | text op => exact ihLeft.bind fun a => ihRight.bind fun b => .refl _
      | order op =>
          exact ihLeft.bind fun a => ihRight.bind fun b => onNumbers_extends scope _ _ a b _
      | arith op =>
          exact ihLeft.bind fun a => ihRight.bind fun b => onNumbers_extends scope _ _ a b _

end Expr

theorem Operation.blame_extends {α : Type} (op : Operation) {x y : Except EvalError α}
    (h : Extends x y) : Extends (op.blame x) (op.blame y) :=
  h.mapError _

/-! ## Rows -/

theorem RowAction.run_extends (scope : Option String) (r : Row) (a : RowAction) :
    Extends (a.run ⟨scope, false⟩ r) (a.run ⟨scope, true⟩ r) := by
  cases a with
  | map e target => exact (e.eval_extends scope r).bind fun v => .refl _
  | choose condition whenTrue whenFalse target =>
      refine (condition.eval_extends scope r).bind fun c => ?_
      refine (Extends.refl c.holds).bind fun holds => ?_
      exact ((if holds then whenTrue else whenFalse).eval_extends scope r).bind fun v => .refl _
  | filter condition => exact (condition.eval_extends scope r).bind fun c => .refl _

namespace RowOp

theorem onRow_extends (scope : Option String) (ops : List RowOp) (r : Row) :
    Extends (onRow ⟨scope, false⟩ ops r) (onRow ⟨scope, true⟩ ops r) := by
  induction ops generalizing r with
  | nil => exact .refl _
  | cons op ops ih =>
      refine (op.operation.blame_extends (op.action.run_extends scope r)).bind fun kept => ?_
      cases kept with
      | none => exact .refl _
      | some r' => exact ih r'

theorem onRows_extends (scope : Option String) (ops : List RowOp) (rows : List Row) :
    Extends (onRows ⟨scope, false⟩ ops rows) (onRows ⟨scope, true⟩ ops rows) :=
  (Extends.mapM (onRow_extends scope ops) rows).bind fun _ => .refl _

end RowOp

/-! ## Groups -/

namespace Reduction

variable (scope : Option String) (c : Reduction)

theorem addValue_extends (r : Row) (a : Aggregate) (t : Tally) :
    Extends (addValue ⟨scope, false⟩ r a t) (addValue ⟨scope, true⟩ r a t) :=
  a.operation.blame_extends ((a.expression.eval_extends scope r).bind fun _ => .refl _)

theorem addToGroup_extends (r : Row) (g : Group) :
    Extends (c.addToGroup ⟨scope, false⟩ r g) (c.addToGroup ⟨scope, true⟩ r g) := by
  refine (Extends.mapM ?_ (c.aggregates.zip g.tallies)).bind fun tallies => .refl _
  intro (a, t)
  exact addValue_extends scope r a t

theorem addRow_extends (groups : Groups) (r : Row) :
    Extends (c.addRow ⟨scope, false⟩ groups r) (c.addRow ⟨scope, true⟩ groups r) := by
  -- The names of the group-by columns do not depend on what nulls do.
  refine (Extends.refl (c.keysOf ⟨scope, false⟩ r)).bind fun keys => ?_
  exact (c.addToGroup_extends scope r _).bind fun g => .refl _

theorem run_extends (allowEmpty : Bool) (rows : List Row) :
    Extends (c.run ⟨scope, false⟩ allowEmpty rows) (c.run ⟨scope, true⟩ allowEmpty rows) := by
  refine Extends.bind ?_ fun groups => .refl _
  exact (Extends.foldlM (c.addRow_extends scope) rows .empty).bind fun groups => .refl _

theorem runAll_extends (cs : List Reduction) (allowEmpty : Bool) (rows : List Row) :
    Extends (runAll cs ⟨scope, false⟩ allowEmpty rows) (runAll cs ⟨scope, true⟩ allowEmpty rows) :=
  (Extends.mapM (fun c => c.run_extends scope allowEmpty rows) cs).bind fun _ => .refl _

end Reduction

/-! ## Runs -/

namespace Run

/-- The settings with nulls that fail or pass. -/
def withNulls (config : Config) (pass : Bool) : Config :=
  { config with nullPasses := pass }

variable (config : Config)

theorem blockRow_extends (aliasName : String) (ops : List RowOp) (r : Row) :
    Extends (blockRow (withNulls config false) aliasName ops r)
      (blockRow (withNulls config true) aliasName ops r) := by
  unfold blockRow
  split
  · exact RowOp.onRow_extends (some aliasName) ops r
  · exact .refl _

theorem block_extends (rows : List Row) (b : Block) :
    Extends (block (withNulls config false) rows b) (block (withNulls config true) rows b) := by
  refine (Extends.refl _).bind fun ops => ?_
  refine (Extends.refl _).bind fun reductions => ?_
  refine (Extends.mapM (blockRow_extends config b.aliasName ops) rows).bind fun results => ?_
  cases reductions with
  | nil => exact .refl _
  | cons c cs =>
      exact (Reduction.runAll_extends (some b.aliasName) (c :: cs) config.emptyGroups _).bind
        fun reduced => .refl _

theorem allRows_extends (ops : List Operation) (rows : List Row) :
    Extends (allRows (withNulls config false) ops rows)
      (allRows (withNulls config true) ops rows) := by
  refine (Extends.refl _).bind fun rowOps => ?_
  refine (RowOp.onRows_extends none rowOps rows).bind fun rows => ?_
  refine (Extends.refl _).bind fun reductions => ?_
  cases reductions with
  | nil => exact .refl _
  | cons c cs => exact Reduction.runAll_extends none (c :: cs) config.emptyGroups rows

theorem transform_extends (p : Pipeline) (batches : List Batch) :
    Extends (transform (withNulls config false) p batches)
      (transform (withNulls config true) p batches) := by
  unfold transform
  cases p.transform with
  | none => exact .refl _
  | some t =>
      refine (Extends.foldlM (block_extends config) t.blocks _).bind fun rows => ?_
      exact allRows_extends config t.operations _

/-- A run that has rows where nulls fail has the same rows where nulls pass. -/
theorem ofBatches_withNulls (p : Pipeline) (batches : List Batch) {rows : List Row}
    (strict : ofBatches (withNulls config false) p batches = .ok rows) :
    ofBatches (withNulls config true) p batches = .ok rows := by
  have transformed := (transform_extends config p batches).mapError RunError.operation
  unfold ofBatches at strict ⊢
  -- The check reads no setting, so it is the same for both runs.
  change (if config.validateFirst = true then _ else _) = _ at strict
  change (if config.validateFirst = true then _ else _) = _
  cases first : config.validateFirst with
  | true =>
      rw [first, if_pos rfl] at strict
      rw [if_pos rfl]
      exact (Extends.refl _).bind (fun known => transformed) rows strict
  | false =>
      rw [first, if_neg Bool.false_ne_true] at strict
      rw [if_neg Bool.false_ne_true]
      exact transformed rows strict

def orders : List Batch :=
  [.ofRows "orders"
    [.ofList [("orders.qty", .number .one)] none, .ofList [("orders.qty", .null)] none]]

/-- A block that doubles the quantities and a total of the large ones; orders without a quantity are
dropped before anything is computed from them. -/
def orderTotal : Pipeline where
  name := "orders"
  extract := some [⟨"orders", [], none⟩]
  transform := some {
    blocks := [⟨"orders", [.filter "qty != NULL AND qty > 0", .map "qty * 2" ⟨"double", none⟩]⟩]
    operations := [.aggregate "sum" "double" [] ⟨"total", none⟩] }
  load := some ⟨"memory", "out"⟩

theorem ofBatches_withNulls_orders :
    ∃ rows, ofBatches (withNulls {} false) orderTotal orders = .ok rows ∧
      ofBatches (withNulls {} true) orderTotal orders = .ok rows := by
  obtain ⟨rows, strict⟩ := isSome_toOption_iff.1 (by decide +kernel :
    (ofBatches (withNulls {} false) orderTotal orders).toOption.isSome = true)
  exact ⟨rows, strict, ofBatches_withNulls {} orderTotal orders strict⟩

end Run

end RowPipeline
