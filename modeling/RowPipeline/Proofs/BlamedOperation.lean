import RowPipeline.Proofs.BlockIsolation
import RowPipeline.Proofs.GroupErrors

/-! # Which operation a failed run names

Operations are listed in the blocks of single sources and behind them for all rows. Each list gets
its rows, those of its alias in a block, once the blocks before it have gone through. An operation
that a failed run names stands in such a list and fails by itself there: when it is compiled, on a
row as the operations before it leave it, or on a part of the rows that all operations on rows
leave.
-/

namespace RowPipeline

open Outcome

/-- A list of operations, the alias that it stands under, and the rows that it gets. -/
structure Stage where
  scope : Option String
  operations : List Operation
  rows : List Row

namespace Stage

/-- The rows that the operations on rows leave for the aggregates. -/
def Leaves (config : Config) (s : Stage) (left : List Row) : Prop :=
  ∃ rowOps, RowOp.compile s.scope s.operations = .ok rowOps ∧
    RowOp.onRows (Run.mode config s.scope) rowOps s.rows = .ok left

/-- An operation of the stage fails by itself. -/
inductive Raises (config : Config) (s : Stage) (op : Operation) (cause : EvalError) : Prop where
  /-- It cannot be compiled for rows. -/
  | action (failed : RowAction.compile s.scope op = .error cause)
  /-- It cannot be compiled for groups. -/
  | aggregate (failed : Aggregate.compile s.scope op = .error cause)
  /-- It fails on a row as the operations before it leave it. -/
  | row {before after : List Operation} {action : RowAction} {r r' : Row}
    (split : s.operations = before ++ op :: after) (own : r ∈ s.rows)
    (leads : RowOp.Leads (Run.mode config s.scope) before r r')
    (compiled : RowAction.compile s.scope op = .ok (some action))
    (failed : action.run (Run.mode config s.scope) r' = .error cause)
  /-- It fails on the rows that are left, in one of them or over a part of them. -/
  | group {left : List Row} {reductions : List Reduction} {c : Reduction} {a : Aggregate}
    (leaves : s.Leaves config left)
    (reduced : Reduction.compile config s.scope s.operations = .ok reductions)
    (placed : c ∈ reductions) (compiled : Aggregate.compile s.scope op = .ok (some a))
    (failed : c.Fails (Run.mode config s.scope) config.emptyGroups left a cause)

end Stage

/-! ## Compilation -/

theorem RowOp.compile_error {scope : Option String} {ops : List Operation} {e : OperationError}
    (h : compile scope ops = .error e) :
    e.operation ∈ ops ∧ RowAction.compile scope e.operation = .error e.cause := by
  induction ops with
  | nil => cases h
  | cons op ops ih =>
      have behind (h : compile scope ops = .error e) :
          e.operation ∈ op :: ops ∧ RowAction.compile scope e.operation = .error e.cause := by
        obtain ⟨listed, failed⟩ := ih h
        exact ⟨List.mem_cons_of_mem op listed, failed⟩
      rcases bind_eq_error.1 h with failed | ⟨action?, _, h⟩
      · obtain ⟨rfl, failed⟩ := Operation.blame_eq_error.1 failed
        exact ⟨List.mem_cons_self, failed⟩
      · cases action? with
        | none => exact behind h
        | some action =>
            rcases bind_eq_error.1 h with failed | ⟨_, _, impossible⟩
            · exact behind failed
            · cases impossible

theorem Aggregate.compileAll_error {scope : Option String} {ops : List Operation}
    {e : OperationError} (h : compileAll scope ops = .error e) :
    e.operation ∈ ops ∧ compile scope e.operation = .error e.cause := by
  induction ops with
  | nil => cases h
  | cons op ops ih =>
      have behind (h : compileAll scope ops = .error e) :
          e.operation ∈ op :: ops ∧ compile scope e.operation = .error e.cause := by
        obtain ⟨listed, failed⟩ := ih h
        exact ⟨List.mem_cons_of_mem op listed, failed⟩
      rcases bind_eq_error.1 h with failed | ⟨aggregate?, _, h⟩
      · obtain ⟨rfl, failed⟩ := Operation.blame_eq_error.1 failed
        exact ⟨List.mem_cons_self, failed⟩
      · cases aggregate? with
        | none => exact behind h
        | some a =>
            rcases bind_eq_error.1 h with failed | ⟨_, _, impossible⟩
            · exact behind failed
            · cases impossible

/-! ## Stages -/

namespace Stage

variable {config : Config} {s : Stage} {e : OperationError}

/-- The operation that the error names stands in the stage and fails by itself there. -/
def Explains (config : Config) (s : Stage) (e : OperationError) : Prop :=
  e.operation ∈ s.operations ∧ s.Raises config e.operation e.cause

theorem explains_of_compile (h : RowOp.compile s.scope s.operations = .error e) :
    s.Explains config e := by
  obtain ⟨listed, failed⟩ := RowOp.compile_error h
  exact ⟨listed, .action failed⟩

theorem explains_of_compileAggregates
    (h : Reduction.compile config s.scope s.operations = .error e) : s.Explains config e := by
  obtain ⟨listed, failed⟩ := Aggregate.compileAll_error (map_eq_error.1 h)
  exact ⟨listed, .aggregate failed⟩

theorem explains_of_onRow {rowOps : List RowOp} {r : Row}
    (compiled : RowOp.compile s.scope s.operations = .ok rowOps) (own : r ∈ s.rows)
    (h : RowOp.onRow (Run.mode config s.scope) rowOps r = .error e) : s.Explains config e := by
  obtain ⟨before, after, action, r', split, leads, head, failed⟩ :=
    RowOp.exists_split_of_onRow_error h compiled
  refine ⟨?_, .row split own leads head failed⟩
  rw [split]
  exact List.mem_append_right _ List.mem_cons_self

theorem explains_of_runAll {left : List Row} {reductions : List Reduction}
    (leaves : s.Leaves config left)
    (reduced : Reduction.compile config s.scope s.operations = .ok reductions)
    (h : Reduction.runAll reductions (Run.mode config s.scope) config.emptyGroups left =
      .error e) : s.Explains config e := by
  rcases bind_eq_error.1 h with failed | ⟨_, _, impossible⟩
  · obtain ⟨c, placed, failed⟩ := mapM_eq_error failed
    obtain ⟨a, same, fails⟩ := Reduction.run_error failed
    obtain ⟨as, compiledAll, rfl⟩ := map_eq_ok.1 reduced
    have listed : a ∈ as := Reduction.mem_ofAggregates placed fails.mem_aggregates
    obtain ⟨op, member, isOf⟩ := Aggregate.mem_compileAll compiledAll listed
    obtain rfl : e.operation = op := same.trans isOf.operation_eq
    have compiled := Aggregate.compile_eq_some_iff.2 isOf
    exact ⟨member, .group leaves reduced placed compiled fails⟩
  · cases impossible

end Stage

namespace Run

variable {config : Config} {e : OperationError} {rows : List Row}

theorem explains_of_allRows {ops : List Operation} (h : allRows config ops rows = .error e) :
    Stage.Explains config ⟨none, ops, rows⟩ e := by
  rcases bind_eq_error.1 h with failed | ⟨rowOps, compiled, h⟩
  · exact Stage.explains_of_compile failed
  rcases bind_eq_error.1 h with failed | ⟨left, passed, h⟩
  · obtain ⟨r, own, failed⟩ := RowStep.pass_error failed
    exact Stage.explains_of_onRow compiled own failed
  rcases bind_eq_error.1 h with failed | ⟨reductions, reduced, h⟩
  · exact Stage.explains_of_compileAggregates failed
  split at h
  next => cases h
  next => exact Stage.explains_of_runAll ⟨rowOps, compiled, passed⟩ reduced h

theorem explains_of_block {b : Block} (h : block config rows b = .error e) :
    Stage.Explains config
      ⟨some b.aliasName, b.operations, rows.filter (Row.comesFrom b.aliasName)⟩ e := by
  rw [block_eq] at h
  rcases bind_eq_error.1 h with failed | ⟨rowOps, compiled, h⟩
  · exact Stage.explains_of_compile failed
  rcases bind_eq_error.1 h with failed | ⟨reductions, reduced, h⟩
  · exact Stage.explains_of_compileAggregates failed
  rcases bind_eq_error.1 h with failed | ⟨front, passed, h⟩
  · obtain ⟨r, own, failed⟩ := RowStep.pass_error failed
    unfold blockRow at failed
    split at failed
    next kind => exact Stage.explains_of_onRow compiled (List.mem_filter.2 ⟨own, kind⟩) failed
    next => cases failed
  unfold reduceOwn at h
  split at h
  next => cases h
  next =>
    have left := ((only_blockRow config b.aliasName rowOps).filter_of_pass passed).2
    rw [pass_blockRow_own fun r member => (List.mem_filter.1 member).2] at left
    exact Stage.explains_of_runAll ⟨rowOps, compiled, left⟩ reduced (map_eq_error.1 h)

/-! ## Runs -/

/-- A run over the batches comes to the stage. -/
inductive Enters (config : Config) (p : Pipeline) (batches : List Batch) : Stage → Prop where
  /-- A block gets the rows of its alias once the blocks before it have gone through. -/
  | block {t : Transform} {before after : List Block} {b : Block} {rows : List Row}
    (transforms : p.transform = some t) (split : t.blocks = before ++ b :: after)
    (led : before.foldlM (block config) (Batch.merge batches) = .ok rows) :
    Enters config p batches
      ⟨some b.aliasName, b.operations, rows.filter (Row.comesFrom b.aliasName)⟩
  /-- The operations on all rows get what all blocks leave, padded if there are blocks. -/
  | all {t : Transform} {rows : List Row} (transforms : p.transform = some t)
    (led : t.blocks.foldlM (block config) (Batch.merge batches) = .ok rows) :
    Enters config p batches
      ⟨none, t.operations, if t.blocks.isEmpty then rows else Row.padAll rows⟩

theorem explains_of_transform {p : Pipeline} {batches : List Batch}
    (h : transform config p batches = .error e) :
    ∃ s, Enters config p batches s ∧ s.Explains config e := by
  unfold transform at h
  cases transforms : p.transform with
  | none =>
      rw [transforms] at h
      cases h
  | some t =>
      rw [transforms] at h
      rcases bind_eq_error.1 h with failed | ⟨rows, led, failed⟩
      · obtain ⟨before, b, after, rows, split, led, failed⟩ := foldlM_eq_error_split failed
        exact ⟨_, .block transforms split led, explains_of_block failed⟩
      · exact ⟨_, .all transforms led, explains_of_allRows failed⟩

/-- A run that fails in its operations names one of them, once, and that operation fails by itself
with the error that is told: it stands in a block or among the operations on all rows, and cannot be
compiled there or fails on a row or on a part of the rows that come to it. -/
theorem operation_error_explained (config : Config) (p : Pipeline) (batches : List Batch)
    (e : OperationError) (h : ofBatches config p batches = .error (.operation e)) :
    (RunError.operation e).message =
        "Execution failed: " ++ (e.operation.toText ++ ": " ++ e.cause.message) ∧
      ∃ s, Enters config p batches s ∧ e.operation ∈ s.operations ∧
        s.Raises config e.operation e.cause := by
  refine ⟨rfl, ?_⟩
  have failed (h : (transform config p batches).mapError RunError.operation =
      .error (.operation e)) : transform config p batches = .error e := by
    obtain ⟨e', failed, same⟩ := mapError_eq_error.1 h
    cases same
    exact failed
  unfold ofBatches at h
  split at h
  next =>
    rcases bind_eq_error.1 h with unchecked | ⟨_, _, h⟩
    · obtain ⟨_, _, impossible⟩ := mapError_eq_error.1 unchecked
      cases impossible
    · exact explains_of_transform (failed h)
  next => exact explains_of_transform (failed h)

/-- A sale with a label that is no number. -/
def labelled : List Batch :=
  [.ofRows "sales" [.ofList [("sales.region", .text "north"), ("sales.label", .text "x")] none]]

def countLabels : Operation :=
  .aggregate "count" "label" ["region"] ⟨"n", none⟩

def sumLabels : Operation :=
  .aggregate "sum" "label" ["region"] ⟨"total", none⟩

def labelTotals : Pipeline where
  name := "p"
  extract := some [⟨"sales", [], none⟩]
  transform := some { operations := [countLabels, sumLabels] }
  load := some ⟨"memory", "out"⟩

/-- Of two aggregates that share a group the one that fails is named. -/
theorem operation_error_explained_labels :
    ofBatches { shape := .wide } labelTotals labelled =
        .error (.operation ⟨sumLabels, .conversion (.notNumber "x" .decimal)⟩) ∧
      ∃ s, Enters { shape := .wide } labelTotals labelled s ∧ sumLabels ∈ s.operations ∧
        s.Raises { shape := .wide } sumLabels (.conversion (.notNumber "x" .decimal)) := by
  have failed : ofBatches { shape := .wide } labelTotals labelled =
      .error (.operation ⟨sumLabels, .conversion (.notNumber "x" .decimal)⟩) := by
    decide +kernel
  exact ⟨failed, (operation_error_explained { shape := .wide } labelTotals labelled _ failed).2⟩

end Run

end RowPipeline
