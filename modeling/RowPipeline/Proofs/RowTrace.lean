import RowPipeline.Proofs.TargetsOnly

/-! # The way of a row

Operations on a row keep its origin and its columns, and add their targets. Where they fail, one of
them has failed on the row as those before it left it.
-/

namespace RowPipeline

open Outcome

theorem RowAction.mem_columns_of_run {scope : Option String} {op : Operation} {action : RowAction}
    (compiled : compile scope op = .ok (some action)) {mode : EvalMode} {r r' : Row}
    (h : action.run mode r = .ok (some r')) {column : String} :
    column ∈ r'.columns ↔ column ∈ Operation.targetNames scope [op] ∨ column ∈ r.columns := by
  rw [(changesOnly_of_run h).mem_columns_iff, targetNames_of_compile compiled]

namespace RowOp

variable {scope : Option String} {mode : EvalMode}

theorem origin_of_onRow {ops : List RowOp} {r r' : Row} (h : onRow mode ops r = .ok (some r')) :
    r'.origin = r.origin :=
  (changesOnly_of_onRow h).origin

theorem mem_columns_of_onRow {ops : List Operation} {rowOps : List RowOp}
    (compiled : compile scope ops = .ok rowOps) {r r' : Row}
    (h : onRow mode rowOps r = .ok (some r')) {column : String} :
    column ∈ r'.columns ↔
      column ∈ Operation.targetNames scope (Operation.onRows ops) ∨ column ∈ r.columns := by
  rw [(changesOnly_of_onRow h).mem_columns_iff, targetNames_of_compile compiled]

/-! ## From one row to the next -/

/-- The operations on rows among the given ones turn the row into the other one. -/
def Leads (mode : EvalMode) (ops : List Operation) (r r' : Row) : Prop :=
  ∃ rowOps, compile mode.scope ops = .ok rowOps ∧ onRow mode rowOps r = .ok (some r')

theorem leads_nil_iff {r r' : Row} : Leads mode [] r r' ↔ r' = r := by
  constructor
  · rintro ⟨rowOps, compiled, ran⟩
    cases compiled
    cases ran
    rfl
  · rintro rfl
    exact ⟨[], rfl, rfl⟩

theorem leads_cons_iff {op : Operation} {ops : List Operation} {r r' : Row} :
    Leads mode (op :: ops) r r' ↔ (op.isAggregate = true ∧ Leads mode ops r r') ∨
      ∃ action m, RowAction.compile mode.scope op = .ok (some action) ∧
        action.run mode r = .ok (some m) ∧ Leads mode ops m r' := by
  constructor
  · rintro ⟨rowOps, compiled, ran⟩
    rcases compile_cons compiled with ⟨aggregate, tail⟩ | ⟨action, rest, head, tail, rfl⟩
    · exact .inl ⟨aggregate, rowOps, tail, ran⟩
    · rcases onRow_cons ran with ⟨_, _, h⟩ | ⟨_, h⟩ | ⟨m, first, later⟩
      · cases h
      · cases h
      · exact .inr ⟨action, m, head, first, rest, tail, later⟩
  · rintro (⟨aggregate, rowOps, tail, ran⟩ | ⟨action, m, head, first, rest, tail, later⟩)
    · refine ⟨rowOps, ?_, ran⟩
      cases op with
      | map | choose | filter => cases aggregate
      | aggregate => exact tail
    · refine ⟨⟨action, op⟩ :: rest, ?_, ?_⟩
      · simp only [compile, Operation.blame, head, tail]
        rfl
      · simp only [onRow, Operation.blame, first]
        exact later

/-- An error on a row is that of an operation on the row as the operations before it leave it. -/
theorem exists_split_of_onRow_error {ops : List Operation} {rowOps : List RowOp} {r : Row}
    {e : OperationError} (h : onRow mode rowOps r = .error e)
    (compiled : compile mode.scope ops = .ok rowOps) :
    ∃ before after action r', ops = before ++ e.operation :: after ∧ Leads mode before r r' ∧
      RowAction.compile mode.scope e.operation = .ok (some action) ∧
      action.run mode r' = .error e.cause := by
  induction ops generalizing rowOps r with
  | nil =>
      cases compiled
      cases h
  | cons op ops ih =>
      rcases compile_cons compiled with ⟨aggregate, tail⟩ | ⟨action, rest, head, tail, rfl⟩
      · obtain ⟨before, after, action, r', rfl, leads, own, failed⟩ := ih h tail
        refine ⟨op :: before, after, action, r', rfl, ?_, own, failed⟩
        exact leads_cons_iff.2 (.inl ⟨aggregate, leads⟩)
      · rcases onRow_cons h with ⟨cause, ran, h⟩ | ⟨_, h⟩ | ⟨m, ran, h⟩
        · cases h
          exact ⟨[], ops, action, r, rfl, leads_nil_iff.2 rfl, head, ran⟩
        · cases h
        · obtain ⟨before, after, action', r', rfl, leads, own, failed⟩ := ih h tail
          refine ⟨op :: before, after, action', r', rfl, ?_, own, failed⟩
          exact leads_cons_iff.2 (.inr ⟨action, m, head, ran, leads⟩)

/-- What fails on a row is an operation that names a column, or values, in the row as the operations
before it leave it. -/
theorem exists_of_onRow_error {ops : List Operation} {rowOps : List RowOp} {r : Row}
    {e : OperationError} (h : onRow mode rowOps r = .error e)
    (compiled : compile mode.scope ops = .ok rowOps) :
    e.operation ∈ ops ∧ ∃ r' : Row, r.columns ⊆ r'.columns ∧
      e.cause.FromRow mode r' e.operation.references := by
  obtain ⟨before, after, action, r', rfl, ⟨_, earlier, ran⟩, own, failed⟩ :=
    exists_split_of_onRow_error h compiled
  refine ⟨List.mem_append_right _ List.mem_cons_self, r', ?_, ?_⟩
  · intro column present
    exact (mem_columns_of_onRow earlier ran).2 (.inr present)
  · have failure := RowAction.run_error failed
    rwa [(RowAction.compile_some own).2.1] at failure

theorem leads_append_iff {ops ops' : List Operation} {r r' : Row} :
    Leads mode (ops ++ ops') r r' ↔ ∃ m, Leads mode ops r m ∧ Leads mode ops' m r' := by
  induction ops generalizing r with
  | nil => simp [leads_nil_iff]
  | cons op ops ih =>
      rw [List.cons_append, leads_cons_iff]
      simp only [ih, leads_cons_iff]
      constructor
      · rintro (⟨aggregate, m, first, later⟩ | ⟨action, s, head, ran, m, first, later⟩)
        · exact ⟨m, .inl ⟨aggregate, first⟩, later⟩
        · exact ⟨m, .inr ⟨action, s, head, ran, first⟩, later⟩
      · rintro ⟨m, ⟨aggregate, first⟩ | ⟨action, s, head, ran, first⟩, later⟩
        · exact .inl ⟨aggregate, m, first, later⟩
        · exact .inr ⟨action, s, head, ran, m, first, later⟩

theorem Leads.exists_write {op : Operation} (onRows : op.isAggregate = false) {t : Target}
    (written : op.target? = some t) {r r' : Row} (h : Leads mode [op] r r') :
    ∃ v, r' = r.set (Name.inScope mode.scope t.column) v := by
  rcases leads_cons_iff.1 h with ⟨aggregate, _⟩ | ⟨action, m, head, ran, rest⟩
  · rw [onRows] at aggregate
    cases aggregate
  · rw [leads_nil_iff.1 rest]
    have change := RowAction.run_some ran
    rw [(RowAction.compile_some head).2.2, written] at change
    exact change

theorem Leads.get?_of_other {ops : List Operation} {r r' : Row} (h : Leads mode ops r r')
    {column : String} (other : column ∉ Operation.targetNames mode.scope ops) :
    r'.get? column = r.get? column := by
  obtain ⟨rowOps, compiled, ran⟩ := h
  apply (changesOnly_of_onRow ran).values
  rw [targetNames_of_compile compiled]
  exact fun written => other (Operation.targetNames_onRows_subset mode.scope ops written)

end RowOp

/-! ## Operations on all rows -/

theorem Reduction.exists_of_runAll_error {config : Config} {scope : Option String}
    {ops : List Operation} {cs : List Reduction} (compiled : compile config scope ops = .ok cs)
    {mode : EvalMode} {allowEmpty : Bool} {rows : List Row} {e : OperationError}
    (h : runAll cs mode allowEmpty rows = .error e) :
    e.cause.kind.ofValues = true ∨ e.operation ∈ ops ∧ e.operation.isAggregate = true ∧
      ∃ r ∈ rows, e.cause.FromRow mode r e.operation.references := by
  obtain ⟨as, compiledAll, rfl⟩ := map_eq_ok.1 compiled
  rcases runAll_error h with ofValues | ⟨c, placed, a, inside, r, own, same, failure⟩
  · exact .inl ofValues
  · obtain ⟨op, member, isOf⟩ := Aggregate.mem_compileAll compiledAll
      (mem_ofAggregates placed inside)
    rw [same, isOf.operation_eq]
    exact .inr ⟨member, isOf.isAggregate, r, own, isOf.columns_eq ▸ failure⟩

/-- Readable operations fail on one of the rows, or where the rows that are left are reduced. -/
theorem Run.allRows_error_cases {config : Config} {ops : List Operation}
    (readable : ∀ op ∈ ops, op.Readable) {rows : List Row} {e : OperationError}
    (h : allRows config ops rows = .error e) :
    ∃ rowOps, RowOp.compile none ops = .ok rowOps ∧
      ((∃ r ∈ rows, RowOp.onRow (mode config none) rowOps r = .error e) ∨
        ∃ cs left, Reduction.compile config none ops = .ok cs ∧
          RowStep.pass (RowOp.onRow (mode config none) rowOps) rows = .ok left ∧
          Reduction.runAll cs (mode config none) config.emptyGroups left = .error e) := by
  obtain ⟨rowOps, compiled⟩ := RowOp.compile_of_readable readable
  obtain ⟨as, compiledAll⟩ := Aggregate.compileAll_of_readable readable
  refine ⟨rowOps, compiled, ?_⟩
  rcases bind_eq_error.1 h with h | ⟨_, compiled', h⟩
  · rw [compiled] at h
    cases h
  cases compiled.symm.trans compiled'
  rcases bind_eq_error.1 h with h | ⟨left, passed, h⟩
  · exact .inl (RowStep.pass_error h)
  rcases bind_eq_error.1 h with h | ⟨cs, compiledAggregates, h⟩
  · rw [Reduction.compile, compiledAll] at h
    cases h
  split at h
  next => cases h
  next => exact .inr ⟨cs, left, compiledAggregates, passed, h⟩

end RowPipeline
