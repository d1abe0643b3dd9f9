import RowPipeline.Proofs.CheckedOperations
import RowPipeline.Proofs.GroupFold

/-! # Only targets change

Operations on rows write to their targets one after the other, and may drop a row. What a row that
is left owes to them is its values at the targets and the columns that these add; all else it has
from the row that went in.
-/

namespace RowPipeline

open Outcome

namespace Row

/-- The second row is the first after writes to the targets: a target that was no column stands
behind the columns, in the order of the first writes, and nothing else has changed. -/
structure ChangesOnly (targets : List String) (r r' : Row) : Prop where
  origin : r'.origin = r.origin
  columns : r'.columns = r.columns ++ (targets.filter (· ∉ r.columns)).eraseDups
  values : ∀ column, column ∉ targets → r'.get? column = r.get? column

namespace ChangesOnly

theorem refl (r : Row) : ChangesOnly [] r r where
  origin := rfl
  columns := (List.append_nil _).symm
  values := fun _ _ => rfl

theorem set (r : Row) (column : String) (v : Value) : ChangesOnly [column] r (r.set column v) where
  origin := rfl
  columns := by
    rw [columns_set]
    by_cases present : column ∈ r.columns
    · simp [present]
    · simp [present, List.eraseDups_cons]
  values := by
    intro other apart
    rw [get?_set, if_neg fun same => apart (List.mem_singleton.2 same)]

theorem trans {ts us : List String} {r m r' : Row} (first : ChangesOnly ts r m)
    (later : ChangesOnly us m r') : ChangesOnly (ts ++ us) r r' where
  origin := later.origin.trans first.origin
  columns := by
    -- A later target is new only if it was no column and is no earlier target.
    have fresh : us.filter (· ∉ m.columns) =
        (us.filter (· ∉ r.columns)).removeAll (ts.filter (· ∉ r.columns)) := by
      rw [List.removeAll, List.filter_filter]
      apply List.filter_congr
      intro column _
      rw [first.columns]
      by_cases present : column ∈ r.columns <;> simp [present]
    rw [later.columns, fresh, first.columns, List.filter_append, List.eraseDups_append,
      List.append_assoc]
  values := by
    intro column apart
    rw [List.mem_append, not_or] at apart
    rw [later.values column apart.2, first.values column apart.1]

theorem mem_columns_iff {ts : List String} {r r' : Row} (h : ChangesOnly ts r r')
    {column : String} : column ∈ r'.columns ↔ column ∈ ts ∨ column ∈ r.columns := by
  rw [h.columns, List.mem_append, List.mem_eraseDups, List.mem_filter, decide_eq_true_iff]
  tauto

end ChangesOnly

end Row

namespace RowAction

theorem targetNames_of_compile {scope : Option String} {op : Operation} {action : RowAction}
    (compiled : compile scope op = .ok (some action)) :
    Operation.targetNames scope [op] = (action.target?.map Target.column).toList := by
  rw [(compile_some compiled).2.2]
  cases written : op.target? <;> simp [Operation.targetNames, written, Target.inScope]

theorem changesOnly_of_run {mode : EvalMode} {r r' : Row} {a : RowAction}
    (h : a.run mode r = .ok (some r')) :
    r.ChangesOnly (a.target?.map Target.column).toList r' := by
  have change := run_some h
  cases written : a.target? with
  | none =>
      simp only [written] at change
      rw [change]
      exact .refl r
  | some target =>
      simp only [written] at change
      obtain ⟨v, rfl⟩ := change
      exact .set r target.column v

end RowAction

namespace RowOp

variable {scope : Option String} {mode : EvalMode}

def targetNames (ops : List RowOp) : List String :=
  ops.flatMap fun op => (op.action.target?.map Target.column).toList

theorem targetNames_of_compile {ops : List Operation} {rowOps : List RowOp}
    (compiled : compile scope ops = .ok rowOps) :
    targetNames rowOps = Operation.targetNames scope (Operation.onRows ops) := by
  induction ops generalizing rowOps with
  | nil =>
      cases compiled
      rfl
  | cons op ops ih =>
      rcases compile_cons compiled with ⟨aggregate, tail⟩ | ⟨action, rest, head, tail, rfl⟩
      · have skipped : Operation.onRows (op :: ops) = Operation.onRows ops :=
          List.filter_cons_of_neg (by simp [aggregate])
        rw [skipped, ih tail]
      · have taken : Operation.onRows (op :: ops) = op :: Operation.onRows ops :=
          List.filter_cons_of_pos (by simp [(RowAction.compile_some head).1])
        rw [taken, Operation.targetNames_cons, RowAction.targetNames_of_compile head, ← ih tail]
        rfl

theorem changesOnly_of_onRow {ops : List RowOp} {r r' : Row}
    (h : onRow mode ops r = .ok (some r')) : r.ChangesOnly (targetNames ops) r' := by
  induction ops generalizing r with
  | nil =>
      cases h
      exact .refl _
  | cons op ops ih =>
      rcases onRow_cons h with ⟨_, _, h⟩ | ⟨_, h⟩ | ⟨m, ran, h⟩
      · cases h
      · cases h
      · exact (RowAction.changesOnly_of_run ran).trans (ih h)

/-- The rows that operations leave come in order from rows that went in. Each has the origin and the
columns of its row, behind these the targets that were no columns, in the order of the first writes,
and the values of its row in every column that is not a target. -/
theorem onRows_changes_targets_only (scope : Option String) (mode : EvalMode)
    (ops : List Operation) (rows : List Row) {rowOps : List RowOp}
    (compiled : compile scope ops = .ok rowOps) {out : List Row}
    (applied : onRows mode rowOps rows = .ok out) :
    ∃ kept : List Row, kept.Sublist rows ∧
      List.Forall₂ (fun r r' => onRow mode rowOps r = .ok (some r') ∧
        r.ChangesOnly (Operation.targetNames scope (Operation.onRows ops)) r') kept out := by
  obtain ⟨kept, sublist, each⟩ := RowStep.exists_sublist_of_pass applied
  refine ⟨kept, sublist, each.imp fun r r' ran => ⟨ran, ?_⟩⟩
  rw [← targetNames_of_compile compiled]
  exact changesOnly_of_onRow ran

/-- The quantity is doubled in its place, small ones are dropped, and then a remark is added. -/
def doubling : List Operation :=
  [.map "qty * 2" ⟨"qty", none⟩, .filter "qty > 5", .map "\"large\"" ⟨"size", none⟩]

def unevenSales : List Row :=
  [.ofList [("sales.qty", .ofCell "1")] (some "sales"),
    .ofList [("sales.qty", .ofCell "7")] (some "sales")]

theorem onRows_changes_targets_only_sales :
    ∃ rowOps out kept, compile (some "sales") doubling = .ok rowOps ∧
      onRows ⟨some "sales", false⟩ rowOps unevenSales = .ok out ∧ out.length = 1 ∧
      kept.Sublist unevenSales ∧
      List.Forall₂ (fun r r' => r.ChangesOnly ["sales.qty", "sales.size"] r') kept out := by
  obtain ⟨rowOps, compiled⟩ := isSome_toOption_iff.1 (by decide +kernel :
    (compile (some "sales") doubling).toOption.isSome = true)
  have ran : ((compile (some "sales") doubling).bind fun rowOps =>
      onRows ⟨some "sales", false⟩ rowOps unevenSales).toOption.map List.length = some 1 := by
    decide +kernel
  obtain ⟨out, both, one⟩ := Option.map_eq_some_iff.1 ran
  obtain ⟨rowOps', compiled', applied⟩ := bind_eq_ok.1 (toOption_eq_some.1 both)
  cases compiled.symm.trans compiled'
  have targets : Operation.targetNames (some "sales") (Operation.onRows doubling) =
      ["sales.qty", "sales.size"] := by decide +kernel
  obtain ⟨kept, sublist, each⟩ :=
    onRows_changes_targets_only (some "sales") _ doubling unevenSales compiled applied
  rw [targets] at each
  exact ⟨rowOps, out, kept, compiled, applied, one, sublist, each.imp fun _ _ h => h.2⟩

end RowOp

end RowPipeline
