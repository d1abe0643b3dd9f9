import RowPipeline.Proofs.RowTrace

/-! # What a source block touches

A block works on the rows of its alias. All other rows stay as they are and in their order, and what
becomes of the rows of the alias does not hang on the others.
-/

namespace RowPipeline

open Outcome Text

/-- The block has operations on single rows only. -/
def Block.Plain (b : Block) : Prop :=
  ∀ op ∈ b.operations, op.isAggregate = false

theorem Row.comesFrom_iff {r : Row} {aliasName : String} :
    r.comesFrom aliasName = true ↔
      ∃ origin, r.origin = some origin ∧ sameIgnoringCase origin aliasName = true := by
  unfold comesFrom
  split <;> simp_all

theorem Row.comesFrom_of_apart {r : Row} {a b : String} (h : r.comesFrom a = true)
    (apart : sameIgnoringCase a b = false) : r.comesFrom b = false := by
  obtain ⟨origin, own, same⟩ := comesFrom_iff.1 h
  by_contra other
  obtain ⟨origin', own', same'⟩ := comesFrom_iff.1 (Bool.not_eq_false _ ▸ other)
  cases own.symm.trans own'
  rw [sameIgnoringCase_trans (sameIgnoringCase_comm origin a ▸ same) same'] at apart
  cases apart

namespace Reduction

theorem origin_of_runAll {cs : List Reduction} {mode : EvalMode} {allowEmpty : Bool}
    {rows out : List Row} (h : runAll cs mode allowEmpty rows = .ok out) {r : Row}
    (member : r ∈ out) : r.origin = mode.scope := by
  obtain ⟨results, all, h⟩ := bind_eq_ok.1 h
  cases h
  obtain ⟨result, listed, member⟩ := List.mem_flatten.1 member
  obtain ⟨c, _, ran⟩ := exists_of_mem_mapM all listed
  obtain ⟨groups, _, finished⟩ := bind_eq_ok.1 ran
  obtain ⟨g, _, finished⟩ := exists_of_mem_mapM finished member
  obtain ⟨values, _, finished⟩ := bind_eq_ok.1 finished
  cases finished
  rfl

end Reduction

namespace Run

variable {config : Config} {b : Block} {rows out : List Row}

theorem only_blockRow (config : Config) (aliasName : String) (ops : List RowOp) :
    RowStep.Only (Row.comesFrom aliasName) (blockRow config aliasName ops) where
  other := fun kind => by rw [blockRow, kind, if_neg Bool.false_ne_true]
  own := fun {_ r'} kind h => by
    rw [blockRow, if_pos kind] at h
    obtain ⟨origin, own, same⟩ := Row.comesFrom_iff.1 kind
    exact Row.comesFrom_iff.2 ⟨origin, (RowOp.origin_of_onRow h).trans own, same⟩

theorem pass_blockRow_own {aliasName : String} {ops : List RowOp}
    (own : ∀ r ∈ rows, r.comesFrom aliasName = true) :
    RowStep.pass (blockRow config aliasName ops) rows =
      RowOp.onRows (mode config (some aliasName)) ops rows := by
  have same : rows.mapM (blockRow config aliasName ops) =
      rows.mapM (RowOp.onRow (mode config (some aliasName)) ops) := by
    induction rows with
    | nil => rfl
    | cons r rows ih =>
        obtain ⟨first, later⟩ := List.forall_mem_cons.1 own
        rw [List.mapM_cons, List.mapM_cons, blockRow, if_pos first, ih later]
  rw [RowStep.pass, RowOp.onRows, same]

/-- What the aggregates of a block make of the rows that its other operations leave. -/
def reduceOwn (config : Config) (b : Block) (cs : List Reduction) (rows : List Row) :
    Except OperationError (List Row) :=
  if cs.isEmpty then .ok rows
  else
    (Reduction.runAll cs (mode config (some b.aliasName)) config.emptyGroups
      (rows.filter (Row.comesFrom b.aliasName))).map fun reduced =>
        rows.filter (fun r => !r.comesFrom b.aliasName) ++ reduced

/-- A block passes the rows through its operations on rows and reduces those of its alias. -/
theorem block_eq (config : Config) (rows : List Row) (b : Block) :
    block config rows b = (do
      let ops ← RowOp.compile (some b.aliasName) b.operations
      let cs ← Reduction.compile config (some b.aliasName) b.operations
      let front ← RowStep.pass (blockRow config b.aliasName ops) rows
      reduceOwn config b cs front) := by
  simp only [block, RowStep.pass, bind_assoc, pure_bind]
  refine bind_congr fun ops => bind_congr fun cs => bind_congr fun kept => ?_
  unfold reduceOwn
  split
  next => rfl
  next =>
    rw [List.partition_eq_filter_filter]
    cases Reduction.runAll cs (mode config (some b.aliasName)) config.emptyGroups
      ((kept.filterMap id).filter (Row.comesFrom b.aliasName)) <;> rfl

theorem block_eq_ok :
    block config rows b = .ok out ↔
      ∃ ops cs front, RowOp.compile (some b.aliasName) b.operations = .ok ops ∧
        Reduction.compile config (some b.aliasName) b.operations = .ok cs ∧
        RowStep.pass (blockRow config b.aliasName ops) rows = .ok front ∧
        reduceOwn config b cs front = .ok out := by
  simp only [block_eq, bind_eq_ok, exists_and_left]

theorem comesFrom_of_runAll {cs : List Reduction} {aliasName : String} {reduced : List Row}
    (h : Reduction.runAll cs (mode config (some aliasName)) config.emptyGroups rows =
      .ok reduced) : ∀ r ∈ reduced, r.comesFrom aliasName = true := fun _ member =>
  Row.comesFrom_iff.2 ⟨aliasName, Reduction.origin_of_runAll h member, sameIgnoringCase_refl _⟩

theorem filter_of_reduceOwn {cs : List Reduction} (h : reduceOwn config b cs rows = .ok out) :
    out.filter (fun r => !r.comesFrom b.aliasName) =
        rows.filter (fun r => !r.comesFrom b.aliasName) ∧
      reduceOwn config b cs (rows.filter (Row.comesFrom b.aliasName)) =
        .ok (out.filter (Row.comesFrom b.aliasName)) := by
  unfold reduceOwn at h ⊢
  split at h
  next none =>
    cases h
    exact ⟨rfl, if_pos none⟩
  next some =>
    obtain ⟨reduced, ran, rfl⟩ := map_eq_ok.1 h
    have own := comesFrom_of_runAll ran
    have noOther : reduced.filter (fun r => !r.comesFrom b.aliasName) = [] := by
      simpa using own
    have allOwn : reduced.filter (Row.comesFrom b.aliasName) = reduced :=
      List.filter_eq_self.2 own
    refine ⟨?_, ?_⟩
    · rw [List.filter_append, noOther, List.append_nil, List.filter_filter]
      simp only [Bool.and_self]
    · rw [if_neg some, List.filter_filter, List.filter_filter, List.filter_append,
        List.filter_filter, allOwn]
      simp [ran, Except.map]

theorem exists_reduceOwn {cs : List Reduction} {own : List Row}
    (h : reduceOwn config b cs (rows.filter (Row.comesFrom b.aliasName)) = .ok own) :
    ∃ out, reduceOwn config b cs rows = .ok out := by
  unfold reduceOwn at h ⊢
  split at h
  next none => exact ⟨rows, if_pos none⟩
  next some =>
    rw [if_neg some]
    obtain ⟨reduced, ran, _⟩ := map_eq_ok.1 h
    rw [List.filter_filter] at ran
    simp only [Bool.and_self] at ran
    exact ⟨_, map_eq_ok.2 ⟨reduced, ran, rfl⟩⟩

/-- A block leaves the rows of other aliases as they are, and does to the rows of its alias what it
does to them by themselves. -/
theorem filter_of_block (h : block config rows b = .ok out) :
    out.filter (fun r => !r.comesFrom b.aliasName) =
        rows.filter (fun r => !r.comesFrom b.aliasName) ∧
      block config (rows.filter (Row.comesFrom b.aliasName)) b =
        .ok (out.filter (Row.comesFrom b.aliasName)) := by
  obtain ⟨ops, cs, front, compiled, compiledAggregates, passed, reduced⟩ := block_eq_ok.1 h
  obtain ⟨others, own⟩ := (only_blockRow config b.aliasName ops).filter_of_pass passed
  obtain ⟨others', own'⟩ := filter_of_reduceOwn reduced
  exact ⟨others'.trans others,
    block_eq_ok.2 ⟨ops, cs, _, compiled, compiledAggregates, own, own'⟩⟩

theorem exists_block {own : List Row}
    (h : block config (rows.filter (Row.comesFrom b.aliasName)) b = .ok own) :
    ∃ out, block config rows b = .ok out := by
  obtain ⟨ops, cs, front, compiled, compiledAggregates, passed, reduced⟩ := block_eq_ok.1 h
  have only := only_blockRow config b.aliasName ops
  obtain ⟨kept, passed'⟩ := only.exists_pass passed
  have own := (only.filter_of_pass passed').2
  rw [passed] at own
  cases own
  obtain ⟨out, reduced'⟩ := exists_reduceOwn reduced
  exact ⟨out, block_eq_ok.2 ⟨ops, cs, kept, compiled, compiledAggregates, passed', reduced'⟩⟩

/-! ## Blocks without aggregates -/

theorem compile_of_plain (config : Config) (scope : Option String) {ops : List Operation}
    (plain : ∀ op ∈ ops, op.isAggregate = false) :
    Reduction.compile config scope ops = .ok [] := by
  have none : Aggregate.compileAll scope ops = .ok [] := by
    induction ops with
    | nil => rfl
    | cons op ops ih =>
        obtain ⟨first, later⟩ := List.forall_mem_cons.1 plain
        cases op with
        | map | choose | filter => exact ih later
        | aggregate => simp [Operation.isAggregate] at first
  rw [Reduction.compile, none]
  cases config.shape <;> rfl

theorem block_eq_ok_of_plain {b : Block} (plain : b.Plain) :
    block config rows b = .ok out ↔
      ∃ ops, RowOp.compile (some b.aliasName) b.operations = .ok ops ∧
        RowStep.pass (blockRow config b.aliasName ops) rows = .ok out := by
  rw [block_eq_ok, compile_of_plain config _ plain]
  constructor
  · rintro ⟨ops, cs, front, compiled, compiledAggregates, passed, reduced⟩
    cases compiledAggregates
    cases reduced
    exact ⟨ops, compiled, passed⟩
  · rintro ⟨ops, compiled, passed⟩
    exact ⟨ops, [], out, compiled, rfl, passed, rfl⟩

end Run

end RowPipeline
