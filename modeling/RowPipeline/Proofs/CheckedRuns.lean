import RowPipeline.Proofs.RowTrace

/-! # Runs of a checked definition

A check walks through a definition with the names of columns alone, a run walks through it with the
rows. The invariant that ties the two walks together is that the known columns are those of the row
at hand; every operation on rows keeps it.
-/

namespace RowPipeline

open Outcome Text Name

/-- Names under which a check and a run cannot part ways: columns that differ in case alone are
spelled alike, and both foldings of case agree on the columns and on the names that are sought. -/
structure Name.Consistent (columns sought : List String) : Prop where
  alike : SpelledAlike columns
  agree : CaseFoldsAgree (columns ++ sought)

/-- The columns are filed under their names and are among the given ones. -/
structure Registry.Within (columns : List String) (known : Registry) : Prop where
  keyed : known.Keyed
  sub : known.names ⊆ columns

/-- The known columns are those of the row. -/
def Registry.Describes (known : Registry) (r : Row) : Prop :=
  ∀ column, column ∈ r.columns ↔ column ∈ known.names

theorem Registry.Keyed.mem_names_of_resolve {known : Registry} (keyed : known.Keyed)
    {scope : Option String} {c : ColumnRef} {column : KnownColumn}
    (found : known.resolve scope c = .ok column) : column.name ∈ known.names :=
  List.mem_map_of_mem (keyed.mem_entries_of_resolve found)

section Walks

variable {columns sought : List String}

namespace Name.Consistent

theorem eq_of_lower_eq (consistent : Consistent columns sought) {x y : String} (hx : x ∈ columns)
    (hy : y ∈ columns) (h : lower x = lower y) : x = y :=
  consistent.alike x hx y hy <|
    (consistent.agree x (List.mem_append_left _ hx) y (List.mem_append_left _ hy)).1 h

theorem alike_of_within (consistent : Consistent columns sought) {known : Registry}
    (within : known.Within columns) {name : String} (inPlay : name ∈ columns) :
    ∀ c ∈ known.names, lower c = lower name → c = name :=
  fun _ member same => consistent.eq_of_lower_eq (within.sub member) inPlay same

theorem resolve_of_known (consistent : Consistent columns sought) {known : Registry} {r : Row}
    (within : known.Within columns) (sub : r.columns ⊆ known.names) {c : ColumnRef}
    (written : c.written ∈ sought) {column : KnownColumn}
    (found : known.resolve none c = .ok column) (present : column.name ∈ r.columns) :
    r.resolve none c = .ok column.name := by
  refine Row.resolve_of_known within.keyed (consistent.alike.subset within.sub) sub
    (consistent.agree.subset ?_) found present
  intro name member
  simp only [inScope, List.mem_cons] at member
  rcases member with rfl | rfl | member
  · exact List.mem_append_right _ written
  · exact List.mem_append_right _ written
  · exact List.mem_append_left _ (within.sub member)

end Name.Consistent

theorem Registry.Within.register {known : Registry} (within : known.Within columns) {name : String}
    (inPlay : name ∈ columns) (type : Option ColumnType) :
    (known.register name type).Within columns := by
  refine ⟨within.keyed.register name type, fun column member => ?_⟩
  rcases mem_names_register.1 member with member | ⟨rfl, _⟩
  · exact within.sub member
  · exact inPlay

theorem Registry.Within.registerNew {known : Registry} (within : known.Within columns)
    {name : String} (inPlay : name ∈ columns) : (known.registerNew name).Within columns := by
  unfold Registry.registerNew
  split
  · exact within
  · exact within.register inPlay none

namespace Check

variable {scope : Option String}

theorem within_registered {known : Registry} (within : known.Within columns) {op : Operation}
    (inPlay : Operation.targetNames scope [op] ⊆ columns) :
    (registered scope known op).Within columns := by
  unfold registered
  split
  next target written =>
    exact within.register (inPlay (by simp [Operation.targetNames, written])) _
  next => exact within

theorem mem_names_registered (consistent : Consistent columns sought) {known : Registry}
    (within : known.Within columns) {op : Operation}
    (inPlay : Operation.targetNames scope [op] ⊆ columns) {column : String} :
    column ∈ (registered scope known op).names ↔
      column ∈ Operation.targetNames scope [op] ∨ column ∈ known.names := by
  unfold registered
  split
  next target written =>
    have own : Name.inScope scope target.column ∈ columns :=
      inPlay (by simp [Operation.targetNames, written])
    rw [Registry.mem_names_register_of_alike within.keyed
      (consistent.alike_of_within within own)]
    simp [Operation.targetNames, written]
  next silent => simp [Operation.targetNames, silent]

/-- After a walk the targets of its operations are known on top of what was known before. -/
theorem mem_names_of_walk (consistent : Consistent columns sought) {ops : List Operation}
    {p q : Progress} (within : p.registry.Within columns)
    (inPlay : Operation.targetNames scope ops ⊆ columns)
    (walk : ops.foldlM (operation scope) p = .ok q) {column : String} :
    column ∈ q.registry.names ↔
      column ∈ Operation.targetNames scope ops ∨ column ∈ p.registry.names := by
  induction ops generalizing p with
  | nil =>
      simp only [List.foldlM_nil, pure_eq_ok] at walk
      subst walk
      simp [Operation.targetNames]
  | cons op ops ih =>
      obtain ⟨m, step, rest⟩ := bind_eq_ok.1 walk
      rw [Operation.targetNames_cons] at inPlay ⊢
      obtain ⟨own, later⟩ := List.append_subset.1 inPlay
      have known := (operation_ok step).2
      have within' : m.registry.Within columns := known ▸ within_registered within own
      rw [ih within' later rest, known, mem_names_registered consistent within own,
        List.mem_append, or_assoc, or_left_comm]

theorem within_of_walk {ops : List Operation} {p q : Progress}
    (within : p.registry.Within columns) (inPlay : Operation.targetNames scope ops ⊆ columns)
    (walk : ops.foldlM (operation scope) p = .ok q) : q.registry.Within columns := by
  refine foldlM_invariant (fun p => p.registry.Within columns) within
    (fun p op q member within step => ?_) walk
  rw [(operation_ok step).2]
  refine within_registered within fun name own => inPlay ?_
  simp only [Operation.targetNames, List.mem_filterMap, List.mem_singleton] at own ⊢
  obtain ⟨_, rfl, own⟩ := own
  exact ⟨_, member, own⟩

theorem contains_registered {known : Registry} {op : Operation} {key : String} :
    (registered scope known op).contains key = true ↔
      (∃ name ∈ Operation.targetNames scope [op], lower key = lower name) ∨
        known.contains key = true := by
  unfold registered
  split
  next target written => simp [Registry.contains_register, Operation.targetNames, written]
  next silent => simp [Operation.targetNames, silent]

theorem contains_of_walk {ops : List Operation} {p q : Progress}
    (walk : ops.foldlM (operation scope) p = .ok q) {key : String} :
    q.registry.contains key = true ↔
      (∃ name ∈ Operation.targetNames scope ops, lower key = lower name) ∨
        p.registry.contains key = true := by
  induction ops generalizing p with
  | nil =>
      simp only [List.foldlM_nil, pure_eq_ok] at walk
      subst walk
      simp [Operation.targetNames]
  | cons op ops ih =>
      obtain ⟨m, step, rest⟩ := bind_eq_ok.1 walk
      rw [ih rest, (operation_ok step).2, contains_registered,
        Operation.targetNames_cons scope op ops]
      simp only [List.mem_append, or_and_right, exists_or]
      rw [or_left_comm, or_assoc]

end Check

/-! ## Operations on rows -/

/-- A step of the walk fails only on account of values, and leaves a row with the columns that are
known after the step. -/
theorem RowAction.run_of_checked (consistent : Consistent columns sought) {known : Registry}
    (within : known.Within columns) {op : Operation}
    (inPlay : Operation.targetNames none [op] ⊆ columns)
    (written : ∀ c ∈ op.references, c.written ∈ sought)
    (checked : known.checkBody none op = .ok ()) {action : RowAction}
    (compiled : RowAction.compile none op = .ok (some action)) {mode : EvalMode}
    (unscoped : mode.scope = none) {r : Row} (describes : known.Describes r) :
    (∀ e, action.run mode r = .error e → e.kind.ofValues = true) ∧
      ∀ r', action.run mode r = .ok (some r') → (Check.registered none known op).Describes r' := by
  have names := (RowAction.compile_some compiled).2.1
  refine ⟨fun e failed => ?_, fun r' kept column => ?_⟩
  · rcases RowAction.run_error failed with ofValues | ⟨c, member, failed⟩
    · exact ofValues
    · rw [names] at member
      obtain ⟨column, resolved⟩ := (Registry.checkBody_ok checked).2 c member
      have present : column.name ∈ r.columns :=
        (describes _).2 (within.keyed.mem_names_of_resolve resolved)
      have found := consistent.resolve_of_known within (fun c own => (describes c).1 own)
        (written c member) resolved present
      rw [unscoped, Row.lookup_eq_error_iff, found] at failed
      cases failed
  · rw [Check.mem_names_registered consistent within inPlay, ← describes column]
    exact RowAction.mem_columns_of_run compiled kept

/-- Operations that have passed the check fail on a row with the known columns only on account of
values, and leave a row with the columns that are known at the end of the check. -/
theorem RowOp.onRow_of_checked (consistent : Consistent columns sought) {ops : List Operation}
    {p q : Check.Progress} (within : p.registry.Within columns)
    (inPlay : Operation.targetNames none ops ⊆ columns)
    (written : Operation.namesSought ops ⊆ sought)
    (onRows : ∀ op ∈ ops, op.isAggregate = false)
    (walk : ops.foldlM (Check.operation none) p = .ok q) {rowOps : List RowOp}
    (compiled : RowOp.compile none ops = .ok rowOps) {mode : EvalMode}
    (unscoped : mode.scope = none) {r : Row} (describes : p.registry.Describes r) :
    (∀ e, RowOp.onRow mode rowOps r = .error e → e.cause.kind.ofValues = true) ∧
      ∀ r', RowOp.onRow mode rowOps r = .ok (some r') → q.registry.Describes r' := by
  -- Both walks take one step; that the known columns are those of the row holds again after it.
  induction ops generalizing p rowOps r with
  | nil =>
      cases compiled
      simp only [List.foldlM_nil, pure_eq_ok] at walk
      subst walk
      refine ⟨fun e failed => (by cases failed), fun r' kept => ?_⟩
      cases kept
      exact describes
  | cons op ops ih =>
      obtain ⟨m, step, rest⟩ := bind_eq_ok.1 walk
      obtain ⟨checked, known⟩ := Check.operation_ok step
      rw [Operation.targetNames_cons] at inPlay
      obtain ⟨own, later⟩ := List.append_subset.1 inPlay
      simp only [Operation.namesSought, List.flatMap_cons, List.map_append,
        List.append_subset] at written
      rcases RowOp.compile_cons compiled with ⟨aggregate, _⟩ | ⟨action, tail, head, others, rfl⟩
      · simp [onRows op List.mem_cons_self] at aggregate
      · obtain ⟨failure, kept⟩ := RowAction.run_of_checked consistent within own
          (fun c member => written.1 (List.mem_map_of_mem member)) checked head unscoped describes
        have following : ∀ r', action.run mode r = .ok (some r') →
            (∀ e, RowOp.onRow mode tail r' = .error e → e.cause.kind.ofValues = true) ∧
              ∀ s, RowOp.onRow mode tail r' = .ok (some s) → q.registry.Describes s :=
          fun r' ran => ih (known ▸ Check.within_registered within own) later written.2
            (fun op member => onRows op (List.mem_cons_of_mem _ member)) rest others
            (known ▸ kept r' ran)
        refine ⟨fun e failed => ?_, fun s reached => ?_⟩
        · rcases RowOp.onRow_cons failed with ⟨cause, ran, h⟩ | ⟨_, h⟩ | ⟨r', ran, h⟩
          · cases h
            exact failure cause ran
          · cases h
          · exact (following r' ran).1 e h
        · rcases RowOp.onRow_cons reached with ⟨cause, _, h⟩ | ⟨_, h⟩ | ⟨r', ran, h⟩
          · cases h
          · cases h
          · exact (following r' ran).2 s h

/-! ## Before the first operation -/

theorem Registry.mem_names_foldl_registerNew (consistent : Consistent columns sought)
    {names : List String} (inPlay : names ⊆ columns) {known : Registry}
    (within : known.Within columns) :
    (names.foldl registerNew known).Within columns ∧
      ∀ column, column ∈ (names.foldl registerNew known).names ↔
        column ∈ names ∨ column ∈ known.names := by
  induction names generalizing known with
  | nil => exact ⟨within, by simp⟩
  | cons name names ih =>
      obtain ⟨own, later⟩ := List.cons_subset.1 inPlay
      have added : ∀ column, column ∈ (known.registerNew name).names ↔
          column = name ∨ column ∈ known.names := fun column =>
        mem_names_registerNew_of_alike within.keyed (consistent.alike_of_within within own)
      obtain ⟨inside, all⟩ := ih later (within.registerNew own)
      refine ⟨inside, fun column => ?_⟩
      rw [List.foldl_cons, all, added, List.mem_cons, or_assoc, or_left_comm]

def Source.declaredColumns (s : Source) : List String :=
  (s.columns.getD []).map fun c => Name.qualify s.aliasName c.name

theorem Check.within_declared {sources : List Source}
    (inPlay : ∀ s ∈ sources, s.declaredColumns ⊆ columns) :
    (Check.declared sources).Within columns := by
  have none : Registry.empty.Within columns :=
    ⟨Registry.keyed_empty, fun _ member => by cases member⟩
  refine List.foldlRecOn sources registerDeclared none fun known within s own => ?_
  refine List.foldlRecOn (s.columns.getD []) _ within fun known within c member => ?_
  exact within.register (inPlay s own (List.mem_map_of_mem member)) c.type

theorem Run.mem_names_knownColumns (consistent : Consistent columns sought)
    {sources : List Source} {batches : List Batch}
    (inPlay : batches.flatMap Batch.columns ⊆ columns)
    (declared : ∀ s ∈ sources, s.declaredColumns ⊆ batches.flatMap Batch.columns) :
    (knownColumns sources batches).Within columns ∧
      ∀ column, column ∈ (knownColumns sources batches).names ↔
        column ∈ batches.flatMap Batch.columns := by
  have start := Check.within_declared declared
  obtain ⟨within, all⟩ := Registry.mem_names_foldl_registerNew consistent inPlay
    ⟨start.keyed, List.Subset.trans start.sub inPlay⟩
  refine ⟨within, fun column => (all column).trans ?_⟩
  exact or_iff_left_of_imp fun member => start.sub member

end Walks

end RowPipeline
