import RowPipeline.Proofs.Failure
import RowPipeline.Proofs.Stream

/-! # What a passed check says of operations

An operation that passes its check can be compiled, and every name in it stands for a known column.
Afterwards its target is known as well, and nothing else is.
-/

namespace RowPipeline

open Outcome

/-- The columns that the text of an expression names; none if it cannot be read. -/
def Expr.columnsOf (text : String) : List ColumnRef :=
  match Expr.parse text with
  | .ok e => e.columns
  | .error _ => []

namespace Operation

/-- The texts that are read as expressions. -/
def expressions : Operation → List String
  | map e _ => [e]
  | choose condition whenTrue whenFalse _ => [condition, whenTrue, whenFalse]
  | filter condition => [condition]
  | aggregate _ e _ _ => [e]

def groupColumns : Operation → List ColumnRef
  | aggregate _ _ groupBy _ => groupBy.map fun column => .ofName (Text.trim column)
  | map .. | choose .. | filter _ => []

def references (op : Operation) : List ColumnRef :=
  op.expressions.flatMap Expr.columnsOf ++ op.groupColumns

def onRows (ops : List Operation) : List Operation :=
  ops.filter fun op => !op.isAggregate

def aggregates (ops : List Operation) : List Operation :=
  ops.filter isAggregate

/-- The columns that the operations write, under the alias of the scope. -/
def targetNames (scope : Option String) (ops : List Operation) : List String :=
  ops.filterMap fun op => op.target?.map fun target => Name.inScope scope target.column

theorem targetNames_append (scope : Option String) (ops ops' : List Operation) :
    targetNames scope (ops ++ ops') = targetNames scope ops ++ targetNames scope ops' :=
  List.filterMap_append

theorem targetNames_cons (scope : Option String) (op : Operation) (ops : List Operation) :
    targetNames scope (op :: ops) = targetNames scope [op] ++ targetNames scope ops :=
  targetNames_append scope [op] ops

theorem onRows_of_plain {ops : List Operation} (plain : ∀ op ∈ ops, op.isAggregate = false) :
    onRows ops = ops :=
  List.filter_eq_self.2 fun op member => by simp [plain op member]

theorem targetNames_onRows_subset (scope : Option String) (ops : List Operation) :
    targetNames scope (onRows ops) ⊆ targetNames scope ops :=
  (List.filter_sublist.filterMap _).subset

/-- The names by which the operations seek columns. -/
def namesSought (ops : List Operation) : List String :=
  (ops.flatMap references).map ColumnRef.written

/-- The expressions can be read, and the aggregate function, if there is one, is known. -/
structure Readable (op : Operation) : Prop where
  expressions : ∀ text ∈ op.expressions, ∃ e, Expr.parse text = .ok e
  function : ∀ name e groupBy target, op = .aggregate name e groupBy target →
    ∃ f, AggregateFunction.ofName? name = some f

end Operation

namespace Registry

theorem checkColumn_ok {r : Registry} {scope : Option String} {needsBoolean : Bool}
    {c : ColumnRef} (h : r.checkColumn scope needsBoolean c = .ok ()) :
    ∃ known, r.resolve scope c = .ok known := by
  obtain ⟨known, resolved, _⟩ := bind_eq_ok.1 h
  exact ⟨known, resolved⟩

theorem checkExpr_ok {r : Registry} {scope : Option String} {isCondition : Bool} {text : String}
    {e : Expr} (h : r.checkExpr scope isCondition text = .ok e) :
    Expr.parse text = .ok e ∧
      ∀ c ∈ Expr.columnsOf text, ∃ known, r.resolve scope c = .ok known := by
  obtain ⟨e', parsed, h⟩ := bind_eq_ok.1 h
  obtain ⟨_, checked, h⟩ := bind_eq_ok.1 h
  cases h
  have parsed := mapError_eq_ok.1 parsed
  refine ⟨parsed, fun c member => checkColumn_ok (forM_eq_ok.1 checked c ?_)⟩
  simpa [Expr.columnsOf, parsed] using member

/-- What an operation computes passes its check only if it can be compiled and every name in it
stands for a known column. -/
theorem checkBody_ok {r : Registry} {scope : Option String} {op : Operation}
    (h : r.checkBody scope op = .ok ()) :
    op.Readable ∧ ∀ c ∈ op.references, ∃ known, r.resolve scope c = .ok known := by
  cases op with
  | map e target =>
      obtain ⟨_, checked, _⟩ := bind_eq_ok.1 h
      obtain ⟨parsed, resolved⟩ := checkExpr_ok checked
      refine ⟨⟨?_, by simp⟩, ?_⟩
      · simpa [Operation.expressions] using ⟨_, parsed⟩
      · simpa [Operation.references, Operation.expressions, Operation.groupColumns] using resolved
  | choose condition whenTrue whenFalse target =>
      obtain ⟨_, first, h⟩ := bind_eq_ok.1 h
      obtain ⟨_, second, h⟩ := bind_eq_ok.1 h
      obtain ⟨_, third, _⟩ := bind_eq_ok.1 h
      obtain ⟨parsed, resolved⟩ := checkExpr_ok first
      obtain ⟨parsed', resolved'⟩ := checkExpr_ok second
      obtain ⟨parsed'', resolved''⟩ := checkExpr_ok third
      refine ⟨⟨?_, by simp⟩, ?_⟩
      · simpa [Operation.expressions] using ⟨⟨_, parsed⟩, ⟨_, parsed'⟩, ⟨_, parsed''⟩⟩
      · simp only [Operation.references, Operation.expressions, Operation.groupColumns,
          List.flatMap_cons, List.flatMap_nil, List.append_nil, List.mem_append]
        rintro c (member | member | member)
        · exact resolved c member
        · exact resolved' c member
        · exact resolved'' c member
  | filter condition =>
      obtain ⟨_, checked, _⟩ := bind_eq_ok.1 h
      obtain ⟨parsed, resolved⟩ := checkExpr_ok checked
      refine ⟨⟨?_, by simp⟩, ?_⟩
      · simpa [Operation.expressions] using ⟨_, parsed⟩
      · simpa [Operation.references, Operation.expressions, Operation.groupColumns] using resolved
  | aggregate function e groupBy target =>
      simp only [checkBody] at h
      split at h
      next => cases h
      next f known =>
        obtain ⟨_, checked, h⟩ := bind_eq_ok.1 h
        obtain ⟨parsed, resolved⟩ := checkExpr_ok checked
        have groups : groupBy.forM (fun column => do
            let _ ← r.resolve scope (.ofName (Text.trim column))) = .ok () := by
          split at h
          · obtain ⟨_, _, h⟩ := bind_eq_ok.1 h
            exact h
          · exact h
        refine ⟨⟨?_, ?_⟩, ?_⟩
        · simpa [Operation.expressions] using ⟨_, parsed⟩
        · rintro _ _ _ _ ⟨⟩
          exact ⟨f, known⟩
        · simp only [Operation.references, Operation.expressions, Operation.groupColumns,
            List.flatMap_cons, List.flatMap_nil, List.append_nil, List.mem_append, List.mem_map]
          rintro c (member | ⟨column, member, rfl⟩)
          · exact resolved c member
          · obtain ⟨known, resolved, _⟩ := bind_eq_ok.1 (forM_eq_ok.1 groups column member)
            exact ⟨known, resolved⟩

end Registry

namespace Check

/-- What is known after an operation: its target is known under the alias of the scope. -/
def registered (scope : Option String) (r : Registry) (op : Operation) : Registry :=
  match op.target? with
  | some target => r.register (Name.inScope scope target.column) target.type
  | none => r

theorem operation_ok {scope : Option String} {p q : Progress} {op : Operation}
    (h : operation scope p op = .ok q) :
    p.registry.checkBody scope op = .ok () ∧ q.registry = registered scope p.registry op := by
  unfold operation at h
  unfold registered
  cases target : op.target? with
  | none =>
      simp only [target] at h ⊢
      obtain ⟨_, body, h⟩ := bind_eq_ok.1 h
      cases h
      exact ⟨body, rfl⟩
  | some t =>
      simp only [target] at h ⊢
      split at h
      next => cases h
      next =>
        split at h
        next => cases h
        next =>
          obtain ⟨_, body, h⟩ := bind_eq_ok.1 h
          cases h
          exact ⟨body, rfl⟩

theorem keyed_registered {scope : Option String} {r : Registry} (keyed : r.Keyed)
    (op : Operation) : (registered scope r op).Keyed := by
  unfold registered
  split
  · exact keyed.register _ _
  · exact keyed

theorem keyed_of_walk {scope : Option String} {ops : List Operation} {p q : Progress}
    (keyed : p.registry.Keyed) (h : ops.foldlM (operation scope) p = .ok q) :
    q.registry.Keyed := by
  refine foldlM_invariant (fun p => p.registry.Keyed) keyed (fun p op q _ keyed step => ?_) h
  rw [(operation_ok step).2]
  exact keyed_registered keyed op

/-- Every operation of a list that passes has passed with the columns known before it. -/
theorem walk_split {scope : Option String} {before after : List Operation} {op : Operation}
    {p q : Progress} (h : (before ++ op :: after).foldlM (operation scope) p = .ok q) :
    ∃ m, before.foldlM (operation scope) p = .ok m ∧
      m.registry.checkBody scope op = .ok () := by
  obtain ⟨m, reached, rest⟩ := foldlM_append_eq_ok.1 h
  obtain ⟨n, step, _⟩ := bind_eq_ok.1 rest
  exact ⟨m, reached, (operation_ok step).1⟩

theorem readable_of_walk {scope : Option String} {ops : List Operation} {p q : Progress}
    (h : ops.foldlM (operation scope) p = .ok q) : ∀ op ∈ ops, op.Readable := by
  intro op member
  obtain ⟨before, after, rfl⟩ := List.append_of_mem member
  obtain ⟨m, _, body⟩ := walk_split h
  exact (Registry.checkBody_ok body).1

theorem operations_eq_ok {scope : Option String} {r known : Registry} {ops : List Operation} :
    operations scope r ops = .ok known ↔
      ∃ p, ops.foldlM (operation scope) ⟨r, []⟩ = .ok p ∧ p.registry = known := by
  unfold operations
  rw [bind_eq_ok]
  simp only [pure_eq_ok]

theorem steps_eq_ok {p : Pipeline} {sources : List Source} {t : Transform}
    (h : steps p = .ok (sources, t)) : p.extract = some sources ∧ p.transform = some t := by
  unfold steps at h
  split at h
  next => cases h
  next => cases h
  next => cases h
  next extracts transforms _ =>
    cases h
    exact ⟨extracts, transforms⟩

end Check

namespace Run

theorem checkBatches_ok {p : Pipeline} {sources : List Source} {t : Transform}
    {batches : List Batch} {known : Registry} (extracts : p.extract = some sources)
    (transforms : p.transform = some t) (checked : checkBatches p batches = .ok known) :
    ∃ start, t.blocks.foldlM (Check.block sources) (knownColumns sources batches) = .ok start ∧
      Check.operations none start t.operations = .ok known := by
  simp only [checkBatches, extracts] at checked
  obtain ⟨⟨sources', t'⟩, steps, checked⟩ := bind_eq_ok.1 checked
  obtain ⟨extracts', transforms'⟩ := Check.steps_eq_ok steps
  obtain rfl : sources' = sources := Option.some.inj (extracts'.symm.trans extracts)
  obtain rfl : t' = t := Option.some.inj (transforms'.symm.trans transforms)
  exact bind_eq_ok.1 checked

theorem ofBatches_of_checked {config : Config} {p : Pipeline} {batches : List Batch}
    {known : Registry} (checked : checkBatches p batches = .ok known) :
    ofBatches config p batches = (transform config p batches).mapError .operation := by
  unfold ofBatches
  rw [checked]
  split <;> rfl

end Run

/-! ## Compilation -/

theorem Expr.compile_eq_ok {text : String} {e : Expr} :
    Expr.compile text = .ok e ↔ Expr.parse text = .ok e :=
  mapError_eq_ok

theorem Expr.columnsOf_of_compile {text : String} {e : Expr} (h : Expr.compile text = .ok e) :
    Expr.columnsOf text = e.columns := by
  rw [Expr.columnsOf, Expr.compile_eq_ok.1 h]

namespace RowAction

theorem compile_of_readable {scope : Option String} {op : Operation} (readable : op.Readable) :
    ∃ action?, compile scope op = .ok action? := by
  have compiled : ∀ text ∈ op.expressions, ∃ e, Expr.compile text = .ok e := fun text member =>
    (readable.expressions text member).imp fun e parsed => Expr.compile_eq_ok.2 parsed
  cases op with
  | map e target =>
      obtain ⟨e', h⟩ := compiled e (by simp [Operation.expressions])
      exact ⟨_, by simp only [compile, h]; rfl⟩
  | choose condition whenTrue whenFalse target =>
      obtain ⟨c, hc⟩ := compiled condition (by simp [Operation.expressions])
      obtain ⟨t, ht⟩ := compiled whenTrue (by simp [Operation.expressions])
      obtain ⟨f, hf⟩ := compiled whenFalse (by simp [Operation.expressions])
      exact ⟨_, by simp only [compile, hc, ht, hf]; rfl⟩
  | filter condition =>
      obtain ⟨c, h⟩ := compiled condition (by simp [Operation.expressions])
      exact ⟨_, by simp only [compile, h]; rfl⟩
  | aggregate function e groupBy target => exact ⟨none, rfl⟩

theorem compile_some {scope : Option String} {op : Operation} {action : RowAction}
    (h : compile scope op = .ok (some action)) :
    op.isAggregate = false ∧ action.columns = op.references ∧
      action.target? = op.target?.map (Target.inScope scope) := by
  cases op with
  | map e target =>
      obtain ⟨e', he, h⟩ := bind_eq_ok.1 h
      cases h
      refine ⟨rfl, ?_, rfl⟩
      simp [columns, Operation.references, Operation.expressions, Operation.groupColumns,
        Expr.columnsOf_of_compile he]
  | choose condition whenTrue whenFalse target =>
      obtain ⟨c, hc, h⟩ := bind_eq_ok.1 h
      obtain ⟨t, ht, h⟩ := bind_eq_ok.1 h
      obtain ⟨f, hf, h⟩ := bind_eq_ok.1 h
      cases h
      refine ⟨rfl, ?_, rfl⟩
      simp [columns, Operation.references, Operation.expressions, Operation.groupColumns,
        Expr.columnsOf_of_compile hc, Expr.columnsOf_of_compile ht, Expr.columnsOf_of_compile hf]
  | filter condition =>
      obtain ⟨c, hc, h⟩ := bind_eq_ok.1 h
      cases h
      refine ⟨rfl, ?_, rfl⟩
      simp [columns, Operation.references, Operation.expressions, Operation.groupColumns,
        Expr.columnsOf_of_compile hc]
  | aggregate function e groupBy target => cases h

theorem compile_none {scope : Option String} {op : Operation}
    (h : compile scope op = .ok none) : op.isAggregate = true := by
  cases op with
  | map e target =>
      obtain ⟨_, _, h⟩ := bind_eq_ok.1 h
      cases h
  | choose condition whenTrue whenFalse target =>
      obtain ⟨_, _, h⟩ := bind_eq_ok.1 h
      obtain ⟨_, _, h⟩ := bind_eq_ok.1 h
      obtain ⟨_, _, h⟩ := bind_eq_ok.1 h
      cases h
  | filter condition =>
      obtain ⟨_, _, h⟩ := bind_eq_ok.1 h
      cases h
  | aggregate function e groupBy target => rfl

end RowAction

namespace RowOp

theorem compile_of_readable {scope : Option String} {ops : List Operation}
    (readable : ∀ op ∈ ops, op.Readable) : ∃ rowOps, compile scope ops = .ok rowOps := by
  induction ops with
  | nil => exact ⟨[], rfl⟩
  | cons op ops ih =>
      obtain ⟨rest, hrest⟩ := ih fun op member => readable op (List.mem_cons_of_mem _ member)
      obtain ⟨action?, h⟩ : ∃ action?, RowAction.compile scope op = .ok action? :=
        RowAction.compile_of_readable (readable op List.mem_cons_self)
      cases action? with
      | none => exact ⟨rest, by simp only [compile, Operation.blame, h]; exact hrest⟩
      | some action => exact ⟨⟨action, op⟩ :: rest, by
          simp only [compile, Operation.blame, h, hrest]; rfl⟩

theorem compile_cons {scope : Option String} {op : Operation} {ops : List Operation}
    {rowOps : List RowOp} (h : compile scope (op :: ops) = .ok rowOps) :
    (op.isAggregate = true ∧ compile scope ops = .ok rowOps) ∨
      ∃ action rest, RowAction.compile scope op = .ok (some action) ∧
        compile scope ops = .ok rest ∧ rowOps = ⟨action, op⟩ :: rest := by
  obtain ⟨action?, head, h⟩ := bind_eq_ok.1 h
  have compiled := mapError_eq_ok.1 head
  cases action? with
  | none => exact .inl ⟨RowAction.compile_none compiled, h⟩
  | some action =>
      obtain ⟨rest, tail, h⟩ := bind_eq_ok.1 h
      cases h
      exact .inr ⟨action, rest, compiled, tail, rfl⟩

theorem compile_append_aggregates {scope : Option String} {ops aggregates : List Operation}
    (allAggregate : ∀ op ∈ aggregates, op.isAggregate = true) :
    compile scope (ops ++ aggregates) = compile scope ops := by
  induction ops with
  | nil =>
      induction aggregates with
      | nil => rfl
      | cons op aggregates ih =>
          have rest := ih fun op member => allAggregate op (List.mem_cons_of_mem _ member)
          cases op with
          | map | choose | filter => simp [Operation.isAggregate] at allAggregate
          | aggregate function e groupBy target => exact rest
  | cons op ops ih => simp only [List.cons_append, compile, ih]

theorem onRow_cons {mode : EvalMode} {op : RowOp} {ops : List RowOp} {r : Row}
    {result : Except OperationError (Option Row)} (h : onRow mode (op :: ops) r = result) :
    (∃ e, op.action.run mode r = .error e ∧ result = .error ⟨op.operation, e⟩) ∨
      (op.action.run mode r = .ok none ∧ result = .ok none) ∨
      ∃ r', op.action.run mode r = .ok (some r') ∧ onRow mode ops r' = result := by
  cases step : op.action.run mode r with
  | error e => exact .inl ⟨e, rfl, by rw [← h, onRow, step]; rfl⟩
  | ok kept =>
      cases kept with
      | none => exact .inr (.inl ⟨rfl, by rw [← h, onRow, step]; rfl⟩)
      | some r' => exact .inr (.inr ⟨r', rfl, by rw [← h, onRow, step]; rfl⟩)

end RowOp

namespace Aggregate

theorem compile_of_readable {scope : Option String} {op : Operation} (readable : op.Readable) :
    ∃ aggregate?, compile scope op = .ok aggregate? := by
  cases op with
  | map | choose | filter => exact ⟨none, rfl⟩
  | aggregate function expression groupBy target =>
      obtain ⟨f, hf⟩ := readable.function _ _ _ _ rfl
      obtain ⟨e, parsed⟩ := readable.expressions expression (by simp [Operation.expressions])
      exact ⟨_, by simp only [compile, hf, Expr.compile_eq_ok.2 parsed]; rfl⟩

/-- The aggregate of an operation in a scope: it has the function of the name, the expression of the
text, the group-by columns without blanks around them, and the target with its type, under the alias
of the scope. -/
inductive IsOf (scope : Option String) : Operation → Aggregate → Prop where
  | intro {name text : String} {groupBy : List String} {target : Target} {f : AggregateFunction}
    {e : Expr} (named : AggregateFunction.ofName? name = some f)
    (parsed : Expr.parse text = .ok e) :
    IsOf scope (.aggregate name text groupBy target) {
      function := f
      expression := e
      groupBy := groupBy.map fun column => .ofName (Text.trim column)
      target := ⟨Name.inScope scope target.column, target.type⟩
      operation := .aggregate name text groupBy target }

variable {scope : Option String} {op : Operation} {a : Aggregate}

theorem compile_eq_some_iff : compile scope op = .ok (some a) ↔ IsOf scope op a := by
  constructor
  · intro h
    cases op with
    | map | choose | filter => cases h
    | aggregate name text groupBy target =>
        simp only [compile] at h
        split at h
        next => cases h
        next f named =>
          obtain ⟨e, compiled, h⟩ := bind_eq_ok.1 h
          cases h
          exact .intro named (Expr.compile_eq_ok.1 compiled)
  · rintro ⟨named, parsed⟩
    simp only [compile, named, Expr.compile_eq_ok.2 parsed]
    rfl

theorem compile_eq_none_iff : compile scope op = .ok none ↔ op.isAggregate = false := by
  cases op with
  | map | choose | filter => exact ⟨fun _ => rfl, fun _ => rfl⟩
  | aggregate name text groupBy target =>
      refine ⟨fun h => ?_, nofun⟩
      simp only [compile] at h
      split at h
      next => cases h
      next =>
        obtain ⟨e, -, h⟩ := bind_eq_ok.1 h
        cases h

namespace IsOf

theorem isAggregate (h : IsOf scope op a) : op.isAggregate = true := by
  cases h
  rfl

theorem operation_eq (h : IsOf scope op a) : a.operation = op := by
  cases h
  rfl

theorem groupBy_eq (h : IsOf scope op a) : a.groupBy = op.groupColumns := by
  cases h
  rfl

theorem columns_eq (h : IsOf scope op a) : a.columns = op.references := by
  obtain ⟨_, parsed⟩ := h
  simp [columns, Operation.references, Operation.expressions, Operation.groupColumns,
    Expr.columnsOf, parsed]

theorem exists_target (h : IsOf scope op a) :
    ∃ target, op.target? = some target ∧
      a.target = ⟨Name.inScope scope target.column, target.type⟩ := by
  cases h
  exact ⟨_, rfl, rfl⟩

end IsOf

theorem compileAll_cons {ops : List Operation} {as : List Aggregate} :
    compileAll scope (op :: ops) = .ok as ↔
      (compile scope op = .ok none ∧ compileAll scope ops = .ok as) ∨
        ∃ a rest, compile scope op = .ok (some a) ∧ compileAll scope ops = .ok rest ∧
          as = a :: rest := by
  rw [compileAll, bind_eq_ok]
  simp only [Operation.blame, mapError_eq_ok]
  constructor
  · rintro ⟨_ | a, compiled, h⟩
    · exact .inl ⟨compiled, h⟩
    · obtain ⟨rest, tail, h⟩ := bind_eq_ok.1 h
      cases h
      exact .inr ⟨a, rest, compiled, tail, rfl⟩
  · rintro (⟨compiled, tail⟩ | ⟨a, rest, compiled, tail, rfl⟩)
    · exact ⟨none, compiled, tail⟩
    · exact ⟨some a, compiled, bind_eq_ok.2 ⟨rest, tail, rfl⟩⟩

theorem compileAll_eq_ok {ops : List Operation} {as : List Aggregate} :
    compileAll scope ops = .ok as ↔
      List.Forall₂ (IsOf scope) (Operation.aggregates ops) as := by
  induction ops generalizing as with
  | nil =>
      constructor
      · rintro ⟨⟩
        exact .nil
      · rintro ⟨⟩
        rfl
  | cons op ops ih =>
      rw [compileAll_cons]
      simp only [compile_eq_some_iff, compile_eq_none_iff, ih]
      cases kind : op.isAggregate with
      | false =>
          have skipped : Operation.aggregates (op :: ops) = Operation.aggregates ops :=
            List.filter_cons_of_neg (by simp [kind])
          have none : ∀ a, ¬ IsOf scope op a := fun a own => by
            simp [own.isAggregate] at kind
          simp [skipped, none]
      | true =>
          have taken : Operation.aggregates (op :: ops) = op :: Operation.aggregates ops :=
            List.filter_cons_of_pos kind
          simp [taken, List.forall₂_cons_left_iff]

theorem targetNames_of_forall₂ {ops : List Operation} {as : List Aggregate}
    (h : List.Forall₂ (IsOf scope) ops as) :
    as.map (·.target.column) = Operation.targetNames scope ops := by
  induction h with
  | nil => rfl
  | cons head _ ih =>
      obtain ⟨target, writes, own⟩ := head.exists_target
      rw [List.map_cons, ih, Operation.targetNames_cons]
      simp [Operation.targetNames, writes, own]

theorem targets_of_compileAll {ops : List Operation} {as : List Aggregate}
    (h : compileAll scope ops = .ok as) :
    as.map (·.target.column) = Operation.targetNames scope (Operation.aggregates ops) :=
  targetNames_of_forall₂ (compileAll_eq_ok.1 h)

theorem compileAll_of_readable {scope : Option String} {ops : List Operation}
    (readable : ∀ op ∈ ops, op.Readable) : ∃ as, compileAll scope ops = .ok as := by
  induction ops with
  | nil => exact ⟨[], rfl⟩
  | cons op ops ih =>
      obtain ⟨rest, hrest⟩ := ih fun op member => readable op (List.mem_cons_of_mem _ member)
      obtain ⟨aggregate?, h⟩ : ∃ aggregate?, compile scope op = .ok aggregate? :=
        compile_of_readable (readable op List.mem_cons_self)
      cases aggregate? with
      | none => exact ⟨rest, by simp only [compileAll, Operation.blame, h]; exact hrest⟩
      | some a => exact ⟨a :: rest, by
          simp only [compileAll, Operation.blame, h, hrest]; rfl⟩

theorem mem_compileAll {ops : List Operation} {as : List Aggregate}
    (h : compileAll scope ops = .ok as) (member : a ∈ as) : ∃ op ∈ ops, IsOf scope op a := by
  obtain ⟨op, listed, own⟩ := exists_of_forall₂ (compileAll_eq_ok.1 h).flip member
  exact ⟨op, List.mem_of_mem_filter listed, own⟩

end Aggregate

namespace Reduction

theorem mem_place {a b : Aggregate} {c : Reduction} {cs : List Reduction} (h : c ∈ place a cs)
    (member : b ∈ c.aggregates) : b = a ∨ ∃ c ∈ cs, b ∈ c.aggregates := by
  induction cs with
  | nil =>
      simp only [place, List.mem_singleton] at h
      subst h
      exact .inl (by simpa [aggregates] using member)
  | cons d ds ih =>
      simp only [place] at h
      split at h
      · rcases List.mem_cons.1 h with rfl | h
        · simp only [aggregates, List.mem_cons, List.mem_append, List.not_mem_nil,
            or_false] at member
          rcases member with first | other | added
          · exact .inr ⟨d, List.mem_cons_self, by simp [aggregates, first]⟩
          · exact .inr ⟨d, List.mem_cons_self, by simp [aggregates, other]⟩
          · exact .inl added
        · exact .inr ⟨c, List.mem_cons_of_mem _ h, member⟩
      · rcases List.mem_cons.1 h with rfl | h
        · exact .inr ⟨c, List.mem_cons_self, member⟩
        · rcases ih h with first | ⟨e, placed, member⟩
          · exact .inl first
          · exact .inr ⟨e, List.mem_cons_of_mem _ placed, member⟩

theorem mem_ofAggregates {shape : AggregateShape} {as : List Aggregate} {c : Reduction}
    (h : c ∈ ofAggregates shape as) {a : Aggregate} (member : a ∈ c.aggregates) : a ∈ as := by
  cases shape with
  | narrow =>
      obtain ⟨b, placed, rfl⟩ := List.mem_map.1 h
      have same : a = b := by simpa [aggregates] using member
      exact same ▸ placed
  | wide =>
      have placed : ∀ (bs : List Aggregate) (cs : List Reduction),
          c ∈ bs.foldl (fun cs b => place b cs) cs → a ∈ bs ∨ ∃ c ∈ cs, a ∈ c.aggregates := by
        intro bs
        induction bs with
        | nil => exact fun cs h => .inr ⟨c, h, member⟩
        | cons b bs ih =>
            intro cs h
            rcases ih _ h with later | ⟨d, placed, inside⟩
            · exact .inl (List.mem_cons_of_mem _ later)
            · rcases mem_place placed inside with rfl | earlier
              · exact .inl List.mem_cons_self
              · exact .inr earlier
      rcases placed as [] h with h | ⟨_, none, _⟩
      · exact h
      · simp at none

end Reduction

end RowPipeline
