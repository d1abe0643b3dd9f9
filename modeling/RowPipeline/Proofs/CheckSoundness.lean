import RowPipeline.Proofs.CheckedRuns

/-! # Soundness of the check

A definition without source blocks that passes its check runs to rows, or fails on account of the
values it meets: no name is left without a column, and nothing in the definition is unreadable. The
check is sound only under conditions on the names at hand and on the place of the aggregates, which
are stated here.
-/

namespace RowPipeline

open Outcome Name

/-! ## Aggregates behind the operations on rows -/

/-- No operation on rows comes behind an aggregate. -/
def Operation.AggregatesLast (ops : List Operation) : Prop :=
  ops.Pairwise fun op later => op.isAggregate = true → later.isAggregate = true

instance (ops : List Operation) : Decidable (Operation.AggregatesLast ops) :=
  inferInstanceAs (Decidable (ops.Pairwise _))

namespace Operation

theorem AggregatesLast.eq_append {ops : List Operation} (last : AggregatesLast ops) :
    ops = onRows ops ++ aggregates ops := by
  induction ops with
  | nil => rfl
  | cons op ops ih =>
      obtain ⟨first, rest⟩ := List.pairwise_cons.1 last
      cases kind : op.isAggregate with
      | false =>
          simp only [onRows, aggregates, kind, Bool.not_false, List.filter_cons_of_pos,
            List.filter_cons_of_neg, Bool.false_eq_true, not_false_eq_true, List.cons_append]
          rw [← onRows, ← aggregates, ← ih rest]
      | true =>
          have all : ∀ later ∈ ops, later.isAggregate = true :=
            fun later member => first later member kind
          have none : onRows (op :: ops) = [] := by
            simpa [onRows, kind] using all
          have every : aggregates (op :: ops) = op :: ops := by
            simpa [aggregates, kind] using all
          rw [none, every, List.nil_append]

theorem AggregatesLast.onRows_append {before after : List Operation} {op : Operation}
    (last : AggregatesLast (before ++ op :: after)) (kind : op.isAggregate = false) :
    onRows (before ++ op :: after) = before ++ op :: onRows after := by
  have early : ∀ first ∈ before, first.isAggregate = false := by
    intro first member
    have order := (List.pairwise_append.1 last).2.2 first member op List.mem_cons_self
    simpa [kind] using order
  rw [onRows, List.filter_append, ← onRows, onRows_of_plain early]
  simp [onRows, kind]

theorem namesSought_append (ops ops' : List Operation) :
    namesSought (ops ++ ops') = namesSought ops ++ namesSought ops' := by
  simp only [namesSought, List.flatMap_append, List.map_append]

end Operation

namespace Reduction

variable {columns sought : List String}

/-- Aggregates that have passed the check fail only on account of values, if every name in them
stands for a column that was known before the first of them. -/
theorem runAll_of_checked (consistent : Consistent columns sought) {ops : List Operation}
    {p q : Check.Progress} (within : p.registry.Within columns)
    (inPlay : Operation.targetNames none (Operation.aggregates ops) ⊆ columns)
    (written : Operation.namesSought (Operation.aggregates ops) ⊆ sought)
    (walk : (Operation.aggregates ops).foldlM (Check.operation none) p = .ok q)
    (visible : ∀ before op after m, Operation.aggregates ops = before ++ op :: after →
      before.foldlM (Check.operation none) p = .ok m → ∀ c ∈ op.references, ∀ column,
        m.registry.resolve none c = .ok column → column.name ∈ p.registry.names)
    {config : Config} {cs : List Reduction} (compiled : compile config none ops = .ok cs)
    {mode : EvalMode} (unscoped : mode.scope = none) {allowEmpty : Bool} {rows : List Row}
    (describes : ∀ r ∈ rows, p.registry.Describes r) {e : OperationError}
    (failed : runAll cs mode allowEmpty rows = .error e) : e.cause.kind.ofValues = true := by
  rcases exists_of_runAll_error compiled failed with ofValues | ⟨member, kind, r, own, fromRow⟩
  · exact ofValues
  generalize e.operation = op at member kind fromRow
  have member : op ∈ Operation.aggregates ops := List.mem_filter.2 ⟨member, kind⟩
  rcases fromRow with ofValues | ⟨name, named, failed⟩
  · exact ofValues
  obtain ⟨before, after, split⟩ := List.append_of_mem member
  rw [split] at walk inPlay
  obtain ⟨m, reached, body⟩ := Check.walk_split walk
  obtain ⟨column, resolved⟩ := (Registry.checkBody_ok body).2 name named
  rw [Operation.targetNames_append] at inPlay
  have inPlayBefore := (List.append_subset.1 inPlay).1
  have earlier : r.columns ⊆ m.registry.names := fun name present =>
    (Check.mem_names_of_walk consistent within inPlayBefore reached).2
      (.inr ((describes r own name).1 present))
  have present : column.name ∈ r.columns :=
    (describes r own _).2 (visible before op after m split reached name named column resolved)
  have sought : name.written ∈ sought :=
    written (List.mem_map_of_mem (List.mem_flatMap.2 ⟨op, member, named⟩))
  have found := consistent.resolve_of_known
    (Check.within_of_walk within inPlayBefore reached) earlier sought resolved present
  rw [unscoped, Row.lookup_eq_error_iff, found] at failed
  cases failed

end Reduction

namespace Run

/-- Nothing but an aggregate brings the column about. -/
def OnlyAggregated (batches : List Batch) (ops : List Operation) (column : String) : Prop :=
  column ∈ Operation.targetNames none (Operation.aggregates ops) ∧
    column ∉ batches.flatMap Batch.columns ∧
    column ∉ Operation.targetNames none (Operation.onRows ops)

instance (batches : List Batch) (ops : List Operation) (column : String) :
    Decidable (OnlyAggregated batches ops column) :=
  inferInstanceAs (Decidable (_ ∧ _ ∧ _))

/-- The batches and the operations on all rows suit each other and the sources. -/
structure Suited (sources : List Source) (ops : List Operation) (batches : List Batch) :
    Prop where
  /-- The columns of a batch are those of its rows. -/
  ofRows : ∀ b ∈ batches, b.IsOfRows
  /-- A declared column is a column of some batch, in the same spelling. -/
  declared : ∀ s ∈ sources, s.declaredColumns ⊆ batches.flatMap Batch.columns
  /-- No two columns or targets differ in case alone. -/
  alike : SpelledAlike (batches.flatMap Batch.columns ++ Operation.targetNames none ops)
  /-- Both foldings of case tell the same columns, targets and names apart. -/
  agree : CaseFoldsAgree (batches.flatMap Batch.columns ++ Operation.targetNames none ops ++
    Operation.namesSought ops)
  last : Operation.AggregatesLast ops
  /-- The check resolves no name to a column that aggregates alone bring about. -/
  visible : ∀ before op after known, ops = before ++ op :: after →
    Check.operations none (knownColumns sources batches) before = .ok known →
    ∀ c ∈ op.references, ∀ column, known.resolve none c = .ok column →
      ¬OnlyAggregated batches ops column.name

namespace Suited

variable {sources : List Source} {ops : List Operation} {batches : List Batch}

theorem consistent (suited : Suited sources ops batches) :
    Consistent (batches.flatMap Batch.columns ++ Operation.targetNames none ops)
      (Operation.namesSought ops) :=
  ⟨suited.alike, suited.agree⟩

/-- A check that passes goes through the operations on rows first, then through the aggregates. -/
theorem walk (suited : Suited sources ops batches) {known : Registry}
    (checked : Check.operations none (knownColumns sources batches) ops = .ok known) :
    ∃ p q, (Operation.onRows ops).foldlM (Check.operation none)
        ⟨knownColumns sources batches, []⟩ = .ok p ∧
      (Operation.aggregates ops).foldlM (Check.operation none) p = .ok q := by
  obtain ⟨q, all, _⟩ := Check.operations_eq_ok.1 checked
  rw [suited.last.eq_append] at all
  obtain ⟨p, first, second⟩ := foldlM_append_eq_ok.1 all
  exact ⟨p, q, first, second⟩

theorem inPlay (suited : Suited sources ops batches) :
    Operation.targetNames none (Operation.onRows ops) ⊆
        batches.flatMap Batch.columns ++ Operation.targetNames none ops ∧
      Operation.targetNames none (Operation.aggregates ops) ⊆
        batches.flatMap Batch.columns ++ Operation.targetNames none ops := by
  have split := congrArg (Operation.targetNames none) suited.last.eq_append
  rw [Operation.targetNames_append] at split
  rw [split, ← List.append_assoc]
  exact ⟨List.Subset.trans (List.subset_append_right _ _) (List.subset_append_left _ _),
    List.subset_append_right _ _⟩

theorem written (suited : Suited sources ops batches) :
    Operation.namesSought (Operation.onRows ops) ⊆ Operation.namesSought ops ∧
      Operation.namesSought (Operation.aggregates ops) ⊆ Operation.namesSought ops := by
  have split := congrArg Operation.namesSought suited.last.eq_append
  rw [Operation.namesSought_append] at split
  rw [split]
  exact ⟨List.subset_append_left _ _, List.subset_append_right _ _⟩

theorem start (suited : Suited sources ops batches) :
    (knownColumns sources batches).Within
        (batches.flatMap Batch.columns ++ Operation.targetNames none ops) ∧
      ∀ column, column ∈ (knownColumns sources batches).names ↔
        column ∈ batches.flatMap Batch.columns :=
  mem_names_knownColumns suited.consistent (List.subset_append_left _ _) suited.declared

theorem describes_merge (suited : Suited sources ops batches) {r : Row}
    (member : r ∈ Batch.merge batches) : (knownColumns sources batches).Describes r :=
  fun column => (Batch.mem_columns_of_mem_merge suited.ofRows member).trans
    (suited.start.2 column).symm

theorem known_before_aggregates (suited : Suited sources ops batches) {p m : Check.Progress}
    (first : (Operation.onRows ops).foldlM (Check.operation none)
      ⟨knownColumns sources batches, []⟩ = .ok p)
    {before after : List Operation} {op : Operation}
    (split : Operation.aggregates ops = before ++ op :: after)
    (reached : before.foldlM (Check.operation none) p = .ok m) {c : ColumnRef}
    (named : c ∈ op.references) {column : KnownColumn}
    (resolved : m.registry.resolve none c = .ok column) : column.name ∈ p.registry.names := by
  have whole : ops = (Operation.onRows ops ++ before) ++ op :: after := by
    rw [List.append_assoc, ← split]
    exact suited.last.eq_append
  have checked : Check.operations none (knownColumns sources batches)
      (Operation.onRows ops ++ before) = .ok m.registry :=
    Check.operations_eq_ok.2 ⟨m, foldlM_append_eq_ok.2 ⟨p, first, reached⟩, rfl⟩
  have visible := suited.visible _ op after _ whole checked c named column resolved
  have within := Check.within_of_walk suited.start.1 suited.inPlay.1 first
  have aggregated : Operation.targetNames none before ⊆
      Operation.targetNames none (Operation.aggregates ops) := by
    rw [split, Operation.targetNames_append]
    exact List.subset_append_left _ _
  have inPlay := List.Subset.trans aggregated suited.inPlay.2
  have known := (Check.within_of_walk within inPlay reached).keyed.mem_names_of_resolve resolved
  rcases (Check.mem_names_of_walk suited.consistent within inPlay reached).1 known with late | early
  · rw [Check.mem_names_of_walk suited.consistent suited.start.1 suited.inPlay.1 first,
      suited.start.2]
    by_contra absent
    rw [not_or] at absent
    exact visible ⟨aggregated late, absent.2, absent.1⟩
  · exact early

/-- The operations on rows, up to any of them, keep the columns of a row those that the check
knows, and fail only on account of values. -/
theorem onRow_of_checked (suited : Suited sources ops batches) {ops₁ ops₂ : List Operation}
    (split : Operation.onRows ops = ops₁ ++ ops₂) {p : Check.Progress}
    (walk : ops₁.foldlM (Check.operation none) ⟨knownColumns sources batches, []⟩ = .ok p)
    {rowOps : List RowOp} (compiled : RowOp.compile none ops₁ = .ok rowOps) {mode : EvalMode}
    (unscoped : mode.scope = none) {r : Row} (member : r ∈ Batch.merge batches) :
    (∀ e, RowOp.onRow mode rowOps r = .error e → e.cause.kind.ofValues = true) ∧
      ∀ r', RowOp.onRow mode rowOps r = .ok (some r') → p.registry.Describes r' := by
  have inPlay := suited.inPlay.1
  have written := suited.written.1
  rw [split, Operation.targetNames_append] at inPlay
  rw [split, Operation.namesSought_append] at written
  refine RowOp.onRow_of_checked suited.consistent suited.start.1 (List.append_subset.1 inPlay).1
    (List.append_subset.1 written).1 (fun op own => ?_) walk compiled unscoped
    (suited.describes_merge member)
  have listed : op ∈ Operation.onRows ops := split ▸ List.mem_append_left _ own
  simpa using (List.mem_filter.1 listed).2

theorem compile_onRows (suited : Suited sources ops batches) :
    RowOp.compile none ops = RowOp.compile none (Operation.onRows ops) := by
  have split := congrArg (RowOp.compile none) suited.last.eq_append
  exact split.trans (RowOp.compile_append_aggregates fun op member => (List.mem_filter.1 member).2)

theorem allRows_error (suited : Suited sources ops batches) {known : Registry}
    (checked : Check.operations none (knownColumns sources batches) ops = .ok known)
    {config : Config} {e : OperationError}
    (failed : allRows config ops (Batch.merge batches) = .error e) :
    e.cause.kind.ofValues = true := by
  obtain ⟨p, q, first, second⟩ := suited.walk checked
  obtain ⟨_, all, _⟩ := Check.operations_eq_ok.1 checked
  have readable := Check.readable_of_walk all
  obtain ⟨rowOps, compiled, failure⟩ := allRows_error_cases readable failed
  rw [suited.compile_onRows] at compiled
  have eachRow : ∀ r ∈ Batch.merge batches,
      (∀ e, RowOp.onRow (mode config none) rowOps r = .error e → e.cause.kind.ofValues = true) ∧
        ∀ r', RowOp.onRow (mode config none) rowOps r = .ok (some r') → p.registry.Describes r' :=
    fun r => suited.onRow_of_checked (List.append_nil _).symm first compiled rfl
  rcases failure with ⟨r, member, failed⟩ | ⟨cs, left, compiled, passed, failed⟩
  · exact (eachRow r member).1 e failed
  · refine Reduction.runAll_of_checked suited.consistent
      (Check.within_of_walk suited.start.1 suited.inPlay.1 first) suited.inPlay.2 suited.written.2
      second (fun before op after m split reached c named column resolved =>
        suited.known_before_aggregates first split reached named resolved)
      compiled rfl (fun r' member => ?_) failed
    obtain ⟨r, own, reached⟩ := RowStep.exists_of_mem_pass passed member
    exact (eachRow r own).2 r' reached

end Suited

theorem transform_of_blockless {p : Pipeline} {t : Transform} (transforms : p.transform = some t)
    (blockless : t.blocks = []) (config : Config) (batches : List Batch) :
    transform config p batches = allRows config t.operations (Batch.merge batches) := by
  simp only [transform, transforms, blockless, List.foldlM_nil, pure_bind, List.isEmpty_nil,
    if_true]

/-- A definition without source blocks that passes the check has rows, or fails at the values it
meets. Whenever an operation on rows comes to a row, the columns of the row are those that the check
knows when it comes to that operation. -/
theorem sound_of_checked (config : Config) {p : Pipeline} {sources : List Source} {t : Transform}
    {batches : List Batch} (extracts : p.extract = some sources)
    (transforms : p.transform = some t) (blockless : t.blocks = [])
    (suited : Suited sources t.operations batches) {known : Registry}
    (checked : checkBatches p batches = .ok known) :
    ((∃ rows, ofBatches config p batches = .ok rows) ∨
      ∃ e, ofBatches config p batches = .error (.operation e) ∧ e.cause.kind.ofValues = true) ∧
    ∀ before op after, t.operations = before ++ op :: after → op.isAggregate = false →
      ∃ known rowOps, Check.operations none (knownColumns sources batches) before = .ok known ∧
        RowOp.compile none before = .ok rowOps ∧
        ∀ r ∈ Batch.merge batches, ∀ r',
          RowOp.onRow (mode config none) rowOps r = .ok (some r') → known.Describes r' := by
  obtain ⟨start, blocks, checkedOps⟩ := checkBatches_ok extracts transforms checked
  simp only [blockless, List.foldlM_nil, pure_eq_ok] at blocks
  subst blocks
  refine ⟨?_, ?_⟩
  · rw [ofBatches_of_checked checked, transform_of_blockless transforms blockless]
    cases outcome : allRows config t.operations (Batch.merge batches) with
    | ok rows => exact .inl ⟨rows, rfl⟩
    | error e => exact .inr ⟨e, rfl, suited.allRows_error checkedOps outcome⟩
  · intro before op after split kind
    obtain ⟨q, walk, _⟩ := Check.operations_eq_ok.1 checkedOps
    rw [split] at walk
    obtain ⟨m, reached, _⟩ := Check.walk_split walk
    obtain ⟨rowOps, compiled⟩ := RowOp.compile_of_readable (Check.readable_of_walk reached)
    refine ⟨m.registry, rowOps, Check.operations_eq_ok.2 ⟨m, reached, rfl⟩, compiled, ?_⟩
    intro r member
    have last := suited.last
    rw [split] at last
    have early : Operation.onRows t.operations = before ++ op :: Operation.onRows after := by
      rw [split, last.onRows_append kind]
    exact (suited.onRow_of_checked early reached compiled rfl member).2

/-- Two sales, of which one is in no region. -/
def sales : List Batch :=
  [.ofRows "sales"
    [.ofList [("sales.region", .text "north"), ("sales.qty", .number .one)] none,
      .ofList [("sales.qty", .number .zero)] none]]

def salesSource : Source where
  aliasName := "sales"
  columns := some [⟨"qty", some .decimal⟩]

def squareQty : Operation :=
  .map "qty * sales.qty" ⟨"square", some .decimal⟩

def sumSquares : Operation :=
  .aggregate "sum" "square" ["region"] ⟨"total", none⟩

def salesReport : Pipeline where
  name := "report"
  extract := some [salesSource]
  transform := some { operations := [squareQty, sumSquares] }
  load := some ⟨"table", "report"⟩

theorem suited_sales : Suited [salesSource] [squareQty, sumSquares] sales where
  ofRows := by
    rintro b (_ | ⟨_, ⟨⟩⟩)
    rfl
  declared := by decide +kernel
  alike := by decide +kernel
  agree := by decide +kernel
  last := by decide
  visible := by
    rintro before op after known split reached c named column resolved ⟨aggregated, _⟩
    have last : "total" = column.name := by
      simpa [Operation.targetNames, Operation.aggregates, squareQty, sumSquares, inScope,
        Operation.isAggregate, Operation.target?] using aggregated
    have consistent : Consistent ["sales.region", "sales.qty", "square"] [] :=
      ⟨by decide +kernel, by decide +kernel⟩
    have start : (knownColumns [salesSource] sales).Within _ :=
      (mem_names_knownColumns consistent (by decide +kernel) (by decide +kernel)).1
    have inPlay : Operation.targetNames none before ⊆ ["sales.region", "sales.qty", "square"] := by
      rcases before with _ | ⟨first, _ | ⟨second, before⟩⟩
      · decide
      · cases split
        decide
      · simp at split
    obtain ⟨q, walk, rfl⟩ := Check.operations_eq_ok.1 reached
    have within := Check.within_of_walk start inPlay walk
    have early := within.sub (within.keyed.mem_names_of_resolve resolved)
    rw [← last] at early
    revert early
    decide

theorem sound_of_checked_sales :
    ((∃ rows, ofBatches {} salesReport sales = .ok rows) ∨
      ∃ e, ofBatches {} salesReport sales = .error (.operation e) ∧
        e.cause.kind.ofValues = true) ∧
    ∀ before op after, [squareQty, sumSquares] = before ++ op :: after → op.isAggregate = false →
      ∃ known rowOps,
        Check.operations none (knownColumns [salesSource] sales) before = .ok known ∧
        RowOp.compile none before = .ok rowOps ∧
        ∀ r ∈ Batch.merge sales, ∀ r',
          RowOp.onRow (mode {} none) rowOps r = .ok (some r') → known.Describes r' := by
  obtain ⟨known, checked⟩ := isSome_toOption_iff.1
    (by decide +kernel : (checkBatches salesReport sales).toOption.isSome = true)
  exact sound_of_checked {} rfl rfl rfl suited_sales checked

end Run

end RowPipeline
