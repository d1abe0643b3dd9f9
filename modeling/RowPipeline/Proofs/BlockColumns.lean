import RowPipeline.Proofs.BlockIsolation
import RowPipeline.Proofs.CheckedRuns

/-! # Columns of blocks in the operations on all rows

The check takes the targets of a block for known from the block on. In a run they are there only if
the block left a row of its alias, since padding gives all rows the columns of the rows that are
left. The names that are found in the stream after the blocks are therefore told exactly.
-/

namespace RowPipeline

open Outcome Text Name

/-! ## Names that are found -/

/-- The name stands for the column or may be short for it, where no alias is in scope. -/
def ColumnRef.fits (c : ColumnRef) (column : String) : Bool :=
  sameIgnoringCase column c.written ||
    if c.hasAlias then sameIgnoringCase column c.name else hasField c.name column

theorem ColumnRef.fits_eq_false_iff {c : ColumnRef} {column : String} :
    c.fits column = false ↔ sameIgnoringCase column c.written = false ∧
      (if c.hasAlias then sameIgnoringCase column c.name else hasField c.name column) = false :=
  Bool.or_eq_false_iff

theorem Row.lookup_columnNotFound_iff {r : Row} {c : ColumnRef} {name : String}
    {available : List String} :
    r.lookup none c = .error (.columnNotFound name available) ↔
      name = c.written ∧ available = r.columns ∧ ∀ column ∈ r.columns, c.fits column = false := by
  rw [lookup_eq_error_iff]
  simp only [ColumnRef.fits_eq_false_iff]
  cases qualified : c.hasAlias with
  | true =>
      simp only [resolve, qualified, if_true]
      rw [forall₂_and, ← findColumn?_eq_none_iff, ← findColumn?_eq_none_iff,
        ← Option.or_eq_none_iff]
      cases (r.findColumn? c.written).or (r.findColumn? c.name) <;> simp [eq_comm]
  | false =>
      have fields : (∀ column ∈ r.columns, hasField c.name column = false) ↔
          r.columnsOfField c.written = [] := by
        simp [columnsOfField, c.written_of_bare qualified]
      simp only [Bool.false_eq_true, if_false]
      rw [resolve_bare qualified, forall₂_and, ← findColumn?_eq_none_iff, fields]
      simp only [inScope, Option.or_self]
      cases r.findColumn? c.written with
      | some column => simp
      | none =>
          rcases r.columnsOfField c.written with _ | ⟨column, _ | ⟨other, rest⟩⟩ <;>
            simp [eq_comm]

theorem ColumnRef.fits_of_resolve {known : Registry} (keyed : known.Keyed) {c : ColumnRef}
    {column : KnownColumn} (found : known.resolve none c = .ok column) {target : String}
    (same : lower target = lower column.name)
    (agree : CaseFoldsAgree (target :: c.written :: known.names)) : c.fits target = true := by
  have written : known.find? c.written = some column → c.fits target = true := by
    intro hit
    have lowered := same.trans (keyed.name_of_find? hit).2
    simp [fits, (agree _ (by simp) _ (by simp)).1 lowered]
  rcases Registry.resolve_cases found with
    ⟨_, hit⟩ | ⟨bare, hit | ⟨_, hit⟩ | ⟨_, _, name, single, h⟩⟩
  · exact written hit
  · exact written hit
  · exact written hit
  · have listed : name ∈ known.columnsOfField c.written := by simp [single]
    obtain ⟨member, field⟩ := List.mem_filter.1 listed
    obtain ⟨column', hit, rfl⟩ := keyed.find?_of_mem_names member rfl
    rw [hit, Option.getD_some] at h
    subst h
    have folded := (agree target (by simp) column'.name (by simp [member])).1 same
    rw [← hasField_congr _ folded, c.written_of_bare bare] at field
    simp [fits, bare, field]

/-! ## What the stream carries -/

theorem Row.comesFrom_congr {r s : Row} (h : r.origin = s.origin) (aliasName : String) :
    r.comesFrom aliasName = s.comesFrom aliasName := by
  rw [comesFrom, comesFrom, h]

namespace Run

variable {config : Config} {batches : List Batch} {blocks : List Block} {rows out : List Row}

/-- The stream has the column after the blocks: a batch has it, or a block writes it and a row of
its alias is left. -/
def Carried (batches : List Batch) (blocks : List Block) (rows : List Row) (column : String) :
    Prop :=
  column ∈ batches.flatMap Batch.columns ∨
    ∃ b ∈ blocks, column ∈ Operation.targetNames (some b.aliasName) b.operations ∧
      ∃ r ∈ rows, r.comesFrom b.aliasName = true

/-- The rows as the operations on all rows get them. -/
def padded (blocks : List Block) (rows : List Row) : List Row :=
  if blocks.isEmpty then rows else Row.padAll rows

theorem mem_columns_of_block {b : Block} (plain : b.Plain) (h : block config rows b = .ok out)
    {r' : Row} (member : r' ∈ out) :
    ∃ r ∈ rows, r'.origin = r.origin ∧ ∀ column, column ∈ r'.columns ↔ column ∈ r.columns ∨
      (column ∈ Operation.targetNames (some b.aliasName) b.operations ∧
        r'.comesFrom b.aliasName = true) := by
  obtain ⟨ops, compiled, passed⟩ := (block_eq_ok_of_plain plain).1 h
  obtain ⟨r, own, step⟩ := RowStep.exists_of_mem_pass passed member
  refine ⟨r, own, ?_⟩
  unfold blockRow at step
  split at step
  next kind =>
    have origin := RowOp.origin_of_onRow step
    refine ⟨origin, fun column => ?_⟩
    rw [RowOp.mem_columns_of_onRow compiled step, Operation.onRows_of_plain plain,
      Row.comesFrom_congr origin, kind, or_comm]
    simp only [and_true]
  next kind =>
    cases step
    simp [kind]

theorem mem_columns_of_blocks (plain : ∀ b ∈ blocks, b.Plain)
    (h : blocks.foldlM (block config) rows = .ok out) {r' : Row} (member : r' ∈ out) :
    ∃ r ∈ rows, r'.origin = r.origin ∧ ∀ column, column ∈ r'.columns ↔ column ∈ r.columns ∨
      ∃ b ∈ blocks, column ∈ Operation.targetNames (some b.aliasName) b.operations ∧
        r'.comesFrom b.aliasName = true := by
  -- Blocks keep the origin, so a row of a later stream passed the same earlier blocks.
  induction blocks generalizing rows with
  | nil =>
      cases h
      exact ⟨r', member, rfl, by simp⟩
  | cons b blocks ih =>
      obtain ⟨mid, step, rest⟩ := bind_eq_ok.1 h
      obtain ⟨first, later⟩ := List.forall_mem_cons.1 plain
      obtain ⟨s, own, origin, columns⟩ := ih later rest
      obtain ⟨r, own', origin', columns'⟩ := mem_columns_of_block first step own
      refine ⟨r, own', origin.trans origin', fun column => ?_⟩
      rw [columns, columns', Row.comesFrom_congr origin.symm, List.exists_mem_cons_iff, or_assoc]

/-- After the blocks every row has the columns that the stream carries and no others. -/
theorem mem_columns_of_mem_padded (plain : ∀ b ∈ blocks, b.Plain)
    (ofRows : ∀ b ∈ batches, b.IsOfRows)
    (ran : blocks.foldlM (block config) (Batch.merge batches) = .ok rows) {r : Row}
    (member : r ∈ padded blocks rows) {column : String} :
    column ∈ r.columns ↔ Carried batches blocks rows column := by
  have columns : ∀ s ∈ rows, ∀ column, column ∈ s.columns ↔
      column ∈ batches.flatMap Batch.columns ∨
        ∃ b ∈ blocks, column ∈ Operation.targetNames (some b.aliasName) b.operations ∧
          s.comesFrom b.aliasName = true := by
    intro s own column
    obtain ⟨s₀, merged, _, columns⟩ := mem_columns_of_blocks plain ran own
    rw [columns, Batch.mem_columns_of_mem_merge ofRows merged]
  unfold padded at member
  split at member
  next none =>
    rw [List.isEmpty_iff] at none
    subst none
    simp [columns r member, Carried]
  next some =>
    rw [Row.mem_columns_of_mem_padAll member, Carried]
    constructor
    · rintro ⟨s, own, present⟩
      refine ((columns s own column).1 present).imp_right ?_
      rintro ⟨b, listed, target, kind⟩
      exact ⟨b, listed, target, s, own, kind⟩
    · rintro (present | ⟨b, listed, target, s, own, kind⟩)
      -- The padded row comes from a row that is left, and that one has the columns of the batches.
      · obtain ⟨s, own, _⟩ := List.mem_map.1 member
        exact ⟨s, own, (columns s own column).2 (.inl present)⟩
      · exact ⟨s, own, (columns s own column).2 (.inr ⟨b, listed, target, kind⟩)⟩

/-! ## Names that are not found -/

end Run

theorem EvalError.FromRow.exists_columnNotFound {mode : EvalMode} {r : Row}
    {names : List ColumnRef} {name : String} {available : List String}
    (unscoped : mode.scope = none)
    (h : (EvalError.columnNotFound name available).FromRow mode r names) :
    ∃ c ∈ names, c.written = name ∧ ∀ column ∈ r.columns, c.fits column = false := by
  rcases h with ofValues | ⟨c, member, failed⟩
  · cases ofValues
  · rw [unscoped] at failed
    obtain ⟨written, _, missing⟩ := Row.lookup_columnNotFound_iff.1 failed
    exact ⟨c, member, written.symm, missing⟩

namespace Run

variable {config : Config} {rows : List Row}

/-- Readable operations find no column only for a name that fits none of the columns of some row. -/
theorem exists_of_allRows_columnNotFound {ops : List Operation}
    (readable : ∀ op ∈ ops, op.Readable) {op : Operation} {name : String}
    {available : List String}
    (failed : allRows config ops rows = .error ⟨op, .columnNotFound name available⟩) :
    op ∈ ops ∧ ∃ c ∈ op.references, c.written = name ∧
      ∃ r ∈ rows, ∀ column ∈ r.columns, c.fits column = false := by
  obtain ⟨rowOps, compiled, ⟨r, own, failed⟩ | ⟨cs, left, compiledAggregates, passed, failed⟩⟩ :=
    allRows_error_cases readable failed
  · obtain ⟨member, r', more, failure⟩ := RowOp.exists_of_onRow_error failed compiled
    obtain ⟨c, named, written, missing⟩ := failure.exists_columnNotFound rfl
    exact ⟨member, c, named, written, r, own, fun column present => missing column (more present)⟩
  · obtain ofValues | ⟨member, _, r', own', failure⟩ :=
      Reduction.exists_of_runAll_error compiledAggregates failed
    · cases ofValues
    obtain ⟨c, named, written, missing⟩ := failure.exists_columnNotFound rfl
    obtain ⟨r, own, reached⟩ := RowStep.exists_of_mem_pass passed own'
    exact ⟨member, c, named, written, r, own, fun column present =>
      missing column ((RowOp.mem_columns_of_onRow compiled reached).2 (.inr present))⟩

end Run

/-! ## What the check takes a name for -/

namespace Check

theorem keyed_of_operations {scope : Option String} {r known : Registry} {ops : List Operation}
    (keyed : r.Keyed) (h : operations scope r ops = .ok known) : known.Keyed := by
  obtain ⟨p, walk, rfl⟩ := operations_eq_ok.1 h
  exact keyed_of_walk keyed walk

theorem keyed_of_blocks {sources : List Source} {blocks : List Block} {r known : Registry}
    (keyed : r.Keyed) (h : blocks.foldlM (block sources) r = .ok known) : known.Keyed := by
  refine foldlM_invariant Registry.Keyed keyed (fun r b r' _ keyed step => ?_) h
  unfold block at step
  split at step
  · exact keyed_of_operations keyed step
  · cases step

end Check

namespace Run

theorem keyed_knownColumns (sources : List Source) (batches : List Batch) :
    (knownColumns sources batches).Keyed := by
  have declared : (Check.declared sources).Within (sources.flatMap Source.declaredColumns) :=
    Check.within_declared fun s own _ listed => List.mem_flatMap.2 ⟨s, own, listed⟩
  exact List.foldlRecOn _ _ declared.keyed fun known keyed name _ => keyed.registerNew name

/-- When the check comes to the operation on all rows, it takes the name for the column, whatever
the spelling; the foldings of case agree on the names at hand. -/
def StandsFor (sources : List Source) (t : Transform) (batches : List Batch) (op : Operation)
    (c : ColumnRef) (target : String) : Prop :=
  ∃ before after start known column, t.operations = before ++ op :: after ∧
    t.blocks.foldlM (Check.block sources) (knownColumns sources batches) = .ok start ∧
    Check.operations none start before = .ok known ∧ known.resolve none c = .ok column ∧
    lower target = lower column.name ∧ CaseFoldsAgree (target :: c.written :: known.names)

theorem StandsFor.fits {sources : List Source} {t : Transform} {batches : List Batch}
    {op : Operation} {c : ColumnRef} {target : String}
    (h : StandsFor sources t batches op c target) : c.fits target = true := by
  obtain ⟨_, _, _, _, _, _, blocks, ops, found, same, agree⟩ := h
  have keyed := Check.keyed_of_blocks (keyed_knownColumns sources batches) blocks
  exact ColumnRef.fits_of_resolve (Check.keyed_of_operations keyed ops) found same agree

/-- The operations on all rows find exactly the columns that the stream carries after the blocks
and those that operations before them write. A run of a checked definition whose blocks have no
aggregates fails to find a column that a block writes only if no batch has the column and the block
leaves no row of its alias. -/
theorem columns_found_iff_carried (config : Config) {p : Pipeline} {sources : List Source}
    {t : Transform} {batches : List Batch} (extracts : p.extract = some sources)
    (transforms : p.transform = some t) (plain : ∀ b ∈ t.blocks, b.Plain)
    (ofRows : ∀ b ∈ batches, b.IsOfRows) {known : Registry}
    (checked : checkBatches p batches = .ok known) {rows : List Row}
    (ran : t.blocks.foldlM (block config) (Batch.merge batches) = .ok rows) :
    (∀ before after rowOps, t.operations = before ++ after →
      RowOp.compile none before = .ok rowOps → ∀ r ∈ padded t.blocks rows, ∀ r',
        RowOp.onRow (mode config none) rowOps r = .ok (some r') → ∀ c name available,
          r'.lookup none c = .error (.columnNotFound name available) ↔
            name = c.written ∧ available = r'.columns ∧ ∀ column,
              Carried batches t.blocks rows column ∨
                column ∈ Operation.targetNames none (Operation.onRows before) →
              c.fits column = false) ∧
    ∀ op name available,
      ofBatches config p batches = .error (.operation ⟨op, .columnNotFound name available⟩) →
      op ∈ t.operations ∧ ∃ c ∈ op.references, c.written = name ∧
        (∀ column, Carried batches t.blocks rows column → c.fits column = false) ∧
        ∀ b ∈ t.blocks, ∀ target ∈ Operation.targetNames (some b.aliasName) b.operations,
          StandsFor sources t batches op c target →
          target ∉ batches.flatMap Batch.columns ∧ ∀ r ∈ rows, r.comesFrom b.aliasName = false := by
  have carried : ∀ r ∈ padded t.blocks rows, ∀ column,
      column ∈ r.columns ↔ Carried batches t.blocks rows column :=
    fun r member column => mem_columns_of_mem_padded plain ofRows ran member
  refine ⟨?_, ?_⟩
  · intro before after rowOps _ compiled r member r' reached c name available
    rw [Row.lookup_columnNotFound_iff]
    refine and_congr_right fun _ => and_congr_right fun _ => forall_congr' fun column => ?_
    rw [RowOp.mem_columns_of_onRow compiled reached, carried r member, or_comm]
  · intro op name available failed
    obtain ⟨start, _, checkedOps⟩ := checkBatches_ok extracts transforms checked
    obtain ⟨_, walk, _⟩ := Check.operations_eq_ok.1 checkedOps
    rw [ofBatches_of_checked checked] at failed
    obtain ⟨_, failed, ⟨⟩⟩ := mapError_eq_error.1 failed
    simp only [transform, transforms, ran] at failed
    obtain ⟨member, c, named, written, r, own, missing⟩ :=
      exists_of_allRows_columnNotFound (Check.readable_of_walk walk) failed
    have lost : ∀ column, Carried batches t.blocks rows column → c.fits column = false :=
      fun column present => missing column ((carried r own column).2 present)
    refine ⟨member, c, named, written, lost, fun b listed target writes standsFor => ?_⟩
    have notCarried : ¬Carried batches t.blocks rows target := by
      intro present
      have fits := standsFor.fits
      rw [lost target present] at fits
      cases fits
    refine ⟨fun own => notCarried (.inl own), fun r own => ?_⟩
    by_contra kind
    rw [Bool.not_eq_false] at kind
    exact notCarried (.inr ⟨b, listed, writes, r, own, kind⟩)

def pieces : List Batch :=
  [.ofRows "sales" [.ofList [("sales.qty", .ofCell "3")] none],
    .ofRows "discount" [.ofList [("discount.rate", .ofCell "10")] none]]

/-- A block that doubles large quantities and drops the other sales. -/
def doubleLarge : Block :=
  ⟨"sales", [.filter "qty > 5", .map "qty * 2" ⟨"double", none⟩]⟩

def copyDouble : Operation :=
  .map "sales.double" ⟨"copy", none⟩

def copyPieces : Pipeline where
  name := "p"
  extract := some [⟨"sales", [], none⟩, ⟨"discount", [], none⟩]
  transform := some { operations := [copyDouble], blocks := [doubleLarge] }
  load := some ⟨"memory", "out"⟩

/-- The check knows the column of the block, and yet the run does not find it in the row of the
other source. -/
theorem block_column_not_found_pieces :
    (∃ known, checkBatches copyPieces pieces = .ok known) ∧
      "sales.double" ∈ Operation.targetNames (some doubleLarge.aliasName) doubleLarge.operations ∧
      ofBatches {} copyPieces pieces = .error (.operation
        ⟨copyDouble, .columnNotFound "sales.double" ["sales.qty", "discount.rate"]⟩) := by
  refine ⟨isSome_toOption_iff.1 (by decide +kernel), by decide +kernel, by decide +kernel⟩

theorem standsFor_pieces :
    StandsFor [⟨"sales", [], none⟩, ⟨"discount", [], none⟩]
      { operations := [copyDouble], blocks := [doubleLarge] } pieces copyDouble
      ⟨some "sales", "double"⟩ "sales.double" := by
  have walk : (do
      let start ← [doubleLarge].foldlM (Check.block [⟨"sales", [], none⟩, ⟨"discount", [], none⟩])
        (knownColumns [⟨"sales", [], none⟩, ⟨"discount", [], none⟩] pieces)
      let known ← Check.operations none start []
      let column ← known.resolve none ⟨some "sales", "double"⟩
      return (known.names, column)) =
        .ok (["sales.qty", "discount.rate", "sales.double"], ⟨"sales.double", none⟩) := by
    decide +kernel
  obtain ⟨start, blocks, walk⟩ := bind_eq_ok.1 walk
  obtain ⟨known, ops, walk⟩ := bind_eq_ok.1 walk
  obtain ⟨column, found, walk⟩ := bind_eq_ok.1 walk
  obtain ⟨names, rfl⟩ := Prod.mk.inj (pure_eq_ok.1 walk)
  refine ⟨[], [], start, known, _, rfl, blocks, ops, found, rfl, caseFoldsAgree_of_ascii ?_⟩
  rw [names]
  decide +kernel

theorem columns_found_iff_carried_pieces :
    ∃ rows, [doubleLarge].foldlM (block {}) (Batch.merge pieces) = .ok rows ∧
      (∀ r ∈ padded [doubleLarge] rows, ∀ c name available,
        r.lookup none c = .error (.columnNotFound name available) ↔
          name = c.written ∧ available = r.columns ∧ ∀ column,
            Carried pieces [doubleLarge] rows column ∨ column ∈ [] → c.fits column = false) ∧
      ∀ r ∈ rows, r.comesFrom "sales" = false := by
  obtain ⟨⟨known, checked⟩, target, failed⟩ := block_column_not_found_pieces
  obtain ⟨rows, ran⟩ := isSome_toOption_iff.1 (by decide +kernel :
    ([doubleLarge].foldlM (block {}) (Batch.merge pieces)).toOption.isSome = true)
  have plain : ∀ b ∈ [doubleLarge], b.Plain := by
    rintro b (_ | ⟨_, ⟨⟩⟩)
    change ∀ op ∈ doubleLarge.operations, op.isAggregate = false
    decide
  have ofRows : ∀ b ∈ pieces, b.IsOfRows := by
    rintro b (_ | ⟨_, _ | ⟨_, ⟨⟩⟩⟩) <;> rfl
  obtain ⟨found, lost⟩ := columns_found_iff_carried {} rfl rfl plain ofRows checked ran
  refine ⟨rows, ran, fun r member => found [] _ [] rfl rfl r member r rfl, ?_⟩
  obtain ⟨_, c, named, _, _, noRow⟩ := lost _ _ _ failed
  obtain rfl : c = ⟨some "sales", "double"⟩ := by
    have single : copyDouble.references = [⟨some "sales", "double"⟩] := by decide +kernel
    rw [single] at named
    exact List.mem_singleton.1 named
  exact (noRow doubleLarge List.mem_cons_self _ target standsFor_pieces).2

end Run

end RowPipeline
