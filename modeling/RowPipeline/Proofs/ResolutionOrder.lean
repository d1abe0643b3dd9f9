import RowPipeline.Proofs.BlockColumns
import RowPipeline.Proofs.CheckSoundness

/-! # Columns in the order of the check and of the run

The check takes operations in the order of the list. A run takes the operations on rows first and
the aggregates behind them, on the finished rows. A name that passes the check therefore stands for
the same column in the run just if that column is there when its operation comes to a row, and no
target that was written in the meantime has come before it.
-/

namespace RowPipeline

open Outcome Text Name

theorem ColumnRef.fits_eq_hasField {c : ColumnRef} (bare : c.hasAlias = false) {column : String}
    (other : sameIgnoringCase column c.written = false) :
    c.fits column = hasField c.written column := by
  rw [fits, other, bare, c.written_of_bare bare]
  rfl

namespace Row

variable {r : Row} {c : ColumnRef} {name : String}

theorem filter_fits_eq_singleton_iff :
    r.columns.filter c.fits = [name] ↔
      name ∈ r.columns ∧ c.fits name = true ∧
        ∀ column ∈ r.columns, c.fits column = true → column = name := by
  rw [← List.perm_singleton,
    List.perm_ext_iff_of_nodup (r.nodup_columns.filter _) (List.nodup_singleton name)]
  simp only [List.mem_filter, List.mem_singleton]
  constructor
  · intro only
    obtain ⟨member, fits⟩ := (only name).2 rfl
    exact ⟨member, fits, fun column present fits => (only column).1 ⟨present, fits⟩⟩
  · rintro ⟨member, fits, only⟩ column
    exact ⟨fun ⟨present, fits⟩ => only column present fits, fun same => same ▸ ⟨member, fits⟩⟩

theorem columnsOfField_eq_filter_fits (bare : c.hasAlias = false)
    (missing : r.findColumn? c.written = none) :
    r.columnsOfField c.written = r.columns.filter c.fits := by
  apply List.filter_congr
  intro column present
  rw [c.fits_eq_hasField bare (findColumn?_eq_none_iff.1 missing column present)]

theorem resolve_of_findColumn? (found : r.findColumn? c.written = some name) :
    r.resolve none c = .ok name := by
  cases qualified : c.hasAlias with
  | true => simp [resolve, qualified, found]
  | false => simp [resolve_bare qualified, inScope, found]

/-- In a row whose columns do not differ in case alone, a name stands for a column that it is a
spelling of, or for the only one that it fits. -/
theorem resolve_iff_fits (alike : SpelledAlike r.columns)
    (aliased : c.hasAlias = true → sameIgnoringCase name c.written = true) :
    r.resolve none c = .ok name ↔ name ∈ r.columns ∧ c.fits name = true ∧
      (sameIgnoringCase name c.written = true ∨
        ∀ column ∈ r.columns, c.fits column = true → column = name) := by
  by_cases same : sameIgnoringCase name c.written = true
  · have fits : c.fits name = true := by simp [ColumnRef.fits, same]
    simp only [same, fits, true_or, and_true]
    exact ⟨mem_columns_of_resolve, fun member =>
      resolve_of_findColumn? (findColumn?_of_alike alike member same)⟩
  · have bare : c.hasAlias = false := by
      rw [← Bool.not_eq_true]
      exact fun qualified => same (aliased qualified)
    rw [resolve_bare bare]
    simp only [inScope, Option.or_self, same, false_or, Bool.false_eq_true]
    rw [← filter_fits_eq_singleton_iff]
    cases found : r.findColumn? c.written with
    | some column =>
        obtain ⟨member, spelled⟩ := findColumn?_eq_some found
        have fits : c.fits column = true := by simp [ColumnRef.fits, spelled]
        have other : column ≠ name := by
          rintro rfl
          exact same spelled
        simp only [Except.ok.injEq, other, false_iff]
        intro single
        exact other ((filter_fits_eq_singleton_iff.1 single).2.2 column member fits)
    | none =>
        rw [columnsOfField_eq_filter_fits bare found]
        rcases r.columns.filter c.fits with _ | ⟨column, _ | ⟨_, _⟩⟩ <;> simp

end Row

theorem ColumnRef.known_of_resolve {known : Registry} (keyed : known.Keyed) {c : ColumnRef}
    {column : KnownColumn} (found : known.resolve none c = .ok column)
    (agree : CaseFoldsAgree (c.written :: known.names)) :
    sameIgnoringCase column.name c.written = true ∨
      c.hasAlias = false ∧ ∀ name ∈ known.names, c.fits name = true → name = column.name := by
  have spelled : known.find? c.written = some column →
      sameIgnoringCase column.name c.written = true := by
    intro hit
    obtain ⟨member, same⟩ := keyed.name_of_find? hit
    exact (agree _ (List.mem_cons_of_mem _ member) _ List.mem_cons_self).1 same
  rcases Registry.resolve_cases found with
    ⟨_, hit⟩ | ⟨bare, hit | ⟨_, hit⟩ | ⟨_, unknown, name, single, rfl⟩⟩
  · exact .inl (spelled hit)
  · exact .inl (spelled hit)
  · exact .inl (spelled hit)
  · right
    have listed : name ∈ known.columnsOfField c.written := by simp [single]
    obtain ⟨column, hit, rfl⟩ := keyed.find?_of_mem_names (List.mem_filter.1 listed).1 rfl
    refine ⟨bare, fun name member fits => ?_⟩
    -- Were it a spelling of the name, the check would have found it before it asked for fields.
    have other : sameIgnoringCase name c.written = false := by
      by_contra same
      rw [Bool.not_eq_false, ← agree _ (List.mem_cons_of_mem _ member) _ List.mem_cons_self] at same
      obtain ⟨_, hit, _⟩ := keyed.find?_of_mem_names member same
      rw [unknown] at hit
      cases hit
    rw [c.fits_eq_hasField bare other] at fits
    rw [hit, Option.getD_some, ← List.mem_singleton, ← single]
    exact List.mem_filter.2 ⟨member, fits⟩

namespace Run

/-- The columns of the batches, those that the sources declare, and the targets. -/
def columnsInPlay (sources : List Source) (ops : List Operation) (batches : List Batch) :
    List String :=
  batches.flatMap Batch.columns ++ sources.flatMap Source.declaredColumns ++
    Operation.targetNames none ops

/-- The row is one that the operations on rows make of a row of the batches. -/
def Reached (config : Config) (batches : List Batch) (ops : List Operation) (r : Row) : Prop :=
  ∃ r₀ ∈ Batch.merge batches, RowOp.Leads (mode config none) ops r₀ r

theorem Reached.mem_columns {config : Config} {batches : List Batch} {ops : List Operation}
    {r : Row} (reached : Reached config batches ops r) (ofRows : ∀ b ∈ batches, b.IsOfRows)
    {column : String} :
    column ∈ r.columns ↔ column ∈ batches.flatMap Batch.columns ∨
      column ∈ Operation.targetNames none (Operation.onRows ops) := by
  obtain ⟨r₀, member, rowOps, compiled, ran⟩ := reached
  rw [RowOp.mem_columns_of_onRow compiled ran, Batch.mem_columns_of_mem_merge ofRows member,
    or_comm]
  rfl

theorem Reached.inPlay {config : Config} {batches : List Batch} {ran ops : List Operation} {r : Row}
    (reached : Reached config batches ran r) (ofRows : ∀ b ∈ batches, b.IsOfRows)
    (first : ran <+: ops) (sources : List Source) :
    r.columns ⊆ columnsInPlay sources ops batches := by
  intro column present
  rw [columnsInPlay, List.append_assoc]
  rcases (reached.mem_columns ofRows).1 present with batched | written
  · exact List.mem_append_left _ batched
  · have written := Operation.targetNames_onRows_subset none ran written
    have target := (first.sublist.filterMap _).subset written
    exact List.mem_append_right _ (List.mem_append_right _ target)

section

variable {sources : List Source} {ops : List Operation} {batches : List Batch}

theorem within_knownColumns (sources : List Source) (ops : List Operation) (batches : List Batch) :
    (knownColumns sources batches).Within (columnsInPlay sources ops batches) := by
  have declared : (Check.declared sources).Within (columnsInPlay sources ops batches) := by
    apply Check.within_declared
    intro s own column listed
    apply List.mem_append_left
    exact List.mem_append_right _ (List.mem_flatMap.2 ⟨s, own, listed⟩)
  refine List.foldlRecOn _ _ declared fun known within name batched => within.registerNew ?_
  rw [columnsInPlay, List.append_assoc]
  exact List.mem_append_left _ batched

/-- What the check knows behind some operations: columns in play, among them, in some spelling,
those of the batches and the targets of these operations. -/
theorem known_of_operations {before after : List Operation} (split : ops = before ++ after)
    {known : Registry}
    (checked : Check.operations none (knownColumns sources batches) before = .ok known) :
    known.Within (columnsInPlay sources ops batches) ∧
      ∀ name ∈ batches.flatMap Batch.columns ++ Operation.targetNames none before,
        known.contains name = true := by
  obtain ⟨p, walk, rfl⟩ := Check.operations_eq_ok.1 checked
  have inPlay : Operation.targetNames none before ⊆ columnsInPlay sources ops batches := by
    intro column own
    rw [columnsInPlay, split, Operation.targetNames_append]
    exact List.mem_append_right _ (List.mem_append_left _ own)
  refine ⟨Check.within_of_walk (within_knownColumns sources ops batches) inPlay walk, ?_⟩
  intro name own
  rw [Check.contains_of_walk walk, knownColumns, Registry.contains_foldl_registerNew]
  rcases List.mem_append.1 own with batched | target
  · exact .inr (.inl ⟨name, batched, rfl⟩)
  · exact .inl ⟨name, target, rfl⟩

end

/-- In a row of columns in play, a name that the check has taken for a column stands for it if it is
there, and if the name is a spelling of it or fits no other column that the check did not know. -/
theorem resolve_iff_of_known {columns sought : List String} (consistent : Consistent columns sought)
    {known : Registry} (within : known.Within columns) {r : Row} (inPlay : r.columns ⊆ columns)
    {c : ColumnRef} (written : c.written ∈ sought) {column : KnownColumn}
    (found : known.resolve none c = .ok column) {new : List String} (present : new ⊆ r.columns)
    (others : ∀ name ∈ r.columns, name ∈ known.names ∨ name ∈ new) :
    r.resolve none c = .ok column.name ↔ column.name ∈ r.columns ∧
      (sameIgnoringCase column.name c.written = true ∨
        ∀ name ∈ new, c.fits name = true → name = column.name) := by
  have agree : CaseFoldsAgree (column.name :: c.written :: known.names) := by
    refine consistent.agree.subset (List.cons_subset.2 ⟨?_, List.cons_subset.2 ⟨?_, ?_⟩⟩)
    · exact List.mem_append_left _ (within.sub (within.keyed.mem_names_of_resolve found))
    · exact List.mem_append_right _ written
    · exact fun name member => List.mem_append_left _ (within.sub member)
  have fits := ColumnRef.fits_of_resolve within.keyed found rfl agree
  have taken := ColumnRef.known_of_resolve within.keyed found
    (agree.subset (List.subset_cons_self _ _))
  have aliased : c.hasAlias = true → sameIgnoringCase column.name c.written = true := by
    intro qualified
    rcases taken with same | ⟨bare, -⟩
    · exact same
    · rw [qualified] at bare
      cases bare
  rw [Row.resolve_iff_fits (consistent.alike.subset inPlay) aliased, and_iff_right fits]
  apply and_congr_right
  intro _
  -- The check has seen that no known column fits beside, so only the new ones are left to ask for.
  constructor
  · exact Or.imp_right fun only name member => only name (present member)
  · rintro (same | later)
    · exact .inl same
    · refine taken.imp_right fun ⟨_, only⟩ name member => ?_
      rcases others name member with old | new
      · exact only name old
      · exact later name new

variable {sources : List Source} {t : Transform} {batches : List Batch} {p : Pipeline}

theorem exists_known_before (extracts : p.extract = some sources)
    (transforms : p.transform = some t) (blockless : t.blocks = []) {known : Registry}
    (checked : checkBatches p batches = .ok known) {before after : List Operation} {op : Operation}
    (split : t.operations = before ++ op :: after) :
    ∃ known, Check.operations none (knownColumns sources batches) before = .ok known ∧
      known.checkBody none op = .ok () := by
  obtain ⟨start, blocks, checkedOps⟩ := checkBatches_ok extracts transforms checked
  simp only [blockless, List.foldlM_nil, pure_eq_ok] at blocks
  subst blocks
  obtain ⟨_, walk, -⟩ := Check.operations_eq_ok.1 checkedOps
  rw [split] at walk
  obtain ⟨m, reached, body⟩ := Check.walk_split walk
  exact ⟨m.registry, Check.operations_eq_ok.2 ⟨m, reached, rfl⟩, body⟩

/-- Where no two names in play differ in case alone, a name that passes the check stands for the
column that the check took it for just if the rows have that column when its operation comes to
them, and, in an aggregate, no target of a later operation on rows has come before it. -/
theorem resolved_as_checked_iff (config : Config) (extracts : p.extract = some sources)
    (transforms : p.transform = some t) (blockless : t.blocks = [])
    (ofRows : ∀ b ∈ batches, b.IsOfRows)
    (consistent : Consistent (columnsInPlay sources t.operations batches)
      (Operation.namesSought t.operations)) {known : Registry}
    (checked : checkBatches p batches = .ok known) {before after : List Operation} {op : Operation}
    (split : t.operations = before ++ op :: after) {c : ColumnRef} (named : c ∈ op.references) :
    ∃ known column, Check.operations none (knownColumns sources batches) before = .ok known ∧
      known.resolve none c = .ok column ∧
      (op.isAggregate = false → ∀ r, Reached config batches before r →
        (r.resolve none c = .ok column.name ↔ column.name ∈
          batches.flatMap Batch.columns ++ Operation.targetNames none (Operation.onRows before))) ∧
      (op.isAggregate = true → ∀ r, Reached config batches t.operations r →
        (r.resolve none c = .ok column.name ↔ column.name ∈ batches.flatMap Batch.columns ++
            Operation.targetNames none (Operation.onRows t.operations) ∧
          (sameIgnoringCase column.name c.written = true ∨
            ∀ target ∈ Operation.targetNames none (Operation.onRows after),
              c.fits target = true → target = column.name))) := by
  obtain ⟨m, earlier, body⟩ := exists_known_before extracts transforms blockless checked split
  obtain ⟨column, found⟩ := (Registry.checkBody_ok body).2 c named
  have written : c.written ∈ Operation.namesSought t.operations := by
    apply List.mem_map_of_mem
    exact List.mem_flatMap.2 ⟨op, by simp [split], named⟩
  obtain ⟨within, already⟩ := known_of_operations split earlier
  have known : ∀ name, name ∈ batches.flatMap Batch.columns ∨
      name ∈ Operation.targetNames none (Operation.onRows before) → name ∈ m.names := by
    intro name own
    have listed : name ∈ batches.flatMap Batch.columns ++ Operation.targetNames none before :=
      List.mem_append.2 (own.imp_right fun own =>
        Operation.targetNames_onRows_subset none before own)
    obtain ⟨other, member, same⟩ := within.keyed.contains_iff.1 (already name listed)
    have inPlay : name ∈ columnsInPlay sources t.operations batches := by
      rw [columnsInPlay, split, Operation.targetNames_append]
      rcases List.mem_append.1 listed with batched | target
      · exact List.mem_append_left _ (List.mem_append_left _ batched)
      · exact List.mem_append_right _ (List.mem_append_left _ target)
    rwa [← consistent.eq_of_lower_eq (within.sub member) inPlay same]
  refine ⟨m, column, earlier, found, fun _ r reached => ?_, fun kind r reached => ?_⟩
  · have inPlay := reached.inPlay ofRows ⟨_, split.symm⟩ sources
    have others : ∀ name ∈ r.columns, name ∈ m.names ∨ name ∈ [] :=
      fun name present => .inl (known name ((reached.mem_columns ofRows).1 present))
    rw [resolve_iff_of_known consistent within inPlay written found (List.nil_subset _) others,
      reached.mem_columns ofRows, List.mem_append]
    simp
  · have inPlay := reached.inPlay ofRows (List.prefix_refl _) sources
    have onRows : Operation.targetNames none (Operation.onRows t.operations) =
        Operation.targetNames none (Operation.onRows before) ++
          Operation.targetNames none (Operation.onRows after) := by
      rw [← Operation.targetNames_append]
      simp [Operation.onRows, split, kind]
    have present : Operation.targetNames none (Operation.onRows after) ⊆ r.columns := by
      intro name later
      rw [reached.mem_columns ofRows, onRows]
      exact .inr (List.mem_append_right _ later)
    have others : ∀ name ∈ r.columns, name ∈ m.names ∨
        name ∈ Operation.targetNames none (Operation.onRows after) := by
      intro name member
      rw [reached.mem_columns ofRows, onRows, List.mem_append, ← or_assoc] at member
      exact member.imp_left (known name)
    rw [resolve_iff_of_known consistent within inPlay written found present others,
      reached.mem_columns ofRows, List.mem_append]

def salesPipeline (ops : List Operation) : Pipeline where
  name := "p"
  extract := some [⟨"sales", [], none⟩]
  transform := some { operations := ops }
  load := some ⟨"memory", "out"⟩

def totalQuantity (groupBy : List String) : Operation :=
  .aggregate "sum" "qty" groupBy ⟨"total", none⟩

def doubleTotal : Operation :=
  .map "total * 2" ⟨"double", none⟩

/-- The check knows the target of the aggregate, but the run comes to the other operation first. -/
theorem aggregate_target_not_found_sales :
    (∃ known, checkBatches (salesPipeline [totalQuantity [], doubleTotal]) sales = .ok known) ∧
      ofBatches {} (salesPipeline [totalQuantity [], doubleTotal]) sales = .error (.operation
        ⟨doubleTotal, .columnNotFound "total" ["sales.region", "sales.qty"]⟩) :=
  ⟨isSome_toOption_iff.1 (by decide +kernel), by decide +kernel⟩

def allRegions : Operation :=
  .map "\"all\"" ⟨"region", none⟩

/-- The total for each region, before all regions become one. -/
def relabelled : List Operation :=
  [totalQuantity ["region"], allRegions]

def northSale : Row :=
  .ofList [("sales.region", .text "north"), ("sales.qty", .number .one)] (some "sales")

/-- The check takes the group-by column for the region of the sale, but in every row that the
aggregate meets it is the target of the later operation. -/
theorem resolved_as_checked_iff_sales :
    ∃ known, Check.operations none (knownColumns [⟨"sales", [], none⟩] sales) [] = .ok known ∧
      known.resolve none (.ofName "region") = .ok ⟨"sales.region", none⟩ ∧
      (∃ r, Reached {} sales relabelled r) ∧
      ∀ r, Reached {} sales relabelled r →
        r.resolve none (.ofName "region") ≠ .ok "sales.region" := by
  have consistent : Consistent (columnsInPlay [⟨"sales", [], none⟩] relabelled sales)
      (Operation.namesSought relabelled) :=
    ⟨by decide +kernel, caseFoldsAgree_of_ascii (by decide +kernel)⟩
  obtain ⟨_, checked⟩ := isSome_toOption_iff.1 (by decide +kernel :
    (checkBatches (salesPipeline relabelled) sales).toOption.isSome = true)
  have split : relabelled = [] ++ totalQuantity ["region"] :: [allRegions] := rfl
  have named : .ofName "region" ∈ (totalQuantity ["region"]).references := by decide +kernel
  obtain ⟨known, column, start, found, -, aggregated⟩ :=
    resolved_as_checked_iff {} rfl rfl rfl suited_sales.ofRows consistent checked split named
  obtain rfl : knownColumns [⟨"sales", [], none⟩] sales = known := Except.ok.inj start
  have region : (knownColumns [⟨"sales", [], none⟩] sales).resolve none (.ofName "region") =
      .ok ⟨"sales.region", none⟩ := by decide +kernel
  obtain rfl := Except.ok.inj (found.symm.trans region)
  have walk : (do
      let rowOps ← RowOp.compile none relabelled
      RowOp.onRow (mode {} none) rowOps northSale) =
        .ok (some (northSale.set "region" (.text "all"))) := by decide +kernel
  obtain ⟨rowOps, compiled, ran⟩ := bind_eq_ok.1 walk
  have north : northSale ∈ Batch.merge sales := by decide +kernel
  refine ⟨_, start, region, ⟨_, northSale, north, rowOps, compiled, ran⟩, fun r reached => ?_⟩
  rw [Ne, aggregated rfl r reached]
  rintro ⟨-, same | only⟩
  · revert same
    decide
  · have taken := only "region" (by decide) (by decide)
    revert taken
    decide

end Run

end RowPipeline
