import RowPipeline.Proofs.Printing
import RowPipeline.Proofs.ResolutionOrder

/-! # Reading what was written

An operation on rows writes its target under the very name that it was given. A later name that the
check takes for this target reads what was written, unless a batch has the column in another
spelling: the check holds the two for one column, and the row for two.
-/

namespace RowPipeline

open Outcome Text Name

namespace Check

variable {scope : Option String}

theorem targets_of_operation {p q : Progress} {op : Operation} (h : operation scope p op = .ok q) :
    q.targets = (Operation.targetNames scope [op]).map lower ++ p.targets ∧
      (p.targets.Nodup → q.targets.Nodup) := by
  unfold operation at h
  cases target : op.target? with
  | none =>
      simp only [target] at h
      obtain ⟨_, _, h⟩ := bind_eq_ok.1 h
      cases h
      simp [Operation.targetNames, target]
  | some t =>
      simp only [target] at h
      split at h
      next => cases h
      next =>
        split at h
        next => cases h
        next fresh =>
          obtain ⟨_, _, h⟩ := bind_eq_ok.1 h
          cases h
          constructor
          · simp [Operation.targetNames, target]
          · intro distinct
            exact List.nodup_cons.2 ⟨by simpa using fresh, distinct⟩

theorem targets_of_walk {ops : List Operation} {p q : Progress}
    (walk : ops.foldlM (operation scope) p = .ok q) :
    q.targets.Perm ((Operation.targetNames scope ops).map lower ++ p.targets) ∧
      (p.targets.Nodup → q.targets.Nodup) := by
  induction ops generalizing p with
  | nil =>
      simp only [List.foldlM_nil, pure_eq_ok] at walk
      subst walk
      simp [Operation.targetNames]
  | cons op ops ih =>
      obtain ⟨m, step, rest⟩ := bind_eq_ok.1 walk
      obtain ⟨listed, distinct⟩ := ih rest
      obtain ⟨own, kept⟩ := targets_of_operation step
      refine ⟨listed.trans ?_, distinct ∘ kept⟩
      rw [own, Operation.targetNames_cons scope op ops, List.map_append, ← List.append_assoc]
      exact List.perm_append_comm.append_right _

theorem nodup_lower_targets {r known : Registry} {ops : List Operation}
    (checked : operations scope r ops = .ok known) :
    ((Operation.targetNames scope ops).map lower).Nodup := by
  obtain ⟨p, walk, -⟩ := operations_eq_ok.1 checked
  obtain ⟨listed, distinct⟩ := targets_of_walk walk
  simpa using listed.nodup_iff.1 (distinct List.nodup_nil)

theorem eq_of_lower_target {r known : Registry} {ops : List Operation}
    (checked : operations scope r ops = .ok known) {x y : String}
    (hx : x ∈ Operation.targetNames scope ops) (hy : y ∈ Operation.targetNames scope ops)
    (same : lower x = lower y) : x = y :=
  List.inj_on_of_nodup_map (nodup_lower_targets checked) hx hy same

theorem target_once {r known : Registry} {before between : List Operation} {op : Operation}
    (checked : operations scope r (before ++ op :: between) = .ok known) {target : Target}
    (writes : op.target? = some target) :
    inScope scope target.column ∈ Operation.targetNames scope (before ++ op :: between) ∧
      inScope scope target.column ∉ Operation.targetNames scope between := by
  have targets : Operation.targetNames scope (before ++ op :: between) =
      Operation.targetNames scope before ++
        inScope scope target.column :: Operation.targetNames scope between := by
    rw [Operation.targetNames_append, Operation.targetNames_cons]
    simp [Operation.targetNames, writes]
  have distinct := nodup_lower_targets checked
  rw [targets, List.map_append, List.map_cons] at distinct
  have other := (List.nodup_cons.1 (List.nodup_append.1 distinct).2.1).1
  exact ⟨by simp [targets], fun again => other (List.mem_map_of_mem again)⟩

end Check

namespace Row

variable {r : Row} {c : ColumnRef}

theorem findColumn?_exact {name : String} (present : name ∈ r.columns) :
    r.findColumn? name = some name := by
  have exact : r.columns.find? (· == name) = some name := by
    cases found : r.columns.find? (· == name) with
    | none => exact absurd (beq_self_eq_true name) (List.find?_eq_none.1 found name present)
    | some column =>
        have same : column = name := by simpa using List.find?_some found
        rw [same]
  rw [findColumn?, exact, Option.some_or]

theorem lookup_of_resolve {column : String} {v : Value} (resolved : r.resolve none c = .ok column)
    (held : r.get? column = some v) : r.lookup none c = .ok v := by
  rw [lookup, resolved]
  simp only [held, bind, Except.bind]
  rfl

/-- A name that the check takes for a column stands for that column in a row that has it in one
spelling alone. -/
theorem resolve_of_registered {known : Registry} (keyed : known.Keyed) {column : KnownColumn}
    (found : known.resolve none c = .ok column)
    (registered : ∀ x ∈ r.columns, known.contains x = true)
    (agree : CaseFoldsAgree (c.written :: (known.names ++ r.columns))) {name : String}
    (present : name ∈ r.columns) (same : lower name = lower column.name)
    (unique : ∀ x ∈ r.columns, lower x = lower name → x = name) :
    r.resolve none c = .ok name := by
  have folds : ∀ x ∈ r.columns, lower x = lower c.written ↔ sameIgnoringCase x c.written = true :=
    fun x member => agree x (by simp [member]) c.written (by simp)
  have spelled : known.find? c.written = some column → r.resolve none c = .ok name := by
    intro hit
    have lowered := same.trans (keyed.name_of_find? hit).2
    apply resolve_of_findColumn?
    cases seek : r.findColumn? c.written with
    | none =>
        have other := findColumn?_eq_none_iff.1 seek name present
        rw [(folds name present).1 lowered] at other
        cases other
    | some x =>
        obtain ⟨member, spelled⟩ := findColumn?_eq_some seek
        rw [unique x member (((folds x member).2 spelled).trans lowered.symm)]
  rcases Registry.resolve_cases found with
    ⟨_, hit⟩ | ⟨bare, hit | ⟨_, hit⟩ | ⟨_, unknown, field, single, h⟩⟩
  · exact spelled hit
  · exact spelled hit
  · exact spelled hit
  · have listed : field ∈ known.columnsOfField c.written := by simp [single]
    obtain ⟨member, has⟩ := List.mem_filter.1 listed
    obtain ⟨column', hit, rfl⟩ := keyed.find?_of_mem_names member rfl
    rw [hit, Option.getD_some] at h
    subst h
    -- The check went by the field, so it knew no spelling of the name, and the row has none.
    have other : ∀ x ∈ r.columns, sameIgnoringCase x c.written = false := by
      intro x present
      rw [← Bool.not_eq_true, ← folds x present]
      intro lowered
      have contained := registered x present
      rw [Registry.contains, Registry.find?, lowered, ← Registry.find?, unknown] at contained
      cases contained
    have fields : ∀ x ∈ r.columns, c.fits x = true ↔ x = name := by
      intro x present'
      rw [c.fits_eq_hasField bare (other x present')]
      constructor
      · intro field
        obtain ⟨spelling, member', lowered⟩ := keyed.contains_iff.1 (registered x present')
        have folded := (agree spelling (by simp [member']) x (by simp [present'])).1 lowered
        have hit : spelling ∈ known.columnsOfField c.written :=
          List.mem_filter.2 ⟨member', hasField_congr _ folded ▸ field⟩
        rw [single, List.mem_singleton] at hit
        apply unique x present'
        rw [← lowered, hit, same]
      · rintro rfl
        have folded := (agree column'.name (by simp [member]) x (by simp [present])).1 same.symm
        rwa [← hasField_congr _ folded]
    rw [resolve_bare bare]
    simp only [inScope, Option.or_self, findColumn?_eq_none_iff.2 other]
    rw [columnsOfField_eq_filter_fits bare (findColumn?_eq_none_iff.2 other),
      filter_fits_eq_singleton_iff.2 ⟨present, (fields name present).2 rfl,
        fun x present => (fields x present).1⟩]

end Row

theorem Registry.resolve_of_find? {known : Registry} {c : ColumnRef} {column : KnownColumn}
    (hit : known.find? c.written = some column) : known.resolve none c = .ok column := by
  cases qualified : c.hasAlias with
  | true => simp [resolve, qualified, hit]
  | false => simp [resolve, qualified, inScope, hit]

theorem RowOp.Leads.exists_written {mode : EvalMode} {before between : List Operation}
    {op : Operation} (onRows : op.isAggregate = false) {target : Target}
    (writes : op.target? = some target)
    (once : inScope mode.scope target.column ∉ Operation.targetNames mode.scope between)
    {r₀ r : Row} (met : Leads mode (before ++ op :: between) r₀ r) :
    ∃ m v, Leads mode before r₀ m ∧
      Leads mode [op] m (m.set (inScope mode.scope target.column) v) ∧
      Leads mode between (m.set (inScope mode.scope target.column) v) r ∧
      r.get? (inScope mode.scope target.column) = some v := by
  obtain ⟨m, first, rest⟩ := leads_append_iff.1 met
  obtain ⟨m', wrote, later⟩ := leads_append_iff.1 (List.singleton_append ▸ rest)
  obtain ⟨v, rfl⟩ := wrote.exists_write onRows writes
  refine ⟨m, v, first, wrote, later, ?_⟩
  rw [later.get?_of_other once, Row.get?_set, if_pos rfl]

namespace Run

variable {config : Config} {sources : List Source} {t : Transform} {batches : List Batch}
  {p : Pipeline}

theorem Reached.mem_columns_of_plain {ops : List Operation} {r : Row}
    (reached : Reached config batches ops r) (plain : ∀ op ∈ ops, op.isAggregate = false)
    (ofRows : ∀ b ∈ batches, b.IsOfRows) {column : String} :
    column ∈ r.columns ↔
      column ∈ batches.flatMap Batch.columns ++ Operation.targetNames none ops := by
  rw [reached.mem_columns ofRows, Operation.onRows_of_plain plain, List.mem_append]

section

variable {ops done rest : List Operation} (split : ops = done ++ rest)
  (plain : ∀ op ∈ ops, op.isAggregate = false) (ofRows : ∀ b ∈ batches, b.IsOfRows)
  (agree : CaseFoldsAgree (columnsInPlay sources ops batches ++ Operation.namesSought ops))
  {known : Registry}
  (checked : Check.operations none (knownColumns sources batches) done = .ok known)
  {target : String} (written : target ∈ Operation.targetNames none done)

include split ofRows agree checked written

include plain in
/-- A name that the check takes for a target stands for the target in a row behind the operations,
if no batch has the target in another spelling. -/
theorem resolve_target {r : Row} (reached : Reached config batches done r) {c : ColumnRef}
    (sought : c.written ∈ Operation.namesSought ops) {column : KnownColumn}
    (found : known.resolve none c = .ok column) (same : lower column.name = lower target)
    (alike : c.written = target ∨ ∀ name ∈ batches.flatMap Batch.columns,
      sameIgnoringCase name target = true → name = target) :
    r.resolve none c = .ok target := by
  obtain ⟨within, contained⟩ := known_of_operations split checked
  have prefixed : done <+: ops := ⟨_, split.symm⟩
  have columns : ∀ column, column ∈ r.columns ↔
      column ∈ batches.flatMap Batch.columns ++ Operation.targetNames none done := fun _ =>
    reached.mem_columns_of_plain (fun op own => plain op (prefixed.subset own)) ofRows
  have inPlay := reached.inPlay ofRows prefixed sources
  have present := (columns target).2 (List.mem_append_right _ written)
  rcases alike with rfl | alike
  · exact Row.resolve_of_findColumn? (Row.findColumn?_exact present)
  · have registered : ∀ x ∈ r.columns, known.contains x = true :=
      fun x member => contained x ((columns x).1 member)
    -- Two targets never differ in case alone, so another spelling could only be in a batch.
    have unique : ∀ x ∈ r.columns, lower x = lower target → x = target := by
      intro x member lowered
      rcases List.mem_append.1 ((columns x).1 member) with batched | listed
      · apply alike x batched
        exact (agree x (List.mem_append_left _ (inPlay member)) target
          (List.mem_append_left _ (inPlay present))).1 lowered
      · exact Check.eq_of_lower_target checked listed written lowered
    refine Row.resolve_of_registered within.keyed found registered (agree.subset ?_) present
      same.symm unique
    refine List.cons_subset.2 ⟨List.mem_append_right _ sought, List.append_subset.2 ⟨?_, ?_⟩⟩
    · exact fun name member => List.mem_append_left _ (within.sub member)
    · exact fun name member => List.mem_append_left _ (inPlay member)

/-- A batch's column that is another spelling of a target keeps its value, though the check takes it
for the target. -/
theorem lookup_other_spelling {r₀ r : Row} (member : r₀ ∈ Batch.merge batches)
    (met : RowOp.Leads (mode config none) done r₀ r) {name : String}
    (batched : name ∈ batches.flatMap Batch.columns) (spelled : sameIgnoringCase name target = true)
    (other : name ≠ target) :
    (∃ column, known.resolve none (.ofName name) = .ok column ∧
      lower column.name = lower target) ∧
      ∃ old, r₀.get? name = some old ∧ r.lookup none (.ofName name) = .ok old := by
  obtain ⟨within, contained⟩ := known_of_operations split checked
  have inPlay : target ∈ columnsInPlay sources ops batches := by
    rw [columnsInPlay, split, Operation.targetNames_append]
    exact List.mem_append_right _ (List.mem_append_left _ written)
  have inPlay' : name ∈ columnsInPlay sources ops batches :=
    List.mem_append_left _ (List.mem_append_left _ batched)
  have lowered : lower name = lower target :=
    (agree name (List.mem_append_left _ inPlay') target (List.mem_append_left _ inPlay)).2 spelled
  have untouched : name ∉ Operation.targetNames none done :=
    fun listed => other (Check.eq_of_lower_target checked listed written lowered)
  constructor
  · have listed := contained name (List.mem_append_left _ batched)
    obtain ⟨column, hit⟩ := Option.isSome_iff_exists.1 listed
    refine ⟨column, ?_, (within.keyed.name_of_find? hit).2.trans lowered⟩
    exact Registry.resolve_of_find? (by rwa [ColumnRef.written_ofName])
  · obtain ⟨old, held⟩ :=
      Row.mem_columns_iff.1 ((Batch.mem_columns_of_mem_merge ofRows member).2 batched)
    have kept : r.get? name = some old := (met.get?_of_other untouched).trans held
    have found := Row.findColumn?_exact (Row.mem_columns_iff.2 ⟨old, kept⟩)
    have resolved : r.resolve none (.ofName name) = .ok name :=
      Row.resolve_of_findColumn? (by rwa [ColumnRef.written_ofName])
    exact ⟨old, held, Row.lookup_of_resolve resolved kept⟩

end

/-- Where both foldings of case agree, what an operation writes is what every later name reads that
the check takes for its target, if no batch has the target in another spelling or the name is
spelled as the target is. A batch's column in another spelling keeps its old value, and its name
reads that, although the check takes it for the target as well. -/
theorem reads_as_written (config : Config) (extracts : p.extract = some sources)
    (transforms : p.transform = some t) (blockless : t.blocks = [])
    (plain : ∀ op ∈ t.operations, op.isAggregate = false) (ofRows : ∀ b ∈ batches, b.IsOfRows)
    (agree : CaseFoldsAgree (columnsInPlay sources t.operations batches ++
      Operation.namesSought t.operations))
    {final : Registry} (checked : checkBatches p batches = .ok final)
    {before between after : List Operation} {writer reader : Operation}
    (split : t.operations = (before ++ writer :: between) ++ reader :: after) {target : Target}
    (writes : writer.target? = some target) {r₀ r : Row} (member : r₀ ∈ Batch.merge batches)
    (met : RowOp.Leads (mode config none) (before ++ writer :: between) r₀ r) :
    ∃ known m v,
      Check.operations none (knownColumns sources batches) (before ++ writer :: between) =
        .ok known ∧
      RowOp.Leads (mode config none) before r₀ m ∧
      RowOp.Leads (mode config none) [writer] m (m.set target.column v) ∧
      RowOp.Leads (mode config none) between (m.set target.column v) r ∧
      (∀ c ∈ reader.references, ∀ column, known.resolve none c = .ok column →
        lower column.name = lower target.column →
        (c.written = target.column ∨ ∀ name ∈ batches.flatMap Batch.columns,
          sameIgnoringCase name target.column = true → name = target.column) →
        r.lookup none c = .ok v) ∧
      ∀ name ∈ batches.flatMap Batch.columns, sameIgnoringCase name target.column = true →
        name ≠ target.column →
        (∃ column, known.resolve none (.ofName name) = .ok column ∧
          lower column.name = lower target.column) ∧
        ∃ old, r₀.get? name = some old ∧ r.lookup none (.ofName name) = .ok old := by
  obtain ⟨known, earlier, -⟩ := exists_known_before extracts transforms blockless checked split
  obtain ⟨written, once⟩ := Check.target_once earlier writes
  have onRows : writer.isAggregate = false := plain writer (by simp [split])
  obtain ⟨m, v, first, wrote, later, held⟩ := met.exists_written onRows writes once
  refine ⟨known, m, v, earlier, first, wrote, later, ?_, ?_⟩
  · intro c named column found same alike
    have sought : c.written ∈ Operation.namesSought t.operations :=
      List.mem_map_of_mem (List.mem_flatMap.2 ⟨reader, by simp [split], named⟩)
    have resolved := resolve_target split plain ofRows agree earlier written ⟨r₀, member, met⟩
      sought found same alike
    exact Row.lookup_of_resolve resolved held
  · intro name batched spelled other
    exact lookup_other_spelling split ofRows agree earlier written member met batched spelled
      other

/-- One region for all sales, under another spelling of the column. -/
def allRegionsRespelled : Operation :=
  .map "\"all\"" ⟨"Sales.Region", none⟩

def copyRegion : Operation :=
  .map "sales.region" ⟨"copy", none⟩

/-- The check takes the region for the target of the first operation, but the copy is of the region
that the batch has. -/
theorem stale_read_sales :
    (∃ known, checkBatches (salesPipeline [allRegionsRespelled, copyRegion]) sales = .ok known) ∧
      (ofBatches {} (salesPipeline [allRegionsRespelled, copyRegion]) sales).toOption.map
        (List.map fun r => (r.get? "Sales.Region", r.get? "copy")) =
          some [(some (.text "all"), some (.text "north")), (some (.text "all"), some .null)] :=
  ⟨isSome_toOption_iff.1 (by decide +kernel), by decide +kernel⟩

theorem reads_as_written_sales :
    ∃ known column,
      Check.operations none (knownColumns [⟨"sales", [], none⟩] sales) [allRegionsRespelled] =
        .ok known ∧
      known.resolve none (.ofName "sales.region") = .ok column ∧
      lower column.name = lower "Sales.Region" ∧
      RowOp.Leads (mode {} none) [allRegionsRespelled] northSale
        (northSale.set "Sales.Region" (.text "all")) ∧
      (northSale.set "Sales.Region" (.text "all")).lookup none (.ofName "sales.region") =
        .ok (.text "north") := by
  have plain : ∀ op ∈ [allRegionsRespelled, copyRegion], op.isAggregate = false := by decide
  have agree : CaseFoldsAgree
      (columnsInPlay [⟨"sales", [], none⟩] [allRegionsRespelled, copyRegion] sales ++
        Operation.namesSought [allRegionsRespelled, copyRegion]) :=
    caseFoldsAgree_of_ascii (by decide +kernel)
  obtain ⟨_, checked⟩ := isSome_toOption_iff.1 (by decide +kernel :
    (checkBatches (salesPipeline [allRegionsRespelled, copyRegion]) sales).toOption.isSome = true)
  have split : [allRegionsRespelled, copyRegion] =
      ([] ++ allRegionsRespelled :: []) ++ copyRegion :: [] := rfl
  have member : northSale ∈ Batch.merge sales := by decide +kernel
  have walk : (do
      let rowOps ← RowOp.compile none [allRegionsRespelled]
      RowOp.onRow (mode {} none) rowOps northSale) =
        .ok (some (northSale.set "Sales.Region" (.text "all"))) := by decide +kernel
  have met : RowOp.Leads (mode {} none) ([] ++ allRegionsRespelled :: []) northSale
      (northSale.set "Sales.Region" (.text "all")) := bind_eq_ok.1 walk
  obtain ⟨known, _, _, earlier, _, _, _, _, others⟩ := reads_as_written {} rfl rfl rfl plain
    suited_sales.ofRows agree checked split rfl member met
  obtain ⟨⟨column, resolved, same⟩, old, held, stale⟩ :=
    others "sales.region" (by decide +kernel) (by decide +kernel) (by decide +kernel)
  have north : northSale.get? "sales.region" = some (.text "north") := by decide +kernel
  obtain rfl := Option.some.inj (held.symm.trans north)
  exact ⟨known, column, earlier, resolved, same, met, stale⟩

end Run

end RowPipeline
