import RowPipeline.Proofs.ValueDependence
import RowPipeline.Proofs.WideShape

/-! # Orders of arrival

Which row is the first of its group, and which group is the first, hangs on the order in which the
rows come, and so do the numbers that a tally has seen. Counts and the least and greatest values do
not: in another order the rows of the groups come out in another order, and each is what it was but
for the decimal places of its numbers and the way in which its group-by values are written.
-/

namespace RowPipeline

open Outcome

/-! ## The order of the values -/

namespace Decimal

theorem rel_least? {xs ys : List Decimal} (perm : xs.Perm ys) :
    Option.Rel (fun x y => x.sameValue y = true) (least? xs) (least? ys) :=
  ranks_atMost.rel_firstBest? (fun _ _ => sameValue_of_atMost) perm

theorem rel_greatest? {xs ys : List Decimal} (perm : xs.Perm ys) :
    Option.Rel (fun x y => x.sameValue y = true) (greatest? xs) (greatest? ys) :=
  ranks_atLeast.rel_firstBest? (fun _ _ more less => sameValue_of_atMost less more)
    ((List.reverse_perm xs).trans (perm.trans (List.reverse_perm ys).symm))

end Decimal

/-- The function counts, or takes the least or the greatest value, so that its result does not hang
on the order of the values. -/
def AggregateFunction.ignoresOrder : AggregateFunction → Bool
  | count | least | greatest => true
  | sum | average => false

theorem AggregateFunction.rel_ofValues? {f : AggregateFunction} (ignores : f.ignoresOrder = true)
    (allowEmpty : Bool) {values values' : List Value} (perm : values.Perm values') :
    Option.Rel (fun v w => v.same w = true) (f.ofValues? allowEmpty values)
      (f.ofValues? allowEmpty values') := by
  have best : ∀ {x y : Option Decimal}, Option.Rel (fun m n => m.sameValue n = true) x y →
      (x.elim Value.null .number).same (y.elim .null .number) = true := by
    intro x y related
    cases related with
    | none => rfl
    | some equal => exact equal
  cases f with
  | count =>
      rw [ofValues?, ofValues?, perm.length_eq]
      exact rel_refl Value.same_refl _
  | least =>
      apply rel_bind (rel_mapM_of_perm _ perm)
      intro _ _ _ order
      exact .some (best (Decimal.rel_least? order))
  | greatest =>
      apply rel_bind (rel_mapM_of_perm _ perm)
      intro _ _ _ order
      exact .some (best (Decimal.rel_greatest? order))
  | sum | average => cases ignores

namespace GroupBy

variable {mode : EvalMode} {allowEmpty : Bool}

theorem rel_declared? {v w : Value} (equal : v.same w = true) (type : Option ColumnType) :
    Option.Rel (fun v w => v.same w = true) (declared? type v) (declared? type w) := by
  obtain rfl | ⟨m, n, rfl, rfl, value⟩ := Value.same_cases equal
  · exact rel_refl Value.same_refl _
  · cases type with
    | none => exact .some value
    | some t =>
        cases t with
        | int =>
            change Option.Rel _ (some (Value.number m.trunc)) (some (Value.number n.trunc))
            rw [Decimal.trunc_congr value]
            exact rel_refl Value.same_refl _
        | decimal => exact .some value
        | string =>
            change Option.Rel _ (some (Value.text m.canonical)) (some (Value.text n.canonical))
            rw [Decimal.canonical_congr value]
            exact rel_refl Value.same_refl _
        | boolean =>
            change Option.Rel _ (some (Value.boolean !m.isZero)) (some (Value.boolean !n.isZero))
            rw [Decimal.isZero_congr value]
            exact rel_refl Value.same_refl _

theorem rel_result? {a : Aggregate} (ignores : a.function.ignoresOrder = true)
    {rows rows' : List Row} (perm : rows.Perm rows') :
    Option.Rel (fun v w => v.same w = true) (result? mode allowEmpty a rows)
      (result? mode allowEmpty a rows') := by
  apply rel_bind (rel_mapM_of_perm _ perm)
  intro values values' _ order
  apply rel_bind (a.function.rel_ofValues? ignores allowEmpty (order.filter _))
  intro v w _ equal
  exact rel_declared? equal a.target.type

end GroupBy

/-! ## The order of the rows in a group -/

/-- The rows have the same columns, with values of the same canonical texts, and with equal values
at the targets. -/
structure Row.Matches (targets : List String) (r s : Row) : Prop where
  origin : r.origin = s.origin
  columns : r.columns = s.columns
  texts : ∀ column, (r.get? column).map Value.canonical? = (s.get? column).map Value.canonical?
  values : ∀ column ∈ targets,
    ∃ v w, r.get? column = some v ∧ s.get? column = some w ∧ v.same w = true

theorem Row.matches_ofList {keys keys' results results' : List (String × Value)}
    (written : Entries.Beside (fun v w => v.canonical? = w.canonical?) keys keys')
    (equal : Entries.Beside (fun v w => v.same w = true) results results')
    (origin : Option String) :
    (ofList (keys ++ results) origin).Matches (Entries.keys results)
      (ofList (keys' ++ results') origin) := by
  have all : Entries.Beside (fun v w => v.canonical? = w.canonical?) (keys ++ results)
      (keys' ++ results') :=
    List.rel_append written (equal.imp fun _ _ h => ⟨h.1, Value.canonical?_congr h.2⟩)
  constructor
  · rfl
  · rw [columns_ofList, columns_ofList, OrderedMap.keys_ofList, OrderedMap.keys_ofList,
      Entries.keys_eq_of_beside all]
  · intro column
    exact map_eq_of_rel (OrderedMap.rel_get?_ofList all column) fun _ _ same => same
  · intro column target
    rw [get?_ofList, get?_ofList, OrderedMap.get?_ofList_append_of_mem target,
      OrderedMap.get?_ofList_append_of_mem (Entries.keys_eq_of_beside equal ▸ target)]
    obtain ⟨v, held⟩ := OrderedMap.mem_keys_iff.1 (OrderedMap.mem_keys_ofList.2 target)
    obtain ⟨w, held', same⟩ := exists_of_rel (OrderedMap.rel_get?_ofList equal column) held
    exact ⟨v, w, held, held', same⟩

namespace GroupBy

variable {mode : EvalMode} {allowEmpty : Bool}

/-- The groups have the same rows in some order, and keys of the same canonical texts. -/
structure Reordered (group group' : List Keyed) : Prop where
  rows : group.Perm group'
  keys : Entries.Beside (fun v w => v.canonical? = w.canonical?) (keysOfGroup group)
    (keysOfGroup group')

theorem rel_row? {as : List Aggregate} (ignore : ∀ a ∈ as, a.function.ignoresOrder = true)
    {group group' : List Keyed} (reordered : Reordered group group') :
    Option.Rel (Row.Matches (as.map (·.target.column))) (row? mode allowEmpty as group)
      (row? mode allowEmpty as group') := by
  have results : Option.Rel (Entries.Beside fun v w => v.same w = true)
      (as.mapM fun a => (result? mode allowEmpty a (group.map Prod.snd)).map (a.target.column, ·))
      (as.mapM fun a => (result? mode allowEmpty a (group'.map Prod.snd)).map
        (a.target.column, ·)) := by
    apply rel_mapM (List.forall₂_same.2 fun _ _ => rfl)
    rintro a member _ rfl
    rw [Option.map_eq_bind, Option.map_eq_bind]
    apply rel_bind (rel_result? (ignore a member) (reordered.rows.map Prod.snd))
    intro v w _ equal
    exact .some ⟨rfl, equal⟩
  rw [row?_eq_map, row?_eq_map, Option.map_eq_bind, Option.map_eq_bind]
  apply rel_bind results
  intro results results' found beside
  have targets : Entries.keys results = as.map (·.target.column) := by
    apply keys_of_results
    apply (mapM_eq_some.1 found).imp
    intro a e entry
    obtain ⟨v, result, rfl⟩ := Option.map_eq_some_iff.1 entry
    exact ⟨rfl, result⟩
  rw [← targets]
  exact .some (Row.matches_ofList reordered.keys beside mode.scope)

/-- Rows of the same names whose keys have the same canonical texts have them in the same
columns. -/
theorem beside_of_vector_eq {cs : List ColumnRef} {k k' : Keyed} (names : k.2.SameNames k'.2)
    (own : keys? mode cs k.2 = some k.1) (other : keys? mode cs k'.2 = some k'.1)
    (same : vector k = vector k') :
    Entries.Beside (fun v w => v.canonical? = w.canonical?) k.1 k'.1 := by
  have columns : List.Forall₂ (fun e f : String × Value => e.1 = f.1) k.1 k'.1 := by
    apply (forall₂_comp (mapM_eq_some.1 own).flip (mapM_eq_some.1 other)).imp
    rintro e f ⟨c, first, second⟩
    obtain ⟨name, resolved, held⟩ := Option.bind_eq_some_iff.1 first
    obtain ⟨name', resolved', held'⟩ := Option.bind_eq_some_iff.1 second
    cases held
    cases held'
    have outcome := names.resolve mode.scope c
    rw [toOption_eq_some.1 resolved, toOption_eq_some.1 resolved'] at outcome
    cases outcome with
    | ok equal => exact equal
  have texts : List.Forall₂ (fun e f : String × Value => e.2.canonical? = f.2.canonical?)
      k.1 k'.1 := by
    rwa [vector, vector, ← List.forall₂_eq_eq_eq, List.forall₂_map_left_iff,
      List.forall₂_map_right_iff] at same
  refine List.forall₂_iff_zip.2 ⟨columns.length_eq, ?_⟩
  intro e f member
  exact ⟨(List.forall₂_iff_zip.1 columns).2 member, (List.forall₂_iff_zip.1 texts).2 member⟩

theorem vectors_perm (groupBy : List ColumnRef) (allowEmpty : Bool) {keyed keyed' : List Keyed}
    (perm : keyed.Perm keyed') :
    (vectors groupBy allowEmpty keyed).Perm (vectors groupBy allowEmpty keyed') := by
  unfold vectors
  rw [perm.isEmpty_eq]
  split
  · exact .refl _
  · exact OrderedMap.perm_eraseDups (perm.map vector)

theorem reordered_filter {keyed keyed' : List Keyed} (perm : keyed.Perm keyed')
    (alike : ∀ k ∈ keyed, ∀ k' ∈ keyed, vector k = vector k' →
      Entries.Beside (fun v w => v.canonical? = w.canonical?) k.1 k'.1)
    (v : List (Option String)) :
    Reordered (keyed.filter (vector · = v)) (keyed'.filter (vector · = v)) := by
  have rows := perm.filter fun k => decide (vector k = v)
  refine ⟨rows, ?_⟩
  -- The keys come from the first rows, which need not be the same row, but both have the vector.
  cases first : keyed.filter (vector · = v) with
  | nil =>
      rw [first] at rows
      rw [rows.nil_eq.symm]
      exact .nil
  | cons k group =>
      cases second : keyed'.filter (vector · = v) with
      | nil =>
          rw [first, second] at rows
          cases rows.eq_nil
      | cons k' group' =>
          have own := List.mem_filter.1 (first ▸ List.mem_cons_self : k ∈ keyed.filter _)
          have other := List.mem_filter.1 (second ▸ List.mem_cons_self : k' ∈ keyed'.filter _)
          apply alike k own.1 k' (perm.mem_iff.2 other.1)
          rw [of_decide_eq_true own.2, of_decide_eq_true other.2]

theorem rel_groups? {cs : List ColumnRef} {rows rows' : List Row} (perm : rows.Perm rows')
    (names : ∀ r ∈ rows, ∀ s ∈ rows, r.SameNames s) :
    Option.Rel (Rearranged Reordered) (groups? mode cs allowEmpty rows)
      (groups? mode cs allowEmpty rows') := by
  unfold groups?
  apply rel_bind (rel_mapM_of_perm _ perm)
  intro keyed keyed' found order
  -- A group stands beside the group of its vector, wherever that is in the other order.
  refine .some ⟨(vectors cs allowEmpty keyed).map fun v => keyed'.filter (vector · = v), ?_,
    (vectors_perm cs allowEmpty order).map _⟩
  rw [List.forall₂_map_left_iff, List.forall₂_map_right_iff]
  apply List.forall₂_same.2
  intro v _
  apply reordered_filter order
  intro k own k' other
  obtain ⟨row, keys⟩ := mem_rows_of_keyed found own
  obtain ⟨row', keys'⟩ := mem_rows_of_keyed found other
  exact beside_of_vector_eq (names k.2 row k'.2 row') keys keys'

theorem rel_rows? {cs : List ColumnRef} {as : List Aggregate}
    (ignore : ∀ a ∈ as, a.function.ignoresOrder = true) {rows rows' : List Row}
    (perm : rows.Perm rows') (names : ∀ r ∈ rows, ∀ s ∈ rows, r.SameNames s) :
    Option.Rel (Rearranged (Row.Matches (as.map (·.target.column))))
      (rows? mode allowEmpty cs as rows) (rows? mode allowEmpty cs as rows') := by
  rw [rows?_eq_bind, rows?_eq_bind]
  apply rel_bind (rel_groups? perm names)
  intro groups groups' _ rearranged
  exact rearranged.rel_mapM fun _ _ reordered => rel_row? ignore reordered

end GroupBy

/-! ## The order of all rows -/

/-- The operation is no aggregate, or its function counts or takes the least or the greatest value.
A name without a function is no matter, since nothing is reduced then. -/
def Operation.ignoresOrder : Operation → Bool
  | aggregate function _ _ _ =>
    (AggregateFunction.ofName? function).all AggregateFunction.ignoresOrder
  | map .. | choose .. | filter .. => true

theorem Aggregate.ignoresOrder_of_compileAll {scope : Option String} {ops : List Operation}
    {as : List Aggregate} (compiled : compileAll scope ops = .ok as)
    (ignore : ∀ op ∈ ops, op.ignoresOrder = true) :
    ∀ a ∈ as, a.function.ignoresOrder = true := by
  intro a member
  obtain ⟨op, listed, own⟩ := mem_compileAll compiled member
  have ignores := ignore op listed
  obtain ⟨named, _⟩ := own
  simpa only [Operation.ignoresOrder, named, Option.all_some] using ignores

namespace Reduction

theorem rel_run (mode : EvalMode) (allowEmpty : Bool) {c : Reduction} {rows rows' : List Row}
    (ignore : ∀ a ∈ c.aggregates, a.function.ignoresOrder = true) (perm : rows.Perm rows')
    (names : ∀ r ∈ rows, ∀ s ∈ rows, r.SameNames s) :
    Option.Rel (Rearranged (Row.Matches (c.aggregates.map (·.target.column))))
      (c.run mode allowEmpty rows).toOption (c.run mode allowEmpty rows').toOption := by
  rw [toOption_run, toOption_run]
  exact GroupBy.rel_rows? ignore perm names

/-- What counts and least and greatest values come to does not hang on the order of the rows, if
these have the same columns, no two of which differ in case alone. The rows can be reduced in both
orders or in neither, and then every reduction has the same rows in both but for their order: a row
of the one stands for a row of the other with the same columns, with values of the same canonical
texts in them, and with equal values at the targets. -/
theorem reduce_ignores_order (config : Config) (mode : EvalMode) {ops : List Operation}
    (ignore : ∀ op ∈ ops, op.ignoresOrder = true) {rows rows' : List Row}
    (perm : rows.Perm rows') (names : ∀ r ∈ rows, ∀ s ∈ rows, r.SameNames s) :
    ((∃ out, reduce config mode ops rows = .ok out) ↔
      ∃ out, reduce config mode ops rows' = .ok out) ∧
    ∀ out out', reduce config mode ops rows = .ok out → reduce config mode ops rows' = .ok out' →
      ∃ as cs parts, Aggregate.compileAll mode.scope ops = .ok as ∧
        cs.map aggregates = families config.shape as ∧
        List.Forall₂ (fun c part => c.run mode config.emptyGroups rows = .ok part.1 ∧
          c.run mode config.emptyGroups rows' = .ok part.2 ∧
          Rearranged (Row.Matches (c.aggregates.map (·.target.column))) part.1 part.2) cs parts ∧
        (parts.map Prod.fst).flatten = out ∧ (parts.map Prod.snd).flatten = out' := by
  have ignoring : ∀ {as}, Aggregate.compileAll mode.scope ops = .ok as →
      ∀ c ∈ ofAggregates config.shape as, ∀ a ∈ c.aggregates, a.function.ignoresOrder = true :=
    fun compiled _ placed a member =>
      Aggregate.ignoresOrder_of_compileAll compiled ignore a (mem_ofAggregates placed member)
  constructor
  · simp only [exists_reduce_iff, ← toOption_run]
    apply exists_congr
    intro as
    apply and_congr_right
    intro compiled
    apply forall₂_congr
    intro c placed
    apply exists_iff_of_rel
    exact rel_run mode config.emptyGroups (ignoring compiled c placed) perm names
  · intro out out' own other
    obtain ⟨as, compiled, blocks, ran, rfl⟩ := reduce_eq_blocks.1 own
    obtain ⟨as', compiled', blocks', ran', rfl⟩ := reduce_eq_blocks.1 other
    cases compiled.symm.trans compiled'
    have length : blocks.length = blocks'.length := ran.length_eq.symm.trans ran'.length_eq
    refine ⟨as, _, blocks.zip blocks', compiled, map_aggregates_ofAggregates config.shape as, ?_,
      by rw [List.map_fst_zip length.le], by rw [List.map_snd_zip length.ge]⟩
    apply forall₂_imp_of_mem _ (forall₂_zip ran ran')
    rintro c placed part ⟨first, second⟩
    have related := rel_run mode config.emptyGroups (ignoring compiled c placed) perm names
    rw [first, second] at related
    cases related with
    | some rearranged => exact ⟨first, second, rearranged⟩

/-- The number of the prices in each region, as a whole number, and the lowest and the highest. -/
def priceRange : List Operation :=
  [.aggregate "count" "price" ["region"] ⟨"n", some .int⟩,
    .aggregate "min" "price" ["Region"] ⟨"least", none⟩,
    .aggregate "max" "price" ["region"] ⟨"most", some .string⟩]

/-- A price in the north in two spellings, and one in no region between them. -/
def northPrices : List Row :=
  [.ofList [("region", .text "north"), ("price", .ofCell "2.50")] none,
    .ofList [("region", .null), ("price", .ofCell "1")] none,
    .ofList [("region", .text "north"), ("price", .ofCell "2.5")] none]

theorem reduce_ignores_order_northPrices :
    ∃ out out', reduce { shape := .wide } {} priceRange northPrices = .ok out ∧
      reduce { shape := .wide } {} priceRange northPrices.reverse = .ok out' ∧ out ≠ out' ∧
      ∃ cs parts,
        List.Forall₂ (fun c part =>
          Rearranged (Row.Matches ((aggregates c).map (·.target.column))) part.1 part.2) cs parts ∧
        (parts.map Prod.fst).flatten = out ∧ (parts.map Prod.snd).flatten = out' := by
  have columns : ∀ r ∈ northPrices, r.columns = ["region", "price"] := by decide +kernel
  have names : ∀ r ∈ northPrices, ∀ s ∈ northPrices, r.SameNames s := by
    intro r hr s hs
    refine ⟨fun column => ?_, ?_⟩
    · rw [columns r hr, columns s hs]
    · rw [columns r hr]
      decide +kernel
  obtain ⟨both, rearranged⟩ := reduce_ignores_order { shape := .wide } {}
    (by decide +kernel : ∀ op ∈ priceRange, op.ignoresOrder = true)
    (List.reverse_perm northPrices).symm names
  obtain ⟨out, ran⟩ := isSome_toOption_iff.1 (by decide +kernel :
    (reduce { shape := .wide } {} priceRange northPrices).toOption.isSome = true)
  obtain ⟨out', ran'⟩ := both.1 ⟨out, ran⟩
  obtain ⟨_, cs, parts, _, _, each, whole, whole'⟩ := rearranged out out' ran ran'
  refine ⟨out, out', ran, ran', ?_, cs, parts, each.imp fun _ _ h => h.2.2, whole, whole'⟩
  have differ : reduce { shape := .wide } {} priceRange northPrices ≠
      reduce { shape := .wide } {} priceRange northPrices.reverse := by decide +kernel
  rw [ran, ran'] at differ
  exact fun same => differ (congrArg Except.ok same)

end Reduction

end RowPipeline
