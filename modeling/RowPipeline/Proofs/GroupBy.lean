import RowPipeline.Proofs.GroupFold
import RowPipeline.Proofs.Totals
import RowPipeline.Reduction

/-! # Grouping, said outright

What aggregates come to is said here without a table of groups: find the keys of every row, go
through the distinct keys in the order of their first rows, and reduce the rows that have them. The
reduction, which takes row after row into a table, comes to the same.
-/

namespace RowPipeline

open Outcome

namespace GroupBy

/-- The group-by columns of a row with their values. -/
def keys? (mode : EvalMode) (groupBy : List ColumnRef) (r : Row) :
    Option (List (String × Value)) :=
  groupBy.mapM fun column => do
    let name ← (r.resolve mode.scope column).toOption
    return (name, (r.get? name).getD .null)

abbrev Keyed := List (String × Value) × Row

/-- The canonical texts of the keys, by which rows are grouped; null has none. -/
def vector (k : Keyed) : List (Option String) :=
  k.1.map fun e => e.2.canonical?

/-- The distinct vectors, in the order of their first rows. Without rows there is one if there are
no group-by columns and empty groups are allowed. -/
def vectors (groupBy : List ColumnRef) (allowEmpty : Bool) (keyed : List Keyed) :
    List (List (Option String)) :=
  if keyed.isEmpty ∧ groupBy.isEmpty ∧ allowEmpty then [[]] else (keyed.map vector).eraseDups

/-- The value made one of the declared type; null stays null. -/
def declared? (type : Option ColumnType) : Value → Option Value
  | .null => some .null
  | v => (v.convertTo type).toOption

/-- The result of an aggregate over the rows of a group. -/
def result? (mode : EvalMode) (allowEmpty : Bool) (a : Aggregate) (rows : List Row) :
    Option Value := do
  let values ← rows.mapM fun r => (a.expression.eval mode r).toOption
  let result ← a.function.ofValues? allowEmpty (values.filter fun v => !v.isNull)
  declared? a.target.type result

/-- The row of a group: the keys of its first row, and then the targets with the results. -/
def row? (mode : EvalMode) (allowEmpty : Bool) (aggregates : List Aggregate)
    (group : List Keyed) : Option Row := do
  let results ← aggregates.mapM fun a => do
    return (a.target.column, ← result? mode allowEmpty a (group.map Prod.snd))
  let keys := (group.head?.map Prod.fst).getD []
  return results.foldl (fun r e => r.set e.1 e.2) (.ofList keys mode.scope)

/-- The rows of all groups, for aggregates that share them. -/
def rows? (mode : EvalMode) (allowEmpty : Bool) (groupBy : List ColumnRef)
    (aggregates : List Aggregate) (rows : List Row) : Option (List Row) := do
  let keyed ← rows.mapM fun r => (keys? mode groupBy r).map (·, r)
  (vectors groupBy allowEmpty keyed).mapM fun v =>
    row? mode allowEmpty aggregates (keyed.filter (vector · = v))

/-- The rows of an operation, which has some only if it is an aggregate. It is read as it is
written: the function by its name, the expression from its text, the group-by columns without blanks
around them, and the target with its type, under the alias of the scope. -/
def operation? (mode : EvalMode) (allowEmpty : Bool) (rows : List Row) :
    Operation → Option (List Row)
  | .aggregate name text groupBy target => do
    let f ← AggregateFunction.ofName? name
    let e ← (Expr.parse text).toOption
    let columns := groupBy.map fun column => .ofName (Text.trim column)
    rows? mode allowEmpty columns [{
      function := f
      expression := e
      groupBy := columns
      target := ⟨Name.inScope mode.scope target.column, target.type⟩
      operation := .aggregate name text groupBy target }] rows
  | .map .. | .choose .. | .filter _ => some []

/-- The rows of all aggregates among the operations, each with groups of its own. -/
def narrow? (mode : EvalMode) (allowEmpty : Bool) (ops : List Operation) (rows : List Row) :
    Option (List Row) :=
  (ops.mapM (operation? mode allowEmpty rows)).map List.flatten

end GroupBy

namespace Reduction

open GroupBy OrderedMap

variable {c : Reduction} {mode : EvalMode} {allowEmpty : Bool}

theorem toOption_keysOf (c : Reduction) (mode : EvalMode) (r : Row) :
    (c.keysOf mode r).toOption = keys? mode c.first.groupBy r := by
  rw [keysOf, Operation.blame, toOption_mapError, toOption_mapM]
  simp only [toOption_bind]
  rfl

/-- Takes a row into its group, which begins with the row if it is new. -/
def take (c : Reduction) (mode : EvalMode) (held : Option Group) (k : Keyed) : Option Group :=
  (c.addToGroup mode k.2 (held.getD (c.emptyGroup k.1))).toOption

theorem toOption_addRow (c : Reduction) (mode : EvalMode) (groups : Groups) (r : Row) :
    (c.addRow mode groups r).toOption =
      ((keys? mode c.first.groupBy r).map (·, r)).bind (file vector (c.take mode) groups) := by
  rw [addRow, toOption_bind, toOption_keysOf, Option.bind_map]
  refine Option.bind_congr fun keys _ => ?_
  rw [toOption_bind]
  simp only [toOption_pure]
  exact (Option.map_eq_bind ..).symm

/-- What the rows of a group come to. -/
def group? (c : Reduction) (mode : EvalMode) (group : List Keyed) : Option Group := do
  let tallies ← c.aggregates.mapM fun a =>
    group.foldlM (fun t k => (addValue mode k.2 a t).toOption) (.start a.function)
  return ⟨(group.head?.map Prod.fst).getD [], tallies⟩

theorem toOption_addToGroup (c : Reduction) (mode : EvalMode) (r : Row) (g : Group) :
    (c.addToGroup mode r g).toOption =
      ((c.aggregates.zip g.tallies).mapM fun p => (addValue mode r p.1 p.2).toOption).map
        fun tallies => { g with tallies } := by
  rw [addToGroup, toOption_bind, toOption_mapM]
  simp only [toOption_pure]
  exact (Option.map_eq_bind ..).symm

/-- Taking rows into a group that has begun changes its tallies alone. -/
theorem foldlM_take (c : Reduction) (mode : EvalMode) (group : List Keyed) (g : Group) :
    group.foldlM (fun held k => (c.take mode held k).map some) (some g) =
      (group.foldlM (fun tallies k => (c.aggregates.zip tallies).mapM fun p =>
        (addValue mode k.2 p.1 p.2).toOption) g.tallies).map
          fun tallies => some { g with tallies } := by
  induction group generalizing g with
  | nil => rfl
  | cons k group ih =>
      rw [List.foldlM_cons, List.foldlM_cons, take, Option.getD_some, toOption_addToGroup,
        Option.map_map, Option.bind_eq_bind, Option.bind_eq_bind, Option.bind_map, Option.map_bind]
      exact Option.bind_congr fun tallies _ => ih { g with tallies }

theorem zip_start_mapM (as : List Aggregate) {β : Type} (f : Aggregate × Tally → Option β) :
    (as.zip (as.map fun a => .start a.function)).mapM f =
      as.mapM fun a => f (a, .start a.function) := by
  rw [← List.map_id as, List.map_map, List.zip_map', List.mapM_map]
  simp [Function.comp_def]

/-- A group holds what its rows come to, each aggregate by itself. -/
theorem gather_take (c : Reduction) (mode : EvalMode) (k : Keyed) (group : List Keyed) :
    gather (c.take mode) (k :: group) = (c.group? mode (k :: group)).map some := by
  have begun : gather (c.take mode) (k :: group) =
      (k :: group).foldlM (fun held k => (c.take mode held k).map some)
        (some (c.emptyGroup k.1)) := rfl
  rw [begun, foldlM_take]
  have each := foldlM_zip_mapM (fun k a t => (addValue mode (k : Keyed).2 a t).toOption)
    (k :: group) c.aggregates (c.emptyGroup k.1).tallies (by simp [emptyGroup])
  rw [each, group?, emptyGroup, zip_start_mapM, Option.bind_eq_bind, Option.map_bind,
    Option.map_eq_bind]
  rfl

theorem group?_nil (c : Reduction) (mode : EvalMode) :
    c.group? mode [] = some (c.emptyGroup []) := by
  have tallies : (c.aggregates.mapM fun a => some (Tally.start a.function)) =
      some (c.aggregates.map fun a => .start a.function) := List.mapM_pure
  simp only [group?, List.foldlM_nil, Option.pure_def, tallies, emptyGroup, List.head?_nil,
    Option.map_none, Option.getD_none, Option.bind_eq_bind, Option.bind_some]

/-- The groups in the table are those of the distinct vectors. -/
theorem values_file_take (c : Reduction) (mode : EvalMode) (keyed : List Keyed) :
    (keyed.foldlM (file vector (c.take mode)) .empty).map values =
      (keyed.map vector).eraseDups.mapM fun v =>
        c.group? mode (keyed.filter (vector · = v)) := by
  rw [values_file]
  refine mapM_congr fun v distinct => ?_
  obtain ⟨k, member, own⟩ := List.mem_map.1 (List.mem_eraseDups.1 distinct)
  have nonempty : keyed.filter (vector · = v) ≠ [] :=
    List.ne_nil_of_mem (List.mem_filter.2 ⟨member, decide_eq_true own⟩)
  obtain ⟨first, group, split⟩ := List.exists_cons_of_ne_nil nonempty
  rw [split, gather_take]
  cases c.group? mode (first :: group) <;> rfl

theorem size_file_take {c : Reduction} {mode : EvalMode} {keyed : List Keyed} {groups : Groups}
    (filed : keyed.foldlM (file vector (c.take mode)) .empty = some groups) :
    groups.size = 0 ↔ keyed.isEmpty = true := by
  have keys := (of_file_eq_some filed).1
  have size : groups.size = groups.keys.length := (List.length_map _).symm
  rw [size, keys]
  cases keyed with
  | nil => simp
  | cons k keyed => simp [List.eraseDups_cons]

theorem toOption_group (c : Reduction) (mode : EvalMode) (allowEmpty : Bool) (rows : List Row) :
    (c.group mode allowEmpty rows).toOption =
      (rows.mapM fun r => (keys? mode c.first.groupBy r).map (·, r)).bind fun keyed =>
        (vectors c.first.groupBy allowEmpty keyed).mapM fun v =>
          c.group? mode (keyed.filter (vector · = v)) := by
  rw [group, toOption_bind, toOption_foldlM]
  simp only [toOption_addRow]
  rw [foldlM_option_bind (fun r => (keys? mode c.first.groupBy r).map (·, r)), Option.bind_assoc]
  refine Option.bind_congr fun keyed _ => ?_
  have table := values_file_take c mode keyed
  cases filed : keyed.foldlM (file vector (c.take mode)) .empty with
  | none =>
      have someKey : keyed ≠ [] := by
        rintro rfl
        simp at filed
      rw [filed, Option.map_none] at table
      simp [vectors, someKey, ← table]
  | some groups =>
      rw [filed, Option.map_some] at table
      simp only [Option.bind_some, size_file_take filed, vectors]
      split
      next alone =>
        have none : keyed = [] := List.isEmpty_iff.1 alone.1
        subst none
        simp [group?_nil]
      next => exact table

/-! ## The rows of the groups -/

theorem toOption_addValue (mode : EvalMode) (r : Row) (a : Aggregate) (t : Tally) :
    (addValue mode r a t).toOption =
      (a.expression.eval mode r).toOption.bind fun v => (t.add v).toOption := by
  rw [addValue, Operation.blame, toOption_mapError, toOption_bind]

theorem toOption_result (allowEmpty : Bool) (a : Aggregate) (t : Tally) :
    (result allowEmpty a t).toOption =
      (t.finish allowEmpty a.target.column).toOption.bind (declared? a.target.type) := by
  rw [result, Operation.blame, toOption_mapError, toOption_bind]
  refine Option.bind_congr fun v _ => ?_
  cases v with
  | null => rfl
  | number | text | boolean => exact toOption_mapError _ _

theorem bind_result (mode : EvalMode) (allowEmpty : Bool) (a : Aggregate) (group : List Keyed) :
    ((group.foldlM (fun t k => (addValue mode k.2 a t).toOption) (.start a.function)).bind
      fun t => (result allowEmpty a t).toOption) =
      result? mode allowEmpty a (group.map Prod.snd) := by
  have rows : group.foldlM (fun t k => (addValue mode k.2 a t).toOption) (.start a.function) =
      (group.map Prod.snd).foldlM (fun t r => (a.expression.eval mode r).toOption.bind
        fun v => (t.add v).toOption) (.start a.function) := by
    rw [List.foldlM_map]
    simp only [toOption_addValue]
  rw [rows, foldlM_option_bind (fun r => (a.expression.eval mode r).toOption)
    (fun (t : Tally) v => (t.add v).toOption), Option.bind_assoc]
  refine Option.bind_congr fun values _ => ?_
  simp only [toOption_result]
  rw [← Option.bind_assoc, Tally.finish_eq_ofValues?]
  rfl

theorem ofList_append_results (keys results : List (String × Value)) (origin : Option String) :
    Row.ofList (keys ++ results) origin =
      results.foldl (fun r e => r.set e.1 e.2) (.ofList keys origin) := by
  induction results using List.reverseRecOn with
  | nil => rw [List.append_nil, List.foldl_nil]
  | append_singleton results e ih =>
      rw [List.foldl_append, ← ih, ← List.append_assoc]
      simp only [Row.ofList, OrderedMap.ofList_append_singleton, List.foldl_cons, List.foldl_nil,
        Row.set]

theorem bind_finishGroup (c : Reduction) (mode : EvalMode) (allowEmpty : Bool)
    (group : List Keyed) :
    ((c.group? mode group).bind fun g => (c.finishGroup mode allowEmpty g).toOption) =
      row? mode allowEmpty c.aggregates group := by
  simp only [group?, finishGroup, toOption_bind, toOption_mapM, toOption_pure, row?,
    ← bind_result, Option.bind_eq_bind, Option.bind_assoc, Option.pure_def, Option.bind_some]
  rw [← Option.bind_assoc]
  have zipped := mapM_bind_zip_mapM
    (fun a : Aggregate => group.foldlM (fun t k => (addValue mode k.2 a t).toOption)
      (.start a.function))
    (fun p => (result allowEmpty p.1 p.2).toOption.bind fun v => some (p.1.target.column, v))
    c.aggregates
  rw [zipped]
  simp only [ofList_append_results]

theorem toOption_run (c : Reduction) (mode : EvalMode) (allowEmpty : Bool) (rows : List Row) :
    (c.run mode allowEmpty rows).toOption =
      rows? mode allowEmpty c.first.groupBy c.aggregates rows := by
  rw [run, toOption_bind, toOption_group, Option.bind_assoc, rows?, Option.bind_eq_bind]
  refine Option.bind_congr fun keyed _ => ?_
  simp only [toOption_mapM]
  rw [mapM_bind_mapM]
  exact mapM_congr fun v _ => bind_finishGroup c mode allowEmpty _

theorem map_flatten_cons {β : Type} (y? : Option (List β)) (ys? : Option (List (List β))) :
    (y?.bind fun y => ys?.bind fun ys => some (y :: ys)).map List.flatten =
      y?.bind fun y => (ys?.map List.flatten).map (y ++ ·) := by
  cases y? with
  | none => rfl
  | some y => cases ys? <;> rfl

theorem bind_compileAll {β : Type} (scope : Option String) (ops : List Operation)
    (h : Aggregate → Option (List β)) :
    ((Aggregate.compileAll scope ops).toOption.bind fun as => (as.mapM h).map List.flatten) =
      (ops.mapM fun op => (Aggregate.compile scope op).toOption.bind fun
        | some a => h a
        | none => some []).map List.flatten := by
  induction ops with
  | nil => rfl
  | cons op ops ih =>
      rw [List.mapM_cons, Option.bind_eq_bind, Option.bind_eq_bind]
      simp only [Option.pure_def]
      rw [map_flatten_cons, ← ih, Aggregate.compileAll, Operation.blame, toOption_bind,
        toOption_mapError, Option.bind_assoc, Option.bind_assoc]
      refine Option.bind_congr fun aggregate? _ => ?_
      cases aggregate? with
      | none =>
          simp only [Option.bind_some, List.nil_append, Option.map_id']
      | some a =>
          simp only [toOption_bind, toOption_pure, Option.bind_assoc, Option.bind_some,
            List.mapM_cons, Option.bind_eq_bind, Option.pure_def, map_flatten_cons]
          rw [Option.bind_comm]
          simp only [Option.map_bind, Function.comp_def]

theorem bind_compile (mode : EvalMode) (allowEmpty : Bool) (rows : List Row) (op : Operation) :
    ((Aggregate.compile mode.scope op).toOption.bind fun
      | some a => rows? mode allowEmpty a.groupBy [a] rows
      | none => some []) = operation? mode allowEmpty rows op := by
  cases op with
  | map | choose | filter => rfl
  | aggregate name text groupBy target =>
      simp only [Aggregate.compile, operation?]
      cases AggregateFunction.ofName? name with
      | none => rfl
      | some f =>
          simp only [Expr.compile, toOption_bind, toOption_mapError]
          cases (Expr.parse text).toOption <;> rfl

/-- In the narrow shape a reduction comes to the same rows as grouping the rows for each aggregate
by itself, and it has a result just where that has one. -/
theorem toOption_reduce {config : Config} (narrow : config.shape = .narrow) (mode : EvalMode)
    (ops : List Operation) (rows : List Row) :
    (reduce config mode ops rows).toOption = narrow? mode config.emptyGroups ops rows := by
  have reduced : ∀ as : List Aggregate,
      (runAll (as.map fun a => ⟨a, []⟩) mode config.emptyGroups rows).toOption =
        (as.mapM fun a => rows? mode config.emptyGroups a.groupBy [a] rows).map List.flatten := by
    intro as
    rw [runAll, toOption_bind, toOption_mapM, List.mapM_map]
    simp only [toOption_pure, Function.comp_def, toOption_run]
    exact (Option.map_eq_bind ..).symm
  have compiled : (compile config mode.scope ops).toOption =
      (Aggregate.compileAll mode.scope ops).toOption.map fun as => as.map fun a => ⟨a, []⟩ := by
    rw [compile, toOption_map, narrow]
    rfl
  rw [reduce, toOption_bind, compiled, Option.bind_map]
  simp only [Function.comp_def, reduced]
  rw [bind_compileAll, narrow?]
  simp only [bind_compile]

def totalQty : Operation :=
  .aggregate "sum" "qty" ["region"] ⟨"total", some .int⟩

/-- Three sales in no region and in the north. -/
def threeSales : List Row :=
  [.ofList [("sales.region", .null), ("sales.qty", .number .one)] none,
    .ofList [("sales.region", .text "north"), ("sales.qty", .number .one)] none,
    .ofList [("sales.region", .null), ("sales.qty", .number .one)] none]

theorem toOption_reduce_threeSales :
    ({} : Config).shape = .narrow ∧
      (reduce {} ⟨some "sales", false⟩ [totalQty] threeSales).toOption =
        narrow? ⟨some "sales", false⟩ false [totalQty] threeSales ∧
      (reduce {} ⟨some "sales", false⟩ [totalQty] threeSales).toOption = some
        [.ofList [("sales.region", .null), ("sales.total", .ofCell "2")] (some "sales"),
          .ofList [("sales.region", .text "north"), ("sales.total", .ofCell "1")]
            (some "sales")] :=
  ⟨rfl, toOption_reduce rfl ⟨some "sales", false⟩ [totalQty] threeSales, by decide +kernel⟩

end Reduction

end RowPipeline
