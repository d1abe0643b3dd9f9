import RowPipeline.Proofs.CheckedOperations
import RowPipeline.Proofs.GroupBy
import RowPipeline.Proofs.Respelling

/-! # The wide shape

In the wide shape aggregates with one group-by list share the rows of their groups. Taken for itself
each of them has the same groups and the same results, so a shared row is the narrow rows of its
aggregates joined.
-/

namespace RowPipeline

open Text Outcome

namespace Aggregate

/-- The group-by columns, with ASCII letters folded. -/
def groupList (a : Aggregate) : List String :=
  a.groupBy.map (foldAscii ·.written)

/-- The group-by lists of aggregates, in the order in which they first come. -/
def groupLists (as : List Aggregate) : List (List String) :=
  (as.map groupList).eraseDups

def sharing (list : List String) (as : List Aggregate) : List Aggregate :=
  as.filter (groupList · = list)

theorem sameGroupBy_iff {a b : Aggregate} : a.sameGroupBy b = true ↔ a.groupList = b.groupList :=
  beq_iff_eq

theorem mem_sharing {list : List String} {as : List Aggregate} {a : Aggregate} :
    a ∈ sharing list as ↔ a ∈ as ∧ a.groupList = list := by
  rw [sharing, List.mem_filter, decide_eq_true_iff]

theorem mem_groupLists {list : List String} {as : List Aggregate} :
    list ∈ groupLists as ↔ ∃ a ∈ as, a.groupList = list := by
  rw [groupLists, List.mem_eraseDups, List.mem_map]

theorem groupLists_append_singleton (as : List Aggregate) (a : Aggregate) :
    groupLists (as ++ [a]) =
      if a.groupList ∈ groupLists as then groupLists as else groupLists as ++ [a.groupList] := by
  rw [groupLists, List.map_append, List.map_singleton, OrderedMap.eraseDups_append_singleton]
  simp only [groupLists, List.mem_eraseDups]

theorem sharing_append_singleton (list : List String) (as : List Aggregate) (a : Aggregate) :
    sharing list (as ++ [a]) =
      if a.groupList = list then sharing list as ++ [a] else sharing list as :=
  OrderedMap.filter_append_singleton as a list

theorem nodup_groupLists (as : List Aggregate) : (groupLists as).Nodup :=
  OrderedMap.nodup_eraseDups _

end Aggregate

namespace Reduction

open Aggregate

theorem forall₂_place {lists : List (List String)} {cs : List Reduction} {as : List Aggregate}
    (placed : List.Forall₂ (fun list c => c.aggregates = sharing list as) lists cs)
    (nodup : lists.Nodup) (a : Aggregate)
    (fresh : a.groupList ∉ lists → sharing a.groupList as = []) :
    List.Forall₂ (fun list c => c.aggregates = sharing list (as ++ [a]))
      (if a.groupList ∈ lists then lists else lists ++ [a.groupList]) (place a cs) := by
  -- The recursion of `place` follows the reductions, and these stand beside the lists.
  induction placed with
  | nil =>
      have alone : sharing a.groupList (as ++ [a]) = [a] := by
        rw [sharing_append_singleton, if_pos rfl, fresh (by simp), List.nil_append]
      simp [place, aggregates, alone]
  | @cons list c lists cs held later ih =>
      obtain ⟨other, nodup⟩ := List.nodup_cons.1 nodup
      have first : c.first.groupList = list :=
        (mem_sharing.1 (held ▸ List.mem_cons_self : c.first ∈ sharing list as)).2
      by_cases own : list = a.groupList
      · subst own
        have kept : ∀ list ∈ lists, a.groupList ≠ list := by
          rintro list member rfl
          exact other member
        rw [if_pos List.mem_cons_self, place, if_pos (sameGroupBy_iff.2 first)]
        constructor
        · rw [sharing_append_singleton, if_pos rfl, ← held]
          rfl
        · apply ((List.forall₂_and_left _ _).2 ⟨kept, later⟩).imp
          rintro list c ⟨apart, held⟩
          rw [sharing_append_singleton, if_neg apart, held]
      · have listed : a.groupList ∈ list :: lists ↔ a.groupList ∈ lists := by
          rw [List.mem_cons, or_iff_right (Ne.symm own)]
        have apart : ¬c.first.sameGroupBy a = true := by
          rwa [sameGroupBy_iff, first]
        have step := ih nodup fun absent => fresh fun member => absent (listed.1 member)
        rw [place, if_neg apart]
        simp only [listed]
        have head : c.aggregates = sharing list (as ++ [a]) := by
          rw [sharing_append_singleton, if_neg (Ne.symm own), held]
        by_cases member : a.groupList ∈ lists
        · simp only [member, if_true] at step ⊢
          exact .cons head step
        · simp only [member, if_false] at step ⊢
          exact .cons head step

/-- In the wide shape there is one reduction for each group-by list, of all aggregates with it. -/
theorem forall₂_ofAggregates (as : List Aggregate) :
    List.Forall₂ (fun list c => c.aggregates = sharing list as) (groupLists as)
      (ofAggregates .wide as) := by
  induction as using List.reverseRecOn with
  | nil => exact .nil
  | append_singleton as a ih =>
      have fresh : a.groupList ∉ groupLists as → sharing a.groupList as = [] := by
        intro absent
        apply List.filter_eq_nil_iff.2
        intro b member
        rw [decide_eq_true_iff]
        exact fun same => absent (mem_groupLists.2 ⟨b, member, same⟩)
      rw [groupLists_append_singleton]
      simp only [ofAggregates, List.foldl_append] at ih ⊢
      exact forall₂_place ih (nodup_groupLists as) a fresh

/-- The aggregates that a shape puts together: each by itself in the narrow shape, and in the wide
shape those of every group-by list. -/
def families (shape : AggregateShape) (as : List Aggregate) : List (List Aggregate) :=
  match shape with
  | .narrow => as.map ([·])
  | .wide => (groupLists as).map (sharing · as)

theorem map_aggregates_ofAggregates (shape : AggregateShape) (as : List Aggregate) :
    (ofAggregates shape as).map aggregates = families shape as := by
  cases shape with
  | narrow => simp [ofAggregates, families, aggregates]
  | wide =>
      rw [families, ← List.forall₂_eq_eq_eq, List.forall₂_map_left_iff, List.forall₂_map_right_iff]
      exact (forall₂_ofAggregates as).flip

end Reduction

namespace Aggregate

theorem ofName_written {scope : Option String} {ops : List Operation} {as : List Aggregate}
    (h : compileAll scope ops = .ok as) {a : Aggregate} (member : a ∈ as) {c : ColumnRef}
    (named : c ∈ a.groupBy) : ColumnRef.ofName c.written = c := by
  obtain ⟨op, -, own⟩ := mem_compileAll h member
  cases own
  obtain ⟨column, -, rfl⟩ := List.mem_map.1 named
  rw [ColumnRef.written_ofName]

end Aggregate

namespace GroupBy

variable {mode : EvalMode} {allowEmpty : Bool}

theorem keys?_spelling {r : Row} (alike : Name.SpelledAlike r.columns) {cs ds : List ColumnRef}
    (hcs : ∀ c ∈ cs, .ofName c.written = c) (hds : ∀ d ∈ ds, .ofName d.written = d)
    (same : cs.map (foldAscii ·.written) = ds.map (foldAscii ·.written)) :
    keys? mode cs r = keys? mode ds r := by
  induction cs generalizing ds with
  | nil => rw [List.map_eq_nil_iff.1 same.symm]
  | cons c cs ih =>
      obtain ⟨d, ds, rfl, spelled, rest⟩ := List.map_eq_cons_iff.1 same.symm
      obtain ⟨hc, hcs⟩ := List.forall_mem_cons.1 hcs
      obtain ⟨hd, hds⟩ := List.forall_mem_cons.1 hds
      have resolved := Row.resolve_spelling alike mode.scope (sameIgnoringCase_iff.2 spelled)
      rw [hc, hd] at resolved
      have later : keys? mode cs r = keys? mode ds r := ih hcs hds rest.symm
      unfold keys? at later ⊢
      rw [List.mapM_cons, List.mapM_cons, later, resolved]

def groups? (mode : EvalMode) (groupBy : List ColumnRef) (allowEmpty : Bool) (rows : List Row) :
    Option (List (List Keyed)) := do
  let keyed ← rows.mapM fun r => (keys? mode groupBy r).map (·, r)
  return (vectors groupBy allowEmpty keyed).map fun v => keyed.filter (vector · = v)

theorem rows?_eq_bind (groupBy : List ColumnRef) (as : List Aggregate) (rows : List Row) :
    rows? mode allowEmpty groupBy as rows =
      (groups? mode groupBy allowEmpty rows).bind fun groups =>
        groups.mapM (row? mode allowEmpty as) := by
  simp only [rows?, groups?, Option.bind_eq_bind, Option.pure_def, Option.bind_assoc,
    Option.bind_some, List.mapM_map]
  rfl

theorem groups?_spelling {rows : List Row} (alike : ∀ r ∈ rows, Name.SpelledAlike r.columns)
    {cs ds : List ColumnRef} (hcs : ∀ c ∈ cs, .ofName c.written = c)
    (hds : ∀ d ∈ ds, .ofName d.written = d)
    (same : cs.map (foldAscii ·.written) = ds.map (foldAscii ·.written)) :
    groups? mode cs allowEmpty rows = groups? mode ds allowEmpty rows := by
  have keyed : (rows.mapM fun r => (keys? mode cs r).map (·, r)) =
      rows.mapM fun r => (keys? mode ds r).map (·, r) :=
    mapM_congr fun r member => by rw [keys?_spelling (alike r member) hcs hds same]
  have empty : cs.isEmpty = ds.isEmpty := by
    rw [← List.isEmpty_map (f := (foldAscii ·.written)), same, List.isEmpty_map]
  simp only [groups?, vectors, keyed, empty]

theorem mem_rows_of_keyed {cs : List ColumnRef} {rows : List Row} {keyed : List Keyed}
    (found : (rows.mapM fun r => (keys? mode cs r).map (·, r)) = some keyed) {k : Keyed}
    (member : k ∈ keyed) : k.2 ∈ rows ∧ keys? mode cs k.2 = some k.1 := by
  obtain ⟨r, own, found⟩ := mem_of_mapM_eq_some found member
  obtain ⟨keys, hkeys, rfl⟩ := Option.map_eq_some_iff.1 found
  exact ⟨own, hkeys⟩

theorem mem_rows_of_group {cs : List ColumnRef} {rows : List Row} {groups : List (List Keyed)}
    (grouped : groups? mode cs allowEmpty rows = some groups) {group : List Keyed}
    (listed : group ∈ groups) {k : Keyed} (member : k ∈ group) :
    k.2 ∈ rows ∧ keys? mode cs k.2 = some k.1 := by
  obtain ⟨keyed, hkeyed, hgroups⟩ := Option.bind_eq_some_iff.1 grouped
  cases hgroups
  obtain ⟨v, -, rfl⟩ := List.mem_map.1 listed
  exact mem_rows_of_keyed hkeyed (List.mem_of_mem_filter member)

theorem resolve_of_mem_keys {cs : List ColumnRef} {r : Row} {keys : List (String × Value)}
    (h : keys? mode cs r = some keys) {column : String} (member : column ∈ Entries.keys keys) :
    ∃ c ∈ cs, r.resolve mode.scope c = .ok column := by
  obtain ⟨⟨_, v⟩, listed, rfl⟩ := List.mem_map.1 member
  obtain ⟨c, named, found⟩ := mem_of_mapM_eq_some h listed
  obtain ⟨name, resolved, same⟩ := Option.bind_eq_some_iff.1 found
  cases same
  exact ⟨c, named, toOption_eq_some.1 resolved⟩

/-- The group-by columns of a group with their values in its first row. -/
def keysOfGroup (group : List Keyed) : List (String × Value) :=
  (group.head?.map Prod.fst).getD []

/-- The entry is the result of the aggregate over the rows, under its target. -/
def IsResult (mode : EvalMode) (allowEmpty : Bool) (rows : List Row) (a : Aggregate)
    (e : String × Value) : Prop :=
  e.1 = a.target.column ∧ result? mode allowEmpty a rows = some e.2

theorem row?_eq_map (as : List Aggregate) (group : List Keyed) :
    row? mode allowEmpty as group =
      (as.mapM fun a => (result? mode allowEmpty a (group.map Prod.snd)).map
        (a.target.column, ·)).map fun results =>
          .ofList (keysOfGroup group ++ results) mode.scope := by
  simp only [Reduction.ofList_append_results, Option.map_eq_bind]
  rfl

theorem row?_eq_some {as : List Aggregate} {group : List Keyed} {row : Row} :
    row? mode allowEmpty as group = some row ↔
      ∃ results, List.Forall₂ (IsResult mode allowEmpty (group.map Prod.snd)) as results ∧
        .ofList (keysOfGroup group ++ results) mode.scope = row := by
  have entry : ∀ (a : Aggregate) (e : String × Value),
      (result? mode allowEmpty a (group.map Prod.snd)).map (a.target.column, ·) = some e ↔
        IsResult mode allowEmpty (group.map Prod.snd) a e := by
    rintro a ⟨target, v⟩
    simp [IsResult, eq_comm, and_comm]
  simp only [row?_eq_map, Option.map_eq_some_iff, mapM_eq_some, entry]

theorem exists_row?_iff {as : List Aggregate} {group : List Keyed} :
    (∃ row, row? mode allowEmpty as group = some row) ↔
      ∀ a ∈ as, ∃ v, result? mode allowEmpty a (group.map Prod.snd) = some v := by
  simp only [row?_eq_map, ← Option.isSome_iff_exists, Option.isSome_map]
  rw [Option.isSome_iff_exists, exists_mapM_iff]
  simp only [← Option.isSome_iff_exists, Option.isSome_map]

theorem keys_of_results {as : List Aggregate} {results : List (String × Value)} {rows : List Row}
    (h : List.Forall₂ (IsResult mode allowEmpty rows) as results) :
    Entries.keys results = as.map (·.target.column) := by
  induction h with
  | nil => rfl
  | cons head _ ih =>
      simp only [Entries.keys, List.map_cons, head.1] at ih ⊢
      rw [ih]

/-- The row joins the rows that the aggregates have for the group when each is taken for itself: the
group-by columns and behind them the targets, with the values that they have there. -/
structure Joined (mode : EvalMode) (allowEmpty : Bool) (as : List Aggregate) (group : List Keyed)
    (row : Row) : Prop where
  origin : row.origin = mode.scope
  columns : row.columns =
    (Entries.keys (keysOfGroup group)).eraseDups ++ as.map (·.target.column)
  values : ∀ a ∈ as, ∃ part, row? mode allowEmpty [a] group = some part ∧
    ∀ column ∈ a.target.column :: Entries.keys (keysOfGroup group),
      row.get? column = part.get? column

/-- In a row of results the target of an aggregate has the result, also where it is the column of a
key. -/
theorem get?_of_result {as : List Aggregate} {group : List Keyed} {row : Row}
    (distinct : (as.map (·.target.column)).Nodup)
    (h : row? mode allowEmpty as group = some row) {a : Aggregate} (member : a ∈ as) :
    row.get? a.target.column = result? mode allowEmpty a (group.map Prod.snd) := by
  obtain ⟨results, computed, rfl⟩ := row?_eq_some.1 h
  have nodup : (Entries.keys results).Nodup := keys_of_results computed ▸ distinct
  obtain ⟨⟨_, v⟩, listed, rfl, result⟩ := exists_of_forall₂ computed member
  have written : a.target.column ∈ Entries.keys results := List.mem_map_of_mem listed
  have held : (OrderedMap.ofList results).get? a.target.column = some v := by
    apply OrderedMap.get?_ofList_eq_some written
    rintro ⟨_, w⟩ other rfl
    have first := Entries.get?_eq_some_of_mem nodup other
    exact Option.some.inj (first.symm.trans (Entries.get?_eq_some_of_mem nodup listed))
  rw [result, ← held]
  exact OrderedMap.get?_ofList_append_of_mem written

theorem get?_of_key {as : List Aggregate} {group : List Keyed} {row : Row}
    (h : row? mode allowEmpty as group = some row) {column : String}
    (apart : column ∉ as.map (·.target.column)) :
    row.get? column = (OrderedMap.ofList (keysOfGroup group)).get? column := by
  obtain ⟨results, computed, rfl⟩ := row?_eq_some.1 h
  apply OrderedMap.get?_ofList_append
  rwa [keys_of_results computed]

theorem joined_of_row? {as : List Aggregate} {group : List Keyed}
    (distinct : (as.map (·.target.column)).Nodup)
    (apart : ∀ a ∈ as, a.target.column ∉ Entries.keys (keysOfGroup group)) {row : Row}
    (h : row? mode allowEmpty as group = some row) : Joined mode allowEmpty as group row where
  origin := by
    obtain ⟨results, -, rfl⟩ := row?_eq_some.1 h
    rfl
  columns := by
    obtain ⟨results, computed, rfl⟩ := row?_eq_some.1 h
    have keys : Entries.keys (keysOfGroup group ++ results) =
        Entries.keys (keysOfGroup group) ++ as.map (·.target.column) := by
      rw [← keys_of_results computed, Entries.keys, List.map_append]
    have behind : (as.map (·.target.column)).removeAll (Entries.keys (keysOfGroup group)) =
        as.map (·.target.column) := by
      apply List.filter_eq_self.2
      intro column written
      obtain ⟨a, member, rfl⟩ := List.mem_map.1 written
      simpa using apart a member
    rw [Row.columns_ofList, OrderedMap.keys_ofList, keys, List.eraseDups_append, behind,
      OrderedMap.eraseDups_of_nodup distinct]
  values := by
    intro a member
    have present := exists_row?_iff.1 ⟨row, h⟩ a member
    obtain ⟨part, hpart⟩ : ∃ part, row? mode allowEmpty [a] group = some part :=
      exists_row?_iff.2 (by simpa using present)
    have single : ([a].map (·.target.column)).Nodup := List.nodup_singleton _
    refine ⟨part, hpart, List.forall_mem_cons.2 ⟨?_, ?_⟩⟩
    · rw [get?_of_result distinct h member, get?_of_result single hpart List.mem_cons_self]
    · intro column key
      rw [get?_of_key h fun written => ?_, get?_of_key hpart fun written => ?_]
      · obtain rfl : column = a.target.column := by simpa using written
        exact apart a member key
      · obtain ⟨b, listed, rfl⟩ := List.mem_map.1 written
        exact apart b listed key

/-- Aggregates come to rows together just where each comes to rows for itself. -/
theorem exists_rows?_iff {cs : List ColumnRef} {as : List Aggregate} (nonempty : as ≠ [])
    (rows : List Row) :
    (∃ block, rows? mode allowEmpty cs as rows = some block) ↔
      ∀ a ∈ as, ∃ part, rows? mode allowEmpty cs [a] rows = some part := by
  simp only [rows?_eq_bind]
  cases groups? mode cs allowEmpty rows with
  | none =>
      obtain ⟨a, later, rfl⟩ := List.exists_cons_of_ne_nil nonempty
      simp only [Option.bind_none, reduceCtorEq, exists_false, imp_false, false_iff]
      exact fun absurd => absurd a List.mem_cons_self
  | some groups =>
      simp only [Option.bind_some, exists_mapM_iff, exists_row?_iff, List.mem_singleton, forall_eq]
      exact ⟨fun h a member group listed => h group listed a member,
        fun h group listed a member => h a member group listed⟩

end GroupBy

namespace Reduction

open Aggregate GroupBy

variable {config : Config} {mode : EvalMode} {ops : List Operation} {rows : List Row}

theorem rows?_eq_some {c : Reduction} {allowEmpty : Bool} {block : List Row} :
    rows? mode allowEmpty c.first.groupBy c.aggregates rows = some block ↔
      c.run mode allowEmpty rows = .ok block := by
  rw [← toOption_run, toOption_eq_some]

theorem reduce_eq_blocks {out : List Row} :
    reduce config mode ops rows = .ok out ↔
      ∃ as, compileAll mode.scope ops = .ok as ∧ ∃ blocks,
        List.Forall₂ (fun c block => c.run mode config.emptyGroups rows = .ok block)
          (ofAggregates config.shape as) blocks ∧ blocks.flatten = out := by
  rw [reduce, bind_eq_ok]
  simp only [compile, map_eq_ok, runAll, bind_eq_ok, pure_eq_ok, mapM_eq_ok]
  constructor
  · rintro ⟨_, ⟨as, compiled, rfl⟩, ran⟩
    exact ⟨as, compiled, ran⟩
  · rintro ⟨as, compiled, ran⟩
    exact ⟨_, ⟨as, compiled, rfl⟩, ran⟩

theorem reduce_eq_ok {out : List Row} :
    reduce config mode ops rows = .ok out ↔
      ∃ as, compileAll mode.scope ops = .ok as ∧ ∃ blocks,
        List.Forall₂ (fun c block =>
          rows? mode config.emptyGroups c.first.groupBy c.aggregates rows = some block)
          (ofAggregates config.shape as) blocks ∧ blocks.flatten = out := by
  simp only [rows?_eq_some]
  exact reduce_eq_blocks

theorem exists_reduce_iff :
    (∃ out, reduce config mode ops rows = .ok out) ↔
      ∃ as, compileAll mode.scope ops = .ok as ∧ ∀ c ∈ ofAggregates config.shape as,
        ∃ block, rows? mode config.emptyGroups c.first.groupBy c.aggregates rows = some block := by
  simp only [reduce_eq_ok, ← exists_mapM_iff, mapM_eq_some]
  constructor
  · rintro ⟨_, as, compiled, blocks, ran, -⟩
    exact ⟨as, compiled, blocks, ran⟩
  · rintro ⟨as, compiled, blocks, ran⟩
    exact ⟨_, as, compiled, blocks, ran, rfl⟩

theorem groups?_of_sharing (alike : ∀ r ∈ rows, Name.SpelledAlike r.columns) {as : List Aggregate}
    (compiled : compileAll mode.scope ops = .ok as) {allowEmpty : Bool} {a b : Aggregate}
    (ha : a ∈ as) (hb : b ∈ as) (same : a.groupList = b.groupList) :
    groups? mode a.groupBy allowEmpty rows = groups? mode b.groupBy allowEmpty rows :=
  groups?_spelling alike (fun _ => ofName_written compiled ha) (fun _ => ofName_written compiled hb)
    same

theorem exists_wide_iff (alike : ∀ r ∈ rows, Name.SpelledAlike r.columns) {as : List Aggregate}
    (compiled : compileAll mode.scope ops = .ok as) (allowEmpty : Bool) :
    (∀ c ∈ ofAggregates .wide as, ∃ block,
        rows? mode allowEmpty c.first.groupBy c.aggregates rows = some block) ↔
      ∀ a ∈ as, ∃ part, rows? mode allowEmpty a.groupBy [a] rows = some part := by
  have placed := forall₂_ofAggregates as
  -- A reduction groups by the list of its first aggregate, which the others only spell otherwise.
  have own : ∀ {c : Reduction} {list : List String}, c.aggregates = sharing list as →
      ∀ {a : Aggregate}, a ∈ c.aggregates → rows? mode allowEmpty c.first.groupBy [a] rows =
        rows? mode allowEmpty a.groupBy [a] rows := by
    intro c list held a member
    have first : c.first ∈ c.aggregates := List.mem_cons_self
    rw [held, mem_sharing] at first member
    rw [rows?_eq_bind, rows?_eq_bind, groups?_of_sharing alike compiled first.1 member.1
      (first.2.trans member.2.symm)]
  constructor
  · intro each a member
    obtain ⟨c, built, held⟩ := exists_of_forall₂ placed (mem_groupLists.2 ⟨a, member, rfl⟩)
    have inside : a ∈ c.aggregates := held ▸ mem_sharing.2 ⟨member, rfl⟩
    rw [← own held inside]
    exact (exists_rows?_iff (List.cons_ne_nil _ _) rows).1 (each c built) a inside
  · intro each c built
    obtain ⟨list, -, held⟩ := exists_of_forall₂ placed.flip built
    apply (exists_rows?_iff (List.cons_ne_nil _ _) rows).2
    intro a inside
    rw [own held inside]
    rw [← aggregates, held] at inside
    exact each a (mem_sharing.1 inside).1

/-- The targets of the aggregates are pairwise different, and different from the columns that the
group-by lists stand for. -/
structure TargetsApart (mode : EvalMode) (ops : List Operation) (rows : List Row) : Prop where
  distinct : (Operation.targetNames mode.scope (Operation.aggregates ops)).Nodup
  apart : ∀ r ∈ rows, ∀ op ∈ ops, ∀ c ∈ op.groupColumns, ∀ column,
    r.resolve mode.scope c = .ok column →
      column ∉ Operation.targetNames mode.scope (Operation.aggregates ops)

theorem joined_of_rows? {as : List Aggregate} (compiled : compileAll mode.scope ops = .ok as)
    (targets : TargetsApart mode ops rows) {a : Aggregate} (member : a ∈ as) {list : List String}
    {allowEmpty : Bool} {block : List Row}
    (h : rows? mode allowEmpty a.groupBy (sharing list as) rows = some block) :
    ∃ groups, groups? mode a.groupBy allowEmpty rows = some groups ∧
      List.Forall₂ (Joined mode allowEmpty (sharing list as)) groups block := by
  obtain ⟨distinct, apart⟩ := targets
  rw [← targets_of_compileAll compiled] at distinct apart
  rw [rows?_eq_bind] at h
  obtain ⟨groups, grouped, joined⟩ := Option.bind_eq_some_iff.1 h
  have distinct : ((sharing list as).map (·.target.column)).Nodup :=
    distinct.sublist (List.filter_sublist.map _)
  have other : ∀ group ∈ groups, ∀ b ∈ sharing list as,
      b.target.column ∉ Entries.keys (keysOfGroup group) := by
    intro group listed b shared key
    -- The group without rows, which an empty input has, has no keys either.
    cases first : group.head? with
    | none => simp [keysOfGroup, first] at key
    | some k =>
        simp only [keysOfGroup, first, Option.map_some, Option.getD_some] at key
        obtain ⟨own, keys⟩ := mem_rows_of_group grouped listed (List.mem_of_head? first)
        obtain ⟨c, named, resolved⟩ := resolve_of_mem_keys keys key
        obtain ⟨op, present, isOf⟩ := mem_compileAll compiled member
        rw [isOf.groupBy_eq] at named
        exact apart k.2 own op present c named _ resolved
          (List.mem_map_of_mem (mem_sharing.1 shared).1)
  refine ⟨groups, grouped, ?_⟩
  apply ((List.forall₂_and_left _ _).2 ⟨other, mapM_eq_some.1 joined⟩).imp
  rintro group row ⟨other, found⟩
  exact joined_of_row? distinct other found

/-- The wide shape is the narrow one joined for each group. It has a result just where the narrow
shape has one, and then there is a block of rows for each group-by list, with one row for each
group, in which the narrow rows of the aggregates with that list are joined. The aggregates `as` are
those of the aggregate operations, one for each and in their order. -/
theorem wide_joins_narrow (config : Config) (mode : EvalMode) (ops : List Operation)
    (rows : List Row) (alike : ∀ r ∈ rows, Name.SpelledAlike r.columns)
    (targets : TargetsApart mode ops rows) :
    ((∃ out, reduce { config with shape := .wide } mode ops rows = .ok out) ↔
      ∃ out, reduce { config with shape := .narrow } mode ops rows = .ok out) ∧
    ∀ wide narrow, reduce { config with shape := .wide } mode ops rows = .ok wide →
      reduce { config with shape := .narrow } mode ops rows = .ok narrow →
      ∃ as parts blocks, compileAll mode.scope ops = .ok as ∧
        List.Forall₂ (IsOf mode.scope) (Operation.aggregates ops) as ∧
        narrow = parts.flatten ∧ wide = blocks.flatten ∧
        List.Forall₂ (fun a part => ∃ groups,
          groups? mode a.groupBy config.emptyGroups rows = some groups ∧
            List.Forall₂ (fun group row => row? mode config.emptyGroups [a] group = some row)
              groups part) as parts ∧
        List.Forall₂ (fun list block => ∃ groups,
          (∀ a ∈ sharing list as,
            groups? mode a.groupBy config.emptyGroups rows = some groups) ∧
          List.Forall₂ (Joined mode config.emptyGroups (sharing list as)) groups block)
          (groupLists as) blocks := by
  constructor
  · rw [exists_reduce_iff, exists_reduce_iff]
    refine exists_congr fun as => and_congr_right fun compiled => ?_
    rw [exists_wide_iff alike compiled]
    simp [ofAggregates, aggregates]
  · intro wide narrow hwide hnarrow
    obtain ⟨as, compiled, blocks, ran, rfl⟩ := reduce_eq_ok.1 hwide
    obtain ⟨as', compiled', parts, ran', rfl⟩ := reduce_eq_ok.1 hnarrow
    cases compiled.symm.trans compiled'
    refine ⟨as, parts, blocks, compiled, compileAll_eq_ok.1 compiled, rfl, rfl, ?_, ?_⟩
    · simp only [ofAggregates, List.forall₂_map_left_iff] at ran'
      refine ran'.imp fun a part ran => ?_
      rw [rows?_eq_bind] at ran
      obtain ⟨groups, grouped, each⟩ := Option.bind_eq_some_iff.1 ran
      exact ⟨groups, grouped, mapM_eq_some.1 each⟩
    · refine (forall₂_comp (forall₂_ofAggregates as) ran).imp ?_
      rintro list block ⟨c, held, ran⟩
      have first : c.first ∈ sharing list as := held ▸ List.mem_cons_self
      rw [held] at ran
      obtain ⟨groups, grouped, joined⟩ :=
        joined_of_rows? compiled targets (mem_sharing.1 first).1 ran
      refine ⟨groups, fun a shared => ?_, joined⟩
      rw [← grouped]
      rw [mem_sharing] at first shared
      exact groups?_of_sharing alike compiled shared.1 first.1 (shared.2.trans first.2.symm)

/-- Two aggregates whose group-by lists differ in case, and one without group-by columns. -/
def regionTotals : List Operation :=
  [totalQty, .aggregate "count" "qty" ["REGION"] ⟨"n", none⟩,
    .aggregate "max" "qty" [] ⟨"most", none⟩]

theorem targetsApart_threeSales : TargetsApart ⟨some "sales", false⟩ regionTotals threeSales where
  distinct := by decide +kernel
  apart := by
    intro r member _ _ _ _ column resolved
    have others : ∀ r ∈ threeSales, ∀ column ∈ r.columns, column ∉
        Operation.targetNames (some "sales") (Operation.aggregates regionTotals) := by
      decide +kernel
    exact others r member column (Row.mem_columns_of_resolve resolved)

/-- The totals and the counts of a region share a row; the aggregate without group-by columns has a
row of its own. -/
def regionRows : List Row :=
  [.ofList [("sales.region", .null), ("sales.total", .ofCell "2"), ("sales.n", .ofCell "2")]
      (some "sales"),
    .ofList [("sales.region", .text "north"), ("sales.total", .ofCell "1"),
      ("sales.n", .ofCell "1")] (some "sales"),
    .ofList [("sales.most", .ofCell "1")] (some "sales")]

theorem wide_joins_narrow_threeSales :
    ∃ narrow as blocks,
      reduce { shape := .wide } ⟨some "sales", false⟩ regionTotals threeSales = .ok regionRows ∧
      reduce { shape := .narrow } ⟨some "sales", false⟩ regionTotals threeSales = .ok narrow ∧
      List.Forall₂ (IsOf (some "sales")) regionTotals as ∧
      blocks.flatten = regionRows ∧ (∃ block ∈ blocks, block ≠ []) ∧
      List.Forall₂ (fun list block => ∃ groups,
        List.Forall₂ (Joined ⟨some "sales", false⟩ false (sharing list as)) groups block)
        (groupLists as) blocks := by
  have alike : ∀ r ∈ threeSales, Name.SpelledAlike r.columns := by decide +kernel
  obtain ⟨both, joins⟩ :=
    wide_joins_narrow {} ⟨some "sales", false⟩ regionTotals threeSales alike targetsApart_threeSales
  have hwide : reduce { shape := .wide } ⟨some "sales", false⟩ regionTotals threeSales =
      .ok regionRows := toOption_eq_some.1 (by decide +kernel)
  obtain ⟨narrow, hnarrow⟩ := both.1 ⟨regionRows, hwide⟩
  obtain ⟨as, _, blocks, _, own, -, joined, -, rows⟩ := joins regionRows narrow hwide hnarrow
  have filled : blocks.flatten ≠ [] := by
    rw [← joined]
    exact List.cons_ne_nil _ _
  exact ⟨narrow, as, blocks, hwide, hnarrow, own, joined.symm, List.flatten_ne_nil_iff.1 filled,
    rows.imp fun _ _ ⟨groups, _, each⟩ => ⟨groups, each⟩⟩

end Reduction

end RowPipeline
