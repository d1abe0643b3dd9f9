import RowPipeline.Proofs.Failure
import RowPipeline.Proofs.GroupParts

/-! # Which aggregate fails, and on which rows

Several aggregates may share groups, and a row is taken in by one after the other. While rows are
taken in, each aggregate keeps for each key what it would keep of the rows of that key by itself.
So where a reduction fails, the aggregate that is named fails by itself on the rows of one part,
unless it is a group-by column that is not found.
-/

namespace RowPipeline

open Outcome

theorem Operation.blame_eq_error {α : Type} {op : Operation} {x : Except EvalError α}
    {e : OperationError} : op.blame x = .error e ↔ e.operation = op ∧ x = .error e.cause := by
  obtain ⟨operation, cause⟩ := e
  rw [blame, mapError_eq_error]
  constructor
  · rintro ⟨cause', failed, same⟩
    cases same
    exact ⟨rfl, failed⟩
  · rintro ⟨rfl, failed⟩
    exact ⟨cause, failed, rfl⟩

theorem Operation.blame_eq_ok {α : Type} {op : Operation} {x : Except EvalError α} {a : α} :
    op.blame x = .ok a ↔ x = .ok a :=
  mapError_eq_ok

namespace Aggregate

def tally (mode : EvalMode) (a : Aggregate) (rows : List Row) : Except EvalError Tally :=
  rows.foldlM (fun t r => a.expression.eval mode r >>= t.add) (.start a.function)

/-- The result of an aggregate, of the declared type unless it is null. -/
def conclude (allowEmpty : Bool) (a : Aggregate) (t : Tally) : Except EvalError Value := do
  match ← t.finish allowEmpty a.target.column with
  | .null => return .null
  | v => (v.convertTo a.target.type).mapError .conversion

def reduce (mode : EvalMode) (allowEmpty : Bool) (a : Aggregate) (rows : List Row) :
    Except EvalError Value :=
  a.tally mode rows >>= a.conclude allowEmpty

theorem tally_append_singleton (mode : EvalMode) (a : Aggregate) (rows : List Row) (r : Row) :
    a.tally mode (rows ++ [r]) =
      a.tally mode rows >>= fun t => a.expression.eval mode r >>= t.add := by
  rw [tally, List.foldlM_append]
  refine congrArg _ (funext fun t => ?_)
  rw [List.foldlM_cons]
  simp

theorem reduce_error_of_tally {mode : EvalMode} {allowEmpty : Bool} {a : Aggregate}
    {rows : List Row} (later : List Row) {cause : EvalError}
    (failed : a.tally mode rows = .error cause) :
    a.reduce mode allowEmpty (rows ++ later) = .error cause := by
  rw [reduce, tally, List.foldlM_append]
  change (a.tally mode rows >>= _) >>= _ = _
  rw [failed]
  rfl

end Aggregate

namespace Reduction

open GroupBy

variable {c : Reduction} {mode : EvalMode} {allowEmpty : Bool} {rows : List Row} {r : Row}
  {groups groups' : Groups} {e : OperationError}

def talliesAt (c : Reduction) (groups : Groups) (key : List (Option String)) : List Tally :=
  ((groups.get? key).getD (c.emptyGroup [])).tallies

/-- The groups hold what each aggregate by itself keeps of the rows of each key. -/
structure Tallied (c : Reduction) (mode : EvalMode) (rows : List Row) (groups : Groups) :
    Prop where
  keyed : ∀ r ∈ rows, ∃ key, c.key? mode r = some key
  keys : groups.keys = (rows.filterMap (c.key? mode)).eraseDups
  tallies : ∀ key, List.Forall₂ (fun a t => a.tally mode (c.members mode rows key) = .ok t)
    c.aggregates (c.talliesAt groups key)

theorem tally_start (c : Reduction) (mode : EvalMode) (keys : List (String × Value)) :
    List.Forall₂ (fun a t => a.tally mode [] = .ok t) c.aggregates (c.emptyGroup keys).tallies := by
  rw [emptyGroup, List.forall₂_map_right_iff, List.forall₂_same]
  intro a _
  rfl

theorem tallied_empty (c : Reduction) (mode : EvalMode) : c.Tallied mode [] .empty where
  keyed := nofun
  keys := rfl
  tallies := fun _ => c.tally_start mode []

theorem key?_of_keysOf {keys : List (String × Value)} (h : c.keysOf mode r = .ok keys) :
    c.key? mode r = some (keys.map fun e => e.2.canonical?) := by
  have found := toOption_keysOf c mode r
  rw [h] at found
  rw [key?, keyed?, ← found]
  rfl

theorem tallies_getD (c : Reduction) (groups : Groups) (key : List (Option String))
    (keys : List (String × Value)) :
    ((groups.get? key).getD (c.emptyGroup keys)).tallies = c.talliesAt groups key := by
  rw [talliesAt]
  cases groups.get? key <;> rfl

theorem talliesAt_insert (c : Reduction) (groups : Groups) (g : Group)
    (key key' : List (Option String)) :
    c.talliesAt (groups.insert key g) key' =
      if key' = key then g.tallies else c.talliesAt groups key' := by
  rw [talliesAt, OrderedMap.get?_insert]
  split <;> rfl

theorem members_append_singleton (rows : List Row) (r : Row) (key : List (Option String)) :
    c.members mode (rows ++ [r]) key =
      if c.key? mode r = some key then c.members mode rows key ++ [r]
      else c.members mode rows key := by
  unfold members
  rw [List.filter_append]
  split
  next own => simp [own]
  next other => simp [other]

theorem Tallied.addRow (tallied : c.Tallied mode rows groups)
    (h : c.addRow mode groups r = .ok groups') : c.Tallied mode (rows ++ [r]) groups' := by
  obtain ⟨keys, found, h⟩ := bind_eq_ok.1 h
  obtain ⟨g, added, h⟩ := bind_eq_ok.1 h
  obtain ⟨tallies, each, added⟩ := bind_eq_ok.1 added
  cases h
  cases added
  have own := key?_of_keysOf found
  rw [tallies_getD] at each
  constructor
  · intro s member
    rcases List.mem_append.1 member with earlier | last
    · exact tallied.keyed s earlier
    · rw [List.mem_singleton.1 last]
      exact ⟨_, own⟩
  · have last : [r].filterMap (c.key? mode) = [keys.map fun e => e.2.canonical?] := by
      rw [List.filterMap_cons_some own, List.filterMap_nil]
    rw [OrderedMap.keys_insert, List.filterMap_append, last,
      OrderedMap.eraseDups_append_singleton, tallied.keys]
    simp only [List.mem_eraseDups]
  · intro key
    rw [members_append_singleton, own, talliesAt_insert]
    by_cases same : key = keys.map fun e => e.2.canonical?
    · subst same
      rw [if_pos rfl, if_pos rfl]
      refine (forall₂_of_zip (tallied.tallies _) (mapM_eq_ok.1 each)).imp ?_
      rintro a t' ⟨t, before, added⟩
      rw [Aggregate.tally_append_singleton, before]
      exact Operation.blame_eq_ok.1 added
    · rw [if_neg same, if_neg fun e => same (Option.some.inj e).symm]
      exact tallied.tallies key

theorem tallied_of_foldlM (h : rows.foldlM (c.addRow mode) .empty = .ok groups) :
    c.Tallied mode rows groups := by
  induction rows using List.reverseRecOn generalizing groups with
  | nil =>
      cases h
      exact c.tallied_empty mode
  | append_singleton rows r ih =>
      obtain ⟨before, led, step⟩ := foldlM_append_eq_ok.1 h
      obtain ⟨groups', step, rest⟩ := bind_eq_ok.1 step
      cases rest
      exact (ih led).addRow step

/-! ## Failures -/

/-- An aggregate of the reduction fails by itself: it does not find a group-by column in a row, or
the rows of a part have no value for it. -/
inductive Fails (c : Reduction) (mode : EvalMode) (allowEmpty : Bool) (rows : List Row) :
    Aggregate → EvalError → Prop where
  | key {r : Row} {column : ColumnRef} {cause : EvalError} (own : r ∈ rows)
    (named : column ∈ c.first.groupBy) (failed : r.resolve mode.scope column = .error cause) :
    Fails c mode allowEmpty rows c.first cause
  | part {part : List Row} {a : Aggregate} {cause : EvalError}
    (reached : part ∈ c.parts mode allowEmpty rows) (listed : a ∈ c.aggregates)
    (failed : a.reduce mode allowEmpty part = .error cause) :
    Fails c mode allowEmpty rows a cause

theorem Fails.mem_aggregates {a : Aggregate} {cause : EvalError}
    (h : c.Fails mode allowEmpty rows a cause) : a ∈ c.aggregates := by
  cases h with
  | key => exact List.mem_cons_self
  | part _ listed => exact listed

/-- A row that cannot be taken in makes an aggregate fail on the rows of its key, however many rows
are still to come. -/
theorem Tallied.addRow_error (tallied : c.Tallied mode rows groups) (later : List Row)
    (h : c.addRow mode groups r = .error e) :
    ∃ a, e.operation = a.operation ∧
      c.Fails mode allowEmpty (rows ++ r :: later) a e.cause := by
  have present : r ∈ rows ++ r :: later := List.mem_append_right _ List.mem_cons_self
  rcases bind_eq_error.1 h with noKeys | ⟨keys, found, h⟩
  · obtain ⟨same, failed⟩ := Operation.blame_eq_error.1 noKeys
    obtain ⟨column, named, failed⟩ := mapM_eq_error failed
    rcases bind_eq_error.1 failed with failed | ⟨_, _, impossible⟩
    · exact ⟨c.first, same, .key present named failed⟩
    · cases impossible
  have own := key?_of_keysOf found
  rcases bind_eq_error.1 h with failed | ⟨_, _, impossible⟩
  · rcases bind_eq_error.1 failed with failed | ⟨_, _, impossible⟩
    · rw [tallies_getD] at failed
      obtain ⟨⟨a, t⟩, member, failed⟩ := mapM_eq_error failed
      obtain ⟨listed, before⟩ := exists_of_mem_zip (tallied.tallies _) member
      obtain ⟨same, failed⟩ := Operation.blame_eq_error.1 failed
      refine ⟨a, same, .part (List.mem_map_of_mem (mem_partKeys_of_mem present own)) listed ?_⟩
      have split : rows ++ r :: later = (rows ++ [r]) ++ later := by simp
      rw [split, members, List.filter_append]
      apply Aggregate.reduce_error_of_tally
      change a.tally mode (c.members mode (rows ++ [r]) _) = _
      rw [members_append_singleton, if_pos own, Aggregate.tally_append_singleton, before]
      exact failed
    · cases impossible
  · cases impossible

theorem tallies_of_mem_group {gs : List Group} (h : c.group mode allowEmpty rows = .ok gs)
    {g : Group} (member : g ∈ gs) :
    ∃ key ∈ c.partKeys mode allowEmpty rows,
      List.Forall₂ (fun a t => a.tally mode (c.members mode rows key) = .ok t)
        c.aggregates g.tallies := by
  obtain ⟨groups, walked, h⟩ := bind_eq_ok.1 h
  have tallied := tallied_of_foldlM walked
  split at h
  next alone =>
    obtain ⟨none, ungrouped, allowed⟩ := alone
    cases h
    obtain rfl := List.mem_singleton.1 member
    have noRows : rows = [] := by
      by_contra occupied
      obtain ⟨r, rest, rfl⟩ := List.exists_cons_of_ne_nil occupied
      obtain ⟨key, own⟩ := tallied.keyed r List.mem_cons_self
      have filed : key ∈ groups.keys := by
        rw [tallied.keys, List.mem_eraseDups, List.mem_filterMap]
        exact ⟨r, List.mem_cons_self, own⟩
      have noKeys : groups.keys = [] := List.map_eq_nil_iff.2 (List.length_eq_zero_iff.1 none)
      rw [noKeys] at filed
      cases filed
    subst noRows
    refine ⟨[], ?_, c.tally_start mode []⟩
    rw [partKeys, if_pos ⟨rfl, ungrouped, allowed⟩]
    exact List.mem_singleton_self []
  next =>
    cases h
    obtain ⟨⟨key, _⟩, listed, rfl⟩ := List.mem_map.1 member
    have held := OrderedMap.mem_entries_iff.1 listed
    have filed : key ∈ groups.keys := OrderedMap.mem_keys_iff.2 ⟨_, held⟩
    rw [tallied.keys, List.mem_eraseDups, List.mem_filterMap] at filed
    obtain ⟨r, own, hasKey⟩ := filed
    refine ⟨key, mem_partKeys_of_mem own hasKey, ?_⟩
    have tallies := tallied.tallies key
    rw [talliesAt, held] at tallies
    exact tallies

/-- Where a reduction fails, the aggregate that is named fails by itself. -/
theorem run_error (h : c.run mode allowEmpty rows = .error e) :
    ∃ a, e.operation = a.operation ∧ c.Fails mode allowEmpty rows a e.cause := by
  rcases bind_eq_error.1 h with failed | ⟨gs, grouped, failed⟩
  · rcases bind_eq_error.1 failed with failed | ⟨groups, _, impossible⟩
    · obtain ⟨before, r, after, groups, rfl, led, failed⟩ := foldlM_eq_error_split failed
      exact (tallied_of_foldlM led).addRow_error after failed
    · split at impossible <;> cases impossible
  · obtain ⟨g, member, failed⟩ := mapM_eq_error failed
    obtain ⟨key, distinct, tallies⟩ := tallies_of_mem_group grouped member
    rcases bind_eq_error.1 failed with failed | ⟨_, _, impossible⟩
    · obtain ⟨⟨a, t⟩, paired, failed⟩ := mapM_eq_error failed
      obtain ⟨listed, kept⟩ := exists_of_mem_zip tallies paired
      rcases bind_eq_error.1 failed with failed | ⟨_, _, impossible⟩
      · obtain ⟨same, failed⟩ := Operation.blame_eq_error.1 failed
        refine ⟨a, same, .part (List.mem_map_of_mem distinct) listed ?_⟩
        rw [Aggregate.reduce, kept]
        exact failed
      · cases impossible
    · cases impossible

end Reduction

end RowPipeline
