import RowPipeline.Proofs.GroupBy
import RowPipeline.Proofs.Resolution

/-! # The parts that aggregates reduce

Rows whose group-by columns have the same canonical texts make up a part of the rows. A reduction
gives one row for each part, and that row is what it gives for the part by itself, so the parts are
the groups of the reduction.
-/

namespace RowPipeline.Reduction

open Outcome GroupBy

variable {c : Reduction} {mode : EvalMode} {allowEmpty : Bool} {rows part : List Row} {r : Row}

/-- A row with its group-by columns and their values. -/
def keyed? (c : Reduction) (mode : EvalMode) (r : Row) : Option Keyed :=
  (keys? mode c.first.groupBy r).map (·, r)

/-- The canonical texts of the group-by columns of a row, by which it is grouped. -/
def key? (c : Reduction) (mode : EvalMode) (r : Row) : Option (List (Option String)) :=
  (c.keyed? mode r).map vector

/-- The distinct keys of the rows, in the order in which they first come. Without rows there is one
if there are no group-by columns and empty groups are allowed. -/
def partKeys (c : Reduction) (mode : EvalMode) (allowEmpty : Bool) (rows : List Row) :
    List (List (Option String)) :=
  if rows.isEmpty ∧ c.first.groupBy.isEmpty ∧ allowEmpty then [[]]
  else (rows.filterMap (c.key? mode)).eraseDups

def members (c : Reduction) (mode : EvalMode) (rows : List Row) (key : List (Option String)) :
    List Row :=
  rows.filter fun r => c.key? mode r = some key

def parts (c : Reduction) (mode : EvalMode) (allowEmpty : Bool) (rows : List Row) :
    List (List Row) :=
  (c.partKeys mode allowEmpty rows).map (c.members mode rows)

theorem mem_members {key : List (Option String)} :
    r ∈ c.members mode rows key ↔ r ∈ rows ∧ c.key? mode r = some key := by
  rw [members, List.mem_filter, decide_eq_true_iff]

theorem mem_partKeys_of_mem {key : List (Option String)} (member : r ∈ rows)
    (own : c.key? mode r = some key) : key ∈ c.partKeys mode allowEmpty rows := by
  have occupied : rows.isEmpty = false := by
    rw [List.isEmpty_eq_false_iff]
    exact List.ne_nil_of_mem member
  rw [partKeys, occupied, if_neg (by simp), List.mem_eraseDups, List.mem_filterMap]
  exact ⟨r, member, own⟩

theorem exists_part_iff {s : Row} (own : r ∈ rows) (other : s ∈ rows)
    (keyed : ∃ key, c.key? mode r = some key) :
    (∃ part ∈ c.parts mode allowEmpty rows, r ∈ part ∧ s ∈ part) ↔
      c.key? mode r = c.key? mode s := by
  constructor
  · rintro ⟨part, listed, hr, hs⟩
    obtain ⟨key, _, rfl⟩ := List.mem_map.1 listed
    rw [(mem_members.1 hr).2, (mem_members.1 hs).2]
  · intro same
    obtain ⟨key, hr⟩ := keyed
    refine ⟨c.members mode rows key, List.mem_map_of_mem (mem_partKeys_of_mem own hr), ?_⟩
    exact ⟨mem_members.2 ⟨own, hr⟩, mem_members.2 ⟨other, same ▸ hr⟩⟩

/-! ## The row of a part -/

variable {keyed : List Keyed}

theorem key?_of_keyed? {k : Keyed} (h : c.keyed? mode r = some k) :
    c.key? mode r = some (vector k) := by
  rw [key?, h, Option.map_some]

theorem filterMap_key? (found : List.Forall₂ (fun r k => c.keyed? mode r = some k) rows keyed) :
    rows.filterMap (c.key? mode) = keyed.map vector := by
  induction found with
  | nil => rfl
  | cons first _ ih => rw [List.filterMap_cons_some (key?_of_keyed? first), ih, List.map_cons]

theorem rows_of_keyed
    (found : List.Forall₂ (fun r k => c.keyed? mode r = some k) rows keyed) :
    keyed.map Prod.snd = rows := by
  induction found with
  | nil => rfl
  | cons first _ ih =>
      obtain ⟨keys, _, rfl⟩ := Option.map_eq_some_iff.1 first
      rw [List.map_cons, ih]

theorem keyed_members (found : List.Forall₂ (fun r k => c.keyed? mode r = some k) rows keyed)
    (key : List (Option String)) :
    (c.members mode rows key).mapM (c.keyed? mode) = some (keyed.filter (vector · = key)) := by
  unfold members
  induction found with
  | nil => rfl
  | @cons r k rows keyed first _ ih =>
      have own := key?_of_keyed? first
      by_cases same : vector k = key
      · simp [own, same, first, ih]
      · simp [own, same, ih]

theorem vectors_of_part (found : List.Forall₂ (fun r k => c.keyed? mode r = some k) rows keyed)
    {key : List (Option String)} (distinct : key ∈ c.partKeys mode allowEmpty rows) :
    vectors c.first.groupBy allowEmpty (keyed.filter (vector · = key)) = [key] := by
  rw [partKeys, filterMap_key? found] at distinct
  split at distinct
  next alone =>
    obtain rfl : rows = [] := List.isEmpty_iff.1 alone.1
    cases found
    obtain rfl := List.mem_singleton.1 distinct
    exact if_pos ⟨rfl, alone.2⟩
  next =>
    obtain ⟨k, listed, own⟩ := List.mem_map.1 (List.mem_eraseDups.1 distinct)
    have present : k ∈ keyed.filter (vector · = key) :=
      List.mem_filter.2 ⟨listed, decide_eq_true own⟩
    have occupied : ¬(keyed.filter (vector · = key)).isEmpty = true := by
      rw [List.isEmpty_iff]
      exact List.ne_nil_of_mem present
    rw [vectors, if_neg fun alone => occupied alone.1]
    apply OrderedMap.eraseDups_of_forall_eq (List.ne_nil_of_mem (List.mem_map_of_mem present))
    intro v member
    obtain ⟨k', listed', rfl⟩ := List.mem_map.1 member
    exact of_decide_eq_true (List.mem_filter.1 listed').2

theorem toOption_run_part
    (found : List.Forall₂ (fun r k => c.keyed? mode r = some k) rows keyed)
    {key : List (Option String)} (distinct : key ∈ c.partKeys mode allowEmpty rows) :
    (c.run mode allowEmpty (c.members mode rows key)).toOption =
      (row? mode allowEmpty c.aggregates (keyed.filter (vector · = key))).map ([·]) := by
  have own : (c.members mode rows key).mapM (fun r => (keys? mode c.first.groupBy r).map (·, r)) =
      some (keyed.filter (vector · = key)) := keyed_members found key
  have alone : (keyed.filter (vector · = key)).filter (vector · = key) =
      keyed.filter (vector · = key) := by
    rw [List.filter_filter]
    simp
  rw [toOption_run, rows?, own, Option.bind_eq_bind, Option.bind_some,
    vectors_of_part found distinct, List.mapM_cons, List.mapM_nil, alone]
  cases row? mode allowEmpty c.aggregates (keyed.filter (vector · = key)) <;> rfl

theorem exists_keyed_of_key {key : List (Option String)} (allowEmpty : Bool) (nonempty : rows ≠ [])
    (oneGroup : ∀ r ∈ rows, c.key? mode r = some key) :
    ∃ keyed : List Keyed, keyed.map Prod.snd = rows ∧
      (c.run mode allowEmpty rows).toOption =
        (row? mode allowEmpty c.aggregates keyed).map ([·]) := by
  have each : ∀ r ∈ rows, ∃ k, c.keyed? mode r = some k := by
    intro r member
    obtain ⟨k, own, _⟩ := Option.map_eq_some_iff.1 (oneGroup r member)
    exact ⟨k, own⟩
  obtain ⟨keyed, all⟩ := exists_mapM_iff.2 each
  have found := mapM_eq_some.1 all
  obtain ⟨r, rest, split⟩ := List.exists_cons_of_ne_nil nonempty
  have first : r ∈ rows := by simp [split]
  have distinct : key ∈ c.partKeys mode allowEmpty rows :=
    mem_partKeys_of_mem first (oneGroup r first)
  have members : c.members mode rows key = rows :=
    List.filter_eq_self.2 fun r member => decide_eq_true (oneGroup r member)
  have own : keyed.filter (vector · = key) = keyed := by
    have listed := keyed_members found key
    rw [members, all] at listed
    exact (Option.some.inj listed).symm
  have part := toOption_run_part found distinct
  rw [members, own] at part
  exact ⟨keyed, rows_of_keyed found, part⟩

/-- A reduction gives the rows that it gives for the parts by themselves, one for each. -/
theorem run_eq_ok_iff (resolved : ∀ r ∈ rows, ∃ key, c.key? mode r = some key) (out : List Row) :
    c.run mode allowEmpty rows = .ok out ↔
      List.Forall₂ (fun part row => c.run mode allowEmpty part = .ok [row])
        (c.parts mode allowEmpty rows) out := by
  have each : ∀ r ∈ rows, ∃ k, c.keyed? mode r = some k := by
    intro r member
    obtain ⟨key, own⟩ := resolved r member
    obtain ⟨k, own, _⟩ := Option.map_eq_some_iff.1 own
    exact ⟨k, own⟩
  obtain ⟨keyed, all⟩ := exists_mapM_iff.2 each
  have found := mapM_eq_some.1 all
  have keys : vectors c.first.groupBy allowEmpty keyed = c.partKeys mode allowEmpty rows := by
    have length : keyed.isEmpty = rows.isEmpty := by
      cases found <;> rfl
    rw [vectors, partKeys, length, filterMap_key? found]
  have all : rows.mapM (fun r => (keys? mode c.first.groupBy r).map (·, r)) = some keyed := all
  rw [← toOption_eq_some, toOption_run, rows?, all, Option.bind_eq_bind, Option.bind_some, keys,
    mapM_eq_some, parts, List.forall₂_map_left_iff]
  have same : ∀ key ∈ c.partKeys mode allowEmpty rows, ∀ row,
      row? mode allowEmpty c.aggregates (keyed.filter (vector · = key)) = some row ↔
        c.run mode allowEmpty (c.members mode rows key) = .ok [row] := by
    intro key distinct row
    rw [← toOption_eq_some, toOption_run_part found distinct, Option.map_eq_some_iff]
    simp
  constructor
  · exact forall₂_imp_of_mem fun key distinct row => (same key distinct row).1
  · exact forall₂_imp_of_mem fun key distinct row => (same key distinct row).2

theorem mem_of_run {key : List (Option String)} (nonempty : c.members mode rows key ≠ [])
    {row : Row} (part : c.run mode allowEmpty (c.members mode rows key) = .ok [row])
    {out : List Row} (h : c.run mode allowEmpty rows = .ok out) : row ∈ out := by
  have some := toOption_eq_some.2 h
  rw [toOption_run] at some
  obtain ⟨keyed, all, _⟩ := Option.bind_eq_some_iff.1 some
  have resolved : ∀ r ∈ rows, ∃ key, c.key? mode r = .some key := by
    intro r member
    obtain ⟨k, own⟩ := exists_mapM_iff.1 ⟨keyed, all⟩ r member
    exact ⟨vector k, key?_of_keyed? own⟩
  obtain ⟨r, member⟩ := List.exists_mem_of_ne_nil _ nonempty
  obtain ⟨own, hasKey⟩ := mem_members.1 member
  have listed : c.members mode rows key ∈ c.parts mode allowEmpty rows :=
    List.mem_map_of_mem (mem_partKeys_of_mem own hasKey)
  obtain ⟨row', placed, part'⟩ := exists_of_forall₂ ((run_eq_ok_iff resolved out).1 h) listed
  rw [part] at part'
  cases part'
  exact placed

end RowPipeline.Reduction
