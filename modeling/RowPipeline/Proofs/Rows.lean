import Mathlib.Data.List.Forall2
import Mathlib.Data.List.Induction
import RowPipeline.Batch
import RowPipeline.Proofs.Spelling

/-! # Columns and values of rows

A row is known by its columns, the value at each of them, and its origin. Every way of making a row
is described by these here, and so is the search for a column by name.
-/

namespace RowPipeline

namespace Entries

variable {κ α : Type} [DecidableEq κ]

theorem mem_of_get?_eq_some {k : κ} {a : α} {es : List (κ × α)} (h : get? k es = some a) :
    (k, a) ∈ es := by
  induction es with
  | nil => simp [get?] at h
  | cons e es ih =>
      obtain ⟨j, b⟩ := e
      simp only [get?] at h
      split at h
      · simp_all
      · exact List.mem_cons_of_mem _ (ih h)

theorem get?_eq_some_of_mem {k : κ} {a : α} {es : List (κ × α)} (nodup : (keys es).Nodup)
    (h : (k, a) ∈ es) : get? k es = some a := by
  induction es with
  | nil => simp at h
  | cons e es ih =>
      obtain ⟨j, b⟩ := e
      simp only [keys, List.map_cons, List.nodup_cons] at nodup
      rcases List.mem_cons.1 h with first | later
      · cases first
        simp [get?]
      · have other : j ≠ k := by
          rintro rfl
          exact nodup.1 (List.mem_map_of_mem later)
        simp only [get?, if_neg other]
        exact ih nodup.2 later

theorem put_of_not_mem {k : κ} {a : α} {es : List (κ × α)} (fresh : k ∉ keys es) :
    put k a es = es ++ [(k, a)] := by
  induction es with
  | nil => rfl
  | cons e es ih =>
      obtain ⟨own, later⟩ := not_or.1 (mt List.mem_cons.2 fresh)
      rw [put, if_neg (Ne.symm own), ih later, List.cons_append]

section Beside

variable {β : Type} {R : α → β → Prop} {es : List (κ × α)} {fs : List (κ × β)}

/-- The entries have the same keys and related values, one beside the other. -/
abbrev Beside (R : α → β → Prop) (es : List (κ × α)) (fs : List (κ × β)) : Prop :=
  List.Forall₂ (fun e f => e.1 = f.1 ∧ R e.2 f.2) es fs

omit [DecidableEq κ] in
theorem keys_eq_of_beside (h : Beside R es fs) : keys es = keys fs := by
  rw [keys, keys, ← List.forall₂_eq_eq_eq, List.forall₂_map_left_iff, List.forall₂_map_right_iff]
  exact h.imp fun _ _ related => related.1

theorem get?_forall₂ (h : Beside R es fs) (k : κ) :
    Option.Rel R (get? k es) (get? k fs) := by
  induction h with
  | nil => exact .none
  | @cons e f es fs head _ ih =>
      obtain ⟨same, related⟩ := head
      simp only [get?, same]
      split
      · exact .some related
      · exact ih

end Beside

end Entries

namespace OrderedMap

variable {κ α : Type} [DecidableEq κ]

theorem mem_entries_iff {m : OrderedMap κ α} {k : κ} {a : α} :
    (k, a) ∈ m.entries ↔ m.get? k = some a :=
  ⟨Entries.get?_eq_some_of_mem m.nodup, Entries.mem_of_get?_eq_some⟩

theorem mem_keys_iff {m : OrderedMap κ α} {k : κ} : k ∈ m.keys ↔ ∃ a, m.get? k = some a := by
  rw [← Option.isSome_iff_exists]
  exact contains_iff.symm

theorem ofList_append_singleton (es : List (κ × α)) (e : κ × α) :
    ofList (es ++ [e]) = (ofList es).insert e.1 e.2 := by
  simp [ofList]

theorem get?_ofList (es : List (κ × α)) (k : κ) :
    (ofList es).get? k = Entries.get? k es.reverse := by
  induction es using List.reverseRecOn with
  | nil => rfl
  | append_singleton es e ih =>
      rw [ofList_append_singleton, get?_insert, List.reverse_concat, Entries.get?, ih]
      simp only [eq_comm]

theorem rel_get?_ofList {β : Type} {R : α → β → Prop} {es : List (κ × α)} {fs : List (κ × β)}
    (h : Entries.Beside R es fs) (k : κ) :
    Option.Rel R ((ofList es).get? k) ((ofList fs).get? k) := by
  rw [get?_ofList, get?_ofList]
  exact Entries.get?_forall₂ (List.forall₂_reverse_iff.2 h) k

theorem get?_ofList_eq_some {es : List (κ × α)} {k : κ} {a : α} (present : k ∈ Entries.keys es)
    (same : ∀ e ∈ es, e.1 = k → e.2 = a) : (ofList es).get? k = some a := by
  rw [get?_ofList]
  cases found : Entries.get? k es.reverse with
  | none =>
      have absent := Entries.get?_eq_none_iff.1 found
      simp only [Entries.keys, List.map_reverse, List.mem_reverse] at absent
      exact absurd present absent
  | some b =>
      have member := List.mem_reverse.1 (Entries.mem_of_get?_eq_some found)
      rw [← same (k, b) member rfl]

theorem get?_ofList_last {front back : List (κ × α)} {k : κ} {a : α}
    (last : k ∉ Entries.keys back) : (ofList (front ++ (k, a) :: back)).get? k = some a := by
  induction back using List.reverseRecOn with
  | nil =>
      rw [ofList_append_singleton, get?_insert]
      simp
  | append_singleton back e ih =>
      simp only [Entries.keys, List.map_append, List.mem_append, not_or] at last
      obtain ⟨earlier, own⟩ := last
      have other : k ≠ e.1 := by simpa using own
      rw [← List.cons_append, ← List.append_assoc, ofList_append_singleton, get?_insert,
        if_neg other]
      exact ih earlier

theorem mem_keys_ofList {es : List (κ × α)} {k : κ} :
    k ∈ (ofList es).keys ↔ k ∈ Entries.keys es := by
  rw [← not_iff_not, ← get?_eq_none_iff, get?_ofList, Entries.get?_eq_none_iff]
  simp [Entries.keys]

section Behind

variable {front : List κ} {f : κ → α} {es : List (κ × α)} {k : κ}

theorem get?_ofList_front (wanted : k ∈ front) :
    (ofList (front.map (fun k => (k, f k)) ++ es.filter fun e => !front.contains e.1)).get? k =
      some (f k) := by
  apply get?_ofList_eq_some
  · simp [Entries.keys, wanted]
  · rintro ⟨k', a⟩ member rfl
    simp only [List.mem_append, List.mem_map, List.mem_filter] at member
    rcases member with ⟨_, _, same⟩ | ⟨_, other⟩
    · cases same
      rfl
    · simp [wanted] at other

theorem mem_keys_behind (other : k ∉ front) :
    k ∈ Entries.keys (front.map (fun k => (k, f k)) ++ es.filter fun e => !front.contains e.1) ↔
      k ∈ Entries.keys es := by
  simp only [Entries.keys, List.map_append, List.map_map, List.mem_append, List.mem_map,
    List.mem_filter, Function.comp_apply]
  constructor
  · rintro (⟨k', wanted, rfl⟩ | ⟨e, ⟨member, _⟩, rfl⟩)
    · exact absurd wanted other
    · exact ⟨e, member, rfl⟩
  · rintro ⟨e, member, rfl⟩
    exact .inr ⟨e, ⟨member, by simpa using other⟩, rfl⟩

theorem get?_ofList_behind (m : OrderedMap κ α) (other : k ∉ front) :
    (ofList (front.map (fun k => (k, f k)) ++
      m.entries.filter fun e => !front.contains e.1)).get? k = m.get? k := by
  cases found : m.get? k with
  | none =>
      rw [get?_eq_none_iff, mem_keys_ofList, mem_keys_behind other]
      exact get?_eq_none_iff.1 found
  | some a =>
      apply get?_ofList_eq_some
      · exact (mem_keys_behind other).2 (mem_keys_iff.2 ⟨a, found⟩)
      · rintro ⟨k', b⟩ member rfl
        simp only [List.mem_append, List.mem_map, List.mem_filter] at member
        rcases member with ⟨k, wanted, same⟩ | ⟨member, _⟩
        · cases same
          exact absurd wanted other
        · have found' : m.get? k' = some b := mem_entries_iff.1 member
          exact Option.some.inj (found'.symm.trans found)

end Behind

end OrderedMap

namespace Row

open Text

@[simp] theorem origin_set (r : Row) (column : String) (v : Value) :
    (r.set column v).origin = r.origin := rfl

theorem get?_ofList (es : List (String × Value)) (origin : Option String) (column : String) :
    (ofList es origin).get? column = (OrderedMap.ofList es).get? column := rfl

theorem columns_ofList (es : List (String × Value)) (origin : Option String) :
    (ofList es origin).columns = (OrderedMap.ofList es).keys := rfl

theorem get?_set (r : Row) (column c : String) (v : Value) :
    (r.set column v).get? c = if c = column then some v else r.get? c :=
  OrderedMap.get?_insert r.values column c v

theorem columns_set (r : Row) (column : String) (v : Value) :
    (r.set column v).columns =
      if column ∈ r.columns then r.columns else r.columns ++ [column] :=
  OrderedMap.keys_insert r.values column v

theorem mem_columns_iff {r : Row} {c : String} : c ∈ r.columns ↔ ∃ v, r.get? c = some v :=
  OrderedMap.mem_keys_iff

theorem get?_eq_none_iff {r : Row} {c : String} : r.get? c = none ↔ c ∉ r.columns :=
  OrderedMap.get?_eq_none_iff

theorem contains_iff {r : Row} {c : String} : r.contains c = true ↔ c ∈ r.columns :=
  OrderedMap.contains_iff

/-! ## Padding -/

/-- Padding fills in the columns that the row lacks and changes no other value, whether it keeps the
row or builds it anew. -/
theorem get?_pad (columns : List String) (r : Row) (c : String) :
    (r.pad columns).get? c =
      if c ∈ columns then some ((r.get? c).getD .null) else r.get? c := by
  unfold pad
  split
  next exact =>
    split
    next wanted =>
      simp only [hasExactly, Bool.and_eq_true, List.all_eq_true] at exact
      obtain ⟨v, hv⟩ := mem_columns_iff.1 (contains_iff.1 (exact.1 c wanted))
      simp [hv]
    next => rfl
  next =>
    split
    next wanted => exact OrderedMap.get?_ofList_front wanted
    next other => exact OrderedMap.get?_ofList_behind r.values other

@[simp] theorem origin_pad (columns : List String) (r : Row) :
    (r.pad columns).origin = r.origin := by
  unfold pad
  split <;> rfl

theorem mem_columns_pad {columns : List String} {r : Row} {c : String} :
    c ∈ (r.pad columns).columns ↔ c ∈ columns ∨ c ∈ r.columns := by
  simp only [mem_columns_iff, get?_pad]
  split <;> simp_all

theorem mem_allColumns {rows : List Row} {c : String} :
    c ∈ allColumns rows ↔ ∃ r ∈ rows, c ∈ r.columns := by
  simp [allColumns]

theorem mem_columns_of_mem_padAll {rows : List Row} {r : Row} (h : r ∈ padAll rows) {c : String} :
    c ∈ r.columns ↔ ∃ s ∈ rows, c ∈ s.columns := by
  obtain ⟨s, hs, rfl⟩ := List.mem_map.1 h
  rw [mem_columns_pad, mem_allColumns]
  exact ⟨fun h => h.elim id fun own => ⟨s, hs, own⟩, .inl⟩

end Row

namespace Batch

open Row

theorem mem_allColumns {batches : List Batch} {c : String} :
    c ∈ allColumns batches ↔
      ∃ b ∈ batches, c ∈ b.columns ∨ ∃ r ∈ b.rows, c ∈ r.columns := by
  simp [allColumns]

/-- The batch is made of its rows alone: its columns are those of the rows. -/
def IsOfRows (b : Batch) : Prop :=
  b = ofRows b.aliasName b.rows

theorem mem_columns_of_mem_merge {batches : List Batch}
    (ofRows : ∀ b ∈ batches, b.IsOfRows) {r : Row} (h : r ∈ merge batches) {c : String} :
    c ∈ r.columns ↔ c ∈ batches.flatMap Batch.columns := by
  have union : c ∈ allColumns batches ↔ c ∈ batches.flatMap Batch.columns := by
    rw [mem_allColumns, List.mem_flatMap]
    refine exists_congr fun b => and_congr_right fun member => ?_
    have listed : b.columns = Row.allColumns b.rows := congrArg Batch.columns (ofRows b member)
    rw [listed, Row.mem_allColumns, or_self]
  simp only [merge, List.mem_flatMap, List.mem_map] at h
  obtain ⟨b, member, s, own, rfl⟩ := h
  rw [mem_columns_pad, ← union, or_iff_left_iff_imp]
  exact fun column => mem_allColumns.2 ⟨b, member, .inr ⟨s, own, column⟩⟩

end Batch

end RowPipeline
