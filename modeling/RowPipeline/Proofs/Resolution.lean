import Mathlib.Data.List.Nodup
import RowPipeline.Proofs.KnownColumns
import RowPipeline.Proofs.Outcome

/-! # What a name stands for

A check resolves names against the known columns and a run resolves them against the columns of a
row. Where no two spellings of a column are about and both foldings of case agree on the names, a
name that the check resolves to a column of the row stands for that very column in the row.
-/

namespace RowPipeline

open Text Name

namespace Row

theorem findColumn?_eq_some {r : Row} {name column : String}
    (h : r.findColumn? name = some column) :
    column ∈ r.columns ∧ sameIgnoringCase column name = true := by
  rcases Option.or_eq_some_iff.1 h with exact | ⟨_, folded⟩
  · have same : column = name := by simpa using List.find?_some exact
    exact ⟨List.mem_of_find?_eq_some exact, same ▸ sameIgnoringCase_refl column⟩
  · exact ⟨List.mem_of_find?_eq_some folded, by simpa using List.find?_some folded⟩

theorem findColumn?_eq_none_iff {r : Row} {name : String} :
    r.findColumn? name = none ↔ ∀ column ∈ r.columns, sameIgnoringCase column name = false := by
  simp only [findColumn?, Option.or_eq_none_iff, List.find?_eq_none, Bool.not_eq_true]
  refine ⟨fun h => h.2, fun h => ⟨fun column member => ?_, h⟩⟩
  have other := h column member
  by_contra same
  simp only [Bool.not_eq_false, beq_iff_eq] at same
  simp [same] at other

theorem findColumn?_of_alike {r : Row} (alike : SpelledAlike r.columns) {name column : String}
    (member : column ∈ r.columns) (same : sameIgnoringCase column name = true) :
    r.findColumn? name = some column := by
  cases found : r.findColumn? name with
  | none => simp [findColumn?_eq_none_iff.1 found column member] at same
  | some column' =>
      obtain ⟨member', same'⟩ := findColumn?_eq_some found
      rw [alike column' member' column member
        (sameIgnoringCase_trans same' (sameIgnoringCase_comm column name ▸ same))]

theorem nodup_columns (r : Row) : r.columns.Nodup :=
  r.values.nodup

theorem mem_columns_of_resolve {r : Row} {scope : Option String} {c : ColumnRef} {column : String}
    (h : r.resolve scope c = .ok column) : column ∈ r.columns := by
  unfold resolve at h
  split at h
  · split at h
    next found =>
      cases h
      rcases Option.or_eq_some_iff.1 found with found | ⟨_, found⟩
      · exact (findColumn?_eq_some found).1
      · exact (findColumn?_eq_some found).1
    next => cases h
  · simp only [resolveBare] at h
    split at h
    next found =>
      cases h
      rcases Option.or_eq_some_iff.1 found with found | ⟨_, found⟩
      · obtain ⟨aliasName, _, found⟩ := Option.bind_eq_some_iff.1 found
        exact (findColumn?_eq_some found).1
      · exact (findColumn?_eq_some found).1
    next =>
      split at h
      next single =>
        cases h
        have member : column ∈ r.columnsOfField c.name := by simp [single]
        exact (List.mem_filter.1 member).1
      next => cases h
      next => cases h

theorem lookup_eq_ok {r : Row} {scope : Option String} {c : ColumnRef} {v : Value} :
    r.lookup scope c = .ok v ↔
      ∃ column, r.resolve scope c = .ok column ∧ r.get? column = some v := by
  unfold lookup
  rw [Outcome.bind_eq_ok]
  refine exists_congr fun column => and_congr_right fun _ => ?_
  cases r.get? column <;> simp [throw, throwThe, MonadExceptOf.throw]

/-- A column that is found has a value, so a lookup fails only where the name stands for nothing. -/
theorem lookup_eq_error_iff {r : Row} {scope : Option String} {c : ColumnRef} {e : EvalError} :
    r.lookup scope c = .error e ↔ r.resolve scope c = .error e := by
  unfold lookup
  rw [Outcome.bind_eq_error, or_iff_left_iff_imp]
  rintro ⟨column, resolved, missing⟩
  obtain ⟨v, hv⟩ := mem_columns_iff.1 (mem_columns_of_resolve resolved)
  simp [hv] at missing

end Row

theorem ColumnRef.written_of_bare {c : ColumnRef} (bare : c.hasAlias = false) :
    c.written = c.name := by
  cases table : c.table with
  | none => simp [written, table]
  | some aliasName => simp [hasAlias, table] at bare

/-- A row seeks a name under the alias of the scope first, as the register of known columns does. -/
theorem Row.resolve_bare {r : Row} {scope : Option String} {c : ColumnRef}
    (bare : c.hasAlias = false) :
    r.resolve scope c =
      match (r.findColumn? (inScope scope c.written)).or (r.findColumn? c.written) with
      | some column => .ok column
      | none =>
        match r.columnsOfField c.written with
        | [column] => .ok column
        | [] => .error (.columnNotFound c.written r.columns)
        | columns => .error (.ambiguousColumn c.written columns) := by
  simp only [resolve, bare, c.written_of_bare bare, Bool.false_eq_true, if_false, resolveBare]
  cases scope with
  | none =>
      simp only [Option.bind_none, Option.none_or, inScope]
      cases r.findColumn? c.name <;> rfl
  | some aliasName => rfl

theorem Registry.resolve_cases {r : Registry} {scope : Option String} {c : ColumnRef}
    {column : KnownColumn} (h : r.resolve scope c = .ok column) :
    (c.hasAlias = true ∧ r.find? c.written = some column) ∨
    (c.hasAlias = false ∧
      (r.find? (inScope scope c.written) = some column ∨
        (r.find? (inScope scope c.written) = none ∧ r.find? c.written = some column) ∨
        (r.find? (inScope scope c.written) = none ∧ r.find? c.written = none ∧
          ∃ name, r.columnsOfField c.written = [name] ∧
            (r.find? name).getD ⟨name, none⟩ = column))) := by
  cases qualified : c.hasAlias with
  | true =>
      simp only [resolve, qualified, if_true] at h
      split at h
      next hit =>
        cases h
        exact .inl ⟨rfl, hit⟩
      next => cases h
  | false =>
      refine .inr ⟨rfl, ?_⟩
      simp only [resolve, qualified, Bool.false_eq_true, if_false] at h
      split at h
      next hit =>
        cases h
        rcases Option.or_eq_some_iff.1 hit with hit | hit
        · exact .inl hit
        · exact .inr (.inl hit)
      next miss =>
        obtain ⟨unscoped, unknown⟩ := Option.or_eq_none_iff.1 miss
        split at h
        next name single =>
          cases h
          exact .inr (.inr ⟨unscoped, unknown, name, single, rfl⟩)
        next => cases h
        next => cases h

theorem Registry.Keyed.mem_entries_of_resolve {known : Registry} (keyed : known.Keyed)
    {scope : Option String} {c : ColumnRef} {column : KnownColumn}
    (found : known.resolve scope c = .ok column) : column ∈ known.entries := by
  rcases resolve_cases found with ⟨_, hit⟩ | ⟨_, hit | ⟨_, hit⟩ | ⟨_, _, name, single, rfl⟩⟩
  · exact mem_entries_of_find? hit
  · exact mem_entries_of_find? hit
  · exact mem_entries_of_find? hit
  · have member : name ∈ known.columnsOfField c.written := by simp [single]
    obtain ⟨column, hit, rfl⟩ := keyed.find?_of_mem_names (List.mem_filter.1 member).1 rfl
    rw [hit, Option.getD_some]
    exact mem_entries_of_find? hit

section Agreement

variable {known : Registry} {r : Row}

theorem findColumn?_of_find? (keyed : known.Keyed) (alike : SpelledAlike known.names)
    (sub : r.columns ⊆ known.names) {name : String} (agree : CaseFoldsAgree (name :: known.names))
    {column : KnownColumn} (found : known.find? name = some column)
    (present : column.name ∈ r.columns) : r.findColumn? name = some column.name := by
  obtain ⟨member, same⟩ := keyed.name_of_find? found
  apply Row.findColumn?_of_alike (alike.subset sub) present
  exact (agree _ (List.mem_cons_of_mem _ member) _ List.mem_cons_self).1 same

theorem findColumn?_of_not_known (keyed : known.Keyed) (sub : r.columns ⊆ known.names)
    {name : String} (agree : CaseFoldsAgree (name :: known.names))
    (unknown : known.find? name = none) : r.findColumn? name = none := by
  rw [Row.findColumn?_eq_none_iff]
  intro column present
  by_contra same
  rw [Bool.not_eq_false] at same
  have member := sub present
  have lowered := (agree _ (List.mem_cons_of_mem _ member) _ List.mem_cons_self).2 same
  obtain ⟨found, hit, _⟩ := keyed.find?_of_mem_names member lowered
  simp [unknown] at hit

theorem columnsOfField_of_single (sub : r.columns ⊆ known.names) {field column : String}
    (single : known.columnsOfField field = [column]) (present : column ∈ r.columns) :
    r.columnsOfField field = [column] := by
  have has : hasField field column = true := by
    have member : column ∈ known.columnsOfField field := by simp [single]
    exact (List.mem_filter.1 member).2
  have only : ∀ c ∈ r.columnsOfField field, c = column := by
    intro c member
    obtain ⟨present, field⟩ := List.mem_filter.1 member
    have hit := List.mem_filter.2 ⟨sub present, field⟩
    exact List.mem_singleton.1 (single ▸ hit)
  have member : column ∈ r.columnsOfField field := List.mem_filter.2 ⟨present, has⟩
  have nodup : (r.columnsOfField field).Nodup := r.nodup_columns.filter _
  apply List.perm_singleton.1
  rw [List.perm_ext_iff_of_nodup nodup (List.nodup_singleton column)]
  intro c
  rw [List.mem_singleton]
  exact ⟨only c, fun same => same ▸ member⟩

/-- Where no two known columns differ in case alone and both foldings of case agree on the names at
hand, a name that is known for a column of the row stands for that column in the row. -/
theorem Row.resolve_of_known (keyed : known.Keyed) (alike : SpelledAlike known.names)
    (sub : r.columns ⊆ known.names) {scope : Option String} {c : ColumnRef}
    (agree : CaseFoldsAgree (inScope scope c.written :: c.written :: known.names))
    {column : KnownColumn} (found : known.resolve scope c = .ok column)
    (present : column.name ∈ r.columns) : r.resolve scope c = .ok column.name := by
  have agreeScoped : CaseFoldsAgree (inScope scope c.written :: known.names) :=
    agree.subset (List.cons_subset_cons _ (List.subset_cons_self _ _))
  have agreeWritten : CaseFoldsAgree (c.written :: known.names) :=
    agree.subset (List.subset_cons_self _ _)
  rcases Registry.resolve_cases found with ⟨qualified, hit⟩ | ⟨bare, hit⟩
  · simp [resolve, qualified, findColumn?_of_find? keyed alike sub agreeWritten hit present]
  · rw [resolve_bare bare]
    rcases hit with hit | ⟨unscoped, hit⟩ | ⟨unscoped, unknown, name, single, rfl⟩
    · simp [findColumn?_of_find? keyed alike sub agreeScoped hit present]
    · simp [findColumn?_of_not_known keyed sub agreeScoped unscoped,
        findColumn?_of_find? keyed alike sub agreeWritten hit present]
    · have member : name ∈ known.columnsOfField c.written := by simp [single]
      obtain ⟨column, hit, rfl⟩ :=
        keyed.find?_of_mem_names (List.mem_filter.1 member).1 rfl
      simp only [hit, Option.getD_some] at present ⊢
      simp [findColumn?_of_not_known keyed sub agreeScoped unscoped,
        findColumn?_of_not_known keyed sub agreeWritten unknown,
        columnsOfField_of_single sub single present]

end Agreement

end RowPipeline
