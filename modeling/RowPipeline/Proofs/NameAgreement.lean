import RowPipeline.Check
import RowPipeline.Proofs.Resolution

/-! # Names in a check and in a run

A check seeks a name among the registered columns, in full lower case. A run seeks it among the
columns of a row, an exact spelling before one with the ASCII letters folded. Where both have the
same columns and the two foldings of case agree on the names at hand, the two come to the same.
-/

namespace RowPipeline

open Text Name

/-- The names under which a column is sought as a whole: one without an alias also under the alias
of the scope. -/
def ColumnRef.spellings (c : ColumnRef) (scope : Option String) : List String :=
  if c.hasAlias then [c.written] else [inScope scope c.written, c.written]

theorem ColumnRef.field?_of_hasAlias {identifier : String}
    (qualified : (ofName identifier).hasAlias = true) :
    Name.field? identifier = some (ofName identifier).name := by
  unfold ofName at qualified ⊢
  cases cut : Name.split? identifier with
  | none => simp [cut, hasAlias] at qualified
  | some parts => simp [Name.field?, cut]

namespace Registry

def ofColumns (columns : List KnownColumn) : Registry :=
  columns.foldl (fun r c => r.register c.name c.type) .empty

theorem keyed_ofColumns (columns : List KnownColumn) : (ofColumns columns).Keyed := by
  have kept : ∀ r : Registry, r.Keyed →
      (columns.foldl (fun r c => r.register c.name c.type) r).Keyed := by
    induction columns with
    | nil => exact fun r keyed => keyed
    | cons c columns ih => exact fun r keyed => ih _ (keyed.register c.name c.type)
  exact kept .empty keyed_empty

theorem Keyed.nodup_names {r : Registry} (keyed : r.Keyed) : r.names.Nodup := by
  have keys : r.names.map lower = r.columns.keys := by
    simp only [names, entries, OrderedMap.values, OrderedMap.keys, List.map_map]
    apply List.map_congr_left
    rintro ⟨key, known⟩ member
    exact keyed key known (OrderedMap.mem_entries_iff.1 member)
  have distinct : r.columns.keys.Nodup := r.columns.nodup
  rw [← keys] at distinct
  exact distinct.of_map lower

theorem Keyed.spelledAlike {known : Registry} (keyed : known.Keyed)
    (agree : CaseFoldsAgree known.names) : SpelledAlike known.names := by
  intro x memberX y memberY same
  have lowered := (agree x memberX y memberY).2 same
  obtain ⟨column, found, rfl⟩ := keyed.find?_of_mem_names memberX rfl
  obtain ⟨column', found', rfl⟩ := keyed.find?_of_mem_names memberY lowered.symm
  rw [found] at found'
  exact congrArg KnownColumn.name (Option.some.inj found')

end Registry

section SameColumns

variable {known : Registry} {r : Row}

/-- A register and a row with the same columns find the same column under a name. -/
theorem findColumn?_eq_find? (keyed : known.Keyed) (alike : SpelledAlike known.names)
    (columns : known.names.Perm r.columns) (name : String)
    (agree : CaseFoldsAgree (name :: known.names)) :
    r.findColumn? name = (known.find? name).map KnownColumn.name := by
  cases found : known.find? name with
  | none => exact findColumn?_of_not_known keyed columns.symm.subset agree found
  | some column =>
      have present : column.name ∈ r.columns := columns.subset (keyed.name_of_find? found).1
      exact findColumn?_of_find? keyed alike columns.symm.subset agree found present

/-- What a check and a run make of the same name: the same column, or a failure of the same kind
with the same candidates. -/
inductive SameResolution : Except CheckError KnownColumn → Except EvalError String → Prop where
  | found (column : KnownColumn) : SameResolution (.ok column) (.ok column.name)
  | unknown (name sought : String) (names columns : List String) :
      SameResolution (.error (.unknownColumn name sought names))
        (.error (.columnNotFound name columns))
  | ambiguous (name : String) {candidates candidates' : List String} :
      candidates.Perm candidates' →
      SameResolution (.error (.ambiguousColumn name candidates))
        (.error (.ambiguousColumn name candidates'))

theorem sameResolution_of_bare (keyed : known.Keyed) (alike : SpelledAlike known.names)
    (columns : known.names.Perm r.columns) {scope : Option String} {c : ColumnRef}
    (bare : c.hasAlias = false)
    (agree : CaseFoldsAgree (inScope scope c.written :: c.written :: known.names)) :
    SameResolution (known.resolve scope c) (r.resolve scope c) := by
  have underScope := findColumn?_eq_find? keyed alike columns (inScope scope c.written)
    (agree.subset (List.cons_subset_cons _ (List.subset_cons_self _ _)))
  have written := findColumn?_eq_find? keyed alike columns c.written
    (agree.subset (List.subset_cons_self _ _))
  have fields : (known.columnsOfField c.written).Perm (r.columnsOfField c.written) :=
    columns.filter _
  rw [Row.resolve_bare bare, underScope, written, ← Option.map_or]
  simp only [Registry.resolve, bare, Bool.false_eq_true, if_false]
  cases (known.find? (inScope scope c.written)).or (known.find? c.written) with
  | some column => exact .found column
  | none =>
      cases listed : known.columnsOfField c.written with
      | nil =>
          rw [listed, List.nil_perm] at fields
          simp only [fields]
          exact .unknown _ _ _ _
      | cons column more =>
          have member : column ∈ known.columnsOfField c.written := by simp [listed]
          obtain ⟨column, hit, rfl⟩ := keyed.find?_of_mem_names (List.mem_filter.1 member).1 rfl
          cases more with
          | nil =>
              rw [listed, List.singleton_perm] at fields
              simp only [← fields, hit, Option.getD_some]
              exact .found column
          | cons other more =>
              rw [listed] at fields
              generalize r.columnsOfField c.written = candidates at fields
              match candidates, fields with
              | [], fields => simp at fields
              | [_], fields => simp at fields
              | _ :: _ :: _, fields => exact .ambiguous _ fields

/-- A name means the same to a check and to a run on rows with the registered columns. Without an
alias the two find the same column, or find none, or are left with the same candidates. With an
alias a run finds what the check finds, and where the check finds nothing it may still find the
column that the part behind the first point names. -/
theorem check_resolves_as_row (columns : List KnownColumn) (r : Row)
    (same : ∀ name, name ∈ (Registry.ofColumns columns).names ↔ name ∈ r.columns)
    (alike : SpelledAlike r.columns) (scope : Option String) (identifier : String)
    (agree : CaseFoldsAgree ((ColumnRef.ofName identifier).spellings scope ++ r.columns)) :
    let known := Registry.ofColumns columns
    let c := ColumnRef.ofName identifier
    (c.hasAlias = false →
      (∀ name, (∃ column, known.resolve scope c = .ok column ∧ column.name = name) ↔
        r.resolve scope c = .ok name) ∧
      ((∃ name sought names, known.resolve scope c = .error (.unknownColumn name sought names)) ↔
        ∃ name names, r.resolve scope c = .error (.columnNotFound name names)) ∧
      (∀ candidates : List String,
        (∃ name names, known.resolve scope c = .error (.ambiguousColumn name names) ∧
          names.Perm candidates) ↔
        ∃ name names, r.resolve scope c = .error (.ambiguousColumn name names) ∧
          names.Perm candidates)) ∧
    (c.hasAlias = true →
      (∀ column, known.resolve scope c = .ok column → r.resolve scope c = .ok column.name) ∧
      (∀ name sought names, known.resolve scope c = .error (.unknownColumn name sought names) →
        (∃ name names, r.resolve scope c = .error (.columnNotFound name names)) ∨
        ∃ field column, Name.field? identifier = some field ∧
          r.findColumn? field = some column ∧ r.resolve scope c = .ok column)) := by
  intro known c
  have keyed : known.Keyed := Registry.keyed_ofColumns columns
  have perm : known.names.Perm r.columns :=
    (List.perm_ext_iff_of_nodup keyed.nodup_names r.nodup_columns).2 same
  have alike' : SpelledAlike known.names := alike.subset perm.subset
  have agree' : CaseFoldsAgree (c.spellings scope ++ known.names) :=
    agree.subset (perm.append_left _).subset
  constructor
  · intro bare
    have spellings : c.spellings scope = [inScope scope c.written, c.written] := by
      simp [ColumnRef.spellings, bare]
    rw [spellings] at agree'
    have both := sameResolution_of_bare keyed alike' perm bare agree'
    generalize known.resolve scope c = checked at both ⊢
    generalize r.resolve scope c = ran at both ⊢
    cases both with
    | found column => simp
    | unknown => simp
    | ambiguous name candidates =>
        refine ⟨by simp, by simp, fun names => ?_⟩
        simp [candidates.congr_left]
  · intro qualified
    have spellings : c.spellings scope = [c.written] := by
      simp [ColumnRef.spellings, qualified]
    rw [spellings] at agree'
    have written := findColumn?_eq_find? keyed alike' perm c.written agree'
    simp only [Registry.resolve, Row.resolve, qualified, if_true, written]
    cases hit : known.find? c.written with
    | some column => simp
    | none =>
        simp only [Option.map_none, Option.none_or]
        refine ⟨by simp, fun _ _ _ _ => ?_⟩
        cases found : r.findColumn? c.name with
        | some column =>
            exact .inr ⟨c.name, column, ColumnRef.field?_of_hasAlias qualified, found, rfl⟩
        | none => exact .inl ⟨_, _, rfl⟩

end SameColumns

def rates : List KnownColumn :=
  [⟨"sales.Rate", some .decimal⟩, ⟨"sales.qty", none⟩, ⟨"discount.rate", none⟩]

def rateRow : Row :=
  .ofList [("discount.rate", .null), ("sales.qty", .null), ("sales.Rate", .null)] none

/-- The rates leave a row without an answer, and therefore a check as well. -/
theorem check_resolves_as_row_rates :
    (∀ name, name ∈ (Registry.ofColumns rates).names ↔ name ∈ rateRow.columns) ∧
      SpelledAlike rateRow.columns ∧
      CaseFoldsAgree ((ColumnRef.ofName "rate").spellings none ++ rateRow.columns) ∧
      ∃ name names, (Registry.ofColumns rates).resolve none (.ofName "rate") =
        .error (.ambiguousColumn name names) ∧ names.Perm ["discount.rate", "sales.Rate"] := by
  have names : (Registry.ofColumns rates).names = ["sales.Rate", "sales.qty", "discount.rate"] := by
    decide +kernel
  have columns : rateRow.columns = ["discount.rate", "sales.qty", "sales.Rate"] := by
    decide +kernel
  have same : ∀ name, name ∈ (Registry.ofColumns rates).names ↔ name ∈ rateRow.columns := by
    intro name
    rw [names, columns]
    simp only [List.mem_cons, List.not_mem_nil, or_false]
    tauto
  have alike : SpelledAlike rateRow.columns := by decide +kernel
  have agree : CaseFoldsAgree ((ColumnRef.ofName "rate").spellings none ++ rateRow.columns) :=
    caseFoldsAgree_of_ascii (by decide +kernel)
  have bare : (ColumnRef.ofName "rate").hasAlias = false := by decide +kernel
  have ran : rateRow.resolve none (.ofName "rate") =
      .error (.ambiguousColumn "rate" ["discount.rate", "sales.Rate"]) := by decide +kernel
  obtain ⟨_, _, ambiguous⟩ :=
    (check_resolves_as_row rates rateRow same alike none "rate" agree).1 bare
  exact ⟨same, alike, agree, (ambiguous _).2 ⟨_, _, ran, .refl _⟩⟩

end RowPipeline
