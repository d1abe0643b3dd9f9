import RowPipeline.Proofs.Rows
import RowPipeline.Run

/-! # The register of known columns

A register files every column under the lower-case form of its first spelling. That invariant holds
of the empty register and is kept by every registration, so what a register knows is a matter of the
names that came in.
-/

namespace RowPipeline

open Text

namespace Registry

/-- Every column is filed under the lower-case form of its name. -/
def Keyed (r : Registry) : Prop :=
  ∀ key known, r.columns.get? key = some known → lower known.name = key

theorem keyed_empty : Keyed empty := by
  intro key known found
  cases found

theorem get?_register (r : Registry) (name key : String) (type : Option ColumnType) :
    (r.register name type).columns.get? key =
      if key = lower name then some { (r.find? name).getD ⟨name, type⟩ with type := type }
      else r.columns.get? key :=
  OrderedMap.get?_insert _ _ _ _

theorem mem_names_iff {r : Registry} {name : String} :
    name ∈ r.names ↔ ∃ key known, r.columns.get? key = some known ∧ known.name = name := by
  simp only [names, entries, OrderedMap.values, List.map_map, List.mem_map, Prod.exists,
    OrderedMap.mem_entries_iff, Function.comp_apply]

theorem mem_entries_of_find? {r : Registry} {name : String} {known : KnownColumn}
    (found : r.find? name = some known) : known ∈ r.entries :=
  List.mem_map.2 ⟨_, OrderedMap.mem_entries_iff.2 found, rfl⟩

theorem Keyed.name_of_find? {r : Registry} (keyed : r.Keyed) {name : String} {known : KnownColumn}
    (found : r.find? name = some known) :
    known.name ∈ r.names ∧ lower known.name = lower name :=
  ⟨mem_names_iff.2 ⟨_, known, found, rfl⟩, keyed _ known found⟩

theorem Keyed.find?_of_mem_names {r : Registry} (keyed : r.Keyed) {name column : String}
    (member : column ∈ r.names) (same : lower column = lower name) :
    ∃ known, r.find? name = some known ∧ known.name = column := by
  obtain ⟨key, known, found, rfl⟩ := mem_names_iff.1 member
  have filed := keyed key known found
  exact ⟨known, by rw [find?, ← same, filed, found], rfl⟩

theorem Keyed.contains_iff {r : Registry} (keyed : r.Keyed) {name : String} :
    r.contains name = true ↔ ∃ column ∈ r.names, lower column = lower name := by
  rw [contains, Option.isSome_iff_exists]
  constructor
  · rintro ⟨known, found⟩
    exact ⟨known.name, keyed.name_of_find? found⟩
  · rintro ⟨column, member, same⟩
    obtain ⟨known, found, _⟩ := keyed.find?_of_mem_names member same
    exact ⟨known, found⟩

theorem Keyed.register {r : Registry} (keyed : r.Keyed) (name : String)
    (type : Option ColumnType) : (r.register name type).Keyed := by
  intro key known found
  rw [get?_register] at found
  split at found
  next here =>
    cases found
    subst here
    cases earlier : r.find? name with
    | none => rfl
    | some known => exact keyed _ known earlier
  next => exact keyed key known found

/-- A registration adds its name, unless another spelling of it is known. -/
theorem mem_names_register {r : Registry} {name column : String} {type : Option ColumnType} :
    column ∈ (r.register name type).names ↔
      column ∈ r.names ∨ (column = name ∧ r.contains name = false) := by
  simp only [mem_names_iff, get?_register, contains]
  constructor
  · rintro ⟨key, known, found, rfl⟩
    split at found
    next here =>
      cases found
      cases earlier : r.find? name with
      | none => exact .inr ⟨rfl, rfl⟩
      | some known => exact .inl ⟨_, known, earlier, rfl⟩
    next => exact .inl ⟨key, known, found, rfl⟩
  · rintro (⟨key, known, found, rfl⟩ | ⟨rfl, unknown⟩)
    · by_cases here : key = lower name
      · subst here
        have earlier : r.find? name = some known := found
        exact ⟨lower name, _, if_pos rfl, by simp [earlier]⟩
      · exact ⟨key, known, by rw [if_neg here, found], rfl⟩
    · have absent : r.find? column = none := by simpa using unknown
      exact ⟨lower column, _, if_pos rfl, by simp [absent]⟩

theorem mem_names_register_of_alike {r : Registry} (keyed : r.Keyed) {name column : String}
    {type : Option ColumnType} (alike : ∀ c ∈ r.names, lower c = lower name → c = name) :
    column ∈ (r.register name type).names ↔ column = name ∨ column ∈ r.names := by
  rw [mem_names_register]
  constructor
  · rintro (known | ⟨rfl, _⟩)
    · exact .inr known
    · exact .inl rfl
  · rintro (rfl | known)
    · cases h : r.contains column with
      | false => exact .inr ⟨rfl, rfl⟩
      | true =>
          obtain ⟨c, member, same⟩ := keyed.contains_iff.1 h
          exact .inl (alike c member same ▸ member)
    · exact .inl known

theorem Keyed.registerNew {r : Registry} (keyed : r.Keyed) (name : String) :
    (r.registerNew name).Keyed := by
  unfold Registry.registerNew
  split
  · exact keyed
  · exact keyed.register name none

theorem mem_names_registerNew_of_alike {r : Registry} (keyed : r.Keyed) {name column : String}
    (alike : ∀ c ∈ r.names, lower c = lower name → c = name) :
    column ∈ (r.registerNew name).names ↔ column = name ∨ column ∈ r.names := by
  unfold Registry.registerNew
  split
  next present =>
    obtain ⟨c, member, same⟩ := keyed.contains_iff.1 present
    have own : name ∈ r.names := alike c member same ▸ member
    exact ⟨.inr, fun h => h.elim (fun e => e ▸ own) id⟩
  next => exact mem_names_register_of_alike keyed alike

theorem contains_register {r : Registry} {name key : String} {type : Option ColumnType} :
    (r.register name type).contains key = true ↔
      lower key = lower name ∨ r.contains key = true := by
  simp only [contains, find?, get?_register]
  split
  next same => simp [same]
  next other => simp [other]

theorem contains_registerNew {r : Registry} {name key : String} :
    (r.registerNew name).contains key = true ↔
      lower key = lower name ∨ r.contains key = true := by
  unfold registerNew
  split
  next present =>
    rw [or_iff_right_of_imp]
    intro same
    rwa [contains, find?, same]
  next => exact contains_register

theorem contains_foldl_registerNew {r : Registry} {names : List String} {key : String} :
    (names.foldl registerNew r).contains key = true ↔
      (∃ name ∈ names, lower key = lower name) ∨ r.contains key = true := by
  induction names generalizing r with
  | nil => simp
  | cons name names ih =>
      rw [List.foldl_cons, ih, contains_registerNew]
      simp only [List.mem_cons, or_and_right, exists_or, exists_eq_left]
      rw [or_left_comm, or_assoc]

end Registry

end RowPipeline
