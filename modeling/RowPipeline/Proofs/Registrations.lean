import RowPipeline.Proofs.GroupFold
import RowPipeline.Proofs.NameAgreement

/-! # What registrations leave behind

A register is the outcome of the registrations made so far. Its columns are the lower-case forms of
the registered names, in the order in which they first came in; each has the spelling of the first
registration under its form and the type of the last one. One more registration keeps a register in
that state, so every sequence of them leads to it.
-/

namespace RowPipeline.Registry

open Text Name

/-- The first of the columns whose name has a lower-case form. -/
def firstUnder? (form : String) (columns : List KnownColumn) : Option KnownColumn :=
  columns.find? fun c => lower c.name = form

def lastUnder? (form : String) (columns : List KnownColumn) : Option KnownColumn :=
  firstUnder? form columns.reverse

/-- The lower-case forms of the names of columns, each where it comes first. -/
def formsOf (columns : List KnownColumn) : List String :=
  (columns.map fun c => lower c.name).eraseDups

section

variable {columns : List KnownColumn} {c : KnownColumn} {form : String}

theorem firstUnder?_append_singleton :
    firstUnder? form (columns ++ [c]) =
      (firstUnder? form columns).or (if lower c.name = form then some c else none) := by
  rw [firstUnder?, List.find?_append, List.find?_singleton]
  simp only [decide_eq_true_iff, firstUnder?]

theorem lastUnder?_append_singleton :
    lastUnder? form (columns ++ [c]) =
      if lower c.name = form then some c else lastUnder? form columns := by
  rw [lastUnder?, List.reverse_concat, firstUnder?, List.find?_cons]
  split
  next own => rw [if_pos (of_decide_eq_true own)]
  next other => rw [if_neg (of_decide_eq_false other), lastUnder?, firstUnder?]

theorem formsOf_append_singleton :
    formsOf (columns ++ [c]) =
      if lower c.name ∈ formsOf columns then formsOf columns
      else formsOf columns ++ [lower c.name] := by
  rw [formsOf, List.map_append, List.map_singleton, OrderedMap.eraseDups_append_singleton]
  simp only [formsOf, List.mem_eraseDups]

theorem isSome_firstUnder?_iff :
    (firstUnder? form columns).isSome = true ↔ ∃ c ∈ columns, lower c.name = form := by
  simp [firstUnder?]

end

/-- The register says of every lower-case form what these columns say, registered one after the
other: the spelling is that of the first one under the form, the type that of the last. -/
structure Reflects (columns : List KnownColumn) (r : Registry) : Prop where
  forms : r.columns.keys = formsOf columns
  name : ∀ form, (r.columns.get? form).map KnownColumn.name =
    (firstUnder? form columns).map KnownColumn.name
  type : ∀ form, (r.columns.get? form).map KnownColumn.type =
    (lastUnder? form columns).map KnownColumn.type

namespace Reflects

theorem start : Reflects [] empty where
  forms := rfl
  name _ := rfl
  type _ := rfl

variable {columns : List KnownColumn} {r : Registry}

theorem register (h : Reflects columns r) (c : KnownColumn) :
    Reflects (columns ++ [c]) (r.register c.name c.type) where
  forms := by
    rw [formsOf_append_singleton, ← h.forms]
    exact OrderedMap.keys_insert _ _ _
  name form := by
    rw [get?_register, firstUnder?_append_singleton]
    split
    next own =>
      subst own
      rw [if_pos rfl, Option.map_or, ← h.name, find?]
      -- A spelling that is known already stays.
      cases r.columns.get? (lower c.name) <;> rfl
    next other => rw [if_neg (Ne.symm other), Option.or_none, h.name]
  type form := by
    rw [get?_register, lastUnder?_append_singleton]
    split
    next own => rw [if_pos own.symm]; rfl
    next other => rw [if_neg (Ne.symm other), h.type]

theorem ofColumns (columns : List KnownColumn) : Reflects columns (ofColumns columns) := by
  induction columns using List.reverseRecOn with
  | nil => exact start
  | append_singleton columns c ih =>
      rw [Registry.ofColumns, List.foldl_concat]
      exact ih.register c

theorem entries_map {β : Type} (h : Reflects columns r) (f : KnownColumn → β) :
    r.entries.map (fun known => some (f known)) =
      (formsOf columns).map fun form => (r.columns.get? form).map f := by
  have found : r.columns.keys.map r.columns.get? = r.entries.map some :=
    Outcome.mapM_eq_some_iff.1 (OrderedMap.mapM_get?_keys r.columns)
  calc r.entries.map (fun known => some (f known))
      = (r.entries.map some).map (Option.map f) := by rw [List.map_map]; rfl
    _ = (formsOf columns).map fun form => (r.columns.get? form).map f := by
        rw [← found, h.forms, List.map_map]
        rfl

theorem names (h : Reflects columns r) :
    r.names.map some =
      (formsOf columns).map fun form => (firstUnder? form columns).map KnownColumn.name := by
  rw [Registry.names, List.map_map]
  exact (h.entries_map KnownColumn.name).trans (List.map_congr_left fun form _ => h.name form)

theorem types (h : Reflects columns r) :
    r.entries.map (fun known => some known.type) =
      (formsOf columns).map fun form => (lastUnder? form columns).map KnownColumn.type :=
  (h.entries_map KnownColumn.type).trans (List.map_congr_left fun form _ => h.type form)

end Reflects

theorem mem_columnsOfField_iff {r : Registry} {field name : String} :
    name ∈ r.columnsOfField field ↔
      name ∈ r.names ∧ ∃ front own, name = front ++ "." ++ own ∧ '.' ∉ front.toList ∧
        sameIgnoringCase own field = true := by
  rw [columnsOfField, List.mem_filter, hasField_iff, Option.map_eq_some_iff]
  refine and_congr_right fun _ => ⟨?_, ?_⟩
  · rintro ⟨own, found, same⟩
    obtain ⟨front, parts, first⟩ := field?_eq_some_iff.1 found
    exact ⟨front, own, parts, first, sameIgnoringCase_iff.2 same⟩
  · rintro ⟨front, own, parts, first, same⟩
    exact ⟨own, field?_eq_some_iff.2 ⟨front, parts, first⟩, sameIgnoringCase_iff.1 same⟩

/-- A register keeps the first spelling and the last type. After any registrations, a name is known
just if one of them was under the same lower-case form; it then has the spelling of the first such
registration and the type of the last. The columns are listed once for each lower-case form, in the
order of their first registrations, and those of a field are, in this order, the ones whose spelling
has the field behind its first point, up to the case of ASCII letters. -/
theorem ofColumns_first_spelling_last_type (columns : List KnownColumn) :
    let r := ofColumns columns
    (∀ name,
      (r.contains name = true ↔ ∃ c ∈ columns, lower c.name = lower name) ∧
      (r.find? name).map KnownColumn.name =
        (firstUnder? (lower name) columns).map KnownColumn.name ∧
      (r.find? name).map KnownColumn.type =
        (lastUnder? (lower name) columns).map KnownColumn.type) ∧
    r.names.map some =
      (formsOf columns).map (fun form => (firstUnder? form columns).map KnownColumn.name) ∧
    r.entries.map (fun known => some known.type) =
      (formsOf columns).map (fun form => (lastUnder? form columns).map KnownColumn.type) ∧
    ∀ field,
      (r.columnsOfField field).Sublist r.names ∧
      ∀ name, name ∈ r.columnsOfField field ↔
        name ∈ r.names ∧ ∃ front own, name = front ++ "." ++ own ∧ '.' ∉ front.toList ∧
          sameIgnoringCase own field = true := by
  intro r
  have reflects : Reflects columns r := Reflects.ofColumns columns
  refine ⟨fun name => ⟨?_, reflects.name (lower name), reflects.type (lower name)⟩,
    reflects.names, reflects.types, fun field => ⟨List.filter_sublist, fun name => ?_⟩⟩
  · rw [← isSome_firstUnder?_iff, contains, ← Option.isSome_map (f := KnownColumn.name), find?,
      reflects.name, Option.isSome_map]
  · exact mem_columnsOfField_iff

example :
    (ofColumns [⟨"Sales.Maß", some .decimal⟩, ⟨"rate", none⟩, ⟨"SALES.MAß", some .int⟩]).entries =
      [⟨"Sales.Maß", some .int⟩, ⟨"rate", none⟩] := by
  decide +kernel

end RowPipeline.Registry
