import RowPipeline.Pipeline.Json
import RowPipeline.Proofs.JsonText

/-! # Saved definitions

What is written of a definition describes that definition again, as a value and as a text.
-/

namespace RowPipeline

open Json

/-! ## The form of what is written

A definition has no more lists and objects around each other than a reader takes.
-/

theorem Json.fits_map {α : Type} {toJson : α → Json} {n : Nat} (each : ∀ x, Fits n (toJson x))
    (xs : List α) : Fits (n + 1) (.array (xs.map toJson)) := by
  apply Fits.array
  intro j member
  obtain ⟨x, -, rfl⟩ := List.mem_map.1 member
  exact each x

theorem ColumnType.fits_field {n : Nat} (name : String) (type : Option ColumnType) :
    ∀ key j, (key, j) ∈ field name type → Fits n j := by
  cases type <;> simp [field, toJson, Fits.string]

theorem Operation.fits_toJson {n : Nat} (op : Operation) : Fits (n + 2) op.toJson := by
  cases op with
  | map expression target =>
      apply Fits.object
      simpa [targetFields, Fits.string] using ColumnType.fits_field _ _
  | choose condition whenTrue whenFalse target =>
      apply Fits.object
      simpa [targetFields, Fits.string] using ColumnType.fits_field _ _
  | filter condition =>
      apply Fits.object
      simp [Fits.string]
  | aggregate function expression groupBy target =>
      apply Fits.object
      simpa [targetFields, Fits.string, fits_map Fits.string] using ColumnType.fits_field _ _

theorem ColumnDecl.fits_toJson {n : Nat} (c : ColumnDecl) : Fits (n + 1) c.toJson := by
  apply Fits.object
  simpa [Fits.string] using ColumnType.fits_field _ _

theorem Source.fits_toJson {n : Nat} (s : Source) : Fits (n + 3) s.toJson := by
  apply Fits.object
  cases s.columns <;> simp [Fits.string, fits_map Fits.string, fits_map ColumnDecl.fits_toJson]

theorem Source.fits_stepToJson {n : Nat} (sources : List Source) :
    Fits (n + 5) (stepToJson sources) := by
  apply Fits.object
  simp [fits_map Source.fits_toJson]

theorem Block.fits_toJson {n : Nat} (b : Block) : Fits (n + 4) b.toJson := by
  apply Fits.object
  simp [Fits.string, fits_map Operation.fits_toJson]

theorem Transform.fits_toJson {n : Nat} (t : Transform) : Fits (n + 6) t.toJson := by
  apply Fits.object
  simp [fits_map Operation.fits_toJson, fits_map Block.fits_toJson]

theorem LoadTarget.fits_toJson {n : Nat} (t : LoadTarget) : Fits (n + 1) t.toJson := by
  apply Fits.object
  simp [Fits.string]

theorem Pipeline.fits_stepToJson {α : Type} {toJson : α → Json} {n : Nat}
    (each : ∀ x, Fits n (toJson x)) (step : Option α) : Fits n (stepToJson toJson step) := by
  cases step with
  | none => exact .null
  | some x => exact each x

theorem Pipeline.fits_toJson (p : Pipeline) : Fits 7 p.toJson := by
  apply Fits.object
  simp [Fits.string, fits_stepToJson Source.fits_stepToJson, fits_stepToJson Transform.fits_toJson,
    fits_stepToJson LoadTarget.fits_toJson]

/-! ## Reading values -/

theorem Json.list?_map {α : Type} {toJson : α → Json} {item? : Json → Option α}
    (each : ∀ x, item? (toJson x) = some x) (xs : List α) :
    list? item? (.array (xs.map toJson)) = some xs := by
  rw [list?]
  induction xs with
  | nil => rfl
  | cons x xs ih => simp [each, ih]

@[simp] theorem Json.list?_text (texts : List String) :
    list? text? (.array (texts.map .string)) = some texts := by
  apply list?_map
  intro s
  rfl

@[simp] theorem Json.required?_text (s : String) : required? text? (some (.string s)) = some s :=
  rfl

@[simp] theorem ColumnType.ofField?_none : ofField? none = some none :=
  rfl

@[simp] theorem ColumnType.ofField?_some (t : ColumnType) :
    ofField? (some t.toJson) = some (some t) := by
  simp [ofField?, withDefault?, optional?, toJson, ofJson?, text?]

theorem Json.tagged?_object {tag word : String} {fields : List (String × Json)}
    (other : tag ∉ fields.map Prod.fst) :
    tagged? tag (.object ((tag, .string word) :: fields)) = some (word, .object fields) := by
  have apart : ∀ f ∈ fields, f.1 ≠ tag := by
    rintro f member rfl
    exact other (List.mem_map_of_mem member)
  have none : fields.filter (·.1 == tag) = [] := by
    rw [List.filter_eq_nil_iff]
    simpa using apart
  have all : fields.filter (·.1 != tag) = fields := by
    rw [List.filter_eq_self]
    simpa using apart
  simp [tagged?, valuesOf, none, all]

/-- The kind that is written with an operation tells how its other fields are read. -/
theorem Operation.ofJson?_of_kind {op : Operation} {kind : String} {fields : List (String × Json)}
    (written : op.toJson = .object (("kind", .string kind) :: fields))
    (other : "kind" ∉ fields.map Prod.fst) : ofJson? op.toJson = ofKind? kind (.object fields) := by
  have sound : op.toJson.isSound = true := (fits_toJson op : Fits (0 + 2) op.toJson).isSound
  rw [written] at sound
  rw [written, ofJson?, tagged?_object other]
  simp [sound]

theorem Operation.kind_not_mem_targetFields (t : Target) :
    "kind" ∉ (targetFields t).map Prod.fst := by
  obtain ⟨column, type⟩ := t
  cases type <;> simp [targetFields, ColumnType.field]

theorem Operation.ofJson?_toJson (op : Operation) : ofJson? op.toJson = some op := by
  cases op with
  | map expression target =>
      obtain ⟨column, type⟩ := target
      rw [ofJson?_of_kind rfl (by simp [kind_not_mem_targetFields])]
      cases type <;>
        simp [ofKind?, record?, valuesOf, targetFields, ColumnType.field, targetOf?]
  | choose condition whenTrue whenFalse target =>
      obtain ⟨column, type⟩ := target
      rw [ofJson?_of_kind rfl (by simp [kind_not_mem_targetFields])]
      cases type <;>
        simp [ofKind?, record?, valuesOf, targetFields, ColumnType.field, targetOf?]
  | filter condition =>
      rw [ofJson?_of_kind rfl (by simp)]
      simp [ofKind?, record?, valuesOf]
  | aggregate function expression groupBy target =>
      obtain ⟨column, type⟩ := target
      rw [ofJson?_of_kind rfl (by simp [kind_not_mem_targetFields])]
      cases type <;>
        simp [ofKind?, record?, valuesOf, targetFields, ColumnType.field, targetOf?, withDefault?]

theorem ColumnDecl.ofJson?_toJson (c : ColumnDecl) : ofJson? c.toJson = some c := by
  obtain ⟨name, type⟩ := c
  cases type <;> simp [ofJson?, toJson, record?, valuesOf, ColumnType.field]

theorem Source.ofJson?_toJson (s : Source) : ofJson? s.toJson = some s := by
  obtain ⟨aliasName, locations, columns⟩ := s
  cases columns with
  | none => simp [ofJson?, toJson, record?, valuesOf, withDefault?]
  | some columns =>
      simp [ofJson?, toJson, record?, valuesOf, withDefault?, optional?,
        list?_map ColumnDecl.ofJson?_toJson]

theorem Source.stepOfJson?_stepToJson (sources : List Source) :
    stepOfJson? (stepToJson sources) = some sources := by
  simp [stepOfJson?, stepToJson, record?, valuesOf, required?, list?_map ofJson?_toJson]

theorem Block.ofJson?_toJson (b : Block) : ofJson? b.toJson = some b := by
  simp [ofJson?, toJson, record?, valuesOf, withDefault?, list?_map Operation.ofJson?_toJson]

theorem Transform.ofJson?_toJson (t : Transform) : ofJson? t.toJson = some t := by
  simp [ofJson?, toJson, record?, valuesOf, withDefault?, list?_map Operation.ofJson?_toJson,
    list?_map Block.ofJson?_toJson]

theorem LoadTarget.ofJson?_toJson (t : LoadTarget) : ofJson? t.toJson = some t := by
  simp [ofJson?, toJson, record?, valuesOf]

theorem Pipeline.optional?_stepToJson {α : Type} {toJson : α → Json} {step? : Json → Option α}
    (there : ∀ x, toJson x ≠ .null) (each : ∀ x, step? (toJson x) = some x) (step : Option α) :
    optional? step? (stepToJson toJson step) = some step := by
  cases step with
  | none => rfl
  | some x =>
      rw [stepToJson, optional?.eq_2, each, Option.map_some]
      exact there x

theorem Pipeline.ofJson?_toJson (p : Pipeline) : ofJson? p.toJson = some p := by
  have extract := optional?_stepToJson (by simp [Source.stepToJson])
    Source.stepOfJson?_stepToJson p.extract
  have transform := optional?_stepToJson (by simp [Transform.toJson])
    Transform.ofJson?_toJson p.transform
  have load := optional?_stepToJson (by simp [LoadTarget.toJson]) LoadTarget.ofJson?_toJson p.load
  simp [ofJson?, toJson, record?, valuesOf, withDefault?, text?, extract, transform, load]

/-- A definition is what the value written of it describes, and what the text of that value
describes. -/
theorem Pipeline.saved_is_read (p : Pipeline) :
    ofJson? p.toJson = some p ∧ ofText? p.toText = some p := by
  have value := ofJson?_toJson p
  have text : Json.ofText? p.toJson.toText = some p.toJson :=
    Json.ofText?_toText p.fits_toJson (by decide)
  refine ⟨value, ?_⟩
  rw [ofText?, toText, text, Option.bind_some, value]

end RowPipeline
