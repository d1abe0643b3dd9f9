import RowPipeline.Json.Decode
import RowPipeline.Json.Printer
import RowPipeline.Json.Reader
import RowPipeline.Pipeline.Basic

/-! # Pipeline definitions in JSON

Every definition has one written form: absent steps are written as null, and absent types and
absent column lists are left out. Reading also accepts definitions in which fields with a default
are left out, and any name of a type.
-/

namespace RowPipeline

namespace ColumnType

def toJson (t : ColumnType) : Json :=
  .string t.name

def ofJson? (j : Json) : Option ColumnType :=
  j.text?.bind ofName?

/-- The field of a type that may be absent. -/
def field (name : String) : Option ColumnType → List (String × Json)
  | some t => [(name, t.toJson)]
  | none => []

/-- The type in a field that may be absent or null. -/
def ofField? (field : Option Json) : Option (Option ColumnType) :=
  Json.withDefault? none (Json.optional? ofJson?) field

end ColumnType

namespace Operation

/-- A target as fields of the operation. -/
def targetFields (t : Target) : List (String × Json) :=
  ("target_column", .string t.column) :: ColumnType.field "target_type" t.type

def targetOf? (column type : Option Json) : Option Target := do
  return ⟨← Json.required? Json.text? column, ← ColumnType.ofField? type⟩

/-- An operation as an object whose field `kind` tells the operation. -/
def toJson : Operation → Json
  | map expression target =>
    .object (("kind", .string "map") :: ("expression", .string expression) :: targetFields target)
  | choose condition whenTrue whenFalse target =>
    .object (("kind", .string "conditional_map") :: ("condition", .string condition) ::
      ("true_expression", .string whenTrue) :: ("false_expression", .string whenFalse) ::
      targetFields target)
  | filter condition => .object [("kind", .string "filter"), ("condition", .string condition)]
  | aggregate function expression groupBy target =>
    .object (("kind", .string "aggregate") :: ("function", .string function) ::
      ("expression", .string expression) ::
      ("group_by_columns", .array (groupBy.map .string)) :: targetFields target)

/-- The operation of a kind whose fields are those of a record. -/
def ofKind? (kind : String) (j : Json) : Option Operation :=
  match kind with
  | "map" => do
    match ← j.record? ["expression", "target_column", "target_type"] with
    | [expression, column, type] =>
      return map (← Json.required? Json.text? expression) (← targetOf? column type)
    | _ => none
  | "conditional_map" => do
    match ← j.record?
      ["condition", "true_expression", "false_expression", "target_column", "target_type"] with
    | [condition, whenTrue, whenFalse, column, type] =>
      return choose (← Json.required? Json.text? condition) (← Json.required? Json.text? whenTrue)
        (← Json.required? Json.text? whenFalse) (← targetOf? column type)
    | _ => none
  | "filter" => do
    match ← j.record? ["condition"] with
    | [condition] => return filter (← Json.required? Json.text? condition)
    | _ => none
  | "aggregate" => do
    match ← j.record?
      ["function", "expression", "group_by_columns", "target_column", "target_type"] with
    | [function, expression, groupBy, column, type] =>
      return aggregate (← Json.required? Json.text? function)
        (← Json.required? Json.text? expression)
        (← Json.withDefault? [] (Json.list? Json.text?) groupBy) (← targetOf? column type)
    | _ => none
  | _ => none

/-- The operation that a value describes. Nothing in it may be unreadable, not even in a field that
the operation does not have. -/
def ofJson? (j : Json) : Option Operation := do
  if !j.isSound then none
  let (kind, fields) ← j.tagged? "kind"
  ofKind? kind fields

end Operation

namespace ColumnDecl

def toJson (c : ColumnDecl) : Json :=
  .object (("name", .string c.name) :: ColumnType.field "type" c.type)

def ofJson? (j : Json) : Option ColumnDecl := do
  match ← j.record? ["name", "type"] with
  | [name, type] => return ⟨← Json.required? Json.text? name, ← ColumnType.ofField? type⟩
  | _ => none

end ColumnDecl

namespace Source

def toJson (s : Source) : Json :=
  .object (("alias", .string s.aliasName) :: ("locations", .array (s.locations.map .string)) ::
    match s.columns with
    | some columns => [("columns", .array (columns.map ColumnDecl.toJson))]
    | none => [])

def ofJson? (j : Json) : Option Source := do
  match ← j.record? ["alias", "locations", "columns"] with
  | [aliasName, locations, columns] =>
    return {
      aliasName := ← Json.required? Json.text? aliasName
      locations := ← Json.withDefault? [] (Json.list? Json.text?) locations
      columns := ← Json.withDefault? none (Json.optional? (Json.list? ColumnDecl.ofJson?)) columns }
  | _ => none

/-- The extraction step with these sources. -/
def stepToJson (sources : List Source) : Json :=
  .object [("sources", .array (sources.map toJson))]

def stepOfJson? (j : Json) : Option (List Source) := do
  match ← j.record? ["sources"] with
  | [sources] => Json.required? (Json.list? ofJson?) sources
  | _ => none

end Source

namespace Block

def toJson (b : Block) : Json :=
  .object [("source_alias", .string b.aliasName),
    ("operations", .array (b.operations.map Operation.toJson))]

def ofJson? (j : Json) : Option Block := do
  match ← j.record? ["source_alias", "operations"] with
  | [aliasName, operations] =>
    return {
      aliasName := ← Json.required? Json.text? aliasName
      operations := ← Json.withDefault? [] (Json.list? Operation.ofJson?) operations }
  | _ => none

end Block

namespace Transform

def toJson (t : Transform) : Json :=
  .object [("operations", .array (t.operations.map Operation.toJson)),
    ("source_blocks", .array (t.blocks.map Block.toJson))]

def ofJson? (j : Json) : Option Transform := do
  match ← j.record? ["operations", "source_blocks"] with
  | [operations, blocks] =>
    return {
      operations := ← Json.withDefault? [] (Json.list? Operation.ofJson?) operations
      blocks := ← Json.withDefault? [] (Json.list? Block.ofJson?) blocks }
  | _ => none

end Transform

namespace LoadTarget

def toJson (t : LoadTarget) : Json :=
  .object [("target_kind", .string t.kind), ("target_name", .string t.name)]

def ofJson? (j : Json) : Option LoadTarget := do
  match ← j.record? ["target_kind", "target_name"] with
  | [kind, name] =>
    return ⟨← Json.required? Json.text? kind, ← Json.required? Json.text? name⟩
  | _ => none

end LoadTarget

namespace Pipeline

/-- A step that may be absent. -/
def stepToJson {α : Type} (toJson : α → Json) : Option α → Json
  | some step => toJson step
  | none => .null

def toJson (p : Pipeline) : Json :=
  .object [("name", .string p.name), ("version", .string p.version),
    ("extract", stepToJson Source.stepToJson p.extract),
    ("transform", stepToJson Transform.toJson p.transform),
    ("load", stepToJson LoadTarget.toJson p.load)]

def ofJson? (j : Json) : Option Pipeline := do
  match ← j.record? ["name", "version", "extract", "transform", "load"] with
  | [name, version, extract, transform, load] =>
    return {
      name := ← Json.required? Json.text? name
      version := ← Json.withDefault? "" Json.text? version
      extract := ← Json.withDefault? none (Json.optional? Source.stepOfJson?) extract
      transform := ← Json.withDefault? none (Json.optional? Transform.ofJson?) transform
      load := ← Json.withDefault? none (Json.optional? LoadTarget.ofJson?) load }
  | _ => none

def toText (p : Pipeline) : String :=
  p.toJson.toText

def ofText? (s : String) : Option Pipeline :=
  (Json.ofText? s).bind ofJson?

end Pipeline

end RowPipeline
