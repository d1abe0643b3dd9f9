import RowPipeline.Json.Decode
import RowPipeline.Json.Printer
import RowPipeline.Json.Reader

/-! # Settings of a run -/

namespace RowPipeline

/-- The shape in which aggregates come out. -/
inductive AggregateShape where
  /-- Each aggregate has a row of its own for each group. -/
  | narrow
  /-- Aggregates over the same groups share the row of a group. -/
  | wide
  deriving DecidableEq, Repr

namespace AggregateShape

def name : AggregateShape → String
  | narrow => "narrow"
  | wide => "wide"

def ofName? : String → Option AggregateShape
  | "narrow" => some narrow
  | "wide" => some wide
  | _ => none

/-- The shape that a value describes: its word, or an object with that word for a field and null for
the value. -/
def ofJson? : Json → Option AggregateShape
  | .string word => ofName? word
  | .object [(word, .null)] => ofName? word
  | _ => none

end AggregateShape

/-- The settings of a run. -/
structure Config where
  shape : AggregateShape := .narrow
  /-- An average over no values is zero instead of an error, and an aggregate without groups has a
  row even if there are no rows to reduce. -/
  emptyGroups : Bool := false
  /-- The definition is checked before any row is touched. -/
  validateFirst : Bool := true
  /-- Arithmetic and order with a null operand give null instead of an error. -/
  nullPasses : Bool := false
  deriving DecidableEq

namespace Config

def toJson (c : Config) : Json :=
  .object [("aggregate_mode", .string c.shape.name),
    ("allow_empty_groups", .boolean c.emptyGroups),
    ("validate_before_run", .boolean c.validateFirst),
    ("null_short_circuit", .boolean c.nullPasses)]

/-- The settings that a value describes; what is left out has its default. -/
def ofJson? (j : Json) : Option Config := do
  match ← j.record?
    ["aggregate_mode", "allow_empty_groups", "validate_before_run", "null_short_circuit"] with
  | [shape, emptyGroups, validate, nullPasses] =>
    return {
      shape := ← Json.withDefault? .narrow AggregateShape.ofJson? shape
      emptyGroups := ← Json.withDefault? false Json.boolean? emptyGroups
      validateFirst := ← Json.withDefault? true Json.boolean? validate
      nullPasses := ← Json.withDefault? false Json.boolean? nullPasses }
  | _ => none

def toText (c : Config) : String :=
  c.toJson.toText

def ofText? (s : String) : Option Config :=
  (Json.ofText? s).bind ofJson?

end Config

end RowPipeline
