import RowPipeline.Json.Printer
import RowPipeline.Row

/-! # Rows in JSON

A row is written as an object with a field for each column. Numbers are written as texts, so that no
reader of them loses decimal places.
-/

namespace RowPipeline

/-- A value; a number is the text of its canonical form. -/
def Value.toJson : Value → Json
  | .null => .null
  | .number n => .string n.canonical
  | .text s => .string s
  | .boolean b => .boolean b

def Row.toJson (r : Row) : Json :=
  .object (r.entries.map fun (c, v) => (c, v.toJson))

end RowPipeline
