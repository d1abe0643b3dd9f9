import RowPipeline.Json.Basic

/-! # Taking JSON values apart

A record is written as an object or as the list of its field values in order. Fields at the end of
such a list may be left out like fields of an object; what an object has beyond the known fields is
passed over, but a known field must not come twice.
-/

namespace RowPipeline.Json

def text? : Json → Option String
  | string s => some s
  | _ => none

def boolean? : Json → Option Bool
  | boolean b => some b
  | _ => none

/-- The items of a list, each taken by `item?`. -/
def list? {α : Type} (item? : Json → Option α) : Json → Option (List α)
  | array items => items.mapM item?
  | _ => none

/-- Nothing if the value is null, and what `value?` makes of it otherwise. -/
def optional? {α : Type} (value? : Json → Option α) : Json → Option (Option α)
  | null => some none
  | j => (value? j).map some

/-- The values of the field of an object. -/
def valuesOf (name : String) (fields : List (String × Json)) : List Json :=
  (fields.filter (·.1 == name)).map Prod.snd

/-- The values of the fields of a record with the given names; a field that is left out has none. -/
def record? (names : List String) : Json → Option (List (Option Json))
  | object fields =>
    names.mapM fun name =>
      match valuesOf name fields with
      | [] => some none
      | [j] => some (some j)
      | _ => none
  | array items =>
    if items.length ≤ names.length then
      some (items.map some ++ List.replicate (names.length - items.length) none)
    else none
  | _ => none

def required? {α : Type} (value? : Json → Option α) (field : Option Json) : Option α :=
  field.bind value?

def withDefault? {α : Type} (default : α) (value? : Json → Option α) : Option Json → Option α
  | none => some default
  | some j => value? j

/-- The word in the field `tag` of a record, or at the front of a list, and the rest behind it. -/
def tagged? (tag : String) : Json → Option (String × Json)
  | object fields =>
    match valuesOf tag fields with
    | [string word] => some (word, object (fields.filter (·.1 != tag)))
    | _ => none
  | array (string word :: items) => some (word, array items)
  | _ => none

end RowPipeline.Json
