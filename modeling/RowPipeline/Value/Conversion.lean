import RowPipeline.ColumnType
import RowPipeline.Value.Basic

/-! # Conversion of values

How a value is taken for a truth value or a number, and how it is made one of a declared type.
-/

namespace RowPipeline.Value

/-- Why a value has no counterpart of the wanted type. -/
inductive ConversionError where
  | notBoolean (text : String)
  | notNumber (text : String) (target : ColumnType)
  | nullNumber (target : ColumnType)
  deriving DecidableEq

def ConversionError.message : ConversionError → String
  | notBoolean s => "cannot interpret text '" ++ s ++ "' as a boolean"
  | notNumber s target => "cannot convert text '" ++ s ++ "' to " ++ target.name
  | nullNumber target => "cannot convert NULL to " ++ target.name

/-- Whether a condition with this value holds. Null does not hold, a number holds unless it is zero,
and a text is read as a truth value or a number. -/
def truth : Value → Except ConversionError Bool
  | null => .ok false
  | boolean b => .ok b
  | number n => .ok (!n.isZero)
  | text s =>
    let word := Text.trim s
    if Text.sameIgnoringCase word "true" then .ok true
    else if Text.sameIgnoringCase word "false" then .ok false
    else match Decimal.ofText? word with
      | some n => .ok (!n.isZero)
      | none => .error (.notBoolean s)

/-- The value as a number; `target` is the type to be named if there is none. -/
def toNumber (target : ColumnType) : Value → Except ConversionError Decimal
  | number n => .ok n
  | boolean b => .ok (if b then .one else .zero)
  | text s =>
    match Decimal.ofText? (Text.trim s) with
    | some n => .ok n
    | none => .error (.notNumber s target)
  | null => .error (.nullNumber target)

/-- Makes a value one of the given type. Null stays null as a text, does not hold as a truth value,
and is no number. -/
def convert (v : Value) (target : ColumnType) : Except ConversionError Value :=
  match target with
  | .int => (v.toNumber target).map fun n => number n.trunc
  | .decimal => (v.toNumber target).map number
  | .string => .ok ((v.canonical?.map text).getD null)
  | .boolean => v.truth.map boolean

/-- Converts to the declared type, if there is one. -/
def convertTo (v : Value) : Option ColumnType → Except ConversionError Value
  | some target => v.convert target
  | none => .ok v

/-- The number that an aggregate takes from a value; null has none and is passed over. -/
def toNumber? : Value → Except ConversionError (Option Decimal)
  | null => .ok none
  | v => (v.toNumber .decimal).map some

end RowPipeline.Value
