import RowPipeline.Decimal.Text
import RowPipeline.Text.Blank

/-! # Values

A cell of a row is nothing at all, a number, a text or a truth value. Every value but null has a
canonical text, by which values are compared and grouped.
-/

namespace RowPipeline

inductive Value where
  | null
  | number (n : Decimal)
  | text (s : String)
  | boolean (b : Bool)
  deriving DecidableEq

namespace Value

instance : Inhabited Value := ⟨null⟩

inductive Kind where
  | null
  | number
  | text
  | boolean
  deriving DecidableEq, Repr

def kind : Value → Kind
  | null => .null
  | number _ => .number
  | text _ => .text
  | boolean _ => .boolean

def Kind.name : Kind → String
  | .null => "NULL"
  | .number => "NUMBER"
  | .text => "TEXT"
  | .boolean => "BOOLEAN"

def isNull : Value → Bool
  | null => true
  | _ => false

/-- The text by which a value is compared; null has none. -/
def canonical? : Value → Option String
  | null => none
  | number n => some n.canonical
  | text s => some s
  | boolean b => some (if b then "true" else "false")

def display (v : Value) : String :=
  (canonical? v).getD "NULL"

/-- Equality of values, where numbers are equal if their values are, whatever their scales. -/
def same : Value → Value → Bool
  | null, null => true
  | number m, number n => m.sameValue n
  | text s, text t => s == t
  | boolean a, boolean b => a == b
  | _, _ => false

/-- The value of a raw cell: nothing if the cell is blank, a number if it reads as one, and the
cell as it stands otherwise. -/
def ofCell (raw : String) : Value :=
  let cell := Text.trim raw
  if cell.isEmpty then null
  else match Decimal.ofText? cell with
    | some n => number n
    | none => text raw

end Value

end RowPipeline
