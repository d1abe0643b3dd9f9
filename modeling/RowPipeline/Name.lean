import RowPipeline.Text.Split
import RowPipeline.Text.Case

/-! # Column names

A column of a source is known as `alias.field`. Inside a source block names are written without the
alias, and the alias of the block is put in front of them.
-/

namespace RowPipeline.Name

open Text

/-- The characters begin with the alias, up to the case of ASCII letters, followed by a point and at
least one more character. -/
def startsWithAlias (aliasName column : List Char) : Bool :=
  (column.take aliasName.length).map Char.toLower == aliasName.map Char.toLower &&
    match column.drop aliasName.length with
    | '.' :: _ :: _ => true
    | _ => false

/-- The column carries the alias already. -/
def isUnder (aliasName column : String) : Bool :=
  startsWithAlias aliasName.toList column.toList

/-- Puts the alias in front of a column that does not carry it yet. -/
def qualify (aliasName column : String) : String :=
  if isUnder aliasName column then column else aliasName ++ "." ++ column

/-- Qualifies under the alias of a scope; without a scope the name is kept as it is. -/
def inScope (scope : Option String) (column : String) : String :=
  match scope with
  | some aliasName => qualify aliasName column
  | none => column

/-- The parts before and after the first point. -/
def split? (name : String) : Option (String × String) :=
  splitOnce? '.' name

/-- The part after the first point. -/
def field? (name : String) : Option String :=
  (split? name).map Prod.snd

/-- The part after the first point is `field`, up to the case of ASCII letters. -/
def hasField (field name : String) : Bool :=
  match field? name with
  | some f => sameIgnoringCase f field
  | none => false

end RowPipeline.Name
