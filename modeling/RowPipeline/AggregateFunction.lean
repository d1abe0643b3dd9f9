import RowPipeline.Text.Blank
import RowPipeline.Text.Case

/-! # Aggregate functions -/

namespace RowPipeline

/-- A function that reduces the values of a group to one. -/
inductive AggregateFunction where
  | count
  | sum
  | average
  | least
  | greatest
  deriving DecidableEq, Repr

namespace AggregateFunction

def name : AggregateFunction → String
  | count => "COUNT"
  | sum => "SUM"
  | average => "AVG"
  | least => "MIN"
  | greatest => "MAX"

def requiresNumbers : AggregateFunction → Bool
  | count => false
  | sum | average | least | greatest => true

/-- The function of a name, in any case, with blank space around it or without. -/
def ofName? (name : String) : Option AggregateFunction :=
  let word := Text.upper (Text.trim name)
  [count, sum, average, least, greatest].find? fun f => f.name == word

@[simp] theorem ofName?_name (f : AggregateFunction) : ofName? f.name = some f := by
  cases f <;> decide

end AggregateFunction

end RowPipeline
