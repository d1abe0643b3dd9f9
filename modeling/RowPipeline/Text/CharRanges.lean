/-! # Sets of characters given by ranges -/

namespace RowPipeline.Text

/-- A set of code points as closed ranges, in ascending order. -/
abbrev CharRanges := List (Nat × Nat)

namespace CharRanges

def covers (ranges : CharRanges) (c : Char) : Bool :=
  ranges.any fun r => r.1 ≤ c.toNat && c.toNat ≤ r.2

end CharRanges

end RowPipeline.Text
