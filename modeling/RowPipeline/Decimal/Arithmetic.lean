import RowPipeline.Decimal.Basic

/-! # Decimal arithmetic

A sum, difference, product or quotient is the exact result, rounded half to even at the largest
scale at which the rounded mantissa still fits. The result is missing only if the exact result does
not even fit when rounded to a whole number.
-/

namespace RowPipeline.Decimal

/-- The whole number nearest to `num / den`; halfway between two, the even one. -/
def roundHalfEven (num : Int) (den : Nat) : Int :=
  let q := num / den
  let r := num % den
  if 2 * r < den then q
  else if 2 * r > den then q + 1
  else if q % 2 = 0 then q else q + 1

/-- The whole number nearest to `num / den`; halfway between two, the one further from zero. -/
def roundHalfAway (num : Int) (den : Nat) : Int :=
  num.sign * ((2 * num.natAbs + den) / (2 * den) : Nat)

/-- The fraction `num / den` rounded half to even at the largest scale up to the given one at which
it fits. -/
def fit? (num : Int) (den : Nat) : Nat → Option Decimal
  | 0 => ofParts? (roundHalfEven num den) 0
  | s + 1 =>
    match ofParts? (roundHalfEven (num * tenPow (s + 1)) den) (s + 1) with
    | some d => some d
    | none => fit? num den s

/-- The fraction `num / den`, for a positive `den`, as a decimal number with as many places as
fit. -/
def nearest? (num : Int) (den : Nat) : Option Decimal :=
  fit? num den maxScale

def add? (a b : Decimal) : Option Decimal :=
  nearest? (a.mantissa * tenPow b.scale + b.mantissa * tenPow a.scale) (tenPow (a.scale + b.scale))

def sub? (a b : Decimal) : Option Decimal :=
  nearest? (a.mantissa * tenPow b.scale - b.mantissa * tenPow a.scale) (tenPow (a.scale + b.scale))

def mul? (a b : Decimal) : Option Decimal :=
  nearest? (a.mantissa * b.mantissa) (tenPow (a.scale + b.scale))

/-- The quotient; missing also when `b` is zero. -/
def div? (a b : Decimal) : Option Decimal :=
  if b.mantissa = 0 then none
  else nearest? (b.mantissa.sign * a.mantissa * tenPow b.scale) (b.mantissa.natAbs * tenPow a.scale)

end RowPipeline.Decimal
