/-! # Decimal numbers

A number is a whole mantissa of at most 96 bits over a power of ten. The scale is part of the number
as written (`2.50` is not `2.5`), yet comparison looks at the value alone, and every number has one
normal form without trailing zeros.

A zero has no sign here: the mantissa is a whole number, so `-0.00` is `0.00`. A format that keeps a
sign beside the digits has a negative zero as well, but nothing in a pipeline would show it:
comparison takes both zeros for the same value, a sum or a product does not change with the sign of
a zero in it, and wherever a number becomes text it is normalized first, which drops the sign. An
expression is the one place that shows a number as written, and its literals have no sign: the minus
in front of `0.00` is an operator.
-/

namespace RowPipeline

def Decimal.tenPow (s : Nat) : Nat := Nat.pow 10 s

/-- Mantissas lie strictly below this bound, the 96th power of two. -/
abbrev Decimal.bound : Nat := 79228162514264337593543950336

abbrev Decimal.maxScale : Nat := 28

/-- The number `mantissa` over the power `scale` of ten. -/
structure Decimal where
  /-- All digits of the number, with its sign. -/
  mantissa : Int
  /-- How many of the digits stand behind the point. -/
  scale : Nat
  mantissa_lt : mantissa.natAbs < Decimal.bound
  scale_le : scale ≤ Decimal.maxScale
  deriving DecidableEq

namespace Decimal

/-- The number with these parts, if they are in range. -/
def ofParts? (mantissa : Int) (scale : Nat) : Option Decimal :=
  if h : mantissa.natAbs < bound ∧ scale ≤ maxScale then
    some ⟨mantissa, scale, h.1, h.2⟩
  else
    none

def zero : Decimal := ⟨0, 0, by decide, by decide⟩

def one : Decimal := ⟨1, 0, by decide, by decide⟩

instance : Inhabited Decimal := ⟨zero⟩

def ofInt? (n : Int) : Option Decimal :=
  ofParts? n 0

def isZero (d : Decimal) : Bool :=
  d.mantissa == 0

/-- Compares the values, whatever the scales. -/
def cmp (a b : Decimal) : Ordering :=
  compare (a.mantissa * tenPow b.scale) (b.mantissa * tenPow a.scale)

/-- The values are equal, whatever the scales. -/
def sameValue (a b : Decimal) : Bool :=
  a.cmp b == .eq

/-- The smaller number; the first of two equal ones. -/
def min (a b : Decimal) : Decimal :=
  if a.cmp b == .gt then b else a

/-- The greater number; the second of two equal ones. -/
def max (a b : Decimal) : Decimal :=
  if a.cmp b == .gt then a else b

def neg (d : Decimal) : Decimal where
  mantissa := -d.mantissa
  scale := d.scale
  mantissa_lt := by simpa using d.mantissa_lt
  scale_le := d.scale_le

/-- The whole part: the digits after the point are dropped, so the result is never further from
zero. -/
def trunc (d : Decimal) : Decimal where
  mantissa := d.mantissa.tdiv (tenPow d.scale)
  scale := 0
  mantissa_lt := by
    have h := d.mantissa_lt
    rw [Int.natAbs_tdiv]
    exact Nat.lt_of_le_of_lt (Nat.div_le_self _ _) h
  scale_le := by decide

/-- Takes zeros off the end of a mantissa with `scale` decimal places. -/
def stripZeros (mantissa : Int) : Nat → Int × Nat
  | 0 => (mantissa, 0)
  | s + 1 => if mantissa % 10 = 0 then stripZeros (mantissa / 10) s else (mantissa, s + 1)

theorem natAbs_stripZeros_le (m : Int) (s : Nat) : (stripZeros m s).1.natAbs ≤ m.natAbs := by
  induction s generalizing m with
  | zero => simp [stripZeros]
  | succ s ih =>
    simp only [stripZeros]
    split
    · have := ih (m / 10)
      omega
    · exact Nat.le_refl _

theorem stripZeros_scale_le (m : Int) (s : Nat) : (stripZeros m s).2 ≤ s := by
  induction s generalizing m with
  | zero => simp [stripZeros]
  | succ s ih =>
    simp only [stripZeros]
    split
    · exact Nat.le_succ_of_le (ih _)
    · exact Nat.le_refl _

/-- The same value with the fewest decimal places. -/
def normalize (d : Decimal) : Decimal where
  mantissa := (stripZeros d.mantissa d.scale).1
  scale := (stripZeros d.mantissa d.scale).2
  mantissa_lt := Nat.lt_of_le_of_lt (natAbs_stripZeros_le _ _) d.mantissa_lt
  scale_le := Nat.le_trans (stripZeros_scale_le _ _) d.scale_le

end Decimal

end RowPipeline
