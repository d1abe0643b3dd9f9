import RowPipeline.Decimal.Arithmetic
import RowPipeline.Decimal.Text

/-! # Numbers in JSON

How a number is spelled, and which numbers are within range. A number is held as a binary fraction
of 53 digits: its leading digits, as many as fit into 64 bits, and the power of ten that they are
multiplied by are rounded one after the other, and then their product is. The number is out of range
if a factor or the product is not below the 1024th power of two.
-/

namespace RowPipeline.Json.Number

/-! ## Spelling -/

def digitCount (cs : List Char) : Nat :=
  (cs.takeWhile Char.isDigit).length

/-- The number of characters of a fraction with its point, or nothing without a fraction. -/
def fractionLength? : List Char → Option Nat
  | '.' :: cs => if digitCount cs = 0 then none else some (digitCount cs + 1)
  | _ => some 0

/-- The number of characters of an exponent with its mark, or nothing without an exponent. -/
def exponentLength? : List Char → Option Nat
  | c :: s :: cs =>
    if c = 'e' ∨ c = 'E' then
      if s = '+' ∨ s = '-' then
        if digitCount cs = 0 then none else some (digitCount cs + 2)
      else if digitCount (s :: cs) = 0 then none else some (digitCount (s :: cs) + 1)
    else some 0
  | [c] => if c = 'e' ∨ c = 'E' then none else some 0
  | [] => some 0

/-- The number of characters of the number at the front: a whole part without superfluous zeros, and
a fraction and an exponent if they are there. -/
def length? (cs : List Char) : Option Nat := do
  let sign := if cs.head? = some '-' then 1 else 0
  let cs := cs.drop sign
  let whole := if cs.head? = some '0' then 1 else digitCount cs
  if whole = 0 then none
  let cs := cs.drop whole
  let fraction ← fractionLength? cs
  let exponent ← exponentLength? (cs.drop fraction)
  return sign + whole + fraction + exponent

/-! ## Range -/

/-- The leading digits of a number, and the power of ten that they are multiplied by. -/
structure Leading where
  significand : Nat := 0
  exponent : Int := 0

def Leading.next (l : Leading) (c : Char) : Nat :=
  l.significand * 10 + Decimal.digitValue c

/-- Takes the digits of a whole part. Those behind the last one that fits into 64 bits count as
zeros. -/
def Leading.takeWhole (l : Leading) : List Char → Leading
  | [] => l
  | c :: cs =>
    if l.next c < Nat.pow 2 64 then takeWhole { l with significand := l.next c } cs
    else { l with exponent := l.exponent + (cs.length + 1 : Nat) }

/-- Takes the digits behind the point, up to the last one that fits into 64 bits. -/
def Leading.takePlaces (l : Leading) : List Char → Leading
  | [] => l
  | c :: cs =>
    if l.next c < Nat.pow 2 64 then takePlaces ⟨l.next c, l.exponent - 1⟩ cs else l

def digitsValue (ds : List Char) : Nat :=
  ds.foldl (fun n c => n * 10 + Decimal.digitValue c) 0

/-- The exponent behind its mark; without a mark there is none. -/
def exponentOf : List Char → Int
  | _ :: '-' :: ds => -(digitsValue ds : Int)
  | _ :: '+' :: ds => digitsValue ds
  | _ :: ds => digitsValue ds
  | [] => 0

/-- The leading digits of a number that is spelled correctly, with its exponent. -/
def leading (cs : List Char) : Leading :=
  let cs := cs.dropWhile (· == '-')
  let whole := cs.takeWhile Char.isDigit
  let rest := cs.dropWhile Char.isDigit
  let l := Leading.takeWhole {} whole
  match rest with
  | '.' :: rest =>
    let l := l.takePlaces (rest.takeWhile Char.isDigit)
    { l with exponent := l.exponent + exponentOf (rest.dropWhile Char.isDigit) }
  | rest => { l with exponent := l.exponent + exponentOf rest }

/-- Rounds a whole number, half to even, to 53 binary digits. -/
def roundBinary (n : Nat) : Nat :=
  let unit := Nat.pow 2 (n.log2 + 1 - 53)
  (Decimal.roundHalfEven n unit).toNat * unit

/-- The largest power of ten that is within range. -/
def maxPower : Nat := 308

/-- A number that is spelled correctly is within range. -/
def inRange (cs : List Char) : Bool :=
  let l := leading cs
  if l.significand = 0 ∨ l.exponent ≤ 0 then true
  else if l.exponent > maxPower then false
  else
    let power := roundBinary (Decimal.tenPow l.exponent.toNat)
    roundBinary (roundBinary l.significand * power) < Nat.pow 2 1024

end RowPipeline.Json.Number
