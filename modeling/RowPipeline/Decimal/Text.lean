import RowPipeline.Decimal.Arithmetic

/-! # Decimal numbers in text

Writing: a minus sign if the number is negative, the whole part with at least one digit, and the
decimal places behind a point. The canonical text is that of the normal form, so numbers of the same
value have the same canonical text.

Reading is more generous: a plus sign, digits missing on one side of the point, underscores between
digits, more places than fit (the surplus is rounded away) and an exponent are accepted.
-/

namespace RowPipeline.Decimal

/-- The decimal digits of a number, padded with zeros in front to at least `width`. -/
def paddedDigits (width n : Nat) : List Char :=
  (Nat.toDigits 10 n).leftpad width '0'

/-- The digits of `n` over the power `scale` of ten, with a point if there are decimal places. -/
def unsignedChars (n scale : Nat) : List Char :=
  let ds := paddedDigits (scale + 1) n
  let whole := ds.take (ds.length - scale)
  if scale = 0 then whole else whole ++ '.' :: ds.drop (ds.length - scale)

/-- The characters of a number with all its decimal places. -/
def toChars (d : Decimal) : List Char :=
  (if d.mantissa < 0 then ['-'] else []) ++ unsignedChars d.mantissa.natAbs d.scale

/-- The number with all its decimal places. -/
def toText (d : Decimal) : String :=
  String.ofList d.toChars

/-- The number with no more decimal places than its value needs. -/
def canonical (d : Decimal) : String :=
  d.normalize.toText

def digitValue (c : Char) : Nat :=
  c.toNat - '0'.toNat

/-- The surplus after the last digit that fits: its first digit `v` rounds, half up, and the rest
must be digits or underscores. A mantissa that rounding takes to the bound gives up one place. -/
def roundSurplus (m s v : Nat) (rest : List Char) : Option (Nat × Nat) :=
  if rest.all fun c => c.isDigit || c == '_' then
    let m' := if v ≥ 5 then m + 1 else m
    if m' < bound then some (m', s)
    else if s = 0 then none
    else some ((m' + 4) / 10, s - 1)
  else none

/-- Reads digits after the mantissa `m` with `s` decimal places so far. `point` tells whether the
point has been passed and `started` whether there was a digit. -/
def readDigits (m s : Nat) (point started : Bool) : List Char → Option (Nat × Nat)
  | [] => if started then some (m, s) else none
  | c :: cs =>
    if c.isDigit then
      let v := digitValue c
      if point then
        if s < maxScale ∧ m * 10 + v < bound then readDigits (m * 10 + v) (s + 1) point true cs
        else roundSurplus m s v cs
      else if m * 10 + v < bound then readDigits (m * 10 + v) s point true cs
      else none
    else if c = '.' then
      if point then none else readDigits m s true started cs
    else if c = '_' then
      if started then readDigits m s point started cs else none
    else none

def readPlain? (cs : List Char) : Option Decimal :=
  match cs with
  | '-' :: ds => (readDigits 0 0 false false ds).bind fun (m, s) => ofParts? (-m) s
  | '+' :: ds => (readDigits 0 0 false false ds).bind fun (m, s) => ofParts? m s
  | ds => (readDigits 0 0 false false ds).bind fun (m, s) => ofParts? m s

def readNat? : List Char → Option Nat
  | [] => none
  | c :: cs =>
    if (c :: cs).all Char.isDigit then
      some ((c :: cs).foldl (fun n d => n * 10 + digitValue d) 0)
    else none

/-- Reads the digits of an exponent, with an optional plus sign. -/
def readMagnitude? : List Char → Option Nat
  | '+' :: cs => readNat? cs
  | cs => readNat? cs

/-- The number times the power `e` of ten. -/
def scaleUp? (d : Decimal) (e : Nat) : Option Decimal :=
  if e ≤ d.scale then ofParts? d.mantissa (d.scale - e)
  else if e ≤ maxScale then nearest? (d.mantissa * tenPow e) (tenPow d.scale)
  else none

/-- The number over the power `e` of ten. Places that do not fit are rounded away, half away from
zero. -/
def scaleDown? (d : Decimal) (e : Nat) : Option Decimal :=
  if e > maxScale then none
  else if d.scale + e ≤ maxScale then ofParts? d.mantissa (d.scale + e)
  else ofParts? (roundHalfAway d.mantissa (tenPow (d.scale + e - maxScale))) maxScale

/-- Reads a number with an exponent behind the first `e` or `E`. -/
def readScientific? (cs : List Char) : Option Decimal :=
  let isMark := fun c => c == 'e' || c == 'E'
  match cs.dropWhile fun c => !isMark c with
  | [] => none
  | _ :: exponent =>
    (readPlain? (cs.takeWhile fun c => !isMark c)).bind fun base =>
      match exponent with
      | '-' :: ds => (readMagnitude? ds).bind base.scaleDown?
      | ds => (readMagnitude? ds).bind base.scaleUp?

def ofChars? (cs : List Char) : Option Decimal :=
  match readPlain? cs with
  | some d => some d
  | none => readScientific? cs

/-- Reads a number; blank space around it is not allowed. -/
def ofText? (s : String) : Option Decimal :=
  ofChars? s.toList

end RowPipeline.Decimal
