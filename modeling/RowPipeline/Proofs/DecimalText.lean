import Mathlib.Data.List.TakeWhile
import RowPipeline.Decimal.Text

/-! # Reading what was written of a number

A number is written with all its decimal places, so reading the text gives the number back with its
scale. The digits that have been read so far never exceed the whole mantissa, so none of them is
turned away.
-/

namespace RowPipeline.Decimal

theorem le_ofDigitChars (ds : List Char) (m : Nat) : m ≤ Nat.ofDigitChars 10 ds m := by
  induction ds generalizing m with
  | nil => exact Nat.le_refl m
  | cons d ds ih =>
      rw [Nat.ofDigitChars_cons]
      have := ih (10 * m + (d.toNat - '0'.toNat))
      omega

/-- The digits of a number in front of the point and behind it. -/
structure Digits where
  first : Char
  whole : List Char
  places : List Char
  digits : ∀ d ∈ first :: whole ++ places, d.isDigit = true

namespace Digits

/-- What is written behind the first digit, with a point if there are decimal places. -/
def tail (ds : Digits) : List Char :=
  ds.whole ++ if ds.places.isEmpty then [] else '.' :: ds.places

def chars (ds : Digits) : List Char :=
  ds.first :: ds.tail

def mantissa (ds : Digits) : Nat :=
  Nat.ofDigitChars 10 (ds.first :: ds.whole ++ ds.places) 0

end Digits

theorem isDigit_of_mem_paddedDigits {width n : Nat} {c : Char} (h : c ∈ paddedDigits width n) :
    c.isDigit = true := by
  simp only [paddedDigits, List.leftpad, List.mem_append, List.mem_replicate] at h
  rcases h with ⟨_, rfl⟩ | h
  · rfl
  · exact Nat.isDigit_of_mem_toDigits (by decide) (by decide) h

theorem ofDigitChars_paddedDigits (width n : Nat) :
    Nat.ofDigitChars 10 (paddedDigits width n) 0 = n := by
  rw [paddedDigits, List.leftpad, Nat.ofDigitChars_append, Nat.ofDigitChars_replicate_zero,
    Nat.mul_zero, Nat.ofDigitChars_ten_toDigits]

/-- A number is written in digits, as many of them behind the point as it has places. -/
theorem exists_digits (n scale : Nat) :
    ∃ ds : Digits, unsignedChars n scale = ds.chars ∧ ds.mantissa = n ∧
      ds.places.length = scale := by
  have length : scale < (paddedDigits (scale + 1) n).length := by
    rw [paddedDigits, List.length_leftpad]
    omega
  have digits : ∀ c ∈ paddedDigits (scale + 1) n, c.isDigit = true :=
    fun _ => isDigit_of_mem_paddedDigits
  have value := ofDigitChars_paddedDigits (scale + 1) n
  simp only [unsignedChars]
  generalize paddedDigits (scale + 1) n = ds at length digits value
  obtain ⟨first, whole, front⟩ : ∃ first whole, ds.take (ds.length - scale) = first :: whole := by
    apply List.exists_cons_of_ne_nil
    rw [ne_eq, ← List.length_eq_zero_iff, List.length_take]
    omega
  have split : first :: whole ++ ds.drop (ds.length - scale) = ds := by
    rw [← front, List.take_append_drop]
  have places : (ds.drop (ds.length - scale)).length = scale := by
    rw [List.length_drop]
    omega
  refine ⟨⟨first, whole, ds.drop (ds.length - scale), by rwa [split]⟩, ?_, ?_, places⟩
  · simp only [Digits.chars, Digits.tail, front, List.isEmpty_iff, ← List.length_eq_zero_iff,
      places]
    split <;> simp
  · simp only [Digits.mantissa, split, value]

section Reading

variable {m s : Nat} {started : Bool} {ds rest : List Char}

theorem readDigits_whole (digits : ∀ d ∈ ds, d.isDigit = true)
    (small : Nat.ofDigitChars 10 ds m < bound) :
    readDigits m s false true (ds ++ rest) =
      readDigits (Nat.ofDigitChars 10 ds m) s false true rest := by
  induction ds generalizing m with
  | nil => rfl
  | cons d ds ih =>
      obtain ⟨digit, digits⟩ := List.forall_mem_cons.1 digits
      rw [Nat.ofDigitChars_cons] at small ⊢
      have fits : m * 10 + digitValue d < bound := by
        have := le_ofDigitChars ds (10 * m + (d.toNat - '0'.toNat))
        simp only [digitValue]
        omega
      rw [List.cons_append, readDigits, if_pos digit, if_neg Bool.false_ne_true, if_pos fits]
      rw [Nat.mul_comm m 10, digitValue, ih digits small]

theorem readDigits_places (digits : ∀ d ∈ ds, d.isDigit = true)
    (small : Nat.ofDigitChars 10 ds m < bound) (few : s + ds.length ≤ maxScale) :
    readDigits m s true true ds = some (Nat.ofDigitChars 10 ds m, s + ds.length) := by
  induction ds generalizing m s with
  | nil => rfl
  | cons d ds ih =>
      obtain ⟨digit, digits⟩ := List.forall_mem_cons.1 digits
      rw [Nat.ofDigitChars_cons] at small ⊢
      rw [List.length_cons] at few ⊢
      have fits : s < maxScale ∧ m * 10 + digitValue d < bound := by
        have := le_ofDigitChars ds (10 * m + (d.toNat - '0'.toNat))
        simp only [digitValue]
        omega
      rw [readDigits, if_pos digit, if_pos rfl, if_pos fits, Nat.mul_comm m 10, digitValue,
        ih digits small (by omega), Nat.add_right_comm, Nat.add_assoc]

end Reading

theorem Digits.read (ds : Digits) (small : ds.mantissa < bound)
    (few : ds.places.length ≤ maxScale) :
    readDigits 0 0 false false ds.chars = some (ds.mantissa, ds.places.length) := by
  obtain ⟨first, whole, places, digits⟩ := ds
  simp only [List.cons_append, List.forall_mem_cons, List.forall_mem_append] at digits
  obtain ⟨digit, wholeDigits, placeDigits⟩ := digits
  simp only [mantissa, List.cons_append, Nat.ofDigitChars_cons, Nat.ofDigitChars_append,
    Nat.mul_zero, Nat.zero_add] at small ⊢
  have smallWhole := Nat.lt_of_le_of_lt (le_ofDigitChars places _) small
  have smallFirst := Nat.lt_of_le_of_lt (le_ofDigitChars whole _) smallWhole
  have fits : 0 * 10 + digitValue first < bound := by
    rw [digitValue]
    omega
  rw [chars, tail, readDigits, if_pos digit, if_neg Bool.false_ne_true, if_pos fits,
    Nat.zero_mul, Nat.zero_add, digitValue, readDigits_whole wholeDigits smallWhole]
  cases places with
  | nil => rfl
  | cons place places =>
      have point : ¬Char.isDigit '.' = true := by decide
      have few' : 0 + (place :: places).length ≤ maxScale := by simpa using few
      rw [List.isEmpty_cons, if_neg Bool.false_ne_true, readDigits, if_neg point, if_pos rfl,
        if_neg Bool.false_ne_true, readDigits_places placeDigits small few', Nat.zero_add]

theorem readPlain?_of_isDigit {c : Char} (digit : c.isDigit = true) (cs : List Char) :
    readPlain? (c :: cs) =
      (readDigits 0 0 false false (c :: cs)).bind fun (m, s) => ofParts? m s := by
  unfold readPlain?
  split
  next h => cases h; exact absurd digit (by decide)
  next h => cases h; exact absurd digit (by decide)
  next => rfl

theorem ofParts?_mantissa (d : Decimal) : ofParts? d.mantissa d.scale = some d :=
  dif_pos ⟨d.mantissa_lt, d.scale_le⟩

/-- Reading the text of a number gives the number with its scale. -/
theorem ofText?_toText (d : Decimal) : ofText? d.toText = some d := by
  obtain ⟨ds, written, mantissa, places⟩ := exists_digits d.mantissa.natAbs d.scale
  have read : readDigits 0 0 false false ds.chars = some (d.mantissa.natAbs, d.scale) := by
    rw [ds.read (mantissa ▸ d.mantissa_lt) (places ▸ d.scale_le), mantissa, places]
  have plain : readPlain? d.toChars = some d := by
    rw [toChars, written]
    by_cases negative : d.mantissa < 0
    · have value : -(d.mantissa.natAbs : Int) = d.mantissa := by omega
      rw [if_pos negative]
      change (readDigits 0 0 false false ds.chars).bind _ = _
      simp only [read, Option.bind_some, value, ofParts?_mantissa]
    · have value : (d.mantissa.natAbs : Int) = d.mantissa := by omega
      have digit : ds.first.isDigit = true := ds.digits _ List.mem_cons_self
      rw [if_neg negative, List.nil_append]
      change readPlain? (ds.first :: _) = _
      rw [readPlain?_of_isDigit digit]
      change (readDigits 0 0 false false ds.chars).bind _ = _
      simp only [read, Option.bind_some, value, ofParts?_mantissa]
  rw [ofText?, toText, String.toList_ofList, ofChars?, plain]

/-! ## Numbers without a sign -/

theorem exists_digits_of_nonneg {n : Decimal} (nonneg : 0 ≤ n.mantissa) :
    ∃ ds : Digits, n.toChars = ds.chars := by
  obtain ⟨ds, written, _⟩ := exists_digits n.mantissa.natAbs n.scale
  refine ⟨ds, ?_⟩
  rw [toChars, if_neg (Int.not_lt.2 nonneg), List.nil_append, written]

theorem nonneg_of_readPlain? {c : Char} {cs : List Char} {n : Decimal} (digit : c.isDigit = true)
    (h : readPlain? (c :: cs) = some n) : 0 ≤ n.mantissa := by
  rw [readPlain?_of_isDigit digit] at h
  obtain ⟨⟨m, s⟩, _, h⟩ := Option.bind_eq_some_iff.1 h
  obtain ⟨_, same⟩ := Option.dite_none_right_eq_some.1 h
  cases same
  exact Int.natCast_nonneg m

theorem readScientific?_eq_none {cs : List Char} (plain : ∀ d ∈ cs, d.isDigit = true ∨ d = '.') :
    readScientific? cs = none := by
  have unmarked : ∀ d ∈ cs, (!(d == 'e' || d == 'E')) = true := by
    intro d member
    simp only [Bool.not_eq_true', Bool.or_eq_false_iff, beq_eq_false_iff_ne]
    constructor <;> rintro rfl <;> exact absurd (plain _ member) (by decide)
  rw [readScientific?, List.dropWhile_eq_nil_iff.2 unmarked]

theorem nonneg_of_ofText? {c : Char} {cs : List Char} {n : Decimal} (digit : c.isDigit = true)
    (plain : ∀ d ∈ cs, d.isDigit = true ∨ d = '.')
    (h : ofText? (String.ofList (c :: cs)) = some n) : 0 ≤ n.mantissa := by
  have none : readScientific? (c :: cs) = none :=
    readScientific?_eq_none (List.forall_mem_cons.2 ⟨.inl digit, plain⟩)
  simp only [ofText?, String.toList_ofList, ofChars?, none] at h
  cases read : readPlain? (c :: cs) with
  | none => simp [read] at h
  | some n' =>
      obtain rfl : n' = n := by simpa [read] using h
      exact nonneg_of_readPlain? digit read

end RowPipeline.Decimal
