import Mathlib.Tactic.LinearCombination
import RowPipeline.Proofs.DecimalOrder
import RowPipeline.Decimal.Text

/-! # Numbers of equal value

A number can be written with more or fewer decimal places. Nothing that is computed from it hangs on
that: the order, the canonical text, and every result of arithmetic are those of the value.
-/

namespace RowPipeline.Decimal

variable {a a' b b' : Decimal}

theorem sameValue_iff :
    a.sameValue b = true ↔ a.mantissa * tenPow b.scale = b.mantissa * tenPow a.scale := by
  rw [sameValue, beq_iff_eq, cmp, Int.compare_eq_eq]

@[simp] theorem sameValue_refl (a : Decimal) : a.sameValue a = true :=
  sameValue_iff.2 rfl

theorem sameValue_of_atMost (ab : a.atMost b = true) (ba : b.atMost a = true) :
    a.sameValue b = true := by
  rw [atMost_iff] at ab ba
  exact sameValue_iff.2 (Int.le_antisymm ab ba)

theorem zero_lt_tenPow (s : Nat) : 0 < tenPow s :=
  Int.natCast_pos.1 (tenPow_pos s)

theorem tenPow_add (s t : Nat) : tenPow (s + t) = tenPow s * tenPow t :=
  Nat.pow_add 10 s t

theorem isZero_congr (h : a.sameValue a' = true) : a.isZero = a'.isZero := by
  have equal := sameValue_iff.1 h
  have pos := tenPow_pos a.scale
  have pos' := tenPow_pos a'.scale
  rw [isZero, isZero, Bool.eq_iff_iff, beq_iff_eq, beq_iff_eq]
  constructor
  · intro zero
    rw [zero, Int.zero_mul] at equal
    exact (Int.mul_eq_zero.1 equal.symm).resolve_right pos.ne'
  · intro zero
    rw [zero, Int.zero_mul] at equal
    exact (Int.mul_eq_zero.1 equal).resolve_right pos'.ne'

theorem neg_congr (h : a.sameValue a' = true) : a.neg.sameValue a'.neg = true := by
  have equal := sameValue_iff.1 h
  rw [sameValue_iff]
  simp only [neg, Int.neg_mul, equal]

theorem trunc_congr (h : a.sameValue a' = true) : a.trunc = a'.trunc := by
  have equal := sameValue_iff.1 h
  have quotient : a.mantissa.tdiv (tenPow a.scale) = a'.mantissa.tdiv (tenPow a'.scale) := by
    calc a.mantissa.tdiv (tenPow a.scale)
        = (a.mantissa * tenPow a'.scale).tdiv (tenPow a.scale * tenPow a'.scale) :=
          (Int.mul_tdiv_mul_of_pos_left _ _ (tenPow_pos a'.scale)).symm
      _ = (a'.mantissa * tenPow a.scale).tdiv (tenPow a'.scale * tenPow a.scale) := by
          rw [equal, Int.mul_comm (tenPow a.scale)]
      _ = a'.mantissa.tdiv (tenPow a'.scale) :=
          Int.mul_tdiv_mul_of_pos_left _ _ (tenPow_pos a.scale)
  simp only [trunc, quotient]

theorem compare_mul_pos {x y k : Int} (pos : 0 < k) : compare (x * k) (y * k) = compare x y := by
  rcases Int.lt_trichotomy x y with less | rfl | greater
  · rw [Int.compare_eq_lt.2 less, Int.compare_eq_lt.2 (Int.mul_lt_mul_of_pos_right less pos)]
  · rw [Int.compare_eq_eq.2 rfl, Int.compare_eq_eq.2 rfl]
  · rw [Int.compare_eq_gt.2 greater, Int.compare_eq_gt.2 (Int.mul_lt_mul_of_pos_right greater pos)]

theorem cmp_congr (ha : a.sameValue a' = true) (hb : b.sameValue b' = true) :
    a.cmp b = a'.cmp b' := by
  have ha := sameValue_iff.1 ha
  have hb := sameValue_iff.1 hb
  -- Both comparisons are made at the common denominator of all four numbers.
  have left : a.mantissa * tenPow b.scale * (tenPow a'.scale * tenPow b'.scale) =
      a'.mantissa * tenPow b'.scale * (tenPow a.scale * tenPow b.scale) := by
    linear_combination (tenPow b.scale * tenPow b'.scale : Int) * ha
  have right : b.mantissa * tenPow a.scale * (tenPow a'.scale * tenPow b'.scale) =
      b'.mantissa * tenPow a'.scale * (tenPow a.scale * tenPow b.scale) := by
    linear_combination (tenPow a.scale * tenPow a'.scale : Int) * hb
  rw [cmp, cmp, ← compare_mul_pos (Int.mul_pos (tenPow_pos a'.scale) (tenPow_pos b'.scale)), left,
    right, compare_mul_pos (Int.mul_pos (tenPow_pos a.scale) (tenPow_pos b.scale))]

/-! ## The canonical text -/

theorem stripZeros_mul_tenPow (m : Int) (s k : Nat) :
    stripZeros (m * tenPow k) (s + k) = stripZeros m s := by
  induction k with
  | zero => simp [tenPow]
  | succ k ih =>
      have shift : m * tenPow (k + 1) = m * tenPow k * 10 := by
        rw [tenPow_add, Nat.cast_mul, ← Int.mul_assoc]
        rfl
      rw [shift, ← Nat.add_assoc, stripZeros, if_pos (Int.mul_emod_left _ _),
        Int.mul_ediv_cancel _ (by decide), ih]

theorem stripZeros_congr (h : a.sameValue a' = true) (fewer : a.scale ≤ a'.scale) :
    stripZeros a.mantissa a.scale = stripZeros a'.mantissa a'.scale := by
  obtain ⟨k, places⟩ := Nat.exists_eq_add_of_le fewer
  have equal := sameValue_iff.1 h
  have mantissa : a'.mantissa = a.mantissa * tenPow k := by
    rw [places, tenPow_add] at equal
    apply Int.eq_of_mul_eq_mul_right (tenPow_pos a.scale).ne'
    rw [← equal]
    push_cast
    ring
  rw [mantissa, places, stripZeros_mul_tenPow]

theorem normalize_congr (h : a.sameValue a' = true) : a.normalize = a'.normalize := by
  have strip : stripZeros a.mantissa a.scale = stripZeros a'.mantissa a'.scale := by
    rcases Nat.le_total a.scale a'.scale with fewer | more
    · exact stripZeros_congr h fewer
    · exact (stripZeros_congr (sameValue_iff.2 (sameValue_iff.1 h).symm) more).symm
  simp only [normalize, strip]

theorem canonical_congr (h : a.sameValue a' = true) : a.canonical = a'.canonical := by
  rw [canonical, canonical, normalize_congr h]

/-! ## Arithmetic -/

theorem roundHalfEven_mul (num : Int) {den k : Nat} (pos : 0 < k) :
    roundHalfEven (num * k) (den * k) = roundHalfEven num den := by
  have pos' : (0 : Int) < k := Int.natCast_pos.2 pos
  have quotient : num * k / (den * k : Nat) = num / den := by
    rw [Nat.cast_mul, Int.mul_ediv_mul_of_pos_left _ _ pos']
  have rest : num * k % (den * k : Nat) = num % den * k := by
    rw [Nat.cast_mul, Int.mul_comm num, Int.mul_comm den, Int.mul_emod_mul_of_pos _ _ pos',
      Int.mul_comm]
  have below : 2 * (num % den * k) < (den * k : Nat) ↔ 2 * (num % den) < den := by
    rw [← Int.mul_assoc, Nat.cast_mul, Int.mul_lt_mul_right pos']
  have above : 2 * (num % den * k) > (den * k : Nat) ↔ 2 * (num % den) > den := by
    rw [← Int.mul_assoc, Nat.cast_mul, gt_iff_lt, Int.mul_lt_mul_right pos']
  simp only [roundHalfEven, quotient, rest, below, above]

theorem fit?_mul (num : Int) {den k : Nat} (pos : 0 < k) (s : Nat) :
    fit? (num * k) (den * k) s = fit? num den s := by
  induction s with
  | zero => rw [fit?, fit?, roundHalfEven_mul num pos]
  | succ s ih =>
      have scaled : num * k * tenPow (s + 1) = num * tenPow (s + 1) * k := Int.mul_right_comm ..
      rw [fit?, fit?, ih, scaled, roundHalfEven_mul _ pos]

/-- What a fraction is rounded to is a matter of its value. -/
theorem nearest?_congr {num num' : Int} {den den' : Nat} (pos : 0 < den) (pos' : 0 < den')
    (equal : num * den' = num' * den) : nearest? num den = nearest? num' den' := by
  calc nearest? num den
      = nearest? (num * den') (den * den') := (fit?_mul num pos' maxScale).symm
    _ = nearest? (num' * den) (den' * den) := by rw [equal, Nat.mul_comm]
    _ = nearest? num' den' := fit?_mul num' pos maxScale

section Operations

variable (ha : a.sameValue a' = true) (hb : b.sameValue b' = true)

include ha hb

theorem add?_congr : a.add? b = a'.add? b' := by
  have ha := sameValue_iff.1 ha
  have hb := sameValue_iff.1 hb
  apply nearest?_congr (zero_lt_tenPow _) (zero_lt_tenPow _)
  rw [tenPow_add, tenPow_add]
  push_cast
  linear_combination (tenPow b.scale * tenPow b'.scale : Int) * ha +
    (tenPow a.scale * tenPow a'.scale : Int) * hb

theorem sub?_congr : a.sub? b = a'.sub? b' := by
  have ha := sameValue_iff.1 ha
  have hb := sameValue_iff.1 hb
  apply nearest?_congr (zero_lt_tenPow _) (zero_lt_tenPow _)
  rw [tenPow_add, tenPow_add]
  push_cast
  linear_combination (tenPow b.scale * tenPow b'.scale : Int) * ha -
    (tenPow a.scale * tenPow a'.scale : Int) * hb

theorem mul?_congr : a.mul? b = a'.mul? b' := by
  have ha := sameValue_iff.1 ha
  have hb := sameValue_iff.1 hb
  apply nearest?_congr (zero_lt_tenPow _) (zero_lt_tenPow _)
  rw [tenPow_add, tenPow_add]
  push_cast
  linear_combination (b.mantissa * tenPow b'.scale : Int) * ha +
    (a'.mantissa * tenPow a.scale : Int) * hb

theorem div?_congr : a.div? b = a'.div? b' := by
  have zero : b.mantissa = 0 ↔ b'.mantissa = 0 := by
    have same := isZero_congr hb
    rwa [isZero, isZero, Bool.eq_iff_iff, beq_iff_eq, beq_iff_eq] at same
  have ha := sameValue_iff.1 ha
  have hb := sameValue_iff.1 hb
  unfold div?
  by_cases none : b.mantissa = 0
  · rw [if_pos none, if_pos (zero.1 none)]
  · rw [if_neg none, if_neg (mt zero.2 none)]
    have sign : b.mantissa.sign = b'.mantissa.sign := by
      have signs := congrArg Int.sign hb
      rwa [Int.sign_mul, Int.sign_mul, Int.sign_eq_one_of_pos (tenPow_pos _),
        Int.sign_eq_one_of_pos (tenPow_pos _), Int.mul_one, Int.mul_one] at signs
    have size : (b.mantissa.natAbs * tenPow b'.scale : Int) =
        b'.mantissa.natAbs * tenPow b.scale := by
      have sizes := congrArg Int.natAbs hb
      rw [Int.natAbs_mul, Int.natAbs_mul, Int.natAbs_natCast, Int.natAbs_natCast] at sizes
      exact_mod_cast sizes
    have positive := Nat.mul_pos (Int.natAbs_pos.2 none) (zero_lt_tenPow a.scale)
    have positive' := Nat.mul_pos (Int.natAbs_pos.2 (mt zero.2 none)) (zero_lt_tenPow a'.scale)
    apply nearest?_congr positive positive'
    rw [sign, Nat.cast_mul, Nat.cast_mul]
    linear_combination (b'.mantissa.sign * tenPow b.scale * b'.mantissa.natAbs : Int) * ha -
      (b'.mantissa.sign * a'.mantissa * tenPow a.scale : Int) * size

end Operations

end RowPipeline.Decimal
