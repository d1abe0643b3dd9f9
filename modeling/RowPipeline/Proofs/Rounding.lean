import Mathlib.Algebra.Order.Field.Rat
import Mathlib.Tactic.FieldSimp
import Mathlib.Tactic.Linarith
import Mathlib.Tactic.Positivity
import RowPipeline.Proofs.DecimalValue

/-! # Rounding to decimal places

The result of an operation is a fraction rounded to as many decimal places as fit. It is off by at
most half a unit of its last place, so it lies on the same side of every number with that many
places as the fraction does, and it is the fraction itself if that has no more places.
-/

namespace RowPipeline.Decimal

def value (d : Decimal) : ℚ := d.mantissa / 10 ^ d.scale

theorem cast_tenPow (s : Nat) : (tenPow s : ℚ) = 10 ^ s := by
  rw [tenPow]
  norm_cast

theorem value_mul_pow (d : Decimal) : d.value * 10 ^ d.scale = d.mantissa := by
  unfold value
  field_simp

theorem atMost_iff_value {a b : Decimal} : a.atMost b = true ↔ a.value ≤ b.value := by
  rw [atMost_iff, value, value, div_le_div_iff₀ (by positivity) (by positivity), ← cast_tenPow,
    ← cast_tenPow]
  norm_cast

/-! ## Half to even -/

/-- A rounded fraction is off by at most half of its denominator, counted in numerators. -/
theorem two_mul_abs_roundHalfEven_le (num : Int) {den : Nat} (pos : 0 < den) :
    2 * |roundHalfEven num den * den - num| ≤ den := by
  have low := Int.emod_nonneg num (Int.natCast_ne_zero.2 pos.ne')
  have high := Int.emod_lt_of_pos num (Int.natCast_pos.2 pos)
  have split := Int.mul_ediv_add_emod num den
  have floor : num / den * den - num = -(num % den) := by linarith
  have next : (num / den + 1) * den - num = den - num % den := by linarith
  have down : |num / den * den - num| = num % den := by
    rw [floor, abs_neg, abs_of_nonneg low]
  have up : |(num / den + 1) * den - num| = den - num % den := by
    rw [next, abs_of_pos (by omega)]
  simp only [roundHalfEven]
  split
  · rw [down]
    omega
  · split
    · rw [up]
      omega
    · split
      · rw [down]
        omega
      · rw [up]
        omega

theorem abs_roundHalfEven_sub_le (num : Int) {den : Nat} (pos : 0 < den) :
    |(roundHalfEven num den : ℚ) - num / den| ≤ 1 / 2 := by
  have pos' : (0 : ℚ) < den := Nat.cast_pos.2 pos
  have off : (roundHalfEven num den : ℚ) - num / den =
      (roundHalfEven num den * den - num) / den := by
    field_simp
  have counted : 2 * |(roundHalfEven num den * den - num : ℚ)| ≤ den := by
    exact_mod_cast two_mul_abs_roundHalfEven_le num pos
  rw [off, abs_div, abs_of_pos pos', div_le_iff₀ pos']
  linarith

section Near

variable {k m : Int} {q : ℚ}

theorem le_of_near (near : |(k : ℚ) - q| ≤ 1 / 2) (reached : (m : ℚ) ≤ q) : m ≤ k := by
  have above : (m : ℚ) < (k + 1 : Int) := by
    push_cast
    linarith [(abs_le.1 near).1]
  exact Int.lt_add_one_iff.1 (Int.cast_lt.1 above)

theorem le_of_near' (near : |(k : ℚ) - q| ≤ 1 / 2) (bounded : q ≤ m) : k ≤ m := by
  have below : (k : ℚ) < (m + 1 : Int) := by
    push_cast
    linarith [(abs_le.1 near).2]
  exact Int.lt_add_one_iff.1 (Int.cast_lt.1 below)

theorem eq_of_near (near : |(k : ℚ) - q| ≤ 1 / 2) (whole : q = m) : k = m :=
  le_antisymm (le_of_near' near whole.le) (le_of_near near whole.ge)

theorem natAbs_le_of_near {n : Nat} (near : |(k : ℚ) - q| ≤ 1 / 2) (small : |q| ≤ n) :
    k.natAbs ≤ n := by
  obtain ⟨low, high⟩ := abs_le.1 small
  have below := le_of_near' near (m := n) (by exact_mod_cast high)
  have above := le_of_near near (m := -n) (by exact_mod_cast low)
  omega

end Near

/-! ## The largest scale that fits -/

/-- The number is the fraction rounded at the scale of the number. -/
def Rounds (d : Decimal) (q : ℚ) : Prop :=
  |(d.mantissa : ℚ) - q * 10 ^ d.scale| ≤ 1 / 2

theorem ofParts?_eq_some {k : Int} {s : Nat} {d : Decimal} :
    ofParts? k s = some d ↔ d.mantissa = k ∧ d.scale = s := by
  unfold ofParts?
  constructor
  · intro h
    split at h
    · cases h
      exact ⟨rfl, rfl⟩
    · cases h
  · rintro ⟨rfl, rfl⟩
    exact dif_pos ⟨d.mantissa_lt, d.scale_le⟩

section Fit

variable {num : Int} {den : Nat} (pos : 0 < den)

include pos

theorem near_scaled (s : Nat) :
    |(roundHalfEven (num * tenPow s) den : ℚ) - num / den * 10 ^ s| ≤ 1 / 2 := by
  have near := abs_roundHalfEven_sub_le (num * tenPow s) pos
  rwa [Int.cast_mul, Int.cast_natCast, cast_tenPow, mul_div_right_comm] at near

theorem rounds_of_parts {s : Nat} {d : Decimal}
    (parts : ofParts? (roundHalfEven (num * tenPow s) den) s = some d) :
    d.Rounds (num / den) := by
  obtain ⟨mantissa, rfl⟩ := ofParts?_eq_some.1 parts
  rw [Rounds, mantissa]
  exact near_scaled pos d.scale

theorem exists_parts {s n : Nat} (places : s ≤ maxScale)
    (small : |(num / den : ℚ)| * 10 ^ s ≤ n) (fits : n < bound) :
    ∃ d, ofParts? (roundHalfEven (num * tenPow s) den) s = some d := by
  have scaled : |(num / den : ℚ) * 10 ^ s| ≤ n := by
    rwa [abs_mul, abs_of_pos (by positivity : (0 : ℚ) < 10 ^ s)]
  have le := natAbs_le_of_near (near_scaled pos s) scaled
  exact ⟨⟨_, s, lt_of_le_of_lt le fits, places⟩, ofParts?_eq_some.2 ⟨rfl, rfl⟩⟩

/-- A fraction that fits with some decimal places is rounded to at least as many. -/
theorem exists_fit? {least s n : Nat} (more : least ≤ s) (places : s ≤ maxScale)
    (small : |(num / den : ℚ)| * 10 ^ least ≤ n) (fits : n < bound) :
    ∃ d, fit? num den s = some d ∧ least ≤ d.scale ∧ d.Rounds (num / den) := by
  induction s with
  | zero =>
      obtain rfl : least = 0 := by omega
      obtain ⟨d, parts⟩ := exists_parts pos places small fits
      have whole : fit? num den 0 = some d := by
        rw [← parts, fit?, tenPow]
        simp
      exact ⟨d, whole, Nat.zero_le _, rounds_of_parts pos parts⟩
  | succ s ih =>
      cases tried : ofParts? (roundHalfEven (num * tenPow (s + 1)) den) (s + 1) with
      | some d =>
          have scale := (ofParts?_eq_some.1 tried).2
          exact ⟨d, by rw [fit?, tried], by omega, rounds_of_parts pos tried⟩
      | none =>
          have less : least ≠ s + 1 := by
            rintro rfl
            obtain ⟨d, parts⟩ := exists_parts pos places small fits
            simp [tried] at parts
          obtain ⟨d, found, rest⟩ := ih (by omega) (by omega)
          exact ⟨d, by rw [fit?, tried, found], rest⟩

end Fit

/-! ## Fractions with few decimal places -/

/-- The fraction can be written with this number of decimal places. -/
def HasPlaces (q : ℚ) (s : Nat) : Prop :=
  ∃ k : Int, q * 10 ^ s = k

theorem HasPlaces.mono {q : ℚ} {s t : Nat} (has : HasPlaces q s) (more : s ≤ t) :
    HasPlaces q t := by
  obtain ⟨k, whole⟩ := has
  obtain ⟨u, rfl⟩ := Nat.exists_eq_add_of_le more
  refine ⟨k * 10 ^ u, ?_⟩
  rw [pow_add, ← mul_assoc, whole]
  push_cast
  rfl

theorem HasPlaces.add {p q : ℚ} {s : Nat} (hp : HasPlaces p s) (hq : HasPlaces q s) :
    HasPlaces (p + q) s := by
  obtain ⟨k, wholeP⟩ := hp
  obtain ⟨m, wholeQ⟩ := hq
  exact ⟨k + m, by rw [add_mul, wholeP, wholeQ, Int.cast_add]⟩

theorem hasPlaces_value (d : Decimal) : HasPlaces d.value d.scale :=
  ⟨d.mantissa, d.value_mul_pow⟩

theorem HasPlaces.exists_natAbs {q : ℚ} {s : Nat} (has : HasPlaces q s)
    (fits : |q| * 10 ^ s < bound) : ∃ n : Nat, |q| * 10 ^ s ≤ n ∧ n < bound := by
  obtain ⟨k, whole⟩ := has
  have size : |q| * 10 ^ s = k.natAbs := by
    rw [← abs_of_pos (by positivity : (0 : ℚ) < 10 ^ s), ← abs_mul, whole, Nat.cast_natAbs,
      Int.cast_abs]
  refine ⟨k.natAbs, size.le, ?_⟩
  rw [size] at fits
  exact_mod_cast fits

namespace Rounds

variable {d : Decimal} {q : ℚ} {s : Nat}

/-- Nothing is rounded off a fraction that has no more places than the number. -/
theorem value_eq (rounds : d.Rounds q) (has : HasPlaces q s) (more : s ≤ d.scale) :
    d.value = q := by
  obtain ⟨k, whole⟩ := has.mono more
  have exact : d.mantissa = k := eq_of_near rounds whole
  rw [value, exact, ← whole]
  field_simp

theorem abs_sub_le (rounds : d.Rounds q) (more : s ≤ d.scale) :
    |d.value - q| ≤ 1 / 10 ^ s / 2 := by
  have off : d.value - q = (d.mantissa - q * 10 ^ d.scale) / 10 ^ d.scale := by
    rw [value]
    field_simp
  have finer : (10 : ℚ) ^ s ≤ 10 ^ d.scale := pow_le_pow_right₀ (by norm_num) more
  calc |d.value - q|
      = |d.mantissa - q * 10 ^ d.scale| / 10 ^ d.scale := by
        rw [off, abs_div, abs_of_pos (by positivity : (0 : ℚ) < 10 ^ d.scale)]
    _ ≤ 1 / 2 / 10 ^ d.scale := by
        apply div_le_div_of_nonneg_right rounds
        positivity
    _ ≤ 1 / 2 / 10 ^ s := by
        apply div_le_div_of_nonneg_left (by norm_num) (by positivity) finer
    _ = 1 / 10 ^ s / 2 := by ring

theorem le_value {p : ℚ} (rounds : d.Rounds q) (has : HasPlaces p s) (more : s ≤ d.scale)
    (le : p ≤ q) : p ≤ d.value := by
  obtain ⟨k, whole⟩ := has.mono more
  have pos : (0 : ℚ) < 10 ^ d.scale := by positivity
  have reached : (k : ℚ) ≤ q * 10 ^ d.scale := by
    rw [← whole]
    exact mul_le_mul_of_nonneg_right le pos.le
  rw [value, le_div_iff₀ pos, whole]
  exact_mod_cast le_of_near rounds reached

theorem value_le {p : ℚ} (rounds : d.Rounds q) (has : HasPlaces p s) (more : s ≤ d.scale)
    (le : q ≤ p) : d.value ≤ p := by
  obtain ⟨k, whole⟩ := has.mono more
  have pos : (0 : ℚ) < 10 ^ d.scale := by positivity
  have bounded : q * 10 ^ d.scale ≤ k := by
    rw [← whole]
    exact mul_le_mul_of_nonneg_right le pos.le
  rw [value, div_le_iff₀ pos, whole]
  exact_mod_cast le_of_near' rounds bounded

end Rounds

/-! ## Sums and quotients -/

variable {a b : Decimal} {least n : Nat}

theorem exists_add? (places : least ≤ maxScale) (small : |a.value + b.value| * 10 ^ least ≤ n)
    (fits : n < bound) :
    ∃ d, a.add? b = some d ∧ least ≤ d.scale ∧ d.Rounds (a.value + b.value) := by
  have ratio : ((a.mantissa * tenPow b.scale + b.mantissa * tenPow a.scale : Int) /
      (tenPow (a.scale + b.scale) : Nat) : ℚ) = a.value + b.value := by
    push_cast
    rw [cast_tenPow, cast_tenPow, cast_tenPow, value, value, pow_add]
    field_simp
  rw [← ratio] at small ⊢
  exact exists_fit? (zero_lt_tenPow _) places le_rfl small fits

theorem exists_div? (positive : 0 < b.mantissa) (places : least ≤ maxScale)
    (small : |a.value / b.value| * 10 ^ least ≤ n) (fits : n < bound) :
    ∃ d, a.div? b = some d ∧ least ≤ d.scale ∧ d.Rounds (a.value / b.value) := by
  have size : (b.mantissa.natAbs : ℚ) = b.mantissa := by
    rw [← Int.cast_natCast, Int.natAbs_of_nonneg positive.le]
  have ratio : ((b.mantissa.sign * a.mantissa * tenPow b.scale : Int) /
      (b.mantissa.natAbs * tenPow a.scale : Nat) : ℚ) = a.value / b.value := by
    rw [Int.sign_eq_one_of_pos positive, one_mul]
    push_cast
    rw [cast_tenPow, cast_tenPow, size, value, value]
    field_simp
  rw [← ratio] at small ⊢
  rw [div?, if_neg positive.ne']
  exact exists_fit? (Nat.mul_pos (by omega) (zero_lt_tenPow _)) places le_rfl small fits

end RowPipeline.Decimal
