import Mathlib.Algebra.Order.BigOperators.Group.List
import RowPipeline.Proofs.GroupParts
import RowPipeline.Proofs.Rounding

/-! # Exact sums and averages in range

As long as the absolute values of some numbers, taken with as many decimal places as all of them
need, add up to less than a mantissa can hold, no partial sum has to be rounded, whatever the order
of the numbers. Their average is then rounded to that many places or more, so it does not leave the
range between them.
-/

namespace RowPipeline

open Outcome

namespace Decimal

def maxPlaces (numbers : List Decimal) : Nat :=
  (numbers.map scale).foldr Nat.max 0

theorem hasPlaces_maxPlaces {numbers : List Decimal} :
    ∀ x ∈ numbers, HasPlaces x.value (maxPlaces numbers) := by
  intro x member
  apply (hasPlaces_value x).mono
  induction numbers with
  | nil => cases member
  | cons y numbers ih =>
      simp only [maxPlaces, List.map_cons, List.foldr_cons] at ih ⊢
      rcases List.mem_cons.1 member with rfl | later
      · exact Nat.le_max_left _ _
      · exact (ih later).trans (Nat.le_max_right _ _)

theorem maxPlaces_le (numbers : List Decimal) : maxPlaces numbers ≤ maxScale := by
  induction numbers with
  | nil => exact Nat.zero_le _
  | cons y numbers ih => exact Nat.max_le.2 ⟨y.scale_le, ih⟩

def exactSum (numbers : List Decimal) : ℚ :=
  (numbers.map value).sum

def absSum (numbers : List Decimal) : ℚ :=
  (numbers.map fun x => |x.value|).sum

theorem abs_exactSum_le (numbers : List Decimal) : |exactSum numbers| ≤ absSum numbers := by
  induction numbers with
  | nil => simp [exactSum, absSum]
  | cons x numbers ih =>
      simp only [exactSum, absSum, List.map_cons, List.sum_cons] at ih ⊢
      exact (abs_add_le _ _).trans (by linarith)

theorem hasPlaces_exactSum {numbers : List Decimal} {s : Nat}
    (whole : ∀ x ∈ numbers, HasPlaces x.value s) : HasPlaces (exactSum numbers) s := by
  induction numbers with
  | nil => exact ⟨0, by simp [exactSum]⟩
  | cons x numbers ih =>
      obtain ⟨own, later⟩ := List.forall_mem_cons.1 whole
      exact own.add (ih later)

/-- No partial sum is rounded, and none overflows. -/
theorem exists_foldlM_add? {numbers : List Decimal} {t : Decimal} {s : Nat} (places : s ≤ maxScale)
    (has : HasPlaces t.value s) (whole : ∀ x ∈ numbers, HasPlaces x.value s)
    (fits : (|t.value| + absSum numbers) * 10 ^ s < bound) :
    ∃ d, numbers.foldlM add? t = some d ∧ d.value = t.value + exactSum numbers := by
  induction numbers generalizing t with
  | nil => exact ⟨t, rfl, by simp [exactSum]⟩
  | cons x numbers ih =>
      obtain ⟨own, later⟩ := List.forall_mem_cons.1 whole
      have next : HasPlaces (t.value + x.value) s := has.add own
      have split : absSum (x :: numbers) = |x.value| + absSum numbers := rfl
      have total : exactSum (x :: numbers) = x.value + exactSum numbers := rfl
      have triangle := abs_add_le t.value x.value
      have pos : (0 : ℚ) < 10 ^ s := by positivity
      have room : (|t.value + x.value| + absSum numbers) * 10 ^ s < bound := by
        refine lt_of_le_of_lt (mul_le_mul_of_nonneg_right ?_ pos.le) fits
        rw [split]
        linarith
      have nonneg : 0 ≤ absSum numbers :=
        (abs_nonneg _).trans (abs_exactSum_le numbers)
      have small : |t.value + x.value| * 10 ^ s < bound := by
        refine lt_of_le_of_lt (mul_le_mul_of_nonneg_right ?_ pos.le) room
        linarith
      obtain ⟨n, below, fit⟩ := next.exists_natAbs small
      obtain ⟨d, added, more, rounds⟩ := exists_add? places below fit
      have exact : d.value = t.value + x.value := rounds.value_eq next more
      rw [← exact] at next room
      obtain ⟨d', summed, value⟩ := ih next later room
      refine ⟨d', ?_, ?_⟩
      · rw [List.foldlM_cons, added]
        exact summed
      · rw [value, exact, total, add_assoc]

theorem exists_sum? {numbers : List Decimal} {s : Nat} (places : s ≤ maxScale)
    (whole : ∀ x ∈ numbers, HasPlaces x.value s) (fits : absSum numbers * 10 ^ s < bound) :
    ∃ d, sum? numbers = some d ∧ d.value = exactSum numbers := by
  have none : zero.value = 0 := by simp [value, zero]
  obtain ⟨d, summed, value⟩ := exists_foldlM_add? (t := zero) places
    ⟨0, by simp [none]⟩ whole (by simpa [none] using fits)
  exact ⟨d, summed, by rw [value, none, zero_add]⟩

/-! ## Extremes -/

theorem exists_least? {numbers : List Decimal} (nonempty : numbers ≠ []) :
    ∃ low ∈ numbers, least? numbers = some low ∧ ∀ x ∈ numbers, low.value ≤ x.value := by
  cases found : least? numbers with
  | none => exact absurd (ranks_atMost.firstBest?_eq_none_iff.1 found) nonempty
  | some low =>
      obtain ⟨member, best⟩ := mem_of_firstBest? found
      exact ⟨low, member, rfl, fun x listed => atMost_iff_value.1 (best x listed)⟩

theorem exists_greatest? {numbers : List Decimal} (nonempty : numbers ≠ []) :
    ∃ high ∈ numbers, greatest? numbers = some high ∧ ∀ x ∈ numbers, x.value ≤ high.value := by
  cases found : greatest? numbers with
  | none =>
      have empty := ranks_atLeast.firstBest?_eq_none_iff.1 found
      exact absurd (List.reverse_eq_nil_iff.1 empty) nonempty
  | some high =>
      obtain ⟨member, best⟩ := mem_of_firstBest? found
      refine ⟨high, List.mem_reverse.1 member, rfl, fun x listed => ?_⟩
      exact atMost_iff_value.1 (best x (List.mem_reverse.2 listed))

/-! ## The average -/

theorem le_exactAverage {numbers : List Decimal} {p : ℚ} (nonempty : numbers ≠ [])
    (below : ∀ x ∈ numbers, p ≤ x.value) : p ≤ exactSum numbers / numbers.length := by
  have someNumber : (0 : ℚ) < numbers.length := by
    exact_mod_cast List.length_pos_iff.2 nonempty
  have each := List.card_nsmul_le_sum (numbers.map value) p (by simpa using below)
  rw [List.length_map, nsmul_eq_mul] at each
  rwa [le_div_iff₀ someNumber, mul_comm]

theorem exactAverage_le {numbers : List Decimal} {p : ℚ} (nonempty : numbers ≠ [])
    (above : ∀ x ∈ numbers, x.value ≤ p) : exactSum numbers / numbers.length ≤ p := by
  have someNumber : (0 : ℚ) < numbers.length := by
    exact_mod_cast List.length_pos_iff.2 nonempty
  have each := List.sum_le_card_nsmul (numbers.map value) p (by simpa using above)
  rw [List.length_map, nsmul_eq_mul] at each
  rwa [div_le_iff₀ someNumber, mul_comm]

theorem exists_ofInt? {n : Nat} (fits : n < bound) :
    ∃ d, ofInt? n = some d ∧ d.value = n ∧ d.mantissa = n := by
  have parts : ofInt? n = some ⟨n, 0, by simpa using fits, Nat.zero_le _⟩ :=
    ofParts?_eq_some.2 ⟨rfl, rfl⟩
  exact ⟨_, parts, by simp [value], rfl⟩

theorem exists_average? {total count : Decimal} {s : Nat} (places : s ≤ maxScale)
    (has : HasPlaces total.value s) (fits : |total.value| * 10 ^ s < bound)
    (positive : 0 < count.mantissa) (one : 1 ≤ count.value) :
    ∃ mean, total.div? count = some mean ∧ s ≤ mean.scale ∧
      mean.Rounds (total.value / count.value) := by
  obtain ⟨n, below, fit⟩ := has.exists_natAbs fits
  refine exists_div? positive places (le_trans ?_ below) fit
  have pos : (0 : ℚ) < count.value := by linarith
  apply mul_le_mul_of_nonneg_right _ (by positivity)
  rw [abs_div, abs_of_pos pos]
  exact div_le_self (abs_nonneg _) one

end Decimal

theorem Value.exists_convertTo_number (d : Decimal) (type : Option ColumnType) :
    ∃ v, (number d).convertTo type = .ok v := by
  cases type with
  | none => exact ⟨_, rfl⟩
  | some t => cases t <;> exact ⟨_, rfl⟩

namespace Aggregate

variable {mode : EvalMode} {allowEmpty : Bool} {a : Aggregate} {rows : List Row}

/-- The numbers that the values of the expression on the rows stand for; null stands for none. -/
def numbers? (mode : EvalMode) (a : Aggregate) (rows : List Row) : Option (List Decimal) := do
  let values ← rows.mapM fun r => (a.expression.eval mode r).toOption
  Value.numbers? (values.filter fun v => !v.isNull)

def withFunction (a : Aggregate) (f : AggregateFunction) : Aggregate :=
  { a with function := f }

/-- The rows whose group-by columns have these canonical texts. -/
def groupRows (mode : EvalMode) (a : Aggregate) (rows : List Row) (key : List (Option String)) :
    List Row :=
  (⟨a, []⟩ : Reduction).members mode rows key

/-- The group of the key comes to the number: its rows are reduced to one row, which has the number,
converted to the declared type, as the target. Wherever all rows can be reduced, that row is among
what they come to. -/
def Gives (mode : EvalMode) (allowEmpty : Bool) (a : Aggregate) (rows : List Row)
    (key : List (Option String)) (d : Decimal) : Prop :=
  ∃ row v, (⟨a, []⟩ : Reduction).run mode allowEmpty (a.groupRows mode rows key) = .ok [row] ∧
    (∀ out, (⟨a, []⟩ : Reduction).run mode allowEmpty rows = .ok out → row ∈ out) ∧
    (Value.number d).convertTo a.target.type = .ok v ∧ row.get? a.target.column = some v

theorem numbers?_perm {rows' : List Row} {numbers : List Decimal} (perm : rows'.Perm rows)
    (taken : a.numbers? mode rows = some numbers) :
    ∃ numbers', a.numbers? mode rows' = some numbers' ∧ numbers'.Perm numbers := by
  obtain ⟨values, evaluated, taken⟩ := Option.bind_eq_some_iff.1 taken
  obtain ⟨values', evaluated', perm⟩ := mapM_perm perm evaluated
  rw [Value.numbers?] at taken
  obtain ⟨numbers', taken', perm⟩ := mapM_perm (perm.filter fun v => !v.isNull) taken
  exact ⟨numbers', Option.bind_eq_some_iff.2 ⟨values', evaluated', taken'⟩, perm⟩

/-- What the function makes of the values on the rows of a group is what the group comes to. -/
theorem gives_of_ofValues? {key : List (Option String)}
    (nonempty : a.groupRows mode rows key ≠ []) {values : List Value}
    (evaluated : (a.groupRows mode rows key).mapM
      (fun r => (a.expression.eval mode r).toOption) = some values)
    {d : Decimal}
    (result : a.function.ofValues? allowEmpty (values.filter fun v => !v.isNull) =
      some (.number d)) :
    a.Gives mode allowEmpty rows key d := by
  obtain ⟨v, converted⟩ := Value.exists_convertTo_number d a.target.type
  obtain ⟨keyed, own, run⟩ := Reduction.exists_keyed_of_key allowEmpty nonempty
    fun r member => (Reduction.mem_members.1 member).2
  have declared : GroupBy.declared? a.target.type (.number d) = some v :=
    toOption_eq_some.2 converted
  have held : GroupBy.result? mode allowEmpty a (a.groupRows mode rows key) = some v :=
    Option.bind_eq_some_iff.2 ⟨values, evaluated,
      Option.bind_eq_some_iff.2 ⟨.number d, result, declared⟩⟩
  have one : (Reduction.aggregates ⟨a, []⟩).mapM (fun a => do
      return (a.target.column, ← GroupBy.result? mode allowEmpty a (keyed.map Prod.snd))) =
        some [(a.target.column, v)] := by
    rw [own]
    simp [Reduction.aggregates, held]
  rw [GroupBy.row?, one] at run
  have reduced := toOption_eq_some.1 run
  refine ⟨_, v, reduced, fun out all => Reduction.mem_of_run nonempty reduced all, converted, ?_⟩
  simp [Row.get?_set]

section OneGroup

variable {key : List (Option String)} {numbers : List Decimal} {s : Nat}
  (taken : a.numbers? mode (a.groupRows mode rows key) = some numbers) (nonempty : numbers ≠ [])

include taken nonempty

theorem groupRows_ne_nil_of_numbers? : a.groupRows mode rows key ≠ [] := by
  intro none
  rw [none] at taken
  exact nonempty (Option.some.inj taken).symm

theorem gives_of_numbers (f : AggregateFunction) {d : Decimal}
    (result : ∀ values, Value.numbers? values = some numbers →
      f.ofValues? allowEmpty values = some (.number d)) :
    (a.withFunction f).Gives mode allowEmpty rows key d := by
  have someRow := groupRows_ne_nil_of_numbers? taken nonempty
  obtain ⟨values, evaluated, taken⟩ := Option.bind_eq_some_iff.1 taken
  exact gives_of_ofValues? (a := a.withFunction f) someRow evaluated (result _ taken)

theorem exists_sum (places : s ≤ Decimal.maxScale)
    (whole : ∀ x ∈ numbers, Decimal.HasPlaces x.value s)
    (fits : Decimal.absSum numbers * 10 ^ s < Decimal.bound) :
    ∃ total, (a.withFunction .sum).Gives mode allowEmpty rows key total ∧
      total.value = Decimal.exactSum numbers := by
  obtain ⟨total, summed, value⟩ := Decimal.exists_sum? places whole fits
  refine ⟨total, gives_of_numbers taken nonempty .sum fun values taken => ?_, value⟩
  simp [AggregateFunction.ofValues?, taken, summed]

theorem exists_least (allowEmpty : Bool) :
    ∃ low ∈ numbers, (a.withFunction .least).Gives mode allowEmpty rows key low ∧
      ∀ x ∈ numbers, low.value ≤ x.value := by
  obtain ⟨low, member, found, best⟩ := Decimal.exists_least? nonempty
  refine ⟨low, member, gives_of_numbers taken nonempty .least fun values taken => ?_, best⟩
  simp [AggregateFunction.ofValues?, taken, found]

theorem exists_greatest (allowEmpty : Bool) :
    ∃ high ∈ numbers, (a.withFunction .greatest).Gives mode allowEmpty rows key high ∧
      ∀ x ∈ numbers, x.value ≤ high.value := by
  obtain ⟨high, member, found, best⟩ := Decimal.exists_greatest? nonempty
  refine ⟨high, member, gives_of_numbers taken nonempty .greatest fun values taken => ?_,
    best⟩
  simp [AggregateFunction.ofValues?, taken, found]

theorem exists_count (allowEmpty : Bool) (fits : numbers.length < Decimal.bound) :
    ∃ count, (a.withFunction .count).Gives mode allowEmpty rows key count ∧
      count.value = numbers.length := by
  obtain ⟨count, counted, value, -⟩ := Decimal.exists_ofInt? fits
  refine ⟨count, gives_of_numbers taken nonempty .count fun values taken => ?_, value⟩
  have length : numbers.length = values.length := length_of_mapM taken
  simp [AggregateFunction.ofValues?, ← length, counted]

/-- The average is the exact one, rounded to the places of the numbers or more. -/
theorem exists_average (allowEmpty : Bool) (places : s ≤ Decimal.maxScale)
    (whole : ∀ x ∈ numbers, Decimal.HasPlaces x.value s)
    (fits : Decimal.absSum numbers * 10 ^ s < Decimal.bound)
    (count : numbers.length < Decimal.bound) :
    ∃ mean, (a.withFunction .average).Gives mode allowEmpty rows key mean ∧ s ≤ mean.scale ∧
      mean.Rounds (Decimal.exactSum numbers / numbers.length) := by
  obtain ⟨total, summed, exact⟩ := Decimal.exists_sum? places whole fits
  obtain ⟨n, counted, value, mantissa⟩ := Decimal.exists_ofInt? count
  have someNumber : 0 < numbers.length := List.length_pos_iff.2 nonempty
  have one : (1 : ℚ) ≤ numbers.length := by exact_mod_cast someNumber
  have pos : (0 : ℚ) < 10 ^ s := by positivity
  have small : |total.value| * 10 ^ s < Decimal.bound := by
    rw [exact]
    exact (mul_le_mul_of_nonneg_right (Decimal.abs_exactSum_le numbers) pos.le).trans_lt fits
  have has : Decimal.HasPlaces total.value s := exact ▸ Decimal.hasPlaces_exactSum whole
  have positive : 0 < n.mantissa := by omega
  obtain ⟨mean, divided, more, rounds⟩ :=
    Decimal.exists_average? places has small positive (value ▸ one)
  rw [exact, value] at rounds
  refine ⟨mean, gives_of_numbers taken nonempty .average fun values taken => ?_, more,
    rounds⟩
  simp [AggregateFunction.ofValues?, taken, nonempty, summed, counted, divided]

end OneGroup

/-- Let the numbers that an aggregated expression stands for on the rows of a group be whole with
`s` decimal places, as they are with the largest of their scales, and let their absolute values,
counted in the last of these places, add up to less than the 96th power of two. Then their sum is
exact in any order of the rows, the least and the greatest of them are found, and the average is off
by at most half a unit of that place and lies between these two. The number of values has to be a
number itself, as every count of 64 bits is. -/
theorem sum_exact_and_average_in_range (mode : EvalMode) (allowEmpty : Bool) (a : Aggregate)
    (rows : List Row) (key : List (Option String)) (numbers : List Decimal)
    (taken : a.numbers? mode (a.groupRows mode rows key) = some numbers) (nonempty : numbers ≠ [])
    {s : Nat} (places : s ≤ Decimal.maxScale) (whole : ∀ x ∈ numbers, Decimal.HasPlaces x.value s)
    (fits : (numbers.map fun x => |x.value|).sum * 10 ^ s < 2 ^ 96) :
    (∀ rows' : List Row, rows'.Perm rows →
      ∃ total, (a.withFunction .sum).Gives mode allowEmpty rows' key total ∧
        total.value = (numbers.map Decimal.value).sum) ∧
    ∃ low ∈ numbers, ∃ high ∈ numbers,
      (a.withFunction .least).Gives mode allowEmpty rows key low ∧
      (∀ x ∈ numbers, low.value ≤ x.value) ∧
      (a.withFunction .greatest).Gives mode allowEmpty rows key high ∧
      (∀ x ∈ numbers, x.value ≤ high.value) ∧
      (numbers.length < Decimal.bound → ∃ count mean,
        (a.withFunction .count).Gives mode allowEmpty rows key count ∧
        count.value = numbers.length ∧
        (a.withFunction .average).Gives mode allowEmpty rows key mean ∧
        |mean.value - (numbers.map Decimal.value).sum / count.value| ≤ 1 / 10 ^ s / 2 ∧
        low.value ≤ mean.value ∧ mean.value ≤ high.value) := by
  have power : (Decimal.bound : ℚ) = 2 ^ 96 := by norm_num
  have room : Decimal.absSum numbers * 10 ^ s < Decimal.bound := by
    rw [power]
    exact fits
  constructor
  · intro rows' perm
    have group : (a.groupRows mode rows' key).Perm (a.groupRows mode rows key) := perm.filter _
    obtain ⟨numbers', taken', same⟩ := numbers?_perm group taken
    have whole' : ∀ x ∈ numbers', Decimal.HasPlaces x.value s :=
      fun x member => whole x (same.subset member)
    have room' : Decimal.absSum numbers' * 10 ^ s < Decimal.bound := by
      rwa [Decimal.absSum, (same.map fun x => |x.value|).sum_eq]
    have nonempty' : numbers' ≠ [] := by
      rintro rfl
      exact nonempty same.nil_eq.symm
    obtain ⟨total, given, value⟩ := exists_sum taken' nonempty' places whole' room'
    exact ⟨total, given, value.trans (same.map Decimal.value).sum_eq⟩
  · obtain ⟨low, lowMember, lowGiven, least⟩ := exists_least taken nonempty allowEmpty
    obtain ⟨high, highMember, highGiven, greatest⟩ :=
      exists_greatest taken nonempty allowEmpty
    refine ⟨low, lowMember, high, highMember, lowGiven, least, highGiven, greatest, fun few => ?_⟩
    obtain ⟨count, countGiven, counted⟩ := exists_count taken nonempty allowEmpty few
    obtain ⟨mean, meanGiven, more, rounds⟩ :=
      exists_average taken nonempty allowEmpty places whole room few
    refine ⟨count, mean, countGiven, counted, meanGiven, ?_, ?_, ?_⟩
    · rw [counted]
      exact rounds.abs_sub_le more
    · have reached := Decimal.le_exactAverage nonempty least
      exact rounds.le_value (whole low lowMember) more reached
    · have bounded := Decimal.exactAverage_le nonempty greatest
      exact rounds.value_le (whole high highMember) more bounded

def delivered : Aggregate where
  function := .sum
  expression := .column (.ofName "qty")
  groupBy := [.ofName "region"]
  target := ⟨"total", none⟩
  operation := .aggregate "SUM" "qty" ["region"] ⟨"total", none⟩

def delivery (region : String) (qty : Value) : Row :=
  .ofList [("region", .text region), ("qty", qty)] none

/-- Deliveries, one of which is not counted yet. -/
def deliveries : List Row :=
  [delivery "north" (.number .one), delivery "south" (.text "12"), delivery "north" .null,
    delivery "north" (.text " 2.125 ")]

def quantities : List Decimal := [.one, ⟨2125, 3, by decide, by decide⟩]

theorem sum_exact_and_average_in_range_deliveries :
    (∃ total, (delivered.withFunction .sum).Gives {} false deliveries.reverse [some "north"] total ∧
      total.value = 25 / 8) ∧
    ∃ mean, (delivered.withFunction .average).Gives {} false deliveries [some "north"] mean ∧
      |mean.value - 25 / 16| ≤ 1 / 2000 := by
  have taken : delivered.numbers? {} (delivered.groupRows {} deliveries [some "north"]) =
      some quantities := by decide +kernel
  have places : Decimal.maxPlaces quantities = 3 := rfl
  have sum : (quantities.map Decimal.value).sum = 25 / 8 := by
    norm_num [quantities, Decimal.value, Decimal.one]
  have fits : (quantities.map fun x => |x.value|).sum * 10 ^ Decimal.maxPlaces quantities <
      2 ^ 96 := by
    rw [places]
    norm_num [quantities, Decimal.value, Decimal.one]
  obtain ⟨summed, low, _, high, _, _, _, _, _, averaged⟩ :=
    sum_exact_and_average_in_range {} false delivered deliveries [some "north"] quantities taken
      (by decide) (Decimal.maxPlaces_le quantities) Decimal.hasPlaces_maxPlaces fits
  obtain ⟨count, mean, -, counted, given, near, -, -⟩ := averaged (by decide)
  obtain ⟨total, totalGiven, exact⟩ := summed deliveries.reverse (List.reverse_perm deliveries)
  refine ⟨⟨total, totalGiven, exact.trans sum⟩, mean, given, ?_⟩
  have length : quantities.length = 2 := rfl
  rw [sum, counted, length, places] at near
  norm_num at near
  exact near

end Aggregate

end RowPipeline
