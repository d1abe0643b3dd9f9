import Mathlib.Data.List.Induction
import RowPipeline.Aggregate
import RowPipeline.Proofs.DecimalOrder
import RowPipeline.Proofs.Outcome

/-! # What aggregate functions make of values

A tally sees the values of a group one at a time. Here the functions are said to be what they are of
all values at once, and a tally is shown to come to just that.
-/

namespace RowPipeline

open Outcome

def Value.numbers? (values : List Value) : Option (List Decimal) :=
  values.mapM fun v => (v.toNumber .decimal).toOption

/-- The sum, taken up from zero one number after the other; there is none if it overflows. -/
def Decimal.sum? (numbers : List Decimal) : Option Decimal :=
  numbers.foldlM add? .zero

namespace AggregateFunction

/-- What the function makes of values none of which is null. -/
def ofValues? (allowEmpty : Bool) (values : List Value) : AggregateFunction → Option Value
  | count => (Decimal.ofInt? values.length).map .number
  | sum => do
    let numbers ← Value.numbers? values
    (Decimal.sum? numbers).map .number
  | average => do
    let numbers ← Value.numbers? values
    if numbers.isEmpty then
      if allowEmpty then some (.number .zero) else none
    else do
      let total ← Decimal.sum? numbers
      let n ← Decimal.ofInt? numbers.length
      (total.div? n).map .number
  | least => do
    let numbers ← Value.numbers? values
    some ((Decimal.least? numbers).elim .null .number)
  | greatest => do
    let numbers ← Value.numbers? values
    some ((Decimal.greatest? numbers).elim .null .number)

end AggregateFunction

theorem EvalError.toOption_ofOverflow (d : Option Decimal) :
    (EvalError.ofOverflow d).toOption = d := by
  cases d <;> rfl

namespace Tally

/-- The tally counts values of whatever kind. -/
def isCount : Tally → Bool
  | count _ => true
  | sum _ | average .. | least _ | greatest _ => false

theorem isCount_of_addNumber {t t' : Tally} {x : Decimal} (number : t.isCount = false)
    (h : t.addNumber x = .ok t') : t'.isCount = false := by
  cases t with
  | count n => simp [isCount] at number
  | sum total =>
      obtain ⟨d, _, rfl⟩ := map_eq_ok.1 h
      rfl
  | average total n =>
      obtain ⟨d, _, rfl⟩ := map_eq_ok.1 h
      rfl
  | least value =>
      cases h
      rfl
  | greatest value =>
      cases h
      rfl

theorem toOption_add {t : Tally} (number : t.isCount = false) {v : Value}
    (present : v.isNull = false) :
    (t.add v).toOption =
      (v.toNumber .decimal).toOption.bind fun x => (t.addNumber x).toOption := by
  have taken : v.toNumber? = (v.toNumber .decimal).map some := by
    cases v with
    | null => simp [Value.isNull] at present
    | number | text | boolean => rfl
  cases t with
  | count n => simp [isCount] at number
  | sum | average | least | greatest =>
      simp only [add, taken]
      cases v.toNumber .decimal <;> rfl

theorem add_of_isNull (t : Tally) {v : Value} (null : v.isNull = true) : t.add v = .ok t := by
  cases v with
  | null => cases t <;> rfl
  | number | text | boolean => simp [Value.isNull] at null

theorem foldlM_add_numbers {t : Tally} (number : t.isCount = false) (values : List Value) :
    values.foldlM (fun t v => (t.add v).toOption) t =
      (Value.numbers? (values.filter fun v => !v.isNull)).bind fun numbers =>
        numbers.foldlM (fun t x => (t.addNumber x).toOption) t := by
  induction values generalizing t with
  | nil => rfl
  | cons v values ih =>
      cases null : v.isNull with
      | true =>
          simp only [List.foldlM_cons, add_of_isNull t null, null, Bool.not_true,
            Bool.false_eq_true, not_false_eq_true, List.filter_cons_of_neg]
          exact ih number
      | false =>
          rw [List.foldlM_cons, toOption_add number null, List.filter_cons_of_pos (by simp [null]),
            Value.numbers?, List.mapM_cons]
          simp only [Option.bind_eq_bind, Option.pure_def, Option.bind_assoc, Option.bind_some,
            List.foldlM_cons]
          refine Option.bind_congr fun x _ => ?_
          rw [Option.bind_comm]
          refine Option.bind_congr fun t' added => ?_
          exact ih (isCount_of_addNumber number (toOption_eq_some.1 added))

theorem foldlM_add_count (n : Nat) (values : List Value) :
    values.foldlM (fun t v => (t.add v).toOption) (count n) =
      some (count (n + (values.filter fun v => !v.isNull).length)) := by
  induction values generalizing n with
  | nil => rfl
  | cons v values ih =>
      rw [List.foldlM_cons]
      refine (ih _).trans ?_
      cases null : v.isNull with
      | true => simp [null]
      | false =>
          simp only [null, Bool.not_false, List.filter_cons_of_pos, List.length_cons,
            Bool.false_eq_true, if_false]
          congr 2
          omega

theorem foldlM_sum (total : Decimal) (numbers : List Decimal) :
    numbers.foldlM (fun t x => (t.addNumber x).toOption) (sum total) =
      (numbers.foldlM Decimal.add? total).map sum := by
  induction numbers generalizing total with
  | nil => rfl
  | cons x numbers ih =>
      rw [List.foldlM_cons, List.foldlM_cons, addNumber, toOption_map,
        EvalError.toOption_ofOverflow]
      cases total.add? x with
      | none => rfl
      | some total' => exact ih total'

theorem foldlM_average (total : Decimal) (n : Nat) (numbers : List Decimal) :
    numbers.foldlM (fun t x => (t.addNumber x).toOption) (average total n) =
      (numbers.foldlM Decimal.add? total).map fun total => average total (n + numbers.length) := by
  induction numbers generalizing total n with
  | nil => rfl
  | cons x numbers ih =>
      rw [List.foldlM_cons, List.foldlM_cons, addNumber, toOption_map,
        EvalError.toOption_ofOverflow]
      cases total.add? x with
      | none => rfl
      | some total' =>
          refine (ih total' (n + 1)).trans ?_
          rw [List.length_cons, Nat.add_right_comm, Nat.add_assoc]
          rfl

theorem foldlM_least (numbers : List Decimal) :
    numbers.foldlM (fun t x => (t.addNumber x).toOption) (least none) =
      some (least (Decimal.least? numbers)) := by
  induction numbers using List.reverseRecOn with
  | nil => rfl
  | append_singleton numbers x ih =>
      rw [List.foldlM_append, ih, Decimal.least?_append_singleton]
      rfl

theorem foldlM_greatest (numbers : List Decimal) :
    numbers.foldlM (fun t x => (t.addNumber x).toOption) (greatest none) =
      some (greatest (Decimal.greatest? numbers)) := by
  induction numbers using List.reverseRecOn with
  | nil => rfl
  | append_singleton numbers x ih =>
      rw [List.foldlM_append, ih, Decimal.greatest?_append_singleton]
      rfl

/-- A tally comes to what its function makes of the values that are not null. -/
theorem finish_eq_ofValues? (allowEmpty : Bool) (target : String) (values : List Value)
    (f : AggregateFunction) :
    ((values.foldlM (fun (t : Tally) v => (t.add v).toOption) (start f)).bind fun t =>
      (t.finish allowEmpty target).toOption) =
      f.ofValues? allowEmpty (values.filter fun v => !v.isNull) := by
  cases f with
  | count =>
      simp only [start]
      rw [foldlM_add_count]
      simp only [Option.bind_some, finish, toOption_map, ofCount, EvalError.toOption_ofOverflow,
        AggregateFunction.ofValues?, Nat.zero_add]
  | sum =>
      simp only [start]
      rw [foldlM_add_numbers rfl, AggregateFunction.ofValues?, Option.bind_eq_bind,
        Option.bind_assoc]
      refine Option.bind_congr fun numbers _ => ?_
      rw [foldlM_sum, Decimal.sum?]
      cases numbers.foldlM Decimal.add? .zero <;> rfl
  | average =>
      simp only [start]
      rw [foldlM_add_numbers rfl, AggregateFunction.ofValues?, Option.bind_eq_bind,
        Option.bind_assoc]
      refine Option.bind_congr fun numbers _ => ?_
      rw [foldlM_average, Decimal.sum?]
      cases numbers with
      | nil => cases allowEmpty <;> rfl
      | cons x numbers =>
          simp only [List.isEmpty_cons, Bool.false_eq_true, if_false, Option.bind_map]
          refine Option.bind_congr fun total _ => ?_
          simp only [Function.comp_apply, finish, Nat.zero_add, List.length_cons,
            Nat.add_one_ne_zero, if_false, ofCount]
          rw [toOption_bind, EvalError.toOption_ofOverflow]
          refine Option.bind_congr fun n _ => ?_
          rw [toOption_map, EvalError.toOption_ofOverflow]
  | least =>
      simp only [start]
      rw [foldlM_add_numbers rfl, AggregateFunction.ofValues?, Option.bind_eq_bind,
        Option.bind_assoc]
      refine Option.bind_congr fun numbers _ => ?_
      rw [foldlM_least]
      rfl
  | greatest =>
      simp only [start]
      rw [foldlM_add_numbers rfl, AggregateFunction.ofValues?, Option.bind_eq_bind,
        Option.bind_assoc]
      refine Option.bind_congr fun numbers _ => ?_
      rw [foldlM_greatest]
      rfl

end Tally

end RowPipeline
