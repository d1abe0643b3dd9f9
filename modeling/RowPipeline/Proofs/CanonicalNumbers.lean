import RowPipeline.Proofs.DecimalText
import RowPipeline.Proofs.Tokens
import RowPipeline.Proofs.ValueDependence

/-! # Canonical texts of numbers

A number is written without the decimal places that its value does not need, so its canonical text
stands for the value and for nothing else. Reading the text gives the value back, and comparing two
texts is comparing two values, which is why equality goes together with the order of numbers.
-/

namespace RowPipeline

namespace Decimal

theorem stripZeros_value (m : Int) (s : Nat) :
    (stripZeros m s).1 * tenPow s = m * tenPow (stripZeros m s).2 := by
  induction s generalizing m with
  | zero => rfl
  | succ s ih =>
      rw [stripZeros]
      split
      next ends =>
        have whole : m / 10 * 10 = m := Int.ediv_mul_cancel (Int.dvd_of_emod_eq_zero ends)
        have place : (tenPow (s + 1) : Int) = tenPow s * 10 := by
          rw [tenPow_add]
          rfl
        rw [place, ← Int.mul_assoc, ih, Int.mul_right_comm, whole]
      next => rfl

theorem sameValue_comm (m n : Decimal) : m.sameValue n = n.sameValue m := by
  rw [Bool.eq_iff_iff, sameValue_iff, sameValue_iff, eq_comm]

theorem sameValue_normalize (n : Decimal) : n.sameValue n.normalize = true :=
  sameValue_iff.2 (stripZeros_value n.mantissa n.scale).symm

theorem ofText?_canonical (n : Decimal) : ofText? n.canonical = some n.normalize :=
  ofText?_toText n.normalize

/-- Numbers are written alike just if their values are equal. -/
theorem canonical_eq_iff {m n : Decimal} : m.canonical = n.canonical ↔ m.sameValue n = true := by
  refine ⟨fun same => ?_, canonical_congr⟩
  have read := congrArg ofText? same
  rw [ofText?_canonical, ofText?_canonical, Option.some_inj] at read
  rw [sameValue, cmp_congr m.sameValue_normalize n.sameValue_normalize, read]
  exact sameValue_refl n.normalize

theorem Digits.mem_chars {ds : Digits} {c : Char} (h : c ∈ ds.chars) :
    c.isDigit = true ∨ c = '.' := by
  have point : ∀ c ∈ (if ds.places.isEmpty then [] else '.' :: ds.places),
      c = '.' ∨ c ∈ ds.places := by
    intro c member
    split at member
    · cases member
    · exact List.mem_cons.1 member
  rcases List.mem_cons.1 h with rfl | h
  · exact .inl (ds.digits _ List.mem_cons_self)
  rcases List.mem_append.1 h with h | h
  · exact .inl (ds.digits c (List.mem_append_left _ (List.mem_cons_of_mem _ h)))
  · exact (point c h).symm.imp_left fun h => ds.digits c (List.mem_append_right _ h)

theorem isBlank_of_mem_toChars {n : Decimal} {c : Char} (h : c ∈ n.toChars) :
    Text.isBlank c = false := by
  obtain ⟨ds, written, _⟩ := exists_digits n.mantissa.natAbs n.scale
  rw [toChars, written, List.mem_append] at h
  rcases h with h | h
  · split at h
    · rw [List.mem_singleton.1 h]
      rfl
    · cases h
  · rcases ds.mem_chars h with digit | rfl
    · exact Token.isBlank_of_isDigit digit
    · rfl

theorem trim_canonical (n : Decimal) : Text.trim n.canonical = n.canonical := by
  have solid : ∀ c ∈ n.canonical.toList, Text.isBlank c = false := by
    intro c member
    rw [canonical, toText, String.toList_ofList] at member
    exact isBlank_of_mem_toChars member
  rw [Text.trim, Text.stripBoth_eq_self, String.ofList_toList]
  · exact fun c first => solid c (List.mem_of_mem_head? first)
  · exact fun c last => solid c (List.mem_of_getLast? last)

theorem isEmpty_canonical (n : Decimal) : n.canonical.isEmpty = false := by
  by_contra empty
  have read := n.ofText?_canonical
  rw [Bool.not_eq_false, String.isEmpty_iff] at empty
  rw [empty] at read
  cases read

end Decimal

namespace Value

theorem ofCell_canonical (n : Decimal) : ofCell n.canonical = number n.normalize := by
  simp only [ofCell, n.trim_canonical, n.isEmpty_canonical, n.ofText?_canonical]
  rfl

theorem same_normalize (n : Decimal) : (number n.normalize).same (number n) = true := by
  rw [same, Decimal.sameValue_comm]
  exact n.sameValue_normalize

theorem ofCell_cases (raw : String) :
    ofCell raw = null ∨ (∃ n, ofCell raw = number n) ∨ ofCell raw = text raw := by
  simp only [ofCell]
  split
  next => exact .inl rfl
  next =>
    cases Decimal.ofText? (Text.trim raw) with
    | some n => exact .inr (.inl ⟨n, rfl⟩)
    | none => exact .inr (.inr rfl)

/-- A number is converted to its canonical text, which is converted back to the number and, as a
cell, read as the number; it is the text of just the numbers of that value. So a cell that is not
blank has a value whose canonical text is the cell of that very value. -/
theorem canonical_lossless :
    (∀ n : Decimal,
      ((number n).convert .string = .ok (text n.canonical) ∧
        ∃ w, (text n.canonical).convert .decimal = .ok w ∧ w.same (number n) = true) ∧
      (ofCell n.canonical).same (number n) = true ∧
      ∀ m : Decimal, m.canonical = n.canonical ↔ m.sameValue n = true) ∧
    ∀ raw : String, ofCell raw = null ∨ ∃ text, (ofCell raw).canonical? = some text ∧
      (ofCell text).same (ofCell raw) = true := by
  refine ⟨fun n => ⟨?_, ?_, fun m => Decimal.canonical_eq_iff⟩, fun raw => ?_⟩
  · have read : (text n.canonical).convert .decimal = .ok (number n.normalize) := by
      simp only [convert, toNumber, n.trim_canonical, n.ofText?_canonical]
      rfl
    exact ⟨rfl, number n.normalize, read, same_normalize n⟩
  · rw [ofCell_canonical]
    exact same_normalize n
  · rcases ofCell_cases raw with nothing | ⟨n, value⟩ | value
    · exact .inl nothing
    · refine .inr ⟨n.canonical, by rw [value]; rfl, ?_⟩
      rw [value, ofCell_canonical]
      exact same_normalize n
    · exact .inr ⟨raw, by rw [value]; rfl, same_refl _⟩

/-- The largest mantissa with all decimal places, and a zero that is written with a minus sign and
as many: neither the number nor its canonical text keeps the sign. -/
example : (ofCell "-7.9228162514264337593543950335").canonical? =
      some "-7.9228162514264337593543950335" ∧
    (ofCell "-0.0000000000000000000000000000").canonical? = some "0" := by
  decide +kernel

end Value

/-! ## Comparisons -/

namespace Expr

/-- The six comparisons of two operands come out as the order `o` of the operands says: of less,
equal and greater just the one that `o` is holds, and each of the others holds just if its opposite
does not. -/
structure ComparesAs (mode : EvalMode) (r : Row) (left right : Expr) (o : Ordering) : Prop where
  less : (binary (.order .less) left right).eval mode r = .ok (.boolean (o == .lt))
  equal : (binary (.text .equal) left right).eval mode r = .ok (.boolean (o == .eq))
  greater : (binary (.order .greater) left right).eval mode r = .ok (.boolean (o == .gt))
  lessEqual : (binary (.order .lessEqual) left right).eval mode r = .ok (.boolean (o != .gt))
  greaterEqual : (binary (.order .greaterEqual) left right).eval mode r = .ok (.boolean (o != .lt))
  notEqual : (binary (.text .notEqual) left right).eval mode r = .ok (.boolean (o != .eq))

theorem equals_number (m n : Decimal) :
    (Value.number m).equals (.number n) = (m.cmp n == .eq) := by
  change (m.canonical == n.canonical) = m.sameValue n
  rw [Bool.eq_iff_iff, beq_iff_eq, Decimal.canonical_eq_iff]

section

variable {mode : EvalMode} {r : Row} {left right : Expr} {m n : Decimal}
  (first : left.eval mode r = .ok (.number m)) (second : right.eval mode r = .ok (.number n))

include first second

theorem eval_order (op : OrderOp) :
    (binary (.order op) left right).eval mode r = .ok (.boolean (op.compare m n)) := by
  simp only [eval, first, second]
  rfl

theorem eval_text (op : TextOp) :
    (binary (.text op) left right).eval mode r =
      .ok (.boolean (op.compare (.number m) (.number n))) := by
  simp only [eval, first, second]
  rfl

/-- Two expressions that are numbers on a row compare as the values of the numbers do, by their
texts and by their order alike. -/
theorem comparesAs_cmp : ComparesAs mode r left right (m.cmp n) where
  less := eval_order first second .less
  equal := by
    rw [eval_text first second, TextOp.compare, equals_number]
  greater := eval_order first second .greater
  lessEqual := eval_order first second .lessEqual
  greaterEqual := eval_order first second .greaterEqual
  notEqual := by
    rw [eval_text first second, TextOp.compare, equals_number]
    rfl

end

def quantityRow : Row :=
  .ofList [("qty", .ofCell "2.50")] none

/-- What is left of the quantity when 2.5 is taken away: zero with 28 decimal places. -/
def remainder : Expr :=
  .binary (.arith .subtract) (.column ⟨none, "qty"⟩) (.literal (.ofCell "2.5"))

/-- The opposite of 0.00: the same zero with two decimal places, since zero is its own opposite. -/
def oppositeOfZero : Expr :=
  .unary .negate (.literal (.ofCell "0.00"))

theorem comparesAs_cmp_zeros :
    remainder.eval {} quantityRow = .ok (.number ⟨0, 28, by decide, by decide⟩) ∧
      oppositeOfZero.eval {} quantityRow = .ok (.number ⟨0, 2, by decide, by decide⟩) ∧
      ComparesAs {} quantityRow remainder oppositeOfZero .eq := by
  have first : remainder.eval {} quantityRow = .ok (.number ⟨0, 28, by decide, by decide⟩) := by
    decide +kernel
  have second : oppositeOfZero.eval {} quantityRow =
      .ok (.number ⟨0, 2, by decide, by decide⟩) := by
    decide +kernel
  exact ⟨first, second, comparesAs_cmp first second⟩

end Expr

end RowPipeline
