import RowPipeline.Proofs.DecimalValue
import RowPipeline.Proofs.Resolution

/-! # What the value of an expression hangs on

An expression looks at a row through the names in it. Rows that have the same columns, in whatever
order, and equal values where these names lead cannot be told apart by it, even if equal numbers are
written with different decimal places.
-/

namespace RowPipeline

open Outcome Text Name

namespace Value

variable {a a' b b' : Value}

@[simp] theorem same_refl (v : Value) : v.same v = true := by
  cases v <;> simp [same]

theorem same_cases (h : a.same a' = true) :
    a = a' ∨ ∃ m n, a = number m ∧ a' = number n ∧ m.sameValue n = true := by
  cases a <;> cases a' <;> simp_all [same]

theorem kind_congr (h : a.same a' = true) : a.kind = a'.kind := by
  obtain rfl | ⟨m, n, rfl, rfl, _⟩ := same_cases h
  · rfl
  · rfl

theorem canonical?_congr (h : a.same a' = true) : a.canonical? = a'.canonical? := by
  obtain rfl | ⟨m, n, rfl, rfl, equal⟩ := same_cases h
  · rfl
  · exact congrArg some (Decimal.canonical_congr equal)

theorem holds_congr (h : a.same a' = true) : a.holds = a'.holds := by
  obtain rfl | ⟨m, n, rfl, rfl, equal⟩ := same_cases h
  · rfl
  · simp only [holds, truth, Decimal.isZero_congr equal]

end Value

theorem TextOp.compare_congr {a a' b b' : Value} (ha : a.same a' = true) (hb : b.same b' = true)
    (op : TextOp) : op.compare a b = op.compare a' b' := by
  have equals : a.equals b = a'.equals b' := by
    simp only [Value.equals, Value.canonical?_congr ha, Value.canonical?_congr hb,
      Value.kind_congr ha, Value.kind_congr hb]
  cases op with
  | equal => exact equals
  | notEqual => exact congrArg not equals
  | contains =>
      simp only [compare, Value.containsText, Value.canonical?_congr ha, Value.canonical?_congr hb]

section Numbers

variable {m m' n n' : Decimal} (hm : m.sameValue m' = true) (hn : n.sameValue n' = true)

include hm hn

theorem OrderOp.compare_congr (op : OrderOp) : op.compare m n = op.compare m' n' := by
  cases op <;> simp only [compare, Decimal.cmp_congr hm hn]

theorem ArithOp.compute_congr (op : ArithOp) : op.compute m n = op.compute m' n' := by
  cases op with
  | add => exact congrArg EvalError.ofOverflow (Decimal.add?_congr hm hn)
  | subtract => exact congrArg EvalError.ofOverflow (Decimal.sub?_congr hm hn)
  | multiply => exact congrArg EvalError.ofOverflow (Decimal.mul?_congr hm hn)
  | divide => simp only [compute, Decimal.isZero_congr hn, Decimal.div?_congr hm hn]

end Numbers

/-! ## Two computations at once -/

/-- Both computations have related results, or both fail for the same kind of reason. -/
inductive SameOutcome {α : Type} (R : α → α → Prop) :
    Except EvalError α → Except EvalError α → Prop
  | ok {a b : α} : R a b → SameOutcome R (.ok a) (.ok b)
  | error {d e : EvalError} : d.kind = e.kind → SameOutcome R (.error d) (.error e)

namespace SameOutcome

variable {α β : Type} {R : α → α → Prop} {S : β → β → Prop}

theorem refl (reflexive : ∀ a, R a a) (x : Except EvalError α) : SameOutcome R x x := by
  cases x with
  | ok a => exact .ok (reflexive a)
  | error e => exact .error rfl

theorem bind {x y : Except EvalError α} {f g : α → Except EvalError β}
    (first : SameOutcome R x y) (later : ∀ a b, R a b → SameOutcome S (f a) (g b)) :
    SameOutcome S (x >>= f) (y >>= g) := by
  cases first with
  | ok related => exact later _ _ related
  | error same => exact .error same

end SameOutcome

/-! ## Names -/

namespace Row

/-- The rows have the same columns, no two of which differ in case alone. -/
structure SameNames (r s : Row) : Prop where
  columns : ∀ column, column ∈ r.columns ↔ column ∈ s.columns
  alike : SpelledAlike r.columns

/-- The rows have equal values in the columns that the names stand for. -/
def AgreeOn (scope : Option String) (names : List ColumnRef) (r s : Row) : Prop :=
  ∀ c ∈ names, ∀ column, r.resolve scope c = .ok column →
    ∃ v w, r.get? column = some v ∧ s.get? column = some w ∧ v.same w = true

theorem AgreeOn.mono {scope : Option String} {names names' : List ColumnRef} {r s : Row}
    (h : AgreeOn scope names' r s) (sub : names ⊆ names') : AgreeOn scope names r s :=
  fun c member => h c (sub member)

namespace SameNames

variable {r s : Row} (same : r.SameNames s)

include same

theorem findColumn?_eq (name : String) : r.findColumn? name = s.findColumn? name := by
  cases found : r.findColumn? name with
  | none =>
      refine (findColumn?_eq_none_iff.2 fun column member => ?_).symm
      exact findColumn?_eq_none_iff.1 found column ((same.columns column).2 member)
  | some column =>
      obtain ⟨member, spelled⟩ := findColumn?_eq_some found
      have alike := same.alike.subset fun c => (same.columns c).2
      exact (findColumn?_of_alike alike ((same.columns column).1 member) spelled).symm

theorem columnsOfField_perm (field : String) :
    (r.columnsOfField field).Perm (s.columnsOfField field) := by
  have perm : r.columns.Perm s.columns :=
    (List.perm_ext_iff_of_nodup r.nodup_columns s.nodup_columns).2 same.columns
  exact perm.filter _

/-- A name stands for the same column in both rows, or fails in both for the same kind of reason. -/
theorem resolve (scope : Option String) (c : ColumnRef) :
    SameOutcome Eq (r.resolve scope c) (s.resolve scope c) := by
  cases qualified : c.hasAlias with
  | true =>
      simp only [Row.resolve, qualified, if_true, same.findColumn?_eq]
      cases (s.findColumn? c.written).or (s.findColumn? c.name) with
      | some column => exact .ok rfl
      | none => exact .error rfl
  | false =>
      rw [resolve_bare qualified, resolve_bare qualified, same.findColumn?_eq, same.findColumn?_eq]
      cases (s.findColumn? (inScope scope c.written)).or (s.findColumn? c.written) with
      | some column => exact .ok rfl
      | none =>
          -- Only the number of candidates counts, not the order in which they stand.
          have perm := same.columnsOfField_perm c.written
          generalize r.columnsOfField c.written = own at perm ⊢
          generalize s.columnsOfField c.written = others at perm ⊢
          rcases own with _ | ⟨column, _ | ⟨next, more⟩⟩
          · obtain rfl := List.nil_perm.1 perm
            exact .error rfl
          · obtain rfl := List.singleton_perm.1 perm
            exact .ok rfl
          · have length := perm.length_eq
            rcases others with _ | ⟨column', _ | ⟨next', more'⟩⟩
            · cases length
            · cases length
            · exact .error rfl

theorem lookup {scope : Option String} {c : ColumnRef} (agree : AgreeOn scope [c] r s) :
    SameOutcome (fun v w => v.same w = true) (r.lookup scope c) (s.lookup scope c) := by
  have resolved := same.resolve scope c
  unfold Row.lookup
  cases left : r.resolve scope c with
  | error d =>
      rw [left] at resolved
      cases right : s.resolve scope c with
      | error e =>
          rw [right] at resolved
          cases resolved with
          | error kinds => exact .error kinds
      | ok column =>
          rw [right] at resolved
          cases resolved
  | ok column =>
      obtain ⟨v, w, own, other, equal⟩ := agree c List.mem_cons_self column left
      rw [left] at resolved
      cases right : s.resolve scope c with
      | error e =>
          rw [right] at resolved
          cases resolved
      | ok column' =>
          rw [right] at resolved
          cases resolved with
          | ok names =>
              subst names
              simp only [bind, Except.bind, own, other]
              exact .ok equal

end SameNames

end Row

/-! ## Expressions -/

namespace Expr

theorem onNumbers_sameOutcome {mode : EvalMode} {op : BinaryOp} {whole : Expr}
    {a a' b b' : Value} {f : Decimal → Decimal → Except EvalError Value}
    (ha : a.same a' = true) (hb : b.same b' = true)
    (numbers : ∀ {m m' n n' : Decimal}, m.sameValue m' = true → n.sameValue n' = true →
      f m n = f m' n') :
    SameOutcome (fun v w => v.same w = true) (onNumbers mode op whole a b f)
      (onNumbers mode op whole a' b' f) := by
  suffices equal : onNumbers mode op whole a b f = onNumbers mode op whole a' b' f by
    rw [equal]
    exact .refl Value.same_refl _
  obtain rfl | ⟨m, m', rfl, rfl, hm⟩ := Value.same_cases ha
  · obtain rfl | ⟨n, n', rfl, rfl, hn⟩ := Value.same_cases hb
    · rfl
    · cases a with
      | number m => exact numbers (Decimal.sameValue_refl m) hn
      | null | text | boolean => rfl
  · obtain rfl | ⟨n, n', rfl, rfl, hn⟩ := Value.same_cases hb
    · cases b with
      | number n => exact numbers hm (Decimal.sameValue_refl n)
      | null | text | boolean => rfl
    · exact numbers hm hn

theorem applyUnary_sameOutcome {mode : EvalMode} {op : UnaryOp} {operand : Expr} {a a' : Value}
    (ha : a.same a' = true) :
    SameOutcome (fun v w => v.same w = true) (applyUnary mode op operand a)
      (applyUnary mode op operand a') := by
  obtain rfl | ⟨m, m', rfl, rfl, hm⟩ := Value.same_cases ha
  · exact .refl Value.same_refl _
  · cases op with
    | not =>
        simp only [applyUnary, Value.holds_congr ha]
        exact .refl Value.same_refl _
    | negate => exact .ok (Decimal.neg_congr hm)

/-- Rows with the same columns and with equal values where the names in an expression lead give it
equal values, or make it fail for the same kind of reason. -/
theorem eval_of_agreeOn {mode : EvalMode} {r s : Row} (same : r.SameNames s) {e : Expr}
    (agree : Row.AgreeOn mode.scope e.columns r s) :
    SameOutcome (fun v w => v.same w = true) (e.eval mode r) (e.eval mode s) := by
  induction e with
  | literal v => exact .ok (Value.same_refl v)
  | column c => exact same.lookup agree
  | unary op operand ih =>
      apply (ih agree).bind
      intro v w equal
      exact applyUnary_sameOutcome equal
  | binary op left right ihLeft ihRight =>
      have first := ihLeft (agree.mono (List.subset_append_left _ _))
      have second := ihRight (agree.mono (List.subset_append_right _ _))
      -- What decides a condition is equal in both rows, so both take the second operand or neither.
      have decided : SameOutcome (fun v w => v.same w = true)
          (do let v ← right.eval mode r; v.holds.map Value.boolean)
          (do let v ← right.eval mode s; v.holds.map Value.boolean) := by
        apply second.bind
        intro v w equal
        rw [Value.holds_congr equal]
        exact .refl Value.same_refl _
      cases op with
      | logic op =>
          cases op with
          | and =>
              apply first.bind
              intro v w equal
              rw [Value.holds_congr equal]
              apply (SameOutcome.refl (R := Eq) (fun _ => rfl) w.holds).bind
              rintro holds _ rfl
              cases holds with
              | true => exact decided
              | false => exact .ok (Value.same_refl _)
          | or =>
              apply first.bind
              intro v w equal
              rw [Value.holds_congr equal]
              apply (SameOutcome.refl (R := Eq) (fun _ => rfl) w.holds).bind
              rintro holds _ rfl
              cases holds with
              | true => exact .ok (Value.same_refl _)
              | false => exact decided
      | text op =>
          apply first.bind
          intro a a' ha
          apply second.bind
          intro b b' hb
          rw [op.compare_congr ha hb]
          exact .ok (Value.same_refl _)
      | order op =>
          apply first.bind
          intro a a' ha
          apply second.bind
          intro b b' hb
          apply onNumbers_sameOutcome ha hb
          intro m m' n n' hm hn
          rw [op.compare_congr hm hn]
      | arith op =>
          apply first.bind
          intro a a' ha
          apply second.bind
          intro b b' hb
          apply onNumbers_sameOutcome ha hb
          intro m m' n n' hm hn
          rw [op.compute_congr hm hn]

/-- Two and a half, with two decimal places, and a remark. -/
def paddedSale : Row :=
  .ofList [("sales.qty", .number ⟨250, 2, by decide, by decide⟩), ("sales.note", .text "first")]
    (some "sales")

def plainSale : Row :=
  .ofList [("sales.note", .null), ("sales.qty", .number ⟨25, 1, by decide, by decide⟩)] none

def negatedQty : Expr :=
  .unary .negate (.column (.ofName "qty"))

theorem eval_of_agreeOn_sales :
    paddedSale.SameNames plainSale ∧ Row.AgreeOn none negatedQty.columns paddedSale plainSale ∧
      SameOutcome (fun v w => v.same w = true) (negatedQty.eval {} paddedSale)
        (negatedQty.eval {} plainSale) ∧
      negatedQty.eval {} paddedSale ≠ negatedQty.eval {} plainSale := by
  have same : paddedSale.SameNames plainSale := by
    refine ⟨fun column => ?_, by decide +kernel⟩
    have perm : paddedSale.columns.Perm plainSale.columns := by decide +kernel
    exact perm.mem_iff
  have agree : Row.AgreeOn none negatedQty.columns paddedSale plainSale := by
    intro c member column resolved
    have named : c = .ofName "qty" := List.mem_singleton.1 member
    have leads : paddedSale.resolve none (.ofName "qty") = .ok "sales.qty" := by decide +kernel
    rw [named, leads] at resolved
    cases resolved
    exact ⟨_, _, rfl, rfl, by decide +kernel⟩
  exact ⟨same, agree, eval_of_agreeOn same agree, by decide +kernel⟩

end Expr

end RowPipeline
