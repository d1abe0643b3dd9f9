import RowPipeline.Proofs.CheckedOperations
import RowPipeline.Proofs.NameAgreement

/-! # Conditions that have been checked

The truth of a value is taken at a condition itself and at the operands of its connectives, and only
a text can have none. The check asks for truth values in conditions that compare nothing. There only
a literal can fail to be one; in a condition with a comparison a column of texts can as well.
-/

namespace RowPipeline

open Outcome Text Name

/-! ## Values of declared types -/

/-- The value is one of the type, and not null. -/
inductive Value.HasType : Value → ColumnType → Prop where
  | int (n : Decimal) : n.trunc.sameValue n = true → HasType (.number n) .int
  | decimal (n : Decimal) : HasType (.number n) .decimal
  | string (s : String) : HasType (.text s) .string
  | boolean (b : Bool) : HasType (.boolean b) .boolean

/-- The row has exactly the known columns, with values of their types. -/
structure Row.TypedBy (known : Registry) (r : Row) : Prop where
  columns : ∀ name, name ∈ known.names ↔ name ∈ r.columns
  values : ∀ column ∈ known.entries, ∀ t, column.type = some t →
    ∃ v, r.get? column.name = some v ∧ v.HasType t

/-! ## Where a truth value is taken -/

/-- The value is a text that is neither a truth value nor a number. -/
def Value.Unreadable (v : Value) (s : String) : Prop :=
  v = .text s ∧ v.truth = .error (.notBoolean s)

theorem Value.unreadable_of_truth_error {v : Value} {cause : ConversionError}
    (h : v.truth = .error cause) : ∃ s, v.Unreadable s ∧ cause = .notBoolean s := by
  cases v with
  | null | boolean | number => cases h
  | text s =>
      have failed := h
      simp only [truth] at h
      split at h
      · cases h
      · split at h
        · cases h
        · split at h
          · cases h
          · cases h
            exact ⟨s, ⟨rfl, failed⟩, rfl⟩

theorem Value.unreadable_of_holds_error {v : Value} {err : EvalError} (h : v.holds = .error err) :
    ∃ s, v.Unreadable s ∧ err = .conversion (.notBoolean s) := by
  obtain ⟨cause, failed, rfl⟩ := mapError_eq_error.1 h
  obtain ⟨s, unreadable, rfl⟩ := unreadable_of_truth_error failed
  exact ⟨s, unreadable, rfl⟩

theorem EvalError.Kind.ne_conversion_of_ofNumbers {k : EvalError.Kind} (h : k.ofNumbers = true) :
    k ≠ .typeConversion := by
  rintro rfl
  cases h

theorem Row.lookup_kind_ne {r : Row} {scope : Option String} {c : ColumnRef} {err : EvalError}
    (h : r.lookup scope c = .error err) : err.kind ≠ .typeConversion := by
  have failed := lookup_eq_error_iff.1 h
  unfold resolve at failed
  split at failed
  · split at failed <;> cases failed
    simp [EvalError.kind]
  · simp only [resolveBare] at failed
    split at failed
    · cases failed
    · split at failed <;> cases failed <;> simp [EvalError.kind]

namespace Expr

variable {mode : EvalMode} {r : Row} {err : EvalError}

/-- The operands whose truth is taken, from left to right. -/
def judged : Expr → List Expr
  | literal _ | column _ => []
  | unary .not e => e :: e.judged
  | unary .negate e => e.judged
  | binary (.logic _) l r => (l :: l.judged) ++ (r :: r.judged)
  | binary _ l r => l.judged ++ r.judged

/-- The error is that the value of one of the expressions is a text without truth value. -/
def BlamedOn (mode : EvalMode) (r : Row) (err : EvalError) (es : List Expr) : Prop :=
  ∃ e ∈ es, ∃ v s, e.eval mode r = .ok v ∧ v.Unreadable s ∧ err = .conversion (.notBoolean s)

theorem BlamedOn.mono {es es' : List Expr} (h : BlamedOn mode r err es) (sub : es ⊆ es') :
    BlamedOn mode r err es' := by
  obtain ⟨e, member, blamed⟩ := h
  exact ⟨e, sub member, blamed⟩

theorem blamedOn_of_holds {e : Expr} {v : Value} {es : List Expr} (value : e.eval mode r = .ok v)
    (h : v.holds = .error err) : BlamedOn mode r err (e :: es) := by
  obtain ⟨s, unreadable, rfl⟩ := Value.unreadable_of_holds_error h
  exact ⟨e, List.mem_cons_self, v, s, value, unreadable, rfl⟩

theorem operands_conversion_error {left right : Expr} {f : Value → Value → Except EvalError Value}
    (kind : err.kind = .typeConversion)
    (ihLeft : left.eval mode r = .error err → BlamedOn mode r err left.judged)
    (ihRight : right.eval mode r = .error err → BlamedOn mode r err right.judged)
    (operation : ∀ a b, f a b = .error err → err.kind.ofNumbers = true)
    (h : (do let a ← left.eval mode r; let b ← right.eval mode r; f a b) = .error err) :
    BlamedOn mode r err (left.judged ++ right.judged) := by
  rcases bind_eq_error.1 h with h | ⟨a, _, h⟩
  · exact (ihLeft h).mono (List.subset_append_left _ _)
  · rcases bind_eq_error.1 h with h | ⟨b, _, h⟩
    · exact (ihRight h).mono (List.subset_append_right _ _)
    · exact absurd kind (EvalError.Kind.ne_conversion_of_ofNumbers (operation a b h))

theorem connective_conversion_error {left right : Expr} {f : Bool → Except EvalError Value}
    (ihLeft : left.eval mode r = .error err → BlamedOn mode r err left.judged)
    (ihRight : right.eval mode r = .error err → BlamedOn mode r err right.judged)
    (decided : ∀ b, f b = .error err →
      (do let v ← right.eval mode r; v.holds.map Value.boolean) = .error err)
    (h : (do let a ← left.eval mode r; let b ← a.holds; f b) = .error err) :
    BlamedOn mode r err ((left :: left.judged) ++ (right :: right.judged)) := by
  rcases bind_eq_error.1 h with h | ⟨a, value, h⟩
  · exact (ihLeft h).mono fun e member => by simp [member]
  · rcases bind_eq_error.1 h with h | ⟨b, _, h⟩
    · exact (blamedOn_of_holds value h).mono (List.subset_append_left _ _)
    · refine BlamedOn.mono ?_ (List.subset_append_right _ _)
      rcases bind_eq_error.1 (decided b h) with h | ⟨v, value, h⟩
      · exact (ihRight h).mono (List.subset_cons_self _ _)
      · exact blamedOn_of_holds value (map_eq_error.1 h)

/-- A failed conversion in an expression comes from an operand whose truth is taken. -/
theorem eval_conversion_error {e : Expr} (kind : err.kind = .typeConversion)
    (h : e.eval mode r = .error err) : BlamedOn mode r err e.judged := by
  induction e with
  | literal v => cases h
  | column c => exact absurd kind (Row.lookup_kind_ne h)
  | unary op operand ih =>
      rcases bind_eq_error.1 h with inside | ⟨v, value, failed⟩
      · cases op with
        | not => exact (ih inside).mono (List.subset_cons_self _ _)
        | negate => exact ih inside
      · cases op with
        | not => exact blamedOn_of_holds value (map_eq_error.1 failed)
        | negate =>
            exact absurd kind (EvalError.Kind.ne_conversion_of_ofNumbers (negate_error failed))
  | binary op left right ihLeft ihRight =>
      cases op with
      | logic op =>
          cases op with
          | and =>
              refine connective_conversion_error ihLeft ihRight (fun b h => ?_) h
              cases b with
              | true => exact h
              | false => cases h
          | or =>
              refine connective_conversion_error ihLeft ihRight (fun b h => ?_) h
              cases b with
              | true => cases h
              | false => exact h
      | text op =>
          exact operands_conversion_error kind ihLeft ihRight (fun a b h => by cases h) h
      | order op =>
          exact operands_conversion_error kind ihLeft ihRight
            (fun a b h => onNumbers_error (fun m n h => by cases h) h) h
      | arith op =>
          exact operands_conversion_error kind ihLeft ihRight
            (fun a b h => onNumbers_error
              (fun m n h => ArithOp.compute_error (map_eq_error.1 h)) h) h

theorem condition_conversion_error {e : Expr} (kind : err.kind = .typeConversion)
    (h : (e.eval mode r >>= Value.holds) = .error err) :
    BlamedOn mode r err (e :: e.judged) := by
  rcases bind_eq_error.1 h with h | ⟨v, value, h⟩
  · exact (eval_conversion_error kind h).mono (List.subset_cons_self _ _)
  · exact blamedOn_of_holds value h

theorem applyUnary_ne_text {op : UnaryOp} {operand : Expr} {v : Value} {s : String} :
    applyUnary mode op operand v ≠ .ok (.text s) := by
  intro h
  cases op with
  | not =>
      obtain ⟨_, _, h⟩ := map_eq_ok.1 h
      cases h
  | negate =>
      simp only [applyUnary] at h
      split at h
      · cases h
      · split at h <;> cases h

theorem onNumbers_ne_text {op : BinaryOp} {whole : Expr} {a b : Value} {s : String}
    {f : Decimal → Decimal → Except EvalError Value} (operation : ∀ m n, f m n ≠ .ok (.text s)) :
    onNumbers mode op whole a b f ≠ .ok (.text s) := by
  intro h
  unfold onNumbers at h
  split at h
  · exact operation _ _ h
  · split at h <;> cases h

/-- Operators make no texts. -/
theorem literal_or_column_of_text {e : Expr} {s : String} (h : e.eval mode r = .ok (.text s)) :
    e = .literal (.text s) ∨ ∃ c, e = .column c ∧ r.lookup mode.scope c = .ok (.text s) := by
  cases e with
  | literal v =>
      cases h
      exact .inl rfl
  | column c => exact .inr ⟨c, rfl, h⟩
  | unary op operand =>
      obtain ⟨v, _, h⟩ := bind_eq_ok.1 h
      exact absurd h applyUnary_ne_text
  | binary op left right =>
      exfalso
      cases op with
      | logic op =>
          -- A connective that goes on has the truth of its second operand as its value.
          have judged : (do let v ← right.eval mode r; v.holds.map Value.boolean) ≠
              .ok (.text s) := by
            intro h
            obtain ⟨v, _, h⟩ := bind_eq_ok.1 h
            obtain ⟨b, _, h⟩ := map_eq_ok.1 h
            cases h
          cases op with
          | and =>
              obtain ⟨a, _, h⟩ := bind_eq_ok.1 h
              obtain ⟨b, _, h⟩ := bind_eq_ok.1 h
              cases b with
              | true => exact judged h
              | false => cases h
          | or =>
              obtain ⟨a, _, h⟩ := bind_eq_ok.1 h
              obtain ⟨b, _, h⟩ := bind_eq_ok.1 h
              cases b with
              | true => cases h
              | false => exact judged h
      | text op =>
          obtain ⟨a, _, h⟩ := bind_eq_ok.1 h
          obtain ⟨b, _, h⟩ := bind_eq_ok.1 h
          cases h
      | order op =>
          obtain ⟨a, _, h⟩ := bind_eq_ok.1 h
          obtain ⟨b, _, h⟩ := bind_eq_ok.1 h
          exact onNumbers_ne_text (fun m n h => by cases h) h
      | arith op =>
          obtain ⟨a, _, h⟩ := bind_eq_ok.1 h
          obtain ⟨b, _, h⟩ := bind_eq_ok.1 h
          refine onNumbers_ne_text (fun m n h => ?_) h
          obtain ⟨_, _, h⟩ := map_eq_ok.1 h
          cases h

theorem columns_of_judged {e o : Expr} (member : o ∈ e.judged) : o.columns ⊆ e.columns := by
  induction e with
  | literal v => cases member
  | column c => cases member
  | unary op operand ih =>
      cases op with
      | not =>
          rcases List.mem_cons.1 member with rfl | member
          · exact List.Subset.refl _
          · exact ih member
      | negate => exact ih member
  | binary op left right ihLeft ihRight =>
      have inside : o ∈ left.judged ∨ o ∈ right.judged →
          o.columns ⊆ left.columns ++ right.columns := by
        rintro (member | member)
        · exact List.Subset.trans (ihLeft member) (List.subset_append_left _ _)
        · exact List.Subset.trans (ihRight member) (List.subset_append_right _ _)
      cases op with
      | logic op =>
          rcases List.mem_append.1 member with member | member
          · rcases List.mem_cons.1 member with rfl | member
            · exact List.subset_append_left _ _
            · exact inside (.inl member)
          · rcases List.mem_cons.1 member with rfl | member
            · exact List.subset_append_right _ _
            · exact inside (.inr member)
      | text op | order op | arith op => exact inside (List.mem_append.1 member)

end Expr

namespace Registry

variable {known : Registry} {scope : Option String}

theorem boolean_of_checkExpr {text : String} {e : Expr}
    (accepted : known.checkExpr scope true text = .ok e) (plain : e.compares = false)
    {c : ColumnRef} (member : c ∈ e.columns) :
    ∃ column, known.resolve scope c = .ok column ∧ ∀ t, column.type = some t → t = .boolean := by
  obtain ⟨e', _, accepted⟩ := bind_eq_ok.1 accepted
  obtain ⟨_, checked, accepted⟩ := bind_eq_ok.1 accepted
  cases accepted
  have checked := forM_eq_ok.1 checked c member
  obtain ⟨column, resolved, checked⟩ := bind_eq_ok.1 checked
  refine ⟨column, resolved, fun t typed => ?_⟩
  by_contra other
  simp [typed, plain, other, throw, throwThe, MonadExceptOf.throw] at checked

end Registry

/-! ## Accepted conditions on typed rows -/

namespace Row.TypedBy

variable {known : Registry} {r : Row} {scope : Option String} {c : ColumnRef} {s : String}

theorem string_of_lookup (typed : r.TypedBy known)
    (declared : ∀ column ∈ known.entries, ∃ t, column.type = some t)
    (text : r.lookup scope c = .ok (.text s)) :
    ∃ column ∈ known.entries, column.type = some .string ∧
      r.resolve scope c = .ok column.name ∧ r.get? column.name = some (.text s) := by
  obtain ⟨name, resolved, held⟩ := lookup_eq_ok.1 text
  have present := (typed.columns name).2 (mem_columns_of_resolve resolved)
  obtain ⟨column, member, rfl⟩ := List.mem_map.1 present
  obtain ⟨t, type⟩ := declared column member
  obtain ⟨v, held', hasType⟩ := typed.values column member t type
  rw [held] at held'
  cases held'
  cases hasType
  exact ⟨column, member, type, resolved, held⟩

/-- In a condition that compares nothing no name stands for a text, as long as a row takes the names
as the check does. -/
theorem lookup_ne_text (typed : r.TypedBy known)
    (declared : ∀ column ∈ known.entries, ∃ t, column.type = some t) (keyed : known.Keyed)
    (agree : CaseFoldsAgree (inScope scope c.written :: c.written :: known.names))
    {column : KnownColumn} (resolved : known.resolve scope c = .ok column)
    (boolean : ∀ t, column.type = some t → t = .boolean) :
    r.lookup scope c ≠ .ok (.text s) := by
  intro text
  have alike := keyed.spelledAlike
    (agree.subset (List.Subset.trans (List.subset_cons_self _ _) (List.subset_cons_self _ _)))
  have member := keyed.mem_entries_of_resolve resolved
  have present := (typed.columns column.name).1 (List.mem_map_of_mem member)
  have sub : r.columns ⊆ known.names := fun name listed => (typed.columns name).2 listed
  have same := Row.resolve_of_known keyed alike sub agree resolved present
  obtain ⟨name, resolved', held⟩ := lookup_eq_ok.1 text
  rw [same] at resolved'
  cases resolved'
  obtain ⟨t, type⟩ := declared column member
  obtain rfl := boolean t type
  obtain ⟨v, held', hasType⟩ := typed.values column member _ type
  rw [held] at held'
  cases held'
  cases hasType

end Row.TypedBy

/-- An accepted condition fails to convert a value of a typed row only on a text that is neither a
truth value nor a number, and only where the truth of a literal or of a column of texts is taken. It
is a column only if the condition compares something, as long as both foldings of case agree. -/
theorem accepted_condition_conversion_error (columns : List KnownColumn) (scope : Option String)
    (nullPasses : Bool) (text : String) (e : Expr) (r : Row) (err : EvalError)
    (declared : ∀ column ∈ (Registry.ofColumns columns).entries, ∃ t, column.type = some t)
    (accepted : (Registry.ofColumns columns).checkExpr scope true text = .ok e)
    (typed : r.TypedBy (Registry.ofColumns columns))
    (failed : (Expr.evalText ⟨scope, nullPasses⟩ r text >>= Value.holds) = .error err)
    (kind : err.kind = .typeConversion) :
    ∃ s, err = .conversion (.notBoolean s) ∧ (Value.text s).Unreadable s ∧
      (.literal (.text s) ∈ e :: e.judged ∨
        ∃ c, .column c ∈ e :: e.judged ∧
          (∃ column ∈ (Registry.ofColumns columns).entries, column.type = some .string ∧
            r.resolve scope c = .ok column.name ∧ r.get? column.name = some (.text s)) ∧
          (CaseFoldsAgree (inScope scope c.written :: c.written ::
            (Registry.ofColumns columns).names) → e.compares = true)) := by
  have keyed := Registry.keyed_ofColumns columns
  have compiled : Expr.evalText ⟨scope, nullPasses⟩ r text = e.eval ⟨scope, nullPasses⟩ r := by
    have parsed := (Registry.checkExpr_ok accepted).1
    simp [Expr.evalText, Expr.compile, parsed, Except.mapError, bind, Except.bind]
  rw [compiled] at failed
  obtain ⟨o, member, v, s, value, unreadable, rfl⟩ := Expr.condition_conversion_error kind failed
  have isText : v = .text s := unreadable.1
  subst isText
  refine ⟨s, rfl, unreadable, ?_⟩
  rcases Expr.literal_or_column_of_text value with rfl | ⟨c, rfl, lookup⟩
  · exact .inl member
  · refine .inr ⟨c, member, typed.string_of_lookup declared lookup, fun agree => ?_⟩
    by_contra plain
    have named : c ∈ e.columns := by
      rcases List.mem_cons.1 member with rfl | member
      · exact List.mem_singleton_self c
      · exact Expr.columns_of_judged member (List.mem_singleton_self c)
    obtain ⟨column, resolved, boolean⟩ :=
      Registry.boolean_of_checkExpr accepted (by simpa using plain) named
    exact typed.lookup_ne_text declared keyed agree resolved boolean lookup

def people : List KnownColumn := [⟨"people.name", some .string⟩, ⟨"people.qty", some .int⟩]

def person : Row := .ofList [("people.name", .text "abc"), ("people.qty", .number .one)] none

theorem entries_people : (Registry.ofColumns people).entries = people := by
  decide +kernel

theorem declared_people :
    ∀ column ∈ (Registry.ofColumns people).entries, ∃ t, column.type = some t := by
  rw [entries_people]
  simp [people]

theorem person_typedBy : person.TypedBy (Registry.ofColumns people) where
  columns := by
    have names : (Registry.ofColumns people).names = person.columns := by decide +kernel
    intro name
    rw [names]
  values := by
    rw [entries_people]
    intro column member t type
    simp only [people, List.mem_cons, List.not_mem_nil, or_false] at member
    rcases member with rfl | rfl
    · cases type
      exact ⟨.text "abc", by decide +kernel, .string _⟩
    · cases type
      exact ⟨.number .one, by decide +kernel, .int _ (by decide +kernel)⟩

/-- A condition that names a column of texts where a truth value is needed is accepted if it
compares something elsewhere. -/
theorem accepted_condition_fails_people :
    (∀ column ∈ (Registry.ofColumns people).entries, ∃ t, column.type = some t) ∧
      (∃ e, (Registry.ofColumns people).checkExpr none true "name AND qty > 0" = .ok e) ∧
      person.TypedBy (Registry.ofColumns people) ∧
      ∃ err, (Expr.evalText {} person "name AND qty > 0" >>= Value.holds) = .error err ∧
        err.kind = .typeConversion := by
  have accepted : ∃ e, (Registry.ofColumns people).checkExpr none true "name AND qty > 0" = .ok e :=
    isSome_toOption_iff.1 (by decide +kernel)
  exact ⟨declared_people, accepted, person_typedBy, .conversion (.notBoolean "abc"),
    by decide +kernel, rfl⟩

theorem accepted_condition_conversion_error_people :
    ∃ e, (Registry.ofColumns people).checkExpr none true "NOT name OR qty > 0" = .ok e ∧
      (.literal (.text "abc") ∈ e :: e.judged ∨
        ∃ c, .column c ∈ e :: e.judged ∧
          (∃ column ∈ (Registry.ofColumns people).entries, column.type = some .string ∧
            person.resolve none c = .ok column.name ∧
            person.get? column.name = some (.text "abc")) ∧
          (CaseFoldsAgree (inScope none c.written :: c.written ::
            (Registry.ofColumns people).names) → e.compares = true)) := by
  obtain ⟨e, accepted⟩ : ∃ e, (Registry.ofColumns people).checkExpr none true
      "NOT name OR qty > 0" = .ok e := isSome_toOption_iff.1 (by decide +kernel)
  obtain ⟨s, same, -, judged⟩ := accepted_condition_conversion_error people none false
    "NOT name OR qty > 0" e person (.conversion (.notBoolean "abc")) declared_people accepted
    person_typedBy (by decide +kernel) rfl
  cases same
  exact ⟨e, accepted, judged⟩

end RowPipeline
