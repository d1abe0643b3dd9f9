import RowPipeline.Proofs.RowTrace
import RowPipeline.Proofs.ValueDependence
import RowPipeline.Proofs.WrittenOutNames

/-! # A scope and names written out

Operations in a scope do to a row what the same operations do without a scope once all names are
written out under the alias, the names of the columns that are read and those of the targets. This
needs the alias in front of every name that has none to be a column of the row already; then a name
is never sought further than under the alias.
-/

namespace RowPipeline

open Outcome Text

namespace SameOutcome

variable {α β : Type} {R : α → α → Prop} {S : β → β → Prop}

theorem of_eq {x y : Except EvalError α} (h : x = y) : SameOutcome Eq x y :=
  h ▸ .refl (fun _ => rfl) x

theorem and_left {x y : Except EvalError α} (h : SameOutcome R x y) {p : α → Prop}
    (first : ∀ a, x = .ok a → p a) : SameOutcome (fun a b => R a b ∧ p a) x y := by
  cases h with
  | ok related => exact .ok ⟨related, first _ rfl⟩
  | error same => exact .error same

theorem mapM {f g : β → Except EvalError α} {xs : List β}
    (each : ∀ x ∈ xs, SameOutcome Eq (f x) (g x)) : SameOutcome Eq (xs.mapM f) (xs.mapM g) := by
  induction xs with
  | nil => exact .ok rfl
  | cons x xs ih =>
      obtain ⟨first, later⟩ := List.forall_mem_cons.1 each
      rw [List.mapM_cons, List.mapM_cons]
      apply first.bind
      rintro a _ rfl
      apply (ih later).bind
      rintro rest _ rfl
      exact .ok rfl

end SameOutcome

/-! ## Expressions -/

namespace Expr

variable {f : ColumnRef → ColumnRef} {scope scope' : Option String} {nullPasses : Bool} {r : Row}

theorem onNumbers_whole {op : BinaryOp} {whole whole' : Expr} {a b : Value}
    {g : Decimal → Decimal → Except EvalError Value} :
    SameOutcome Eq (onNumbers ⟨scope, nullPasses⟩ op whole a b g)
      (onNumbers ⟨scope', nullPasses⟩ op whole' a b g) := by
  unfold onNumbers
  split
  next => exact .of_eq rfl
  next =>
    split
    · exact .ok rfl
    · exact .error rfl

theorem applyUnary_operand {op : UnaryOp} {operand operand' : Expr} {v : Value} :
    SameOutcome Eq (applyUnary ⟨scope, nullPasses⟩ op operand v)
      (applyUnary ⟨scope', nullPasses⟩ op operand' v) := by
  cases op with
  | not => exact .of_eq rfl
  | negate =>
      cases v with
      | number n => exact .ok rfl
      | null | text | boolean =>
          simp only [applyUnary]
          split
          · exact .ok rfl
          · exact .error rfl

/-- If renamed columns lead to the same values under another scope, the renamed expression has the
same value there, or both fail for the same kind of reason. -/
theorem eval_rename {e : Expr}
    (same : ∀ c ∈ e.columns, r.lookup scope c = r.lookup scope' (f c)) :
    SameOutcome Eq (e.eval ⟨scope, nullPasses⟩ r)
      ((e.rename f).eval ⟨scope', nullPasses⟩ r) := by
  induction e with
  | literal v => exact .ok rfl
  | column c => exact .of_eq (same c List.mem_cons_self)
  | unary op operand ih =>
      apply (ih same).bind
      rintro v _ rfl
      exact applyUnary_operand
  | binary op left right ihLeft ihRight =>
      have first := ihLeft fun c member => same c (List.mem_append_left _ member)
      have second := ihRight fun c member => same c (List.mem_append_right _ member)
      have decided : SameOutcome Eq
          (do let v ← right.eval ⟨scope, nullPasses⟩ r; v.holds.map Value.boolean)
          (do let v ← (right.rename f).eval ⟨scope', nullPasses⟩ r; v.holds.map Value.boolean) := by
        apply second.bind
        rintro v _ rfl
        exact .of_eq rfl
      cases op with
      | logic op =>
          cases op with
          | and =>
              apply first.bind
              rintro v _ rfl
              apply (SameOutcome.of_eq (rfl : v.holds = v.holds)).bind
              rintro holds _ rfl
              cases holds with
              | true => exact decided
              | false => exact .ok rfl
          | or =>
              apply first.bind
              rintro v _ rfl
              apply (SameOutcome.of_eq (rfl : v.holds = v.holds)).bind
              rintro holds _ rfl
              cases holds with
              | true => exact .ok rfl
              | false => exact decided
      | text op =>
          apply first.bind
          rintro a _ rfl
          apply second.bind
          rintro b _ rfl
          exact .ok rfl
      | order op | arith op =>
          apply first.bind
          rintro a _ rfl
          apply second.bind
          rintro b _ rfl
          exact onNumbers_whole

end Expr

/-! ## Names -/

namespace ColumnRef

/-- The column is named as it would be read from its written form. -/
def AsWritten (c : ColumnRef) : Prop :=
  ofName c.written = c

end ColumnRef

theorem Expr.mem_inOrder_of_mem_columns {e : Expr} {c : ColumnRef} (member : c ∈ e.columns) :
    .operand (.column c) ∈ e.inOrder := by
  induction e with
  | literal v => cases member
  | column d =>
      obtain rfl := List.mem_singleton.1 member
      exact List.mem_cons_self
  | unary op e ih => exact List.mem_cons_of_mem _ (ih member)
  | binary op l r ihl ihr =>
      rw [inOrder, List.mem_append]
      rcases List.mem_append.1 member with left | right
      · exact .inl (ihl left)
      · exact .inr (List.mem_cons_of_mem _ (ihr right))

theorem Expr.asWritten_of_parse {s : String} {e : Expr} (h : parse s = .ok e) :
    ∀ c ∈ e.columns, c.AsWritten := by
  intro c member
  obtain ⟨t, -, mark⟩ := exists_token_of_mem_inOrder h (mem_inOrder_of_mem_columns member)
  obtain ⟨name, -, -, rfl⟩ := Token.Kind.exists_name mark
  rw [ColumnRef.AsWritten, ColumnRef.written_ofName]

theorem Name.point_of_isUnder {aliasName column : String}
    (h : isUnder aliasName column = true) : '.' ∈ column.toList := by
  rw [isUnder, startsWithAlias, Bool.and_eq_true] at h
  obtain ⟨-, behind⟩ := h
  split at behind
  next d rest here =>
    have inside : '.' ∈ column.toList.drop aliasName.toList.length := by simp [here]
    exact List.mem_of_mem_drop inside
  next => cases behind

theorem Name.qualify_of_bare {c : ColumnRef} (asWritten : c.AsWritten) (bare : c.hasAlias = false)
    (aliasName : String) : qualify aliasName c.written = aliasName ++ "." ++ c.written := by
  have pointless : '.' ∉ c.written.toList := by
    rw [← ColumnRef.hasAlias_ofName_iff, asWritten, bare]
    exact Bool.false_ne_true
  rw [qualify, if_neg (mt point_of_isUnder pointless)]

namespace Row

/-- The row has a column for every name without an alias, once the alias is in front of it. -/
def Spells (aliasName : String) (r : Row) (names : List ColumnRef) : Prop :=
  ∀ c ∈ names, c.hasAlias = false →
    ∃ column ∈ r.columns, sameIgnoringCase column (aliasName ++ "." ++ c.written) = true

instance (aliasName : String) (r : Row) (names : List ColumnRef) :
    Decidable (r.Spells aliasName names) :=
  inferInstanceAs (Decidable (∀ c ∈ names, c.hasAlias = false →
    ∃ column ∈ r.columns, sameIgnoringCase column (aliasName ++ "." ++ c.written) = true))

theorem Spells.mono {aliasName : String} {r r' : Row} {names : List ColumnRef}
    (h : r.Spells aliasName names) (sub : r.columns ⊆ r'.columns) : r'.Spells aliasName names := by
  intro c member bare
  obtain ⟨column, own, same⟩ := h c member bare
  exact ⟨column, sub own, same⟩

/-- A name that the row has under the alias stands for the same column in the scope as under the
alias without a scope. -/
theorem lookup_under {aliasName : String} {r : Row} {names : List ColumnRef}
    (spells : r.Spells aliasName names) {c : ColumnRef} (member : c ∈ names)
    (asWritten : c.AsWritten) :
    r.lookup (some aliasName) c = r.lookup none (c.under aliasName) := by
  have resolved : r.resolve (some aliasName) c = r.resolve none (c.under aliasName) := by
    cases qualified : c.hasAlias with
    | true =>
        rw [ColumnRef.under_of_hasAlias qualified, resolve, resolve, if_pos qualified,
          if_pos qualified]
    | false =>
        obtain ⟨column, own, same⟩ := spells c member qualified
        have found : ∃ column, r.findColumn? (aliasName ++ "." ++ c.written) = some column := by
          rw [← Option.ne_none_iff_exists']
          intro missing
          simp [findColumn?_eq_none_iff.1 missing column own] at same
        obtain ⟨column, found⟩ := found
        have aliased : (ColumnRef.ofName (aliasName ++ "." ++ c.written)).hasAlias = true :=
          ColumnRef.hasAlias_ofName_iff.2 (by simp)
        rw [ColumnRef.under_of_bare qualified, resolve_bare qualified, Name.inScope,
          Name.qualify_of_bare asWritten qualified, found, resolve, if_pos aliased,
          ColumnRef.written_ofName, found]
        rfl
  rw [lookup, lookup, resolved]

end Row

/-! ## Operations -/

/-- The outcome of operations without the one that is blamed for an error. -/
def unblamed {α : Type} (x : Except OperationError α) : Except EvalError α :=
  x.mapError OperationError.cause

theorem unblamed_bind {α β : Type} (x : Except OperationError α)
    (f : α → Except OperationError β) :
    unblamed (x >>= f) = unblamed x >>= fun a => unblamed (f a) := by
  cases x <;> rfl

theorem unblamed_blame_bind {α β : Type} (op : Operation) (x : Except EvalError α)
    (f : α → Except OperationError β) :
    unblamed (op.blame x >>= f) = x >>= fun a => unblamed (f a) := by
  cases x <;> rfl

theorem unblamed_mapM {α β : Type} (f : α → Except OperationError β) (xs : List α) :
    unblamed (xs.mapM f) = xs.mapM fun x => unblamed (f x) := by
  induction xs with
  | nil => rfl
  | cons x xs ih =>
      simp only [List.mapM_cons, unblamed_bind, ih]
      rfl

namespace RowAction

variable {f : ColumnRef → ColumnRef} {scope scope' : Option String} {nullPasses : Bool} {r : Row}

def rename (f : ColumnRef → ColumnRef) : RowAction → RowAction
  | map e target => map (e.rename f) target
  | choose condition whenTrue whenFalse target =>
    choose (condition.rename f) (whenTrue.rename f) (whenFalse.rename f) target
  | filter condition => filter (condition.rename f)

theorem run_rename {action : RowAction}
    (same : ∀ c ∈ action.columns, r.lookup scope c = r.lookup scope' (f c)) :
    SameOutcome Eq (action.run ⟨scope, nullPasses⟩ r)
      ((action.rename f).run ⟨scope', nullPasses⟩ r) := by
  cases action with
  | map e target =>
      apply (Expr.eval_rename same).bind
      rintro v _ rfl
      exact .of_eq rfl
  | choose condition whenTrue whenFalse target =>
      simp only [columns, List.forall_mem_append] at same
      obtain ⟨⟨first, second⟩, third⟩ := same
      apply (Expr.eval_rename first).bind
      rintro v _ rfl
      apply (SameOutcome.of_eq (rfl : v.holds = v.holds)).bind
      rintro holds _ rfl
      cases holds with
      | true =>
          apply (Expr.eval_rename second).bind
          rintro w _ rfl
          exact .of_eq rfl
      | false =>
          apply (Expr.eval_rename third).bind
          rintro w _ rfl
          exact .of_eq rfl
  | filter condition =>
      apply (Expr.eval_rename same).bind
      rintro v _ rfl
      exact .of_eq rfl

end RowAction

theorem Operation.asWritten_references (op : Operation) : ∀ c ∈ op.references, c.AsWritten := by
  intro c member
  rcases List.mem_append.1 member with inside | key
  · obtain ⟨text, -, named⟩ := List.mem_flatMap.1 inside
    unfold Expr.columnsOf at named
    split at named
    next e parsed => exact Expr.asWritten_of_parse parsed c named
    next => cases named
  · cases op with
    | aggregate function e groupBy target =>
        obtain ⟨column, -, rfl⟩ := List.mem_map.1 key
        rw [ColumnRef.AsWritten, ColumnRef.written_ofName]
    | map | choose | filter => cases key

/-- The operation with all its names written out under an alias. -/
def Operation.writeOut (aliasName : String) : Operation → Operation
  | map e target => map (Expr.writeOut aliasName e) (target.inScope (some aliasName))
  | choose condition whenTrue whenFalse target =>
    choose (Expr.writeOut aliasName condition) (Expr.writeOut aliasName whenTrue)
      (Expr.writeOut aliasName whenFalse) (target.inScope (some aliasName))
  | filter condition => filter (Expr.writeOut aliasName condition)
  | aggregate function e groupBy target =>
    aggregate function (Expr.writeOut aliasName e)
      (groupBy.map fun column => ((ColumnRef.ofName (trim column)).under aliasName).written)
      (target.inScope (some aliasName))

section Compile

variable {aliasName : String} (valid : Expr.parse aliasName = .ok (.column (.ofName aliasName)))

include valid

theorem Expr.compile_writeOut (s : String) :
    SameOutcome (fun e e' => e' = e.rename (ColumnRef.under aliasName)) (compile s)
      (compile (writeOut aliasName s)) := by
  have read := toOption_parse_writeOut valid s
  unfold compile
  cases own : parse s with
  | error cause =>
      cases other : parse (writeOut aliasName s) with
      | error cause' => exact .error rfl
      | ok e' =>
          rw [own, other] at read
          cases read
  | ok e =>
      rw [own] at read
      rw [toOption_eq_some.1 read]
      exact .ok rfl

theorem RowAction.compile_writeOut (op : Operation) :
    SameOutcome (fun a a' => a' = a.map (rename (ColumnRef.under aliasName)))
      (compile (some aliasName) op) (compile none (op.writeOut aliasName)) := by
  cases op with
  | map e target =>
      apply (Expr.compile_writeOut valid e).bind
      rintro e _ rfl
      exact .ok rfl
  | choose condition whenTrue whenFalse target =>
      apply (Expr.compile_writeOut valid condition).bind
      rintro c _ rfl
      apply (Expr.compile_writeOut valid whenTrue).bind
      rintro t _ rfl
      apply (Expr.compile_writeOut valid whenFalse).bind
      rintro e _ rfl
      exact .ok rfl
  | filter condition =>
      apply (Expr.compile_writeOut valid condition).bind
      rintro c _ rfl
      exact .ok rfl
  | aggregate function e groupBy target => exact .ok rfl

theorem RowOp.compile_writeOut (ops : List Operation) :
    SameOutcome (List.Forall₂ fun op op' =>
        op'.action = op.action.rename (ColumnRef.under aliasName))
      (unblamed (compile (some aliasName) ops))
      (unblamed (compile none (ops.map (Operation.writeOut aliasName)))) := by
  induction ops with
  | nil => exact .ok .nil
  | cons op ops ih =>
      rw [List.map_cons, compile, compile, unblamed_blame_bind, unblamed_blame_bind]
      apply (RowAction.compile_writeOut valid op).bind
      rintro action _ rfl
      cases action with
      | none => exact ih
      | some action =>
          simp only [Option.map_some, unblamed_bind]
          apply ih.bind
          intro rest rest' renamed
          exact .ok (.cons rfl renamed)

end Compile

namespace RowOp

variable {aliasName : String} {nullPasses : Bool}

/-- What an operation does to a row, it does with its names written out, as long as the row has
columns for them. -/
theorem onRow_rename {ops ops' : List RowOp}
    (renamed : List.Forall₂ (fun op op' =>
      op'.action = op.action.rename (ColumnRef.under aliasName)) ops ops')
    (asWritten : ∀ op ∈ ops, ∀ c ∈ op.action.columns, c.AsWritten) {r : Row}
    (spells : ∀ op ∈ ops, r.Spells aliasName op.action.columns) :
    SameOutcome Eq (unblamed (onRow ⟨some aliasName, nullPasses⟩ ops r))
      (unblamed (onRow ⟨none, nullPasses⟩ ops' r)) := by
  induction renamed generalizing r with
  | nil => exact .ok rfl
  | @cons op op' ops ops' own _ ih =>
      obtain ⟨written, writtenLater⟩ := List.forall_mem_cons.1 asWritten
      obtain ⟨spelled, spelledLater⟩ := List.forall_mem_cons.1 spells
      have step : SameOutcome Eq (op.action.run ⟨some aliasName, nullPasses⟩ r)
          (op'.action.run ⟨none, nullPasses⟩ r) := by
        rw [own]
        exact RowAction.run_rename fun c member =>
          Row.lookup_under spelled member (written c member)
      -- The columns of a row are never taken away from it.
      have grown : ∀ kept, op.action.run ⟨some aliasName, nullPasses⟩ r = .ok kept →
          ∀ r' ∈ kept, r.columns ⊆ r'.columns := by
        rintro _ ran r' rfl column held
        exact (RowAction.changesOnly_of_run ran).mem_columns_iff.2 (.inr held)
      rw [onRow, onRow, unblamed_blame_bind, unblamed_blame_bind]
      apply (step.and_left grown).bind
      rintro kept _ ⟨rfl, sub⟩
      cases kept with
      | none => exact .ok rfl
      | some r' =>
          exact ih writtenLater fun op member => (spelledLater op member).mono (sub r' rfl)

theorem exists_of_mem_compile {scope : Option String} {ops : List Operation} {rowOps : List RowOp}
    (compiled : compile scope ops = .ok rowOps) {op : RowOp} (member : op ∈ rowOps) :
    ∃ own ∈ ops, own.isAggregate = false ∧ op.action.columns = own.references := by
  induction ops generalizing rowOps with
  | nil =>
      cases compiled
      cases member
  | cons first ops ih =>
      rcases compile_cons compiled with ⟨_, tail⟩ | ⟨action, rest, head, tail, rfl⟩
      · obtain ⟨own, listed, same⟩ := ih tail member
        exact ⟨own, List.mem_cons_of_mem _ listed, same⟩
      · rcases List.mem_cons.1 member with rfl | later
        · obtain ⟨plain, columns, -⟩ := RowAction.compile_some head
          exact ⟨first, List.mem_cons_self, plain, columns⟩
        · obtain ⟨own, listed, same⟩ := ih tail later
          exact ⟨own, List.mem_cons_of_mem _ listed, same⟩

/-- Operations in a scope come to the same rows, or fail for the same kind of reason, as the
operations with all names written out under the alias come to without a scope. -/
theorem apply_writeOut {aliasName : String}
    (valid : Expr.parse aliasName = .ok (.column (.ofName aliasName))) (nullPasses : Bool)
    (ops : List Operation) (rows : List Row)
    (spells : ∀ r ∈ rows, ∀ op ∈ Operation.onRows ops, r.Spells aliasName op.references) :
    SameOutcome Eq (unblamed (apply ⟨some aliasName, nullPasses⟩ ops rows))
      (unblamed (apply ⟨none, nullPasses⟩ (ops.map (Operation.writeOut aliasName)) rows)) := by
  have named : ∀ rowOps, unblamed (compile (some aliasName) ops) = .ok rowOps →
      ∀ op ∈ rowOps, ∃ own ∈ ops, own.isAggregate = false ∧ op.action.columns = own.references :=
    fun rowOps compiled op => exists_of_mem_compile (mapError_eq_ok.1 compiled)
  rw [apply, apply, unblamed_bind, unblamed_bind]
  apply ((compile_writeOut valid ops).and_left named).bind
  rintro rowOps rowOps' ⟨renamed, names⟩
  rw [onRows, onRows, unblamed_bind, unblamed_bind, unblamed_mapM, unblamed_mapM]
  have each : ∀ r ∈ rows, SameOutcome Eq (unblamed (onRow ⟨some aliasName, nullPasses⟩ rowOps r))
      (unblamed (onRow ⟨none, nullPasses⟩ rowOps' r)) := by
    intro r listed
    apply onRow_rename renamed
    · intro op member
      obtain ⟨own, -, -, same⟩ := names op member
      rw [same]
      exact own.asWritten_references
    · intro op member
      obtain ⟨own, source, plain, same⟩ := names op member
      rw [same]
      exact spells r listed own (List.mem_filter.2 ⟨source, by simp [plain]⟩)
  apply (SameOutcome.mapM each).bind
  rintro results _ rfl
  exact .ok rfl

/-- The total is computed anew, small totals are dropped, and the rest is added up. -/
def totals : List Operation :=
  [.map "qty*Price" ⟨"total", none⟩, .filter "total>5 and not(sales.qty=\"qty\")",
    .aggregate "sum" "total" ["qty"] ⟨"Sales.sum", none⟩]

def oldTotals : List Row :=
  [.ofList [("Sales.Qty", .ofCell "3"), ("sales.price", .ofCell "4"), ("sales.total", .null)] none,
    .ofList [("Sales.Qty", .ofCell "0"), ("sales.price", .ofCell "4"), ("sales.total", .null)] none]

theorem apply_writeOut_totals :
    Expr.parse "sales" = .ok (.column (.ofName "sales")) ∧
      (∀ r ∈ oldTotals, ∀ op ∈ Operation.onRows totals, r.Spells "sales" op.references) ∧
      totals.map (Operation.writeOut "sales") =
        [.map "sales.qty*sales.Price" ⟨"sales.total", none⟩,
          .filter "sales.total>5 and not(sales.qty=\"qty\")",
          .aggregate "sum" "sales.total" ["sales.qty"] ⟨"Sales.sum", none⟩] ∧
      (apply ⟨some "sales", false⟩ totals oldTotals).toOption.map List.length = some 1 ∧
      SameOutcome Eq (unblamed (apply ⟨some "sales", false⟩ totals oldTotals))
        (unblamed (apply ⟨none, false⟩ (totals.map (Operation.writeOut "sales")) oldTotals)) := by
  have valid : Expr.parse "sales" = .ok (.column (.ofName "sales")) := by decide +kernel
  have spells : ∀ r ∈ oldTotals, ∀ op ∈ Operation.onRows totals,
      r.Spells "sales" op.references := by decide +kernel
  exact ⟨valid, spells, by decide +kernel, by decide +kernel,
    apply_writeOut valid false totals oldTotals spells⟩

end RowOp

end RowPipeline
