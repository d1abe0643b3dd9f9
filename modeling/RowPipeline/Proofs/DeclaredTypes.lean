import RowPipeline.Proofs.Conditions
import RowPipeline.Proofs.DecimalValue
import RowPipeline.Proofs.Stages
import RowPipeline.Proofs.TargetsOnly
import RowPipeline.Proofs.WideShape

/-! # Values of declared types

A value that has been converted to a type is of that type, and converting it once more leaves it as
it is. What a row holds at a target has been converted by the last operation that wrote there, and
what it holds at the target of an aggregate by that aggregate, unless it is null.
-/

namespace RowPipeline

open Outcome

/-! ## Conversion -/

theorem Decimal.trunc_trunc (d : Decimal) : d.trunc.trunc = d.trunc := by
  have whole : d.trunc.mantissa.tdiv (tenPow 0) = d.trunc.mantissa := Int.tdiv_one _
  simp only [trunc, mk.injEq, and_true] at whole ⊢
  exact whole

namespace Value

theorem toNumber_number (t : ColumnType) (n : Decimal) : (number n).toNumber t = .ok n := rfl

theorem convert_convert {v w : Value} {t : ColumnType} (h : v.convert t = .ok w) :
    w.convert t = .ok w := by
  cases t with
  | int =>
      obtain ⟨n, _, rfl⟩ := map_eq_ok.1 h
      rw [convert, toNumber_number, Except.map, Decimal.trunc_trunc]
  | decimal =>
      obtain ⟨n, _, rfl⟩ := map_eq_ok.1 h
      rfl
  | string =>
      cases h
      cases v <;> rfl
  | boolean =>
      obtain ⟨b, _, rfl⟩ := map_eq_ok.1 h
      rfl

/-- A converted value is of the type, but for null, which is no text and stays null. -/
theorem hasType_of_convert {v w : Value} {t : ColumnType} (h : v.convert t = .ok w) :
    w.HasType t ∨ t = .string ∧ v = .null ∧ w = .null := by
  cases t with
  | int =>
      obtain ⟨n, _, rfl⟩ := map_eq_ok.1 h
      refine .inl (.int n.trunc ?_)
      rw [Decimal.trunc_trunc]
      exact Decimal.sameValue_refl _
  | decimal =>
      obtain ⟨n, _, rfl⟩ := map_eq_ok.1 h
      exact .inl (.decimal n)
  | string =>
      cases h
      cases v with
      | null => exact .inr ⟨rfl, rfl, rfl⟩
      | number | text | boolean => exact .inl (.string _)
  | boolean =>
      obtain ⟨b, _, rfl⟩ := map_eq_ok.1 h
      exact .inl (.boolean b)

end Value

/-! ## Targets of operations on rows -/

namespace RowOp

variable {scope : Option String} {mode : EvalMode}

/-- The operation computes the value for the row, which the operations before it have reached. -/
def Computed (scope : Option String) (mode : EvalMode) (before : List Operation) (op : Operation)
    (r : Row) (v : Value) : Prop :=
  ∃ rowOps m action, compile scope before = .ok rowOps ∧ onRow mode rowOps r = .ok (some m) ∧
    RowAction.compile scope op = .ok (some action) ∧ action.Computes mode m v

theorem compile_split {before after : List Operation} {op : Operation} {rowOps : List RowOp}
    (compiled : compile scope (before ++ op :: after) = .ok rowOps)
    (onRows : op.isAggregate = false) :
    ∃ first action rest, compile scope before = .ok first ∧
      RowAction.compile scope op = .ok (some action) ∧ compile scope after = .ok rest ∧
      rowOps = first ++ ⟨action, op⟩ :: rest := by
  rw [compile_append] at compiled
  obtain ⟨first, head, compiled⟩ := bind_eq_ok.1 compiled
  obtain ⟨later, tail, compiled⟩ := bind_eq_ok.1 compiled
  cases compiled
  rcases compile_cons tail with ⟨aggregate, _⟩ | ⟨action, rest, own, behind, rfl⟩
  · rw [onRows] at aggregate
    cases aggregate
  · exact ⟨first, action, rest, head, own, behind, rfl⟩

theorem onRow_split {first rest : List RowOp} {op : RowOp} {r r' : Row}
    (h : onRow mode (first ++ op :: rest) r = .ok (some r')) :
    ∃ m m', onRow mode first r = .ok (some m) ∧ op.action.run mode m = .ok (some m') ∧
      onRow mode rest m' = .ok (some r') := by
  rw [onRow_append] at h
  rcases RowStep.andThen_eq_ok.1 h with ⟨_, none⟩ | ⟨m, before, h⟩
  · cases none
  · rcases onRow_cons h with ⟨_, _, h⟩ | ⟨_, h⟩ | ⟨m', ran, after⟩
    · cases h
    · cases h
    · exact ⟨m, m', before, ran, after⟩

/-- At the target of the operation that wrote there last, a row holds the value that the operation
has computed, made one of the declared type. -/
theorem exists_converted {before after : List Operation} {op : Operation} {rowOps : List RowOp}
    (compiled : compile scope (before ++ op :: after) = .ok rowOps)
    (onRows : op.isAggregate = false) {target : Target} (writes : op.target? = some target)
    (last : Name.inScope scope target.column ∉
      Operation.targetNames scope (Operation.onRows after))
    {r r' : Row} (ran : onRow mode rowOps r = .ok (some r')) :
    ∃ v w, Computed scope mode before op r v ∧ v.convertTo target.type = .ok w ∧
      r'.get? (Name.inScope scope target.column) = some w := by
  obtain ⟨first, action, rest, head, own, tail, rfl⟩ := compile_split compiled onRows
  obtain ⟨m, m', reached, wrote, later⟩ := onRow_split ran
  have compiledTarget : action.target? = some (target.inScope scope) := by
    rw [(RowAction.compile_some own).2.2, writes, Option.map_some]
  obtain ⟨v, w, computed, converted, rfl⟩ := RowAction.exists_computed wrote compiledTarget
  refine ⟨v, w, ⟨first, m, action, head, reached, own, computed⟩, converted, ?_⟩
  rw [← targetNames_of_compile tail] at last
  rw [(changesOnly_of_onRow later).values _ last, Row.get?_set]
  exact if_pos rfl

end RowOp

/-! ## Targets of aggregates -/

namespace GroupBy

theorem hasType_of_declared? {v w : Value} {t : ColumnType}
    (h : declared? (some t) v = some w) :
    w = .null ∨ w.HasType t ∧ w.convert t = .ok w := by
  cases v with
  | null =>
      cases h
      exact .inl rfl
  | number | text | boolean =>
      have converted := toOption_eq_some.1 h
      rcases Value.hasType_of_convert converted with typed | ⟨_, _, null⟩
      · exact .inr ⟨typed, Value.convert_convert converted⟩
      · exact .inl null

end GroupBy

namespace Reduction

open GroupBy

variable {mode : EvalMode}

theorem nodup_targets_of_mem {shape : AggregateShape} {as : List Aggregate} {c : Reduction}
    (built : c ∈ ofAggregates shape as)
    (distinct : shape = .wide → (as.map (·.target.column)).Nodup) :
    (c.aggregates.map (·.target.column)).Nodup := by
  have listed : c.aggregates ∈ families shape as := by
    rw [← map_aggregates_ofAggregates]
    exact List.mem_map_of_mem built
  cases shape with
  | narrow =>
      obtain ⟨a, _, alone⟩ := List.mem_map.1 listed
      rw [← alone]
      exact List.nodup_singleton _
  | wide =>
      obtain ⟨list, _, shared⟩ := List.mem_map.1 listed
      rw [← shared]
      exact (distinct rfl).sublist (List.filter_sublist.map _)

theorem exists_result_of_run {c : Reduction} {allowEmpty : Bool} {rows block : List Row}
    (ran : c.run mode allowEmpty rows = .ok block)
    (distinct : (c.aggregates.map (·.target.column)).Nodup) {row : Row} (member : row ∈ block)
    {a : Aggregate} (own : a ∈ c.aggregates) :
    ∃ part w, result? mode allowEmpty a part = some w ∧ row.get? a.target.column = some w := by
  have found := rows?_eq_some.2 ran
  rw [rows?_eq_bind] at found
  obtain ⟨groups, _, each⟩ := Option.bind_eq_some_iff.1 found
  obtain ⟨group, _, result⟩ := mem_of_mapM_eq_some each member
  obtain ⟨w, present⟩ := exists_row?_iff.1 ⟨row, result⟩ a own
  exact ⟨group.map Prod.snd, w, present, (get?_of_result distinct result own).trans present⟩

theorem hasType_of_run {c : Reduction} {allowEmpty : Bool} {rows block : List Row}
    (ran : c.run mode allowEmpty rows = .ok block)
    (distinct : (c.aggregates.map (·.target.column)).Nodup) {row : Row} (member : row ∈ block)
    {a : Aggregate} (own : a ∈ c.aggregates) {t : ColumnType} (declared : a.target.type = some t) :
    ∃ w, row.get? a.target.column = some w ∧ (w = .null ∨ w.HasType t ∧ w.convert t = .ok w) := by
  obtain ⟨part, w, result, held⟩ := exists_result_of_run ran distinct member own
  obtain ⟨_, _, result⟩ := Option.bind_eq_some_iff.1 result
  obtain ⟨_, _, converted⟩ := Option.bind_eq_some_iff.1 result
  rw [declared] at converted
  exact ⟨w, held, hasType_of_declared? converted⟩

end Reduction

/-- Declared types hold on what comes out. Where the last operation on rows that writes a target
declares a type, every row that is left holds there the value that the operation has computed for
it, made one of the type; it is null only as a text, where the computed value was null. In the
narrow shape, and in the wide shape if the targets are pairwise different, every row of an aggregate
whose operation declares a type holds a value of it or null at the target. Converting what is held
to the type once more leaves it as it is, where it is not null. -/
theorem declared_types_hold (scope : Option String) (mode : EvalMode) (ops : List Operation)
    (rows : List Row) :
    (∀ rowOps out, RowOp.compile scope ops = .ok rowOps → RowOp.onRows mode rowOps rows = .ok out →
      ∀ before op after target t, ops = before ++ op :: after → op.isAggregate = false →
        op.target? = some target → target.type = some t →
        Name.inScope scope target.column ∉
          Operation.targetNames scope (Operation.onRows after) →
        ∀ r' ∈ out, ∃ r ∈ rows, RowOp.onRow mode rowOps r = .ok (some r') ∧
          ∃ v w, RowOp.Computed scope mode before op r v ∧
            r'.get? (Name.inScope scope target.column) = some w ∧
            (w.HasType t ∨ t = .string ∧ v = .null ∧ w = .null) ∧ w.convert t = .ok w) ∧
    ∀ config out,
      (config.shape = .wide →
        (Operation.targetNames mode.scope (Operation.aggregates ops)).Nodup) →
      Reduction.reduce config mode ops rows = .ok out →
      ∃ as cs blocks, Aggregate.compileAll mode.scope ops = .ok as ∧
        List.Forall₂ (Aggregate.IsOf mode.scope) (Operation.aggregates ops) as ∧
        cs.map Reduction.aggregates = Reduction.families config.shape as ∧
        List.Forall₂ (fun c block => c.run mode config.emptyGroups rows = .ok block ∧
          ∀ row ∈ block, ∀ a ∈ c.aggregates, a.operation ∈ ops ∧ ∃ target,
            a.operation.target? = some target ∧ ∀ t, target.type = some t →
              ∃ w, row.get? (Name.inScope mode.scope target.column) = some w ∧
                (w = .null ∨ w.HasType t ∧ w.convert t = .ok w)) cs blocks ∧
        blocks.flatten = out := by
  constructor
  · intro rowOps out compiled applied before op after target t split onRows writes declared last
      r' member
    obtain ⟨r, own, ran⟩ := RowStep.exists_of_mem_pass applied member
    subst split
    obtain ⟨v, w, computed, converted, held⟩ :=
      RowOp.exists_converted compiled onRows writes last ran
    rw [declared] at converted
    exact ⟨r, own, ran, v, w, computed, held, Value.hasType_of_convert converted,
      Value.convert_convert converted⟩
  · intro config out distinct reduced
    obtain ⟨as, compiled, blocks, ran, rfl⟩ := Reduction.reduce_eq_blocks.1 reduced
    rw [← Aggregate.targets_of_compileAll compiled] at distinct
    refine ⟨as, _, blocks, compiled, Aggregate.compileAll_eq_ok.1 compiled,
      Reduction.map_aggregates_ofAggregates config.shape as, ?_, rfl⟩
    refine forall₂_imp_of_mem (fun c built block ran => ⟨ran, ?_⟩) ran
    intro row member a own
    obtain ⟨op, listed, isOf⟩ :=
      Aggregate.mem_compileAll compiled (Reduction.mem_ofAggregates built own)
    obtain ⟨target, writes, target_eq⟩ := isOf.exists_target
    rw [isOf.operation_eq]
    refine ⟨listed, target, writes, fun t declared => ?_⟩
    have typed := Reduction.hasType_of_run ran
      (Reduction.nodup_targets_of_mem built distinct) member own (t := t)
    rw [target_eq] at typed
    exact typed declared

/-- The whole part of a price, and the highest price as a text. -/
def pricing : List Operation :=
  [.map "price" ⟨"whole", some .int⟩, .aggregate "max" "price" [] ⟨"most", some .string⟩]

def prices : List Row :=
  [.ofList [("price", .ofCell "-3.7")] none]

def highestPrice : Row :=
  .ofList [("most", .text "-3.7")] none

theorem declared_types_hold_prices :
    (∃ rowOps out, RowOp.compile none pricing = .ok rowOps ∧
      RowOp.onRows {} rowOps prices = .ok out ∧ out.length = 1 ∧
      ∀ r' ∈ out, ∃ w, r'.get? "whole" = some w ∧ w.HasType .int ∧ w.convert .int = .ok w) ∧
    Reduction.reduce { shape := .wide } {} pricing prices = .ok [highestPrice] ∧
      ∃ w, highestPrice.get? "most" = some w ∧ w.HasType .string ∧ w.convert .string = .ok w := by
  obtain ⟨onRows, reduced⟩ := declared_types_hold none {} pricing prices
  constructor
  · have ran : ((RowOp.compile none pricing).bind fun rowOps =>
        RowOp.onRows {} rowOps prices).toOption.map List.length = some 1 := by decide +kernel
    obtain ⟨out, both, one⟩ := Option.map_eq_some_iff.1 ran
    obtain ⟨rowOps, compiled, applied⟩ := bind_eq_ok.1 (toOption_eq_some.1 both)
    refine ⟨rowOps, out, compiled, applied, one, ?_⟩
    intro r' member
    obtain ⟨_, _, _, _, w, _, held, typed, stays⟩ := onRows rowOps out compiled applied [] _ _ _ _
      rfl rfl rfl rfl (by decide +kernel) r' member
    exact ⟨w, held, typed.resolve_right (fun text => nomatch text.1), stays⟩
  · have ran : Reduction.reduce { shape := .wide } {} pricing prices = .ok [highestPrice] :=
      toOption_eq_some.1 (by decide +kernel)
    obtain ⟨_, cs, blocks, _, _, _, each, whole⟩ :=
      reduced { shape := .wide } [highestPrice] (fun _ => by decide +kernel) ran
    obtain ⟨block, listed, member⟩ : ∃ block ∈ blocks, highestPrice ∈ block :=
      List.mem_flatten.1 (whole ▸ List.mem_singleton_self highestPrice)
    obtain ⟨c, _, _, typed⟩ := exists_of_forall₂ each.flip listed
    obtain ⟨own, target, writes, held⟩ := typed highestPrice member c.first List.mem_cons_self
    refine ⟨ran, ?_⟩
    rcases List.mem_pair.1 own with isMap | isAggregate
    · -- The row has no whole part, so it is not that of the first operation.
      rw [isMap] at writes
      cases writes
      obtain ⟨w, held, _⟩ := held _ rfl
      have none : highestPrice.get? "whole" = none := by decide +kernel
      cases none.symm.trans held
    · rw [isAggregate] at writes
      cases writes
      obtain ⟨w, held, null | typed⟩ := held _ rfl
      · exact absurd (null ▸ held) (by decide +kernel)
      · exact ⟨w, held, typed⟩

end RowPipeline
