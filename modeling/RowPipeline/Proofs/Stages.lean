import RowPipeline.Proofs.Stream

/-! # Row by row and stage by stage

All operations are done to a row before the next row is looked at. The rows that come out are those
of doing the first operations to all rows and then the later ones to what is left, wherever the list
of operations is cut in two, and a row that the first ones drop is as good as absent.
-/

namespace RowPipeline

open Outcome

namespace RowOp

variable {mode : EvalMode} {scope : Option String}

theorem compile_append (ops later : List Operation) :
    compile scope (ops ++ later) = (do
      let first ← compile scope ops
      let rest ← compile scope later
      return first ++ rest) := by
  induction ops with
  | nil => simp [compile]
  | cons op ops ih =>
      simp only [List.cons_append, compile, ih, bind_assoc]
      congr 1
      funext action
      cases action with
      | none => rfl
      | some action => simp only [bind_assoc, pure_bind, List.cons_append]

theorem onRow_append (ops later : List RowOp) :
    onRow mode (ops ++ later) = RowStep.andThen (onRow mode ops) (onRow mode later) := by
  funext r
  induction ops generalizing r with
  | nil => simp [RowStep.andThen, onRow]
  | cons op ops ih =>
      simp only [List.cons_append, onRow, RowStep.andThen, bind_assoc] at ih ⊢
      congr 1
      funext kept
      cases kept with
      | none => rfl
      | some r => exact ih r

theorem apply_eq_ok {ops : List Operation} {rows out : List Row} :
    apply mode ops rows = .ok out ↔
      ∃ compiled, compile mode.scope ops = .ok compiled ∧
        RowStep.pass (onRow mode compiled) rows = .ok out :=
  bind_eq_ok

theorem onRow_append_of_dropped {ops later : List RowOp} {r : Row}
    (dropped : onRow mode ops r = .ok none) : onRow mode (ops ++ later) r = .ok none := by
  rw [onRow_append]
  exact RowStep.andThen_eq_ok.2 (.inl ⟨dropped, rfl⟩)

/-- Applying two lists of operations row by row is applying the first list to all rows and the
second to the rows that are left. -/
theorem apply_append_eq_ok {ops later : List Operation} {rows out : List Row} :
    apply mode (ops ++ later) rows = .ok out ↔
      ∃ mid, apply mode ops rows = .ok mid ∧ apply mode later mid = .ok out := by
  simp only [apply_eq_ok, compile_append]
  constructor
  · rintro ⟨_, both, passed⟩
    obtain ⟨first, compiled, rest⟩ := bind_eq_ok.1 both
    obtain ⟨second, compiled', split⟩ := bind_eq_ok.1 rest
    cases split
    rw [onRow_append, RowStep.pass_andThen] at passed
    obtain ⟨mid, before, after⟩ := passed
    exact ⟨mid, ⟨first, compiled, before⟩, second, compiled', after⟩
  · rintro ⟨mid, ⟨first, compiled, before⟩, second, compiled', after⟩
    refine ⟨first ++ second, ?_, ?_⟩
    · exact bind_eq_ok.2 ⟨first, compiled, bind_eq_ok.2 ⟨second, compiled', rfl⟩⟩
    · rw [onRow_append, RowStep.pass_andThen]
      exact ⟨mid, before, after⟩

/-- A row that the first operations drop takes no part in what the later ones come to. -/
theorem apply_append_of_dropped {ops : List Operation} {r : Row}
    (dropped : apply mode ops [r] = .ok []) (later : List Operation) (before after : List Row) :
    apply mode (ops ++ later) (before ++ r :: after) =
      apply mode (ops ++ later) (before ++ after) := by
  obtain ⟨first, compiled, passed⟩ := apply_eq_ok.1 dropped
  have gone := RowStep.pass_singleton_eq_nil.1 passed
  simp only [apply, compile_append, compiled]
  cases compile mode.scope later with
  | error e => rfl
  | ok second => exact RowStep.pass_of_dropped (onRow_append_of_dropped gone) before after

/-- The row comes through the first operations to a filter, and the filter drops it. -/
def RejectedBy (mode : EvalMode) (first : List Operation) (condition : String) (r : Row) : Prop :=
  ∃ r' e, apply mode first [r] = .ok [r'] ∧ Expr.compile condition = .ok e ∧
    (e.eval mode r' >>= Value.holds) = .ok false

theorem RejectedBy.apply_eq_nil {first : List Operation} {condition : String} {r : Row}
    (rejected : RejectedBy mode first condition r) :
    apply mode (first ++ [.filter condition]) [r] = .ok [] := by
  obtain ⟨r', e, reached, compiled, judged⟩ := rejected
  obtain ⟨v, evaluated, holds⟩ := bind_eq_ok.1 judged
  have action : RowAction.compile mode.scope (.filter condition) = .ok (some (.filter e)) :=
    bind_eq_ok.2 ⟨e, compiled, rfl⟩
  have dropped : RowAction.run mode r' (.filter e) = .ok none :=
    bind_eq_ok.2 ⟨v, evaluated, bind_eq_ok.2 ⟨false, holds, rfl⟩⟩
  refine apply_append_eq_ok.2
    ⟨[r'], reached, apply_eq_ok.2 ⟨[⟨.filter e, .filter condition⟩], ?_, ?_⟩⟩
  · exact bind_eq_ok.2 ⟨some (.filter e), mapError_eq_ok.2 action, rfl⟩
  · exact RowStep.pass_singleton_eq_nil.2 (bind_eq_ok.2 ⟨none, mapError_eq_ok.2 dropped, rfl⟩)

/-- Wherever a list of operations is cut in two, the rows that it leaves are those of applying the
second part to what the first part leaves; and a row that a filter of the first part rejects could
as well not be there, whatever the operations behind the filter would do with it. -/
theorem apply_in_stages (mode : EvalMode) (ops later : List Operation) (rows : List Row) :
    (∀ out, apply mode (ops ++ later) rows = .ok out ↔
      ∃ mid, apply mode ops rows = .ok mid ∧ apply mode later mid = .ok out) ∧
    ∀ first condition between, ops = first ++ .filter condition :: between →
      ∀ before r after, rows = before ++ r :: after → RejectedBy mode first condition r →
        apply mode (ops ++ later) rows = apply mode (ops ++ later) (before ++ after) := by
  refine ⟨fun out => apply_append_eq_ok, ?_⟩
  rintro first condition between rfl before r after rfl rejected
  have split : first ++ .filter condition :: between ++ later =
      first ++ [.filter condition] ++ (between ++ later) := by
    simp only [List.append_assoc, List.cons_append, List.nil_append]
  rw [split]
  exact apply_append_of_dropped rejected.apply_eq_nil (between ++ later) before after

def marking : Operation := .map "qty > 5" ⟨"large", none⟩

/-- A share that is not defined for the quantity one. -/
def sharing : Operation := .map "60 / (qty - 1)" ⟨"share", none⟩

def withQuantity (n : Decimal) : Row := .ofList [("qty", .number n)] none

theorem apply_in_stages_sharing :
    RejectedBy {} [marking] "large" (withQuantity .one) ∧
      apply {} ([marking, .filter "large"] ++ [sharing])
          [withQuantity .one, withQuantity ⟨7, 0, by decide, by decide⟩] =
        apply {} ([marking, .filter "large"] ++ [sharing])
          [withQuantity ⟨7, 0, by decide, by decide⟩] := by
  have rejected : RejectedBy {} [marking] "large" (withQuantity .one) :=
    ⟨(withQuantity .one).set "large" (.boolean false), .column (.ofName "large"),
      by decide +kernel, by decide +kernel, by decide +kernel⟩
  exact ⟨rejected, (apply_in_stages {} [marking, .filter "large"] [sharing] _).2
    [marking] "large" [] rfl [] _ [withQuantity _] rfl rejected⟩

end RowOp

end RowPipeline
