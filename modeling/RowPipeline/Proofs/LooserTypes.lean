import RowPipeline.Proofs.CheckedOperations
import RowPipeline.Proofs.KnownColumns

/-! # Checks with looser types

Two registers may know the same columns and differ in their types, where the second leaves open what
the first declares. A check reads a type only to refuse a column, so every step of a check against
the first register is simulated by the same step against the second, and what passes with strict
types passes with looser ones.
-/

namespace RowPipeline

open Outcome

namespace Entries

variable {κ α β : Type} [DecidableEq κ] {R : α → β → Prop} {es : List (κ × α)} {fs : List (κ × β)}

theorem put_forall₂ (h : List.Forall₂ (fun e f => e.1 = f.1 ∧ R e.2 f.2) es fs) (k : κ) {a : α}
    {b : β} (related : R a b) :
    List.Forall₂ (fun e f => e.1 = f.1 ∧ R e.2 f.2) (put k a es) (put k b fs) := by
  induction h with
  | nil => exact .cons ⟨rfl, related⟩ .nil
  | @cons e f es fs head tail ih =>
      obtain ⟨same, _⟩ := id head
      simp only [put, same]
      split
      · exact .cons ⟨rfl, related⟩ tail
      · refine .cons ?_ ih
        exact ⟨rfl, head.2⟩

theorem put_of_get? {k : κ} {a : α} (h : get? k es = some a) : put k a es = es := by
  induction es with
  | nil => cases h
  | cons e es ih =>
      obtain ⟨j, b⟩ := e
      simp only [get?] at h
      simp only [put]
      split at h
      next same =>
        cases h
        rw [if_pos same]
      next other => rw [if_neg other, ih h]

end Entries

/-- The second column has the name of the first, and its type is the same or left open. -/
structure KnownColumn.LoosenedTo (strict loose : KnownColumn) : Prop where
  name : loose.name = strict.name
  type : loose.type = none ∨ loose.type = strict.type

namespace Registry

variable {r s : Registry}

/-- The second register knows the columns of the first in the same order, with looser types. -/
def LoosenedTo (r s : Registry) : Prop :=
  List.Forall₂ (fun e f => e.1 = f.1 ∧ e.2.LoosenedTo f.2) r.columns.entries s.columns.entries

namespace LoosenedTo

theorem refl (r : Registry) : r.LoosenedTo r := by
  apply List.forall₂_same.2
  intro e _
  exact ⟨rfl, rfl, .inr rfl⟩

theorem find? (looser : r.LoosenedTo s) (name : String) :
    Option.Rel KnownColumn.LoosenedTo (r.find? name) (s.find? name) :=
  Entries.get?_forall₂ looser (Text.lower name)

theorem names (looser : r.LoosenedTo s) : s.names = r.names := by
  have same : List.Forall₂ (fun a b : String × KnownColumn => b.2.name = a.2.name)
      r.columns.entries s.columns.entries := looser.imp fun _ _ related => related.2.name
  unfold Registry.names Registry.entries OrderedMap.values
  rw [List.map_map, List.map_map, ← List.forall₂_eq_eq_eq, List.forall₂_map_left_iff,
    List.forall₂_map_right_iff]
  exact List.Forall₂.flip same

theorem columnsOfField (looser : r.LoosenedTo s) (field : String) :
    s.columnsOfField field = r.columnsOfField field := by
  rw [Registry.columnsOfField, Registry.columnsOfField, looser.names]

theorem register (looser : r.LoosenedTo s) (name : String) {strict loose : Option ColumnType}
    (type : loose = none ∨ loose = strict) :
    (r.register name strict).LoosenedTo (s.register name loose) := by
  apply Entries.put_forall₂ looser
  have known := looser.find? name
  revert known
  generalize r.find? name = a, s.find? name = b
  intro known
  cases known with
  | none => exact ⟨rfl, type⟩
  | some related => exact ⟨related.name, type⟩

end LoosenedTo

/-! ## Registers without types -/

def Untyped (r : Registry) : Prop :=
  ∀ name known, r.find? name = some known → known.type = none

theorem untyped_empty : Untyped empty := by
  intro name known found
  cases found

theorem Untyped.registerNew_eq (untyped : s.Untyped) (name : String) :
    s.registerNew name = s.register name none := by
  unfold registerNew
  split
  next present =>
    obtain ⟨known, found⟩ := Option.isSome_iff_exists.1 present
    have isOpen : known.type = none := untyped name known found
    have same : { known with type := none } = known := by rw [← isOpen]
    have kept : s.columns.insert (Text.lower name) known = s.columns :=
      OrderedMap.ext (Entries.put_of_get? found)
    simp only [register, found, Option.getD_some, same, kept]
  next => rfl

theorem Untyped.registerNew (untyped : s.Untyped) (name : String) :
    (s.registerNew name).Untyped := by
  rw [untyped.registerNew_eq]
  intro other known found
  rw [find?, get?_register] at found
  split at found
  · cases found
    rfl
  · exact untyped other known found

/-! ## Names and expressions -/

/-- A name that stands for a column with a strict type stands for the same column with a looser
one: which columns are found does not depend on their types. -/
theorem LoosenedTo.resolve (looser : r.LoosenedTo s) (scope : Option String) (c : ColumnRef) :
    SimulatedBy KnownColumn.LoosenedTo (r.resolve scope c) (s.resolve scope c) := by
  have written := looser.find? c.written
  have either := rel_or (looser.find? (Name.inScope scope c.written)) written
  simp only [Registry.resolve, looser.columnsOfField, looser.names]
  split
  · generalize r.find? c.written = known, s.find? c.written = known' at written ⊢
    cases written with
    | none => exact .error _ _
    | some related => exact .ok related
  · generalize (r.find? (Name.inScope scope c.written)).or (r.find? c.written) = known,
      (s.find? (Name.inScope scope c.written)).or (s.find? c.written) = known' at either ⊢
    cases either with
    | some related => exact .ok related
    | none =>
        rcases r.columnsOfField c.written with _ | ⟨column, _ | ⟨other, rest⟩⟩
        · exact .error _ _
        · have field := looser.find? column
          apply SimulatedBy.ok
          generalize r.find? column = known, s.find? column = known' at field ⊢
          cases field with
          | none => exact ⟨rfl, .inl rfl⟩
          | some related => exact related
        · exact .error _ _

theorem LoosenedTo.checkColumn (looser : r.LoosenedTo s) (scope : Option String)
    (needsBoolean : Bool) (c : ColumnRef) :
    Extends (r.checkColumn scope needsBoolean c) (s.checkColumn scope needsBoolean c) := by
  apply (looser.resolve scope c).bind_extends
  intro strict loose related
  obtain isOpen | same := related.type
  · rw [isOpen]
    intro done _
    rfl
  · rw [same, related.name]
    exact .refl _

theorem LoosenedTo.checkExpr (looser : r.LoosenedTo s) (scope : Option String)
    (isCondition : Bool) (text : String) :
    Extends (r.checkExpr scope isCondition text) (s.checkExpr scope isCondition text) := by
  apply (Extends.refl _).bind
  intro e
  apply (Extends.forM (looser.checkColumn scope (isCondition && !e.compares)) e.columns).bind
  intro _
  exact .refl _

theorem LoosenedTo.checkNumeric (looser : r.LoosenedTo s) (scope : Option String) (e : Expr) :
    Extends (r.checkNumeric scope e) (s.checkNumeric scope e) := by
  cases e with
  | column c =>
      apply (looser.resolve scope c).bind_extends
      intro strict loose related
      obtain isOpen | same := related.type
      · rw [isOpen]
        intro done _
        rfl
      · rw [same, related.name]
        exact .refl _
  | _ => exact .refl _

theorem LoosenedTo.checkBody (looser : r.LoosenedTo s) (scope : Option String) (op : Operation) :
    Extends (r.checkBody scope op) (s.checkBody scope op) := by
  have expr := fun isCondition text => looser.checkExpr scope isCondition text
  cases op with
  | map expression target =>
      exact (expr false expression).bind fun _ => .refl _
  | choose condition whenTrue whenFalse target =>
      apply (expr true condition).bind
      intro _
      apply (expr false whenTrue).bind
      intro _
      exact (expr false whenFalse).bind fun _ => .refl _
  | filter condition =>
      exact (expr true condition).bind fun _ => .refl _
  | aggregate function expression groupBy target =>
      simp only [Registry.checkBody]
      split
      next => exact .refl _
      next f _ =>
        apply (expr false expression).bind
        intro e
        have groups : Extends
            (groupBy.forM fun column => do
              let _ ← r.resolve scope (.ofName (Text.trim column)))
            (groupBy.forM fun column => do
              let _ ← s.resolve scope (.ofName (Text.trim column))) := by
          apply Extends.forM
          intro column
          exact (looser.resolve scope _).bind_extends fun _ _ _ => .refl _
        split
        · exact (looser.checkNumeric scope e).bind fun _ => groups
        · exact groups

end Registry

/-! ## Walks through operations -/

namespace Check

/-- Two walks that have come across the same targets, the second with looser types. -/
structure Progress.LoosenedTo (p q : Progress) : Prop where
  registry : p.registry.LoosenedTo q.registry
  targets : q.targets = p.targets

theorem Progress.LoosenedTo.operation {p q : Progress} (looser : p.LoosenedTo q)
    (scope : Option String) (op : Operation) :
    SimulatedBy Progress.LoosenedTo (operation scope p op) (operation scope q op) := by
  have body := SimulatedBy.ofExtends (looser.registry.checkBody scope op)
  unfold Check.operation
  cases op.target? with
  | none =>
      apply body.bind
      intro _ _ _
      exact .ok looser
  | some target =>
      simp only [looser.targets]
      split
      · exact .error _ _
      · split
        · exact .error _ _
        · apply body.bind
          intro _ _ _
          exact .ok ⟨looser.registry.register _ (.inr rfl), rfl⟩

theorem operations_loosened {r s : Registry} (looser : r.LoosenedTo s) (scope : Option String)
    (ops : List Operation) :
    SimulatedBy Registry.LoosenedTo (operations scope r ops) (operations scope s ops) := by
  have start : Progress.LoosenedTo ⟨r, []⟩ ⟨s, []⟩ := ⟨looser, rfl⟩
  apply (SimulatedBy.foldlM (fun _ _ op related => related.operation scope op) ops start).bind
  intro p q related
  exact .ok related.registry

theorem block_loosened (sources : List Source) {r s : Registry} (looser : r.LoosenedTo s)
    (b : Block) :
    SimulatedBy Registry.LoosenedTo (block sources r b) (block sources s b) := by
  unfold block
  split
  · exact operations_loosened looser _ _
  · exact .error _ _

/-- Leaving the types of known columns open makes no check fail that passed with them. -/
theorem operationsOf_loosened (p : Pipeline) {r s : Registry} (looser : r.LoosenedTo s) :
    SimulatedBy Registry.LoosenedTo (operationsOf p r) (operationsOf p s) := by
  apply (SimulatedBy.ofExtends (.refl (steps p))).bind
  rintro ⟨sources, transform⟩ _ rfl
  have blocks := SimulatedBy.foldlM (fun _ _ b related => block_loosened sources related b)
    transform.blocks looser
  apply blocks.bind
  intro r' s' related
  exact operations_loosened related none transform.operations

end Check

end RowPipeline
