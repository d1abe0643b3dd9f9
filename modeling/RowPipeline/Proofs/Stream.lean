import RowPipeline.Proofs.Outcome
import RowPipeline.RowOp

/-! # Rows on their way through a step

A step changes a row, drops it or fails on it. Passing a list of rows through a step keeps the order
of the rows that are left; two steps in a row are one step; and a step that leaves the rows of one
kind alone can be looked at on the rows of the other kind by themselves.
-/

namespace RowPipeline

open Outcome

/-- What is done to one row: it is changed or dropped, or that fails. -/
abbrev RowStep := Row → Except OperationError (Option Row)

namespace RowStep

/-- The rows that a step leaves, in order. -/
def pass (f : RowStep) (rows : List Row) : Except OperationError (List Row) := do
  let results ← rows.mapM f
  return results.filterMap id

def andThen (f g : RowStep) : RowStep := fun r => do
  match ← f r with
  | some r => g r
  | none => return none

variable {f g : RowStep}

theorem pass_nil (f : RowStep) : pass f [] = .ok [] := rfl

theorem pass_cons_eq_ok {r : Row} {rows out : List Row} :
    pass f (r :: rows) = .ok out ↔
      ∃ kept rest, f r = .ok kept ∧ pass f rows = .ok rest ∧ out = kept.toList ++ rest := by
  simp only [pass, bind_eq_ok, pure_eq_ok, List.mapM_cons]
  constructor
  · rintro ⟨_, ⟨kept, first, results, later, rfl⟩, rfl⟩
    refine ⟨kept, results.filterMap id, first, ⟨results, later, rfl⟩, ?_⟩
    cases kept <;> rfl
  · rintro ⟨kept, _, first, ⟨results, later, rfl⟩, rfl⟩
    refine ⟨kept :: results, ⟨kept, first, results, later, rfl⟩, ?_⟩
    cases kept <;> rfl

theorem pass_error {rows : List Row} {e : OperationError} (h : pass f rows = .error e) :
    ∃ r ∈ rows, f r = .error e := by
  rcases bind_eq_error.1 h with h | ⟨results, _, h⟩
  · exact mapM_eq_error h
  · cases h

theorem exists_of_mem_pass {rows out : List Row} (h : pass f rows = .ok out) {r' : Row}
    (member : r' ∈ out) : ∃ r ∈ rows, f r = .ok (some r') := by
  obtain ⟨results, passed, h⟩ := bind_eq_ok.1 h
  rw [pure_eq_ok] at h
  subst h
  rw [List.mem_filterMap] at member
  obtain ⟨_, listed, rfl⟩ := member
  exact exists_of_mem_mapM passed listed

theorem exists_sublist_of_pass {rows out : List Row} (h : pass f rows = .ok out) :
    ∃ kept : List Row, kept.Sublist rows ∧
      List.Forall₂ (fun r r' => f r = .ok (some r')) kept out := by
  induction rows generalizing out with
  | nil =>
      cases h
      exact ⟨[], List.nil_sublist [], .nil⟩
  | cons r rows ih =>
      obtain ⟨result, rest, step, later, rfl⟩ := pass_cons_eq_ok.1 h
      obtain ⟨kept, sublist, each⟩ := ih later
      cases result with
      | none => exact ⟨kept, sublist.cons r, each⟩
      | some r' => exact ⟨r :: kept, sublist.cons_cons r, .cons step each⟩

theorem andThen_eq_ok {r : Row} {result : Option Row} :
    andThen f g r = .ok result ↔
      (f r = .ok none ∧ result = none) ∨ ∃ r', f r = .ok (some r') ∧ g r' = .ok result := by
  rw [andThen, bind_eq_ok]
  constructor
  · rintro ⟨kept, first, second⟩
    cases kept with
    | none => exact .inl ⟨first, (pure_eq_ok.1 second).symm⟩
    | some r' => exact .inr ⟨r', first, second⟩
  · rintro (⟨first, rfl⟩ | ⟨r', first, second⟩)
    · exact ⟨none, first, rfl⟩
    · exact ⟨some r', first, second⟩

/-- Passing rows through one step and then through another is passing each row through both. -/
theorem pass_andThen {rows out : List Row} :
    pass (andThen f g) rows = .ok out ↔ ∃ mid, pass f rows = .ok mid ∧ pass g mid = .ok out := by
  induction rows generalizing out with
  | nil => simp [pass_nil]
  | cons r rows ih =>
      constructor
      · intro h
        obtain ⟨kept, rest, first, later, rfl⟩ := pass_cons_eq_ok.1 h
        obtain ⟨mid, before, after⟩ := ih.1 later
        rcases andThen_eq_ok.1 first with ⟨dropped, rfl⟩ | ⟨r', step, second⟩
        · exact ⟨mid, pass_cons_eq_ok.2 ⟨none, mid, dropped, before, rfl⟩, after⟩
        · exact ⟨r' :: mid, pass_cons_eq_ok.2 ⟨some r', mid, step, before, rfl⟩,
            pass_cons_eq_ok.2 ⟨kept, rest, second, after, rfl⟩⟩
      · rintro ⟨_, before, after⟩
        obtain ⟨kept, mid, first, later, rfl⟩ := pass_cons_eq_ok.1 before
        cases kept with
        | none =>
            exact pass_cons_eq_ok.2
              ⟨none, out, andThen_eq_ok.2 (.inl ⟨first, rfl⟩), ih.2 ⟨mid, later, after⟩, rfl⟩
        | some r' =>
            obtain ⟨kept, rest, second, passed, rfl⟩ := pass_cons_eq_ok.1 after
            exact pass_cons_eq_ok.2 ⟨kept, rest, andThen_eq_ok.2 (.inr ⟨r', first, second⟩),
              ih.2 ⟨mid, later, passed⟩, rfl⟩

theorem pass_append (f : RowStep) (rows more : List Row) :
    pass f (rows ++ more) = (do
      let kept ← pass f rows
      let rest ← pass f more
      return kept ++ rest) := by
  simp only [pass, List.mapM_append, bind_assoc, pure_bind, List.filterMap_append]

theorem pass_of_dropped {r : Row} (dropped : f r = .ok none) (before after : List Row) :
    pass f (before ++ r :: after) = pass f (before ++ after) := by
  have nothing : pass f [r] = .ok [] := pass_cons_eq_ok.2 ⟨none, [], dropped, rfl, rfl⟩
  have later : pass f (r :: after) = pass f after := by
    rw [← List.singleton_append, pass_append, nothing]
    exact bind_pure (pass f after)
  rw [pass_append, pass_append, later]

theorem pass_singleton_eq_nil {r : Row} : pass f [r] = .ok [] ↔ f r = .ok none := by
  constructor
  · intro h
    obtain ⟨kept, rest, step, last, empty⟩ := pass_cons_eq_ok.1 h
    cases kept with
    | none => exact step
    | some r' => cases empty
  · intro dropped
    exact pass_cons_eq_ok.2 ⟨none, [], dropped, rfl, rfl⟩

/-- The step does something to rows of a kind alone, and what it leaves of them is of that kind. -/
structure Only (p : Row → Bool) (f : RowStep) : Prop where
  other : ∀ {r}, p r = false → f r = .ok (some r)
  own : ∀ {r r'}, p r = true → f r = .ok (some r') → p r' = true

namespace Only

variable {p q : Row → Bool}

/-- The rows of other kinds stay as they are, and those of the kind are passed by themselves. -/
theorem filter_of_pass (only : Only p f) {rows out : List Row} (h : pass f rows = .ok out) :
    out.filter (fun r => !p r) = rows.filter (fun r => !p r) ∧
      pass f (rows.filter p) = .ok (out.filter p) := by
  induction rows generalizing out with
  | nil =>
      cases h
      exact ⟨rfl, rfl⟩
  | cons r rows ih =>
      obtain ⟨kept, rest, first, later, rfl⟩ := pass_cons_eq_ok.1 h
      obtain ⟨others, own⟩ := ih later
      cases kind : p r with
      | false =>
          rw [only.other kind] at first
          cases first
          simpa [kind] using ⟨others, own⟩
      | true =>
          have kinds : ∀ r' ∈ kept.toList, p r' = true := by
            intro r' member
            rw [Option.mem_toList] at member
            exact only.own kind (member ▸ first)
          have none : kept.toList.filter (fun r => !p r) = [] := by
            simpa using kinds
          have all : kept.toList.filter p = kept.toList := List.filter_eq_self.2 kinds
          rw [List.filter_append, none, List.filter_cons_of_neg (by simp [kind]), List.nil_append,
            List.filter_append, all, List.filter_cons_of_pos kind]
          exact ⟨others, pass_cons_eq_ok.2 ⟨kept, _, first, own, rfl⟩⟩

theorem exists_pass (only : Only p f) {rows own : List Row}
    (h : pass f (rows.filter p) = .ok own) : ∃ out, pass f rows = .ok out := by
  induction rows generalizing own with
  | nil => exact ⟨[], rfl⟩
  | cons r rows ih =>
      cases kind : p r with
      | false =>
          rw [List.filter_cons_of_neg (by simp [kind])] at h
          obtain ⟨out, passed⟩ := ih h
          exact ⟨r :: out, pass_cons_eq_ok.2 ⟨some r, out, only.other kind, passed, rfl⟩⟩
      | true =>
          rw [List.filter_cons_of_pos kind] at h
          obtain ⟨kept, rest, first, later, _⟩ := pass_cons_eq_ok.1 h
          obtain ⟨out, passed⟩ := ih later
          exact ⟨kept.toList ++ out, pass_cons_eq_ok.2 ⟨kept, out, first, passed, rfl⟩⟩

/-- Steps for rows of different kinds can be exchanged. -/
theorem andThen_comm (only : Only p f) (only' : Only q g)
    (apart : ∀ r, p r = true → q r = false) (r : Row) : andThen f g r = andThen g f r := by
  cases kind : p r with
  | true =>
      have first : andThen g f r = f r := by
        rw [andThen, only'.other (apart r kind)]
        rfl
      rw [first, andThen]
      cases step : f r with
      | error e => rfl
      | ok kept =>
          cases kept with
          | none => rfl
          | some r' => exact only'.other (apart r' (only.own kind step))
  | false =>
      have second : andThen f g r = g r := by
        rw [andThen, only.other kind]
        rfl
      rw [second, andThen]
      cases step : g r with
      | error e => rfl
      | ok kept =>
          cases kept with
          | none => rfl
          | some r' =>
              refine (only.other ?_).symm
              cases kind' : q r with
              | true =>
                  by_contra own
                  have apart' := apart r' (by simpa using own)
                  simp [only'.own kind' step] at apart'
              | false =>
                  rw [only'.other kind'] at step
                  cases step
                  exact kind

end Only

end RowStep

end RowPipeline
