import Mathlib.Data.List.Find
import Mathlib.Tactic.Ring
import RowPipeline.Decimal.Basic

/-! # The order of decimal numbers

Numbers are ordered by value, so two ways of writing one value stand level. Of several least or
greatest numbers of a list one has to be chosen: the first of the least, the last of the greatest.
-/

namespace RowPipeline

namespace Decimal

def atMost (a b : Decimal) : Bool :=
  a.cmp b != .gt

theorem atMost_iff {a b : Decimal} :
    a.atMost b = true ↔ a.mantissa * tenPow b.scale ≤ b.mantissa * tenPow a.scale := by
  rw [atMost, bne_iff_ne, cmp, Int.compare_ne_gt]

theorem tenPow_pos (s : Nat) : (0 : Int) < tenPow s := by
  have h : 0 < 10 ^ s := Nat.pow_pos (by omega)
  exact Int.natCast_pos.2 h

theorem atMost_total {a b : Decimal} (h : ¬a.atMost b = true) : b.atMost a = true := by
  rw [atMost_iff] at h ⊢
  omega

theorem atMost_trans {a b c : Decimal} (hab : a.atMost b = true) (hbc : b.atMost c = true) :
    a.atMost c = true := by
  rw [atMost_iff] at hab hbc ⊢
  have left := Int.mul_le_mul_of_nonneg_right hab (tenPow_pos c.scale).le
  have right := Int.mul_le_mul_of_nonneg_right hbc (tenPow_pos a.scale).le
  refine Int.le_of_mul_le_mul_right ?_ (tenPow_pos b.scale)
  calc a.mantissa * tenPow c.scale * tenPow b.scale
      = a.mantissa * tenPow b.scale * tenPow c.scale := by ring
    _ ≤ b.mantissa * tenPow a.scale * tenPow c.scale := left
    _ = b.mantissa * tenPow c.scale * tenPow a.scale := by ring
    _ ≤ c.mantissa * tenPow b.scale * tenPow a.scale := right
    _ = c.mantissa * tenPow a.scale * tenPow b.scale := by ring

end Decimal

/-! ## The best element of a list -/

section Best

variable {α : Type} {before : α → α → Bool}

/-- The first element that comes before all elements. -/
def firstBest? (before : α → α → Bool) (xs : List α) : Option α :=
  xs.find? fun x => xs.all (before x)

theorem mem_of_firstBest? {xs : List α} {y : α} (h : firstBest? before xs = some y) :
    y ∈ xs ∧ ∀ x ∈ xs, before y x = true := by
  have all : xs.all (before y) = true := by simpa using List.find?_some h
  exact ⟨List.mem_of_find?_eq_some h, List.all_eq_true.1 all⟩

/-- Of any two elements one comes before the other, in a consistent way. -/
structure Ranks (before : α → α → Bool) : Prop where
  total : ∀ {x y}, ¬before x y = true → before y x = true
  trans : ∀ {x y z}, before x y = true → before y z = true → before x z = true

namespace Ranks

theorem refl (ranks : Ranks before) (x : α) : before x x = true := by
  by_contra h
  exact h (ranks.total h)

theorem exists_best (ranks : Ranks before) {xs : List α} (nonempty : xs ≠ []) :
    ∃ y ∈ xs, ∀ x ∈ xs, before y x = true := by
  induction xs with
  | nil => exact absurd rfl nonempty
  | cons x xs ih =>
      by_cases last : xs = []
      · subst last
        exact ⟨x, by simp, by simpa using ranks.refl x⟩
      · obtain ⟨y, member, best⟩ := ih last
        by_cases h : before x y = true
        · refine ⟨x, List.mem_cons_self, List.forall_mem_cons.2 ⟨ranks.refl x, ?_⟩⟩
          exact fun z later => ranks.trans h (best z later)
        · exact ⟨y, List.mem_cons_of_mem _ member, List.forall_mem_cons.2 ⟨ranks.total h, best⟩⟩

theorem firstBest?_eq_none_iff (ranks : Ranks before) {xs : List α} :
    firstBest? before xs = none ↔ xs = [] := by
  constructor
  · intro h
    by_contra nonempty
    obtain ⟨y, member, best⟩ := ranks.exists_best nonempty
    have all : xs.all (before y) = true := List.all_eq_true.2 best
    exact List.find?_eq_none.1 h y member all
  · rintro rfl
    rfl

theorem firstBest?_append_singleton (ranks : Ranks before) (xs : List α) (x : α) :
    firstBest? before (xs ++ [x]) =
      some ((firstBest? before xs).elim x fun y => if before y x then y else x) := by
  cases found : firstBest? before xs with
  | none =>
      obtain rfl := ranks.firstBest?_eq_none_iff.1 found
      simp [firstBest?, ranks.refl x]
  | some y =>
      obtain ⟨member, best⟩ := mem_of_firstBest? found
      simp only [Option.elim_some, firstBest?, List.find?_append]
      by_cases h : before y x = true
      · have same : ∀ z ∈ xs, ((xs ++ [x]).all (before z)) = xs.all (before z) := by
          intro z _
          rw [List.all_append, Bool.and_eq_left_iff_imp]
          intro all
          simpa using ranks.trans (List.all_eq_true.1 all y member) h
        rw [List.find?_congr same, ← firstBest?, found, if_pos h, Option.some_or]
      · have none : xs.find? (fun z => (xs ++ [x]).all (before z)) = none := by
          rw [List.find?_eq_none]
          intro z own all
          exact h (ranks.trans (best z own) (List.all_eq_true.1 all x (by simp)))
        have all : (xs ++ [x]).all (before x) = true := by
          rw [List.all_eq_true]
          intro z listed
          rcases List.mem_append.1 listed with own | last
          · exact ranks.trans (ranks.total h) (best z own)
          · rw [List.mem_singleton.1 last]
            exact ranks.refl x
        rw [none, Option.none_or, if_neg h, List.find?_singleton, if_pos all]

theorem firstBest?_cons (ranks : Ranks before) (x : α) (xs : List α) :
    firstBest? before (x :: xs) =
      some ((firstBest? before xs).elim x fun y => if before x y then x else y) := by
  cases found : firstBest? before xs with
  | none =>
      obtain rfl := ranks.firstBest?_eq_none_iff.1 found
      simp [firstBest?, ranks.refl x]
  | some y =>
      obtain ⟨member, best⟩ := mem_of_firstBest? found
      simp only [Option.elim_some, firstBest?]
      by_cases h : before x y = true
      · have all : (x :: xs).all (before x) = true := by
          rw [List.all_eq_true, List.forall_mem_cons]
          exact ⟨ranks.refl x, fun z own => ranks.trans h (best z own)⟩
        rw [List.find?_cons, all, if_pos h]
      · have later : (x :: xs).all (before x) = false := by
          by_contra all
          rw [Bool.not_eq_false] at all
          exact h (List.all_eq_true.1 all y (List.mem_cons_of_mem _ member))
        have same : ∀ z ∈ xs, ((x :: xs).all (before z)) = xs.all (before z) := by
          intro z _
          rw [List.all_cons, Bool.and_eq_right_iff_imp]
          intro all
          exact ranks.trans (List.all_eq_true.1 all y member) (ranks.total h)
        rw [List.find?_cons, later, List.find?_congr same, ← firstBest?, found, if_neg h]

/-- In another order the best element is one that stands level with it. -/
theorem rel_firstBest? {R : α → α → Prop} (ranks : Ranks before)
    (level : ∀ x y, before x y = true → before y x = true → R x y) {xs ys : List α}
    (perm : xs.Perm ys) : Option.Rel R (firstBest? before xs) (firstBest? before ys) := by
  cases first : firstBest? before xs with
  | none =>
      obtain rfl := ranks.firstBest?_eq_none_iff.1 first
      obtain rfl := perm.nil_eq
      exact .none
  | some x =>
      cases second : firstBest? before ys with
      | none =>
          obtain rfl := ranks.firstBest?_eq_none_iff.1 second
          obtain rfl := perm.eq_nil
          cases first
      | some y =>
          obtain ⟨own, best⟩ := mem_of_firstBest? first
          obtain ⟨other, best'⟩ := mem_of_firstBest? second
          exact .some (level x y (best y (perm.mem_iff.2 other)) (best' x (perm.mem_iff.1 own)))

end Ranks

end Best

namespace Decimal

/-- The least of the numbers, the first of several equal ones. -/
def least? (xs : List Decimal) : Option Decimal :=
  firstBest? atMost xs

/-- The greatest of the numbers, the last of several equal ones. -/
def greatest? (xs : List Decimal) : Option Decimal :=
  firstBest? (fun x y => y.atMost x) xs.reverse

theorem min_eq (a b : Decimal) : a.min b = if a.atMost b then a else b := by
  unfold min atMost
  cases a.cmp b <;> rfl

theorem max_eq (a b : Decimal) : a.max b = if a.atMost b then b else a := by
  unfold max atMost
  cases a.cmp b <;> rfl

theorem ranks_atMost : Ranks atMost where
  total := atMost_total
  trans := atMost_trans

theorem ranks_atLeast : Ranks fun x y : Decimal => y.atMost x where
  total := atMost_total
  trans := fun hxy hyz => atMost_trans hyz hxy

theorem least?_append_singleton (xs : List Decimal) (x : Decimal) :
    least? (xs ++ [x]) = some ((least? xs).elim x fun y => y.min x) := by
  rw [least?, ranks_atMost.firstBest?_append_singleton]
  simp only [min_eq, least?]

theorem greatest?_append_singleton (xs : List Decimal) (x : Decimal) :
    greatest? (xs ++ [x]) = some ((greatest? xs).elim x fun y => y.max x) := by
  rw [greatest?, List.reverse_concat, ranks_atLeast.firstBest?_cons]
  simp only [max_eq, greatest?]

end Decimal

end RowPipeline
