import Mathlib.Data.List.Forall2
import Mathlib.Data.List.Perm.Basic

/-! # Outcomes of computations that may fail

A computation that succeeded went through steps that all succeeded, and one that failed has a step
that failed first. What happened at a step is read off the outcome here, once for each way of
putting steps together, so that no later proof opens a computation by hand.
-/

namespace RowPipeline.Outcome

variable {ε ε' α β γ σ : Type}

instance decidableEq [DecidableEq ε] [DecidableEq α] : DecidableEq (Except ε α)
  | .ok a, .ok b => decidable_of_iff (a = b) ⟨congrArg _, Except.ok.inj⟩
  | .error d, .error e => decidable_of_iff (d = e) ⟨congrArg _, Except.error.inj⟩
  | .ok _, .error _ => isFalse nofun
  | .error _, .ok _ => isFalse nofun

theorem bind_eq_ok {x : Except ε α} {f : α → Except ε β} {b : β} :
    (x >>= f) = .ok b ↔ ∃ a, x = .ok a ∧ f a = .ok b := by
  cases x <;> simp [bind, Except.bind]

theorem bind_eq_error {x : Except ε α} {f : α → Except ε β} {e : ε} :
    (x >>= f) = .error e ↔ x = .error e ∨ ∃ a, x = .ok a ∧ f a = .error e := by
  cases x <;> simp [bind, Except.bind]

theorem bind_congr_of_ok {x : Except ε α} {f g : α → Except ε β}
    (same : ∀ a, x = .ok a → f a = g a) : x >>= f = x >>= g := by
  cases x with
  | error => rfl
  | ok a => exact same a rfl

theorem map_eq_ok {x : Except ε α} {f : α → β} {b : β} :
    x.map f = .ok b ↔ ∃ a, x = .ok a ∧ f a = b := by
  cases x <;> simp [Except.map]

theorem map_eq_error {x : Except ε α} {f : α → β} {e : ε} :
    x.map f = .error e ↔ x = .error e := by
  cases x <;> simp [Except.map]

theorem mapError_eq_ok {x : Except ε α} {f : ε → ε'} {a : α} :
    x.mapError f = .ok a ↔ x = .ok a := by
  cases x <;> simp [Except.mapError]

theorem mapError_eq_error {x : Except ε α} {f : ε → ε'} {e : ε'} :
    x.mapError f = .error e ↔ ∃ d, x = .error d ∧ f d = e := by
  cases x <;> simp [Except.mapError]

@[simp] theorem pure_eq_ok {a b : α} : (pure a : Except ε α) = .ok b ↔ a = b := by
  simp [pure, Except.pure]

@[simp] theorem pure_ne_error {a : α} {e : ε} : (pure a : Except ε α) ≠ .error e := by
  simp [pure, Except.pure]

/-- A pass over a list succeeds just if every element does; the results stand in the same order. -/
theorem mapM_eq_ok {f : α → Except ε β} {xs : List α} {ys : List β} :
    xs.mapM f = .ok ys ↔ List.Forall₂ (fun x y => f x = .ok y) xs ys := by
  induction xs generalizing ys with
  | nil => simp [pure, Except.pure, eq_comm]
  | cons x xs ih =>
      simp only [List.mapM_cons, bind_eq_ok, pure_eq_ok, List.forall₂_cons_left_iff, ih]
      constructor
      · rintro ⟨y, hy, ys', hys, rfl⟩
        exact ⟨y, ys', hy, hys, rfl⟩
      · rintro ⟨y, ys', hy, hys, rfl⟩
        exact ⟨y, hy, ys', hys, rfl⟩

theorem mapM_eq_error {f : α → Except ε β} {xs : List α} {e : ε} (h : xs.mapM f = .error e) :
    ∃ x ∈ xs, f x = .error e := by
  induction xs with
  | nil => simp [pure, Except.pure] at h
  | cons x xs ih =>
      simp only [List.mapM_cons, bind_eq_error, pure_ne_error, and_false, exists_false,
        or_false] at h
      obtain h | ⟨y, _, h⟩ := h
      · exact ⟨x, by simp, h⟩
      · obtain ⟨x', hx', h'⟩ := ih h
        exact ⟨x', by simp [hx'], h'⟩

theorem exists_of_forall₂ {R : α → β → Prop} {xs : List α} {ys : List β}
    (h : List.Forall₂ R xs ys) {x : α} (member : x ∈ xs) : ∃ y ∈ ys, R x y := by
  induction h with
  | nil => cases member
  | @cons x' y xs ys head _ ih =>
      rcases List.mem_cons.1 member with rfl | member
      · exact ⟨y, List.mem_cons_self, head⟩
      · obtain ⟨y', listed, related⟩ := ih member
        exact ⟨y', List.mem_cons_of_mem y listed, related⟩

theorem forall₂_comp {R : α → β → Prop} {S : β → γ → Prop} {xs : List α}
    {ys : List β} {zs : List γ} (h : List.Forall₂ R xs ys) (h' : List.Forall₂ S ys zs) :
    List.Forall₂ (fun x z => ∃ y, R x y ∧ S y z) xs zs := by
  induction h generalizing zs with
  | nil =>
      cases h'
      exact .nil
  | cons head _ ih =>
      cases h' with
      | cons head' later => exact .cons ⟨_, head, head'⟩ (ih later)

theorem forall₂_imp_of_mem {R S : α → β → Prop} {xs : List α} {ys : List β}
    (imp : ∀ x ∈ xs, ∀ y, R x y → S x y) (h : List.Forall₂ R xs ys) : List.Forall₂ S xs ys := by
  induction h with
  | nil => exact .nil
  | @cons x y xs ys head _ ih =>
      refine .cons (imp x List.mem_cons_self y head) (ih ?_)
      intro x' member
      exact imp x' (List.mem_cons_of_mem x member)

theorem forall₂_of_zip {R : α → β → Prop} {S : α × β → γ → Prop} {xs : List α}
    {ys : List β} {zs : List γ} (h : List.Forall₂ R xs ys) (h' : List.Forall₂ S (xs.zip ys) zs) :
    List.Forall₂ (fun x z => ∃ y, R x y ∧ S (x, y) z) xs zs := by
  induction h generalizing zs with
  | nil =>
      cases h'
      exact .nil
  | cons head _ ih =>
      cases h' with
      | cons head' later => exact .cons ⟨_, head, head'⟩ (ih later)

theorem forall₂_zip {R : α → β → Prop} {S : α → γ → Prop} {xs : List α} {ys : List β} {zs : List γ}
    (h : List.Forall₂ R xs ys) (h' : List.Forall₂ S xs zs) :
    List.Forall₂ (fun x p => R x p.1 ∧ S x p.2) xs (ys.zip zs) := by
  induction h generalizing zs with
  | nil => exact .nil
  | cons head _ ih =>
      cases h' with
      | cons head' later => exact .cons ⟨head, head'⟩ (ih later)

theorem exists_of_mem_zip {R : α → β → Prop} {xs : List α} {ys : List β}
    (h : List.Forall₂ R xs ys) {p : α × β} (member : p ∈ xs.zip ys) : p.1 ∈ xs ∧ R p.1 p.2 :=
  ⟨(List.of_mem_zip member).1, List.forall₂_iff_zip.1 h |>.2 member⟩

theorem exists_of_mem_mapM {f : α → Except ε β} {xs : List α} {ys : List β}
    (h : xs.mapM f = .ok ys) {y : β} (member : y ∈ ys) : ∃ x ∈ xs, f x = .ok y := by
  induction mapM_eq_ok.1 h with
  | nil => cases member
  | cons first _ ih =>
      rcases List.mem_cons.1 member with rfl | member
      · exact ⟨_, List.mem_cons_self, first⟩
      · obtain ⟨x, listed, hx⟩ := ih (mapM_eq_ok.2 ‹_›) member
        exact ⟨x, List.mem_cons_of_mem _ listed, hx⟩

theorem forM_eq_ok {f : α → Except ε Unit} {xs : List α} :
    xs.forM f = .ok () ↔ ∀ x ∈ xs, f x = .ok () := by
  induction xs with
  | nil => simp [pure, Except.pure]
  | cons x xs ih =>
      change (f x >>= fun _ => xs.forM f) = .ok () ↔ _
      rw [bind_eq_ok, List.forall_mem_cons, ← ih]
      exact ⟨fun ⟨_, head, tail⟩ => ⟨head, tail⟩, fun ⟨head, tail⟩ => ⟨(), head, tail⟩⟩

theorem foldlM_invariant {f : σ → α → Except ε σ} {xs : List α} {s t : σ} (inv : σ → Prop)
    (start : inv s) (step : ∀ s x t, x ∈ xs → inv s → f s x = .ok t → inv t)
    (h : xs.foldlM f s = .ok t) : inv t := by
  induction xs generalizing s with
  | nil =>
      simp only [List.foldlM_nil, pure_eq_ok] at h
      exact h ▸ start
  | cons x xs ih =>
      simp only [List.foldlM_cons, bind_eq_ok] at h
      obtain ⟨m, hm, h⟩ := h
      exact ih (step s x m (by simp) start hm)
        (fun s y t hy => step s y t (List.mem_cons_of_mem x hy)) h

theorem foldlM_eq_error_split {f : σ → α → Except ε σ} {xs : List α} {s : σ} {e : ε}
    (h : xs.foldlM f s = .error e) :
    ∃ before x after m, xs = before ++ x :: after ∧ before.foldlM f s = .ok m ∧
      f m x = .error e := by
  induction xs generalizing s with
  | nil => simp [pure, Except.pure] at h
  | cons x xs ih =>
      rcases bind_eq_error.1 h with h | ⟨m, first, h⟩
      · exact ⟨[], x, xs, s, rfl, rfl, h⟩
      · obtain ⟨before, y, after, n, rfl, led, failed⟩ := ih h
        exact ⟨x :: before, y, after, n, rfl, bind_eq_ok.2 ⟨m, first, led⟩, failed⟩

theorem foldlM_eq_error {f : σ → α → Except ε σ} {xs : List α} {s : σ} {e : ε}
    (h : xs.foldlM f s = .error e) : ∃ x ∈ xs, ∃ m, f m x = .error e := by
  obtain ⟨before, x, after, m, rfl, _, failed⟩ := foldlM_eq_error_split h
  exact ⟨x, List.mem_append_right _ List.mem_cons_self, m, failed⟩

theorem foldlM_append_eq_ok {f : σ → α → Except ε σ} {xs ys : List α} {s t : σ} :
    (xs ++ ys).foldlM f s = .ok t ↔ ∃ m, xs.foldlM f s = .ok m ∧ ys.foldlM f m = .ok t := by
  rw [List.foldlM_append, bind_eq_ok]

/-- Steps that can be exchanged two by two can be taken in any order. -/
theorem foldlM_eq_ok_of_perm {f : σ → α → Except ε σ} {rel : α → α → Prop}
    (symm : ∀ {x y}, rel x y → rel y x)
    (exchange : ∀ {x y}, rel x y → ∀ {s t}, (∃ m, f s x = .ok m ∧ f m y = .ok t) →
      ∃ m, f s y = .ok m ∧ f m x = .ok t)
    {xs ys : List α} (perm : xs.Perm ys) (pairwise : xs.Pairwise rel) {s t : σ}
    (h : xs.foldlM f s = .ok t) : ys.foldlM f s = .ok t := by
  induction perm generalizing s with
  | nil => exact h
  | cons x _ ih =>
      obtain ⟨m, step, rest⟩ := bind_eq_ok.1 h
      exact bind_eq_ok.2 ⟨m, step, ih (List.pairwise_cons.1 pairwise).2 rest⟩
  | swap x y xs =>
      obtain ⟨m, first, h⟩ := bind_eq_ok.1 h
      obtain ⟨n, second, rest⟩ := bind_eq_ok.1 h
      have related := (List.pairwise_cons.1 pairwise).1 x List.mem_cons_self
      obtain ⟨m', first', second'⟩ := exchange related ⟨m, first, second⟩
      exact bind_eq_ok.2 ⟨m', first', bind_eq_ok.2 ⟨n, second', rest⟩⟩
  | trans perm _ ih₁ ih₂ =>
      exact ih₂ ((perm.pairwise_iff symm).1 pairwise) (ih₁ pairwise h)

/-! ## Success alone

Where it does not matter why a computation failed, it is compared as an optional result. Optional
steps may be reordered, since one failure is like another.
-/

theorem toOption_eq_some {x : Except ε α} {a : α} : x.toOption = some a ↔ x = .ok a := by
  cases x <;> simp [Except.toOption]

theorem isSome_toOption_iff {x : Except ε α} : x.toOption.isSome = true ↔ ∃ a, x = .ok a := by
  cases x <;> simp [Except.toOption]

@[simp] theorem toOption_pure (a : α) : (pure a : Except ε α).toOption = some a := rfl

theorem toOption_bind (x : Except ε α) (f : α → Except ε β) :
    (x >>= f).toOption = x.toOption.bind fun a => (f a).toOption := by
  cases x <;> rfl

theorem toOption_map (x : Except ε α) (f : α → β) : (x.map f).toOption = x.toOption.map f := by
  cases x <;> rfl

theorem toOption_mapError (x : Except ε α) (f : ε → ε') :
    (x.mapError f).toOption = x.toOption := by
  cases x <;> rfl

theorem toOption_mapM (f : α → Except ε β) (xs : List α) :
    (xs.mapM f).toOption = xs.mapM fun x => (f x).toOption := by
  induction xs with
  | nil => rfl
  | cons x xs ih =>
      rw [List.mapM_cons, List.mapM_cons, toOption_bind]
      refine Option.bind_congr fun y _ => ?_
      rw [toOption_bind, ih]
      rfl

theorem toOption_foldlM (f : σ → α → Except ε σ) (xs : List α) (s : σ) :
    (xs.foldlM f s).toOption = xs.foldlM (fun s x => (f s x).toOption) s := by
  induction xs generalizing s with
  | nil => rfl
  | cons x xs ih =>
      rw [List.foldlM_cons, List.foldlM_cons, toOption_bind]
      exact Option.bind_congr fun t _ => ih t

/-- What the elements contribute can be found for all of them before any of it is taken in. -/
theorem foldlM_option_bind (f : α → Option β) (g : σ → β → Option σ) (xs : List α) (s : σ) :
    (xs.foldlM (fun s x => (f x).bind (g s)) s) = (xs.mapM f).bind fun ys => ys.foldlM g s := by
  induction xs generalizing s with
  | nil => rfl
  | cons x xs ih =>
      simp only [List.foldlM_cons, List.mapM_cons, ih, Option.bind_eq_bind, Option.pure_def,
        Option.bind_assoc, Option.bind_some]
      cases f x with
      | none => rfl
      | some y =>
          simp only [Option.bind_some]
          rw [Option.bind_comm]

theorem mapM_eq_none {f : α → Option β} {xs : List α} {x : α} (member : x ∈ xs)
    (failed : f x = none) : xs.mapM f = none := by
  induction xs with
  | nil => simp at member
  | cons y ys ih =>
      rw [List.mapM_cons]
      rcases List.mem_cons.1 member with rfl | member
      · simp [failed]
      · simp [ih member]

theorem mapM_eq_some_iff {f : α → Option β} {xs : List α} {ys : List β} :
    xs.mapM f = some ys ↔ xs.map f = ys.map some := by
  induction xs generalizing ys with
  | nil => cases ys <;> simp
  | cons x xs ih => cases ys <;> simp [Option.bind_eq_some_iff, ih]

theorem mapM_eq_some {f : α → Option β} {xs : List α} {ys : List β} :
    xs.mapM f = some ys ↔ List.Forall₂ (fun x y => f x = some y) xs ys := by
  rw [mapM_eq_some_iff, ← List.forall₂_eq_eq_eq, List.forall₂_map_left_iff,
    List.forall₂_map_right_iff]

theorem mem_of_mapM_eq_some {f : α → Option β} {xs : List α} {ys : List β}
    (h : xs.mapM f = some ys) {y : β} (member : y ∈ ys) : ∃ x ∈ xs, f x = some y := by
  have listed : some y ∈ xs.map f := mapM_eq_some_iff.1 h ▸ List.mem_map_of_mem member
  exact List.mem_map.1 listed

theorem exists_mapM_iff {f : α → Option β} {xs : List α} :
    (∃ ys, xs.mapM f = some ys) ↔ ∀ x ∈ xs, ∃ y, f x = some y := by
  induction xs with
  | nil => simp
  | cons x xs ih =>
      simp only [List.mapM_cons, Option.bind_eq_bind, Option.pure_def, Option.bind_eq_some_iff,
        Option.some.injEq, List.forall_mem_cons, ← ih]
      constructor
      · rintro ⟨_, y, first, ys, later, -⟩
        exact ⟨⟨y, first⟩, ys, later⟩
      · rintro ⟨⟨y, first⟩, ys, later⟩
        exact ⟨y :: ys, y, first, ys, later, rfl⟩

theorem mapM_perm {f : α → Option β} {xs xs' : List α} {ys : List β}
    (perm : xs'.Perm xs) (h : xs.mapM f = some ys) :
    ∃ ys', xs'.mapM f = some ys' ∧ ys'.Perm ys := by
  have each : ∀ x ∈ xs', ∃ y, f x = some y :=
    fun x member => exists_mapM_iff.1 ⟨ys, h⟩ x (perm.subset member)
  obtain ⟨ys', h'⟩ := exists_mapM_iff.2 each
  refine ⟨ys', h', ?_⟩
  have listed : (ys'.map some).Perm (ys.map some) := by
    rw [← mapM_eq_some_iff.1 h, ← mapM_eq_some_iff.1 h']
    exact perm.map f
  exact (List.map_perm_map_iff fun _ _ => Option.some.inj).1 listed

theorem mapM_congr {f g : α → Option β} {xs : List α} (same : ∀ x ∈ xs, f x = g x) :
    xs.mapM f = xs.mapM g := by
  induction xs with
  | nil => rfl
  | cons x xs ih =>
      obtain ⟨first, later⟩ := List.forall_mem_cons.1 same
      rw [List.mapM_cons, List.mapM_cons, first, ih later]

theorem map_mapM (f : α → Option β) (g : β → γ) (xs : List α) :
    (xs.mapM f).map (List.map g) = xs.mapM fun x => (f x).map g := by
  induction xs with
  | nil => rfl
  | cons x xs ih =>
      rw [List.mapM_cons, List.mapM_cons, ← ih]
      cases f x with
      | none => rfl
      | some y => cases xs.mapM f <;> rfl

theorem mapM_bind_mapM (f : α → Option β) (g : β → Option γ) (xs : List α) :
    ((xs.mapM f).bind fun ys => ys.mapM g) = xs.mapM fun x => (f x).bind g := by
  induction xs with
  | nil => rfl
  | cons x xs ih =>
      simp only [List.mapM_cons, ← ih, Option.bind_eq_bind, Option.pure_def, Option.bind_assoc,
        Option.bind_some]
      refine Option.bind_congr fun y _ => ?_
      rw [Option.bind_comm]

theorem mapM_bind_zip_mapM (f : α → Option β) (g : α × β → Option γ) (xs : List α) :
    ((xs.mapM f).bind fun ys => (xs.zip ys).mapM g) =
      xs.mapM fun x => (f x).bind fun y => g (x, y) := by
  induction xs with
  | nil => rfl
  | cons x xs ih =>
      simp only [List.mapM_cons, ← ih, Option.bind_eq_bind, Option.pure_def, Option.bind_assoc,
        Option.bind_some, List.zip_cons_cons]
      refine Option.bind_congr fun y _ => ?_
      rw [Option.bind_comm]

theorem length_of_mapM {f : α → Option β} {xs : List α} {ys : List β} (h : xs.mapM f = some ys) :
    ys.length = xs.length := by
  induction xs generalizing ys with
  | nil =>
      simp only [List.mapM_nil, Option.pure_def, Option.some.injEq] at h
      subst h
      rfl
  | cons x xs ih =>
      simp only [List.mapM_cons, Option.bind_eq_bind, Option.pure_def, Option.bind_eq_some_iff,
        Option.some.injEq] at h
      obtain ⟨y, _, ys, hys, rfl⟩ := h
      rw [List.length_cons, List.length_cons, ih hys]

/-- A walk that keeps a state for each of several observers is a walk for each of them. -/
theorem foldlM_zip_mapM (f : α → β → σ → Option σ) (xs : List α) (os : List β) (ss : List σ)
    (length : ss.length = os.length) :
    xs.foldlM (fun ss x => (os.zip ss).mapM fun p => f x p.1 p.2) ss =
      (os.zip ss).mapM fun p => xs.foldlM (fun s x => f x p.1 s) p.2 := by
  induction xs generalizing ss with
  | nil =>
      have snd : (os.zip ss).map Prod.snd = ss := List.map_snd_zip (by omega)
      rw [List.foldlM_nil]
      conv_lhs => rw [← snd]
      exact (List.mapM_pure ..).symm
  | cons x xs ih =>
      have fst : (os.zip ss).map Prod.fst = os := List.map_fst_zip (by omega)
      rw [List.foldlM_cons, Option.bind_eq_bind]
      refine Eq.trans (Option.bind_congr fun ss' step => ?_) (mapM_bind_zip_mapM _
        (fun q : (β × σ) × σ => xs.foldlM (fun s x => f x q.1.1 s) q.2) _)
      have length' : ss'.length = os.length := by
        rw [length_of_mapM step, List.length_zip]
        omega
      rw [ih ss' length']
      conv_lhs => rw [← fst, List.zip_map_left, List.mapM_map]
      rfl

/-! ## Related optional results

Both of two computations fail, or both have results, which are then related.
-/

section Related

variable {R : α → β → Prop} {S : γ → σ → Prop}

theorem exists_iff_of_rel {x : Option α} {y : Option β} (h : Option.Rel R x y) :
    (∃ a, x = some a) ↔ ∃ b, y = some b := by
  cases h with
  | none => exact ⟨nofun, nofun⟩
  | some => exact ⟨fun _ => ⟨_, rfl⟩, fun _ => ⟨_, rfl⟩⟩

theorem exists_of_rel {x : Option α} {y : Option β} (h : Option.Rel R x y) {a : α}
    (some : x = some a) : ∃ b, y = .some b ∧ R a b := by
  cases h with
  | none => cases some
  | some related =>
      cases some
      exact ⟨_, rfl, related⟩

theorem map_eq_of_rel {x : Option α} {y : Option β} (h : Option.Rel R x y) {f : α → γ} {g : β → γ}
    (same : ∀ a b, R a b → f a = g b) : x.map f = y.map g := by
  cases h with
  | none => rfl
  | some related => exact congrArg some (same _ _ related)

theorem rel_refl {T : α → α → Prop} (refl : ∀ a, T a a) (x : Option α) : Option.Rel T x x := by
  cases x with
  | none => exact .none
  | some a => exact .some (refl a)

theorem rel_or {a a' : Option α} {b b' : Option β} (first : Option.Rel R a b)
    (second : Option.Rel R a' b') : Option.Rel R (a.or a') (b.or b') := by
  cases first with
  | none => exact second
  | some related => exact .some related

theorem rel_bind {x : Option α} {y : Option β} {f : α → Option γ} {g : β → Option σ}
    (first : Option.Rel R x y)
    (later : ∀ a b, x = some a → R a b → Option.Rel S (f a) (g b)) :
    Option.Rel S (x.bind f) (y.bind g) := by
  cases first with
  | none => exact .none
  | some related => exact later _ _ rfl related

theorem rel_mapM {f : α → Option γ} {g : β → Option σ} {xs : List α} {ys : List β}
    (h : List.Forall₂ R xs ys) (each : ∀ x ∈ xs, ∀ y, R x y → Option.Rel S (f x) (g y)) :
    Option.Rel (List.Forall₂ S) (xs.mapM f) (ys.mapM g) := by
  induction h with
  | nil => exact .some .nil
  | cons first _ ih =>
      obtain ⟨own, rest⟩ := List.forall_mem_cons.1 each
      rw [List.mapM_cons, List.mapM_cons]
      apply rel_bind (own _ first)
      intro _ _ _ related
      apply rel_bind (ih rest)
      intro _ _ _ later
      exact .some (.cons related later)

theorem rel_mapM_of_perm (f : α → Option β) {xs xs' : List α} (perm : xs.Perm xs') :
    Option.Rel List.Perm (xs.mapM f) (xs'.mapM f) := by
  cases found : xs'.mapM f with
  | none =>
      cases found' : xs.mapM f with
      | none => exact .none
      | some ys =>
          obtain ⟨ys', own, -⟩ := mapM_perm perm.symm found'
          rw [found] at own
          cases own
  | some ys' =>
      obtain ⟨ys, own, order⟩ := mapM_perm perm found
      rw [own]
      exact .some order

/-- Each element of the first list stands beside one of the second, which has them in some order. -/
def Rearranged (R : α → β → Prop) (xs : List α) (ys : List β) : Prop :=
  ∃ placed, List.Forall₂ R xs placed ∧ placed.Perm ys

theorem Rearranged.rel_mapM {f : α → Option γ} {g : β → Option σ} {xs : List α} {ys : List β}
    (h : Rearranged R xs ys) (each : ∀ x y, R x y → Option.Rel S (f x) (g y)) :
    Option.Rel (Rearranged S) (xs.mapM f) (ys.mapM g) := by
  obtain ⟨placed, beside, perm⟩ := h
  have first := Outcome.rel_mapM beside fun x _ => each x
  have second := rel_mapM_of_perm g perm
  generalize xs.mapM f = x, placed.mapM g = y, ys.mapM g = z at first second ⊢
  cases first with
  | none =>
      cases second
      exact .none
  | some related =>
      cases second with
      | some order => exact .some ⟨_, related, order⟩

end Related

/-! ## Extension

One computation extends another if it comes to the same wherever the other succeeds. Putting steps
together keeps that.
-/

/-- What the first computation comes to, the second comes to as well. -/
def Extends (x y : Except ε α) : Prop :=
  ∀ a, x = .ok a → y = .ok a

namespace Extends

theorem refl (x : Except ε α) : Extends x x :=
  fun _ h => h

theorem bind {x y : Except ε α} {f g : α → Except ε β} (first : Extends x y)
    (later : ∀ a, Extends (f a) (g a)) : Extends (x >>= f) (y >>= g) := by
  intro b h
  obtain ⟨a, hx, hf⟩ := bind_eq_ok.1 h
  exact bind_eq_ok.2 ⟨a, first a hx, later a b hf⟩

theorem mapError {x y : Except ε α} (h : Extends x y) (f : ε → ε') :
    Extends (x.mapError f) (y.mapError f) := by
  intro a hx
  exact mapError_eq_ok.2 (h a (mapError_eq_ok.1 hx))

theorem mapM {f g : α → Except ε β} (each : ∀ x, Extends (f x) (g x)) (xs : List α) :
    Extends (xs.mapM f) (xs.mapM g) := by
  intro ys h
  exact mapM_eq_ok.2 ((mapM_eq_ok.1 h).imp fun x y => each x y)

theorem foldlM {f g : σ → α → Except ε σ} (step : ∀ s x, Extends (f s x) (g s x)) (xs : List α)
    (s : σ) : Extends (xs.foldlM f s) (xs.foldlM g s) := by
  induction xs generalizing s with
  | nil => exact refl _
  | cons x xs ih =>
      rw [List.foldlM_cons, List.foldlM_cons]
      exact (step s x).bind ih

theorem forM {f g : α → Except ε Unit} (each : ∀ x, Extends (f x) (g x)) (xs : List α) :
    Extends (xs.forM f) (xs.forM g) := by
  induction xs with
  | nil => exact refl _
  | cons x xs ih => exact (each x).bind fun _ => ih

end Extends

/-! ## Simulation

One computation is simulated by another if wherever it succeeds the other succeeds as well, with a
result that is related to its own. The two may start from different states, as long as these are
related too.
-/

/-- Where the first computation succeeds, so does the second, and their results are related. -/
def SimulatedBy (R : α → β → Prop) (x : Except ε α) (y : Except ε' β) : Prop :=
  ∀ a, x = .ok a → ∃ b, y = .ok b ∧ R a b

namespace SimulatedBy

variable {σ' : Type} {R : α → β → Prop} {S : σ → σ' → Prop}

theorem ok {a : α} {b : β} (related : R a b) :
    SimulatedBy R (.ok a : Except ε α) (.ok b : Except ε' β) := by
  intro a' h
  cases h
  exact ⟨b, rfl, related⟩

theorem error (e : ε) (y : Except ε' β) : SimulatedBy R (.error e) y := by
  intro a h
  cases h

theorem ofExtends {x y : Except ε α} (h : Extends x y) : SimulatedBy (· = ·) x y := by
  intro a hx
  exact ⟨a, h a hx, rfl⟩

theorem bind {x : Except ε α} {y : Except ε' β} {f : α → Except ε σ} {g : β → Except ε' σ'}
    (first : SimulatedBy R x y) (later : ∀ a b, R a b → SimulatedBy S (f a) (g b)) :
    SimulatedBy S (x >>= f) (y >>= g) := by
  intro s h
  obtain ⟨a, hx, hf⟩ := bind_eq_ok.1 h
  obtain ⟨b, hy, related⟩ := first a hx
  obtain ⟨t, hg, related'⟩ := later a b related s hf
  exact ⟨t, bind_eq_ok.2 ⟨b, hy, hg⟩, related'⟩

theorem foldlM {f : σ → α → Except ε σ} {g : σ' → α → Except ε' σ'}
    (step : ∀ s t x, S s t → SimulatedBy S (f s x) (g t x)) (xs : List α) {s : σ} {t : σ'}
    (start : S s t) : SimulatedBy S (xs.foldlM f s) (xs.foldlM g t) := by
  induction xs generalizing s t with
  | nil => exact ok start
  | cons x xs ih =>
      rw [List.foldlM_cons, List.foldlM_cons]
      exact (step s t x start).bind fun _ _ related => ih related

theorem bind_extends {x : Except ε α} {y : Except ε β} {f : α → Except ε σ} {g : β → Except ε σ}
    (first : SimulatedBy R x y) (later : ∀ a b, R a b → Extends (f a) (g b)) :
    Extends (x >>= f) (y >>= g) := by
  intro s h
  obtain ⟨a, hx, hf⟩ := bind_eq_ok.1 h
  obtain ⟨b, hy, related⟩ := first a hx
  exact bind_eq_ok.2 ⟨b, hy, later a b related s hf⟩

end SimulatedBy

end RowPipeline.Outcome
