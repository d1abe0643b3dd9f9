import RowPipeline.Proofs.Outcome
import RowPipeline.Proofs.Rows

/-! # Filing elements under keys

Elements that are taken one after the other into an ordered map, each into what its key holds, end
up as if the elements of every key had been taken in by themselves. The keys come out in the order
of their first elements.
-/

namespace RowPipeline.OrderedMap

open Outcome

variable {α κ γ : Type} [DecidableEq κ]

theorem mapM_get?_keys (m : OrderedMap κ γ) : m.keys.mapM m.get? = some m.values := by
  have each : ∀ es ⊆ m.entries, (es.map Prod.fst).mapM m.get? = some (es.map Prod.snd) := by
    intro es sub
    induction es with
    | nil => rfl
    | cons e es ih =>
        obtain ⟨own, later⟩ := List.cons_subset.1 sub
        have found : m.get? e.1 = some e.2 := mem_entries_iff.1 own
        simp [found, ih later]
  exact each m.entries (List.Subset.refl _)

omit [DecidableEq κ] in
theorem eraseDups_append_singleton [BEq κ] [LawfulBEq κ] (ks : List κ) (k : κ) :
    (ks ++ [k]).eraseDups = if k ∈ ks then ks.eraseDups else ks.eraseDups ++ [k] := by
  rw [List.eraseDups_append]
  by_cases present : k ∈ ks
  · simp [present, List.removeAll]
  · simp [present, List.removeAll, List.eraseDups_cons]

omit [DecidableEq κ] in
theorem nodup_eraseDups [BEq κ] [LawfulBEq κ] (ks : List κ) : ks.eraseDups.Nodup := by
  induction ks using List.reverseRecOn with
  | nil => exact List.nodup_nil
  | append_singleton ks k ih =>
      rw [eraseDups_append_singleton]
      split
      next => exact ih
      next fresh =>
        refine List.nodup_append.2 ⟨ih, by simp, ?_⟩
        intro j earlier j' last same
        obtain rfl := List.mem_singleton.1 last
        exact fresh (same ▸ List.mem_eraseDups.1 earlier)

omit [DecidableEq κ] in
theorem perm_eraseDups [BEq κ] [LawfulBEq κ] {ks js : List κ} (perm : ks.Perm js) :
    ks.eraseDups.Perm js.eraseDups := by
  apply (List.perm_ext_iff_of_nodup (nodup_eraseDups ks) (nodup_eraseDups js)).2
  intro k
  rw [List.mem_eraseDups, List.mem_eraseDups, perm.mem_iff]

omit [DecidableEq κ] in
theorem eraseDups_of_nodup [BEq κ] [LawfulBEq κ] {ks : List κ} (nodup : ks.Nodup) :
    ks.eraseDups = ks := by
  induction ks using List.reverseRecOn with
  | nil => rfl
  | append_singleton ks k ih =>
      obtain ⟨earlier, -, fresh⟩ := List.nodup_append.1 nodup
      have other : k ∉ ks := fun member => fresh k member k (by simp) rfl
      rw [eraseDups_append_singleton, if_neg other, ih earlier]

omit [DecidableEq κ] in
theorem eraseDups_of_forall_eq [BEq κ] [LawfulBEq κ] {ks : List κ} {k : κ} (nonempty : ks ≠ [])
    (same : ∀ j ∈ ks, j = k) : ks.eraseDups = [k] := by
  obtain ⟨j, ks, rfl⟩ := List.exists_cons_of_ne_nil nonempty
  obtain ⟨rfl, later⟩ := List.forall_mem_cons.1 same
  have none : ks.filter (fun i => !i == j) = [] := by
    apply List.filter_eq_nil_iff.2
    intro i member
    simp [later i member]
  rw [List.eraseDups_cons, none]
  rfl

theorem keys_ofList [BEq κ] [LawfulBEq κ] (es : List (κ × α)) :
    (ofList es).keys = (Entries.keys es).eraseDups := by
  induction es using List.reverseRecOn with
  | nil => rfl
  | append_singleton es e ih =>
      have keys : Entries.keys (es ++ [e]) = Entries.keys es ++ [e.1] := List.map_append
      rw [ofList_append_singleton, keys_insert, ih, keys, eraseDups_append_singleton]
      simp only [List.mem_eraseDups]

theorem entries_ofList {es : List (κ × α)} (distinct : (Entries.keys es).Nodup) :
    (ofList es).entries = es := by
  induction es using List.reverseRecOn with
  | nil => rfl
  | append_singleton es e ih =>
      rw [Entries.keys, List.map_append, List.map_singleton, List.nodup_append] at distinct
      obtain ⟨earlier, -, fresh⟩ := distinct
      have other : e.1 ∉ Entries.keys (ofList es).entries := by
        rw [ih earlier]
        exact fun again => fresh e.1 again e.1 List.mem_cons_self rfl
      rw [ofList_append_singleton]
      exact (Entries.put_of_not_mem other).trans (by rw [ih earlier])

theorem get?_ofList_append {es rs : List (κ × α)} {k : κ} (other : k ∉ Entries.keys rs) :
    (ofList (es ++ rs)).get? k = (ofList es).get? k := by
  induction rs using List.reverseRecOn with
  | nil => rw [List.append_nil]
  | append_singleton rs e ih =>
      simp only [Entries.keys, List.map_append, List.map_singleton, List.mem_append,
        List.mem_singleton, not_or] at other
      rw [← List.append_assoc, ofList_append_singleton, get?_insert, if_neg other.2, ih other.1]

theorem get?_ofList_append_of_mem {es rs : List (κ × α)} {k : κ} (again : k ∈ Entries.keys rs) :
    (ofList (es ++ rs)).get? k = (ofList rs).get? k := by
  induction rs using List.reverseRecOn with
  | nil => simp at again
  | append_singleton rs e ih =>
      rw [← List.append_assoc, ofList_append_singleton, ofList_append_singleton, get?_insert,
        get?_insert]
      split
      next => rfl
      next other => exact ih (by simpa [other] using again)

/-- Takes an element into what its key holds; what a new key holds is begun with the element. -/
def file (key : α → κ) (add : Option γ → α → Option γ) (m : OrderedMap κ γ) (x : α) :
    Option (OrderedMap κ γ) :=
  (add (m.get? (key x)) x).map (m.insert (key x))

/-- What elements of one key come to; nothing is held before the first of them. -/
def gather (add : Option γ → α → Option γ) (xs : List α) : Option (Option γ) :=
  xs.foldlM (fun held x => (add held x).map some) none

variable {key : α → κ} {add : Option γ → α → Option γ}

theorem gather_append_singleton (xs : List α) (x : α) :
    gather add (xs ++ [x]) = (gather add xs).bind fun held => (add held x).map some := by
  simp [gather, List.foldlM_append]

theorem file_append_singleton (xs : List α) (x : α) :
    (xs ++ [x]).foldlM (file key add) .empty =
      (xs.foldlM (file key add) .empty).bind fun m => file key add m x := by
  simp [List.foldlM_append]

theorem filter_append_singleton (xs : List α) (x : α) (k : κ) :
    (xs ++ [x]).filter (key · = k) =
      if key x = k then xs.filter (key · = k) ++ [x] else xs.filter (key · = k) := by
  by_cases h : key x = k
  · simp [h]
  · simp [h]

/-- After filing, the keys stand in the order of their first elements, and each holds what its own
elements come to. -/
theorem of_file_eq_some [BEq κ] [LawfulBEq κ] {xs : List α} {m : OrderedMap κ γ}
    (filed : xs.foldlM (file key add) .empty = some m) :
    m.keys = (xs.map key).eraseDups ∧
      ∀ k, gather add (xs.filter (key · = k)) = some (m.get? k) := by
  induction xs using List.reverseRecOn generalizing m with
  | nil =>
      simp only [List.foldlM_nil, Option.pure_def, Option.some.injEq] at filed
      subst filed
      exact ⟨rfl, fun k => rfl⟩
  | append_singleton xs x ih =>
      rw [file_append_singleton] at filed
      obtain ⟨m', before, step⟩ := Option.bind_eq_some_iff.1 filed
      obtain ⟨g, added, rfl⟩ := Option.map_eq_some_iff.1 step
      obtain ⟨keys, held⟩ := ih before
      constructor
      · rw [keys_insert, List.map_append, List.map_singleton, eraseDups_append_singleton, keys]
        simp only [List.mem_eraseDups]
      · intro k
        rw [filter_append_singleton, get?_insert]
        by_cases own : key x = k
        · rw [if_pos own, if_pos own.symm, gather_append_singleton, held, Option.bind_some, ← own,
            added, Option.map_some]
        · rw [if_neg own, if_neg fun h => own h.symm, held]

theorem of_file_eq_none {xs : List α} (failed : xs.foldlM (file key add) .empty = none) :
    ∃ x ∈ xs, gather add (xs.filter (key · = key x)) = none := by
  induction xs using List.reverseRecOn with
  | nil => simp at failed
  | append_singleton xs x ih =>
      rw [file_append_singleton] at failed
      cases before : xs.foldlM (file key add) .empty with
      | none =>
          obtain ⟨y, member, own⟩ := ih before
          refine ⟨y, List.mem_append_left _ member, ?_⟩
          rw [filter_append_singleton]
          split
          · rw [gather_append_singleton, own, Option.bind_none]
          · exact own
      | some m =>
          rw [before, Option.bind_some, file, Option.map_eq_none_iff] at failed
          refine ⟨x, by simp, ?_⟩
          rw [filter_append_singleton, if_pos rfl, gather_append_singleton,
            (of_file_eq_some before).2, Option.bind_some, failed, Option.map_none]

/-- Filing all elements one after the other comes to the same as going through the distinct keys and
gathering the elements of each. -/
theorem values_file [BEq κ] [LawfulBEq κ] (xs : List α) :
    (xs.foldlM (file key add) .empty).map values =
      (xs.map key).eraseDups.mapM fun k => (gather add (xs.filter (key · = k))).join := by
  cases filed : xs.foldlM (file key add) .empty with
  | none =>
      obtain ⟨x, member, failed⟩ := of_file_eq_none filed
      have distinct : key x ∈ (xs.map key).eraseDups :=
        List.mem_eraseDups.2 (List.mem_map_of_mem member)
      exact (mapM_eq_none distinct (by rw [failed]; rfl)).symm
  | some m =>
      obtain ⟨keys, held⟩ := of_file_eq_some filed
      simp only [held, Option.join_some, ← keys, mapM_get?_keys, Option.map_some]

end RowPipeline.OrderedMap
