/-! # Maps that keep the order of their keys

A map as a list of entries in the order in which the keys first came in. Writing to a key that is
there changes its value and not its place; a new key goes to the end.
-/

namespace RowPipeline

namespace Entries

variable {κ α : Type} [DecidableEq κ]

abbrev keys (es : List (κ × α)) : List κ :=
  es.map Prod.fst

/-- The value of the first entry with key `k`. -/
def get? (k : κ) : List (κ × α) → Option α
  | [] => none
  | (j, a) :: es => if j = k then some a else get? k es

/-- Writes `a` at key `k`, in place if the key is there and at the end otherwise. -/
def put (k : κ) (a : α) : List (κ × α) → List (κ × α)
  | [] => [(k, a)]
  | (j, b) :: es => if j = k then (j, a) :: es else (j, b) :: put k a es

theorem keys_put (k : κ) (a : α) (es : List (κ × α)) :
    keys (put k a es) = if k ∈ keys es then keys es else keys es ++ [k] := by
  induction es with
  | nil => simp [put]
  | cons e es ih =>
    obtain ⟨j, b⟩ := e
    simp only [put]
    split
    · simp_all
    · rename_i h
      have h' : ¬k = j := fun e => h e.symm
      simp only [keys, List.map_cons, List.mem_cons, h', false_or] at ih ⊢
      rw [ih]
      split <;> simp

theorem get?_put (k j : κ) (a : α) (es : List (κ × α)) :
    get? j (put k a es) = if j = k then some a else get? j es := by
  induction es with
  | nil => simp [put, get?, eq_comm]
  | cons e es ih =>
    obtain ⟨i, b⟩ := e
    simp only [put]
    split <;> simp only [get?] <;> grind

theorem get?_eq_none_iff {k : κ} {es : List (κ × α)} : get? k es = none ↔ k ∉ keys es := by
  induction es with
  | nil => simp [get?]
  | cons e es ih => simp only [get?, keys, List.map_cons]; grind

theorem nodup_put {k : κ} {a : α} {es : List (κ × α)} (h : (keys es).Nodup) :
    (keys (put k a es)).Nodup := by
  rw [keys_put]
  split
  · exact h
  · simp only [List.nodup_append, h, true_and]
    grind

end Entries

/-- A map that keeps its keys in the order in which they first came in. -/
structure OrderedMap (κ α : Type) where
  /-- The entries, oldest key first. -/
  entries : List (κ × α) := []
  /-- No key comes twice. -/
  nodup : (Entries.keys entries).Nodup := by simp

namespace OrderedMap

variable {κ α : Type}

instance [DecidableEq κ] [DecidableEq α] : DecidableEq (OrderedMap κ α) := fun m n =>
  if h : m.entries = n.entries then
    isTrue (by cases m; cases n; simp_all)
  else
    isFalse fun e => h (e ▸ rfl)

def empty : OrderedMap κ α := {}

def keys (m : OrderedMap κ α) : List κ :=
  m.entries.map Prod.fst

/-- The values, in the order of the keys. -/
def values (m : OrderedMap κ α) : List α :=
  m.entries.map Prod.snd

def size (m : OrderedMap κ α) : Nat :=
  m.entries.length

variable [DecidableEq κ]

def get? (m : OrderedMap κ α) (k : κ) : Option α :=
  Entries.get? k m.entries

def contains (m : OrderedMap κ α) (k : κ) : Bool :=
  (m.get? k).isSome

/-- Writes a value; a key that is there keeps its place. -/
def insert (m : OrderedMap κ α) (k : κ) (a : α) : OrderedMap κ α where
  entries := Entries.put k a m.entries
  nodup := Entries.nodup_put m.nodup

/-- Writes the entries one after the other. -/
def ofList (es : List (κ × α)) : OrderedMap κ α :=
  es.foldl (fun m e => m.insert e.1 e.2) empty

omit [DecidableEq κ] in
@[ext] theorem ext {m n : OrderedMap κ α} (h : m.entries = n.entries) : m = n := by
  cases m; cases n; simp_all

@[simp] theorem get?_empty (k : κ) : (empty : OrderedMap κ α).get? k = none := rfl

theorem keys_insert (m : OrderedMap κ α) (k : κ) (a : α) :
    (m.insert k a).keys = if k ∈ m.keys then m.keys else m.keys ++ [k] :=
  Entries.keys_put k a m.entries

theorem get?_insert (m : OrderedMap κ α) (k j : κ) (a : α) :
    (m.insert k a).get? j = if j = k then some a else m.get? j :=
  Entries.get?_put k j a m.entries

theorem get?_eq_none_iff {m : OrderedMap κ α} {k : κ} : m.get? k = none ↔ k ∉ m.keys :=
  Entries.get?_eq_none_iff

theorem contains_iff {m : OrderedMap κ α} {k : κ} : m.contains k ↔ k ∈ m.keys := by
  have := @get?_eq_none_iff κ α _ m k
  simp only [contains, Option.isSome_iff_ne_none, ne_eq, this, Decidable.not_not]

end OrderedMap

end RowPipeline
