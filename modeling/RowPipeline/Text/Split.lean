/-! # Cutting texts

Cutting a text at a character, once or everywhere, and joining pieces again.
-/

namespace RowPipeline.Text

/-- The characters before the first `c` and those after it, if there is a `c`. -/
def cutAt? (c : Char) : List Char → Option (List Char × List Char)
  | [] => none
  | d :: ds => if d = c then some ([], ds) else (cutAt? c ds).map fun (l, r) => (d :: l, r)

def splitOnce? (c : Char) (s : String) : Option (String × String) :=
  (cutAt? c s.toList).map fun (l, r) => (String.ofList l, String.ofList r)

/-- Cuts a text at every `c`; there is always one piece more than there are cuts. -/
def splitEvery (c : Char) (s : String) : List String :=
  (s.toList.splitOn c).map String.ofList

/-- Puts pieces into one text, with `sep` between neighbours. -/
def join (sep : String) : List String → String
  | [] => ""
  | [s] => s
  | s :: t :: rest => s ++ sep ++ join sep (t :: rest)

/-- Some stretch of the first list is the second one. -/
def hasStretch : List Char → List Char → Bool
  | [], needle => needle.isEmpty
  | c :: cs, needle => needle.isPrefixOf (c :: cs) || hasStretch cs needle

/-- A cut takes out the first `c` and loses nothing else. -/
theorem cutAt?_eq_some {c : Char} {cs l r : List Char} (h : cutAt? c cs = some (l, r)) :
    cs = l ++ c :: r ∧ c ∉ l := by
  induction cs generalizing l with
  | nil => simp [cutAt?] at h
  | cons d ds ih =>
    simp only [cutAt?] at h
    split at h
    · simp_all
    · obtain ⟨⟨l', r'⟩, h', heq⟩ := Option.map_eq_some_iff.1 h
      simp only [Prod.mk.injEq] at heq
      obtain ⟨rfl, rfl⟩ := heq
      have := ih h'
      grind

theorem cutAt?_append {c : Char} {l r : List Char} (h : c ∉ l) :
    cutAt? c (l ++ c :: r) = some (l, r) := by
  induction l with
  | nil => simp [cutAt?]
  | cons d ds ih =>
    have hd : d ≠ c := by grind
    have := ih (by grind)
    simp [cutAt?, hd, this]

theorem cutAt?_eq_none_iff {c : Char} {cs : List Char} : cutAt? c cs = none ↔ c ∉ cs := by
  induction cs with
  | nil => simp [cutAt?]
  | cons d ds ih =>
    simp only [cutAt?]
    split <;> simp_all [@eq_comm _ c]

theorem splitEvery_of_not_mem {c : Char} {s : String} (free : c ∉ s.toList) :
    splitEvery c s = [s] := by
  rw [splitEvery, List.splitOn_eq_singleton free]
  simp

/-- A cut behind a piece without cuts leaves that piece. -/
theorem splitEvery_append {c : Char} {s sep : String} (free : c ∉ s.toList)
    (single : sep.toList = [c]) (rest : String) :
    splitEvery c (s ++ sep ++ rest) = s :: splitEvery c rest := by
  rw [splitEvery, String.toList_append, String.toList_append, single, List.append_assoc,
    List.singleton_append, List.splitOn_append_cons_self_of_not_mem free, List.map_cons,
    String.ofList_toList, splitEvery]

end RowPipeline.Text
