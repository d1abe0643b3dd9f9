import Mathlib.Data.List.Induction
import RowPipeline.Proofs.Spelling
import RowPipeline.Shell

/-! # What changes the working row

The working row of a session is made by the lines that set a column, as far as they come behind the
last line that clears it. All other lines leave it as it is, whatever comes of them.
-/

namespace RowPipeline.Shell

open Text

def IsClear (line : String) : Prop :=
  lower (trim line) = ":clear"

instance (line : String) : Decidable (IsClear line) :=
  inferInstanceAs (Decidable (_ = _))

/-- The characters of a line up to the first blank space behind one that is not blank. -/
def firstWord (line : String) : String :=
  String.ofList ((line.toList.dropWhile isBlank).takeWhile fun c => !isBlank c)

/-- Blank space, which may be empty. -/
def Blank (cs : List Char) : Prop :=
  ∀ c ∈ cs, isBlank c = true

structure IsBare (cs : List Char) : Prop where
  front : ∀ c ∈ cs.head?, isBlank c = false
  back : ∀ c ∈ cs.getLast?, isBlank c = false

/-- The line sets the column to the value: behind the word that starts the command come the column
and, with blank space between them, the value. The column may follow the word with a gap or at
once. -/
inductive Sets (line column value : String) : Prop where
  | of {front gap between back : List Char} :
      line.toList =
        front ++ setWord.toList ++ gap ++ column.toList ++ between ++ value.toList ++ back →
      Blank front → Blank gap → Blank between → Blank back → between ≠ [] →
      column.toList ≠ [] → (∀ c ∈ column.toList, isBlank c = false) →
      value.toList ≠ [] → IsBare value.toList → Sets line column value

/-- The column and the value that a line sets, as the line spells them. -/
def setting? (line : String) : Option (String × String) :=
  (setArgument? (trim line)).bind fun text =>
    (splitWord? (trim text).toList).map fun (column, raw) =>
      (String.ofList column, trim (String.ofList raw))

/-! ## Words and blank space -/

theorem Blank.append {cs ds : List Char} (first : Blank cs) (second : Blank ds) :
    Blank (cs ++ ds) :=
  List.forall_mem_append.2 ⟨first, second⟩

theorem isBare_append {front between back : List Char} (filled : front ≠ [])
    (first : ∀ c ∈ front.head?, isBlank c = false) (filled' : back ≠ [])
    (last : ∀ c ∈ back.getLast?, isBlank c = false) : IsBare (front ++ between ++ back) where
  front := by
    obtain ⟨c, front, rfl⟩ := List.exists_cons_of_ne_nil filled
    exact first
  back := by
    rwa [List.getLast?_append_of_ne_nil _ filled']

theorem trim_eq_iff {s t : String} :
    trim s = t ↔
      IsBare t.toList ∧
        ∃ front back, s.toList = front ++ t.toList ++ back ∧ Blank front ∧ Blank back := by
  constructor
  · rintro rfl
    obtain ⟨front, back, split, blank, blank', first, last⟩ := exists_stripBoth isBlank s.toList
    rw [trim, String.toList_ofList]
    exact ⟨⟨first, last⟩, front, back, split, blank, blank'⟩
  · rintro ⟨bare, front, back, split, blank, blank'⟩
    rw [trim, split, List.append_assoc, stripBoth_append_left blank,
      stripBoth_append bare.front bare.back blank', String.ofList_toList]

theorem setArgument?_eq_some_iff {line text : String} :
    setArgument? line = some text ↔ line.toList = setWord.toList ++ text.toList := by
  simp only [setArgument?, Option.ite_none_right_eq_some, List.isPrefixOf_iff_prefix,
    Option.some.injEq]
  constructor
  · rintro ⟨⟨rest, split⟩, rfl⟩
    rw [← split, List.drop_left, String.toList_ofList]
  · intro split
    rw [split, List.drop_left, String.ofList_toList]
    exact ⟨List.prefix_append _ _, rfl⟩

theorem splitWord?_eq_some_iff {cs column raw : List Char} :
    splitWord? cs = some (column, raw) ↔
      (∀ c ∈ column, isBlank c = false) ∧ ∃ b, isBlank b = true ∧ cs = column ++ b :: raw := by
  constructor
  · intro h
    have split : cs.takeWhile (fun c => !isBlank c) ++ cs.dropWhile (fun c => !isBlank c) = cs :=
      List.takeWhile_append_dropWhile
    have inside : ∀ c ∈ cs.takeWhile (fun c => !isBlank c), isBlank c = false := by
      intro c member
      simpa using List.all_eq_true.1 List.all_takeWhile c member
    have first : ∀ b ∈ (cs.dropWhile fun c => !isBlank c).head?, isBlank b = true := by
      intro b head
      simpa using head?_dropWhile cs b head
    rw [splitWord?] at h
    split at h
    next => cases h
    next b rest found =>
      cases h
      rw [found] at split first
      exact ⟨inside, b, first b rfl, split.symm⟩
  · rintro ⟨solid, b, blank, rfl⟩
    have inside : ∀ c ∈ column, (!isBlank c) = true := by simpa using solid
    rw [splitWord?, List.dropWhile_append_of_pos inside, List.takeWhile_append_of_pos inside]
    simp [blank]

theorem firstWord_eq {line word : String} {front rest : List Char}
    (split : line.toList = front ++ (word.toList ++ rest)) (blank : Blank front)
    (filled : word.toList ≠ []) (solid : ∀ c ∈ word.toList, isBlank c = false)
    (apart : ∀ c ∈ rest.head?, isBlank c = true) : firstWord line = word := by
  have inside : ∀ c ∈ word.toList, (!isBlank c) = true := by simpa using solid
  have start : (word.toList ++ rest).dropWhile isBlank = word.toList ++ rest := by
    obtain ⟨c, cs, spelled⟩ := List.exists_cons_of_ne_nil filled
    have first : isBlank c = false := solid c (by simp [spelled])
    rw [spelled, List.cons_append, List.dropWhile_cons_of_neg (by simp [first])]
  have stop : rest.takeWhile (fun c => !isBlank c) = [] := by
    cases rest with
    | nil => rfl
    | cons c rest => simp [apart c rfl]
  rw [firstWord, split, List.dropWhile_append_of_pos blank, start,
    List.takeWhile_append_of_pos inside, stop, List.append_nil, String.ofList_toList]

/-! ## Lines that set a column -/

theorem setting?_eq_some_iff {line column value : String} :
    setting? line = some (column, value) ↔
      ∃ text cs raw, setArgument? (trim line) = some text ∧
        splitWord? (trim text).toList = some (cs, raw) ∧
        String.ofList cs = column ∧ trim (String.ofList raw) = value := by
  simp [setting?, Option.bind_eq_some_iff]

theorem solid_setWord : ∀ c ∈ setWord.toList, isBlank c = false := by
  have solid : setWord.toList.any isBlank = false := by decide
  simpa using solid

theorem setting?_of_sets {line column value : String} (sets : Sets line column value) :
    setting? line = some (column, value) := by
  obtain ⟨split, frontBlank, gapBlank, betweenBlank, backBlank, apart, named, solid, filled,
    bare⟩ := sets
  next front gap between back =>
  obtain ⟨b, between, rfl⟩ := List.exists_cons_of_ne_nil apart
  obtain ⟨blank, betweenBlank⟩ := List.forall_mem_cons.1 betweenBlank
  have noneLeft : Blank [] := by simp [Blank]
  -- what stands behind the gap, and what stands behind the word
  obtain ⟨rest, restSplit⟩ : ∃ rest : String,
      rest.toList = column.toList ++ b :: between ++ value.toList := ⟨_, String.toList_ofList⟩
  obtain ⟨text, textSplit⟩ : ∃ text : String, text.toList = gap ++ rest.toList :=
    ⟨_, String.toList_ofList⟩
  have bareRest : IsBare rest.toList := by
    rw [restSplit]
    exact isBare_append named (fun c head => solid c (List.mem_of_mem_head? head)) filled bare.back
  have restFilled : rest.toList ≠ [] := by
    rw [restSplit]
    simp
  have bareLine : IsBare (setWord.toList ++ gap ++ rest.toList) :=
    isBare_append (by decide) (fun c head => solid_setWord c (List.mem_of_mem_head? head))
      restFilled bareRest.back
  have lineTrimmed : trim line = String.ofList (setWord.toList ++ gap ++ rest.toList) := by
    refine trim_eq_iff.2 ⟨by rwa [String.toList_ofList], front, back, ?_, frontBlank, backBlank⟩
    simp [split, restSplit]
  have argument : setArgument? (trim line) = some text := by
    rw [setArgument?_eq_some_iff, lineTrimmed, String.toList_ofList, textSplit, List.append_assoc]
  have textTrimmed : trim text = rest :=
    trim_eq_iff.2 ⟨bareRest, gap, [], by simp [textSplit], gapBlank, noneLeft⟩
  have word : splitWord? (trim text).toList = some (column.toList, between ++ value.toList) :=
    splitWord?_eq_some_iff.2 ⟨solid, b, blank, by simp [textTrimmed, restSplit]⟩
  have rawTrimmed : trim (String.ofList (between ++ value.toList)) = value :=
    trim_eq_iff.2 ⟨bare, between, [], by simp, betweenBlank, noneLeft⟩
  exact setting?_eq_some_iff.2 ⟨text, _, _, argument, word, String.ofList_toList, rawTrimmed⟩

theorem filled_of_isBare {column raw between value back : List Char} {b : Char}
    (bare : IsBare (column ++ b :: raw)) (blank : isBlank b = true)
    (split : raw = between ++ value ++ back) (betweenBlank : Blank between)
    (backBlank : Blank back) : column ≠ [] ∧ value ≠ [] := by
  constructor
  · rintro rfl
    simp [bare.front b rfl] at blank
  · rintro rfl
    rw [List.append_nil] at split
    have rawBlank : Blank (b :: raw) :=
      List.forall_mem_cons.2 ⟨blank, split ▸ betweenBlank.append backBlank⟩
    have last : isBlank ((b :: raw).getLast (by simp)) = false := by
      apply bare.back
      rw [List.getLast?_append_of_ne_nil _ (by simp), List.getLast?_eq_some_getLast (by simp)]
      rfl
    simp [rawBlank _ (List.getLast_mem _)] at last

theorem sets_of_setting? {line column value : String} (h : setting? line = some (column, value)) :
    Sets line column value := by
  obtain ⟨text, column, raw, argument, word, rfl, trimmed⟩ := setting?_eq_some_iff.1 h
  obtain ⟨-, front, back, lineSplit, frontBlank, backBlank⟩ := trim_eq_iff.1 (Eq.refl (trim line))
  obtain ⟨bareRest, gap, back', textSplit, gapBlank, backBlank'⟩ :=
    trim_eq_iff.1 (Eq.refl (trim text))
  obtain ⟨bare, between, back'', rawSplit, betweenBlank, backBlank''⟩ := trim_eq_iff.1 trimmed
  obtain ⟨solid, b, blank, split⟩ := splitWord?_eq_some_iff.1 word
  rw [setArgument?_eq_some_iff] at argument
  rw [String.toList_ofList] at rawSplit
  rw [split] at textSplit bareRest
  obtain ⟨named, filled⟩ := filled_of_isBare bareRest blank rawSplit betweenBlank backBlank''
  have whole : line.toList = front ++ setWord.toList ++ gap ++ (String.ofList column).toList ++
      (b :: between) ++ value.toList ++ (back'' ++ back' ++ back) := by
    rw [lineSplit, argument, textSplit, rawSplit]
    simp
  exact .of whole frontBlank gapBlank (List.forall_mem_cons.2 ⟨blank, betweenBlank⟩)
    ((backBlank''.append backBlank').append backBlank) (by simp) (by simpa using named)
    (by simpa using solid) filled bare

theorem setting?_iff_sets {line column value : String} :
    setting? line = some (column, value) ↔ Sets line column value :=
  ⟨sets_of_setting?, setting?_of_sets⟩

/-- The first word of a line that sets a column is the word of the command, and the column as well
where there is no gap between them. -/
theorem Sets.firstWord {line column value : String} (sets : Sets line column value) :
    firstWord line = setWord ∨ firstWord line = setWord ++ column := by
  obtain ⟨split, frontBlank, gapBlank, betweenBlank, backBlank, apart, named, solid, filled,
    bare⟩ := sets
  next front gap between back =>
  cases gap with
  | nil =>
      right
      obtain ⟨b, between, rfl⟩ := List.exists_cons_of_ne_nil apart
      have parts : line.toList =
          front ++ ((setWord ++ column).toList ++ (b :: between ++ value.toList ++ back)) := by
        simp [split]
      refine firstWord_eq parts frontBlank ?_ ?_ ?_
      · rw [String.toList_append]
        exact List.append_ne_nil_of_right_ne_nil _ named
      · intro c member
        rw [String.toList_append] at member
        exact (List.mem_append.1 member).elim (solid_setWord c) (solid c)
      · rintro c ⟨⟩
        exact betweenBlank b List.mem_cons_self
  | cons g gap =>
      left
      have parts : line.toList = front ++
          (setWord.toList ++ (g :: gap ++ column.toList ++ between ++ value.toList ++ back)) := by
        simp [split]
      refine firstWord_eq parts frontBlank (by decide) solid_setWord ?_
      rintro c ⟨⟩
      exact gapBlank g List.mem_cons_self

/-! ## The row after a line -/

def setCell (r : Row) (setting : String × String) : Row :=
  r.set setting.1 (Value.ofCell setting.2)

theorem lower_of_setArgument? {line text : String} (h : setArgument? line = some text) :
    ∃ rest, lower line = String.ofList (setWord.toList ++ rest) := by
  have ascii : isAscii setWord = true := by decide
  rw [isAscii, List.all_eq_true] at ascii
  rw [setArgument?_eq_some_iff] at h
  rw [lower, h, lowerAfter_append_of_ascii (by simpa using ascii)]
  exact ⟨_, rfl⟩

theorem runSet_row (r : Row) (text : String) :
    (runSet r text).2 = ((splitWord? (trim text).toList).map fun (column, raw) =>
      (String.ofList column, trim (String.ofList raw))).elim r (setCell r) := by
  rw [runSet, assignment?]
  cases splitWord? (trim text).toList <;> rfl

theorem handle_row_of_setArgument? {line text : String} (mode : EvalMode) (r : Row)
    (h : setArgument? (trim line) = some text) :
    (handle mode r line).2 = (runSet r text).2 ∧ ¬IsClear line := by
  obtain ⟨rest, lowered⟩ := lower_of_setArgument? h
  have unlike : ∀ word ∈ ["exit", "quit", "help", ":row", ":clear"],
      ¬setWord.toList <+: word.toList := by
    decide
  have others : ∀ word ∈ ["exit", "quit", "help", ":row", ":clear"],
      lower (trim line) ≠ word := by
    rintro _ member rfl
    apply unlike _ member
    rw [lowered, String.toList_ofList]
    exact List.prefix_append _ _
  simp only [List.forall_mem_cons] at others
  obtain ⟨exit, quit, help, row, clear, -⟩ := others
  have filled : (trim line).isEmpty = false := by
    rw [setArgument?_eq_some_iff] at h
    simp [← String.toList_eq_nil_iff, h, setWord]
  exact ⟨by simp [handle, filled, h, exit, quit, help, row, clear], clear⟩

theorem handle_row_of_other {line : String} (mode : EvalMode) (r : Row)
    (h : setArgument? (trim line) = none) :
    (handle mode r line).2 = if IsClear line then .empty else r := by
  have empty : (trim line).isEmpty = true → lower (trim line) = "" := by
    intro empty
    rw [String.isEmpty_iff.1 empty]
    rfl
  simp only [handle, h, IsClear]
  grind

/-- A line clears the row, sets a column or leaves the row as it is. -/
theorem handle_row (mode : EvalMode) (r : Row) (line : String) :
    (handle mode r line).2 =
      if IsClear line then .empty else (setting? line).elim r (setCell r) := by
  cases argument : setArgument? (trim line) with
  | none =>
      have none : setting? line = none := by rw [setting?, argument, Option.bind_none]
      rw [none, Option.elim_none, handle_row_of_other mode r argument]
  | some text =>
      obtain ⟨row, notClear⟩ := handle_row_of_setArgument? mode r argument
      rw [if_neg notClear, row, runSet_row, setting?, argument, Option.bind_some]

/-! ## The row after a session -/

theorem rowAfter_concat (mode : EvalMode) (r : Row) (lines : List String) (line : String) :
    rowAfter mode r (lines ++ [line]) = (handle mode (rowAfter mode r lines) line).2 := by
  rw [rowAfter, List.foldl_append]
  rfl

theorem exists_rowAfter (mode : EvalMode) (lines : List String) :
    ∃ before after, lines = before ++ after ∧
      (∀ line ∈ before.getLast?, IsClear line) ∧ (∀ line ∈ after, ¬IsClear line) ∧
      rowAfter mode .empty lines = (after.filterMap setting?).foldl setCell .empty := by
  induction lines using List.reverseRecOn with
  | nil => exact ⟨[], [], rfl, by simp, by simp, rfl⟩
  | append_singleton lines line ih =>
      obtain ⟨before, after, rfl, cleared, uncleared, row⟩ := ih
      rw [rowAfter_concat, handle_row]
      by_cases clear : IsClear line
      · refine ⟨before ++ after ++ [line], [], (List.append_nil _).symm, ?_, by simp, ?_⟩
        · simpa using clear
        · rw [if_pos clear]
          rfl
      · refine ⟨before, after ++ [line], List.append_assoc _ _ _, cleared, ?_, ?_⟩
        · simpa [or_imp, forall_and] using ⟨uncleared, clear⟩
        · rw [if_neg clear, row, List.filterMap_append, List.foldl_append]
          cases found : setting? line <;> simp [found]

/-- The working row of a session that starts with an empty one has the values of the lines that set
a column, in their order, from behind the last line that clears the row. The first word of such a
line is the command or, where there is no gap, the command with the column behind it. -/
theorem rowAfter_eq_settings (mode : EvalMode) (lines : List String) :
    ∃ before after, lines = before ++ after ∧
      (∀ line ∈ before.getLast?, IsClear line) ∧ (∀ line ∈ after, ¬IsClear line) ∧
      rowAfter mode .empty lines = (after.filterMap setting?).foldl setCell .empty ∧
      ∀ line column value,
        (setting? line = some (column, value) ↔ Sets line column value) ∧
        (Sets line column value → firstWord line = setWord ∨ firstWord line = setWord ++ column) := by
  obtain ⟨before, after, split, cleared, uncleared, row⟩ := exists_rowAfter mode lines
  refine ⟨before, after, split, cleared, uncleared, row, ?_⟩
  intro line column value
  exact ⟨setting?_iff_sets, Sets.firstWord⟩

/-- A column can run on from the command: the first word of the line is another one, and yet the
line sets the column. -/
theorem rowAfter_joined_word :
    firstWord ":setx 1" ≠ setWord ∧
      rowAfter {} .empty [":setx 1"] = setCell .empty ("x", "1") := by
  decide

end RowPipeline.Shell
