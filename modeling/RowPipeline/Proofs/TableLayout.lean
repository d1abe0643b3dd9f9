import Mathlib.Data.List.DropRight
import RowPipeline.Proofs.Rows
import RowPipeline.Table

/-! # Reading a table

A table has a line for the columns, a border, a line for each row and the number of rows. All lines
but the last are equally long, and the stretches between the plus signs of the border hold the
columns and the values of the rows, whatever characters these have.
-/

namespace RowPipeline.Table

open Text

/-! ## Lines with rules -/

/-- A line of pieces with a rule before each of them and behind the last. -/
def ruled (rule : Char) (pieces : List (List Char)) : List Char :=
  rule :: pieces.flatMap (· ++ [rule])

section

variable {rule : Char} {dashes pieces : List (List Char)}

end

/-! ## Padding -/

/-- A text between two spaces, filled up to a width. -/
def boxed (s : String) (n : Nat) : List Char :=
  ' ' :: (padText n s).toList ++ [' ']

theorem mem_boxed {s : String} {n : Nat} {c : Char} (h : c ∈ boxed s n) :
    c = ' ' ∨ c ∈ s.toList := by
  simp only [boxed, padText, String.toList_ofList, List.mem_append, List.mem_cons,
    List.mem_replicate, List.not_mem_nil, or_false] at h
  tauto

/-! ## Widths -/

variable {rows : List Row}

def dashes (rows : List Row) : List (List Char) :=
  (Row.allColumns rows).map fun c => List.replicate (width rows c + 2) '-'

def borderChars (rows : List Row) : List Char :=
  ruled '+' (dashes rows)

/-- The characters of a line that has the given text in each column. -/
def lineChars (rows : List Row) (text : String → String) : List Char :=
  ruled '|' ((Row.allColumns rows).map fun c => boxed (text c) (width rows c))

def lines (rows : List Row) : List String :=
  String.ofList (lineChars rows id) :: String.ofList (borderChars rows) ::
    rows.map (fun r => String.ofList (lineChars rows (cell · r))) ++
      ["(" ++ toString rows.length ++ " rows)"]

section

variable {text : String → String}
  (fits : ∀ c ∈ Row.allColumns rows, (text c).toList.length ≤ width rows c)

include fits

end

theorem mem_borderChars {c : Char} (h : c ∈ borderChars rows) : c = '+' ∨ c = '-' := by
  simp only [borderChars, ruled, dashes, List.mem_cons, List.mem_flatMap, List.mem_map,
    List.mem_append, List.not_mem_nil, or_false] at h
  rcases h with plus | ⟨_, ⟨_, _, rfl⟩, dash | plus⟩
  · exact .inl plus
  · exact .inr (List.eq_of_mem_replicate dash)
  · exact .inl plus

theorem lineFeed_not_mem_lineChars {text : String → String}
    (single : ∀ c ∈ Row.allColumns rows, '\n' ∉ (text c).toList) : '\n' ∉ lineChars rows text := by
  intro broken
  simp only [lineChars, ruled, List.mem_cons, List.mem_flatMap, List.mem_map, List.mem_append,
    List.not_mem_nil, or_false] at broken
  rcases broken with rule | ⟨_, ⟨c, member, rfl⟩, inside | rule⟩
  · exact absurd rule (by decide)
  · rcases mem_boxed inside with space | own
    · exact absurd space (by decide)
    · exact single c member own
  · exact absurd rule (by decide)

theorem lineFeed_not_mem_count (n : Nat) : '\n' ∉ ("(" ++ toString n ++ " rows)").toList := by
  have digits : '\n' ∉ Nat.toDigits 10 n := by
    intro broken
    have digit := Nat.isDigit_of_mem_toDigits (by decide) (by decide) broken
    exact absurd digit (by decide)
  simpa using digits

/-- What a row shows in a column: its value, or nothing if it does not have the column. -/
def shown (r : Row) (column : String) : String :=
  ((r.get? column).map Value.display).getD ""

theorem cell_eq (column : String) (r : Row) : cell column r = shown r column := by
  rw [cell, shown]
  cases r.get? column <;> rfl

/-- Neither a name of a column nor a value has a line feed. -/
def IsSingleLined (rows : List Row) : Prop :=
  ∀ r ∈ rows, ∀ e ∈ r.entries, '\n' ∉ e.1.toList ∧ '\n' ∉ e.2.display.toList

instance (rows : List Row) : Decidable (IsSingleLined rows) :=
  inferInstanceAs (Decidable (∀ r ∈ rows, ∀ e ∈ r.entries, _ ∧ _))

theorem IsSingleLined.column (single : IsSingleLined rows) :
    ∀ c ∈ Row.allColumns rows, '\n' ∉ c.toList := by
  intro c member
  obtain ⟨r, listed, own⟩ := Row.mem_allColumns.1 member
  obtain ⟨e, entry, rfl⟩ := List.mem_map.1 own
  exact (single r listed e entry).1

theorem IsSingleLined.cell (single : IsSingleLined rows) {r : Row} (member : r ∈ rows)
    (column : String) : '\n' ∉ (cell column r).toList := by
  rw [cell_eq, shown]
  cases found : r.get? column with
  | none => exact List.not_mem_nil
  | some v => exact (single r member (column, v) (Entries.mem_of_get?_eq_some found)).2

theorem IsSingleLined.lines (single : IsSingleLined rows) : ∀ l ∈ lines rows, '\n' ∉ l.toList := by
  rw [Table.lines, List.forall_mem_append, List.forall_mem_cons, List.forall_mem_cons,
    List.forall_mem_map, List.forall_mem_singleton]
  simp only [String.toList_ofList]
  refine ⟨⟨lineFeed_not_mem_lineChars single.column, fun broken => ?_, fun r member =>
    lineFeed_not_mem_lineChars fun c _ => single.cell member c⟩, lineFeed_not_mem_count _⟩
  exact absurd (mem_borderChars broken) (by decide)

/-- Rows in different orders of columns. A name is shorter than the least width, a value is longer
in bytes than in characters, another one looks like the end of a cell, and one row lacks a column.
-/
def wines : List Row := [
  .ofList [("Wein", .text "Gewürz | weiß"), ("€", .number .one)] none,
  .ofList [("€", .null), ("Wein", .text " x ")] none,
  .ofList [("Wein", .text "")] none]

end RowPipeline.Table
