import RowPipeline.Proofs.FileRuns
import RowPipeline.Proofs.Padding

/-! # Reading what was written of a table

A table of fields is written line by line, with commas between the fields of a line. If no field
needs the quotes that the format does not have, extracting the text gives the table back, with the
columns under the alias and every field as a cell.
-/

namespace RowPipeline

open Outcome

namespace Text

theorem mem_toList_join {sep : String} {pieces : List String} {c : Char} :
    c ∈ (join sep pieces).toList ↔
      (∃ piece ∈ pieces, c ∈ piece.toList) ∨ 2 ≤ pieces.length ∧ c ∈ sep.toList := by
  match pieces with
  | [] => simp [join]
  | [piece] => simp [join]
  | piece :: next :: rest =>
      have several : 2 ≤ (piece :: next :: rest).length := by simp
      rw [join, String.toList_append, String.toList_append, List.mem_append, List.mem_append,
        mem_toList_join]
      simp only [List.exists_mem_cons_iff, several, true_and]
      by_cases separating : c ∈ sep.toList
      · simp [separating]
      · simp [separating]

end Text

namespace Csv

open Text

/-- Neither blank space nor a quote. -/
def isSolid (c : Char) : Bool :=
  !isBlank c && c != '"'

/-- A field that is written as it is read: nothing in it ends the field or the line, and neither
blank space nor quotes stand at its ends. -/
structure IsPlain (field : String) : Prop where
  comma : ',' ∉ field.toList
  lineFeed : '\n' ∉ field.toList
  carriageReturn : '\r' ∉ field.toList
  front : field.toList.head?.all isSolid = true
  back : field.toList.getLast?.all isSolid = true

instance (field : String) : Decidable (IsPlain field) :=
  decidable_of_iff (',' ∉ field.toList ∧ '\n' ∉ field.toList ∧ '\r' ∉ field.toList ∧
      field.toList.head?.all isSolid = true ∧ field.toList.getLast?.all isSolid = true)
    ⟨fun ⟨comma, lineFeed, carriageReturn, front, back⟩ =>
      ⟨comma, lineFeed, carriageReturn, front, back⟩,
      fun h => ⟨h.comma, h.lineFeed, h.carriageReturn, h.front, h.back⟩⟩

theorem isSolid_iff {c : Char} : isSolid c = true ↔ isBlank c = false ∧ c ≠ '"' := by
  simp [isSolid]

def lineOf (fields : List String) : String :=
  join "," fields

/-- What may stand between a line and the line feed that ends it. -/
inductive IsEnd : String → Prop where
  | none : IsEnd ""
  | carriageReturn : IsEnd "\r"

/-- The text is made of these lines, each of them ended by a line feed that may have a carriage
return in front; the last line may do without. -/
inductive HasLines : List String → String → Prop where
  | nil : HasLines [] ""
  | last (line : String) : HasLines [line] line
  | cons (line : String) {ending rest : String} {lines : List String} :
      IsEnd ending → HasLines lines rest → HasLines (line :: lines) (line ++ ending ++ "\n" ++ rest)

namespace IsEnd

variable {ending : String}

theorem isBlank (h : IsEnd ending) : ∀ c ∈ ending.toList, isBlank c = true := by
  rw [← List.all_eq_true]
  cases h <;> decide

theorem apart (h : IsEnd ending) : ',' ∉ ending.toList ∧ '\n' ∉ ending.toList := by
  cases h <;> decide

end IsEnd

theorem cleanCell_append {field ending : String} (plain : IsPlain field) (h : IsEnd ending) :
    cleanCell (field ++ ending) = field := by
  have front (c : Char) (first : c ∈ field.toList.head?) : isBlank c = false ∧ c ≠ '"' :=
    isSolid_iff.1 ((Option.all_eq_true _ _).1 plain.front c first)
  have back (c : Char) (last : c ∈ field.toList.getLast?) : isBlank c = false ∧ c ≠ '"' :=
    isSolid_iff.1 ((Option.all_eq_true _ _).1 plain.back c last)
  have trimmed : trim (field ++ ending) = field := by
    rw [trim, String.toList_append, stripBoth_append (fun c first => (front c first).1)
      (fun c last => (back c last).1) h.isBlank, String.ofList_toList]
  have bare : stripBoth (· == '"') field.toList = field.toList := by
    apply stripBoth_eq_self
    · exact fun c first => beq_eq_false_iff_ne.2 (front c first).2
    · exact fun c last => beq_eq_false_iff_ne.2 (back c last).2
  rw [cleanCell, trimmed, bare, String.ofList_toList]

theorem cells_lineOf {fields : List String} {ending : String} (some : fields ≠ [])
    (plain : ∀ field ∈ fields, IsPlain field) (h : IsEnd ending) :
    cells (lineOf fields ++ ending) = fields := by
  match fields with
  | [field] =>
      have field_plain := plain field List.mem_cons_self
      have free : ',' ∉ (field ++ ending).toList := by
        simp [field_plain.comma, h.apart.1]
      rw [lineOf, join, cells, splitEvery_of_not_mem free, List.map_singleton,
        cleanCell_append field_plain h]
  | field :: next :: rest =>
      obtain ⟨first, later⟩ := List.forall_mem_cons.1 plain
      have ih := cells_lineOf (List.cons_ne_nil next rest) later h
      have clean : cleanCell field = field := by
        simpa using cleanCell_append first .none
      rw [lineOf, cells] at ih
      rw [lineOf, join, cells, String.append_assoc, splitEvery_append first.comma rfl,
        List.map_cons, clean, ih]

/-- The lines of a text are read as they were written, with or without the carriage returns. -/
theorem lines_of_hasLines {written : List String} {text : String} (h : HasLines written text)
    (single : ∀ line ∈ written, '\n' ∉ line.toList)
    (shown : ∀ line ∈ written, isBlankText line = false) :
    List.Forall₂ (fun line read => ∃ ending, IsEnd ending ∧ read = line ++ ending)
      written (lines text) := by
  induction h with
  | nil =>
      have empty : lines "" = [] := by decide
      rw [empty]
      exact .nil
  | last line =>
      obtain ⟨own, -⟩ := List.forall_mem_cons.1 single
      obtain ⟨visible, -⟩ := List.forall_mem_cons.1 shown
      rw [lines, splitEvery_of_not_mem own, List.filter_cons_of_pos (by simp [visible])]
      exact .cons ⟨"", .none, by simp⟩ .nil
  | @cons line ending rest later end_ _ ih =>
      obtain ⟨own, singleLater⟩ := List.forall_mem_cons.1 single
      obtain ⟨visible, shownLater⟩ := List.forall_mem_cons.1 shown
      have free : '\n' ∉ (line ++ ending).toList := by
        simp [own, end_.apart.2]
      have visible' : isBlankText (line ++ ending) = false := by
        rw [isBlankText, String.toList_append, List.all_append]
        rw [isBlankText] at visible
        rw [visible, Bool.false_and]
      rw [lines, splitEvery_append free rfl, List.filter_cons_of_pos (by simp [visible'])]
      exact .cons ⟨ending, end_, rfl⟩ (ih singleLater shownLater)

/-! ## Tables of fields -/

structure Sheet where
  header : List String
  records : List (List String)

namespace Sheet

def lines (sheet : Sheet) : List String :=
  (sheet.header :: sheet.records).map lineOf

def columns (aliasName : String) (sheet : Sheet) : List String :=
  sheet.header.map (Name.qualify aliasName)

/-- The columns of the table with the values of a record. -/
def entries (aliasName : String) (sheet : Sheet) (record : List String) :
    List (String × Value) :=
  (sheet.columns aliasName).zip (record.map Value.ofCell)

/-- The table can be written without quotes: every field is plain, no line is blank, every record
has a field for each column, and the columns differ under the alias. -/
structure IsPlain (aliasName : String) (sheet : Sheet) : Prop where
  distinct : (sheet.columns aliasName).Nodup
  complete : ∀ record ∈ sheet.records, record.length = sheet.header.length
  plain : ∀ fields ∈ sheet.header :: sheet.records, ∀ field ∈ fields, Csv.IsPlain field
  shown : ∀ fields ∈ sheet.header :: sheet.records, 2 ≤ fields.length ∨ ∃ field ∈ fields, field ≠ ""

instance (aliasName : String) (sheet : Sheet) : Decidable (sheet.IsPlain aliasName) :=
  decidable_of_iff ((sheet.columns aliasName).Nodup ∧
      (∀ record ∈ sheet.records, record.length = sheet.header.length) ∧
      (∀ fields ∈ sheet.header :: sheet.records, ∀ field ∈ fields, Csv.IsPlain field) ∧
      ∀ fields ∈ sheet.header :: sheet.records, 2 ≤ fields.length ∨ ∃ field ∈ fields, field ≠ "")
    ⟨fun ⟨distinct, complete, plain, shown⟩ => ⟨distinct, complete, plain, shown⟩,
      fun h => ⟨h.distinct, h.complete, h.plain, h.shown⟩⟩

variable {aliasName : String} {sheet : Sheet}

theorem IsPlain.ne_nil (h : sheet.IsPlain aliasName) {fields : List String}
    (member : fields ∈ sheet.header :: sheet.records) : fields ≠ [] := by
  rcases h.shown fields member with several | ⟨field, own, -⟩
  · rintro rfl
    cases several
  · exact List.ne_nil_of_mem own

theorem IsPlain.single (h : sheet.IsPlain aliasName) :
    ∀ line ∈ sheet.lines, '\n' ∉ line.toList := by
  intro line member broken
  obtain ⟨fields, listed, rfl⟩ := List.mem_map.1 member
  rcases mem_toList_join.1 broken with ⟨field, own, inside⟩ | ⟨-, separator⟩
  · exact (h.plain fields listed field own).lineFeed inside
  · exact absurd separator (by decide)

theorem IsPlain.visible (h : sheet.IsPlain aliasName) :
    ∀ line ∈ sheet.lines, isBlankText line = false := by
  intro line member
  obtain ⟨fields, listed, rfl⟩ := List.mem_map.1 member
  rw [isBlankText, List.all_eq_false]
  rcases h.shown fields listed with several | ⟨field, own, filled⟩
  · exact ⟨',', mem_toList_join.2 (.inr ⟨several, by decide⟩), by decide⟩
  · obtain ⟨c, rest, chars⟩ := List.exists_cons_of_ne_nil (mt String.toList_eq_nil_iff.1 filled)
    have front := (h.plain fields listed field own).front
    rw [chars, List.head?_cons, Option.all_some, isSolid_iff] at front
    exact ⟨c, mem_toList_join.2 (.inl ⟨field, own, by simp [chars]⟩), by simp [front.1]⟩

theorem IsPlain.map_cells (h : sheet.IsPlain aliasName) {text : String}
    (written : HasLines sheet.lines text) :
    sheet.header :: sheet.records = (Csv.lines text).map cells := by
  have ended := lines_of_hasLines written h.single h.visible
  rw [Sheet.lines, List.forall₂_map_left_iff] at ended
  rw [← List.forall₂_eq_eq_eq, List.forall₂_map_right_iff]
  refine forall₂_imp_of_mem ?_ ended
  rintro fields listed _ ⟨ending, end_, rfl⟩
  exact (cells_lineOf (h.ne_nil listed) (h.plain fields listed) end_).symm

theorem IsPlain.exists_header (h : sheet.IsPlain aliasName) {text : String}
    (written : HasLines sheet.lines text) :
    ∃ first rest, Csv.lines text = first :: rest ∧ cells first = sheet.header ∧
      rest.map cells = sheet.records := by
  obtain ⟨first, rest, content, headed, listed⟩ := List.map_eq_cons_iff.1 (h.map_cells written).symm
  exact ⟨first, rest, content, headed, listed⟩

end Sheet

variable {read : FileReader} {path aliasName : String} {sheet : Sheet} {text : String}

theorem recordsOf_of_hasLines (plain : sheet.IsPlain aliasName)
    (written : HasLines sheet.lines text) :
    recordsOf text = sheet.records.map (Record.mk sheet.header) ∧ Legible text := by
  obtain ⟨first, rest, content, headed, listed⟩ := plain.exists_header written
  have records : recordsOf text = sheet.records.map (Record.mk sheet.header) := by
    rw [recordsOf, content, ← headed, ← listed, List.map_map]
    rfl
  refine ⟨records, by simp [content], ?_⟩
  rw [records, List.forall_mem_map]
  exact plain.complete

theorem header_of_hasLines (plain : sheet.IsPlain aliasName) (written : HasLines sheet.lines text)
    (found : read path = .ok text) : header read path = .ok sheet.header := by
  obtain ⟨first, rest, content, headed, -⟩ := plain.exists_header written
  refine bind_eq_ok.2 ⟨text, mapError_eq_ok.2 found, ?_⟩
  rw [content, ← headed]
  rfl

theorem keys_entries {record : List String} (complete : record.length = sheet.header.length) :
    Entries.keys (sheet.entries aliasName record) = sheet.columns aliasName := by
  apply List.map_fst_zip
  simp [Sheet.columns, complete]

theorem entries_row {record : List String} (distinct : (sheet.columns aliasName).Nodup)
    (complete : record.length = sheet.header.length) :
    ((Record.mk sheet.header record).row aliasName).entries = sheet.entries aliasName record := by
  have nodup : (Entries.keys (sheet.entries aliasName record)).Nodup := by
    rw [keys_entries complete]
    exact distinct
  exact OrderedMap.entries_ofList nodup

theorem extract_single {file : Batch} (h : readFile read aliasName path = .ok file)
    (distinct : file.columns.Nodup) (each : ∀ r ∈ file.rows, r.columns = file.columns) :
    extract read aliasName [path] = .ok file := by
  have own : file.aliasName = aliasName := by
    obtain ⟨_, _, _, -, -, -, rfl⟩ := readFile_eq_ok.1 h
    rfl
  have kept : file.rows.map (Row.pad file.columns) = file.rows := by
    refine (List.map_congr_left fun r member => ?_).trans (List.map_id _)
    exact Row.pad_of_mem_iff distinct fun column => by rw [each r member]
  refine bind_eq_ok.2 ⟨[file], mapM_eq_ok.2 (.cons h .nil), ?_⟩
  simp only [List.flatMap_singleton, OrderedMap.eraseDups_of_nodup distinct, kept, ← own]
  rfl

/-- What was written of a table is read again: the columns are those of the header under the alias,
the rows are the records in order, and every field is read as a cell. The header comes back as it
was. -/
theorem extract_of_written (read : FileReader) (path aliasName : String) (sheet : Sheet)
    (text : String) (plain : sheet.IsPlain aliasName) (written : HasLines sheet.lines text)
    (found : read path = .ok text) :
    (∃ b, extract read aliasName [path] = .ok b ∧ b.aliasName = aliasName ∧
      b.columns = sheet.columns aliasName ∧
      List.Forall₂ (fun record r => r.origin = some aliasName ∧
          r.entries = sheet.entries aliasName record)
        sheet.records b.rows) ∧
      header read path = .ok sheet.header := by
  obtain ⟨first, rest, content, headed, -⟩ := plain.exists_header written
  obtain ⟨records, legible⟩ := recordsOf_of_hasLines plain written
  have file : readFile read aliasName path = .ok ⟨aliasName, _, _⟩ :=
    readFile_eq_ok.2 ⟨text, first, rest, found, content, legible, rfl⟩
  rw [headed, records, List.map_map, ← Sheet.columns] at file
  refine ⟨⟨_, extract_single file plain.distinct ?_, rfl, rfl, ?_⟩,
    header_of_hasLines plain written found⟩
  · rw [List.forall_mem_map]
    intro record member
    have complete := plain.complete record member
    rw [Row.columns, OrderedMap.keys, ← Row.entries, Function.comp_apply,
      entries_row plain.distinct complete]
    exact keys_entries complete
  · rw [List.forall₂_map_right_iff, List.forall₂_same]
    intro record member
    exact ⟨rfl, entries_row plain.distinct (plain.complete record member)⟩

/-- Wines in stock. A header carries the alias already, a field has a space inside that is not
ASCII, two look like numbers, and one is empty. -/
def wines : Sheet where
  header := ["name", "Stock.price", "note"]
  records := [["red\u2003wine", "08.50", ""], ["2019", "1e3", "a \"dry\" one"]]

/-- The table, with a carriage return after the header and no line feed after the last record. -/
def winesText : String :=
  "name,Stock.price,note\r\nred\u2003wine,08.50,\n2019,1e3,a \"dry\" one"

theorem extract_of_written_wines :
    wines.IsPlain "stock" ∧ HasLines wines.lines winesText ∧
    (∃ b, extract (fun _ => .ok winesText) "stock" ["wines.csv"] = .ok b ∧ b.aliasName = "stock" ∧
      b.columns = ["stock.name", "Stock.price", "stock.note"] ∧
      List.Forall₂ (fun record r => r.origin = some "stock" ∧
          r.entries = wines.entries "stock" record)
        wines.records b.rows) ∧
      header (fun _ => .ok winesText) "wines.csv" = .ok ["name", "Stock.price", "note"] := by
  have plain : wines.IsPlain "stock" := by decide +kernel
  have written : HasLines wines.lines winesText :=
    .cons (lineOf wines.header) .carriageReturn (.cons (lineOf ["red\u2003wine", "08.50", ""]) .none
      (.last (lineOf ["2019", "1e3", "a \"dry\" one"])))
  have columns : wines.columns "stock" = ["stock.name", "Stock.price", "stock.note"] := by
    decide +kernel
  refine ⟨plain, written, ?_⟩
  rw [← columns]
  exact extract_of_written (fun _ => .ok winesText) "wines.csv" "stock" wines winesText plain
    written rfl

end Csv

end RowPipeline
