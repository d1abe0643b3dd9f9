import RowPipeline.Csv
import RowPipeline.Proofs.Outcome
import RowPipeline.Proofs.Rows

/-! # Cells of records

Every record of a source file becomes a row. The columns are the cells of the header under the
alias, and two header cells may be the same column: they are equal, or one of them is the other with
the alias in front. The row holds the last cell of every column, and no file is refused for its
header.
-/

namespace RowPipeline

open Outcome

namespace Name

/-- The first name is the second with the alias in front. -/
def Carries (aliasName a b : String) : Prop :=
  isUnder aliasName a = true ∧ isUnder aliasName b = false ∧ a = aliasName ++ "." ++ b

/-- Two header cells are the same column under an alias. -/
def SameColumn (aliasName a b : String) : Prop :=
  a = b ∨ Carries aliasName a b ∨ Carries aliasName b a

theorem qualify_eq_iff {aliasName a b : String} :
    qualify aliasName a = qualify aliasName b ↔ SameColumn aliasName a b := by
  unfold qualify SameColumn Carries
  cases first : isUnder aliasName a <;> cases second : isUnder aliasName b
  case false.false => simp
  case true.true => simp
  case true.false =>
    have apart : a ≠ b := by
      rintro rfl
      simp [first] at second
    simp [apart]
  case false.true =>
    have apart : a ≠ b := by
      rintro rfl
      simp [first] at second
    simp [apart, eq_comm]

end Name

namespace Csv

/-- A record of a file, with the header of the file. -/
structure Record where
  header : List String
  cells : List String

namespace Record

def Complete (record : Record) : Prop :=
  record.cells.length = record.header.length

/-- The cell at a place of the record, with the header cell above it. -/
def At (record : Record) (k : Nat) (name cell : String) : Prop :=
  record.header[k]? = some name ∧ record.cells[k]? = some cell

def row (aliasName : String) (record : Record) : Row :=
  recordRow aliasName (record.header.map (Name.qualify aliasName)) record.cells

/-- The row has every cell of the record under the name of its column. -/
def KeptIn (aliasName : String) (record : Record) (r : Row) : Prop :=
  ∀ k name cell, record.At k name cell →
    r.get? (Name.qualify aliasName name) = some (Value.ofCell cell)

/-- Cells of the same column have the same value. -/
def Consistent (aliasName : String) (record : Record) : Prop :=
  ∀ j k name name' cell cell', record.At j name cell → record.At k name' cell' →
    Name.SameColumn aliasName name name' → Value.ofCell cell = Value.ofCell cell'

/-- No cell behind this place is of the same column as `name`. -/
def LastOf (aliasName : String) (record : Record) (k : Nat) (name : String) : Prop :=
  ∀ j name', k < j → record.header[j]? = some name' → ¬Name.SameColumn aliasName name name'

/-- The columns of the record with their values, place by place. -/
def entries (aliasName : String) (record : Record) : List (String × Value) :=
  (record.header.map (Name.qualify aliasName)).zip (record.cells.map Value.ofCell)

variable {aliasName : String} {record : Record}

theorem get?_row (column : String) :
    (record.row aliasName).get? column =
      (OrderedMap.ofList (record.entries aliasName)).get? column :=
  rfl

theorem getElem?_entries {k : Nat} {column : String} {v : Value} :
    (record.entries aliasName)[k]? = some (column, v) ↔
      ∃ name cell, record.At k name cell ∧ Name.qualify aliasName name = column ∧
        Value.ofCell cell = v := by
  simp only [entries, List.getElem?_zip_eq_some, List.getElem?_map, Option.map_eq_some_iff, At]
  constructor
  · rintro ⟨⟨name, named, rfl⟩, cell, filled, rfl⟩
    exact ⟨name, cell, ⟨named, filled⟩, rfl, rfl⟩
  · rintro ⟨name, cell, ⟨named, filled⟩, rfl, rfl⟩
    exact ⟨⟨name, named, rfl⟩, cell, filled, rfl⟩

theorem At.mem_entries {k : Nat} {name cell : String} (here : record.At k name cell) :
    (Name.qualify aliasName name, Value.ofCell cell) ∈ record.entries aliasName :=
  List.mem_of_getElem? (getElem?_entries.2 ⟨name, cell, here, rfl, rfl⟩)

theorem get?_row_of_last {k : Nat} {name cell : String} (here : record.At k name cell)
    (last : record.LastOf aliasName k name) :
    (record.row aliasName).get? (Name.qualify aliasName name) = some (Value.ofCell cell) := by
  have listed : (record.entries aliasName)[k]? =
      some (Name.qualify aliasName name, Value.ofCell cell) :=
    getElem?_entries.2 ⟨name, cell, here, rfl, rfl⟩
  obtain ⟨inside, entry⟩ := List.getElem?_eq_some_iff.1 listed
  have split := List.take_append_drop k (record.entries aliasName)
  rw [List.drop_eq_getElem_cons inside, entry] at split
  rw [get?_row, ← split]
  refine OrderedMap.get?_ofList_last fun again => ?_
  obtain ⟨⟨column, v⟩, member, rfl⟩ := List.mem_map.1 again
  obtain ⟨j, later⟩ := List.mem_iff_getElem?.1 member
  rw [List.getElem?_drop] at later
  obtain ⟨name', cell', ⟨named, -⟩, same, -⟩ := getElem?_entries.1 later
  exact last (k + 1 + j) name' (by omega) named (Name.qualify_eq_iff.1 same.symm)

/-- The row has every cell of the record just if cells of the same column agree. -/
theorem keptIn_row_iff : record.KeptIn aliasName (record.row aliasName) ↔
    record.Consistent aliasName := by
  constructor
  · intro kept j k name name' cell cell' here there same
    have first := kept j name cell here
    rw [Name.qualify_eq_iff.2 same, kept k name' cell' there] at first
    exact (Option.some.inj first).symm
  · intro consistent k name cell here
    rw [get?_row]
    apply OrderedMap.get?_ofList_eq_some (List.mem_map_of_mem here.mem_entries)
    rintro ⟨column, v⟩ member same
    obtain ⟨j, found⟩ := List.mem_iff_getElem?.1 member
    obtain ⟨name', cell', there, rfl, rfl⟩ := getElem?_entries.1 found
    have agree := consistent j k name' name cell' cell there here
    simpa only using agree (Name.qualify_eq_iff.1 same)

theorem At.get?_pad {k : Nat} {name cell : String} (here : record.At k name cell)
    (columns : List String) :
    ((record.row aliasName).pad columns).get? (Name.qualify aliasName name) =
      (record.row aliasName).get? (Name.qualify aliasName name) := by
  have present : Name.qualify aliasName name ∈ (record.row aliasName).columns :=
    OrderedMap.mem_keys_ofList.2 (List.mem_map_of_mem here.mem_entries)
  obtain ⟨v, held⟩ := Row.mem_columns_iff.1 present
  rw [Row.get?_pad, held]
  split <;> rfl

theorem keptIn_pad_iff (columns : List String) :
    record.KeptIn aliasName ((record.row aliasName).pad columns) ↔
      record.KeptIn aliasName (record.row aliasName) :=
  forall₄_congr fun _ _ _ here => by rw [here.get?_pad]

end Record

/-- The records of a file, each under the header of the file. -/
def recordsOf (text : String) : List Record :=
  match lines text with
  | [] => []
  | first :: rest => rest.map fun line => ⟨cells first, cells line⟩

/-- The records of the files that can be read, file by file. -/
def sourceRecords (read : FileReader) (locations : List String) : List Record :=
  locations.flatMap fun path => ((read path).map recordsOf).toOption.getD []

/-- The file has a header, and every record has a cell for each of its columns. -/
def Legible (text : String) : Prop :=
  lines text ≠ [] ∧ ∀ record ∈ recordsOf text, record.Complete

variable {read : FileReader} {aliasName path : String}

theorem records_eq_ok {columns : List String} {number : Nat} {rest : List String}
    {rows : List Row} :
    records path aliasName columns number rest = .ok rows ↔
      (∀ line ∈ rest, (cells line).length = columns.length) ∧
        rows = rest.map fun line => recordRow aliasName columns (cells line) := by
  induction rest generalizing number rows with
  | nil => simp [records, eq_comm]
  | cons line rest ih =>
      by_cases full : (cells line).length = columns.length
      · have next : records path aliasName columns number (line :: rest) =
            (do let rows ← records path aliasName columns (number + 1) rest
                return recordRow aliasName columns (cells line) :: rows) := by
          simp [records, full]
        rw [next, bind_eq_ok]
        simp only [ih, pure_eq_ok, List.forall_mem_cons, full, true_and, List.map_cons]
        constructor
        · rintro ⟨_, ⟨complete, rfl⟩, rfl⟩
          exact ⟨complete, rfl⟩
        · rintro ⟨complete, rfl⟩
          exact ⟨_, ⟨complete, rfl⟩, rfl⟩
      · simp [records, full, throw, throwThe, MonadExceptOf.throw, bind, Except.bind]

/-- A file is read just if it is legible, whatever its header says. -/
theorem readFile_eq_ok {file : Batch} :
    readFile read aliasName path = .ok file ↔
      ∃ text first rest, read path = .ok text ∧ lines text = first :: rest ∧ Legible text ∧
        file = ⟨aliasName, (cells first).map (Name.qualify aliasName),
          (recordsOf text).map (Record.row aliasName)⟩ := by
  constructor
  · intro h
    obtain ⟨text, source, h⟩ := bind_eq_ok.1 h
    cases content : lines text with
    | nil =>
        rw [content] at h
        cases h
    | cons first rest =>
        rw [content] at h
        obtain ⟨rows, listed, h⟩ := bind_eq_ok.1 h
        cases h
        obtain ⟨complete, rfl⟩ := records_eq_ok.1 listed
        have filled : lines text ≠ [] := by simp [content]
        refine ⟨text, first, rest, mapError_eq_ok.1 source, content, ⟨filled, ?_⟩, ?_⟩
        · simpa [recordsOf, content, Record.Complete] using complete
        · simp [recordsOf, content, Record.row, Function.comp_def]
  · rintro ⟨text, first, rest, source, content, ⟨-, complete⟩, rfl⟩
    simp only [recordsOf, content, List.forall_mem_map, Record.Complete] at complete
    refine bind_eq_ok.2 ⟨text, mapError_eq_ok.2 source, ?_⟩
    rw [content]
    refine bind_eq_ok.2 ⟨_, records_eq_ok.2 ⟨by simpa using complete, rfl⟩, ?_⟩
    simp [recordsOf, content, Record.row, Function.comp_def, pure, Except.pure]

theorem exists_readFile_iff :
    (∃ file, readFile read aliasName path = .ok file) ↔
      ∃ text, read path = .ok text ∧ Legible text := by
  constructor
  · rintro ⟨file, h⟩
    obtain ⟨text, first, rest, source, -, legible, -⟩ := readFile_eq_ok.1 h
    exact ⟨text, source, legible⟩
  · rintro ⟨text, source, legible⟩
    obtain ⟨first, rest, content⟩ := List.exists_cons_of_ne_nil legible.1
    exact ⟨_, readFile_eq_ok.2 ⟨text, first, rest, source, content, legible, rfl⟩⟩

theorem rows_of_files {locations : List String} {files : List Batch}
    (each : List.Forall₂ (fun path file => readFile read aliasName path = .ok file)
      locations files) :
    files.flatMap Batch.rows = (sourceRecords read locations).map (Record.row aliasName) := by
  induction each with
  | nil => rfl
  | @cons path file locations files first _ ih =>
      obtain ⟨text, _, _, source, -, -, rfl⟩ := readFile_eq_ok.1 first
      have own : sourceRecords read (path :: locations) =
          recordsOf text ++ sourceRecords read locations := by
        simp [sourceRecords, source, Except.map, Except.toOption]
      rw [own, List.flatMap_cons, List.map_append, ih]

theorem extract_rows {locations : List String} {b : Batch}
    (h : extract read aliasName locations = .ok b) :
    b.rows = (sourceRecords read locations).map fun record =>
      (record.row aliasName).pad b.columns := by
  obtain ⟨files, each, h⟩ := bind_eq_ok.1 h
  cases h
  have rows := rows_of_files (mapM_eq_ok.1 each)
  simp only [← List.map_flatMap, rows, List.map_map, Function.comp_def]

theorem exists_extract_iff {locations : List String} :
    (∃ b, extract read aliasName locations = .ok b) ↔
      ∀ path ∈ locations, ∃ text, read path = .ok text ∧ Legible text := by
  have ofFiles : (∃ b, extract read aliasName locations = .ok b) ↔
      ∃ files, locations.mapM (readFile read aliasName) = .ok files := by
    constructor
    · rintro ⟨b, h⟩
      obtain ⟨files, each, -⟩ := bind_eq_ok.1 h
      exact ⟨files, each⟩
    · rintro ⟨files, each⟩
      exact ⟨_, bind_eq_ok.2 ⟨files, each, rfl⟩⟩
  rw [ofFiles]
  simp only [← toOption_eq_some, toOption_mapM, exists_mapM_iff]
  simp only [toOption_eq_some, exists_readFile_iff]

/-- Extraction succeeds just if all files are legible, whatever their headers say. It makes one row
of every record, in order. The row has the last cell of every column, and it has all cells of the
record just if cells of the same column have the same value. -/
theorem cells_kept_iff_consistent (read : FileReader) (aliasName : String)
    (locations : List String) :
    ((∃ b, extract read aliasName locations = .ok b) ↔
      ∀ path ∈ locations, ∃ text, read path = .ok text ∧ Legible text) ∧
    ∀ b, extract read aliasName locations = .ok b →
      List.Forall₂ (fun record r => r.origin = some aliasName ∧
          (∀ k name cell, record.At k name cell → record.LastOf aliasName k name →
            r.get? (Name.qualify aliasName name) = some (Value.ofCell cell)) ∧
          (record.KeptIn aliasName r ↔ record.Consistent aliasName))
        (sourceRecords read locations) b.rows := by
  refine ⟨exists_extract_iff, fun b h => ?_⟩
  rw [extract_rows h, List.forall₂_map_right_iff, List.forall₂_same]
  intro record _
  refine ⟨by simp [Record.row, recordRow, Row.ofList], ?_, ?_⟩
  · intro k name cell here last
    rw [here.get?_pad, Record.get?_row_of_last here last]
  · rw [Record.keptIn_pad_iff, Record.keptIn_row_iff]

/-- Two files of sales; the second one has the price already under the alias. -/
def salesFiles : FileReader := fun path =>
  if path = "north.csv" then .ok "qty,price\n3,8\n,abc\n" else .ok "sales.price,qty\n\n5,1\n"

theorem cells_kept_iff_consistent_sales :
    ∃ b, extract salesFiles "sales" ["north.csv", "south.csv"] = .ok b ∧
      List.Forall₂ (fun record r => r.origin = some "sales" ∧
          (∀ k name cell, record.At k name cell → record.LastOf "sales" k name →
            r.get? (Name.qualify "sales" name) = some (Value.ofCell cell)) ∧
          (record.KeptIn "sales" r ↔ record.Consistent "sales"))
        (sourceRecords salesFiles ["north.csv", "south.csv"]) b.rows := by
  obtain ⟨b, h⟩ := isSome_toOption_iff.1 (by decide +kernel :
    (extract salesFiles "sales" ["north.csv", "south.csv"]).toOption.isSome = true)
  have kept := cells_kept_iff_consistent salesFiles "sales" ["north.csv", "south.csv"]
  exact ⟨b, h, kept.2 b h⟩

/-- A header may name a column both with its alias and without. Then the first cell is lost. -/
theorem cell_lost_sales :
    (extract (fun _ => .ok "qty,sales.qty\n3,8\n") "sales" ["sales.csv"]).toOption.map Batch.rows =
      some [.ofList [("sales.qty", .number ⟨8, 0, by decide, by decide⟩)] (some "sales")] := by
  decide +kernel

end Csv

end RowPipeline
