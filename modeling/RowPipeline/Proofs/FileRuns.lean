import RowPipeline.Proofs.Cells
import RowPipeline.Proofs.GroupFold
import RowPipeline.Proofs.LooserTypes

/-! # Runs over source files

A run reads its source files twice: a check takes the columns from the headers and declares them to
be numbers, and afterwards the rows are extracted. Extraction finds the same columns in the same
order, and checks of its batches leave their types open. So a run over files comes to the rows that
its batches come to.
-/

namespace RowPipeline

open Outcome

/-! ## Columns from headers and from batches -/

namespace Registry

/-- The second register knows the columns of the first, and none of their types. -/
structure UntypedCopy (r s : Registry) : Prop where
  looser : r.LoosenedTo s
  untyped : s.Untyped

variable {r s : Registry}

theorem UntypedCopy.register (copy : r.UntypedCopy s) (name : String)
    (type : Option ColumnType) : (r.register name type).UntypedCopy (s.registerNew name) := by
  refine ⟨?_, copy.untyped.registerNew name⟩
  rw [copy.untyped.registerNew_eq]
  exact copy.looser.register name (.inl rfl)

theorem UntypedCopy.foldl_register (copy : r.UntypedCopy s) (name : String → String)
    (type : Option ColumnType) (columns : List String) :
    (columns.foldl (fun r c => r.register (name c) type) r).UntypedCopy
      ((columns.map name).foldl registerNew s) := by
  induction columns generalizing r s with
  | nil => exact copy
  | cons c columns ih => exact ih (copy.register (name c) type)

theorem registerNew_of_contains {name : String} (present : s.contains name = true) :
    s.registerNew name = s :=
  if_pos present

theorem foldl_registerNew_eraseDups (names : List String) (s : Registry) :
    names.eraseDups.foldl registerNew s = names.foldl registerNew s := by
  induction names using List.reverseRecOn with
  | nil => rfl
  | append_singleton names name ih =>
      rw [OrderedMap.eraseDups_append_singleton, List.foldl_append]
      split
      next again =>
        have present : (names.foldl registerNew s).contains name = true :=
          contains_foldl_registerNew.2 (.inl ⟨name, again, rfl⟩)
        rw [ih]
        exact (registerNew_of_contains present).symm
      next => rw [List.foldl_append, ih]

end Registry

theorem Csv.readFile_ok {read : FileReader} {aliasName path : String} {file : Batch}
    (h : readFile read aliasName path = .ok file) :
    ∃ names, header read path = .ok names ∧ file.columns = names.map (Name.qualify aliasName) := by
  obtain ⟨text, first, rest, source, content, -, rfl⟩ := readFile_eq_ok.1 h
  refine ⟨cells first, bind_eq_ok.2 ⟨text, mapError_eq_ok.2 source, ?_⟩, rfl⟩
  rw [content]
  rfl

theorem Csv.extract_ok {read : FileReader} {aliasName : String} {locations : List String}
    {b : Batch} (h : extract read aliasName locations = .ok b) :
    ∃ files, List.Forall₂ (fun path file => readFile read aliasName path = .ok file)
        locations files ∧ b.columns = (files.flatMap Batch.columns).eraseDups := by
  obtain ⟨files, each, h⟩ := bind_eq_ok.1 h
  cases h
  exact ⟨files, mapM_eq_ok.1 each, rfl⟩

namespace Check

variable {read : FileReader} {r r' s : Registry}

theorem registerHeader_ok {aliasName path : String} {file : Batch}
    (copy : r.UntypedCopy s) (registered : registerHeader read aliasName r path = .ok r')
    (extracted : Csv.readFile read aliasName path = .ok file) :
    r'.UntypedCopy (file.columns.foldl Registry.registerNew s) := by
  obtain ⟨names, header, columns⟩ := Csv.readFile_ok extracted
  obtain ⟨names', header', registered⟩ := bind_eq_ok.1 registered
  cases registered
  obtain rfl : names = names' :=
    Except.ok.inj (header.symm.trans (mapError_eq_ok.1 header'))
  rw [columns]
  exact copy.foldl_register (Name.qualify aliasName) (some .decimal) names

theorem registerHeaders_ok {aliasName : String} {locations : List String} {files : List Batch}
    (copy : r.UntypedCopy s)
    (registered : locations.foldlM (registerHeader read aliasName) r = .ok r')
    (extracted : List.Forall₂ (fun path file => Csv.readFile read aliasName path = .ok file)
      locations files) :
    r'.UntypedCopy ((files.flatMap Batch.columns).foldl Registry.registerNew s) := by
  induction extracted generalizing r s with
  | nil =>
      cases registered
      exact copy
  | cons first _ ih =>
      obtain ⟨m, step, registered⟩ := bind_eq_ok.1 registered
      rw [List.flatMap_cons, List.foldl_append]
      exact ih (registerHeader_ok copy step first) registered

/-- The headers of all sources bring the columns that the batches bring. -/
theorem registerSources_ok {sources : List Source} {batches : List Batch}
    (copy : r.UntypedCopy s)
    (registered : sources.foldlM
      (fun r s => s.locations.foldlM (registerHeader read s.aliasName) r) r = .ok r')
    (extracted : List.Forall₂ (fun s b => Csv.extract read s.aliasName s.locations = .ok b)
      sources batches) :
    r'.UntypedCopy ((batches.flatMap Batch.columns).foldl Registry.registerNew s) := by
  induction extracted generalizing r s with
  | nil =>
      cases registered
      exact copy
  | cons first _ ih =>
      obtain ⟨m, step, registered⟩ := bind_eq_ok.1 registered
      obtain ⟨files, each, columns⟩ := Csv.extract_ok first
      rw [List.flatMap_cons, List.foldl_append, columns, Registry.foldl_registerNew_eraseDups]
      exact ih (registerHeaders_ok copy step each) registered

theorem declared_of_undeclared {sources : List Source}
    (undeclared : ∀ s ∈ sources, s.columns = none) : declared sources = .empty := by
  unfold declared
  induction sources with
  | nil => rfl
  | cons s sources ih =>
      obtain ⟨first, later⟩ := List.forall_mem_cons.1 undeclared
      have nothing : registerDeclared .empty s = .empty := by
        rw [registerDeclared, first]
        rfl
      rw [List.foldl_cons, nothing]
      exact ih later

theorem seed_of_undeclared {sources : List Source}
    (undeclared : ∀ s ∈ sources, s.columns = none) :
    seed read sources = sources.foldlM
      (fun r s => s.locations.foldlM (registerHeader read s.aliasName) r) .empty := by
  have all : (sources.filter fun s => s.columns.isNone) = sources := by
    apply List.filter_eq_self.2
    intro s member
    rw [undeclared s member]
    rfl
  rw [seed, all, declared_of_undeclared undeclared]

end Check

/-! ## Runs -/

namespace Run

variable {read : FileReader} {config : Config} {p : Pipeline}

theorem extract_ok {batches : List Batch} (h : extract read p = .ok batches) :
    ∃ sources, p.extract = some sources ∧
      List.Forall₂ (fun s b => Csv.extract read s.aliasName s.locations = .ok b)
        sources batches := by
  unfold extract at h
  split at h
  next => cases h
  next sources extracts => exact ⟨sources, extracts, mapM_eq_ok.1 (mapError_eq_ok.1 h)⟩

theorem ofFiles_ok {target : LoadTarget} {rows : List Row}
    (h : ofFiles read config p = .ok (target, rows)) :
    (config.validateFirst = true → ∃ known, Check.pipeline read p = .ok known) ∧
      p.load = some target ∧
      ∃ batches, extract read p = .ok batches ∧ transform config p batches = .ok rows := by
  simp only [ofFiles] at h
  cases loads : p.load with
  | none =>
      simp only [loads] at h
      split at h
      · obtain ⟨_, _, h⟩ := bind_eq_ok.1 h
        cases h
      · cases h
  | some target' =>
      have loaded (h : (do
          let batches ← extract read p
          let rows ← (transform config p batches).mapError .operation
          return (target', rows)) = (Except.ok (target, rows) : Except RunError _)) :
          some target' = some target ∧ ∃ batches, extract read p = .ok batches ∧
            transform config p batches = .ok rows := by
        obtain ⟨batches, extracted, h⟩ := bind_eq_ok.1 h
        obtain ⟨rows', transformed, h⟩ := bind_eq_ok.1 h
        cases h
        exact ⟨rfl, batches, extracted, mapError_eq_ok.1 transformed⟩
      simp only [loads] at h
      split at h
      next validates =>
        obtain ⟨known, checked, h⟩ := bind_eq_ok.1 h
        exact ⟨fun _ => ⟨known, mapError_eq_ok.1 checked⟩, loaded h⟩
      next unvalidated =>
        exact ⟨fun validates => absurd validates unvalidated, loaded h⟩

/-- What passes its check against the headers of its files passes it against their batches. -/
theorem checkBatches_of_pipeline {batches : List Batch} {known : Registry}
    (undeclared : ∀ s ∈ p.extract.getD [], s.columns = none)
    (checked : Check.pipeline read p = .ok known) (extracted : extract read p = .ok batches) :
    ∃ known', checkBatches p batches = .ok known' := by
  obtain ⟨sources, extracts, each⟩ := extract_ok extracted
  obtain ⟨⟨sources', _⟩, steps, checked⟩ := bind_eq_ok.1 checked
  obtain ⟨r, seeded, passes⟩ := bind_eq_ok.1 checked
  obtain rfl : sources = sources' :=
    Option.some.inj (extracts.symm.trans (Check.steps_eq_ok steps).1)
  rw [extracts, Option.getD_some] at undeclared
  rw [Check.seed_of_undeclared undeclared] at seeded
  have copy : r.UntypedCopy (knownColumns sources batches) := by
    rw [knownColumns, Check.declared_of_undeclared undeclared]
    exact Check.registerSources_ok ⟨.refl _, Registry.untyped_empty⟩ seeded each
  obtain ⟨known', passed, _⟩ := Check.operationsOf_loosened p copy.looser known passes
  refine ⟨known', ?_⟩
  unfold checkBatches
  rw [extracts]
  exact passed

theorem ofBatches_of_transform {batches : List Batch} {rows : List Row}
    (checked : config.validateFirst = true → ∃ known, checkBatches p batches = .ok known)
    (transformed : transform config p batches = .ok rows) :
    ofBatches config p batches = .ok rows := by
  unfold ofBatches
  split
  next validates =>
    obtain ⟨known, checked⟩ := checked validates
    rw [checked, transformed]
    rfl
  next =>
    rw [transformed]
    rfl

/-- A run over files that collects its rows in memory collects the rows of the batches that it
extracts, if no source declares its columns. A run that fails, for whatever reason, leaves the
collection as it was. -/
theorem into_memory (read : FileReader) (config : Config) (p : Pipeline) (m m' : Memory) :
    (∀ n, (∀ s ∈ p.extract.getD [], s.columns = none) → config.validateFirst = true →
      into Memory.load read config p m = (.ok n, m') →
        ∃ batches rows target, extract read p = .ok batches ∧
          ofBatches config p batches = .ok rows ∧ rows.length = n ∧
          p.load = some target ∧ m'.target = some target ∧ m'.rows = m.rows ++ rows) ∧
      ∀ e, into Memory.load read config p m = (.error e, m') → m' = m := by
  constructor
  · intro n undeclared validates h
    unfold into at h
    cases ran : ofFiles read config p with
    | error e =>
        rw [ran] at h
        cases h
    | ok result =>
        obtain ⟨target, rows⟩ := result
        rw [ran] at h
        cases h
        obtain ⟨checked, loads, batches, extracted, transformed⟩ := ofFiles_ok ran
        obtain ⟨known, checked⟩ := checked validates
        have passed := checkBatches_of_pipeline undeclared checked extracted
        have same := ofBatches_of_transform (fun _ => passed) transformed
        exact ⟨batches, rows, target, extracted, same, rfl, loads, rfl, rfl⟩
  · intro e h
    unfold into at h
    cases ran : ofFiles read config p with
    | error e' =>
        rw [ran] at h
        cases h
        rfl
    | ok result =>
        -- collecting in memory never fails
        rw [ran] at h
        cases h

def salesFiles : FileReader := fun path =>
  if path = "sales.csv" then .ok "product,qty\nA,3\nB,8\n" else .error .notFound

def largeSales (path : String) : Pipeline where
  name := "p"
  extract := some [⟨"sales", [path], none⟩]
  transform := some { operations := [.filter "qty > 5"] }
  load := some ⟨"memory", "out"⟩

theorem into_memory_largeSales :
    (∃ batches rows, extract salesFiles (largeSales "sales.csv") = .ok batches ∧
        ofBatches {} (largeSales "sales.csv") batches = .ok rows ∧ rows.length = 1 ∧
        (into Memory.load salesFiles {} (largeSales "sales.csv") ⟨none, [.empty]⟩).2.rows =
          .empty :: rows) ∧
      (into Memory.load salesFiles {} (largeSales "lost.csv") ⟨none, [.empty]⟩).2 =
        ⟨none, [.empty]⟩ := by
  have collected : (into Memory.load salesFiles {} (largeSales "sales.csv") ⟨none, [.empty]⟩).1 =
      .ok 1 := by decide +kernel
  have lost : (into Memory.load salesFiles {} (largeSales "lost.csv") ⟨none, [.empty]⟩).1 =
      .error (.check (.sourceUnavailable (.unreadable "lost.csv" .notFound))) := by
    decide +kernel
  have undeclared : ∀ s ∈ (largeSales "sales.csv").extract.getD [], s.columns = none := by
    decide
  constructor
  · obtain ⟨batches, rows, _, extracted, same, length, _, _, behind⟩ :=
      (into_memory salesFiles {} (largeSales "sales.csv") ⟨none, [.empty]⟩ _).1 1 undeclared rfl
        (Prod.ext collected rfl)
    exact ⟨batches, rows, extracted, same, length, behind⟩
  · exact (into_memory salesFiles {} (largeSales "lost.csv") ⟨none, [.empty]⟩ _).2 _
      (Prod.ext lost rfl)

end Run

end RowPipeline
