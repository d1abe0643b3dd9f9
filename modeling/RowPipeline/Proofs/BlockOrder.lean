import RowPipeline.Proofs.BlockIsolation
import RowPipeline.Proofs.Rows
import RowPipeline.Run

/-! # The order of source blocks

Blocks for different aliases touch different rows, so it does not matter in which order they come.
The rows of each alias are the same in any order of the blocks. Only how the rows of the aliases are
mixed hangs on the order, and that only if aggregates put their rows at the end.
-/

namespace RowPipeline

open Outcome Text

namespace Block

/-- The blocks are for different aliases, whatever the case of ASCII letters. -/
def Apart (a b : Block) : Prop :=
  sameIgnoringCase a.aliasName b.aliasName = false

instance (a b : Block) : Decidable (a.Apart b) :=
  inferInstanceAs (Decidable (_ = false))

theorem Apart.symm {a b : Block} (h : a.Apart b) : b.Apart a :=
  (sameIgnoringCase_comm b.aliasName a.aliasName).trans h

end Block

theorem filter_eq_of_imp {α : Type} {p q : α → Bool} {xs ys : List α}
    (imp : ∀ x, p x = true → q x = true) (h : xs.filter q = ys.filter q) :
    xs.filter p = ys.filter p := by
  have narrow : ∀ zs : List α, zs.filter p = (zs.filter q).filter p := by
    intro zs
    rw [List.filter_filter]
    refine List.filter_congr fun x _ => ?_
    cases own : p x with
    | true => rw [imp x own, Bool.and_self]
    | false => rw [Bool.false_and]
  rw [narrow xs, narrow ys, h]

namespace Run

variable {config : Config} {blocks blocks' : List Block} {rows out out' : List Row}

/-- After all blocks the rows of every alias are what its own block makes of them, and rows of
aliases without a block are as they were. -/
theorem filter_of_blocks (apart : blocks.Pairwise Block.Apart)
    (h : blocks.foldlM (block config) rows = .ok out) :
    (∀ b ∈ blocks, block config (rows.filter (Row.comesFrom b.aliasName)) b =
      .ok (out.filter (Row.comesFrom b.aliasName))) ∧
    ∀ p : Row → Bool, (∀ r, p r = true → ∀ b ∈ blocks, r.comesFrom b.aliasName = false) →
      out.filter p = rows.filter p := by
  induction blocks generalizing rows with
  | nil =>
      cases h
      exact ⟨by simp, fun p _ => rfl⟩
  | cons b blocks ih =>
      obtain ⟨mid, step, rest⟩ := bind_eq_ok.1 h
      obtain ⟨others, own⟩ := filter_of_block step
      obtain ⟨first, later⟩ := List.pairwise_cons.1 apart
      obtain ⟨each, untouched⟩ := ih later rest
      have before : ∀ p : Row → Bool, (∀ r, p r = true → r.comesFrom b.aliasName = false) →
          mid.filter p = rows.filter p := fun p other =>
        filter_eq_of_imp (fun r kind => by simp [other r kind]) others
      refine ⟨List.forall_mem_cons.2 ⟨?_, fun c member => ?_⟩, fun p other => ?_⟩
      · rw [own, untouched _ fun r kind c member =>
          Row.comesFrom_of_apart kind (first c member)]
      · rw [← each c member, before _ fun r kind =>
          Row.comesFrom_of_apart kind (first c member).symm]
      · rw [untouched p fun r kind c member => other r kind c (List.mem_cons_of_mem _ member),
          before p fun r kind => other r kind b List.mem_cons_self]

theorem exists_blocks (apart : blocks.Pairwise Block.Apart)
    (each : ∀ b ∈ blocks, ∃ own,
      block config (rows.filter (Row.comesFrom b.aliasName)) b = .ok own) :
    ∃ out, blocks.foldlM (block config) rows = .ok out := by
  induction blocks generalizing rows with
  | nil => exact ⟨rows, rfl⟩
  | cons b blocks ih =>
      obtain ⟨own, alone⟩ := each b List.mem_cons_self
      obtain ⟨mid, step⟩ := exists_block alone
      obtain ⟨first, later⟩ := List.pairwise_cons.1 apart
      have others := (filter_of_block step).1
      have unchanged : ∀ c ∈ blocks,
          mid.filter (Row.comesFrom c.aliasName) = rows.filter (Row.comesFrom c.aliasName) :=
        fun c member => filter_eq_of_imp (fun r kind => by
          simp [Row.comesFrom_of_apart kind (first c member).symm]) others
      obtain ⟨out, rest⟩ : ∃ out, blocks.foldlM (block config) mid = .ok out :=
        ih later fun c member => by
          rw [unchanged c member]
          exact each c (List.mem_cons_of_mem _ member)
      exact ⟨out, bind_eq_ok.2 ⟨mid, step, rest⟩⟩

theorem exists_blocks_of_perm (apart : blocks.Pairwise Block.Apart) (perm : blocks.Perm blocks')
    (h : ∃ out, blocks.foldlM (block config) rows = .ok out) :
    ∃ out, blocks'.foldlM (block config) rows = .ok out := by
  obtain ⟨out, h⟩ := h
  refine exists_blocks ((perm.pairwise_iff Block.Apart.symm).1 apart) fun b member => ?_
  exact ⟨_, (filter_of_blocks apart h).1 b (perm.mem_iff.2 member)⟩

/-- None of the blocks is for the alias of the row. -/
def untouched (blocks : List Block) (r : Row) : Bool :=
  blocks.all fun b => !r.comesFrom b.aliasName

theorem untouched_iff {r : Row} :
    untouched blocks r = true ↔ ∀ b ∈ blocks, r.comesFrom b.aliasName = false := by
  simp [untouched]

theorem blocks_perm (apart : blocks.Pairwise Block.Apart) (perm : blocks.Perm blocks')
    (h : blocks.foldlM (block config) rows = .ok out)
    (h' : blocks'.foldlM (block config) rows = .ok out') : out.Perm out' := by
  obtain ⟨each, others⟩ := filter_of_blocks apart h
  obtain ⟨each', others'⟩ := filter_of_blocks ((perm.pairwise_iff Block.Apart.symm).1 apart) h'
  rw [List.perm_iff_count]
  intro r
  by_cases free : untouched blocks r = true
  · have same : out.filter (untouched blocks) = out'.filter (untouched blocks) := by
      rw [others _ fun r kind => untouched_iff.1 kind,
        others' _ fun r kind b member => untouched_iff.1 kind b (perm.mem_iff.2 member)]
    rw [← List.count_filter free, ← List.count_filter (l := out') free, same]
  · obtain ⟨b, member, own⟩ : ∃ b ∈ blocks, r.comesFrom b.aliasName = true := by
      simpa [untouched] using free
    have same := (each b member).symm.trans (each' b (perm.mem_iff.1 member))
    rw [← List.count_filter own, ← List.count_filter (l := out') own, Except.ok.inj same]

/-! ## Blocks without aggregates -/

theorem exchange_of_plain {a b : Block} (plain : a.Plain) (plain' : b.Plain) (apart : a.Apart b)
    (h : ∃ mid, block config rows a = .ok mid ∧ block config mid b = .ok out) :
    ∃ mid, block config rows b = .ok mid ∧ block config mid a = .ok out := by
  obtain ⟨mid, first, second⟩ := h
  obtain ⟨ops, compiled, passed⟩ := (block_eq_ok_of_plain plain).1 first
  obtain ⟨ops', compiled', passed'⟩ := (block_eq_ok_of_plain plain').1 second
  have both := RowStep.pass_andThen.2 ⟨mid, passed, passed'⟩
  have same := (only_blockRow config a.aliasName ops).andThen_comm
    (only_blockRow config b.aliasName ops') fun r own => Row.comesFrom_of_apart own apart
  rw [funext same] at both
  obtain ⟨mid', passed', passed⟩ := RowStep.pass_andThen.1 both
  exact ⟨mid', (block_eq_ok_of_plain plain').2 ⟨ops', compiled', passed'⟩,
    (block_eq_ok_of_plain plain).2 ⟨ops, compiled, passed⟩⟩

theorem blocks_eq_of_plain (apart : blocks.Pairwise Block.Apart) (plain : ∀ b ∈ blocks, b.Plain)
    (perm : blocks.Perm blocks') (h : blocks.foldlM (block config) rows = .ok out) :
    blocks'.foldlM (block config) rows = .ok out := by
  have pairwise : blocks.Pairwise fun a b => a.Plain ∧ b.Plain ∧ a.Apart b :=
    apart.imp_of_mem fun first second apart => ⟨plain _ first, plain _ second, apart⟩
  exact foldlM_eq_ok_of_perm (fun ⟨plain, plain', apart⟩ => ⟨plain', plain, apart.symm⟩)
    (fun ⟨plain, plain', apart⟩ _ _ h => exchange_of_plain plain plain' apart h) perm pairwise h

end Run

/-! ## Streams with the same rows -/

def Row.Agrees (r s : Row) : Prop :=
  r.origin = s.origin ∧ ∀ c, r.get? c = s.get? c

/-- The streams hold the same rows, each as often, in whatever order. -/
def SameRows (out out' : List Row) : Prop :=
  ∃ mid, out.Perm mid ∧ List.Forall₂ Row.Agrees mid out'

theorem SameRows.of_perm {out out' : List Row} (perm : out.Perm out') : SameRows out out' :=
  ⟨out', perm, List.forall₂_same.2 fun _ _ => ⟨rfl, fun _ => rfl⟩⟩

theorem SameRows.padAll {out out' : List Row} (perm : out.Perm out') :
    SameRows (Row.padAll out) (Row.padAll out') := by
  refine ⟨out'.map (Row.pad (Row.allColumns out)), perm.map _, ?_⟩
  rw [Row.padAll, List.forall₂_map_left_iff, List.forall₂_map_right_iff]
  refine List.forall₂_same.2 fun r _ => ⟨?_, fun c => ?_⟩
  · rw [Row.origin_pad, Row.origin_pad]
  · have same : c ∈ Row.allColumns out ↔ c ∈ Row.allColumns out' := by
      simp only [Row.mem_allColumns, perm.mem_iff]
    rw [Row.get?_pad, Row.get?_pad]
    simp only [same]

namespace Run

variable {config : Config} {blocks blocks' : List Block} {rows out out' : List Row}

theorem allRows_nil (config : Config) (rows : List Row) : allRows config [] rows = .ok rows := by
  have kept : RowOp.onRows (mode config none) [] rows = .ok rows := by
    simp only [RowOp.onRows, RowOp.onRow, List.mapM_pure, pure_bind, List.filterMap_map]
    simp [pure, Except.pure]
  have compiled : Reduction.compile config none [] = .ok [] :=
    compile_of_plain config none (by simp)
  have start : RowOp.compile none [] = .ok [] := rfl
  rw [allRows, start]
  simp only [bind, Except.bind, kept, compiled]
  rfl

def withBlocks (p : Pipeline) (blocks : List Block) : Pipeline :=
  { p with transform := some { blocks := blocks } }

theorem transform_withBlocks {p : Pipeline} {batches : List Batch} :
    transform config (withBlocks p blocks) batches = .ok out ↔
      ∃ rows, blocks.foldlM (block config) (Batch.merge batches) = .ok rows ∧
        (if blocks.isEmpty then rows else Row.padAll rows) = out := by
  simp only [transform, withBlocks, bind_eq_ok, allRows_nil, Except.ok.injEq]

/-- A block puts the rows of its aggregates behind all rows of other aliases. What it reduces is
what its operations on rows leave of the rows of its alias. -/
theorem block_eq_append {b : Block} (h : block config rows b = .ok out) :
    ∃ own front reduced,
      RowOp.apply (mode config (some b.aliasName)) b.operations
        (rows.filter (Row.comesFrom b.aliasName)) = .ok own ∧
      out = front ++ reduced ∧
      front.filter (fun r => !r.comesFrom b.aliasName) =
        rows.filter (fun r => !r.comesFrom b.aliasName) ∧
      ∃ cs, Reduction.compile config (some b.aliasName) b.operations = .ok cs ∧
        if cs.isEmpty then front.filter (Row.comesFrom b.aliasName) = own ∧ reduced = []
        else (∀ r ∈ front, r.comesFrom b.aliasName = false) ∧
          Reduction.runAll cs (mode config (some b.aliasName)) config.emptyGroups own =
            .ok reduced := by
  obtain ⟨ops, cs, kept, compiled, compiledAggregates, passed, h⟩ := block_eq_ok.1 h
  obtain ⟨others, own⟩ := (only_blockRow config b.aliasName ops).filter_of_pass passed
  rw [pass_blockRow_own fun r member => (List.mem_filter.1 member).2] at own
  have applied : RowOp.apply (mode config (some b.aliasName)) b.operations
      (rows.filter (Row.comesFrom b.aliasName)) =
        .ok (kept.filter (Row.comesFrom b.aliasName)) :=
    bind_eq_ok.2 ⟨ops, compiled, own⟩
  unfold reduceOwn at h
  split at h
  next none =>
    cases h
    exact ⟨_, out, [], applied, (List.append_nil _).symm, others, cs, compiledAggregates,
      by rw [if_pos none]; exact ⟨rfl, rfl⟩⟩
  next some =>
    obtain ⟨reduced, ran, rfl⟩ := map_eq_ok.1 h
    refine ⟨_, _, reduced, applied, rfl, ?_, cs, compiledAggregates, ?_⟩
    · rw [List.filter_filter]
      simpa only [Bool.and_self] using others
    · rw [if_neg some]
      exact ⟨by simp, ran⟩

/-- Source blocks are isolated from each other, and their order does not matter. A block leaves the
rows of other aliases as they are, in front of the rows of its aggregates; these come from `own`,
the rows of its alias that its operations on rows leave. Blocks for different aliases have a result
in every order or in none; the streams hold the same rows, and without aggregates they are
identical. -/
theorem blocks_isolated_unordered (config : Config) :
    (∀ b rows out, block config rows b = .ok out →
      ∃ own front reduced,
        RowOp.apply (mode config (some b.aliasName)) b.operations
          (rows.filter (Row.comesFrom b.aliasName)) = .ok own ∧
        out = front ++ reduced ∧
        front.filter (fun r => !r.comesFrom b.aliasName) =
          rows.filter (fun r => !r.comesFrom b.aliasName) ∧
        ∃ cs, Reduction.compile config (some b.aliasName) b.operations = .ok cs ∧
          if cs.isEmpty then front.filter (Row.comesFrom b.aliasName) = own ∧ reduced = []
          else (∀ r ∈ front, r.comesFrom b.aliasName = false) ∧
            Reduction.runAll cs (mode config (some b.aliasName)) config.emptyGroups own =
              .ok reduced) ∧
    ∀ p batches blocks blocks', blocks.Pairwise Block.Apart → blocks.Perm blocks' →
      ((∃ out, transform config (withBlocks p blocks) batches = .ok out) ↔
        ∃ out, transform config (withBlocks p blocks') batches = .ok out) ∧
      ∀ out out', transform config (withBlocks p blocks) batches = .ok out →
        transform config (withBlocks p blocks') batches = .ok out' →
        SameRows out out' ∧ ((∀ b ∈ blocks, b.Plain) → out = out') := by
  refine ⟨fun b rows out h => block_eq_append h, ?_⟩
  intro p batches blocks blocks' apart perm
  have apart' := (perm.pairwise_iff Block.Apart.symm).1 apart
  refine ⟨⟨?_, ?_⟩, ?_⟩
  · rintro ⟨out, h⟩
    obtain ⟨rows, ran, _⟩ := transform_withBlocks.1 h
    obtain ⟨rows', ran'⟩ := exists_blocks_of_perm apart perm ⟨rows, ran⟩
    exact ⟨_, transform_withBlocks.2 ⟨rows', ran', rfl⟩⟩
  · rintro ⟨out, h⟩
    obtain ⟨rows, ran, _⟩ := transform_withBlocks.1 h
    obtain ⟨rows', ran'⟩ := exists_blocks_of_perm apart' perm.symm ⟨rows, ran⟩
    exact ⟨_, transform_withBlocks.2 ⟨rows', ran', rfl⟩⟩
  · intro out out' h h'
    obtain ⟨rows, ran, rfl⟩ := transform_withBlocks.1 h
    obtain ⟨rows', ran', rfl⟩ := transform_withBlocks.1 h'
    have mixed := blocks_perm apart perm ran ran'
    rw [perm.isEmpty_eq]
    refine ⟨?_, fun plain => ?_⟩
    · split
      · exact .of_perm mixed
      · exact .padAll mixed
    · have same := blocks_eq_of_plain apart plain perm ran
      rw [Except.ok.inj (same.symm.trans ran')]

/-- Sales and rates in one stream. -/
def salesAndRates : List Batch :=
  [.ofRows "sales" [.ofList [("sales.qty", .number .one)] none],
    .ofRows "rates" [.ofList [("rates.tax", .number .one)] none]]

def countSales : Block :=
  ⟨"sales", [.aggregate "count" "qty" [] ⟨"n", none⟩]⟩

def doubleRates : Block :=
  ⟨"rates", [.map "tax + tax" ⟨"double", none⟩]⟩

theorem blocks_isolated_unordered_sales :
    (∃ out, block {} (Batch.merge salesAndRates) countSales = .ok out ∧
      ∃ own front reduced,
        RowOp.apply (mode {} (some "sales")) countSales.operations
          ((Batch.merge salesAndRates).filter (Row.comesFrom "sales")) = .ok own ∧
        out = front ++ reduced ∧
        front.filter (fun r => !r.comesFrom "sales") =
          (Batch.merge salesAndRates).filter (fun r => !r.comesFrom "sales")) ∧
    ∃ out out', transform {} (withBlocks ⟨"p", "", none, none, none⟩ [countSales, doubleRates])
        salesAndRates = .ok out ∧
      transform {} (withBlocks ⟨"p", "", none, none, none⟩ [doubleRates, countSales])
        salesAndRates = .ok out' ∧ SameRows out out' := by
  obtain ⟨out, counted⟩ := isSome_toOption_iff.1
    (by decide +kernel : (block {} (Batch.merge salesAndRates) countSales).toOption.isSome = true)
  obtain ⟨own, front, reduced, applied, split, others, _⟩ :=
    (blocks_isolated_unordered {}).1 countSales _ out counted
  refine ⟨⟨out, counted, own, front, reduced, applied, split, others⟩, ?_⟩
  obtain ⟨both, agree⟩ := (blocks_isolated_unordered {}).2 ⟨"p", "", none, none, none⟩
    salesAndRates [countSales, doubleRates] [doubleRates, countSales] (by decide)
    (.swap doubleRates countSales [])
  obtain ⟨out, first⟩ := isSome_toOption_iff.1
    (by decide +kernel : (transform {} (withBlocks ⟨"p", "", none, none, none⟩
      [countSales, doubleRates]) salesAndRates).toOption.isSome = true)
  obtain ⟨out', second⟩ := both.1 ⟨out, first⟩
  exact ⟨out, out', first, second, (agree out out' first second).1⟩

end Run

end RowPipeline
