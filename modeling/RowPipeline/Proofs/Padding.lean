import RowPipeline.Proofs.GroupFold
import RowPipeline.Proofs.Resolution

/-! # Padding

A padded row has all columns of its stream, the values that it had before, and nulls elsewhere.
Padding goes two ways, keeping a row that has the columns already and building any other anew; that
both come to this is what the values and columns of a padded row say. Once every row has the columns
of the stream there is nothing left to do.
-/

namespace RowPipeline

namespace Row

/-- The row has been filled up to the given columns: it has these and no others, it keeps its
values, and where it had none it has null. -/
structure IsPadded (all : List String) (r padded : Row) : Prop where
  columns : ∀ column, column ∈ padded.columns ↔ column ∈ all
  kept : ∀ column v, r.get? column = some v → padded.get? column = some v
  filled : ∀ column ∈ all, column ∉ r.columns → padded.get? column = some .null

theorem isPadded_pad {all columns : List String} {r : Row}
    (same : ∀ column, column ∈ columns ↔ column ∈ all) (sub : r.columns ⊆ all) :
    r.IsPadded all (r.pad columns) where
  columns := by
    intro column
    rw [mem_columns_pad, same, or_iff_left_iff_imp]
    exact fun own => sub own
  kept := by
    intro column v held
    rw [get?_pad, held]
    split <;> rfl
  filled := by
    intro column wanted absent
    rw [get?_pad, if_pos ((same column).2 wanted), get?_eq_none_iff.2 absent]
    rfl

theorem pad_of_mem_iff {columns : List String} {r : Row} (nodup : columns.Nodup)
    (same : ∀ column, column ∈ columns ↔ column ∈ r.columns) : r.pad columns = r := by
  have perm : r.columns.Perm columns :=
    (List.perm_ext_iff_of_nodup r.nodup_columns nodup).2 fun column => (same column).symm
  have length : r.columns.length = r.size := List.length_map _
  have exact : r.hasExactly columns = true := by
    rw [hasExactly, Bool.and_eq_true, List.all_eq_true, beq_iff_eq]
    refine ⟨?_, by rw [← length, perm.length_eq]⟩
    intro column wanted
    exact contains_iff.2 ((same column).1 wanted)
  exact if_pos exact

theorem isPadded_of_mem {rows : List Row} {r : Row} (member : r ∈ rows) :
    r.IsPadded (rows.flatMap columns) (r.pad (allColumns rows)) := by
  apply isPadded_pad
  · intro column
    exact List.mem_eraseDups
  · intro column own
    exact List.mem_flatMap.2 ⟨r, member, own⟩

theorem padAll_padAll (rows : List Row) : padAll (padAll rows) = padAll rows := by
  have kept : ∀ padded ∈ padAll rows, padded.pad (allColumns (padAll rows)) = padded := by
    intro padded member
    refine pad_of_mem_iff (OrderedMap.nodup_eraseDups _) fun column => ?_
    -- All padded rows have the same columns, those of this row.
    rw [mem_allColumns, mem_columns_of_mem_padAll member]
    constructor
    · rintro ⟨other, listed, own⟩
      exact (mem_columns_of_mem_padAll listed).1 own
    · intro own
      exact ⟨padded, member, (mem_columns_of_mem_padAll member).2 own⟩
  exact (List.map_congr_left kept).trans (List.map_id _)

end Row

namespace Batch

open Row

def columnsOfAll (batches : List Batch) : List String :=
  batches.flatMap fun b => b.columns ++ b.rows.flatMap Row.columns

/-- The rows of all batches in order, each with its batch. -/
def rowsOfAll (batches : List Batch) : List (Batch × Row) :=
  batches.flatMap fun b => b.rows.map (b, ·)

theorem merge_eq_map (batches : List Batch) :
    merge batches = (rowsOfAll batches).map fun own =>
      (own.2.withOrigin own.1.aliasName).pad (allColumns batches) := by
  simp only [merge, rowsOfAll, List.map_flatMap, List.map_map, Function.comp_def]

theorem isPadded_of_mem {batches : List Batch} {own : Batch × Row}
    (member : own ∈ rowsOfAll batches) :
    own.2.IsPadded (columnsOfAll batches)
      ((own.2.withOrigin own.1.aliasName).pad (allColumns batches)) := by
  obtain ⟨b, listed, inside⟩ := List.mem_flatMap.1 member
  obtain ⟨r, placed, rfl⟩ := List.mem_map.1 inside
  -- The origin has no part in the columns and values.
  have padded : (r.withOrigin b.aliasName).IsPadded (columnsOfAll batches)
      ((r.withOrigin b.aliasName).pad (allColumns batches)) := by
    apply isPadded_pad
    · intro column
      exact List.mem_eraseDups
    · intro column held
      refine List.mem_flatMap.2 ⟨b, listed, List.mem_append_right _ ?_⟩
      exact List.mem_flatMap.2 ⟨r, placed, held⟩
  exact ⟨padded.columns, padded.kept, padded.filled⟩

/-- Merging yields the rows of the batches one for one and in order. Each has the columns of all
batches and of all rows and no others, keeps its values, has null in the other columns, and has its
own origin or else the alias of its batch. Padding a stream does the same with the columns of its
rows and leaves their origins alone, and padding it again changes nothing. -/
theorem merge_and_padAll_lossless (batches : List Batch) (rows : List Row) :
    List.Forall₂ (fun own merged => own.2.IsPadded (columnsOfAll batches) merged ∧
        merged.origin = some (own.2.origin.getD own.1.aliasName))
      (rowsOfAll batches) (merge batches) ∧
    List.Forall₂ (fun r padded => r.IsPadded (rows.flatMap Row.columns) padded ∧
        padded.origin = r.origin)
      rows (padAll rows) ∧
    padAll (padAll rows) = padAll rows := by
  refine ⟨?_, ?_, padAll_padAll rows⟩
  · rw [merge_eq_map, List.forall₂_map_right_iff, List.forall₂_same]
    intro own member
    refine ⟨isPadded_of_mem member, ?_⟩
    rw [origin_pad, withOrigin]
    cases own.2.origin <;> rfl
  · rw [padAll, List.forall₂_map_right_iff, List.forall₂_same]
    intro r member
    exact ⟨Row.isPadded_of_mem member, origin_pad _ r⟩

end Batch

end RowPipeline
