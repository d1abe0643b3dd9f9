import RowPipeline.Proofs.Printing
import RowPipeline.Proofs.Resolution

/-! # Names in another spelling

A row whose columns do not differ in case alone resolves every spelling of a name alike, with an
alias, without one and by the field alone. Only the message of a failure shows the spelling.
-/

namespace RowPipeline

open Text

namespace Name

theorem hasField_spelling {s t : String} (h : sameIgnoringCase s t = true) :
    hasField s = hasField t := by
  funext name
  rw [Bool.eq_iff_iff, hasField_iff, hasField_iff, sameIgnoringCase_iff.1 h]

end Name

namespace ColumnRef

theorem hasAlias_ofName (s : String) : (ofName s).hasAlias = (Name.field? s).isSome := by
  unfold ofName Name.field?
  cases Name.split? s <;> rfl

theorem name_ofName (s : String) : (ofName s).name = (Name.field? s).getD s := by
  unfold ofName Name.field?
  cases Name.split? s <;> rfl

end ColumnRef

namespace Row

theorem findColumn?_spelling {r : Row} (alike : Name.SpelledAlike r.columns) {s t : String}
    (h : sameIgnoringCase s t = true) : r.findColumn? s = r.findColumn? t := by
  cases found : r.findColumn? t with
  | none =>
      rw [findColumn?_eq_none_iff] at found ⊢
      intro column member
      rw [← found column member, Bool.eq_iff_iff, sameIgnoringCase_iff, sameIgnoringCase_iff,
        sameIgnoringCase_iff.1 h]
  | some column =>
      obtain ⟨member, same⟩ := findColumn?_eq_some found
      exact findColumn?_of_alike alike member
        (sameIgnoringCase_trans same (sameIgnoringCase_comm s t ▸ h))

/-- In a row whose columns do not differ in case alone, spellings of one name stand for the same
column. -/
theorem resolve_spelling {r : Row} (alike : Name.SpelledAlike r.columns) (scope : Option String)
    {s t : String} (h : sameIgnoringCase s t = true) :
    (r.resolve scope (.ofName s)).toOption = (r.resolve scope (.ofName t)).toOption := by
  have fields := Name.map_foldAscii_field? s
  rw [foldAscii_eq_iff.1 (sameIgnoringCase_iff.1 h), ← Name.map_foldAscii_field? t] at fields
  have qualified : (ColumnRef.ofName s).hasAlias = (ColumnRef.ofName t).hasAlias := by
    rw [ColumnRef.hasAlias_ofName, ColumnRef.hasAlias_ofName, ← Option.isSome_map (f := foldAscii),
      fields, Option.isSome_map]
  have named : sameIgnoringCase (ColumnRef.ofName s).name (ColumnRef.ofName t).name = true := by
    rw [ColumnRef.name_ofName, ColumnRef.name_ofName]
    cases hs : Name.field? s <;> cases ht : Name.field? t <;> simp_all [sameIgnoringCase_iff]
  cases aliased : (ColumnRef.ofName t).hasAlias with
  | true =>
      simp only [resolve, qualified, aliased, if_true, ColumnRef.written_ofName,
        findColumn?_spelling alike h, findColumn?_spelling alike named]
      cases (r.findColumn? t).or (r.findColumn? (ColumnRef.ofName t).name) <;> rfl
  | false =>
      have underScope : sameIgnoringCase (Name.inScope scope s) (Name.inScope scope t) = true := by
        cases scope with
        | none => exact h
        | some aliasName => exact Name.qualify_congr (sameIgnoringCase_refl aliasName) h
      rw [resolve_bare (qualified.trans aliased), resolve_bare aliased, ColumnRef.written_ofName,
        ColumnRef.written_ofName, findColumn?_spelling alike underScope,
        findColumn?_spelling alike h, columnsOfField, columnsOfField, Name.hasField_spelling h]
      cases (r.findColumn? (Name.inScope scope t)).or (r.findColumn? t) with
      | some column => rfl
      | none =>
          rcases r.columns.filter (Name.hasField t) with _ | ⟨column, _ | ⟨_, _⟩⟩ <;> rfl

end Row

end RowPipeline
