import RowPipeline.Proofs.Spelling

/-! # Putting an alias in front of a column

A column stands under an alias if it begins with it, in whatever case its ASCII letters are, and a
point and at least one more character follow. Putting the alias in front leaves such a column as it
is and makes any other one such a column, so doing it twice is doing it once. Under an alias without
a point the part behind the first point is the column as it was written without the alias.

The same columns are found by looking at bytes: texts that differ in the case of ASCII letters alone
have equally many, so the alias can only be as many first bytes of the column as it has itself.
-/

namespace RowPipeline

namespace Text

theorem utf8Size_toLower (c : Char) : c.toLower.utf8Size = c.utf8Size := by
  have size : ∀ d : Char, d.utf8Size =
      if d.toNat ≤ 0x7f then 1 else if d.toNat ≤ 0x7ff then 2
      else if d.toNat ≤ 0xffff then 3 else 4 := by
    intro d
    unfold Char.utf8Size
    simp only [UInt32.le_iff_toNat_le]
    rfl
  rw [size, size, toNat_toLower]
  split
  next capital => rw [if_pos (by omega), if_pos (by omega)]
  next => rfl

theorem utf8ByteSize_foldAscii (s : String) : (foldAscii s).utf8ByteSize = s.utf8ByteSize := by
  rw [← String.ofList_toList (s := s), foldAscii, String.toList_ofList]
  induction s.toList with
  | nil => rfl
  | cons c cs ih =>
      rw [List.map_cons, String.ofList_cons, String.ofList_cons, String.utf8ByteSize_append,
        String.utf8ByteSize_append, ih, String.utf8ByteSize_singleton,
        String.utf8ByteSize_singleton, utf8Size_toLower]

theorem utf8ByteSize_of_same {s t : String} (same : sameIgnoringCase s t = true) :
    s.utf8ByteSize = t.utf8ByteSize := by
  rw [← utf8ByteSize_foldAscii s, sameIgnoringCase_iff.1 same, utf8ByteSize_foldAscii]

theorem point_mem_of_same {s t : String} (same : sameIgnoringCase s t = true) :
    '.' ∈ s.toList ↔ '.' ∈ t.toList := by
  have folded : ∀ u : String, '.' ∈ u.toList.map Char.toLower ↔ '.' ∈ u.toList := by
    intro u
    simp only [List.mem_map, toLower_eq_point_iff, exists_eq_right]
  rw [← folded s, ← folded t, foldAscii_eq_iff.1 (sameIgnoringCase_iff.1 same)]

end Text

namespace Name

open Text

/-- The column is the alias in some case of its ASCII letters, a point and the field, which is not
empty. -/
def FieldUnder (aliasName column field : String) : Prop :=
  field ≠ "" ∧ ∃ head, column = head ++ "." ++ field ∧ sameIgnoringCase head aliasName = true

/-- Cut behind as many bytes as the alias has, the column is the alias in some case of its ASCII
letters and a rest of a point and something more. Inside a character there is no cut. -/
def CutUnder (aliasName column : String) : Prop :=
  aliasName.utf8ByteSize + 1 < column.utf8ByteSize ∧
    ∃ head rest, column = head ++ rest ∧ head.utf8ByteSize = aliasName.utf8ByteSize ∧
      sameIgnoringCase head aliasName = true ∧ rest.toList.head? = some '.'

theorem startsWithAlias_iff {aliasName column : List Char} :
    startsWithAlias aliasName column = true ↔
      ∃ head field, column = head ++ '.' :: field ∧
        head.map Char.toLower = aliasName.map Char.toLower ∧ field ≠ [] := by
  simp only [startsWithAlias, Bool.and_eq_true, beq_iff_eq]
  constructor
  · rintro ⟨same, behind⟩
    split at behind
    next d field cut =>
      refine ⟨column.take aliasName.length, d :: field, ?_, same, List.cons_ne_nil d field⟩
      rw [← cut, List.take_append_drop]
    next => cases behind
  · rintro ⟨head, field, rfl, same, nonempty⟩
    have size : head.length = aliasName.length := by simpa using congrArg List.length same
    obtain ⟨d, field, rfl⟩ := List.exists_cons_of_ne_nil nonempty
    simp [← size, same]

theorem isUnder_iff {aliasName column : String} :
    isUnder aliasName column = true ↔ ∃ field, FieldUnder aliasName column field := by
  rw [isUnder, startsWithAlias_iff]
  constructor
  · rintro ⟨head, field, parts, same, nonempty⟩
    refine ⟨String.ofList field, ?_, String.ofList head, ?_, ?_⟩
    · exact mt String.ofList_eq_empty_iff.1 nonempty
    · simp [← String.toList_inj, parts]
    · simpa [sameIgnoringCase_iff, foldAscii_eq_iff] using same
  · rintro ⟨field, nonempty, head, rfl, same⟩
    refine ⟨head.toList, field.toList, by simp, ?_, ?_⟩
    · exact foldAscii_eq_iff.1 (sameIgnoringCase_iff.1 same)
    · exact mt String.toList_eq_nil_iff.1 nonempty

/-- Whether a column stands under an alias is seen from the bytes at the size of the alias. -/
theorem isUnder_iff_cutUnder {aliasName column : String} :
    isUnder aliasName column = true ↔ CutUnder aliasName column := by
  rw [isUnder_iff]
  constructor
  · rintro ⟨field, nonempty, head, rfl, same⟩
    have size := utf8ByteSize_of_same same
    have behind : 0 < field.utf8ByteSize :=
      Nat.pos_of_ne_zero (mt String.utf8ByteSize_eq_zero_iff.1 nonempty)
    have point : ".".utf8ByteSize = 1 := rfl
    refine ⟨?_, head, "." ++ field, String.append_assoc, size, same, by simp⟩
    rw [String.utf8ByteSize_append, String.utf8ByteSize_append]
    omega
  · rintro ⟨longer, head, rest, rfl, size, same, point⟩
    obtain ⟨field, cut⟩ := List.head?_eq_some_iff.1 point
    obtain rfl : rest = "." ++ String.ofList field := by simp [← String.toList_inj, cut]
    refine ⟨String.ofList field, ?_, head, String.append_assoc.symm, same⟩
    intro empty
    rw [empty, String.utf8ByteSize_append, size] at longer
    exact absurd longer (Nat.lt_irrefl _)

theorem qualify_of_isUnder {aliasName column : String} (under : isUnder aliasName column = true) :
    qualify aliasName column = column :=
  if_pos under

theorem qualify_of_not_isUnder {aliasName column : String}
    (other : ¬isUnder aliasName column = true) :
    qualify aliasName column = aliasName ++ "." ++ column :=
  if_neg other

theorem qualify_eq_self_iff {aliasName column : String} :
    qualify aliasName column = column ↔ isUnder aliasName column = true := by
  refine ⟨fun kept => ?_, qualify_of_isUnder⟩
  by_contra other
  rw [qualify_of_not_isUnder other] at kept
  have longer := congrArg String.utf8ByteSize kept
  rw [String.utf8ByteSize_append, String.utf8ByteSize_append] at longer
  have point : ".".utf8ByteSize = 1 := rfl
  omega

theorem exists_fieldUnder_qualify {column : String} (named : column ≠ "") (aliasName : String) :
    ∃ field, FieldUnder aliasName (qualify aliasName column) field := by
  by_cases under : isUnder aliasName column = true
  · rw [qualify_of_isUnder under]
    exact isUnder_iff.1 under
  · rw [qualify_of_not_isUnder under]
    exact ⟨column, named, aliasName, rfl, sameIgnoringCase_refl aliasName⟩

theorem FieldUnder.field?_eq {aliasName column field : String}
    (own : FieldUnder aliasName column field) (pointless : '.' ∉ aliasName.toList) :
    field? column = some field := by
  obtain ⟨-, head, parts, same⟩ := own
  exact field?_eq_some_iff.2 ⟨head, parts, mt (point_mem_of_same same).1 pointless⟩

/-- Putting an alias in front of a column is stable and can be read back. It keeps the column
exactly if the bytes at the size of the alias show that the column carries the alias. Once it is
done, doing it again changes nothing; the alias, in some case of its ASCII letters, stands in front
of a point and something more; and behind the first point, if the alias has none, is the column
without the alias in front of it, or the column itself if it did not carry the alias. -/
theorem qualify_stable_and_read_back (aliasName column : String) (named : column ≠ "") :
    (qualify aliasName column = column ↔ CutUnder aliasName column) ∧
    qualify aliasName (qualify aliasName column) = qualify aliasName column ∧
    (∃ field, FieldUnder aliasName (qualify aliasName column) field) ∧
    ('.' ∉ aliasName.toList →
      (∀ field, FieldUnder aliasName column field →
        field? (qualify aliasName column) = some field) ∧
      ((∀ field, ¬FieldUnder aliasName column field) →
        field? (qualify aliasName column) = some column)) := by
  have carried := exists_fieldUnder_qualify named aliasName
  refine ⟨qualify_eq_self_iff.trans isUnder_iff_cutUnder,
    qualify_of_isUnder (isUnder_iff.2 carried), carried, fun pointless => ⟨?_, ?_⟩⟩
  · intro field own
    rw [qualify_of_isUnder (isUnder_iff.2 ⟨field, own⟩)]
    exact own.field?_eq pointless
  · intro bare
    have other : ¬isUnder aliasName column = true := fun under =>
      (isUnder_iff.1 under).elim bare
    have own : FieldUnder aliasName (qualify aliasName column) column := by
      rw [qualify_of_not_isUnder other]
      exact ⟨named, aliasName, rfl, sameIgnoringCase_refl aliasName⟩
    exact own.field?_eq pointless

/-- The first column carries the alias with a capital. In the second one the byte at the size of the
alias is inside a character. -/
theorem qualify_stable_and_read_back_prices :
    "Né.prix" ≠ "" ∧ "no€.prix" ≠ "" ∧ '.' ∉ "né".toList ∧ FieldUnder "né" "Né.prix" "prix" ∧
      (∀ field, ¬FieldUnder "né" "no€.prix" field) ∧
      qualify "né" (qualify "né" "no€.prix") = qualify "né" "no€.prix" ∧
      field? (qualify "né" "Né.prix") = some "prix" ∧
      field? (qualify "né" "no€.prix") = some "no€.prix" := by
  have pointless : '.' ∉ "né".toList := by decide +kernel
  have own : FieldUnder "né" "Né.prix" "prix" :=
    ⟨by decide +kernel, "Né", by decide +kernel, by decide +kernel⟩
  have bare : ∀ field, ¬FieldUnder "né" "no€.prix" field := by
    intro field other
    have under := isUnder_iff.2 ⟨field, other⟩
    exact absurd under (by decide +kernel)
  obtain ⟨-, -, -, carried⟩ := qualify_stable_and_read_back "né" "Né.prix" (by decide +kernel)
  obtain ⟨-, stable, -, plain⟩ := qualify_stable_and_read_back "né" "no€.prix" (by decide +kernel)
  exact ⟨by decide +kernel, by decide +kernel, pointless, own, bare, stable,
    (carried pointless).1 "prix" own, (plain pointless).2 bare⟩

end Name

end RowPipeline
