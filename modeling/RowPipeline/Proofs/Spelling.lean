import Mathlib.Data.List.Basic
import RowPipeline.Name

/-! # Spellings of a name

Rows compare names with the ASCII letters folded, the register of known columns compares them in
full lower case. Cutting a name at its first point and putting an alias in front of it both respect
the folding of ASCII letters.
-/

namespace RowPipeline

namespace Text

theorem sameIgnoringCase_iff {s t : String} :
    sameIgnoringCase s t = true ↔ foldAscii s = foldAscii t := by
  simp [sameIgnoringCase]

@[simp] theorem sameIgnoringCase_refl (s : String) : sameIgnoringCase s s = true := by
  simp [sameIgnoringCase]

theorem sameIgnoringCase_comm (s t : String) : sameIgnoringCase s t = sameIgnoringCase t s := by
  rw [Bool.eq_iff_iff, sameIgnoringCase_iff, sameIgnoringCase_iff, eq_comm]

theorem sameIgnoringCase_trans {s t u : String} (h : sameIgnoringCase s t = true)
    (h' : sameIgnoringCase t u = true) : sameIgnoringCase s u = true :=
  sameIgnoringCase_iff.2 ((sameIgnoringCase_iff.1 h).trans (sameIgnoringCase_iff.1 h'))

theorem foldAscii_eq_iff {s t : String} :
    foldAscii s = foldAscii t ↔ s.toList.map Char.toLower = t.toList.map Char.toLower :=
  String.ofList_inj

theorem toNat_toLower (c : Char) :
    c.toLower.toNat = if 65 ≤ c.toNat ∧ c.toNat ≤ 90 then c.toNat + 32 else c.toNat := by
  delta Char.toLower
  simp only [Char.toNat]
  by_cases capital : c.val ≥ 'A'.val ∧ c.val ≤ 'Z'.val
  · have lo : 65 ≤ c.toNat := UInt32.le_iff_toNat_le.1 capital.1
    have hi : c.toNat ≤ 90 := UInt32.le_iff_toNat_le.1 capital.2
    rw [dif_pos capital]
    simp [lo, hi]
    omega
  · rw [dif_neg capital, if_neg]
    rintro ⟨lo, hi⟩
    exact capital ⟨UInt32.le_iff_toNat_le.2 lo, UInt32.le_iff_toNat_le.2 hi⟩

theorem toLower_toLower (c : Char) : c.toLower.toLower = c.toLower := by
  rw [← Char.toNat_inj, toNat_toLower, if_neg]
  rw [toNat_toLower]
  split <;> omega

theorem toLower_eq_point_iff {c : Char} : c.toLower = '.' ↔ c = '.' := by
  have point : '.'.toNat = 46 := rfl
  rw [← Char.toNat_inj, ← Char.toNat_inj, toNat_toLower]
  split <;> omega

theorem isDigit_toLower (c : Char) : c.toLower.isDigit = c.isDigit := by
  have digit : ∀ d : Char, d.isDigit = decide (48 ≤ d.toNat ∧ d.toNat ≤ 57) := by
    intro d
    rw [Bool.eq_iff_iff, Char.isDigit_iff_toNat, decide_eq_true_iff]
    rfl
  rw [digit, digit, toNat_toLower]
  congr 1
  split
  next capital => simp only [eq_iff_iff]; omega
  next => rfl

theorem lowerAfter_append_of_ascii {cs : List Char} (ascii : ∀ c ∈ cs, c.toNat < 0x80)
    (before rest : List Char) :
    lowerAfter before (cs ++ rest) =
      cs.map Char.toLower ++ lowerAfter (cs.reverse ++ before) rest := by
  induction cs generalizing before with
  | nil => rfl
  | cons c cs ih =>
      obtain ⟨first, later⟩ := List.forall_mem_cons.1 ascii
      have plain : c ≠ 'Σ' := by
        rintro rfl
        simp at first
      rw [List.cons_append, lowerAfter, if_neg plain, lowerOf, if_pos first, ih later,
        List.reverse_cons, List.append_assoc]
      rfl

theorem lowerAfter_of_ascii {cs : List Char} (ascii : ∀ c ∈ cs, c.toNat < 0x80)
    (before : List Char) : lowerAfter before cs = cs.map Char.toLower := by
  simpa [lowerAfter] using lowerAfter_append_of_ascii ascii before []

def isAscii (s : String) : Bool :=
  s.toList.all fun c => c.toNat < 0x80

theorem lower_of_isAscii {s : String} (ascii : isAscii s = true) : lower s = foldAscii s := by
  have small : ∀ c ∈ s.toList, c.toNat < 0x80 := by simpa [isAscii] using ascii
  rw [lower, lowerAfter_of_ascii small]
  rfl

theorem cutAt?_map_toLower (cs : List Char) :
    cutAt? '.' (cs.map Char.toLower) =
      (cutAt? '.' cs).map fun (l, r) => (l.map Char.toLower, r.map Char.toLower) := by
  induction cs with
  | nil => rfl
  | cons c cs ih =>
      by_cases h : c = '.'
      · subst h
        simp [cutAt?]
      · have h' : c.toLower ≠ '.' := fun e => h (toLower_eq_point_iff.1 e)
        simp [cutAt?, h, h', ih, Function.comp_def]

end Text

namespace Name

open Text

theorem field?_eq_some_iff {name field : String} :
    field? name = some field ↔ ∃ front, name = front ++ "." ++ field ∧ '.' ∉ front.toList := by
  simp only [field?, split?, splitOnce?, Option.map_map, Option.map_eq_some_iff, Prod.exists,
    Function.comp_apply]
  constructor
  · rintro ⟨l, r, cut, rfl⟩
    obtain ⟨parts, first⟩ := cutAt?_eq_some cut
    exact ⟨String.ofList l, by simp [← String.toList_inj, parts], by simpa using first⟩
  · rintro ⟨front, rfl, first⟩
    exact ⟨front.toList, field.toList, by simpa using cutAt?_append first, by simp⟩

theorem map_foldAscii_field? (name : String) :
    (field? name).map foldAscii =
      (cutAt? '.' (name.toList.map Char.toLower)).map fun (_, r) => String.ofList r := by
  rw [cutAt?_map_toLower]
  simp [field?, split?, splitOnce?, foldAscii, Function.comp_def]

theorem hasField_iff {field name : String} :
    hasField field name = true ↔ (field? name).map foldAscii = some (foldAscii field) := by
  simp only [hasField]
  cases field? name <;> simp [sameIgnoringCase_iff]

theorem hasField_congr {s t : String} (field : String) (h : sameIgnoringCase s t = true) :
    hasField field s = hasField field t := by
  have folded := foldAscii_eq_iff.1 (sameIgnoringCase_iff.1 h)
  rw [Bool.eq_iff_iff, hasField_iff, hasField_iff, map_foldAscii_field?, map_foldAscii_field?,
    folded]

theorem startsWithAlias_map_toLower (aliasName column : List Char) :
    startsWithAlias (aliasName.map Char.toLower) (column.map Char.toLower) =
      startsWithAlias aliasName column := by
  have folds : ∀ cs : List Char, (cs.map Char.toLower).map Char.toLower = cs.map Char.toLower := by
    intro cs
    rw [List.map_map]
    exact List.map_congr_left fun c _ => toLower_toLower c
  rw [startsWithAlias, startsWithAlias, List.length_map, ← List.map_take, folds, folds,
    ← List.map_drop]
  congr 1
  cases column.drop aliasName.length with
  | nil => rfl
  | cons c cs =>
      by_cases point : c = '.'
      · subst point
        cases cs <;> rfl
      · have point' : c.toLower ≠ '.' := fun e => point (toLower_eq_point_iff.1 e)
        simp [point, point']

section

variable {a b s t : String} (aliases : sameIgnoringCase a b = true)
  (columns : sameIgnoringCase s t = true)

include aliases columns

theorem isUnder_congr : isUnder a s = isUnder b t := by
  rw [isUnder, ← startsWithAlias_map_toLower, foldAscii_eq_iff.1 (sameIgnoringCase_iff.1 aliases),
    foldAscii_eq_iff.1 (sameIgnoringCase_iff.1 columns), startsWithAlias_map_toLower]
  rfl

theorem qualify_congr : sameIgnoringCase (qualify a s) (qualify b t) = true := by
  rw [qualify, qualify, isUnder_congr aliases columns]
  split
  · exact columns
  · rw [sameIgnoringCase_iff, foldAscii_eq_iff] at aliases columns ⊢
    simp [aliases, columns]

end

/-- No two of the names differ in the case of ASCII letters alone. -/
def SpelledAlike (names : List String) : Prop :=
  ∀ x ∈ names, ∀ y ∈ names, sameIgnoringCase x y = true → x = y

/-- Full lower case tells apart the same of the names as folding ASCII letters does. -/
def CaseFoldsAgree (names : List String) : Prop :=
  ∀ x ∈ names, ∀ y ∈ names, lower x = lower y ↔ sameIgnoringCase x y = true

instance (names : List String) : Decidable (SpelledAlike names) :=
  inferInstanceAs (Decidable (∀ x ∈ names, ∀ y ∈ names, sameIgnoringCase x y = true → x = y))

instance (names : List String) : Decidable (CaseFoldsAgree names) :=
  inferInstanceAs
    (Decidable (∀ x ∈ names, ∀ y ∈ names, lower x = lower y ↔ sameIgnoringCase x y = true))

theorem caseFoldsAgree_of_ascii {names : List String} (ascii : names.all isAscii = true) :
    CaseFoldsAgree names := by
  intro x hx y hy
  have small := List.all_eq_true.1 ascii
  rw [lower_of_isAscii (small x hx), lower_of_isAscii (small y hy), sameIgnoringCase_iff]

theorem SpelledAlike.subset {names names' : List String} (h : SpelledAlike names')
    (sub : names ⊆ names') : SpelledAlike names :=
  fun x hx y hy => h x (sub hx) y (sub hy)

theorem CaseFoldsAgree.subset {names names' : List String} (h : CaseFoldsAgree names')
    (sub : names ⊆ names') : CaseFoldsAgree names :=
  fun x hx y hy => h x (sub hx) y (sub hy)

end Name

end RowPipeline
