import RowPipeline.Proofs.DecimalText
import RowPipeline.Proofs.GroupParts

/-! # Groups and equality

Rows are grouped by canonical texts, and equality of the expression language compares canonical
texts too, but overlooks the case of a text beside a truth value. That is the only difference: the
values of two rows in one group are equal, and rows with equal values are in one group unless a
truth value stands beside a text that spells it in other capitals.
-/

namespace RowPipeline

open Outcome Text

/-! ## Canonical texts and equality -/

theorem Decimal.exists_isDigit_canonical (n : Decimal) :
    ∃ d ∈ n.canonical.toList, d.isDigit = true := by
  obtain ⟨ds, written, _⟩ := exists_digits n.normalize.mantissa.natAbs n.normalize.scale
  refine ⟨ds.first, ?_, ds.digits _ List.mem_cons_self⟩
  rw [canonical, toText, String.toList_ofList, toChars, written]
  exact List.mem_append_right _ (List.mem_cons_self ..)

theorem Decimal.sameIgnoringCase_canonical (n : Decimal) {word : String}
    (letters : word.toList.any Char.isDigit = false) :
    sameIgnoringCase n.canonical word = false := by
  rw [← Bool.not_eq_true, sameIgnoringCase_iff, foldAscii_eq_iff]
  intro same
  obtain ⟨d, member, digit⟩ := n.exists_isDigit_canonical
  have folded : d.toLower ∈ word.toList.map Char.toLower := same ▸ List.mem_map_of_mem member
  obtain ⟨c, listed, alike⟩ := List.mem_map.1 folded
  have digit' : c.isDigit = true := by
    rw [← isDigit_toLower, alike, isDigit_toLower, digit]
  rw [List.any_eq_true.2 ⟨c, listed, digit'⟩] at letters
  cases letters

namespace Value

def word (b : Bool) : String :=
  if b then "true" else "false"

/-- One value is a truth value and the other a text that is not its word; such a text may still be
the word in other capitals. -/
def spellsOtherwise : Value → Value → Prop
  | boolean b, text s | text s, boolean b => s ≠ word b
  | _, _ => False

theorem spellsOtherwise_comm (v w : Value) : v.spellsOtherwise w ↔ w.spellsOtherwise v := by
  cases v <;> cases w <;> rfl

theorem equals_comm (v w : Value) : v.equals w = w.equals v := by
  unfold equals
  rw [Bool.or_comm (v.kind == .boolean)]
  cases v.canonical? <;> cases w.canonical? <;> try rfl
  next s t =>
    have turned : (s == t) = (t == s) := BEq.comm
    dsimp only
    rw [sameIgnoringCase_comm s t, turned]

theorem sameIgnoringCase_word (a b : Bool) :
    sameIgnoringCase (word a) (word b) = true ↔ word a = word b := by
  cases a <;> cases b <;> decide

theorem number_apart_word (n : Decimal) (b : Bool) :
    sameIgnoringCase n.canonical (word b) = false := by
  cases b <;> exact n.sameIgnoringCase_canonical (by decide)

theorem canonical?_boolean_eq_iff (b : Bool) (w : Value) :
    (boolean b).canonical? = w.canonical? ↔
      (boolean b).equals w = true ∧ ¬(boolean b).spellsOtherwise w := by
  change some (word b) = w.canonical? ↔ _
  cases w with
  | null => exact ⟨nofun, nofun⟩
  | number n =>
      have apart := number_apart_word n b
      rw [sameIgnoringCase_comm] at apart
      change some (word b) = some n.canonical ↔
        sameIgnoringCase (word b) n.canonical = true ∧ ¬False
      rw [apart, Option.some_inj]
      constructor
      · intro same
        rw [← same, sameIgnoringCase_refl] at apart
        cases apart
      · rintro ⟨⟨⟩, _⟩
  | text s =>
      change some (word b) = some s ↔ sameIgnoringCase (word b) s = true ∧ ¬s ≠ word b
      rw [Option.some_inj, not_not]
      constructor
      · rintro rfl
        exact ⟨sameIgnoringCase_refl _, rfl⟩
      · rintro ⟨_, rfl⟩
        rfl
  | boolean a =>
      change some (word b) = some (word a) ↔ sameIgnoringCase (word b) (word a) = true ∧ ¬False
      rw [sameIgnoringCase_word, Option.some_inj, not_false_eq_true, and_true]

/-- Values have the same canonical text just if they are equal and neither is a text that spells the
other, a truth value, in other capitals. -/
theorem canonical?_eq_iff (v w : Value) :
    v.canonical? = w.canonical? ↔ v.equals w = true ∧ ¬v.spellsOtherwise w := by
  cases v with
  | boolean b => exact canonical?_boolean_eq_iff b w
  | null => cases w <;> simp [canonical?, equals, spellsOtherwise]
  | number m =>
      cases w with
      | boolean b =>
          rw [eq_comm, equals_comm, spellsOtherwise_comm]
          exact canonical?_boolean_eq_iff b _
      | _ => simp [canonical?, equals, spellsOtherwise, kind]
  | text s =>
      cases w with
      | boolean b =>
          rw [eq_comm, equals_comm, spellsOtherwise_comm]
          exact canonical?_boolean_eq_iff b _
      | _ => simp [canonical?, equals, spellsOtherwise, kind]

end Value

/-! ## Keys and lookups -/

theorem Row.toOption_lookup (r : Row) (scope : Option String) (column : ColumnRef) :
    (r.lookup scope column).toOption =
      (r.resolve scope column).toOption.map fun name => (r.get? name).getD .null := by
  cases resolved : r.resolve scope column with
  | error e =>
      rw [lookup_eq_error_iff.2 resolved]
      rfl
  | ok name =>
      obtain ⟨v, present⟩ := mem_columns_iff.1 (mem_columns_of_resolve resolved)
      have found : r.lookup scope column = .ok v := by
        unfold lookup
        refine bind_eq_ok.2 ⟨name, resolved, ?_⟩
        rw [present]
        rfl
      rw [found]
      change some v = some ((r.get? name).getD .null)
      rw [present, Option.getD_some]

namespace Reduction

open GroupBy

variable {c : Reduction} {mode : EvalMode} {r s : Row}

theorem key?_eq (c : Reduction) (mode : EvalMode) (r : Row) :
    c.key? mode r = c.first.groupBy.mapM fun column =>
      (r.lookup mode.scope column).toOption.map Value.canonical? := by
  have keys : c.key? mode r =
      (keys? mode c.first.groupBy r).map (List.map fun e => e.2.canonical?) := by
    rw [key?, keyed?, Option.map_map]
    rfl
  rw [keys, keys?, map_mapM]
  apply mapM_congr
  intro column _
  rw [Row.toOption_lookup, Option.map_map]
  cases (r.resolve mode.scope column).toOption <;> rfl

theorem exists_key? (found : ∀ column ∈ c.first.groupBy, ∃ v, r.lookup mode.scope column = .ok v) :
    ∃ key, c.key? mode r = some key := by
  rw [key?_eq, exists_mapM_iff]
  intro column listed
  obtain ⟨v, hv⟩ := found column listed
  refine ⟨v.canonical?, ?_⟩
  rw [hv]
  rfl

theorem key?_eq_iff (hr : ∀ column ∈ c.first.groupBy, ∃ v, r.lookup mode.scope column = .ok v)
    (hs : ∀ column ∈ c.first.groupBy, ∃ v, s.lookup mode.scope column = .ok v) :
    c.key? mode r = c.key? mode s ↔ ∀ column ∈ c.first.groupBy, ∃ v w,
      r.lookup mode.scope column = .ok v ∧ s.lookup mode.scope column = .ok w ∧
        v.canonical? = w.canonical? := by
  constructor
  · intro same column listed
    obtain ⟨v, hv⟩ := hr column listed
    obtain ⟨w, hw⟩ := hs column listed
    refine ⟨v, w, hv, hw, ?_⟩
    obtain ⟨key, own⟩ := exists_key? hr
    have other := same ▸ own
    rw [key?_eq, mapM_eq_some_iff] at own other
    have here := List.map_inj_left.1 (own.trans other.symm) column listed
    rw [hv, hw] at here
    exact Option.some.inj here
  · intro same
    rw [key?_eq, key?_eq]
    apply mapM_congr
    intro column listed
    obtain ⟨v, w, hv, hw, canonical⟩ := same column listed
    rw [hv, hw]
    exact congrArg some canonical

/-- A reduction whose group-by columns are found in every row gives a row for each part of the rows,
and two rows are in one part just if the values of every group-by column are equal and no truth
value stands beside a text that spells it in other capitals. -/
theorem same_part_iff_equal (c : Reduction) (mode : EvalMode) (allowEmpty : Bool) (rows : List Row)
    (resolved : ∀ r ∈ rows, ∀ column ∈ c.first.groupBy,
      ∃ name, r.resolve mode.scope column = .ok name) :
    (∀ out, c.run mode allowEmpty rows = .ok out ↔
      List.Forall₂ (fun part row => c.run mode allowEmpty part = .ok [row])
        (c.parts mode allowEmpty rows) out) ∧
      ∀ r ∈ rows, ∀ s ∈ rows,
        (∃ part ∈ c.parts mode allowEmpty rows, r ∈ part ∧ s ∈ part) ↔
          ∀ column ∈ c.first.groupBy, ∃ v w,
            r.lookup mode.scope column = .ok v ∧ s.lookup mode.scope column = .ok w ∧
            (Expr.binary (.text .equal) (.literal v) (.literal w)).eval mode r =
              .ok (.boolean true) ∧ ¬v.spellsOtherwise w := by
  have looked : ∀ r ∈ rows, ∀ column ∈ c.first.groupBy,
      ∃ v, r.lookup mode.scope column = .ok v := by
    intro r member column listed
    obtain ⟨name, found⟩ := resolved r member column listed
    cases result : r.lookup mode.scope column with
    | ok v => exact ⟨v, rfl⟩
    | error e =>
        rw [Row.lookup_eq_error_iff, found] at result
        cases result
  have keyed : ∀ r ∈ rows, ∃ key, c.key? mode r = some key := by
    intro r member
    exact exists_key? (looked r member)
  refine ⟨run_eq_ok_iff keyed, ?_⟩
  intro r hr s hs
  rw [exists_part_iff hr hs (keyed r hr), key?_eq_iff (looked r hr) (looked s hs)]
  have equal : ∀ v w : Value, v.canonical? = w.canonical? ↔
      (Expr.binary (.text .equal) (.literal v) (.literal w)).eval mode r =
        .ok (.boolean true) ∧ ¬v.spellsOtherwise w := by
    intro v w
    have value : (Expr.binary (.text .equal) (.literal v) (.literal w)).eval mode r =
        .ok (.boolean (v.equals w)) := rfl
    rw [v.canonical?_eq_iff, value, Except.ok.injEq, Value.boolean.injEq]
  simp only [equal]

def flagged (flag : Value) : Row :=
  .ofList [("flag", flag)] none

def countFlags : Reduction where
  first := {
    function := .count
    expression := .column ⟨none, "flag"⟩
    groupBy := [⟨none, "flag"⟩]
    target := ⟨"n", none⟩
    operation := .aggregate "count" "flag" ["flag"] ⟨"n", none⟩ }

def flags : List Row :=
  [flagged (.boolean true), flagged (.text "true")]

theorem same_part_iff_equal_flags :
    (∀ r ∈ flags, ∀ column ∈ countFlags.first.groupBy,
        ∃ name, r.resolve none column = .ok name) ∧
      ∃ part ∈ countFlags.parts ⟨none, false⟩ false flags,
        flagged (.boolean true) ∈ part ∧ flagged (.text "true") ∈ part := by
  have resolved : ∀ r ∈ flags, ∀ column ∈ countFlags.first.groupBy,
      r.resolve none column = .ok "flag" := by decide +kernel
  have found : ∀ r ∈ flags, ∀ column ∈ countFlags.first.groupBy,
      ∃ name, r.resolve none column = .ok name :=
    fun r member column listed => ⟨"flag", resolved r member column listed⟩
  refine ⟨found, ?_⟩
  have grouped := (same_part_iff_equal countFlags ⟨none, false⟩ false flags found).2
  apply (grouped _ List.mem_cons_self _ (List.mem_cons_of_mem _ List.mem_cons_self)).2
  intro column listed
  obtain rfl : column = ⟨none, "flag"⟩ := List.mem_singleton.1 listed
  refine ⟨.boolean true, .text "true", by decide +kernel, by decide +kernel, by decide +kernel, ?_⟩
  exact fun otherwise => otherwise rfl

/-- A truth value and its word in capitals. -/
def capitalFlags : List Row :=
  [flagged (.boolean true), flagged (.text "TRUE")]

/-- A truth value and its word in capitals are equal, and yet each of them has a group of its
own. -/
theorem capitals_apart :
    (∀ r ∈ capitalFlags, r.columns = ["flag"] ∧
        ∀ column ∈ countFlags.first.groupBy, ∃ name, r.resolve none column = .ok name) ∧
      countFlags.run ⟨none, false⟩ false capitalFlags =
        .ok [.ofList [("flag", .boolean true), ("n", .number .one)] none,
          .ofList [("flag", .text "TRUE"), ("n", .number .one)] none] ∧
      ¬((∃ part ∈ countFlags.parts ⟨none, false⟩ false capitalFlags,
          flagged (.boolean true) ∈ part ∧ flagged (.text "TRUE") ∈ part) ↔
        ∀ column ∈ countFlags.first.groupBy, ∃ v w,
          (flagged (.boolean true)).lookup none column = .ok v ∧
          (flagged (.text "TRUE")).lookup none column = .ok w ∧
          (Expr.binary (.text .equal) (.literal v) (.literal w)).eval ⟨none, false⟩
            (flagged (.boolean true)) = .ok (.boolean true)) := by
  have resolved : ∀ r ∈ capitalFlags, r.columns = ["flag"] ∧
      ∀ column ∈ countFlags.first.groupBy, r.resolve none column = .ok "flag" := by
    decide +kernel
  refine ⟨?_, by decide +kernel, ?_⟩
  · intro r member
    obtain ⟨columns, resolved⟩ := resolved r member
    exact ⟨columns, fun column listed => ⟨"flag", resolved column listed⟩⟩
  · intro grouped
    have apart : ¬∃ part ∈ countFlags.parts ⟨none, false⟩ false capitalFlags,
        flagged (.boolean true) ∈ part ∧ flagged (.text "TRUE") ∈ part := by
      decide +kernel
    apply apart
    apply grouped.2
    intro column listed
    obtain rfl : column = ⟨none, "flag"⟩ := List.mem_singleton.1 listed
    exact ⟨.boolean true, .text "TRUE", by decide +kernel, by decide +kernel, by decide +kernel⟩

end Reduction

end RowPipeline
