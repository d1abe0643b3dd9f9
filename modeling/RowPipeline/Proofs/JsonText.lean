import RowPipeline.Json.Printer
import RowPipeline.Json.Reader

/-! # Reading what was written

A value without numbers that is not nested too deeply is read from the text it is written as. The
reader is followed along the text: every stretch of it takes the reader from one place to the next,
whatever stands behind that stretch.
-/

namespace RowPipeline.Json

/-- The value is made of texts, truth values and nulls, in at most so many lists and objects around
each other. -/
inductive Fits : Nat → Json → Prop where
  | null {n : Nat} : Fits n .null
  | boolean {n : Nat} (b : Bool) : Fits n (.boolean b)
  | string {n : Nat} (s : String) : Fits n (.string s)
  | array {n : Nat} {items : List Json} :
      (∀ j ∈ items, Fits n j) → Fits (n + 1) (.array items)
  | object {n : Nat} {fields : List (String × Json)} :
      (∀ field ∈ fields, Fits n field.2) → Fits (n + 1) (.object fields)

theorem Fits.isSound {n : Nat} {j : Json} (fits : Fits n j) : j.isSound = true := by
  induction fits with
  | null => rfl
  | boolean b => rfl
  | string s => rfl
  | @array n items each ih =>
      rw [Json.isSound]
      clear each
      induction items with
      | nil => rfl
      | cons j js ih' =>
          obtain ⟨first, later⟩ := List.forall_mem_cons.1 ih
          rw [soundItems, first, ih' later, Bool.and_self]
  | @object n fields each ih =>
      rw [Json.isSound]
      clear each
      induction fields with
      | nil => rfl
      | cons field fields ih' =>
          obtain ⟨first, later⟩ := List.forall_mem_cons.1 ih
          rw [soundFields, first, ih' later, Bool.and_self]

/-- Where the reader stands behind a text, if it can get there. -/
def readFrom (r : Reader) (cs : List Char) : Option Reader :=
  (tokens? cs).bind fun tokens => tokens.foldlM Reader.step? r

/-- The characters take the reader from one place to another. -/
def Leads (cs : List Char) (r r' : Reader) : Prop :=
  ∀ rest, readFrom r (cs ++ rest) = readFrom r' rest

theorem Leads.append {cs ds : List Char} {r r' r'' : Reader} (first : Leads cs r r')
    (second : Leads ds r' r'') : Leads (cs ++ ds) r r'' := by
  intro rest
  rw [List.append_assoc, first, second]

theorem leads_of_token {c : Char} {cs : List Char} {t : Token} {r r' : Reader}
    (solid : isSpace c = false) (token : ∀ rest, token? c (cs ++ rest) = some (t, cs.length))
    (step : r.step? t = some r') : Leads (c :: cs) r r' := by
  intro rest
  have split : tokens? (c :: cs ++ rest) = (tokens? rest).map (t :: ·) := by
    rw [List.cons_append, tokens?, token rest]
    simp [solid]
  rw [readFrom, split, readFrom]
  cases tokens? rest with
  | none => rfl
  | some tokens => simp [step]

/-! ## Texts -/

theorem hex4?_hexDigit {n : Nat} (small : n < 0x20) :
    hex4? '0' '0' (hexDigit (n / 16)) (hexDigit n) = some n := by
  revert n
  decide

theorem codePoints?_escapeChar (c : Char) (cs : List Char) :
    codePoints? (escapeChar c ++ cs) =
      (codePoints? cs).map fun (ns, k) => (c.toNat :: ns, k + (escapeChar c).length) := by
  have word : ∀ e : Char, e ≠ 'u' → unescape? e = some c → codePoints? ('\\' :: e :: cs) =
      (codePoints? cs).map fun (ns, k) => (c.toNat :: ns, k + 2) := by
    intro e plain found
    rw [codePoints?]
    · rw [found]
      cases codePoints? cs <;> rfl
    · simp [plain]
  rw [escapeChar.eq_def]
  split
  iterate 7 exact word _ (by decide) rfl
  next unquoted unslashed _ _ _ _ _ =>
    have plain : c ≠ '"' ∧ c ≠ '\\' := ⟨unquoted, unslashed⟩
    split
    next control =>
      simp only [List.cons_append, List.nil_append]
      rw [codePoints?, hex4?_hexDigit control]
      cases codePoints? cs <;> rfl
    next visible =>
      rw [List.singleton_append, codePoints?, if_neg (by simpa [plain] using visible)]
      · rfl
      all_goals simp [plain]

theorem codePoints?_escaped (cs rest : List Char) :
    codePoints? (cs.flatMap escapeChar ++ '"' :: rest) =
      some (cs.map Char.toNat, (cs.flatMap escapeChar).length + 1) := by
  induction cs with
  | nil => rfl
  | cons c cs ih =>
      rw [List.flatMap_cons, List.append_assoc, codePoints?_escapeChar, ih]
      simp only [Option.map_some, List.map_cons, List.length_append, Option.some.injEq,
        Prod.mk.injEq, true_and]
      omega

theorem joinSurrogates?_cons (c : Char) (ns : List Nat) :
    joinSurrogates? (c.toNat :: ns) = (joinSurrogates? ns).map (c :: ·) := by
  have valid : c.toNat < 0xd800 ∨ 0xdfff < c.toNat ∧ c.toNat < 0x110000 := c.valid
  have high : isHighSurrogate c.toNat = false := by
    simp only [isHighSurrogate, Bool.and_eq_false_iff, decide_eq_false_iff_not]
    omega
  have low : isLowSurrogate c.toNat = false := by
    simp only [isLowSurrogate, Bool.and_eq_false_iff, decide_eq_false_iff_not]
    omega
  cases ns with
  | nil => simp [joinSurrogates?, high, low]
  | cons n ns => simp [joinSurrogates?, high, low]

theorem joinSurrogates?_map_toNat (cs : List Char) :
    joinSurrogates? (cs.map Char.toNat) = some cs := by
  induction cs with
  | nil => rfl
  | cons c cs ih => rw [List.map_cons, joinSurrogates?_cons, ih, Option.map_some]

theorem leads_quote {s : String} {r r' : Reader} (step : r.step? (.text (some s)) = some r') :
    Leads (quote s).toList r r' := by
  have spelled : (quote s).toList = '"' :: (s.toList.flatMap escapeChar ++ ['"']) := by
    simp [quote]
  rw [spelled]
  refine leads_of_token (by decide) ?_ step
  intro rest
  have points := codePoints?_escaped s.toList rest
  rw [token?]
  simp [points, joinSurrogates?_map_toNat]

/-! ## Values -/

theorem nested_eq {frames : List Frame} (shallow : frames.length + 1 < depthLimit) (j : Json) :
    nested frames true j = j := by
  simp [nested, shallow]

theorem leads_items {frames : List Frame} (shallow : frames.length + 1 < depthLimit)
    {j : Json} {js : List Json}
    (each : ∀ item ∈ j :: js, ∀ front acc, Leads item.toText.toList
      (.value front (.array acc :: frames)) (.after item (.array acc :: frames)))
    (front : Bool) (acc : List Json) :
    Leads (Text.join "," (itemTexts (j :: js)) ++ "]").toList (.value front (.array acc :: frames))
      (.after (.array (acc.reverse ++ j :: js)) frames) := by
  induction js generalizing j front acc with
  | nil =>
      have closed : Leads [']'] (.after j (.array acc :: frames))
          (.after (.array (acc.reverse ++ [j])) frames) := by
        refine leads_of_token (by decide) (fun _ => rfl) ?_
        simp [Reader.step?, nested_eq shallow]
      have whole := (each j List.mem_cons_self front acc).append closed
      simpa [itemTexts, Text.join] using whole
  | cons k js ih =>
      have comma : Leads [','] (.after j (.array acc :: frames))
          (.value false (.array (j :: acc) :: frames)) :=
        leads_of_token (by decide) (fun _ => rfl) rfl
      have later :=
        ih (fun item member => each item (List.mem_cons_of_mem _ member)) false (j :: acc)
      have whole := ((each j List.mem_cons_self front acc).append comma).append later
      simpa [itemTexts, Text.join] using whole

theorem leads_field {field : String × Json} {acc : List (String × Json)} {frames : List Frame}
    (front : Bool) (value : Leads field.2.toText.toList
      (.value false (.object true acc field.1 :: frames))
      (.after field.2 (.object true acc field.1 :: frames))) :
    Leads (quote field.1 ++ ":" ++ field.2.toText).toList (.name front true acc frames)
      (.after field.2 (.object true acc field.1 :: frames)) := by
  have named : Leads (quote field.1).toList (.name front true acc frames)
      (.colon true acc field.1 frames) := leads_quote rfl
  have colon : Leads [':'] (.colon true acc field.1 frames)
      (.value false (.object true acc field.1 :: frames)) :=
    leads_of_token (by decide) (fun _ => rfl) rfl
  simpa using (named.append colon).append value

theorem leads_fields {frames : List Frame} (shallow : frames.length + 1 < depthLimit)
    {field : String × Json} {fields : List (String × Json)}
    (each : ∀ f ∈ field :: fields, ∀ acc, Leads f.2.toText.toList
      (.value false (.object true acc f.1 :: frames)) (.after f.2 (.object true acc f.1 :: frames)))
    (front : Bool) (acc : List (String × Json)) :
    Leads (Text.join "," (fieldTexts (field :: fields)) ++ "\x7d").toList
      (.name front true acc frames) (.after (.object (acc.reverse ++ field :: fields)) frames) := by
  induction fields generalizing field front acc with
  | nil =>
      have closed : Leads ['\x7d'] (.after field.2 (.object true acc field.1 :: frames))
          (.after (.object (acc.reverse ++ [field])) frames) := by
        refine leads_of_token (by decide) (fun _ => rfl) ?_
        simp [Reader.step?, nested_eq shallow]
      have first := leads_field front (each field List.mem_cons_self acc)
      simpa [fieldTexts, Text.join] using first.append closed
  | cons next fields ih =>
      have comma : Leads [','] (.after field.2 (.object true acc field.1 :: frames))
          (.name false true (field :: acc) frames) :=
        leads_of_token (by decide) (fun _ => rfl) rfl
      have first := leads_field front (each field List.mem_cons_self acc)
      have later := ih (fun f member => each f (List.mem_cons_of_mem _ member)) false (field :: acc)
      simpa [fieldTexts, Text.join] using (first.append comma).append later

theorem leads_array {frames : List Frame} (shallow : frames.length + 1 < depthLimit)
    {items : List Json}
    (each : ∀ item ∈ items, ∀ front acc, Leads item.toText.toList
      (.value front (.array acc :: frames)) (.after item (.array acc :: frames)))
    (front : Bool) :
    Leads (Json.array items).toText.toList (.value front frames)
      (.after (.array items) frames) := by
  have opened : Leads ['['] (.value front frames) (.value true (.array [] :: frames)) :=
    leads_of_token (by decide) (fun _ => rfl) rfl
  cases items with
  | nil =>
      have closed : Leads [']'] (.value true (.array [] :: frames))
          (.after (.array []) frames) := by
        refine leads_of_token (by decide) (fun _ => rfl) ?_
        simp [Reader.step?, nested_eq shallow]
      exact opened.append closed
  | cons j js =>
      have whole := opened.append (leads_items shallow each true [])
      simpa [toText] using whole

theorem leads_object {frames : List Frame} (shallow : frames.length + 1 < depthLimit)
    {fields : List (String × Json)}
    (each : ∀ f ∈ fields, ∀ acc, Leads f.2.toText.toList
      (.value false (.object true acc f.1 :: frames)) (.after f.2 (.object true acc f.1 :: frames)))
    (front : Bool) :
    Leads (Json.object fields).toText.toList (.value front frames)
      (.after (.object fields) frames) := by
  have opened : Leads ['\x7b'] (.value front frames) (.name true true [] frames) :=
    leads_of_token (by decide) (fun _ => rfl) rfl
  cases fields with
  | nil =>
      have closed : Leads ['\x7d'] (.name true true [] frames) (.after (.object []) frames) := by
        refine leads_of_token (by decide) (fun _ => rfl) ?_
        simp [Reader.step?, nested_eq shallow]
      exact opened.append closed
  | cons field fields =>
      have whole := opened.append (leads_fields shallow each true [])
      simpa [toText] using whole

/-- A value takes the reader from where it has to stand to where it is complete. -/
theorem Fits.leads {n : Nat} {j : Json} (fits : Fits n j) :
    ∀ (front : Bool) (frames : List Frame), frames.length + n < depthLimit →
      Leads j.toText.toList (.value front frames) (.after j frames) := by
  induction fits with
  | null =>
      intro front frames _
      exact leads_of_token (by decide) (fun _ => rfl) rfl
  | boolean b =>
      intro front frames _
      cases b with
      | false => exact leads_of_token (by decide) (fun _ => rfl) rfl
      | true => exact leads_of_token (by decide) (fun _ => rfl) rfl
  | string s =>
      intro front frames _
      rw [toText]
      exact leads_quote rfl
  | array each ih =>
      intro front frames fit
      refine leads_array (by omega) ?_ front
      intro item member front acc
      apply ih item member
      simp only [List.length_cons]
      omega
  | object each ih =>
      intro front frames fit
      refine leads_object (by omega) ?_ front
      intro f member acc
      apply ih f member
      simp only [List.length_cons]
      omega

/-- The text of a value is read as that value. -/
theorem ofText?_toText {n : Nat} {j : Json} (fits : Fits n j) (shallow : n < depthLimit) :
    ofText? j.toText = some j := by
  have read := fits.leads false [] (by simpa using shallow) []
  have finished : readFrom (.after j []) [] = some (.after j []) := by
    rw [readFrom, tokens?]
    rfl
  rw [List.append_nil, finished] at read
  have split : ofText? j.toText =
      (readFrom (.value false []) j.toText.toList).bind Reader.finish? := by
    rw [ofText?, readFrom]
    cases tokens? j.toText.toList <;> rfl
  rw [split, read]
  rfl

end RowPipeline.Json
