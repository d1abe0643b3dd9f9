import RowPipeline.Proofs.Tokens

/-! # What a token sees of the text behind it

A token ends where it does because of the characters behind it, and it looks at no more than two of
them. None of them matters if it is a letter: letters end a sign, a number and a text in quotes
alike, and no name ends in front of one. So a token stays the same if the text behind it is replaced
by one that looks like it up to a place where both go on with letters.
-/

namespace RowPipeline.Token

open Text

/-- The texts are equal up to a place where both go on with letters, or altogether. -/
inductive LooksLike : List Char → List Char → Prop where
  | nil : LooksLike [] []
  | letters {c d : Char} {cs ds : List Char} :
      isLetter c = true → isLetter d = true → LooksLike (c :: cs) (d :: ds)
  | cons (c : Char) {cs ds : List Char} : LooksLike cs ds → LooksLike (c :: cs) (c :: ds)

namespace LooksLike

variable {cs ds : List Char}

theorem append (own : List Char) (h : LooksLike cs ds) : LooksLike (own ++ cs) (own ++ ds) := by
  induction own with
  | nil => exact h
  | cons c own ih => exact .cons c ih

/-- A test that all letters pass, or that none passes, has the same outcome for the first
characters. -/
theorem stop (h : LooksLike cs ds) {p : Char → Bool} {b : Bool}
    (letters : ∀ c, isLetter c = true → p c = b) (first : ∀ c ∈ cs.head?, p c = false) :
    ∀ d ∈ ds.head?, p d = false := by
  cases h with
  | nil => exact first
  | letters own other =>
      rintro _ ⟨⟩
      rw [letters _ other, ← letters _ own]
      exact first _ rfl
  | cons c =>
      rintro _ ⟨⟩
      exact first c rfl

end LooksLike

/-! ## Signs -/

/-- The character can be the second one of a sign. -/
def isSecond (c : Char) : Bool :=
  ['=', '>', '&', '|'].contains c

/-- No sign goes on into the second text if none goes on into the first. -/
def Ends (cs ds : List Char) : Prop :=
  ∀ d ∈ ds.head?, isSecond d = true → d ∈ cs.head?

theorem Ends.ne {cs ds : List Char} (ends : Ends cs ds) {d : Char} (second : isSecond d = true)
    (other : ∀ rest, cs = d :: rest → False) (rest : List Char) : ds ≠ d :: rest := by
  rintro rfl
  have same := ends d rfl second
  cases cs with
  | nil => cases same
  | cons e cs =>
      cases same
      exact other cs rfl

theorem isLetter_of_isSecond {c : Char} (second : isSecond c = true) : isLetter c = false := by
  have none : ['=', '>', '&', '|'].all (fun d => !isLetter d) = true := by decide
  simpa using List.all_eq_true.1 none c (List.contains_iff_mem.1 second)

theorem LooksLike.ends {cs ds : List Char} (h : LooksLike cs ds) : Ends cs ds := by
  cases h with
  | nil => exact fun d first _ => first
  | letters _ other =>
      rintro _ ⟨⟩ second
      simp [isLetter_of_isSecond second] at other
  | cons c => exact fun d first _ => first

/-- How a lexeme is found: it is a sign of two characters or of one, or it is read as a text in
quotes or as a word. -/
inductive Sight (c : Char) (cs : List Char) : Prop where
  | pair (kind : Kind) (d : Char) (ds : List Char) : cs = d :: ds →
      (∀ rest, lexeme c (d :: rest) = ⟨kind, [c, d], 1⟩) → Sight c cs
  | sign (kind : Kind) : (∀ ds, Ends cs ds → lexeme c ds = ⟨kind, [c], 0⟩) → Sight c cs
  | quoted : (∀ ds, lexeme c ds = quotedLexeme c ds) → Sight c cs
  | word : (∀ ds, Ends cs ds → lexeme c ds = wordLexeme c ds) → Sight c cs

theorem sight (c : Char) (cs : List Char) : Sight c cs := by
  generalize l : lexeme c cs = found
  unfold lexeme at l
  split at l
  case h_1 | h_2 | h_3 | h_4 | h_5 | h_6 => exact .sign _ fun _ _ => rfl
  case h_7 | h_9 | h_11 | h_12 | h_14 | h_16 | h_17 => exact .pair _ _ _ rfl fun _ => rfl
  case h_18 | h_19 => exact .quoted fun _ => rfl
  case h_8 other =>
    refine .sign (.operator (.text .equal)) fun ds ends => ?_
    rw [lexeme]
    exact ends.ne rfl other
  case h_10 other =>
    refine .sign .not fun ds ends => ?_
    rw [lexeme]
    exact ends.ne rfl other
  case h_13 other other' =>
    refine .sign (.operator (.order .less)) fun ds ends => ?_
    rw [lexeme]
    · exact ends.ne rfl other
    · exact ends.ne rfl other'
  case h_15 other =>
    refine .sign (.operator (.order .greater)) fun ds ends => ?_
    rw [lexeme]
    exact ends.ne rfl other
  case h_20 ampersand bar =>
    refine .word fun ds ends => ?_
    have noAnd (own : c = '&') := ends.ne rfl fun rest => ampersand rest own
    have noOr (own : c = '|') := ends.ne rfl fun rest => bar rest own
    rw [lexeme] <;> grind

/-! ## Texts in quotes and numbers -/

theorem quoted?_eq_some {q : Char} {cs value : List Char} {n : Nat}
    (h : quoted? q cs = some (value, n)) :
    ∃ tail rest, cs = tail ++ rest ∧ tail.length = n ∧
      ∀ ds, quoted? q (tail ++ ds) = some (value, n) := by
  fun_induction quoted? q cs generalizing value n with
  | case1 | case3 => cases h
  | case2 cs =>
      cases h
      refine ⟨[q], cs, rfl, rfl, fun ds => ?_⟩
      unfold quoted?
      simp
  | case4 c rest other ih =>
      obtain ⟨⟨text, k⟩, inner, same⟩ := Option.map_eq_some_iff.1 h
      cases same
      obtain ⟨tail, behind, rfl, rfl, stays⟩ := ih inner
      refine ⟨'\\' :: c :: tail, behind, rfl, rfl, fun ds => ?_⟩
      simp [quoted?, other, stays]
  | case5 c cs other plain ih =>
      obtain ⟨⟨text, k⟩, inner, same⟩ := Option.map_eq_some_iff.1 h
      cases same
      obtain ⟨tail, behind, rfl, rfl, stays⟩ := ih inner
      refine ⟨c :: tail, behind, rfl, rfl, fun ds => ?_⟩
      unfold quoted?
      simp [other, plain, stays]

/-- The point behind the whole part of a number with the digits behind it, if there are any. -/
def placesOf : List Char → List Char
  | '.' :: cs => if (cs.takeWhile Char.isDigit).isEmpty then [] else '.' :: cs.takeWhile Char.isDigit
  | _ => []

theorem numberTail_whole {whole cs : List Char} (digits : ∀ c ∈ whole, c.isDigit = true)
    (stop : ∀ c ∈ cs.head?, c.isDigit = false) :
    numberTail (whole ++ cs) = whole ++ placesOf cs := by
  rw [numberTail, takeWhile_append_of_stop digits stop, List.drop_left]
  split
  next places =>
    rw [placesOf]
    split <;> simp_all
  next other => rw [placesOf, List.append_nil]; exact other

theorem isDigit_of_isLetter {c : Char} (letter : isLetter c = true) : c.isDigit = false := by
  rw [← Bool.not_eq_true]
  intro digit
  simp [isLetter_of_isDigit digit] at letter

theorem takeWhile_isEmpty_iff {p : Char → Bool} {cs : List Char} :
    (cs.takeWhile p).isEmpty = true ↔ ∀ c ∈ cs.head?, p c = false := by
  cases cs with
  | nil => simp
  | cons c cs => cases h : p c <;> simp [h]

theorem exists_placesOf {cs : List Char} (stop : ∀ c ∈ cs.head?, c.isDigit = false) :
    ∃ rest, cs = placesOf cs ++ rest ∧ ∀ ds, LooksLike rest ds →
      placesOf (placesOf cs ++ ds) = placesOf cs ∧
        ∀ c ∈ (placesOf cs ++ ds).head?, c.isDigit = false := by
  by_cases point : ∃ places, cs = '.' :: places
  · obtain ⟨places, rfl⟩ := point
    by_cases none : (places.takeWhile Char.isDigit).isEmpty
    · refine ⟨'.' :: places, by rw [placesOf, if_pos none]; rfl, fun ds alike => ?_⟩
      rw [placesOf, if_pos none, List.nil_append]
      cases alike with
      | letters own => exact absurd own (by decide)
      | cons _ alike =>
          have stop' := alike.stop (fun _ => isDigit_of_isLetter) (takeWhile_isEmpty_iff.1 none)
          exact ⟨by rw [placesOf, if_pos (takeWhile_isEmpty_iff.2 stop')], stop⟩
    · have digits : ∀ c ∈ places.takeWhile Char.isDigit, c.isDigit = true :=
        List.all_eq_true.1 List.all_takeWhile
      refine ⟨places.dropWhile Char.isDigit, ?_, fun ds alike => ?_⟩
      · rw [placesOf, if_neg none, List.cons_append, List.takeWhile_append_dropWhile]
      · have stop' := alike.stop (fun _ => isDigit_of_isLetter) (head?_dropWhile places)
        rw [placesOf, if_neg none, List.cons_append, placesOf,
          takeWhile_append_of_stop digits stop', if_neg none]
        exact ⟨rfl, stop⟩
  · have whole (ds : List Char) (other : ¬∃ places, ds = '.' :: places) : placesOf ds = [] := by
      rw [placesOf]
      exact fun places same => other ⟨places, same⟩
    refine ⟨cs, by rw [whole cs point]; rfl, fun ds alike => ?_⟩
    rw [whole cs point, List.nil_append]
    refine ⟨whole ds ?_, alike.stop (fun _ => isDigit_of_isLetter) stop⟩
    rintro ⟨places, rfl⟩
    cases alike with
    | letters _ letter => exact absurd letter (by decide)
    | cons => exact point ⟨_, rfl⟩

theorem exists_numberTail (cs : List Char) :
    ∃ rest, cs = numberTail cs ++ rest ∧ ∀ ds, LooksLike rest ds →
      numberTail (numberTail cs ++ ds) = numberTail cs := by
  have digits : ∀ c ∈ cs.takeWhile Char.isDigit, c.isDigit = true :=
    List.all_eq_true.1 List.all_takeWhile
  have stop : ∀ c ∈ (cs.dropWhile Char.isDigit).head?, c.isDigit = false := head?_dropWhile cs
  obtain ⟨rest, split, stays⟩ := exists_placesOf stop
  have whole : numberTail cs =
      cs.takeWhile Char.isDigit ++ placesOf (cs.dropWhile Char.isDigit) := by
    rw [← numberTail_whole digits stop, List.takeWhile_append_dropWhile]
  refine ⟨rest, ?_, fun ds alike => ?_⟩
  · rw [whole, List.append_assoc, ← split, List.takeWhile_append_dropWhile]
  · obtain ⟨same, stop'⟩ := stays ds alike
    rw [whole, List.append_assoc, numberTail_whole digits stop', same]

/-! ## Lexemes -/

theorem isNamePart_of_isLetter {c : Char} (letter : isLetter c = true) : isNamePart c = true := by
  simp [isNamePart, letter]

theorem exists_wordLexeme (c : Char) (cs : List Char) :
    ∃ tail rest, cs = tail ++ rest ∧ (wordLexeme c cs).more = tail.length ∧
      ∀ ds, LooksLike rest ds → wordLexeme c (tail ++ ds) = wordLexeme c cs := by
  unfold wordLexeme
  split
  next =>
    have inside : ∀ d ∈ cs.takeWhile isNamePart, isNamePart d = true :=
      List.all_eq_true.1 List.all_takeWhile
    refine ⟨cs.takeWhile isNamePart, cs.dropWhile isNamePart,
      List.takeWhile_append_dropWhile.symm, rfl, fun ds alike => ?_⟩
    have stop := alike.stop (fun _ => isNamePart_of_isLetter) (head?_dropWhile cs)
    simp only [takeWhile_append_of_stop inside stop]
  next =>
    split
    next =>
      obtain ⟨rest, split, stays⟩ := exists_numberTail cs
      exact ⟨numberTail cs, rest, split, rfl, fun ds alike => by simp only [stays ds alike]⟩
    next => exact ⟨[], cs, rfl, rfl, fun _ _ => rfl⟩

/-- A lexeme takes some characters behind its first one, and it is the same lexeme in front of any
text that looks like the one behind it. -/
theorem exists_lexeme (c : Char) (cs : List Char) :
    ∃ tail rest, cs = tail ++ rest ∧ (lexeme c cs).more = tail.length ∧
      ∀ ds, LooksLike rest ds → lexeme c (tail ++ ds) = lexeme c cs := by
  cases sight c cs with
  | pair kind d ds split same =>
      subst split
      exact ⟨[d], ds, rfl, by rw [same]; rfl, fun _ _ => (same _).trans (same ds).symm⟩
  | sign kind same =>
      have own := same cs fun _ first _ => first
      exact ⟨[], cs, rfl, by rw [own]; rfl, fun ds alike => (same ds alike.ends).trans own.symm⟩
  | quoted same =>
      rw [same, quotedLexeme]
      cases found : quoted? c cs with
      | none =>
          refine ⟨cs, [], (List.append_nil cs).symm, rfl, ?_⟩
          rintro _ (_ | _)
          rw [same, quotedLexeme, List.append_nil, found]
      | some part =>
          obtain ⟨tail, rest, rfl, length, stays⟩ := quoted?_eq_some found
          refine ⟨tail, rest, rfl, length.symm, fun ds _ => ?_⟩
          rw [same, quotedLexeme, stays]
  | word same =>
      rw [same cs fun _ first _ => first]
      obtain ⟨tail, rest, rfl, length, stays⟩ := exists_wordLexeme c cs
      refine ⟨tail, rest, rfl, length, fun ds alike => ?_⟩
      rw [same _ (alike.append tail).ends, stays ds alike]

/-- A text is made of blank space and lexemes. -/
@[elab_as_elim]
theorem textInduction {motive : List Char → Prop} (nil : motive [])
    (blank : ∀ c cs, isBlank c = true → motive cs → motive (c :: cs))
    (token : ∀ c tail rest, isBlank c = false → (lexeme c (tail ++ rest)).more = tail.length →
      motive rest → motive (c :: (tail ++ rest)))
    (cs : List Char) : motive cs := by
  match cs with
  | [] => exact nil
  | c :: cs =>
      cases solid : isBlank c with
      | true => exact blank c cs solid (textInduction nil blank token cs)
      | false =>
          obtain ⟨tail, rest, split, length, -⟩ := exists_lexeme c cs
          have shorter : rest.length < (c :: cs).length := by
            simp only [split, List.length_cons, List.length_append]
            omega
          rw [split] at length ⊢
          exact token c tail rest solid length (textInduction nil blank token rest)
termination_by cs.length

theorem scan_blank {c : Char} (blank : isBlank c = true) (n : Nat) (cs : List Char) :
    scan n (c :: cs) = scan (n + 1) cs := by
  rw [scan, if_pos blank]

theorem scan_token {c : Char} {tail rest : List Char} (solid : isBlank c = false)
    (length : (lexeme c (tail ++ rest)).more = tail.length) (n : Nat) :
    scan n (c :: (tail ++ rest)) =
      ⟨(lexeme c (tail ++ rest)).kind, String.ofList (lexeme c (tail ++ rest)).text, n⟩ ::
        scan (n + 1 + tail.length) rest := by
  rw [scan, if_neg (by simp [solid])]
  simp only [length, List.drop_left]

end RowPipeline.Token
