import RowPipeline.Expr.Token

/-! # What the tokens of a text are

Every token of a text is a lexeme of its characters, so a fact about lexemes holds of all tokens.
Words and numbers end where a character follows that can be in no name.
-/

namespace RowPipeline.Token

open Text

theorem exists_lexeme_of_mem_scan {n : Nat} {cs : List Char} {t : Token} (h : t ∈ scan n cs) :
    ∃ c rest, isBlank c = false ∧ t.kind = (lexeme c rest).kind := by
  fun_induction scan n cs with
  | case1 => cases h
  | case2 n c cs blank ih => exact ih h
  | case3 n c cs solid l ih =>
      rcases List.mem_cons.1 h with rfl | h
      · exact ⟨c, cs, by simpa using solid, rfl⟩
      · exact ih h

/-- A keyword, a sign, a text in quotes or nothing that could be read. -/
def Kind.isPlain : Kind → Bool
  | .number _ | .identifier _ | .endOfInput => false
  | .operator _ | .not | .openParen | .closeParen | .null | .boolean _ | .string _ | .stray _
  | .unterminated => true

theorem ofWord_cases (word : String) :
    ofWord word = .identifier word ∨ (ofWord word).isPlain = true := by
  have plain : ∀ kind ∈ keywords.map Prod.snd, kind.isPlain = true := by decide
  cases found : keywords.lookup (upper word) with
  | none => exact .inl (by simp [ofWord, found])
  | some kind =>
      obtain ⟨before, after, split, _⟩ := List.lookup_eq_some_iff.1 found
      have listed : kind ∈ keywords.map Prod.snd := by simp [split]
      exact .inr (by simpa [ofWord, found] using plain kind listed)

theorem wordLexeme_kind_cases (c : Char) (cs : List Char) :
    (isLetter c = true ∧
        (wordLexeme c cs).kind = ofWord (String.ofList (c :: cs.takeWhile isNamePart))) ∨
      (c.isDigit = true ∧ (wordLexeme c cs).kind = .number (String.ofList (c :: numberTail cs))) ∨
      (wordLexeme c cs).kind = .stray c := by
  unfold wordLexeme
  split
  next letter => exact .inl ⟨letter, rfl⟩
  next =>
    split
    next digit => exact .inr (.inl ⟨digit, rfl⟩)
    next => exact .inr (.inr rfl)

theorem lexeme_kind_cases (c : Char) (cs : List Char) :
    (isLetter c = true ∧ ∃ name, name = String.ofList (c :: cs.takeWhile isNamePart) ∧
        ofWord name = .identifier name ∧ (lexeme c cs).kind = .identifier name) ∨
      (c.isDigit = true ∧ (lexeme c cs).kind = .number (String.ofList (c :: numberTail cs))) ∨
      (lexeme c cs).kind.isPlain = true := by
  have quoted (q : Char) : (quotedLexeme q cs).kind.isPlain = true := by
    unfold quotedLexeme
    split <;> rfl
  unfold lexeme
  split
  case h_18 | h_19 => exact .inr (.inr (quoted _))
  case h_20 =>
    rcases wordLexeme_kind_cases c cs with ⟨letter, word⟩ | ⟨digit, number⟩ | stray
    · rw [word]
      rcases ofWord_cases (String.ofList (c :: cs.takeWhile isNamePart)) with name | plain
      · exact .inl ⟨letter, _, rfl, name, name⟩
      · exact .inr (.inr plain)
    · exact .inr (.inl ⟨digit, number⟩)
    · exact .inr (.inr (by rw [stray]; rfl))
  all_goals exact .inr (.inr rfl)

theorem kind_ne_endOfInput {s : String} {t : Token} (h : t ∈ ofText s) :
    t.kind ≠ .endOfInput := by
  obtain ⟨c, rest, _, kind⟩ := exists_lexeme_of_mem_scan h
  rw [kind]
  intro ends
  rcases lexeme_kind_cases c rest with ⟨_, name, _, _, word⟩ | ⟨_, number⟩ | plain
  · cases ends.symm.trans word
  · cases ends.symm.trans number
  · simp [ends, Kind.isPlain] at plain

/-! ## Words and numbers -/

/-- A word that stands for a column. -/
structure IsName (name : String) : Prop where
  spelled : ∃ c tail, name = String.ofList (c :: tail) ∧ isBlank c = false ∧ isLetter c = true ∧
    ∀ d ∈ tail, isNamePart d = true
  named : ofWord name = .identifier name

theorem isName_of_mem {s : String} {t : Token} (h : t ∈ ofText s) {name : String}
    (kind : t.kind = .identifier name) : IsName name := by
  obtain ⟨c, rest, solid, same⟩ := exists_lexeme_of_mem_scan h
  rw [kind] at same
  rcases lexeme_kind_cases c rest with ⟨letter, word, spelled, named, here⟩ | ⟨_, number⟩ | plain
  · obtain rfl : name = word := Kind.identifier.inj (same.trans here)
    refine ⟨⟨c, _, spelled, solid, letter, ?_⟩, named⟩
    exact List.all_eq_true.1 List.all_takeWhile
  · cases same.trans number
  · simp [← same, Kind.isPlain] at plain

theorem number_of_mem {s : String} {t : Token} (h : t ∈ ofText s) {digits : String}
    (kind : t.kind = .number digits) :
    ∃ c cs, c.isDigit = true ∧ digits = String.ofList (c :: numberTail cs) := by
  obtain ⟨c, rest, _, same⟩ := exists_lexeme_of_mem_scan h
  rw [kind] at same
  rcases lexeme_kind_cases c rest with ⟨_, name, _, _, word⟩ | ⟨digit, number⟩ | plain
  · cases same.trans word
  · exact ⟨c, rest, digit, Kind.number.inj (same.trans number)⟩
  · simp [← same, Kind.isPlain] at plain

theorem mem_numberTail {cs : List Char} {c : Char} (h : c ∈ numberTail cs) :
    c.isDigit = true ∨ c = '.' := by
  have digit {ds : List Char} (member : c ∈ ds.takeWhile Char.isDigit) : c.isDigit = true :=
    List.all_eq_true.1 List.all_takeWhile c member
  simp only [numberTail] at h
  split at h
  next =>
    split at h
    next => exact .inl (digit h)
    next =>
      simp only [List.mem_append, List.mem_cons] at h
      rcases h with h | h | h
      · exact .inl (digit h)
      · exact .inr h
      · exact .inl (digit h)
  next => exact .inl (digit h)

/-! ## Lexemes in front of other text -/

/-- No name or number goes on in this text. -/
def Stops (rest : List Char) : Prop :=
  ∀ c ∈ rest.head?, isNamePart c = false

theorem takeWhile_append_of_stop {p : Char → Bool} {cs rest : List Char}
    (inside : ∀ c ∈ cs, p c = true) (stop : ∀ c ∈ rest.head?, p c = false) :
    (cs ++ rest).takeWhile p = cs := by
  rw [List.takeWhile_append_of_pos inside]
  cases rest with
  | nil => simp
  | cons c rest => simp [stop c rfl]

theorem isBlank_of_isDigit {c : Char} (digit : c.isDigit = true) : isBlank c = false := by
  have range : 48 ≤ c.toNat ∧ c.toNat ≤ 57 := Char.isDigit_iff_toNat.1 digit
  simp [isBlank]
  omega

theorem isLetter_of_isDigit {c : Char} (digit : c.isDigit = true) : isLetter c = false := by
  have range : 48 ≤ c.toNat ∧ c.toNat ≤ 57 := Char.isDigit_iff_toNat.1 digit
  have ascii : c.toNat < 0x80 := by omega
  have sign : c ≠ '_' := by
    rintro rfl
    revert digit
    decide
  have alpha : c.isAlpha =
      (decide (c.val ≥ 65 ∧ c.val ≤ 90) || (c.val ≥ 97 && c.val ≤ 122)) := rfl
  simp [isLetter, isAlphabetic, ascii, sign, alpha, UInt32.le_iff_toNat_le]
  omega

theorem lexeme_eq_wordLexeme {c : Char} (h : isLetter c = true ∨ c.isDigit = true)
    (cs : List Char) : lexeme c cs = wordLexeme c cs := by
  unfold lexeme
  split
  all_goals first | rfl | exact absurd h (by decide)

theorem lexeme_word {c : Char} {tail rest : List Char} (letter : isLetter c = true)
    (inside : ∀ d ∈ tail, isNamePart d = true) (stop : Stops rest) :
    lexeme c (tail ++ rest) = ⟨ofWord (String.ofList (c :: tail)), c :: tail, tail.length⟩ := by
  rw [lexeme_eq_wordLexeme (.inl letter), wordLexeme, if_pos letter]
  simp only [takeWhile_append_of_stop inside stop]

end RowPipeline.Token
