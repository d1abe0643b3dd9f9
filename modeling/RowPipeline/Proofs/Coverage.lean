import RowPipeline.Proofs.Lookahead

/-! # Every character of a text is accounted for

The tokens of a text stand in stretches of it, one behind the other, and nothing but blank space
lies between them. What a token stands in is the token as messages quote it; only a text in quotes
is quoted without its escapes, and a quote without its partner takes all that follows it.
-/

namespace RowPipeline.Token

open Text

/-! ## Texts in quotes -/

/-- What stands between two quotes `q`, and the text that it is: the character behind a backslash is
part of the text whatever it is, and any other character unless it is the quote. -/
inductive Unescapes (q : Char) : List Char → List Char → Prop where
  | nil : Unescapes q [] []
  | plain {c : Char} {body value : List Char} :
      c ≠ q → c ≠ '\\' → Unescapes q body value → Unescapes q (c :: body) (c :: value)
  | escaped (c : Char) {body value : List Char} :
      Unescapes q body value → Unescapes q ('\\' :: c :: body) (c :: value)

/-- A character that opens a text and closes it. -/
def IsQuote (q : Char) : Prop :=
  q = '"' ∨ q = '\''

theorem IsQuote.ne_backslash {q : Char} (quote : IsQuote q) : q ≠ '\\' := by
  rcases quote with rfl | rfl <;> decide

theorem exists_body_of_quoted? {q : Char} {cs value : List Char} {n : Nat}
    (h : quoted? q cs = some (value, n)) :
    ∃ body rest, cs = body ++ q :: rest ∧ n = body.length + 1 ∧ Unescapes q body value := by
  fun_induction quoted? q cs generalizing value n with
  | case1 | case3 => cases h
  | case2 cs =>
      cases h
      exact ⟨[], cs, rfl, rfl, .nil⟩
  | case4 c cs other ih =>
      obtain ⟨⟨text, k⟩, inner, same⟩ := Option.map_eq_some_iff.1 h
      cases same
      obtain ⟨body, rest, rfl, rfl, unescaped⟩ := ih inner
      exact ⟨'\\' :: c :: body, rest, rfl, rfl, .escaped c unescaped⟩
  | case5 c cs other plain ih =>
      obtain ⟨⟨text, k⟩, inner, same⟩ := Option.map_eq_some_iff.1 h
      cases same
      obtain ⟨body, rest, rfl, rfl, unescaped⟩ := ih inner
      exact ⟨c :: body, rest, rfl, rfl, .plain other plain unescaped⟩

theorem quoted?_body {q : Char} (quote : IsQuote q) {body value : List Char}
    (h : Unescapes q body value) (rest : List Char) :
    quoted? q (body ++ q :: rest) = some (value, body.length + 1) := by
  induction h with
  | nil =>
      unfold quoted?
      simp
  | plain other plain _ ih =>
      unfold quoted?
      simp [other, plain, ih]
  | escaped c _ ih =>
      rw [List.cons_append, List.cons_append, quoted?]
      simp [quote.ne_backslash.symm, ih]

theorem quoted?_eq_none_iff {q : Char} (quote : IsQuote q) {cs : List Char} :
    quoted? q cs = none ↔
      ∀ body value rest, Unescapes q body value → cs ≠ body ++ q :: rest := by
  constructor
  · rintro none body value rest unescaped rfl
    simp [quoted?_body quote unescaped] at none
  · intro unclosed
    cases found : quoted? q cs with
    | none => rfl
    | some part =>
        obtain ⟨body, rest, split, _, unescaped⟩ := exists_body_of_quoted? found
        exact absurd split (unclosed body _ rest unescaped)

/-! ## How tokens are spelled -/

/-- A token of the kind, quoted in messages as `text`, is spelled by the characters `own` in front
of `rest`. -/
inductive SpelledAs : Kind → (text own rest : List Char) → Prop where
  | quoted {q : Char} {body value : List Char} (rest : List Char) :
      IsQuote q → Unescapes q body value →
      SpelledAs (.string (String.ofList value)) (q :: value ++ [q]) (q :: body ++ [q]) rest
  /-- Nothing in the body closes it, and nothing is left behind it. -/
  | unterminated {q : Char} {body : List Char} :
      IsQuote q →
      (∀ inner value rest, Unescapes q inner value → body ≠ inner ++ q :: rest) →
      SpelledAs .unterminated [q] (q :: body) []
  | itself {kind : Kind} (own rest : List Char) :
      (∀ value, kind ≠ .string value) → kind ≠ .unterminated → SpelledAs kind own own rest

theorem SpelledAs.rest_eq_nil {kind : Kind} {text own rest : List Char}
    (h : SpelledAs kind text own rest) (unclosed : kind = .unterminated) : rest = [] := by
  cases h with
  | quoted => cases unclosed
  | unterminated => rfl
  | itself _ _ _ closed => exact absurd unclosed closed

def Lexeme.SpelledBy (l : Lexeme) (c : Char) (cs : List Char) : Prop :=
  SpelledAs l.kind l.text (c :: cs.take l.more) (cs.drop l.more)

theorem quotedLexeme_spelled {q : Char} (quote : IsQuote q) (cs : List Char) :
    (quotedLexeme q cs).SpelledBy q cs := by
  unfold quotedLexeme
  split
  next value n found =>
    obtain ⟨body, rest, rfl, rfl, unescaped⟩ := exists_body_of_quoted? found
    have own : (body ++ q :: rest).take (body.length + 1) = body ++ [q] := by
      rw [List.append_cons]
      exact List.take_left' (by simp)
    rw [Lexeme.SpelledBy, own]
    exact .quoted _ quote unescaped
  next none =>
    rw [Lexeme.SpelledBy, List.take_length, List.drop_length]
    exact .unterminated quote ((quoted?_eq_none_iff quote).1 none)

theorem Lexeme.spelledBy_front {kind : Kind} {tail cs : List Char} (c : Char)
    (others : (∀ value, kind ≠ .string value) ∧ kind ≠ .unterminated) (front : tail <+: cs) :
    Lexeme.SpelledBy ⟨kind, c :: tail, tail.length⟩ c cs := by
  have own : cs.take tail.length = tail := (List.prefix_iff_eq_take.1 front).symm
  rw [Lexeme.SpelledBy, own]
  exact .itself _ _ others.1 others.2

theorem ofWord_ne (word : String) :
    (∀ value, ofWord word ≠ .string value) ∧ ofWord word ≠ .unterminated := by
  have words : ∀ kind ∈ keywords.map Prod.snd,
      (∀ value, kind ≠ .string value) ∧ kind ≠ .unterminated := by
    simp [keywords]
  unfold ofWord
  cases found : keywords.lookup (upper word) with
  | none => exact ⟨nofun, nofun⟩
  | some kind =>
      obtain ⟨before, after, split, _⟩ := List.lookup_eq_some_iff.1 found
      exact words kind (by simp [split])

theorem wordLexeme_spelled (c : Char) (cs : List Char) : (wordLexeme c cs).SpelledBy c cs := by
  unfold wordLexeme
  split
  next => exact Lexeme.spelledBy_front c (ofWord_ne _) (List.takeWhile_prefix _)
  next =>
    split
    next =>
      obtain ⟨rest, split, -⟩ := exists_numberTail cs
      exact Lexeme.spelledBy_front c ⟨nofun, nofun⟩ ⟨rest, split.symm⟩
    next => exact Lexeme.spelledBy_front c ⟨nofun, nofun⟩ List.nil_prefix

theorem lexeme_spelled (c : Char) (cs : List Char) : (lexeme c cs).SpelledBy c cs := by
  unfold lexeme
  split
  case h_18 => exact quotedLexeme_spelled (.inl rfl) _
  case h_19 => exact quotedLexeme_spelled (.inr rfl) _
  case h_20 => exact wordLexeme_spelled c _
  all_goals exact Lexeme.spelledBy_front _ ⟨nofun, nofun⟩ ⟨_, rfl⟩

/-! ## Stretches of a text -/

structure Span where
  /-- The place of its first character, counted from 1. -/
  start : Nat
  length : Nat

namespace Span

def stop (sp : Span) : Nat :=
  sp.start + sp.length

def Covers (sp : Span) (place : Nat) : Prop :=
  sp.start ≤ place ∧ place < sp.stop

def own (sp : Span) (text : List Char) : List Char :=
  (text.drop (sp.start - 1)).take sp.length

def rest (sp : Span) (text : List Char) : List Char :=
  text.drop (sp.stop - 1)

theorem own_between (before own rest : List Char) :
    (⟨before.length + 1, own.length⟩ : Span).own (before ++ (own ++ rest)) = own := by
  simp [Span.own]

theorem rest_between (before own rest : List Char) :
    (⟨before.length + 1, own.length⟩ : Span).rest (before ++ (own ++ rest)) = rest := by
  have length : before.length + 1 + own.length - 1 = (before ++ own).length := by
    rw [List.length_append]
    omega
  rw [Span.rest, Span.stop, length, ← List.append_assoc, List.drop_left]

end Span

/-- The token stands in the stretch of the text. -/
structure StandsIn (text : List Char) (t : Token) (sp : Span) : Prop where
  start : sp.start = t.column
  nonempty : 1 ≤ sp.length
  inside : sp.stop ≤ text.length + 1
  spelled : SpelledAs t.kind t.text.toList (sp.own text) (sp.rest text)

/-- From the place on, the tokens stand in their stretches of the text, which come one behind the
other, and every character outside them is blank. -/
structure Accounts (text : List Char) (place : Nat) (placed : List (Token × Span)) : Prop where
  stands : ∀ p ∈ placed, StandsIn text p.1 p.2
  behind : ∀ p ∈ placed, place ≤ p.2.start
  inOrder : placed.Pairwise fun p p' => p.2.stop ≤ p'.2.start
  blank : ∀ i c, text[i]? = some c → place ≤ i + 1 → (∀ p ∈ placed, ¬p.2.Covers (i + 1)) →
    isBlank c = true

namespace Accounts

variable {text : List Char} {place : Nat} {placed : List (Token × Span)}

theorem nil (text : List Char) : Accounts text (text.length + 1) [] where
  stands := by simp
  behind := by simp
  inOrder := .nil
  blank := by
    intro i c here behind
    have inside := (List.getElem?_eq_some_iff.1 here).1
    omega

theorem blankStep (h : Accounts text (place + 1) placed) {c : Char}
    (here : text[place - 1]? = some c) (blank : isBlank c = true) : Accounts text place placed where
  stands := h.stands
  behind := fun p member => Nat.le_of_succ_le (h.behind p member)
  inOrder := h.inOrder
  blank := by
    intro i d own behind outside
    by_cases first : place = i + 1
    · subst first
      cases here.symm.trans own
      exact blank
    · exact h.blank i d own (by omega) outside

theorem tokenStep {t : Token} {n : Nat} (h : Accounts text (place + n) placed)
    (stands : StandsIn text t ⟨place, n⟩) : Accounts text place ((t, ⟨place, n⟩) :: placed) where
  stands := List.forall_mem_cons.2 ⟨stands, h.stands⟩
  behind := List.forall_mem_cons.2
    ⟨Nat.le_refl _, fun p member => Nat.le_of_add_right_le (h.behind p member)⟩
  inOrder := .cons h.behind h.inOrder
  blank := by
    intro i c own behind outside
    obtain ⟨notHere, later⟩ := List.forall_mem_cons.1 outside
    refine h.blank i c own ?_ later
    simp only [Span.Covers, Span.stop] at notHere
    omega

theorem columns_increase (h : Accounts text place placed) :
    (placed.map Prod.fst).Pairwise fun t t' => t.column < t'.column := by
  rw [List.pairwise_map]
  refine h.inOrder.imp_of_mem fun {p p'} member member' apart => ?_
  have here := h.stands p member
  have there := h.stands p' member'
  rw [← here.start, ← there.start]
  exact Nat.lt_of_lt_of_le (Nat.lt_add_of_pos_right here.nonempty) apart

theorem column_mem (h : Accounts text place placed) {p : Token × Span} (member : p ∈ placed) :
    place ≤ p.1.column ∧ p.1.column ≤ text.length := by
  obtain ⟨start, nonempty, inside, -⟩ := h.stands p member
  have behind := h.behind p member
  simp only [Span.stop] at inside
  omega

/-- Behind a quote without its partner there is no token. -/
theorem unterminated_last {front back : List (Token × Span)} {p : Token × Span}
    (h : Accounts text place (front ++ p :: back)) (kind : p.1.kind = .unterminated) :
    back = [] := by
  have here := h.stands p (by simp)
  have ends : text.length ≤ p.2.stop - 1 :=
    List.drop_eq_nil_iff.1 (here.spelled.rest_eq_nil kind)
  have later := (List.pairwise_cons.1 (List.pairwise_append.1 h.inOrder).2.1).1
  refine List.eq_nil_iff_forall_not_mem.2 fun p' member => ?_
  obtain ⟨-, nonempty, inside, -⟩ := h.stands p' (by simp [member])
  have apart := later p' member
  have own := here.nonempty
  simp only [Span.stop] at ends inside apart
  omega

end Accounts

theorem standsIn_lexeme (before : List Char) {c : Char} {tail rest : List Char}
    (length : (lexeme c (tail ++ rest)).more = tail.length) :
    StandsIn (before ++ (c :: tail ++ rest))
      ⟨(lexeme c (tail ++ rest)).kind, String.ofList (lexeme c (tail ++ rest)).text,
        before.length + 1⟩
      ⟨before.length + 1, (c :: tail).length⟩ where
  start := rfl
  nonempty := Nat.succ_pos _
  inside := by
    simp only [Span.stop, List.length_append]
    omega
  spelled := by
    have spelled := lexeme_spelled c (tail ++ rest)
    rw [Lexeme.SpelledBy, length, List.take_left, List.drop_left] at spelled
    rw [Span.own_between, Span.rest_between, String.toList_ofList]
    exact spelled

theorem exists_accounts (before cs : List Char) :
    ∃ placed, scan (before.length + 1) cs = placed.map Prod.fst ∧
      Accounts (before ++ cs) (before.length + 1) placed := by
  induction cs using textInduction generalizing before with
  | nil => exact ⟨[], by simp [scan], by simpa using Accounts.nil before⟩
  | blank c cs blank ih =>
      obtain ⟨placed, same, accounts⟩ := ih (before ++ [c])
      rw [List.append_assoc, List.length_append] at accounts
      rw [scan_blank blank]
      exact ⟨placed, by simpa using same, accounts.blankStep (by simp) blank⟩
  | token c tail rest solid length ih =>
      obtain ⟨placed, same, accounts⟩ := ih (before ++ c :: tail)
      have place : (before ++ c :: tail).length + 1 = before.length + 1 + (c :: tail).length := by
        rw [List.length_append]
        omega
      rw [List.append_assoc, place] at accounts
      refine ⟨_, ?_, accounts.tokenStep (standsIn_lexeme before length)⟩
      rw [scan_token solid length, List.map_cons, ← same, place, List.length_cons,
        Nat.add_assoc (before.length + 1), Nat.add_comm 1]

/-- The tokens of a text end with the end of the input and with no other; they stand in stretches of
the text that come one behind the other, with blank space between them; what they are spelled by
is what messages quote, except for a text in quotes, of which they quote what it stands for, and a
quote without its partner, which takes all that follows it and is the last token before the end. -/
theorem tokenize_accounts_for_text (s : String) :
    ∃ (placed : List (Token × Span)) (last : Token),
      tokenize s = placed.map Prod.fst ++ [last] ∧
      last.kind = .endOfInput ∧ (∀ p ∈ placed, p.1.kind ≠ .endOfInput) ∧
      (placed.map Prod.fst).Pairwise (fun t t' => t.column < t'.column) ∧
      (∀ p ∈ placed, 1 ≤ p.1.column ∧ p.1.column ≤ s.toList.length) ∧
      Accounts s.toList 1 placed ∧
      ∀ front p back, placed = front ++ p :: back → p.1.kind = .unterminated →
        p.1.isIllegal = true ∧ back = [] := by
  obtain ⟨placed, same, accounts⟩ := exists_accounts [] s.toList
  refine ⟨placed, ⟨.endOfInput, "", s.toList.length⟩, congrArg (· ++ _) same, rfl, ?_,
    accounts.columns_increase, fun p member => accounts.column_mem member, accounts, ?_⟩
  · intro p member
    have listed : p.1 ∈ scan 1 s.toList := by
      rw [show scan 1 s.toList = placed.map Prod.fst from same]
      exact List.mem_map_of_mem member
    exact kind_ne_endOfInput listed
  · rintro front p back rfl kind
    exact ⟨by rw [isIllegal, kind], accounts.unterminated_last kind⟩

end RowPipeline.Token
