import RowPipeline.Proofs.DecimalText
import RowPipeline.Proofs.Layout
import RowPipeline.Proofs.Tokens

/-! # Reading what was written of an expression

The text of an expression puts every operation into parentheses, so its tokens are those of a layout
that keeps all conventions. That the text is cut into these tokens is shown part by part, each part
with the rest of the text behind it.
-/

namespace RowPipeline

open Text

namespace Token

/-- The characters up to `rest` are cut into tokens with these marks. The rest is in sight, so no
token could have taken more. -/
inductive Cuts : List Char → List Mark → List Char → Prop where
  | done {rest : List Char} : Cuts rest [] rest
  | blank {c : Char} {cs rest : List Char} {ms : List Mark} :
      isBlank c = true → Cuts cs ms rest → Cuts (c :: cs) ms rest
  | token {c : Char} {cs rest : List Char} {m : Mark} {ms : List Mark} :
      isBlank c = false → (lexeme c cs).kind.mark? = some m →
      Cuts (cs.drop (lexeme c cs).more) ms rest → Cuts (c :: cs) (m :: ms) rest

namespace Cuts

variable {c : Char} {cs tail rest rest' text : List Char} {m : Mark} {ms ms' : List Mark}
  {kind : Kind}

theorem append (h : Cuts cs ms rest) (h' : Cuts rest ms' rest') : Cuts cs (ms ++ ms') rest' := by
  induction h with
  | done => exact h'
  | blank blank _ ih => exact .blank blank (ih h')
  | token solid mark _ ih => exact .token solid mark (ih h')

theorem single (solid : isBlank c = false)
    (cut : lexeme c (tail ++ rest) = ⟨kind, text, tail.length⟩) (mark : kind.mark? = some m) :
    Cuts (c :: tail ++ rest) [m] rest := by
  rw [List.cons_append]
  apply Cuts.token solid
  · rw [cut]
    exact mark
  · rw [cut, List.drop_left]
    exact .done

theorem mapM_scan (h : Cuts cs ms rest) (ends : rest = []) (n : Nat) :
    (scan n cs).mapM (fun t => t.kind.mark?) = some ms := by
  induction h generalizing n with
  | done =>
      rw [ends, scan]
      rfl
  | blank blank _ ih =>
      rw [scan, if_pos blank]
      exact ih ends _
  | token solid mark _ ih =>
      rw [scan, if_neg (by simp [solid])]
      simp [mark, ih ends]

theorem marks?_eq {s : String} (h : Cuts s.toList ms []) : marks? s = some ms :=
  h.mapM_scan rfl 1

end Cuts

/-! ## Words, numbers and texts -/

theorem stops_nil : Stops [] := by
  rintro c ⟨⟩

theorem stops_blank (rest : List Char) : Stops (' ' :: rest) := by
  rintro c ⟨⟩
  decide

theorem stops_closeParen (rest : List Char) : Stops (')' :: rest) := by
  rintro c ⟨⟩
  decide

theorem Stops.not_digit {rest : List Char} (stop : Stops rest) :
    ∀ c ∈ rest.head?, c.isDigit = false := by
  intro c first
  have outside := stop c first
  simp only [isNamePart, Bool.or_eq_false_iff] at outside
  exact outside.1.2

theorem Stops.not_point {rest : List Char} (stop : Stops rest) : ∀ c ∈ rest.head?, c ≠ '.' := by
  rintro _ first rfl
  exact absurd (stop _ first) (by decide)

theorem numberTail_append (ds : Decimal.Digits) {rest : List Char} (stop : Stops rest) :
    numberTail (ds.tail ++ rest) = ds.tail := by
  obtain ⟨first, whole, places, digits⟩ := ds
  simp only [List.cons_append, List.forall_mem_cons, List.forall_mem_append] at digits
  obtain ⟨_, wholeDigits, placeDigits⟩ := digits
  simp only [Decimal.Digits.tail]
  cases places with
  | nil =>
      simp only [List.isEmpty_nil, if_true, List.append_nil]
      rw [numberTail, takeWhile_append_of_stop wholeDigits stop.not_digit, List.drop_left]
      split
      next after => exact absurd rfl (stop.not_point '.' rfl)
      next => rfl
  | cons place places =>
      have point : ∀ c ∈ ('.' :: (place :: places) ++ rest).head?, c.isDigit = false := by
        rintro c ⟨⟩
        decide
      rw [List.isEmpty_cons, if_neg Bool.false_ne_true, List.append_assoc, numberTail,
        takeWhile_append_of_stop wholeDigits point, List.drop_left]
      have same := takeWhile_append_of_stop placeDigits stop.not_digit
      simp only [List.cons_append] at same ⊢
      rw [same, List.isEmpty_cons, if_neg Bool.false_ne_true]

theorem cuts_number {n : Decimal} (nonneg : 0 ≤ n.mantissa) {rest : List Char}
    (stop : Stops rest) : Cuts (n.toChars ++ rest) [.operand (.literal (.number n))] rest := by
  obtain ⟨ds, chars⟩ := Decimal.exists_digits_of_nonneg nonneg
  have value := n.ofText?_toText
  rw [Decimal.toText, chars] at value
  rw [chars]
  have digit : ds.first.isDigit = true := ds.digits _ List.mem_cons_self
  have letter : ¬isLetter ds.first = true := by simp [isLetter_of_isDigit digit]
  have cut : lexeme ds.first (ds.tail ++ rest) =
      ⟨.number (String.ofList ds.chars), ds.chars, ds.tail.length⟩ := by
    rw [lexeme_eq_wordLexeme (.inr digit), wordLexeme, if_neg letter, if_pos digit]
    simp only [numberTail_append ds stop]
    rfl
  exact .single (isBlank_of_isDigit digit) cut (by simp [Kind.mark?, value])

theorem cuts_word {c : Char} {tail rest : List Char} {m : Mark} (solid : isBlank c = false)
    (letter : isLetter c = true) (inside : tail.all isNamePart = true)
    (mark : (ofWord (String.ofList (c :: tail))).mark? = some m) (stop : Stops rest) :
    Cuts (c :: tail ++ rest) [m] rest :=
  .single solid (lexeme_word letter (List.all_eq_true.1 inside) stop) mark

theorem cuts_name {name : String} (h : IsName name) (full : ¬Expr.hasEmptyPart name.toList = true)
    {rest : List Char} (stop : Stops rest) :
    Cuts (name.toList ++ rest) [.operand (.column (.ofName name))] rest := by
  obtain ⟨⟨c, tail, rfl, solid, letter, inside⟩, named⟩ := h
  have mark : (ofWord (String.ofList (c :: tail))).mark? =
      some (.operand (.column (.ofName (String.ofList (c :: tail))))) := by
    rw [named, Kind.mark?, if_neg full]
  rw [String.toList_ofList]
  exact cuts_word solid letter (List.all_eq_true.2 inside) mark stop

theorem quoted?_escape (cs rest : List Char) :
    quoted? '"' (Expr.escape cs ++ '"' :: rest) = some (cs, (Expr.escape cs ++ ['"']).length) := by
  induction cs with
  | nil =>
      unfold quoted?
      simp [Expr.escape]
  | cons c cs ih =>
      by_cases special : c = '"' ∨ c = '\\'
      · simp [Expr.escape, special, quoted?, ih]
      · obtain ⟨quote, backslash⟩ := not_or.1 special
        unfold quoted?
        simp [Expr.escape, quote, backslash, ih]

theorem cuts_text (s : String) (rest : List Char) :
    Cuts ('"' :: (Expr.escape s.toList ++ ['"']) ++ rest) [.operand (.literal (.text s))] rest := by
  have cut : lexeme '"' (Expr.escape s.toList ++ ['"'] ++ rest) =
      ⟨.string s, '"' :: s.toList ++ ['"'], (Expr.escape s.toList ++ ['"']).length⟩ := by
    rw [List.append_assoc, List.singleton_append]
    change quotedLexeme _ _ = _
    simp [quotedLexeme, quoted?_escape]
  exact .single rfl cut rfl

theorem cuts_not (rest : List Char) : Cuts ('N' :: ['O', 'T'] ++ ' ' :: rest) [.not] rest :=
  (cuts_word rfl rfl rfl rfl (stops_blank rest)).append (.blank rfl .done)

theorem cuts_minus (rest : List Char) :
    Cuts ('-' :: rest) [.operator (.arith .subtract)] rest :=
  .token rfl rfl .done

theorem cuts_group {cs rest : List Char} {ms : List Mark} (inner : Cuts cs ms (')' :: rest)) :
    Cuts ('(' :: cs) (.openParen :: ms ++ [.closeParen]) rest :=
  .token rfl rfl (inner.append (.token rfl rfl .done))

theorem cuts_operator (op : BinaryOp) (rest : List Char) :
    Cuts (' ' :: op.symbol.toList ++ ' ' :: rest) [.operator op] rest := by
  apply Cuts.blank rfl
  suffices Cuts (op.symbol.toList ++ ' ' :: rest) [.operator op] (' ' :: rest) from
    this.append (.blank rfl .done)
  rcases op with ⟨_ | _⟩ | ⟨_ | _ | _⟩ | ⟨_ | _ | _ | _⟩ | ⟨_ | _ | _ | _⟩
  case logic.or | logic.and | text.contains =>
    exact cuts_word rfl rfl rfl rfl (stops_blank rest)
  all_goals exact .token rfl rfl .done

end Token

namespace ColumnRef

theorem written_ofName (name : String) : (ofName name).written = name := by
  unfold ofName Name.split? splitOnce?
  cases cut : cutAt? '.' name.toList with
  | none => rfl
  | some parts =>
      obtain ⟨table, field⟩ := parts
      have split := (cutAt?_eq_some cut).1
      rw [← String.toList_inj, split]
      simp [written]

end ColumnRef

namespace Expr

open Token

def layout : Expr → Layout
  | literal v => .operand (.literal v)
  | column c => .operand (.column c)
  | unary op e => .group (.unary op e.layout)
  | binary op l r => .group (.binary op l.layout r.layout)

theorem layout_closed (e : Expr) :
    e.layout.operator? = none ∧ e.layout.hasLogic = false ∧ e.layout.endsInNot = false := by
  cases e <;> exact ⟨rfl, rfl, rfl⟩

theorem layout_expr (e : Expr) : e.layout.expr = e := by
  induction e with
  | literal | column => rfl
  | unary op e ih => rw [layout, Layout.expr, Layout.expr, ih]
  | binary op l r ihl ihr => rw [layout, Layout.expr, Layout.expr, ihl, ihr]

theorem layout_conventional (e : Expr) : e.layout.Conventional := by
  induction e with
  | literal | column => exact .operand _
  | unary op e ih =>
      obtain ⟨alone, free, _⟩ := e.layout_closed
      cases op with
      | not => exact .group (.not ih free)
      | negate => exact .group (.negate ih alone)
  | binary op l r ihl ihr =>
      obtain ⟨left, _, ends⟩ := l.layout_closed
      obtain ⟨right, _, _⟩ := r.layout_closed
      exact .group (.binary ihl ihr (by simp [left]) (by simp [right]) (by simp [ends]))

theorem cuts_operand {s : String} {t : Token} (member : t ∈ ofText s) {e : Expr}
    (mark : t.kind.mark? = some (.operand e)) {rest : List Char} (stop : Stops rest) :
    Cuts (e.toText.toList ++ rest) [.operand e] rest := by
  obtain ⟨kind, text, column⟩ := t
  cases kind with
  | null =>
      cases mark
      exact cuts_word rfl rfl rfl rfl stop
  | boolean b =>
      cases mark
      cases b <;> exact cuts_word rfl rfl rfl rfl stop
  | string value =>
      cases mark
      simpa [toText, literalText] using cuts_text value rest
  | number digits =>
      obtain ⟨n, value, same⟩ := Option.map_eq_some_iff.1 mark
      cases same
      obtain ⟨c, cs, digit, rfl⟩ := number_of_mem member rfl
      have nonneg := Decimal.nonneg_of_ofText? digit (fun d => mem_numberTail) value
      simpa [toText, literalText, Decimal.toText] using cuts_number nonneg stop
  | identifier name =>
      obtain ⟨full, same⟩ := Option.ite_none_left_eq_some.1 mark
      cases same
      simpa [toText, ColumnRef.written_ofName] using cuts_name (isName_of_mem member rfl) full stop
  | operator | not | openParen | closeParen | stray | unterminated | endOfInput => cases mark

/-- The text of an expression whose operands can be read is cut into the tokens of its layout,
whatever follows. -/
theorem cuts_toText {e : Expr}
    (tokens : ∀ a, .operand a ∈ e.inOrder → ∃ s, ∃ t ∈ ofText s, t.kind.mark? = some (.operand a))
    {rest : List Char} (stop : Stops rest) :
    Cuts (e.toText.toList ++ rest) e.layout.marks rest := by
  induction e generalizing rest with
  | literal | column =>
      obtain ⟨s, t, member, mark⟩ := tokens _ List.mem_cons_self
      exact cuts_operand member mark stop
  | unary op e ih =>
      have inner := ih (fun a here => tokens a (List.mem_cons_of_mem _ here))
        (stops_closeParen rest)
      cases op with
      | not =>
          simpa [toText, layout, Layout.marks, UnaryOp.mark] using
            cuts_group ((cuts_not _).append inner)
      | negate =>
          simpa [toText, layout, Layout.marks, UnaryOp.mark] using
            cuts_group ((cuts_minus _).append inner)
  | binary op l r ihl ihr =>
      have right := ihr
        (fun a here => tokens a (List.mem_append_right _ (List.mem_cons_of_mem _ here)))
        (stops_closeParen rest)
      have operator := (cuts_operator op _).append right
      have left := ihl (fun a here => tokens a (List.mem_append_left _ here))
        (stops_blank (op.symbol.toList ++ ' ' :: (r.toText.toList ++ ')' :: rest)))
      simpa [toText, layout, Layout.marks] using cuts_group (left.append operator)

/-- The text of an expression that was read from some text is read as the same expression, so
writing it again changes nothing. -/
theorem parse_toText {s : String} {e : Expr} (h : parse s = .ok e) :
    parse e.toText = .ok e ∧ (parse e.toText).map toText = .ok e.toText := by
  have tokens : ∀ a, .operand a ∈ e.inOrder →
      ∃ s, ∃ t ∈ ofText s, t.kind.mark? = some (.operand a) :=
    fun a here => ⟨s, exists_token_of_mem_inOrder h here⟩
  have cut := cuts_toText tokens stops_nil
  rw [List.append_nil] at cut
  have read : parse e.toText = .ok e :=
    parse_eq_ok_iff.2 ⟨e.layout, e.layout_conventional, cut.marks?_eq, e.layout_expr⟩
  exact ⟨read, by rw [read]; rfl⟩

theorem parse_toText_escaped :
    let s := "not -x.y.z = \"a\\\"\\b\" or 2.50 contains true"
    let e : Expr := .binary (.logic .or)
      (.unary .not (.binary (.text .equal)
        (.unary .negate (.column ⟨some "x", "y.z"⟩)) (.literal (.text "a\"b"))))
      (.binary (.text .contains)
        (.literal (.number ⟨250, 2, by decide, by decide⟩)) (.literal (.boolean true)))
    parse s = .ok e ∧ e.toText = "((NOT ((-x.y.z) = \"a\\\"b\")) OR (2.50 CONTAINS TRUE))" ∧
      parse e.toText = .ok e ∧ (parse e.toText).map toText = .ok e.toText := by
  intro s e
  have read : parse s = .ok e := by decide +kernel
  exact ⟨read, by decide +kernel, parse_toText read⟩

end Expr

end RowPipeline
