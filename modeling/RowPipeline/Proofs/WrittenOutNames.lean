import RowPipeline.Proofs.Lookahead
import RowPipeline.Proofs.Renaming
import RowPipeline.Proofs.Respelling

/-! # Names written out in full

In the text of an expression an alias and a point are put in front of every column name that has no
alias. If the alias is a name itself, the text is cut into the same tokens as before, with the names
under the alias, so it is read as the same expression with its columns under the alias.
-/

namespace RowPipeline

open Text

/-- The column under an alias; one that has an alias already keeps it. -/
def ColumnRef.under (aliasName : String) (c : ColumnRef) : ColumnRef :=
  if c.hasAlias then c else .ofName (aliasName ++ "." ++ c.written)

namespace Token

/-- The name of a column without an alias. -/
def Kind.isBare : Kind → Bool
  | .identifier name => !(ColumnRef.ofName name).hasAlias
  | _ => false

/-- The same token with its column under an alias. -/
def Kind.under (aliasName : String) : Kind → Kind
  | .identifier name => .identifier ((ColumnRef.ofName name).under aliasName).written
  | kind => kind

/-- Puts an alias and a point in front of every column name without an alias. -/
def writeOut (aliasName : String) : List Char → List Char
  | [] => []
  | c :: cs =>
    if isBlank c then c :: writeOut aliasName cs
    else
      let l := lexeme c cs
      let own := c :: cs.take l.more
      (if l.kind.isBare then aliasName.toList ++ '.' :: own else own) ++
        writeOut aliasName (cs.drop l.more)
termination_by cs => cs.length
decreasing_by
  all_goals simp only [List.length_drop, List.length_cons]
  all_goals omega

end Token

/-- The text of an expression with every name under an alias. -/
def Expr.writeOut (aliasName text : String) : String :=
  String.ofList (Token.writeOut aliasName text.toList)

namespace ColumnRef

theorem hasAlias_ofName_iff {name : String} :
    (ofName name).hasAlias = true ↔ '.' ∈ name.toList := by
  rw [hasAlias_ofName, Name.field?, Name.split?, splitOnce?, Option.isSome_map, Option.isSome_map,
    Option.isSome_iff_ne_none, ne_eq, cutAt?_eq_none_iff, not_not]

theorem under_of_bare {aliasName : String} {c : ColumnRef} (bare : c.hasAlias = false) :
    c.under aliasName = .ofName (aliasName ++ "." ++ c.written) := by
  rw [under, if_neg (by simp [bare])]

theorem under_of_hasAlias {aliasName : String} {c : ColumnRef} (qualified : c.hasAlias = true) :
    c.under aliasName = c :=
  if_pos qualified

theorem ofName_under (aliasName name : String) :
    ofName ((ofName name).under aliasName).written = (ofName name).under aliasName := by
  cases qualified : (ofName name).hasAlias with
  | true => rw [under_of_hasAlias qualified, written_ofName]
  | false => rw [under_of_bare qualified, written_ofName]

end ColumnRef

namespace Token

/-! ## Tokens -/

theorem ofWord_of_point {word : String} (point : '.' ∈ word.toList) :
    ofWord word = .identifier word := by
  have kept : '.' ∈ (upper word).toList := by
    rw [upper, String.toList_ofList, List.mem_flatMap]
    exact ⟨'.', point, by decide⟩
  have keyword : ∀ p ∈ keywords, '.' ∉ p.1.toList := by decide
  have none : keywords.lookup (upper word) = none := by
    rw [List.lookup_eq_none_iff]
    intro p member
    rw [bne_iff_ne]
    intro same
    exact keyword p member (same ▸ kept)
  rw [ofWord, none, Option.getD_none]

variable {aliasName : String}

theorem Kind.under_of_not_isBare {kind : Kind} (qualified : kind.isBare = false) :
    kind.under aliasName = kind := by
  cases kind with
  | identifier name =>
      have own : (ColumnRef.ofName name).hasAlias = true := by simpa [isBare] using qualified
      rw [under, ColumnRef.under_of_hasAlias own, ColumnRef.written_ofName]
  | _ => rfl

/-- A name without an alias takes up a word. -/
structure BareAt (c : Char) (tail rest : List Char) : Prop where
  letter : isLetter c = true
  inside : ∀ d ∈ tail, isNamePart d = true
  stop : Stops rest
  hasAlias : (ColumnRef.ofName (String.ofList (c :: tail))).hasAlias = false
  read : lexeme c (tail ++ rest) =
    ⟨.identifier (String.ofList (c :: tail)), c :: tail, tail.length⟩

theorem exists_bareAt {c : Char} {cs : List Char} (bare : (lexeme c cs).kind.isBare = true) :
    ∃ tail rest, cs = tail ++ rest ∧ BareAt c tail rest := by
  rcases lexeme_kind_cases c cs with ⟨letter, name, rfl, named, kind⟩ | ⟨_, number⟩ | plain
  · have inside : ∀ d ∈ cs.takeWhile isNamePart, isNamePart d = true :=
      List.all_eq_true.1 List.all_takeWhile
    have stop : Stops (cs.dropWhile isNamePart) := head?_dropWhile cs
    have split : cs = cs.takeWhile isNamePart ++ cs.dropWhile isNamePart :=
      List.takeWhile_append_dropWhile.symm
    refine ⟨_, _, split, letter, inside, stop, ?_, ?_⟩
    · rw [kind] at bare
      simpa [Kind.isBare] using bare
    · rw [lexeme_word letter inside stop, named]
  · rw [number] at bare
    cases bare
  · cases kind : (lexeme c cs).kind <;> rw [kind] at bare plain <;> first | cases bare | cases plain

theorem BareAt.lexeme_alias {c : Char} {tail rest : List Char} (here : BareAt c tail rest)
    (named : IsName aliasName) {rest' : List Char} (stop : Stops rest') :
    ∃ a as, aliasName.toList = a :: as ∧ isBlank a = false ∧
      lexeme a (as ++ '.' :: c :: tail ++ rest') =
        ⟨(Kind.identifier (String.ofList (c :: tail))).under aliasName,
          a :: (as ++ '.' :: c :: tail), (as ++ '.' :: c :: tail).length⟩ := by
  obtain ⟨a, as, spelled, solid, first, inside⟩ := named.spelled
  refine ⟨a, as, by rw [spelled, String.toList_ofList], solid, ?_⟩
  have whole : ∀ d ∈ as ++ '.' :: c :: tail, isNamePart d = true := by
    simp only [List.forall_mem_append, List.forall_mem_cons]
    exact ⟨inside, rfl, isNamePart_of_isLetter here.letter, here.inside⟩
  have full : String.ofList (a :: (as ++ '.' :: c :: tail)) =
      aliasName ++ "." ++ String.ofList (c :: tail) := by
    rw [spelled, ← String.toList_inj]
    simp
  rw [lexeme_word first whole stop, full, ofWord_of_point (by simp), Kind.under,
    ColumnRef.under_of_bare here.hasAlias, ColumnRef.written_ofName, ColumnRef.written_ofName]

theorem writeOut_blank {c : Char} (blank : isBlank c = true) (cs : List Char) :
    writeOut aliasName (c :: cs) = c :: writeOut aliasName cs := by
  rw [writeOut, if_pos blank]

theorem writeOut_token {c : Char} {tail rest : List Char} (solid : isBlank c = false)
    (length : (lexeme c (tail ++ rest)).more = tail.length) :
    writeOut aliasName (c :: (tail ++ rest)) =
      (if (lexeme c (tail ++ rest)).kind.isBare then aliasName.toList ++ '.' :: c :: tail
        else c :: tail) ++ writeOut aliasName rest := by
  rw [writeOut, if_neg (by simp [solid])]
  simp only [length, List.take_left, List.drop_left]

/-- The text with the names written out goes on with letters where the text does and is the same up
to there. -/
theorem looksLike_writeOut (named : IsName aliasName) (cs : List Char) :
    LooksLike cs (writeOut aliasName cs) := by
  induction cs using textInduction with
  | nil =>
      rw [writeOut]
      exact .nil
  | blank c cs blank ih =>
      rw [writeOut_blank blank]
      exact .cons c ih
  | token c tail rest solid length ih =>
      rw [writeOut_token solid length]
      split
      next bare =>
        obtain ⟨⟨a, as, rfl, -, first, -⟩, -⟩ := named
        obtain ⟨_, _, -, here⟩ := exists_bareAt bare
        rw [String.toList_ofList]
        exact .letters here.letter first
      next => exact ih.append (c :: tail)

/-- The tokens of the text with the names written out are those of the text with the names under
the alias. -/
theorem scan_writeOut (named : IsName aliasName) (cs : List Char) (n m : Nat) :
    (scan n (writeOut aliasName cs)).map Token.kind =
      (scan m cs).map fun t => t.kind.under aliasName := by
  induction cs using textInduction generalizing n m with
  | nil =>
      rw [writeOut, scan, scan]
      rfl
  | blank c cs blank ih => rw [writeOut_blank blank, scan_blank blank, scan_blank blank, ih]
  | token c tail rest solid length ih =>
      have alike := looksLike_writeOut named rest
      rw [writeOut_token solid length, scan_token solid length, List.map_cons]
      cases bare : (lexeme c (tail ++ rest)).kind.isBare with
      | true =>
          obtain ⟨tail', rest', split, here⟩ := exists_bareAt bare
          have length' : tail.length = tail'.length := by rw [← length, split, here.read]
          obtain ⟨rfl, rfl⟩ := List.append_inj split length'
          have stop := alike.stop (fun _ => isNamePart_of_isLetter) here.stop
          obtain ⟨a, as, chars, solid', word⟩ := here.lexeme_alias named stop
          rw [if_pos rfl, chars, List.cons_append, List.cons_append,
            scan_token solid' (by rw [word]), List.map_cons, word, here.read, ih]
      | false =>
          obtain ⟨tail', rest', split, length', stays⟩ := exists_lexeme c (tail ++ rest)
          obtain ⟨rfl, rfl⟩ := List.append_inj split (length.symm.trans length')
          have same := stays _ alike
          rw [if_neg Bool.false_ne_true, List.cons_append,
            scan_token solid (by rw [same, length]), List.map_cons, same,
            Kind.under_of_not_isBare bare, ih]

end Token

/-! ## Marks -/

namespace Expr

theorem hasEmptyPart_of_pointless {cs : List Char} (pointless : '.' ∉ cs) :
    hasEmptyPart cs = false := by
  fun_induction hasEmptyPart cs with
  | case1 => rfl
  | case2 | case3 => simp at pointless
  | case4 c cs _ _ ih => exact ih fun later => pointless (List.mem_cons_of_mem c later)

theorem hasEmptyPart_append {cs ds : List Char} (full : hasEmptyPart cs = false)
    (pointless : '.' ∉ ds) (some : ds ≠ []) : hasEmptyPart (cs ++ '.' :: ds) = false := by
  fun_induction hasEmptyPart cs with
  | case1 =>
      obtain ⟨d, ds, rfl⟩ := List.exists_cons_of_ne_nil some
      rw [List.nil_append, hasEmptyPart]
      · exact hasEmptyPart_of_pointless pointless
      · simp
      · rintro _ - same
        simp_all
  | case2 | case3 => cases full
  | case4 c cs single double ih =>
      rw [List.cons_append, hasEmptyPart]
      · exact ih full
      · simp
      · intro rest point same
        cases cs with
        | nil => exact single point rfl
        | cons d cs =>
            cases same
            exact double _ point rfl

end Expr

namespace Token

/-- The alias can be read as the name of a column. -/
structure IsAlias (aliasName : String) : Prop where
  named : IsName aliasName
  full : Expr.hasEmptyPart aliasName.toList = false

theorem hasEmptyPart_under {aliasName name : String} (valid : IsAlias aliasName)
    (named : IsName name) :
    Expr.hasEmptyPart ((ColumnRef.ofName name).under aliasName).written.toList =
      Expr.hasEmptyPart name.toList := by
  cases qualified : (ColumnRef.ofName name).hasAlias with
  | true => rw [ColumnRef.under_of_hasAlias qualified, ColumnRef.written_ofName]
  | false =>
      have pointless : '.' ∉ name.toList := by
        rw [← ColumnRef.hasAlias_ofName_iff, qualified]
        exact Bool.false_ne_true
      obtain ⟨c, tail, spelled, -⟩ := named.spelled
      have some : name.toList ≠ [] := by simp [spelled]
      have full := Expr.hasEmptyPart_append valid.full pointless some
      rw [ColumnRef.under_of_bare qualified, ColumnRef.written_ofName, ColumnRef.written_ofName,
        Expr.hasEmptyPart_of_pointless pointless]
      simpa using full

theorem Kind.exists_name {kind : Kind} {c : ColumnRef}
    (mark : kind.mark? = some (.operand (.column c))) :
    ∃ name, kind = .identifier name ∧ Expr.hasEmptyPart name.toList = false ∧ c = .ofName name := by
  cases kind with
  | identifier name =>
      obtain ⟨full, same⟩ := Option.ite_none_left_eq_some.1 mark
      cases same
      exact ⟨name, rfl, by simpa using full, rfl⟩
  | number digits =>
      obtain ⟨n, -, same⟩ := Option.map_eq_some_iff.1 mark
      cases same
  | _ => cases mark

theorem isAlias_of_parse {aliasName : String}
    (h : Expr.parse aliasName = .ok (.column (.ofName aliasName))) : IsAlias aliasName := by
  obtain ⟨t, member, mark⟩ := Expr.exists_token_of_mem_inOrder h List.mem_cons_self
  obtain ⟨name, kind, full, same⟩ := Kind.exists_name mark
  have own : aliasName = name := by
    rw [← ColumnRef.written_ofName aliasName, same, ColumnRef.written_ofName]
  rw [own]
  exact ⟨isName_of_mem member kind, full⟩

theorem Kind.mark?_under {aliasName : String} (valid : IsAlias aliasName) {kind : Kind}
    (named : ∀ name, kind = .identifier name → IsName name) :
    (kind.under aliasName).mark? = kind.mark?.map (Mark.rename (ColumnRef.under aliasName)) := by
  cases kind with
  | identifier name =>
      rw [under, mark?, mark?, hasEmptyPart_under valid (named name rfl), ColumnRef.ofName_under]
      split <;> rfl
  | number digits =>
      -- The value of a number holds no column.
      change (Decimal.ofText? digits).map _ = ((Decimal.ofText? digits).map _).map _
      rw [Option.map_map]
      rfl
  | _ => rfl

theorem marks?_writeOut {aliasName : String} (valid : IsAlias aliasName) (s : String) :
    marks? (Expr.writeOut aliasName s) =
      (marks? s).map (List.map (Mark.rename (ColumnRef.under aliasName))) := by
  have kinds := scan_writeOut valid.named s.toList 1 1
  have each : ∀ t ∈ ofText s, (t.kind.under aliasName).mark? =
      t.kind.mark?.map (Mark.rename (ColumnRef.under aliasName)) := fun t member =>
    Kind.mark?_under valid fun name => isName_of_mem member
  rw [marks?, marks?, Outcome.map_mapM, ← Outcome.mapM_congr each, ofText, ofText, Expr.writeOut,
    String.toList_ofList]
  have marks := congrArg (List.mapM Kind.mark?) kinds
  rwa [List.mapM_map, List.mapM_map] at marks

end Token

/-- The text with the names written out is read as the expression with its columns under the alias,
or neither text is an expression. -/
theorem Expr.toOption_parse_writeOut {aliasName : String}
    (valid : parse aliasName = .ok (.column (.ofName aliasName))) (s : String) :
    (parse (writeOut aliasName s)).toOption =
      (parse s).toOption.map (rename (ColumnRef.under aliasName)) :=
  toOption_parse_rename _ (Token.marks?_writeOut (Token.isAlias_of_parse valid) s)

example : Expr.writeOut "s" "not(qty>2and s.x contains\"qty\")or 5qty" =
    "not(s.qty>2and s.x contains\"qty\")or 5s.qty" := by decide +kernel

end RowPipeline
