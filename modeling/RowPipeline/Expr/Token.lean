import RowPipeline.Expr.Operator
import RowPipeline.Text.Alphabetic
import RowPipeline.Text.Blank
import RowPipeline.Text.Case

/-! # Tokens of the expression language

`Token.tokenize` cuts an expression into tokens. A token starts at the first character that is not
blank; `lexeme` says what it is and how many characters it takes, so the characters of a token are
a stretch of the input, and only blank space lies between two stretches.
-/

namespace RowPipeline

namespace Token

open Text

inductive Kind where
  /-- An operator between operands; the minus sign also stands in front of one. -/
  | operator (op : BinaryOp)
  | not
  | openParen
  | closeParen
  | null
  | boolean (b : Bool)
  /-- A text in quotes, with the escapes taken out. -/
  | string (value : String)
  | number (digits : String)
  /-- The name of a column, with or without an alias. -/
  | identifier (name : String)
  /-- A character that starts no token. -/
  | stray (c : Char)
  /-- A quote without its partner; it takes the rest of the input. -/
  | unterminated
  | endOfInput
  deriving DecidableEq

/-- The words that are no column names, with what they stand for. -/
def keywords : List (String × Kind) := [
  ("TRUE", .boolean true),
  ("FALSE", .boolean false),
  ("AND", .operator (.logic .and)),
  ("OR", .operator (.logic .or)),
  ("NOT", .not),
  ("NULL", .null),
  ("CONTAINS", .operator (.text .contains))]

/-- The word is a keyword, in any case. -/
def isReserved (word : String) : Bool :=
  (keywords.map Prod.fst).contains (upper word)

/-- A character that starts a name. -/
def isLetter (c : Char) : Bool :=
  isAlphabetic c || c == '_'

/-- A character inside a name. -/
def isNamePart (c : Char) : Bool :=
  isLetter c || c.isDigit || c == '.'

/-- What a word stands for: a keyword in any case, or else a column. -/
def ofWord (word : String) : Kind :=
  (keywords.lookup (upper word)).getD (.identifier word)

/-- The text in front of the closing quote `q`, with the escapes taken out, and the number of
characters up to and including that quote. A backslash makes the next character part of the text. -/
def quoted? (q : Char) : List Char → Option (List Char × Nat)
  | [] => none
  | c :: cs =>
    if c = q then some ([], 1)
    else if c = '\\' then
      match cs with
      | [] => none
      | e :: rest => (quoted? q rest).map fun (text, n) => (e :: text, n + 2)
    else (quoted? q cs).map fun (text, n) => (c :: text, n + 1)

/-- The part of a number after its first digit: more digits, and a point with the digits behind it
if there is at least one. -/
def numberTail (cs : List Char) : List Char :=
  let whole := cs.takeWhile Char.isDigit
  match cs.drop whole.length with
  | '.' :: rest =>
    let places := rest.takeWhile Char.isDigit
    if places.isEmpty then whole else whole ++ '.' :: places
  | _ => whole

/-- A token at the front of the input. -/
structure Lexeme where
  kind : Kind
  /-- The token as it is quoted in messages. -/
  text : List Char
  /-- The number of characters it takes after the first. -/
  more : Nat

/-- A text in quotes, after the opening quote `q`. -/
def quotedLexeme (q : Char) (cs : List Char) : Lexeme :=
  match quoted? q cs with
  | some (value, n) => ⟨.string (String.ofList value), q :: value ++ [q], n⟩
  | none => ⟨.unterminated, [q], cs.length⟩

/-- A word or a number that starts with `c`, or a stray character. -/
def wordLexeme (c : Char) (cs : List Char) : Lexeme :=
  if isLetter c then
    let tail := cs.takeWhile isNamePart
    ⟨ofWord (String.ofList (c :: tail)), c :: tail, tail.length⟩
  else if c.isDigit then
    let tail := numberTail cs
    ⟨.number (String.ofList (c :: tail)), c :: tail, tail.length⟩
  else ⟨.stray c, [c], 0⟩

/-- The token that starts with the character `c`, followed by `cs`. -/
def lexeme (c : Char) (cs : List Char) : Lexeme :=
  match c, cs with
  | '(', _ => ⟨.openParen, [c], 0⟩
  | ')', _ => ⟨.closeParen, [c], 0⟩
  | '+', _ => ⟨.operator (.arith .add), [c], 0⟩
  | '-', _ => ⟨.operator (.arith .subtract), [c], 0⟩
  | '*', _ => ⟨.operator (.arith .multiply), [c], 0⟩
  | '/', _ => ⟨.operator (.arith .divide), [c], 0⟩
  | '=', '=' :: _ => ⟨.operator (.text .equal), [c, '='], 1⟩
  | '=', _ => ⟨.operator (.text .equal), [c], 0⟩
  | '!', '=' :: _ => ⟨.operator (.text .notEqual), [c, '='], 1⟩
  | '!', _ => ⟨.not, [c], 0⟩
  | '<', '=' :: _ => ⟨.operator (.order .lessEqual), [c, '='], 1⟩
  | '<', '>' :: _ => ⟨.operator (.text .notEqual), [c, '>'], 1⟩
  | '<', _ => ⟨.operator (.order .less), [c], 0⟩
  | '>', '=' :: _ => ⟨.operator (.order .greaterEqual), [c, '='], 1⟩
  | '>', _ => ⟨.operator (.order .greater), [c], 0⟩
  | '&', '&' :: _ => ⟨.operator (.logic .and), [c, '&'], 1⟩
  | '|', '|' :: _ => ⟨.operator (.logic .or), [c, '|'], 1⟩
  | '"', _ => quotedLexeme c cs
  | '\'', _ => quotedLexeme c cs
  | _, _ => wordLexeme c cs

end Token

/-- A token with its place in the expression. -/
structure Token where
  kind : Token.Kind
  /-- The token as it is quoted in messages. -/
  text : String
  /-- The place of its first character, counted from 1. -/
  column : Nat
  deriving DecidableEq

namespace Token

def describe (t : Token) : String :=
  "'" ++ t.text ++ "' at column " ++ toString t.column

/-- The text that a token carries beyond what it is. -/
def value? (t : Token) : Option String :=
  match t.kind with
  | .string value => some value
  | .number digits => some digits
  | .identifier name => some name
  | .stray c => some (String.singleton c)
  | .unterminated => some "unterminated string literal"
  | _ => none

/-- The input holds no token here. -/
def isIllegal (t : Token) : Bool :=
  match t.kind with
  | .stray _ | .unterminated => true
  | _ => false

/-- The tokens of an input whose first character has the given place. -/
def scan (column : Nat) : List Char → List Token
  | [] => []
  | c :: cs =>
    if Text.isBlank c then scan (column + 1) cs
    else
      let l := lexeme c cs
      ⟨l.kind, String.ofList l.text, column⟩ :: scan (column + 1 + l.more) (cs.drop l.more)
termination_by cs => cs.length
decreasing_by
  all_goals simp only [List.length_drop, List.length_cons]
  all_goals omega

/-- The tokens of an expression, without the end of the input. -/
def ofText (s : String) : List Token :=
  scan 1 s.toList

/-- The tokens of an expression; the last one is the end of the input, at the place of the last
character. -/
def tokenize (s : String) : List Token :=
  ofText s ++ [⟨.endOfInput, "", s.toList.length⟩]

end Token

end RowPipeline
