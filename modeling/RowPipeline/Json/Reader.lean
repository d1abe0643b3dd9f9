import RowPipeline.Json.Basic
import RowPipeline.Json.Number

/-! # Reading JSON

A text is cut into tokens, and the tokens are taken one after the other by a reader that remembers
the lists and objects that are still open.
-/

namespace RowPipeline.Json

inductive Token where
  | openArray
  | closeArray
  | openObject
  | closeObject
  | colon
  | comma
  /-- A text, if its surrogates come in pairs. -/
  | text (s : Option String)
  /-- Any other value without parts. -/
  | scalar (j : Json)

def hexValue? (c : Char) : Option Nat :=
  if c.isDigit then some (c.toNat - '0'.toNat)
  else if 'a' ≤ c ∧ c ≤ 'f' then some (c.toNat - 'a'.toNat + 10)
  else if 'A' ≤ c ∧ c ≤ 'F' then some (c.toNat - 'A'.toNat + 10)
  else none

def hex4? (a b c d : Char) : Option Nat := do
  let a ← hexValue? a
  let b ← hexValue? b
  let c ← hexValue? c
  let d ← hexValue? d
  return ((a * 16 + b) * 16 + c) * 16 + d

/-- What a character after a backslash stands for. -/
def unescape? : Char → Option Char
  | '"' => some '"'
  | '\\' => some '\\'
  | '/' => some '/'
  | 'b' => some '\x08'
  | 'f' => some '\x0c'
  | 'n' => some '\n'
  | 'r' => some '\r'
  | 't' => some '\t'
  | _ => none

/-- The code points of a text in front of its closing quote, surrogates included, and the number of
characters up to and including the quote. -/
def codePoints? : List Char → Option (List Nat × Nat)
  | [] => none
  | '"' :: _ => some ([], 1)
  | '\\' :: 'u' :: a :: b :: c :: d :: cs =>
    match hex4? a b c d, codePoints? cs with
    | some n, some (ns, k) => some (n :: ns, k + 6)
    | _, _ => none
  | '\\' :: e :: cs =>
    match unescape? e, codePoints? cs with
    | some c, some (ns, k) => some (c.toNat :: ns, k + 2)
    | _, _ => none
  | c :: cs =>
    if c.toNat < 0x20 ∨ c = '\\' then none
    else (codePoints? cs).map fun (ns, k) => (c.toNat :: ns, k + 1)

/-- The number is the first half of a surrogate pair. -/
def isHighSurrogate (n : Nat) : Bool :=
  0xd800 ≤ n && n ≤ 0xdbff

/-- The number is the second half of a surrogate pair. -/
def isLowSurrogate (n : Nat) : Bool :=
  0xdc00 ≤ n && n ≤ 0xdfff

/-- The characters of code points, each surrogate pair put together; none if a half is alone. -/
def joinSurrogates? : List Nat → Option (List Char)
  | [] => some []
  | h :: l :: ns =>
    if isHighSurrogate h then
      if isLowSurrogate l then
        (joinSurrogates? ns).map
          (Char.ofNat (0x10000 + (h - 0xd800) * 0x400 + (l - 0xdc00)) :: ·)
      else none
    else if isLowSurrogate h then none
    else (joinSurrogates? (l :: ns)).map (Char.ofNat h :: ·)
  | [n] => if isHighSurrogate n || isLowSurrogate n then none else some [Char.ofNat n]

/-- White space between tokens. -/
def isSpace (c : Char) : Bool :=
  c == ' ' || c == '\t' || c == '\n' || c == '\r'

/-- The token at the front, which starts with `c`, and the number of characters after `c` that it
takes. -/
def token? (c : Char) (cs : List Char) : Option (Token × Nat) :=
  match c with
  | '[' => some (.openArray, 0)
  | ']' => some (.closeArray, 0)
  | '\x7b' => some (.openObject, 0)
  | '\x7d' => some (.closeObject, 0)
  | ':' => some (.colon, 0)
  | ',' => some (.comma, 0)
  | '"' => (codePoints? cs).map fun (ns, k) => (.text ((joinSurrogates? ns).map String.ofList), k)
  | 'n' => if ['u', 'l', 'l'].isPrefixOf cs then some (.scalar .null, 3) else none
  | 't' => if ['r', 'u', 'e'].isPrefixOf cs then some (.scalar (.boolean true), 3) else none
  | 'f' => if ['a', 'l', 's', 'e'].isPrefixOf cs then some (.scalar (.boolean false), 4) else none
  | _ => (Number.length? (c :: cs)).map fun k =>
    let digits := (c :: cs).take k
    (.scalar (if Number.inRange digits then .number (String.ofList digits) else .unreadable), k - 1)

def tokens? : List Char → Option (List Token)
  | [] => some []
  | c :: cs =>
    if isSpace c then tokens? cs
    else
      match token? c cs with
      | some (t, k) => (tokens? (cs.drop k)).map (t :: ·)
      | none => none
termination_by cs => cs.length
decreasing_by
  all_goals simp only [List.length_drop, List.length_cons]
  all_goals omega

/-- A list or an object that is still open, with its parts so far in reverse order. -/
inductive Frame where
  | array (items : List Json)
  /-- An object with a field whose value is on its way; a field name of an object that is not sound
  could not be read. -/
  | object (sound : Bool) (fields : List (String × Json)) (name : String)

/-- Where the reader stands between two tokens. -/
inductive Reader where
  /-- A value has to follow, or the end of a list that has just begun. -/
  | value (mayClose : Bool) (frames : List Frame)
  /-- A field name has to follow, or the end of an object that has just begun. -/
  | name (mayClose sound : Bool) (fields : List (String × Json)) (frames : List Frame)
  | colon (sound : Bool) (fields : List (String × Json)) (name : String) (frames : List Frame)
  | after (j : Json) (frames : List Frame)

/-- Values may be nested in fewer than this many lists and objects. -/
def depthLimit : Nat := 128

/-- A list or object inside `frames`, which is unreadable if it is nested too deeply. -/
def nested (frames : List Frame) (sound : Bool) (j : Json) : Json :=
  if sound && frames.length + 1 < depthLimit then j else .unreadable

/-- Takes a token; the result is missing where the token cannot stand. -/
def Reader.step? : Reader → Token → Option Reader
  | .value _ frames, .text (some s) => some (.after (.string s) frames)
  | .value _ frames, .text none => some (.after .unreadable frames)
  | .value _ frames, .scalar j => some (.after j frames)
  | .value _ frames, .openArray => some (.value true (.array [] :: frames))
  | .value _ frames, .openObject => some (.name true true [] frames)
  | .value true (.array [] :: frames), .closeArray =>
    some (.after (nested frames true (.array [])) frames)
  | .name _ sound fields frames, .text (some s) => some (.colon sound fields s frames)
  | .name _ _ fields frames, .text none => some (.colon false fields "" frames)
  | .name true _ _ frames, .closeObject => some (.after (nested frames true (.object [])) frames)
  | .colon sound fields key frames, .colon =>
    some (.value false (.object sound fields key :: frames))
  | .after j (.array items :: frames), .comma => some (.value false (.array (j :: items) :: frames))
  | .after j (.array items :: frames), .closeArray =>
    some (.after (nested frames true (.array (j :: items).reverse)) frames)
  | .after j (.object sound fields key :: frames), .comma =>
    some (.name false sound ((key, j) :: fields) frames)
  | .after j (.object sound fields key :: frames), .closeObject =>
    some (.after (nested frames sound (.object ((key, j) :: fields).reverse)) frames)
  | _, _ => none

def Reader.finish? : Reader → Option Json
  | .after j [] => some j
  | _ => none

def ofText? (s : String) : Option Json := do
  let tokens ← tokens? s.toList
  let reader ← tokens.foldlM Reader.step? (.value false [])
  reader.finish?

end RowPipeline.Json
