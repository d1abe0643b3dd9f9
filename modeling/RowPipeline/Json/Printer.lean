import RowPipeline.Json.Basic
import RowPipeline.Text.Split

/-! # Writing JSON

Values are written without any blank space. In a text the quote, the backslash and the control
characters are escaped and nothing else.
-/

namespace RowPipeline.Json

def hexDigit (n : Nat) : Char :=
  Nat.digitChar (n % 16)

/-- A character as it stands inside quotes. -/
def escapeChar (c : Char) : List Char :=
  match c with
  | '"' => ['\\', '"']
  | '\\' => ['\\', '\\']
  | '\x08' => ['\\', 'b']
  | '\x0c' => ['\\', 'f']
  | '\n' => ['\\', 'n']
  | '\r' => ['\\', 'r']
  | '\t' => ['\\', 't']
  | c =>
    if c.toNat < 0x20 then ['\\', 'u', '0', '0', hexDigit (c.toNat / 16), hexDigit c.toNat]
    else [c]

def quote (s : String) : String :=
  "\"" ++ String.ofList (s.toList.flatMap escapeChar) ++ "\""

mutual

/-- The text of a value; what is unreadable is written as null. -/
def toText : Json → String
  | null => "null"
  | boolean b => if b then "true" else "false"
  | number text => text
  | string s => quote s
  | array items => "[" ++ Text.join "," (itemTexts items) ++ "]"
  | object fields => "\x7b" ++ Text.join "," (fieldTexts fields) ++ "\x7d"
  | unreadable => "null"

def itemTexts : List Json → List String
  | [] => []
  | j :: js => j.toText :: itemTexts js

def fieldTexts : List (String × Json) → List String
  | [] => []
  | (k, j) :: fs => (quote k ++ ":" ++ j.toText) :: fieldTexts fs

end

end RowPipeline.Json
