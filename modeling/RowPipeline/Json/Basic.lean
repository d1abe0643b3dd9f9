/-! # JSON values

Definitions and settings are written as JSON, and so are rows for other programs. Objects keep their
fields in order, repeated ones included, so that a reader of a definition can refuse them.
-/

namespace RowPipeline

inductive Json where
  | null
  | boolean (b : Bool)
  /-- A number, as it is written. -/
  | number (text : String)
  | string (s : String)
  | array (items : List Json)
  /-- Values by field name. -/
  | object (fields : List (String × Json))
  /-- Something that is spelled correctly and yet stands for no value: a text with half of a
  surrogate pair, a number out of all range, or values nested too deeply. -/
  | unreadable

namespace Json

mutual

/-- The value has nothing unreadable in it. -/
def isSound : Json → Bool
  | null | boolean _ | number _ | string _ => true
  | array items => soundItems items
  | object fields => soundFields fields
  | unreadable => false

def soundItems : List Json → Bool
  | [] => true
  | j :: js => j.isSound && soundItems js

def soundFields : List (String × Json) → Bool
  | [] => true
  | (_, j) :: fs => j.isSound && soundFields fs

end

end Json

end RowPipeline
