import RowPipeline.Expr.Eval
import RowPipeline.Text.Grapheme

/-! # The expression shell

A session evaluates expressions on a working row. Commands set columns of the row, show it, clear it
or leave the shell; every other line is an expression.
-/

namespace RowPipeline.Shell

inductive Action where
  | print (text : String)
  | exit
  | nothing
  deriving DecidableEq

def greeting : String :=
  "etl expression shell. Type 'help' for assistance or 'exit' to quit."

def helpText : String :=
  Text.join "\n" [
    "Enter an expression to evaluate it against the working row.",
    "",
    "Operators (lowest to highest precedence):",
    "  OR, AND, NOT",
    "  = == != <> < > <= >= CONTAINS",
    "  + -",
    "  * /",
    "Literals: 12.5, \"text\", TRUE, FALSE, NULL",
    "",
    "Commands:",
    "  :set <column> <value>         - Set a column on the working row",
    "  :row                          - Show the working row",
    "  :clear                        - Clear the working row",
    "  help                          - Display this help message",
    "  exit                          - Exit the shell"]

def showColumn (column : String) (v : Value) : String :=
  column ++ " = " ++ v.display

def showRow (r : Row) : String :=
  if r.entries.isEmpty then "(empty row)"
  else Text.join "\n" (r.entries.map fun (c, v) => showColumn c v)

/-- The first word of a text without blank space at its ends and what follows it, if there is
something. -/
def splitWord? (cs : List Char) : Option (List Char × List Char) :=
  match cs.dropWhile fun c => !Text.isBlank c with
  | [] => none
  | _ :: rest => some (cs.takeWhile fun c => !Text.isBlank c, rest)

/-- The column and the value in the text after the command that sets a column. -/
def assignment? (text : String) : Option (String × Value) :=
  (splitWord? (Text.trim text).toList).map fun (column, raw) =>
    (String.ofList column, Value.ofCell (Text.trim (String.ofList raw)))

def setWord : String := ":set"

/-- The text after the command that sets a column, if the line starts with it. -/
def setArgument? (line : String) : Option String :=
  if setWord.toList.isPrefixOf line.toList then
    some (String.ofList (line.toList.drop setWord.toList.length))
  else none

def runSet (r : Row) (text : String) : Action × Row :=
  match assignment? text with
  | some (column, v) => (.print (showColumn column v), r.set column v)
  | none => (.print "Usage: :set <column> <value>", r)

def runExpr (mode : EvalMode) (r : Row) (text : String) : Action :=
  match Expr.evalText mode r text with
  | .ok v => .print v.display
  | .error e => .print ("Error: " ++ e.message)

/-- What comes of a line, and the working row afterwards. -/
def handle (mode : EvalMode) (r : Row) (line : String) : Action × Row :=
  let line := Text.trim line
  let word := Text.lower line
  if line.isEmpty then (.nothing, r)
  else if word = "exit" ∨ word = "quit" then (.exit, r)
  else if word = "help" then (.print helpText, r)
  else if word = ":row" then (.print (showRow r), r)
  else if word = ":clear" then (.print "Row cleared", .empty)
  else match setArgument? line with
    | some text => runSet r text
    | none => (runExpr mode r line, r)

/-- The working row after a list of lines. -/
def rowAfter (mode : EvalMode) (r : Row) (lines : List String) : Row :=
  lines.foldl (fun r line => (handle mode r line).2) r

/-! ## Corrections

A line may have backspaces in it, each of which takes back what a reader takes for one character.
-/

/-- A line as far as it has been typed. -/
structure Typed where
  /-- What is left of the characters, the last one first. -/
  kept : List Char := []
  /-- How many bytes each backspace to come takes back, nearest first. -/
  sizes : List Nat := []

def byteCount (cs : List Char) : Nat :=
  (String.ofList cs).utf8ByteSize

/-- Drops characters that have so many bytes together; there is no result if the last of them would
be cut. -/
def dropBytes? : Nat → List Char → Option (List Char)
  | 0, cs => some cs
  | _ + 1, [] => none
  | n + 1, c :: cs => if c.utf8Size ≤ n + 1 then dropBytes? (n + 1 - c.utf8Size) cs else none

/-- Takes the next cluster of a line. The size of a cluster is kept in one byte, so that a backspace
takes back less than it should of a cluster of 256 bytes and more. -/
def Typed.next? (t : Typed) (cluster : List Char) : Option Typed :=
  if cluster = ['\x08'] then
    match t.sizes with
    | [] => some t
    | size :: sizes => (dropBytes? size t.kept).map fun kept => { kept, sizes }
  else
    some ⟨cluster.reverse ++ t.kept, byteCount cluster % 256 :: t.sizes⟩

/-- The line that is left when its backspaces have been followed. -/
def typed? (line : String) : Option String :=
  ((Text.graphemes line.toList).foldlM Typed.next? {}).map fun t => String.ofList t.kept.reverse

/-! ## Sessions -/

/-- What a session prints in answer to its lines. -/
structure Transcript where
  texts : List String := []
  /-- The session has broken off at a line that cannot be corrected. -/
  broken : Bool := false
  deriving DecidableEq

def Transcript.after (text : String) (t : Transcript) : Transcript :=
  { t with texts := text :: t.texts }

/-- The transcript of a session, up to the line that ends it or to the end of the input. -/
def replay (mode : EvalMode) (r : Row) : List String → Transcript
  | [] => { texts := ["CTRL-D"] }
  | line :: rest =>
    match typed? line with
    | none => { broken := true }
    | some line =>
      match handle mode r line with
      | (.print text, r) => (replay mode r rest).after text
      | (.exit, _) => { texts := ["Goodbye!"] }
      | (.nothing, r) => replay mode r rest

end RowPipeline.Shell
