import RowPipeline.Run
import RowPipeline.Shell

/-! # The command line

What the arguments ask for, and what the program prints in answer. Options stand in front of the
command or behind it, depending on which of the two they belong to; two hyphens end the options.
-/

namespace RowPipeline.CommandLine

/-- What the program is asked to do. -/
inductive Command where
  | validate (path : String)
  | run (path : String) (wide noValidate : Bool)
  /-- Evaluate an expression on a row of the given cells. -/
  | eval (text : String) (cells : List (String × String))
  | shell
  | version
  deriving DecidableEq

structure Invocation where
  config : Option String := none
  command : Command
  deriving DecidableEq

/-! ## Cells of a row -/

def badCellMessage (s : String) : String :=
  "expected column=value, got '" ++ s ++ "'"

/-- The column and the raw value of an argument `column=value`. -/
def cell? (s : String) : Option (String × String) :=
  match Text.splitOnce? '=' s with
  | some (column, raw) =>
    let column := Text.trim column
    if column.isEmpty then none else some (column, raw)
  | none => none

def rowOf (cells : List (String × String)) : Row :=
  .ofList (cells.map fun (column, raw) => (column, Value.ofCell raw)) none

/-! ## Options -/

structure Flag where
  /-- Its name behind two hyphens. -/
  long : String
  /-- Its letter behind one hyphen. -/
  short : Option Char := none
  hasValue : Bool := false
  /-- It decides what to do, and nothing behind it is looked at. -/
  isFinal : Bool := false

inductive Piece where
  /-- An option with its value, which is empty for an option without one. -/
  | flag (long : String) (value : String)
  | word (s : String)
  /-- An argument behind two hyphens, which is no option and no command. -/
  | verbatim (s : String)
  deriving DecidableEq

/-- Options that are given in one argument. -/
inductive Cluster where
  /-- All of them are complete. -/
  | complete (pieces : List Piece)
  /-- All of them are complete, and the last one is final. -/
  | final (pieces : List Piece)
  /-- The last one waits for its value. -/
  | pending (pieces : List Piece) (long : String)

/-- The options of an argument with one more option in front. -/
def Cluster.after (p : Piece) : Cluster → Cluster
  | complete pieces => complete (p :: pieces)
  | final pieces => final (p :: pieces)
  | pending pieces long => pending (p :: pieces) long

/-- The options given by letters behind one hyphen. A letter whose option has a value takes the rest
of the argument, without an equals sign in front, for the value. -/
def letters? (flags : List Flag) : List Char → Option Cluster
  | [] => some (.complete [])
  | c :: cs =>
    match flags.find? fun f => f.short == some c with
    | none => none
    | some f =>
      if f.hasValue then
        match cs with
        | [] => some (.pending [] f.long)
        | '=' :: value => some (.complete [.flag f.long (String.ofList value)])
        | value => some (.complete [.flag f.long (String.ofList value)])
      else if f.isFinal then some (.final [.flag f.long ""])
      else (letters? flags cs).map fun cluster => cluster.after (.flag f.long "")

/-- The option given by name behind two hyphens; its value may follow behind an equals sign. -/
def named? (flags : List Flag) (cs : List Char) : Option Cluster :=
  let name := String.ofList (cs.takeWhile (· != '='))
  match flags.find? fun f => f.long == name with
  | none => none
  | some f =>
    match cs.dropWhile (· != '=') with
    | [] =>
      some (if f.hasValue then .pending [] f.long
        else if f.isFinal then .final [.flag f.long ""]
        else .complete [.flag f.long ""])
    | _ :: value =>
      if f.hasValue then some (.complete [.flag f.long (String.ofList value)]) else none

/-- The options of an argument; nothing if it is an argument of its own. -/
def options? (flags : List Flag) (arg : String) : Option (Option Cluster) :=
  match arg.toList with
  | '-' :: '-' :: cs => some (named? flags cs)
  | '-' :: c :: cs => some (letters? flags (c :: cs))
  | _ => none

/-- The argument looks like an option and is therefore no value of one. -/
def looksLikeOption (arg : String) : Bool :=
  match arg.toList with
  | '-' :: _ :: _ => true
  | _ => false

/-- The pieces of the arguments up to a final option, and the arguments behind the first word if
`stops` tells to stop there. -/
def pieces? (flags : List Flag) (stops : Bool) : List String → Option (List Piece × List String)
  | [] => some ([], [])
  | "--" :: rest => some (rest.map .verbatim, [])
  | arg :: rest =>
    match options? flags arg with
    | none =>
      if stops then some ([.word arg], rest)
      else (pieces? flags stops rest).map fun (ps, r) => (.word arg :: ps, r)
    | some none => none
    | some (some (.final ps)) => some (ps, [])
    | some (some (.complete ps)) => (pieces? flags stops rest).map fun (qs, r) => (ps ++ qs, r)
    | some (some (.pending ps long)) =>
      match rest with
      | [] => none
      | value :: rest =>
        if looksLikeOption value then none
        else (pieces? flags stops rest).map fun (qs, r) => (ps ++ .flag long value :: qs, r)

def Piece.isFlag : Piece → Bool
  | flag .. => true
  | word _ | verbatim _ => false

def valuesOf (long : String) (pieces : List Piece) : List String :=
  pieces.filterMap fun
    | .flag name value => if name = long then some value else none
    | .word _ | .verbatim _ => none

def words (pieces : List Piece) : List String :=
  pieces.filterMap fun
    | .word s | .verbatim s => some s
    | .flag .. => none

/-- An option without value is given; it may be given once. -/
def switch? (long : String) (pieces : List Piece) : Option Bool :=
  match valuesOf long pieces with
  | [] => some false
  | [_] => some true
  | _ => none

/-- The file that is given by an option; it may be given once. -/
def path? (long : String) (pieces : List Piece) : Option (Option String) :=
  match valuesOf long pieces with
  | [] => some none
  | [path] => if path.isEmpty then none else some (some path)
  | _ => none

/-- The one file among the arguments. -/
def onlyPath? (pieces : List Piece) : Option String :=
  match words pieces with
  | [path] => if path.isEmpty then none else some path
  | _ => none

/-! ## Commands -/

/-- The options in front of the command. -/
def generalFlags : List Flag :=
  [{ long := "config", short := some 'c', hasValue := true },
    { long := "verbose", short := some 'v' },
    { long := "version", short := some 'V', isFinal := true }]

def command? (name : String) (args : List String) : Option Command := do
  match name with
  | "validate" =>
    let (ps, _) ← pieces? [] false args
    return .validate (← onlyPath? ps)
  | "run" =>
    let (ps, _) ← pieces? [{ long := "wide" }, { long := "no-validate" }] false args
    return .run (← onlyPath? ps) (← switch? "wide" ps) (← switch? "no-validate" ps)
  | "eval" =>
    let (ps, _) ← pieces? [{ long := "row", short := some 'r', hasValue := true }] false args
    let cells ← (valuesOf "row" ps).mapM cell?
    match words ps with
    | [text] => return .eval text cells
    | _ => none
  | "shell" =>
    let (ps, _) ← pieces? [] false args
    if ps.isEmpty then return .shell else none
  | _ => none

/-- What the arguments ask for, if they can be understood. -/
def parse? (args : List String) : Option Invocation := do
  let (ps, rest) ← pieces? generalFlags true args
  let config ← path? "config" ps
  let _ ← switch? "verbose" ps
  if ← switch? "version" ps then return { command := .version }
  match ps.filter (!·.isFlag) with
  | [] => return { config, command := .shell }
  | [.word name] => return { config, command := ← command? name rest }
  | _ => none

/-! ## Answers -/

/-- What the program prints, and how it ends. -/
structure Outcome where
  /-- The exit code: 0 after success, 1 after an error, 2 if the arguments cannot be understood, 101
  if a session breaks off. -/
  code : Nat
  /-- What is printed as the result. -/
  stdout : String := ""
  /-- What is printed as the report of an error. -/
  stderr : String := ""
  deriving DecidableEq

/-- A text whose further lines are indented. -/
def indent (margin : String) (s : String) : String :=
  Text.join ("\n" ++ margin) (Text.splitEvery '\n' s)

/-- The causes of an error with their numbers, the first of which is `n`. -/
def numbered (n : Nat) : List String → String
  | [] => ""
  | cause :: rest =>
    "    " ++ toString n ++ ": " ++ indent "       " cause ++ "\n" ++ numbered (n + 1) rest

/-- The report of an error and the chain of its causes, outermost first. -/
def report (headline : String) (causes : List String) : String :=
  "Error: " ++ headline ++ "\n" ++
    match causes with
    | [] => ""
    | [cause] => "\nCaused by:\n    " ++ indent "    " cause ++ "\n"
    | causes => "\nCaused by:\n" ++ numbered 0 causes

def failure (headline : String) (causes : List String) : Outcome :=
  { code := 1, stderr := report headline causes }

/-- The error and what it wraps. -/
def evalChain (e : EvalError) : List String :=
  e.message :: e.cause?.toList.map ParseError.message

def checkChain (e : CheckError) : List String :=
  e.message :: e.cause?.toList.map ParseError.message

def runChain (e : RunError) : List String :=
  e.message ::
    match e with
    | .check cause => checkChain cause
    | .operation cause => cause.message :: evalChain cause.cause
    | .extract _ | .load _ | .config _ => []

def runValidate (read : FileReader) (path : String) : Outcome :=
  match Pipeline.ofFile read path with
  | .error e => failure (RunError.config e).message []
  | .ok p =>
    match Check.pipeline read p with
    | .error e => failure ("Pipeline '" ++ p.name ++ "' is invalid") (checkChain e)
    | .ok registry =>
      { code := 0, stdout := "Pipeline '" ++ p.name ++ "' is valid\n" ++ registry.describe ++ "\n" }

/-- The settings changed as the options of a run ask. -/
def runConfig (config : Config) (wide noValidate : Bool) : Config :=
  let config := if wide then { config with shape := .wide } else config
  if noValidate then { config with validateFirst := false } else config

def runPipeline (read : FileReader) (config : Config) (path : String) : Outcome :=
  match Pipeline.ofFile read path with
  | .error e => failure (RunError.config e).message []
  | .ok p =>
    match Run.into Console.load read config p {} with
    | (.error e, _) => failure ("Pipeline '" ++ p.name ++ "' failed") (runChain e)
    | (.ok _, console) => { code := 0, stdout := console.text }

def runEval (config : Config) (text : String) (cells : List (String × String)) : Outcome :=
  match Expr.evalText (Run.mode config none) (rowOf cells) text with
  | .ok v => { code := 0, stdout := v.display ++ "\n" }
  | .error e => failure ("Failed to evaluate '" ++ text ++ "'") (evalChain e)

/-- The lines of an input; a line break at the end starts no further line. -/
def inputLines (input : String) : List String :=
  let lines := Text.splitEvery '\n' input
  if lines.getLast? = some "" then lines.dropLast else lines

/-- A session of the shell with the given input. -/
def runShell (config : Config) (input : String) : Outcome :=
  let transcript := Shell.replay (Run.mode config none) .empty (inputLines input)
  { code := if transcript.broken then 101 else 0
    stdout := Text.join "\n" (Shell.greeting :: transcript.texts) ++ "\n"
    stderr := if transcript.broken then "error: a line cannot be corrected\n" else "" }

def versionText : String := "etlflow 0.1.0"

def runCommand (read : FileReader) (config : Config) (input : String) : Command → Outcome
  | .validate path => runValidate read path
  | .run path wide noValidate => runPipeline read (runConfig config wide noValidate) path
  | .eval text cells => runEval config text cells
  | .shell => runShell config input
  | .version => { code := 0, stdout := versionText ++ "\n" }

def configOf (read : FileReader) (i : Invocation) : Except Outcome Config :=
  match i.config with
  | none => .ok {}
  | some path =>
    (Config.ofFile read path).mapError fun e =>
      failure ("Failed to load " ++ path) [(RunError.config e).message]

/-- What the program does with its arguments and its input. -/
def answer (read : FileReader) (args : List String) (input : String) : Outcome :=
  match parse? args with
  | none => { code := 2, stderr := "error: the arguments cannot be understood\n" }
  | some i =>
    match configOf read i with
    | .error outcome => outcome
    | .ok config => runCommand read config input i.command

end RowPipeline.CommandLine
