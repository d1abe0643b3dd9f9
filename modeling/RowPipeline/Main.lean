import RowPipeline.CommandLine

/-! # The program

Reads the files that the arguments call for, and prints the answer of the command line. A session of
the shell is answered line by line.
-/

namespace RowPipeline

def readFile (path : String) : IO (Except ReadError String) := do
  try
    let bytes ← IO.FS.readBinFile path
    match String.fromUTF8? bytes with
    | some text => return .ok text
    | none => return .error .notText
  catch
    | .noFileOrDirectory .. => return .error .notFound
    | e => return .error (.other (toString e))

def readerOf (files : List (String × Except ReadError String)) : FileReader := fun path =>
  (files.lookup path).getD (.error .notFound)

def readFiles (paths : List String) : IO FileReader := do
  let files ← paths.mapM fun path => return (path, ← readFile path)
  return readerOf files

/-- The definition that an invocation works on. -/
def CommandLine.Command.path? : CommandLine.Command → Option String
  | .validate path | .run path _ _ => some path
  | .eval .. | .shell | .version => none

/-- The files that a definition extracts from. -/
def Pipeline.locations (p : Pipeline) : List String :=
  (p.extract.getD []).flatMap Source.locations

/-- A session of the shell with the lines of the standard input, and its exit code. -/
partial def session (mode : EvalMode) (r : Row) : IO UInt32 := do
  let line ← (← IO.getStdin).getLine
  if line.isEmpty then
    IO.println "CTRL-D"
    return 0
  match Shell.typed? ((CommandLine.inputLines line).headD "") with
  | none => return 101
  | some line =>
    match Shell.handle mode r line with
    | (.print text, r) =>
      IO.println text
      session mode r
    | (.exit, _) =>
      IO.println "Goodbye!"
      return 0
    | (.nothing, r) => session mode r

/-- Prints an outcome and returns its exit code. -/
def finish (o : CommandLine.Outcome) : IO UInt32 := do
  IO.print o.stdout
  IO.eprint o.stderr
  return o.code.toUInt32

/-- Does what the arguments ask for. -/
def runProgram (args : List String) : IO UInt32 := do
  match CommandLine.parse? args with
  | none => finish (CommandLine.answer (readerOf []) args "")
  | some i =>
    let paths := i.config.toList ++ i.command.path?.toList
    let read ← readFiles paths
    let sources :=
      match i.command.path?.map (Pipeline.ofFile read) with
      | some (.ok p) => p.locations
      | _ => []
    let read ← readFiles (paths ++ sources)
    match i.command, CommandLine.configOf read i with
    | .shell, .ok config =>
      IO.println Shell.greeting
      session (Run.mode config none) .empty
    | _, _ => finish (CommandLine.answer read args "")

end RowPipeline

def main (args : List String) : IO UInt32 :=
  RowPipeline.runProgram args
