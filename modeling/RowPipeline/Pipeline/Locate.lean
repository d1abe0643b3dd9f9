import RowPipeline.Files
import RowPipeline.Pipeline.Json

/-! # Definitions in files

A definition in a file names its source files as seen from its own directory.
-/

namespace RowPipeline

namespace Path

/-- A path in reverse order without the slashes and single points at its end; a path of nothing but
a slash or a point is kept. -/
def trimEnd : List Char → List Char
  | '/' :: c :: cs => trimEnd (c :: cs)
  | '.' :: '/' :: cs => trimEnd ('/' :: cs)
  | cs => cs

def parent (path : String) : String :=
  String.ofList (trimEnd (path.toList.reverse.dropWhile (· != '/'))).reverse

def isAbsolute (path : String) : Bool :=
  path.toList.head? == some '/'

/-- A path as seen from a directory. -/
def join (directory path : String) : String :=
  if isAbsolute path || directory.isEmpty then path
  else if directory.toList.getLast? == some '/' then directory ++ path
  else directory ++ "/" ++ path

end Path

def Source.locate (directory : String) (s : Source) : Source :=
  { s with locations := s.locations.map (Path.join directory) }

def Pipeline.locate (directory : String) (p : Pipeline) : Pipeline :=
  { p with extract := p.extract.map fun sources => sources.map (Source.locate directory) }

end RowPipeline
