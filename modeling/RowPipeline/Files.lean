import RowPipeline.Text.Split

/-! # Files

Definitions, settings and sources are files. All that the program needs of files is a reader that
gives the text of a path or says why there is none. `FileTree` is such a reader over files in
memory, seen from a working directory; it resolves paths like an operating system.
-/

namespace RowPipeline

/-- Why a file has no text. -/
inductive ReadError where
  | notFound
  /-- The path leads through a file. -/
  | notDirectory
  | isDirectory
  | nameTooLong
  | nullInPath
  /-- The content is not UTF-8. -/
  | notText
  /-- Some other failure of the operating system. -/
  | other (message : String)
  deriving DecidableEq

def ReadError.message : ReadError → String
  | notFound => "No such file or directory (os error 2)"
  | notDirectory => "Not a directory (os error 20)"
  | isDirectory => "Is a directory (os error 21)"
  | nameTooLong => "File name too long (os error 36)"
  | nullInPath => "file name contained an unexpected NUL byte"
  | notText => "stream did not contain valid UTF-8"
  | other message => message

/-- Gives the text of a path. -/
abbrev FileReader := String → Except ReadError String

/-- The directories at the root of a system. -/
def rootDirectories : List String :=
  ["bin", "boot", "dev", "etc", "home", "lib", "media", "mnt", "opt", "proc", "root", "run", "sbin",
    "srv", "sys", "tmp", "usr", "var"]

/-- The place of the working directory, among the directories for temporary files. -/
def workingDirectory : List String := ["tmp", "working directory"]

/-- The place of the null device, a file that is always there and always empty. -/
def nullDevice : List String := ["dev", "null"]

/-- The place of the standard input, as far as it is a file. -/
def inputDevice : List String := ["dev", "stdin"]

/-- Files and directories in memory, by the names that lead to them from the root. -/
structure FileTree where
  /-- The files, the one written last in front. -/
  files : List (List String × ByteArray) := [(nullDevice, .empty)]
  /-- The directories other than the root. -/
  directories : List (List String) := workingDirectory :: rootDirectories.map ([·])

namespace FileTree

/-- The longest part of a path, in bytes. -/
def maxPart : Nat := 255

/-- The longest path, in bytes, with the null character at its end. -/
def maxPath : Nat := 4096

def parts (path : String) : List String :=
  Text.splitEvery '/' path

/-- Where a path starts from. -/
def start (path : String) : List String :=
  if path.toList.head? = some '/' then [] else workingDirectory

/-- The place that a part of a path leads to from a place. Two points lead to the directory around
it, which for the root is the root itself; one point or nothing stays. -/
def follow (place : List String) (part : String) : List String :=
  if part = ".." then place.dropLast
  else if part = "." ∨ part = "" then place
  else place ++ [part]

def content? (t : FileTree) (place : List String) : Option ByteArray :=
  (t.files.find? (·.1 == place)).map Prod.snd

def isDirectory (t : FileTree) (place : List String) : Bool :=
  place.isEmpty || t.directories.contains place

def isThere (t : FileTree) (place : List String) : Bool :=
  (t.content? place).isSome || t.isDirectory place

/-- Goes on along a path by a part, making the directory that it leads to if it is not there. -/
def enter : FileTree × List String → String → FileTree × List String
  | (t, place), part =>
    let next := follow place part
    (if t.isThere next then t else { t with directories := next :: t.directories }, next)

/-- Writes a file, and makes the directories on the way to it. -/
def write (t : FileTree) (path : String) (content : ByteArray) : FileTree :=
  let (t, place) := (parts path).dropLast.foldl enter (t, start path)
  { t with files := (follow place ((parts path).getLast?.getD ""), content) :: t.files }

/-- Lets the standard input be read as a file. -/
def withInput (t : FileTree) (input : String) : FileTree :=
  { t with files := (inputDevice, input.toUTF8) :: t.files }

/-- Follows the next part of a path to something that is there. -/
def step (t : FileTree) (place : List String) (part : String) :
    Except ReadError (List String) :=
  let next := follow place part
  if !t.isDirectory place then .error .notDirectory
  else if part.utf8ByteSize > maxPart then .error .nameTooLong
  else if t.isThere next then .ok next
  else .error .notFound

/-- The text of the file that a path leads to. -/
def read (t : FileTree) : FileReader := fun path => do
  if path.toList.contains '\x00' then throw .nullInPath
  if path.isEmpty then throw .notFound
  if path.utf8ByteSize ≥ maxPath then throw .nameTooLong
  match t.content? (← (parts path).foldlM t.step (start path)) with
  | some bytes =>
    match String.fromUTF8? bytes with
    | some text => return text
    | none => throw .notText
  | none => throw .isDirectory

end FileTree

end RowPipeline
