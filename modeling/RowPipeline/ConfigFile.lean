import RowPipeline.Config
import RowPipeline.Pipeline.Locate

/-! # Definitions and settings in files -/

namespace RowPipeline

/-- A definition or settings that cannot be used. -/
inductive ConfigError where
  | unreadable (path : String) (cause : ReadError)
  /-- The text describes no pipeline. -/
  | badDefinition
  /-- The text describes no settings. -/
  | badSettings
  deriving DecidableEq

def ConfigError.message : ConfigError → String
  | unreadable path cause => "cannot read " ++ path ++ ": " ++ cause.message
  | badDefinition => "invalid pipeline definition"
  | badSettings => "invalid settings"

def Config.ofFile (read : FileReader) (path : String) : Except ConfigError Config := do
  let text ← (read path).mapError (.unreadable path)
  match Config.ofText? text with
  | some config => return config
  | none => throw .badSettings

/-- The definition in a file, with its source files seen from the directory of the file. -/
def Pipeline.ofFile (read : FileReader) (path : String) : Except ConfigError Pipeline := do
  let text ← (read path).mapError (.unreadable path)
  match Pipeline.ofText? text with
  | some p => return p.locate (Path.parent path)
  | none => throw .badDefinition

end RowPipeline
