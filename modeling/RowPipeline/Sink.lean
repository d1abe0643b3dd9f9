import RowPipeline.Pipeline.Basic
import RowPipeline.Table

/-! # Sinks

A sink takes the rows of a run. `Memory` collects them; `Console` writes them as tables to an output
that may have room for so many bytes only.
-/

namespace RowPipeline

/-- A sink that did not take the rows. -/
structure LoadError where
  target : String
  cause : String
  deriving DecidableEq

def LoadError.message (e : LoadError) : String :=
  "cannot write to " ++ e.target ++ ": " ++ e.cause

/-- How a sink in one state takes rows and gets into another. -/
abbrev Sink (σ : Type) := LoadTarget → List Row → σ → Except LoadError Unit × σ

structure Memory where
  target : Option LoadTarget := none
  rows : List Row := []

def Memory.load : Sink Memory := fun target rows m =>
  (.ok (), { target := some target, rows := m.rows ++ rows })

structure Console where
  /-- The number of bytes that there is room for, if that is limited. -/
  capacity : Option Nat := none
  text : String := ""
  /-- There was no room for some rows; nothing is written from then on. -/
  isFull : Bool := false

namespace Console

def hasRoom (c : Console) (s : String) : Bool :=
  !c.isFull && match c.capacity with
    | some n => c.text.utf8ByteSize + s.utf8ByteSize ≤ n
    | none => true

/-- Writes a line with the target and the table of the rows. -/
def load : Sink Console := fun target rows c =>
  let output := target.kind ++ " " ++ target.name ++ "\n" ++ Table.render rows
  if c.hasRoom output then (.ok (), { c with text := c.text ++ output })
  else (.error ⟨target.name, "sink full"⟩, { c with isFull := true })

end Console

end RowPipeline
