import Assembler.Element
import Assembler.Form
import Assembler.Location

/-!
# Programs

A program has a data segment and an instruction segment, both lists of statements that may carry a
label.
-/

namespace Assembler

/-- A data element or an instruction with its label, if it has one. -/
structure Statement (α : Type) where
  body : α
  label : Option Text := none
  deriving DecidableEq, Repr

/-- A program as it is handed to the assembler. -/
structure Program where
  data : List (Statement Element) := []
  instructions : List (Statement Instruction) := []
  deriving DecidableEq, Repr

/-- The labels of a program, data first. -/
def Program.labels (p : Program) : List Text :=
  p.data.filterMap Statement.label ++ p.instructions.filterMap Statement.label

end Assembler
