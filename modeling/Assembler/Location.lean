import Assembler.Text.Numeral

/-!
# Segments and locations

A program has two segments, and a statement is located by its segment and its index in it.
-/

namespace Assembler

/-- The two ordered parts of a program. -/
inductive Segment where
  | data
  | instructions
  deriving DecidableEq, Repr

/-- The name of a segment in documents and images. -/
def Segment.name : Segment → String
  | .data => "data"
  | .instructions => "instructions"

/-- A segment as it is written in assembly text. -/
def Segment.text (s : Segment) : String := "." ++ s.name

/-- The place of a statement. -/
structure Location where
  segment : Segment
  index : Int
  deriving DecidableEq, Repr

/-- A location in a message, such as `.data[3]`. -/
def Location.text (l : Location) : String :=
  l.segment.text ++ "[" ++ Text.decimal l.index ++ "]"

/-- The place of a statement that may have none. -/
def Location.textOf : Option Location → String
  | some location => location.text
  | none => "None"

end Assembler
