import Assembler.Operand

/-!
# Data elements

A data element is a reserved area or a list of values of one width.
-/

namespace Assembler

/-- The kinds of data lists. -/
inductive ListKind where
  | byte
  | short
  | word
  deriving DecidableEq, Repr

/-- The name of a kind of list. -/
def ListKind.name : ListKind → String
  | .byte => "byte"
  | .short => "short"
  | .word => "word"

/-- The number of bytes of one value. -/
def ListKind.width : ListKind → Nat
  | .byte => 1
  | .short => 2
  | .word => 4

/-- A piece of the data segment: a reserved area, or a list of values. -/
inductive Element where
  | block (size : Operand)
  | list (kind : ListKind) (values : List Operand)
  deriving DecidableEq, Repr

namespace Element

/-- The name of the kind of an element. -/
def kindName : Element → String
  | .block _ => "block"
  | .list kind _ => kind.name

/-- An element in assembly text, unless a number in it has too many digits. -/
def text? : Element → Option Text
  | .block size => size.text?.map fun size => ".block " ++ size
  | .list kind values =>
    (Text.joined? ", " (values.map Operand.text?)).map fun values =>
      "." ++ kind.name ++ " " ++ values

end Element

end Assembler
